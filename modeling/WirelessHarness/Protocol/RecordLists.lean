import WirelessHarness.Protocol.RoundTrip

/-!
# Messages with a list of records

The four list messages check their size only up to a whole number of records,
and their record loop stops at the count byte or at the end of the data,
whichever comes first.  What they decode is what was sent exactly when the
count byte is the number of records that follow it.
-/

namespace WirelessHarness

open ByteOrder CheckedRead

/-! ## A class of list messages -/

/-- A message class whose payload is a header of `headerSize` bytes, the last
of them the count, and records of `width` bytes. -/
structure ListClass where
  Record : Type
  Msg : Type
  headerSize : ℕ
  width : ℕ
  record : Bytes → ℕ → Except OutOfRange Record
  recordSerialize : Record → Bytes
  slaveNum : Msg → UInt8
  slaves : Msg → List Record
  serialize : Msg → Bytes → Bytes
  deserialize : Bytes → Msg → Except OutOfRange Msg

namespace ListClass

variable (c : ListClass)

/-- The size test with which `deserialize` returns early. -/
def Rejects (payload : Bytes) : Prop :=
  payload.length < c.headerSize ∨
    (payload.length - c.headerSize) % c.width ≠ 0

/-- As many records as the count says, and nothing of the payload lost. -/
def DecodesExactly (payload : Bytes) (self : c.Msg) : Prop :=
  ∃ m, c.deserialize payload self = .ok m ∧
    (c.slaves m).length = (c.slaveNum m).toNat ∧ c.serialize m [] = payload

/-- The count byte is the number of records behind it. -/
def CountFits (payload : Bytes) : Prop :=
  ∃ count, payload[c.headerSize - 1]? = some count ∧
    payload.length = c.headerSize + c.width * count.toNat

/-- What the four classes have in common. -/
structure Lawful : Prop where
  headerSize_pos : 0 < c.headerSize
  width_pos : 0 < c.width
  rejects : ∀ payload self, c.Rejects payload →
    c.deserialize payload self = .ok self
  record_read : ∀ done bytes rest, bytes.length = c.width →
    ∃ slave, c.record (done ++ (bytes ++ rest)) done.length = .ok slave ∧
      c.recordSerialize slave = bytes
  deserialize_eq : ∀ header records self count slaves,
    header.length = c.headerSize → records.length % c.width = 0 →
    header[c.headerSize - 1]? = some count →
    deserializeRecords c.record c.width (header ++ records) count.toNat
      c.headerSize = .ok slaves →
    ∃ m, c.deserialize (header ++ records) self = .ok m ∧
      c.slaveNum m = count ∧ c.slaves m = slaves ∧
      c.serialize m [] = header ++ slaves.flatMap c.recordSerialize

variable {c}

/-- The record loop reads whole records up to the smaller of the count and
their number. -/
theorem Lawful.deserializeRecords_eq (h : c.Lawful) (n k : ℕ)
    (done records : Bytes) (hlen : records.length = k * c.width) :
    ∃ slaves, deserializeRecords c.record c.width (done ++ records) n
        done.length = .ok slaves ∧
      slaves.length = min n k ∧
      slaves.flatMap c.recordSerialize =
        records.take (min n k * c.width) := by
  induction n generalizing k done records with
  | zero => exact ⟨[], rfl, by simp, by simp⟩
  | succ n ih =>
      cases k with
      | zero =>
          have hfull : (done ++ records).length ≤
              done.length + (c.width - 1) := by
            rw [List.length_append, hlen]
            omega
          refine ⟨[], ?_, by simp, by simp⟩
          rw [deserializeRecords, if_pos hfull]
          rfl
      | succ k =>
          -- The next record and what follows it.
          have hsplit : records =
              records.take c.width ++ records.drop c.width :=
            (List.take_append_drop _ _).symm
          have hwidth : (records.take c.width).length = c.width := by
            rw [List.length_take, hlen, Nat.succ_mul]
            omega
          have hrest : (records.drop c.width).length = k * c.width := by
            rw [List.length_drop, hlen, Nat.succ_mul]
            omega
          generalize records.take c.width = bytes at hsplit hwidth
          generalize records.drop c.width = rest at hsplit hrest
          subst hsplit
          obtain ⟨slave, hread, hslave⟩ := h.record_read done bytes rest hwidth
          obtain ⟨slaves, hloop, hnum, hbytes⟩ :=
            ih k (done ++ bytes) rest hrest
          rw [List.append_assoc, List.length_append, hwidth] at hloop
          have hfits : ¬ (done ++ (bytes ++ rest)).length ≤
              done.length + (c.width - 1) := by
            have := h.width_pos
            simp only [List.length_append, hwidth]
            omega
          refine ⟨slave :: slaves, ?_, ?_, ?_⟩
          · rw [deserializeRecords, if_neg hfits, hread, ok_bind, hloop]
            rfl
          · rw [List.length_cons, hnum]
            omega
          · have hmin : min (n + 1) (k + 1) * c.width =
                bytes.length + min n k * c.width := by
              rw [Nat.add_min_add_right, Nat.succ_mul, hwidth, Nat.add_comm]
            rw [List.flatMap_cons, hslave, hbytes, hmin,
              List.take_length_add_append]

/-- What `deserialize` makes of a payload it does not reject. -/
theorem Lawful.deserialize_spec (h : c.Lawful) {payload : Bytes}
    (hpayload : ¬ c.Rejects payload) (self : c.Msg) :
    ∃ m count k, c.deserialize payload self = .ok m ∧
      payload[c.headerSize - 1]? = some count ∧ c.slaveNum m = count ∧
      payload.length = c.headerSize + k * c.width ∧
      (c.slaves m).length = min count.toNat k ∧
      c.serialize m [] = payload.take
        (c.headerSize + min count.toNat k * c.width) := by
  rw [Rejects, not_or, not_not, not_lt] at hpayload
  obtain ⟨hheader, hrecords⟩ := hpayload
  have hsplit : payload =
      payload.take c.headerSize ++ payload.drop c.headerSize :=
    (List.take_append_drop _ _).symm
  have hsize : (payload.take c.headerSize).length = c.headerSize := by
    rw [List.length_take]
    omega
  have hrest : (payload.drop c.headerSize).length % c.width = 0 := by
    rw [List.length_drop]
    exact hrecords
  generalize payload.take c.headerSize = header at hsplit hsize
  generalize payload.drop c.headerSize = records at hsplit hrest
  subst hsplit
  obtain ⟨k, hk⟩ := Nat.dvd_of_mod_eq_zero hrest
  rw [Nat.mul_comm] at hk
  have hpos := h.headerSize_pos
  obtain ⟨count, hcount⟩ : ∃ count, header[c.headerSize - 1]? = some count :=
    ⟨_, List.getElem?_eq_getElem (by omega)⟩
  obtain ⟨slaves, hloop, hnum, hbytes⟩ :=
    h.deserializeRecords_eq count.toNat k header records hk
  rw [hsize] at hloop
  obtain ⟨m, hm, hslaveNum, hslaves, hserialize⟩ :=
    h.deserialize_eq header records self count slaves hsize hrest hcount hloop
  refine ⟨m, count, k, hm, ?_, hslaveNum, ?_, ?_, ?_⟩
  · rw [List.getElem?_append_left (by omega)]
    exact hcount
  · rw [List.length_append, hsize, hk]
  · rw [hslaves, hnum]
  · rw [hserialize, hbytes, ← hsize, List.take_length_add_append]

/-- A payload that is not rejected is decoded exactly when its count byte is
the number of its records. -/
theorem Lawful.decodesExactly_iff (h : c.Lawful) {payload : Bytes}
    (hpayload : ¬ c.Rejects payload) (self : c.Msg) :
    c.DecodesExactly payload self ↔ c.CountFits payload := by
  obtain ⟨m, count, k, hm, hcount, hslaveNum, hlen, hnum, hserialize⟩ :=
    h.deserialize_spec hpayload self
  have hwidth := h.width_pos
  have hlength : (c.serialize m []).length =
      min (c.headerSize + min count.toNat k * c.width) payload.length := by
    rw [hserialize, List.length_take]
  constructor
  · rintro ⟨m', hm', hnum', hpay⟩
    cases hm.symm.trans hm'
    rw [hnum, hslaveNum] at hnum'
    rw [hpay, hlen, hnum'] at hlength
    refine ⟨count, hcount, ?_⟩
    have hle : k * c.width ≤ count.toNat * c.width := by
      omega
    have hk : k ≤ count.toNat := Nat.le_of_mul_le_mul_right hle hwidth
    have hk' : k = count.toNat := by
      omega
    rw [hlen, hk', Nat.mul_comm]
  · rintro ⟨count', hcount', hlen'⟩
    cases hcount.symm.trans hcount'
    have hmul : k * c.width = count.toNat * c.width := by
      rw [Nat.mul_comm count.toNat]
      omega
    have hk : k = count.toNat := Nat.eq_of_mul_eq_mul_right hwidth hmul
    refine ⟨m, hm, ?_, ?_⟩
    · rw [hnum, hslaveNum, hk, Nat.min_self]
    · rw [hserialize, hk, Nat.min_self, List.take_of_length_le]
      omega

theorem not_rejects {header records : Bytes}
    (hsize : header.length = c.headerSize)
    (hrecords : records.length % c.width = 0) :
    ¬ c.Rejects (header ++ records) := by
  rw [Rejects, List.length_append, hsize, Nat.add_sub_cancel_left]
  rintro (hshort | hodd)
  · omega
  · exact hodd hrecords

end ListClass

/-! ## The four classes -/

theorem SlaveConfig.read_record (done bytes rest : Bytes)
    (hlen : bytes.length = 9) :
    ∃ slave, SlaveConfig.deserialize (done ++ (bytes ++ rest)) done.length =
        .ok slave ∧ slave.serialize = bytes := by
  match bytes, hlen with
  | [i₀, i₁, i₂, i₃, c, r, m, s₀, s₁], _ =>
      refine ⟨_, (SlaveConfig.deserialize_of_decode rfl).1, ?_⟩
      simp only [serialize, bytes32_word32, bytes16_word16]
      rfl

theorem SlaveResetConfig.read_record (done bytes rest : Bytes)
    (hlen : bytes.length = 7) :
    ∃ slave, SlaveResetConfig.deserialize (done ++ (bytes ++ rest))
        done.length = .ok slave ∧ slave.serialize = bytes := by
  match bytes, hlen with
  | [i₀, i₁, i₂, i₃, lock, s₀, s₁], _ =>
      refine ⟨_, (SlaveResetConfig.deserialize_of_decode rfl).1, ?_⟩
      simp only [serialize, bytes32_word32, bytes16_word16]
      rfl

inductive ListMessageID
  | backend2MasterSlaveCfg
  | backend2MasterRst
  | master2BackendSlaveCfg
  | master2BackendRst
deriving DecidableEq, Repr

namespace ListMessageID

/-- The class of each list message. -/
def listClass : ListMessageID → ListClass
  | backend2MasterSlaveCfg =>
    { Record := SlaveConfig
      Msg := Backend2Master.SlaveCfgMsg
      headerSize := 1
      width := 9
      record := SlaveConfig.deserialize
      recordSerialize := SlaveConfig.serialize
      slaveNum := Backend2Master.SlaveCfgMsg.slaveNum
      slaves := Backend2Master.SlaveCfgMsg.slaves
      serialize := Backend2Master.SlaveCfgMsg.serialize
      deserialize := Backend2Master.SlaveCfgMsg.deserialize }
  | backend2MasterRst =>
    { Record := SlaveResetConfig
      Msg := Backend2Master.RstMsg
      headerSize := 1
      width := 7
      record := SlaveResetConfig.deserialize
      recordSerialize := SlaveResetConfig.serialize
      slaveNum := Backend2Master.RstMsg.slaveNum
      slaves := Backend2Master.RstMsg.slaves
      serialize := Backend2Master.RstMsg.serialize
      deserialize := Backend2Master.RstMsg.deserialize }
  | master2BackendSlaveCfg =>
    { Record := SlaveConfig
      Msg := Master2Backend.SlaveCfgMsg
      headerSize := 2
      width := 9
      record := SlaveConfig.deserialize
      recordSerialize := SlaveConfig.serialize
      slaveNum := Master2Backend.SlaveCfgMsg.slaveNum
      slaves := Master2Backend.SlaveCfgMsg.slaves
      serialize := Master2Backend.SlaveCfgMsg.serialize
      deserialize := Master2Backend.SlaveCfgMsg.deserialize }
  | master2BackendRst =>
    { Record := SlaveResetConfig
      Msg := Master2Backend.RstMsg
      headerSize := 2
      width := 7
      record := SlaveResetConfig.deserialize
      recordSerialize := SlaveResetConfig.serialize
      slaveNum := Master2Backend.RstMsg.slaveNum
      slaves := Master2Backend.RstMsg.slaves
      serialize := Master2Backend.RstMsg.serialize
      deserialize := Master2Backend.RstMsg.deserialize }

theorem lawful_backend2MasterSlaveCfg :
    backend2MasterSlaveCfg.listClass.Lawful where
  headerSize_pos := by decide
  width_pos := by decide
  rejects _ _ h := if_pos h
  record_read := SlaveConfig.read_record
  deserialize_eq header records self count slaves hsize hrecords hcount
      hloop := by
    match header, hsize with
    | [_], hsize =>
        cases hcount
        have hsize := backend2MasterSlaveCfg.listClass.not_rejects hsize hrecords
        exact ⟨⟨count, slaves⟩,
          Backend2Master.SlaveCfgMsg.deserialize_of_records self hsize hloop,
          rfl, rfl, rfl⟩

theorem lawful_backend2MasterRst :
    backend2MasterRst.listClass.Lawful where
  headerSize_pos := by decide
  width_pos := by decide
  rejects _ _ h := if_pos h
  record_read := SlaveResetConfig.read_record
  deserialize_eq header records self count slaves hsize hrecords hcount
      hloop := by
    match header, hsize with
    | [_], hsize =>
        cases hcount
        have hsize := backend2MasterRst.listClass.not_rejects hsize hrecords
        exact ⟨⟨count, slaves⟩,
          Backend2Master.RstMsg.deserialize_of_records self hsize hloop,
          rfl, rfl, rfl⟩

theorem lawful_master2BackendSlaveCfg :
    master2BackendSlaveCfg.listClass.Lawful where
  headerSize_pos := by decide
  width_pos := by decide
  rejects _ _ h := if_pos h
  record_read := SlaveConfig.read_record
  deserialize_eq header records self count slaves hsize hrecords hcount
      hloop := by
    match header, hsize with
    | [status, _], hsize =>
        cases hcount
        have hsize := master2BackendSlaveCfg.listClass.not_rejects hsize hrecords
        exact ⟨⟨status, count, slaves⟩,
          Master2Backend.SlaveCfgMsg.deserialize_of_records self hsize hloop,
          rfl, rfl, rfl⟩

theorem lawful_master2BackendRst :
    master2BackendRst.listClass.Lawful where
  headerSize_pos := by decide
  width_pos := by decide
  rejects _ _ h := if_pos h
  record_read := SlaveResetConfig.read_record
  deserialize_eq header records self count slaves hsize hrecords hcount
      hloop := by
    match header, hsize with
    | [status, _], hsize =>
        cases hcount
        have hsize := master2BackendRst.listClass.not_rejects hsize hrecords
        exact ⟨⟨status, count, slaves⟩,
          Master2Backend.RstMsg.deserialize_of_records self hsize hloop,
          rfl, rfl, rfl⟩

theorem lawful (id : ListMessageID) : id.listClass.Lawful := by
  cases id with
  | backend2MasterSlaveCfg => exact lawful_backend2MasterSlaveCfg
  | backend2MasterRst => exact lawful_backend2MasterRst
  | master2BackendSlaveCfg => exact lawful_master2BackendSlaveCfg
  | master2BackendRst => exact lawful_master2BackendRst

/-- A message whose count is the length of its list survives the way through
its bytes, whatever the static fields held. -/
theorem deserialize_serialize (id : ListMessageID) (m self : id.listClass.Msg)
    (h : (id.listClass.slaveNum m).toNat = (id.listClass.slaves m).length) :
    id.listClass.deserialize (id.listClass.serialize m []) self = .ok m := by
  cases id with
  | backend2MasterSlaveCfg =>
      exact Backend2Master.SlaveCfgMsg.deserialize_of_decode self
        (@decode_serializePayload (.backend2Master .slaveCfgMsg) m (by simp) h)
  | backend2MasterRst =>
      exact Backend2Master.RstMsg.deserialize_of_decode self
        (@decode_serializePayload (.backend2Master .rstMsg) m (by simp) h)
  | master2BackendSlaveCfg =>
      exact Master2Backend.SlaveCfgMsg.deserialize_of_decode self
        (@decode_serializePayload (.master2Backend .slaveCfgMsg) m (by simp) h)
  | master2BackendRst =>
      exact Master2Backend.RstMsg.deserialize_of_decode self
        (@decode_serializePayload (.master2Backend .rstMsg) m (by simp) h)

/-- List messages survive the way through their bytes, and a payload that is
not rejected is decoded exactly when its count byte is the number of its
records. -/
theorem decodes_iff_countFits (id : ListMessageID) :
    (∀ m self,
      (id.listClass.slaveNum m).toNat = (id.listClass.slaves m).length →
        id.listClass.deserialize (id.listClass.serialize m []) self =
          .ok m) ∧
      ∀ payload self, ¬ id.listClass.Rejects payload →
        (id.listClass.DecodesExactly payload self ↔
          id.listClass.CountFits payload) :=
  ⟨id.deserialize_serialize,
    fun _ self hpayload => id.lawful.decodesExactly_iff hpayload self⟩

/-- A device list that announces two records and carries none. -/
def missingRecords : Bytes := [2]

/-- The list stays empty next to a count of two. -/
theorem not_decodesExactly_missingRecords :
    ¬ ∀ id : ListMessageID,
      (∀ m self,
        (id.listClass.slaveNum m).toNat = (id.listClass.slaves m).length →
          id.listClass.deserialize (id.listClass.serialize m []) self =
            .ok m) ∧
        ∀ payload self, ¬ id.listClass.Rejects payload →
          id.listClass.DecodesExactly payload self := by
  intro h
  have hpayload : ¬ backend2MasterSlaveCfg.listClass.Rejects
      missingRecords := by
    rintro (hshort | hodd)
    · exact absurd hshort (by decide)
    · exact absurd hodd (by decide)
  obtain ⟨m, hm, hnum, -⟩ :=
    (h backend2MasterSlaveCfg).2 missingRecords {} hpayload
  cases hm
  cases hnum

end ListMessageID

end WirelessHarness
