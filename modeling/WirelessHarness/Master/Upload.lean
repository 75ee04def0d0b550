import WirelessHarness.Master.SendFrame
import WirelessHarness.Protocol.FrameLayer

/-!
# Uploading conduction data

A conduction-data frame is not passed on: the master decodes it into static
fields and packs these again, in a packet of its own.  The frame survives
exactly when everything that is not taken over from it happens to be equal.
-/

namespace WirelessHarness

open ByteOrder CheckedRead Runs

/-! ## Decoding and packing a payload again -/

/-- What is serialized after `deserialize` is the payload itself if it has its
two length bytes and its data either have the announced length or are those of
an earlier frame. -/
theorem Slave2Backend.CondDataMsg.reserialize_iff {payload : Bytes}
    {self m : CondDataMsg} (h : CondDataMsg.deserialize payload self = .ok m) :
    m.serialize [] = payload ↔
      ∃ l₀ l₁ data, payload = l₀ :: l₁ :: data ∧
        (data.length = (word16 l₀ l₁).toNat ∨ data = self.conductionData) := by
  match payload with
  | [] =>
      cases h
      simp [serialize, bytes16]
  | [_] =>
      cases h
      simp [serialize, bytes16]
  | l₀ :: l₁ :: data =>
      by_cases hlen : data.length = (word16 l₀ l₁).toNat
      · have hdec : CondDataMsg.decode (l₀ :: l₁ :: data) =
            some ⟨word16 l₀ l₁, data⟩ := if_pos hlen
        rw [CondDataMsg.deserialize_of_decode self hdec] at h
        cases h
        refine iff_of_true ?_ ⟨l₀, l₁, data, rfl, .inl hlen⟩
        simp only [serialize, bytes16_word16]
        rfl
      · have hread : CondDataMsg.deserialize (l₀ :: l₁ :: data) self =
            .ok { self with conductionLength := word16 l₀ l₁ } := by
          have hshort : ¬ data.length + 1 + 1 < 2 := by omega
          have hne : ¬ data.length + 1 + 1 =
              2 + (word16 l₀ l₁).toNat := by omega
          simp [deserialize, deserializeUint16, readAt, hshort, hne]
        rw [hread] at h
        cases h
        simp only [serialize, bytes16_word16, List.nil_append,
          List.cons_append, List.cons.injEq, true_and]
        constructor
        · rintro rfl
          exact ⟨l₀, l₁, _, ⟨rfl, rfl, rfl⟩, .inr rfl⟩
        · rintro ⟨_, _, _, ⟨rfl, rfl, rfl⟩, hlen' | rfl⟩
          · exact absurd hlen' hlen
          · rfl

namespace SendFrame

/-! ## Conduction-data frames -/

/-- The packet of a `Slave2Backend` frame with the id of `CondDataMsg`. -/
def condDataPacket? (raw_data : Bytes) : Option Slave2BackendPacket :=
  match wireFrame raw_data with
  | some (packet_id, packet_data) =>
      if packet_id = PacketType.slave2Backend.toUInt8 then
        (wireSlave2Backend packet_data).filter fun packet =>
          packet.message_id = Slave2BackendMessageID.condDataMsg.toUInt8
      else none
  | none => none

/-- Everything the master does not take over from the frame is equal: the
fragment fields are those of an unfragmented frame, the sender is the slave
asked, the status is what the new packet holds, and the payload is the one that
is serialized from the static fields. -/
def Transparent (id : UInt32) (device_status : UInt16)
    (self : Slave2Backend.CondDataMsg) (raw_data : Bytes) : Prop :=
  raw_data[3]? = some 0 ∧ raw_data[4]? = some 0 ∧
    ∃ packet, condDataPacket? raw_data = some packet ∧
      packet.slave_id = id ∧ packet.device_status = device_status ∧
      ∃ l₀ l₁ data, packet.payload = l₀ :: l₁ :: data ∧
        (data.length = (word16 l₀ l₁).toNat ∨ data = self.conductionData)

/-- The frames that reach `CondDataMsg::deserialize`, byte by byte. -/
theorem exists_of_select_condData {raw_data payload : Bytes}
    (h : FrameParser.select .master 0 raw_data =
      some (.slave2Backend .condDataMsg, payload)) :
    ∃ packet fragment_seq more_fragments,
      condDataPacket? raw_data = some packet ∧
        packet.message_id =
          Slave2BackendMessageID.condDataMsg.toUInt8 ∧
        packet.payload = payload ∧
        raw_data = FramePacker.packData .slave2Backend packet.serialize
          fragment_seq more_fragments := by
  obtain ⟨⟨packet_id, packet_data⟩, hwire, hselect⟩ :=
    Option.bind_eq_some_iff.mp h
  rcases FrameParser.selectPacket_master hselect with
    ⟨_, _, -, -, -, hcls, -⟩ | ⟨_, _, -, -, -, hcls, -⟩ |
      ⟨packet, id, rfl, hpacket, hid, hcls, rfl⟩
  · cases hcls
  · cases hcls
  · cases hcls
    have hmessage := Slave2BackendMessageID.ofUInt8?_eq_some_iff.mp hid
    obtain ⟨fragment_seq, more_fragments, hraw⟩ :=
      exists_packData_of_wireFrame hwire
    refine ⟨packet, fragment_seq, more_fragments, ?_, hmessage, rfl, ?_⟩
    · simp [condDataPacket?, hwire, hpacket, Option.filter, hmessage]
    · rw [Slave2BackendPacket.serialize_of_wire hpacket]
      exact hraw

/-- The master's own packet is the received frame if nothing it does not take
over differs. -/
theorem packSlave2Backend_eq_iff {raw_data payload : Bytes}
    {self m : Slave2Backend.CondDataMsg}
    (hsel : FrameParser.select .master 0 raw_data =
      some (.slave2Backend .condDataMsg, payload))
    (hdes : Slave2Backend.CondDataMsg.deserialize payload self = .ok m)
    (id : UInt32) (device_status : UInt16) :
    FramePacker.packSlave2Backend
        (PacketPacker.slave2BackendPack .condDataMsg m id device_status) =
        raw_data ↔
      Transparent id device_status self raw_data := by
  obtain ⟨packet, fragment_seq, more_fragments, hpacket, hmessage, rfl, hraw⟩ :=
    exists_of_select_condData hsel
  have hseq : raw_data[3]? = some fragment_seq := by rw [hraw]; rfl
  have hmore : raw_data[4]? = some more_fragments := by rw [hraw]; rfl
  have hself := Slave2Backend.CondDataMsg.reserialize_iff hdes
  unfold Transparent
  simp only [hseq, hmore, hpacket, Option.some.injEq, exists_eq_left',
    ← hself]
  rw [hraw, FramePacker.packSlave2Backend, packData_inj,
    Slave2BackendPacket.serialize_inj]
  obtain ⟨message_id, slave_id, status, payload⟩ := packet
  obtain rfl : message_id = _ := hmessage
  constructor
  · rintro ⟨heq, rfl, rfl⟩
    cases heq
    exact ⟨rfl, rfl, rfl, rfl, rfl⟩
  · rintro ⟨rfl, rfl, rfl, rfl, hserialize⟩
    cases hserialize
    exact ⟨rfl, rfl, rfl⟩

/-! ## Uploads -/

/-- What a reading call keeps. -/
structure ReadInv (id : UInt32) (s : SendFrame) : Prop where
  call : s.call = .readCond id
  expected : s.expected_rsp_msg_id = (ProcessorCall.readCond id).expected
  deviceID : s.deviceID = id

theorem readInv_begin (s : SendFrame) (id : UInt32) :
    ReadInv id (s.begin (.readCond id)) :=
  ⟨rfl, rfl, rfl⟩

theorem readInv_step (id : UInt32) (s : SendFrame) (e : Event)
    (t : SendFrame) (hs : ReadInv id s) (h : step s e = some t) :
    ReadInv id t := by
  have hstep := stepped_of_step h
  constructor
  case call => rw [hstep.call_eq, hs.call]
  case expected => rw [hstep.expected_eq, hs.expected]
  case deviceID => rw [hstep.deviceID_eq, hs.deviceID]

/-- The frame a successful reading call uploads is the one it received exactly
if nothing that it does not take over differs. -/
theorem upload_eq_iff (s₀ : SendFrame) (id : UInt32) {es : List Event}
    {s s' : SendFrame} {device_status : UInt16}
    (hrun : run step (s₀.begin (.readCond id)) es = some s)
    (h : step s (.drain device_status) = some s')
    (hret : s'.phase = .returned true) :
    s'.upload_frame = s.rx_data_queue ↔
      Transparent id device_status s.statics.s2bCondData s.rx_data_queue := by
  have hinv := run_invariant (readInv_step id) (readInv_begin s₀ id) hrun
  simp only [step, Option.ite_none_right_eq_some] at h
  obtain ⟨-, h⟩ := h
  rcases drain_cases s device_status with
    ⟨cls, payload, fields, ⟨hsel, hdes, hparsed⟩, heq⟩ |
      ⟨-, statics, upload_frame, -, heq⟩
  · cases heq.symm.trans h
    have hcls := Message.cls_of_rspParsed
      (by rw [Message.cls_ofFields]; exact class_ne_master2Slave hsel)
      (hinv.expected ▸ hparsed)
    rw [Message.cls_ofFields] at hcls
    obtain rfl : cls = .slave2Backend .condDataMsg := hcls
    obtain ⟨m, hm, hstore⟩ := bind_eq_ok.mp hdes
    have hmsg : m = fields := by
      cases hstore
      rfl
    subst hmsg
    rw [← packSlave2Backend_eq_iff hsel hm id device_status]
    simp only [hinv.call, hinv.deviceID]
    rfl
  · cases heq.symm.trans h
    exact absurd hret (phase_retry_ne _)

/-- One byte of conduction data. -/
def condDataFrame (slave_id : UInt32) (device_status : UInt16) : Bytes :=
  FramePacker.packSlave2Backend
    (PacketPacker.slave2BackendPack .condDataMsg ⟨1, [0xAA]⟩ slave_id
      device_status)

theorem upload_eq_ownFrame :
    ∃ s s', run step (idleCall.begin (.readCond 7))
        (answered (condDataFrame 7 0)) = some s ∧
      step s (.drain 0) = some s' ∧ s'.phase = .returned true ∧
        s'.upload_frame = s.rx_data_queue := by
  refine ⟨_, _, rfl, rfl, rfl, ?_⟩
  apply (@upload_eq_iff idleCall 7 (answered (condDataFrame 7 0)) _ _ 0
    rfl rfl rfl).mpr
  exact ⟨rfl, rfl, _, rfl, rfl, rfl, 1, 0, [0xAA], rfl, .inl rfl⟩

/-- The data of slave 8 are uploaded as those of slave 7, with whatever status
the new packet holds. -/
theorem upload_ne_otherSlave :
    ∃ s, run step (idleCall.begin (.readCond 7))
        (answered (condDataFrame 8 1)) = some s ∧
      ∀ device_status, ∃ s', step s (.drain device_status) = some s' ∧
        s'.phase = .returned true ∧ s'.upload_frame ≠ s.rx_data_queue := by
  refine ⟨_, rfl, fun device_status => ⟨_, rfl, rfl, ?_⟩⟩
  intro h
  have hslave : some (7 : UInt8) = some 8 := congrArg (fun l => l[8]?) h
  cases hslave

end SendFrame

end WirelessHarness
