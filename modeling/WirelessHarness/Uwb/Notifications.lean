import WirelessHarness.Uwb.CommandStatus

/-!
# Notifications

`__notify_process` reads the payload of a notification without looking at its
size first.  The length of a data notification is compared with the size, but
the answer only decides what is logged: the bytes behind the length are pushed
all the same.
-/

namespace WirelessHarness

open ByteOrder CheckedRead UciCtrlPacket

namespace UciNTF

def parseCoreDeviceStatusNtf (payload : Bytes) : Except OutOfRange UInt8 :=
  readAt payload 0

def parseCxAppDataTxNtf (payload : Bytes) : Except OutOfRange UInt8 :=
  readAt payload 0

def parseCxAppDataRxNtf (payload : Bytes) : Except OutOfRange Bool := do
  let data_len ← deserializeUint16 payload 0
  return decide (data_len.toNat = sizeSub payload.length 2)

end UciNTF

namespace UWB

variable (beyond : OutOfRange → UInt8)

/-- `__notify_process` with checked reads.  What the two data parsers return
is only logged. -/
def notifyChecked (d : UWB) : Except OutOfRange UWB :=
  if d.recv_packet.gid = GID0x00 then
    if d.recv_packet.oid = CORE_DEVICE_STATUS_NTF then do
      let sta ← UciNTF.parseCoreDeviceStatusNtf d.rx_payload
      return if sta = DEVICE_STATE_READY ∧ d.uwbs_sta = .boot then
        { d with uwbs_sta := .ready }
      else d
    else .ok d
  else if d.recv_packet.gid = GID0x03 then
    if d.recv_packet.oid = CX_APP_DATA_TX then do
      let _ ← UciNTF.parseCxAppDataTxNtf d.rx_payload
      return d
    else if d.recv_packet.oid = CX_APP_DATA_RX then do
      let _ ← UciNTF.parseCxAppDataRxNtf d.rx_payload
      return if d.rx_payload.length < 2 then d
      else { d with
        transparent_data := d.transparent_data ++ d.rx_payload.drop 2 }
    else .ok d
  else .ok d

theorem uncheckedRead_of_ok {v : Bytes} {i : ℕ} {x : UInt8}
    (h : readAt v i = .ok x) : uncheckedRead beyond v i = x := by
  rw [uncheckedRead, h]

/-- As long as the reads stay inside the payload, what a read outside it would
find does not matter. -/
theorem notifyProcess_of_checked {d d' : UWB} (h : d.notifyChecked = .ok d') :
    d.notifyProcess beyond = d' := by
  unfold notifyChecked at h
  unfold notifyProcess
  split at h
  next hgid =>
    rw [if_pos hgid]
    split at h
    next hoid =>
      rw [if_pos hoid]
      obtain ⟨sta, hsta, hd⟩ := bind_eq_ok.mp h
      rw [uncheckedRead_of_ok beyond hsta]
      exact Except.ok.inj hd
    next hoid =>
      rw [if_neg hoid]
      exact Except.ok.inj h
  next hgid =>
    rw [if_neg hgid]
    split at h
    next hdata =>
      rw [if_pos hdata]
      split at h
      next hoid =>
        have hrx : d.recv_packet.oid ≠ CX_APP_DATA_RX := by
          rw [hoid]
          decide
        rw [if_neg hrx]
        obtain ⟨status, -, hd⟩ := bind_eq_ok.mp h
        exact Except.ok.inj hd
      · split at h
        next hoid =>
          rw [if_pos hoid]
          obtain ⟨matches?, -, hd⟩ := bind_eq_ok.mp h
          exact Except.ok.inj hd
        next hoid =>
          rw [if_neg hoid]
          exact Except.ok.inj h
    next hdata =>
      rw [if_neg hdata]
      exact Except.ok.inj h

/-- The loop of `__listening_ntf` with checked reads. -/
def ntfDrainChecked : UWB → (rx_data_queue : Bytes) → Except OutOfRange UWB
  | d, [] => .ok { d with rx_data_queue := [] }
  | d, data :: rx_data_queue =>
      let r := d.parseData data
      if r.1 ∧ r.2.recv_packet.mt = MT_NTF then
        r.2.notifyChecked >>= fun d => ntfDrainChecked d rx_data_queue
      else ntfDrainChecked r.2 rx_data_queue

/-- `__listening_ntf`, when the interface delivers these bytes. -/
def listeningNtf (d : UWB) (bytes : Bytes) : Except OutOfRange UWB :=
  ntfDrainChecked d (d.rx_data_queue ++ bytes)

/-! ## The notifications of a byte sequence -/

/-- The driver at each call of `__notify_process`. -/
def notified : UWB → (rx_data_queue : Bytes) → List UWB
  | _, [] => []
  | d, data :: rx_data_queue =>
      let r := d.parseData data
      if r.1 ∧ r.2.recv_packet.mt = MT_NTF then
        r.2 :: notified (r.2.notifyProcess beyond) rx_data_queue
      else notified r.2 rx_data_queue

/-- The loop stays in range exactly when each of its calls does, and then
computes what the unchecked loop does. -/
theorem inRange_ntfDrainChecked_iff (bytes : Bytes) (d : UWB) :
    (InRange (ntfDrainChecked d bytes) ↔
        ∀ n ∈ notified beyond d bytes, InRange n.notifyChecked) ∧
      ∀ d', ntfDrainChecked d bytes = .ok d' →
        ntfDrain beyond d bytes = d' := by
  induction bytes generalizing d with
  | nil =>
      refine ⟨by simp [ntfDrainChecked, notified], ?_⟩
      intro d' h
      exact Except.ok.inj h
  | cons data bytes ih =>
      simp only [ntfDrainChecked, notified, ntfDrain]
      split
      · rcases hcheck : (d.parseData data).2.notifyChecked with e | d₁
        · simp [hcheck]
        · have hnotify := notifyProcess_of_checked beyond hcheck
          rw [hnotify]
          simpa [hcheck] using ih d₁
      · exact ih _

end UWB

/-- A notification as `flow_parse` put it together. -/
structure Notification where
  gid : UInt8
  oid : UInt8
  payload : Bytes
deriving DecidableEq, Repr

/-- The notifications that `flow_parse` reports over the bytes. -/
def completedNtfs : UciCtrlPacket → (rx_payload bytes : Bytes) →
    List Notification
  | _, _, [] => []
  | p, rx_payload, data :: bytes =>
      let r := p.flowParse data rx_payload
      if r.1 ∧ r.2.1.mt = MT_NTF then
        ⟨r.2.1.gid, r.2.1.oid, r.2.2⟩ :: completedNtfs r.2.1 r.2.2 bytes
      else completedNtfs r.2.1 r.2.2 bytes

/-- The two length bytes are there and say how many bytes follow. -/
def LengthMatches : Bytes → Prop
  | lo :: hi :: rest => (word16 lo hi).toNat = rest.length
  | _ => False

namespace Notification

def IsData (n : Notification) : Prop :=
  n.gid = GID0x03 ∧ n.oid = CX_APP_DATA_RX

/-- The payload has the bytes the driver looks at, and the length of a data
notification is right unless no byte follows it. -/
structure WellFormed (n : Notification) : Prop where
  status : n.gid = GID0x00 → n.oid = CORE_DEVICE_STATUS_NTF → n.payload ≠ []
  transmitted : n.gid = GID0x03 → n.oid = CX_APP_DATA_TX → n.payload ≠ []
  data : n.IsData → LengthMatches n.payload ∨ n.payload.length = 2

end Notification

namespace UWB

def notification (d : UWB) : Notification :=
  ⟨d.recv_packet.gid, d.recv_packet.oid, d.rx_payload⟩

variable (beyond : OutOfRange → UInt8)

theorem map_notification_notified (bytes : Bytes) (d : UWB) :
    (notified beyond d bytes).map notification =
      completedNtfs d.recv_packet d.rx_payload bytes := by
  induction bytes generalizing d with
  | nil => rfl
  | cons data bytes ih =>
      simp only [notified, completedNtfs]
      split
      next hdone =>
        refine Eq.trans ?_ (if_pos hdone).symm
        rw [List.map_cons, ih, recv_packet_notifyProcess,
          rx_payload_notifyProcess]
        rfl
      next hdone =>
        refine Eq.trans ?_ (if_neg hdone).symm
        rw [ih]
        rfl

/-! ## Handling them safely -/

/-- `__listening_ntf` indexes the payload inside its size only, and a data
notification with a missing or wrong length changes neither the received data
nor the state of the driver. -/
structure HandlesNotifications (d : UWB) (bytes : Bytes) : Prop where
  inRange : InRange (d.listeningNtf bytes)
  unchanged : ∀ n ∈ notified beyond d (d.rx_data_queue ++ bytes),
    n.notification.IsData → ¬ LengthMatches n.rx_payload →
      (n.notifyProcess beyond).transparent_data = n.transparent_data ∧
        (n.notifyProcess beyond).uwbs_sta = n.uwbs_sta

theorem inRange_parseCxAppDataRxNtf_iff (payload : Bytes) :
    InRange (UciNTF.parseCxAppDataRxNtf payload) ↔ 2 ≤ payload.length := by
  match payload with
  | [] | [_] =>
      refine iff_of_false (not_inRange_error _) ?_
      simp
  | lo :: hi :: rest =>
      refine iff_of_true ⟨_, rfl⟩ ?_
      simp

theorem inRange_readAt_zero_iff (payload : Bytes) :
    InRange (readAt payload 0) ↔ payload ≠ [] := by
  cases payload with
  | nil => exact iff_of_false (not_inRange_error _) (by simp)
  | cons x rest => exact iff_of_true ⟨x, rfl⟩ (by simp)

theorem two_le_of_lengthMatches {payload : Bytes} (h : LengthMatches payload) :
    2 ≤ payload.length := by
  match payload with
  | [] | [_] => exact h.elim
  | lo :: hi :: rest => simp

/-- The reads of a notification. -/
theorem inRange_notifyChecked_iff (n : UWB) :
    InRange n.notifyChecked ↔
      (n.recv_packet.gid = GID0x00 →
        n.recv_packet.oid = CORE_DEVICE_STATUS_NTF → n.rx_payload ≠ []) ∧
      (n.recv_packet.gid = GID0x03 →
        n.recv_packet.oid = CX_APP_DATA_TX → n.rx_payload ≠ []) ∧
      (n.notification.IsData → 2 ≤ n.rx_payload.length) := by
  have hgroups : GID0x00 ≠ GID0x03 := by decide
  have hdata : CX_APP_DATA_RX ≠ CX_APP_DATA_TX := by decide
  simp only [notifyChecked, Notification.IsData, notification,
    UciNTF.parseCoreDeviceStatusNtf, UciNTF.parseCxAppDataTxNtf,
    pure_eq_ok]
  by_cases hcore : n.recv_packet.gid = GID0x00
  · by_cases hstatus : n.recv_packet.oid = CORE_DEVICE_STATUS_NTF
    · simp [hcore, hstatus, hgroups, inRange_bind_ok, inRange_readAt_zero_iff]
    · simp [hcore, hstatus, hgroups]
  · by_cases happ : n.recv_packet.gid = GID0x03
    · by_cases htx : n.recv_packet.oid = CX_APP_DATA_TX
      · simp [happ, htx, hgroups.symm, hdata.symm, inRange_bind_ok,
          inRange_readAt_zero_iff]
      · by_cases hrx : n.recv_packet.oid = CX_APP_DATA_RX
        · simp [happ, hrx, hgroups.symm, hdata, inRange_bind_ok,
            inRange_parseCxAppDataRxNtf_iff]
        · simp [happ, htx, hrx, hgroups.symm]
    · simp [hcore, happ]

/-- A data notification pushes whatever follows its first two bytes. -/
theorem notifyProcess_of_isData {n : UWB} (h : n.notification.IsData) :
    n.notifyProcess beyond = { n with
      transparent_data := n.transparent_data ++ n.rx_payload.drop 2 } := by
  have hgid : n.recv_packet.gid = GID0x03 := h.1
  have hoid : n.recv_packet.oid = CX_APP_DATA_RX := h.2
  have hcore : n.recv_packet.gid ≠ GID0x00 := by
    rw [hgid]
    decide
  rw [notifyProcess, if_neg hcore, if_pos hgid, if_pos hoid]
  split
  next hshort => rw [List.drop_eq_nil_of_le hshort.le, List.append_nil]
  · rfl

theorem wellFormed_iff (n : UWB) :
    n.notification.WellFormed ↔
      InRange n.notifyChecked ∧
        (n.notification.IsData → ¬ LengthMatches n.rx_payload →
          (n.notifyProcess beyond).transparent_data = n.transparent_data ∧
            (n.notifyProcess beyond).uwbs_sta = n.uwbs_sta) := by
  have hpush (hdata : n.notification.IsData) :
      (n.notifyProcess beyond).transparent_data = n.transparent_data ∧
          (n.notifyProcess beyond).uwbs_sta = n.uwbs_sta ↔
        n.rx_payload.length ≤ 2 := by
    rw [notifyProcess_of_isData beyond hdata]
    simp
  rw [inRange_notifyChecked_iff]
  constructor
  · rintro ⟨hstatus, htransmitted, hdata⟩
    refine ⟨⟨hstatus, htransmitted, fun h => ?_⟩, fun h hlength => ?_⟩
    · rcases hdata h with hmatches | htwo
      · exact two_le_of_lengthMatches hmatches
      · exact htwo.ge
    · exact (hpush h).mpr ((hdata h).resolve_left hlength).le
  · rintro ⟨⟨hstatus, htransmitted, htwo⟩, hunchanged⟩
    refine ⟨hstatus, htransmitted, fun h => ?_⟩
    by_cases hmatches : LengthMatches n.rx_payload
    · exact Or.inl hmatches
    · exact Or.inr (le_antisymm ((hpush h).mp (hunchanged h hmatches)) (htwo h))

theorem wellFormed_of_handlesNotifications {d : UWB} {bytes : Bytes}
    (h : HandlesNotifications beyond d bytes) :
    ∀ n ∈ completedNtfs d.recv_packet d.rx_payload (d.rx_data_queue ++ bytes),
      n.WellFormed := by
  have hrange := (inRange_ntfDrainChecked_iff beyond
    (d.rx_data_queue ++ bytes) d).1.mp h.inRange
  rw [← map_notification_notified beyond, List.forall_mem_map]
  intro n hn
  exact (wellFormed_iff beyond n).mpr ⟨hrange n hn, h.unchanged n hn⟩

/-- Notifications are handled safely exactly when the byte stream holds
well-formed ones only. -/
theorem handlesNotifications_iff (d : UWB) (bytes : Bytes) :
    HandlesNotifications beyond d bytes ↔
      ∀ n ∈ completedNtfs d.recv_packet d.rx_payload
        (d.rx_data_queue ++ bytes), n.WellFormed := by
  constructor
  · exact wellFormed_of_handlesNotifications beyond
  · intro h
    rw [← map_notification_notified beyond, List.forall_mem_map] at h
    constructor
    case inRange =>
      apply (inRange_ntfDrainChecked_iff beyond _ d).1.mpr
      exact fun n hn => ((wellFormed_iff beyond n).mp (h n hn)).1
    case unchanged =>
      exact fun n hn => ((wellFormed_iff beyond n).mp (h n hn)).2

/-- A driver that has just become ready. -/
def readyDriver : UWB where
  uwbs_sta := .ready
  recv_packet := UciCtrlPacket.init 0 0 0 0
  uci_cmd := { toUciCtrlPacket := UciCtrlPacket.init 0 0 0 0 }

/-- A data notification that announces five bytes and carries one, and one
without a payload. -/
theorem not_handlesNotifications_malformed :
    ¬ HandlesNotifications (fun _ => 0) readyDriver
        [0x63, 0x01, 0x00, 0x03, 0x05, 0x00, 0xAA] ∧
      ¬ HandlesNotifications (fun _ => 0) readyDriver
        [0x63, 0x01, 0x00, 0x00] := by
  constructor
  · intro h
    have hwell := wellFormed_of_handlesNotifications _ h
      ⟨3, 1, [0x05, 0x00, 0xAA]⟩ (by decide)
    rcases hwell.data ⟨rfl, rfl⟩ with hmatches | htwo
    · cases hmatches
    · cases htwo
  · intro h
    have hwell := wellFormed_of_handlesNotifications _ h ⟨3, 1, []⟩ (by decide)
    rcases hwell.data ⟨rfl, rfl⟩ with hmatches | htwo
    · exact hmatches
    · cases htwo

end UWB

end WirelessHarness
