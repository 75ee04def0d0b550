import WirelessHarness.Uwb.PacketStream

/-!
# Delivery of the radio's data

Whichever call of the driver a byte reaches it in, it goes through the parser
once, and a data notification that it completes is pushed behind the data that
have not been fetched yet.  So the vectors that `get_recv_data` has returned,
followed by what is left, are the data of the notifications in the bytes
consumed so far.
-/

namespace WirelessHarness

open CheckedRead Runs UciCtrlPacket

namespace UWB

variable {beyond : OutOfRange → UInt8}

theorem transparent_data_notifyProcess (d : UWB) :
    (d.notifyProcess beyond).transparent_data =
      d.transparent_data ++ d.notification.pushed := by
  by_cases hdata : d.notification.IsData
  · rw [notifyProcess_of_isData beyond hdata, Notification.pushed,
      if_pos hdata]
    rfl
  · rw [Notification.pushed, if_neg hdata, List.append_nil]
    unfold notifyProcess
    split
    · split
      · split <;> rfl
      · rfl
    · split
      next hgid =>
        split
        next hoid => exact absurd ⟨hgid, hoid⟩ hdata
        next => rfl
      next => rfl

/-! ## Bytes consumed -/

/-- The bytes take the parser from `d` to `d'`, and the data of their
notifications are pushed. -/
def Digests (d d' : UWB) (bytes : Bytes) : Prop :=
  (d.recv_packet.feed d.rx_payload bytes).2 =
      (d'.recv_packet, d'.rx_payload) ∧
    d'.transparent_data = d.transparent_data ++
      (completedNtfs d.recv_packet d.rx_payload bytes).flatMap
        Notification.pushed

theorem Digests.nil (d : UWB) : Digests d d [] :=
  ⟨rfl, (List.append_nil _).symm⟩

theorem Digests.append {d d₁ d₂ : UWB} {xs ys : Bytes}
    (h : Digests d d₁ xs) (h' : Digests d₁ d₂ ys) :
    Digests d d₂ (xs ++ ys) := by
  obtain ⟨hparser, hdata⟩ := h
  obtain ⟨hparser', hdata'⟩ := h'
  constructor
  · rw [feed_append]
    simp only [hparser, hparser']
  · rw [completedNtfs_append, hdata', hdata, List.flatMap_append,
      List.append_assoc]
    simp only [hparser]

theorem completedNtfs_singleton (d : UWB) (data : UInt8) :
    completedNtfs d.recv_packet d.rx_payload [data] =
      if (d.parseData data).1 ∧
          (d.parseData data).2.recv_packet.mt = MT_NTF then
        [(d.parseData data).2.notification]
      else [] := rfl

/-- A byte that completes no notification only moves the parser. -/
theorem digests_parseData {d : UWB} {data : UInt8}
    (h : ¬ ((d.parseData data).1 = true ∧
      (d.parseData data).2.recv_packet.mt = MT_NTF)) :
    Digests d (d.parseData data).2 [data] := by
  refine ⟨rfl, ?_⟩
  rw [completedNtfs_singleton, if_neg h]
  exact (List.append_nil _).symm

theorem digests_afterByte (d : UWB) (data : UInt8) :
    Digests d (d.afterByte beyond data) [data] := by
  by_cases hntf : (d.parseData data).1 = true ∧
      (d.parseData data).2.recv_packet.mt = MT_NTF
  · have hafter : d.afterByte beyond data =
        (d.parseData data).2.notifyProcess beyond := if_pos hntf
    constructor
    · rw [recv_packet_afterByte, rx_payload_afterByte]
      rfl
    · rw [hafter, transparent_data_notifyProcess, completedNtfs_singleton,
        if_pos hntf, List.flatMap_singleton]
      rfl
  · have hafter : d.afterByte beyond data = (d.parseData data).2 :=
      if_neg hntf
    rw [hafter]
    exact digests_parseData hntf

/-- `loaded` has been appended to the queue, and the bytes that have left its
front are digested. -/
def Consumes (d d' : UWB) (loaded : Bytes) : Prop :=
  ∃ consumed, d.rx_data_queue ++ loaded = consumed ++ d'.rx_data_queue ∧
    Digests d d' consumed

theorem Consumes.refl (d : UWB) : Consumes d d [] :=
  ⟨[], List.append_nil _, .nil d⟩

theorem Consumes.trans {d d₁ d₂ : UWB} {xs ys : Bytes}
    (h : Consumes d d₁ xs) (h' : Consumes d₁ d₂ ys) :
    Consumes d d₂ (xs ++ ys) := by
  obtain ⟨c, hqueue, hc⟩ := h
  obtain ⟨c', hqueue', hc'⟩ := h'
  refine ⟨c ++ c', ?_, hc.append hc'⟩
  rw [← List.append_assoc, hqueue, List.append_assoc, hqueue',
    List.append_assoc]

/-! ## The two receive loops -/

/-- The inner loop of `__rsp_process` stops behind a response. -/
theorem digests_rspDrain (bytes : Bytes) (d : UWB) :
    ∃ consumed, bytes = consumed ++ (rspDrain beyond d bytes).2.rx_data_queue ∧
      Digests d (rspDrain beyond d bytes).2 consumed := by
  induction bytes generalizing d with
  | nil => exact ⟨[], rfl, .nil d⟩
  | cons data bytes ih =>
      rw [rspDrain_cons]
      by_cases hrsp : (d.parseData data).1 = true ∧
          (d.parseData data).2.recv_packet.mt = MT_RSP
      · rw [if_pos hrsp]
        have hnone : ¬ ((d.parseData data).1 = true ∧
            (d.parseData data).2.recv_packet.mt = MT_NTF) := by
          rintro ⟨-, hntf⟩
          exact absurd (hrsp.2.symm.trans hntf) (by decide)
        have hdigests := digests_parseData hnone
        exact ⟨[data], rfl, hdigests⟩
      · rw [if_neg hrsp]
        obtain ⟨consumed, hbytes, hdigests⟩ := ih (d.afterByte beyond data)
        refine ⟨data :: consumed, ?_, ?_⟩
        · rw [List.cons_append, ← hbytes]
        · exact (digests_afterByte d data).append hdigests

theorem consumes_rspDrain (d : UWB) (bytes : Bytes) :
    Consumes d (rspDrain beyond d (d.rx_data_queue ++ bytes)).2 bytes :=
  digests_rspDrain _ d

/-- `__listening_ntf` empties the queue. -/
theorem consumes_update (d : UWB) (bytes : Bytes) :
    Consumes d (d.update beyond bytes) bytes := by
  have hdigests (xs : Bytes) : ∀ d : UWB,
      (ntfDrain beyond d xs).rx_data_queue = [] ∧
        Digests d (ntfDrain beyond d xs) xs := by
    induction xs with
    | nil => exact fun d => ⟨rfl, .nil d⟩
    | cons x xs ih =>
        intro d
        rw [ntfDrain_cons]
        obtain ⟨hqueue, hrest⟩ := ih (d.afterByte beyond x)
        exact ⟨hqueue, (digests_afterByte d x).append hrest⟩
  obtain ⟨hqueue, hall⟩ := hdigests (d.rx_data_queue ++ bytes) d
  refine ⟨d.rx_data_queue ++ bytes, ?_, hall⟩
  rw [UWB.update, hqueue, List.append_nil]

/-! ## Calls -/

/-- The bytes the interface delivers in these turns. -/
def delivered (polls : List Poll) : Bytes :=
  polls.flatMap fun
    | .received bytes => bytes
    | .deadline => []

/-- The turns taken before `rest` is left. -/
def takenOf (polls rest : List Poll) : List Poll :=
  polls.take (polls.length - rest.length)

/-- A call that had `polls` before it leaves `rest` and the driver `d'`. -/
def Performs (d : UWB) (polls : List Poll) (d' : UWB) (rest : List Poll) :
    Prop :=
  ∃ taken, polls = taken ++ rest ∧ Consumes d d' (delivered taken)

theorem Performs.refl (d : UWB) (polls : List Poll) :
    Performs d polls d polls :=
  ⟨[], rfl, .refl d⟩

theorem Performs.deadline (d : UWB) (polls : List Poll) :
    Performs d (.deadline :: polls) d polls :=
  ⟨[.deadline], rfl, .refl d⟩

theorem Performs.trans {d d₁ d₂ : UWB} {polls polls₁ polls₂ : List Poll}
    (h : Performs d polls d₁ polls₁) (h' : Performs d₁ polls₁ d₂ polls₂) :
    Performs d polls d₂ polls₂ := by
  obtain ⟨taken, rfl, hc⟩ := h
  obtain ⟨taken', rfl, hc'⟩ := h'
  refine ⟨taken ++ taken', (List.append_assoc _ _ _).symm, ?_⟩
  rw [delivered, List.flatMap_append]
  exact hc.trans hc'

theorem Performs.received {d d' : UWB} {bytes : Bytes} (polls : List Poll)
    (h : Consumes d d' bytes) :
    Performs d (.received bytes :: polls) d' polls := by
  refine ⟨[.received bytes], rfl, ?_⟩
  rw [delivered, List.flatMap_singleton]
  exact h

theorem Performs.taken {d d' : UWB} {polls rest : List Poll}
    (h : Performs d polls d' rest) :
    Consumes d d' (delivered (takenOf polls rest)) := by
  obtain ⟨taken, rfl, hc⟩ := h
  rw [takenOf, List.length_append, Nat.add_sub_cancel, List.take_left]
  exact hc

theorem performs_rspProcess {polls polls' : List Poll} {d d' : UWB}
    {ret : Bool} (h : rspProcess beyond d polls = (ret, d', polls')) :
    Performs d polls d' polls' := by
  induction polls generalizing d with
  | nil =>
      cases h
      exact Performs.refl _ []
  | cons poll polls ih =>
      rcases poll with bytes | -
      · have hdrain := @consumes_rspDrain beyond d bytes
        rw [rspProcess] at h
        split at h
        next d₁ heq =>
          cases h
          rw [heq] at hdrain
          exact Performs.received _ hdrain
        next d₁ heq =>
          rw [heq] at hdrain
          exact (Performs.received polls hdrain).trans (ih h)
      · cases h
        exact Performs.deadline _ _

theorem performs_sendLoop {packer checker : Command} {fuel : ℕ} {d : UWB}
    {polls : List Poll} {o : Outcome}
    (h : sendLoop beyond packer checker fuel d polls = some o) :
    Performs d polls o.driver o.polls := by
  induction fuel generalizing d polls o with
  | zero => cases h
  | succ fuel ih =>
      simp only [sendLoop] at h
      split at h
      next d₁ polls₁ hrsp =>
        have hround := performs_rspProcess hrsp
        cases h
        exact hround
      next d₁ polls₁ hrsp =>
        have hround := performs_rspProcess hrsp
        split at h
        · split at h
          · cases h
            exact hround
          · obtain ⟨o', ho', rfl⟩ := Option.map_eq_some_iff.mp h
            have hrest := ih ho'
            exact Performs.trans hround hrest
        · cases h
          exact hround

theorem performs_sendPacket {d : UWB} {polls : List Poll} {o : Outcome}
    (h : sendPacket beyond d polls = some o) :
    Performs d polls o.driver o.polls := by
  rw [sendPacket] at h
  split at h
  · obtain ⟨o', ho', rfl⟩ := Option.map_eq_some_iff.mp h
    have hloop := performs_sendLoop ho'
    exact hloop
  · cases h
    exact Performs.refl _ _

theorem performs_perform {op : Operation} {d : UWB} {polls : List Poll}
    {o : Outcome} (h : op.perform beyond d polls = some o) :
    Performs d polls o.driver o.polls := by
  obtain ⟨-, hperform⟩ | ⟨-, ret, hperform⟩ := op.perform_eq beyond d polls
  · rw [hperform] at h
    have hsend := performs_sendPacket h
    exact hsend
  · rw [hperform] at h
    cases h
    exact Performs.refl _ _

theorem performs_waitReady {polls polls' : List Poll} {d d' : UWB}
    {ret : Bool} (h : waitReady beyond d polls = (ret, d', polls')) :
    Performs d polls d' polls' := by
  induction polls generalizing d with
  | nil =>
      cases h
      exact Performs.refl _ []
  | cons poll polls ih =>
      rcases poll with bytes | -
      · have hupdate : Performs d (.received bytes :: polls)
            (d.update beyond bytes) polls :=
          .received polls (consumes_update d bytes)
        simp only [waitReady] at h
        split at h
        · cases h
          exact hupdate
        · exact hupdate.trans (ih h)
      · cases h
        exact Performs.deadline _ _

theorem performs_reset {d : UWB} {polls : List Poll}
    {r : Bool × UWB × List Poll} (h : reset beyond d polls = some r) :
    Performs d polls r.2.1 r.2.2 := by
  obtain ⟨o, ho, rfl⟩ := Option.map_eq_some_iff.mp h
  have hsend : Performs d polls o.driver o.polls := by
    have hprepared := performs_sendPacket ho
    exact hprepared
  split
  · split
    next heq => exact hsend.trans (performs_waitReady heq)
    next heq =>
      exact (hsend.trans (performs_waitReady heq)).trans
        (performs_waitReady rfl)
  · exact hsend.trans (performs_waitReady rfl)

/-- `get_recv_data` returns nothing or everything. -/
theorem getRecvData_eq (d : UWB) (bytes : Bytes) :
    d.getRecvData beyond bytes = (none, d.update beyond bytes) ∨
      d.getRecvData beyond bytes =
        (some (d.update beyond bytes).transparent_data,
          { d.update beyond bytes with transparent_data := [] }) := by
  unfold getRecvData
  by_cases hsta : (d.update beyond bytes).uwbs_sta = .ready
  · by_cases hdata : (d.update beyond bytes).transparent_data = []
    · left
      rw [if_neg (not_not.mpr hsta), if_pos hdata]
    · right
      rw [if_neg (not_not.mpr hsta), if_neg hdata]
  · left
    rw [if_pos hsta]

/-! ## Sessions -/

/-- A driver with the bytes its interface has delivered and the vectors that
`get_recv_data` has returned. -/
structure Session where
  driver : UWB
  loaded : Bytes := []
  returned : List Bytes := []

namespace Session

/-- The turns a call does not take are not delivered. -/
def step (beyond : OutOfRange → UInt8) (s : Session) : Call → Option Session
  | .operation op polls => (op.perform beyond s.driver polls).map fun o =>
      { s with
        driver := o.driver
        loaded := s.loaded ++ delivered (takenOf polls o.polls) }
  | .update bytes => some { s with
      driver := s.driver.update beyond bytes
      loaded := s.loaded ++ bytes }
  | .getRecvData bytes =>
      let (recv_data, driver) := s.driver.getRecvData beyond bytes
      some
        { driver
          loaded := s.loaded ++ bytes
          returned := s.returned ++ recv_data.toList }
  | .reset polls => (s.driver.reset beyond polls).map fun r =>
      { s with
        driver := r.2.1
        loaded := s.loaded ++ delivered (takenOf polls r.2.2) }

/-- All bytes that have left the queue are digested, and the data pushed for
them are the ones returned and the ones that are left. -/
def Accounts (p : UciCtrlPacket) (s : Session) : Prop :=
  ∃ consumed, s.loaded = consumed ++ s.driver.rx_data_queue ∧
    (p.feed [] consumed).2 = (s.driver.recv_packet, s.driver.rx_payload) ∧
    s.returned.flatten ++ s.driver.transparent_data =
      (completedNtfs p [] consumed).flatMap Notification.pushed

/-- A call that returns no data. -/
theorem Accounts.consumes {p : UciCtrlPacket} {s : Session}
    (h : s.Accounts p) {d : UWB} {bytes : Bytes}
    (hd : Consumes s.driver d bytes) :
    Accounts p { s with driver := d, loaded := s.loaded ++ bytes } := by
  obtain ⟨c, hloaded, hparser, hdata⟩ := h
  obtain ⟨c', hqueue, hparser', hdata'⟩ := hd
  refine ⟨c ++ c', ?_, ?_, ?_⟩
  · rw [hloaded, List.append_assoc, hqueue, List.append_assoc]
  · rw [feed_append]
    simp only [hparser, hparser']
  · rw [completedNtfs_append, hdata', List.flatMap_append, ← hdata,
      ← List.append_assoc]
    simp only [hparser]

/-- What is returned moves from the driver to the caller. -/
theorem Accounts.returns {p : UciCtrlPacket} {s : Session}
    (h : s.Accounts p) :
    Accounts p { s with
      driver := { s.driver with transparent_data := [] }
      returned := s.returned ++ [s.driver.transparent_data] } := by
  obtain ⟨c, hloaded, hparser, hdata⟩ := h
  refine ⟨c, hloaded, hparser, ?_⟩
  rw [← hdata]
  simp

theorem accounts_step (p : UciCtrlPacket) (s : Session) (call : Call)
    (s' : Session) (hs : s.Accounts p) (h : s.step beyond call = some s') :
    s'.Accounts p := by
  rcases call with ⟨op, polls⟩ | bytes | bytes | polls
  · obtain ⟨o, ho, rfl⟩ := Option.map_eq_some_iff.mp h
    exact hs.consumes (performs_perform ho).taken
  · cases h
    exact hs.consumes (consumes_update s.driver bytes)
  · have hupdate := hs.consumes
      (@consumes_update beyond s.driver bytes)
    simp only [step] at h
    rcases @getRecvData_eq beyond s.driver bytes with heq | heq
    · rw [heq] at h
      cases h
      simpa using hupdate
    · rw [heq] at h
      cases h
      exact hupdate.returns
  · obtain ⟨r, hr, rfl⟩ := Option.map_eq_some_iff.mp h
    exact hs.consumes (performs_reset hr).taken

/-- The object before `__init`, with any values in the fields that have no
default. -/
def Fresh (d : UWB) : Prop :=
  ∃ mt gid oid pbf, ∃ uci_cmd,
    d = { recv_packet := UciCtrlPacket.init mt gid oid pbf, uci_cmd }

/-- The vectors returned by `get_recv_data` and the data left in the driver are
together the data of the notifications consumed so far, in their order. -/
theorem returned_append_transparent_data {d : UWB} (hd : Fresh d)
    {items : List StreamItem} (hitems : ∀ item ∈ items, item.WellFormed)
    {calls : List Call} {s : Session}
    (hrun : run (step beyond) { driver := d } calls = some s)
    (hstream : s.loaded <+: items.flatMap StreamItem.bytes) :
    ∃ consumed, s.loaded = consumed ++ s.driver.rx_data_queue ∧
      s.returned.flatten ++ s.driver.transparent_data =
        (StreamItem.completed items consumed.length).flatMap
          StreamItem.data := by
  obtain ⟨mt, gid, oid, pbf, uci_cmd, rfl⟩ := hd
  have hfresh : Accounts (UciCtrlPacket.init mt gid oid pbf)
      { driver :=
        { recv_packet := UciCtrlPacket.init mt gid oid pbf, uci_cmd } } :=
    ⟨[], rfl, rfl, rfl⟩
  obtain ⟨consumed, hloaded, -, hdata⟩ :=
    run_invariant (accounts_step _) hfresh hrun
  refine ⟨consumed, hloaded, hdata.trans ?_⟩
  apply pushed_completedNtfs hitems rfl
  exact (hloaded ▸ List.prefix_append _ _).trans hstream

def coreDeviceStatusNtf : MessageId where
  mt := MT_NTF
  gid := GID0x00
  oid := CORE_DEVICE_STATUS_NTF
  mt_known := by decide
  gid_lt := by decide
  oid_lt := by decide

def cxAppDataRxNtf : MessageId where
  mt := MT_NTF
  gid := GID0x03
  oid := CX_APP_DATA_RX
  mt_known := by decide
  gid_lt := by decide
  oid_lt := by decide

def twoDataNtfs : List StreamItem :=
  [.packet coreDeviceStatusNtf [DEVICE_STATE_READY],
    .packet cxAppDataRxNtf [2, 0, 0xAA, 0xBB], .noise 0,
    .packet cxAppDataRxNtf [1, 0, 0xCC]]

/-- The first notification is cut in two, the second one comes while the driver
waits for a response. -/
def listened : Session :=
  (run (step fun _ => 0)
    { driver :=
      { recv_packet := UciCtrlPacket.init 0 0 0 0
        uci_cmd := { toUciCtrlPacket := UciCtrlPacket.init 0 0 0 0 } } }
    [.update [0x60, 0x01, 0x00, 0x01, 0x01, 0x63],
      .getRecvData [0x01, 0x00, 0x04, 0x02, 0x00, 0xAA, 0xBB, 0x00],
      .operation .setRecvMode
        [.received [0x63, 0x01, 0x00, 0x03, 0x01, 0x00, 0xCC],
          .deadline]]).get (by decide)

theorem returned_listened :
    ∃ consumed, listened.loaded = consumed ++ listened.driver.rx_data_queue ∧
      listened.returned.flatten ++ listened.driver.transparent_data =
        (StreamItem.completed twoDataNtfs consumed.length).flatMap
          StreamItem.data :=
  @returned_append_transparent_data _ _ ⟨0, 0, 0, 0, _, rfl⟩ twoDataNtfs
    (by decide) _ listened (Option.some_get _).symm (by decide)

example : listened.returned = [[0xAA, 0xBB]] ∧
    listened.driver.transparent_data = [0xCC] := by decide

/-! ## The constructor -/

theorem exists_calls_of_waitReady (polls : List Poll) (s : Session) :
    ∃ calls s', run (step beyond) s calls = some s' ∧
      s'.driver = (waitReady beyond s.driver polls).2.1 := by
  induction polls generalizing s with
  | nil => exact ⟨[], s, rfl, rfl⟩
  | cons poll polls ih =>
      rcases poll with bytes | -
      · simp only [waitReady]
        by_cases hsta : (s.driver.update beyond bytes).uwbs_sta = .ready
        · rw [if_pos hsta]
          exact ⟨[.update bytes], _, rfl, rfl⟩
        · rw [if_neg hsta]
          obtain ⟨calls, s', hrun, hdriver⟩ := ih { s with
            driver := s.driver.update beyond bytes
            loaded := s.loaded ++ bytes }
          exact ⟨.update bytes :: calls, s', hrun, hdriver⟩
      · exact ⟨[], s, rfl, rfl⟩

/-- What the constructor does is a session of its own. -/
theorem exists_calls_of_construct {recv_packet : UciCtrlPacket}
    {uci_cmd : UciCMD} {polls : List Poll} {d : UWB}
    (h : construct beyond recv_packet uci_cmd polls = some d) :
    ∃ calls s, run (step beyond) { driver := { recv_packet, uci_cmd } } calls =
        some s ∧ s.driver = d := by
  obtain ⟨calls, s, hrun, hdriver⟩ := @exists_calls_of_waitReady
    beyond polls { driver := { recv_packet, uci_cmd } }
  obtain ⟨r, hr, rfl⟩ := Option.map_eq_some_iff.mp h
  rw [← hdriver] at hr
  generalize (waitReady beyond _ polls).2.2 = left at hr
  obtain ⟨s', hreset, hend⟩ : ∃ s', step beyond s (.reset left) = some s' ∧
      s'.driver = r.2.1 := by
    rw [step, hr]
    exact ⟨_, rfl, rfl⟩
  refine ⟨calls ++ [.reset left], s', ?_, hend⟩
  rw [run_append_eq_some]
  exact ⟨s, hrun, run_cons_eq_some.mpr ⟨s', hreset, rfl⟩⟩

end Session

end UWB

end WirelessHarness
