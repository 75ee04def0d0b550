import WirelessHarness.Slave.Device
import WirelessHarness.Support.Polling

/-!
# Reception of frames by a slave

The transfer task adds received bytes to `rx_data_queue` one at a time;
`MsgProc::proc` takes what the queue holds and hands it to the parser.  The
two interleave freely, down to the single `add` and the single `pop`.
-/

namespace WirelessHarness

open CheckedRead Runs SlaveDevice

/-- `parsed` lists the byte vectors handed to `parse` and their outcomes. -/
structure Reception where
  device : SlaveDevice
  pending : Bytes
  rx_data_queue : Bytes := []
  recv_data : Bytes := []
  parsed : List (Bytes × SlaveDevice.Outcome) := []

namespace Reception

/-- `ManagerDataTransferMsg_RXDATA_QUEUE_SIZE`. -/
def RXDATA_QUEUE_SIZE : ℕ := 2048

/-- The rest of `proc` after its loop has emptied the queue. -/
def handle (s : Reception) : Reception :=
  if s.recv_data = [] then s
  else
    let (outcome, device) := s.device.parseAndProcess s.recv_data
    { s with
      device
      recv_data := []
      parsed := s.parsed ++ [(s.recv_data, outcome)] }

/-- `add` is the transfer task's `rx_data_queue.add(*it)`, which waits for
room; `pop` is one evaluation of the loop condition of `proc`, which ends the
loop on an empty queue. -/
def step (s : Reception) : Polling.Event → Option Reception
  | .add =>
      match s.pending with
      | [] => none
      | byte :: pending =>
          if s.rx_data_queue.length < RXDATA_QUEUE_SIZE then
            some { s with
              pending
              rx_data_queue := s.rx_data_queue ++ [byte] }
          else none
  | .pop =>
      match s.rx_data_queue with
      | byte :: rx_data_queue =>
          some { s with
            rx_data_queue
            recv_data := s.recv_data ++ [byte] }
      | [] => some s.handle

/-- One call of `proc` that no `add` interrupts. -/
def proc (s : Reception) : Reception :=
  handle { s with
    recv_data := s.recv_data ++ s.rx_data_queue
    rx_data_queue := [] }

/-- An uninterrupted call pops every byte of the queue and once more. -/
theorem run_proc (s : Reception) :
    run step s (List.replicate (s.rx_data_queue.length + 1) .pop) =
      some s.proc := by
  rcases s with ⟨device, pending, rx_data_queue, recv_data, parsed⟩
  induction rx_data_queue generalizing recv_data with
  | nil => simp [List.replicate, run, step, proc]
  | cons byte queue ih =>
      rw [List.length_cons, List.replicate_succ, run_cons_eq_some]
      refine ⟨_, rfl, ?_⟩
      rw [ih]
      simp [proc]

/-! ## Batches -/

/-- The reception as a consumer polling a queue of bytes. -/
def polling (s : Reception) : Polling.State UInt8 :=
  ⟨s.pending, s.rx_data_queue, s.recv_data, s.parsed.map Prod.fst⟩

theorem polling_handle (s : Reception) :
    s.handle.polling =
      if s.recv_data = [] then s.polling
      else { s.polling with
        buffer := []
        batches := s.polling.batches ++ [s.recv_data] } := by
  unfold handle
  split
  · rfl
  · simp [polling]

theorem polling_step (s : Reception) (e : Polling.Event) (s' : Reception)
    (h : step s e = some s') :
    Polling.step RXDATA_QUEUE_SIZE s.polling e = some s'.polling := by
  cases e with
  | add =>
      rcases hpending : s.pending with _ | ⟨byte, pending⟩
      · simp [step, hpending] at h
      · simp only [step, hpending, Option.ite_none_right_eq_some] at h
        obtain ⟨hroom, heq⟩ := h
        cases heq
        simp [Polling.step, polling, hpending, hroom]
  | pop =>
      rcases hqueue : s.rx_data_queue with _ | ⟨byte, queue⟩
      · simp only [step, hqueue] at h
        cases h
        rw [polling_handle]
        simp only [Polling.step, polling, hqueue]
        split <;> rfl
      · simp only [step, hqueue] at h
        cases h
        simp [Polling.step, polling, hqueue]

/-! ## Outcomes -/

/-- The messages processed, with the bytes they were parsed from. -/
def handled (parsed : List (Bytes × SlaveDevice.Outcome)) :
    List (Bytes × DecodedMessage) :=
  parsed.filterMap fun
    | (raw_data, .ok (some d)) => some (raw_data, d)
    | _ => none

/-- The device is the result of giving it the parsed vectors one by one, and a
vector with a decoding was processed as that decoding. -/
structure Inv (device : SlaveDevice) (s : Reception) : Prop where
  uid_eq : s.device.uid = device.uid
  device_eq : s.device = (s.parsed.map Prod.fst).foldl
    (fun d raw_data => (d.parseAndProcess raw_data).2) device
  outcome : ∀ raw_data outcome d, (raw_data, outcome) ∈ s.parsed →
    FrameParser.decodeFrame .slave device.uid raw_data = some d →
      outcome = .ok (some d)

theorem inv_handle {device : SlaveDevice} {s : Reception}
    (hs : Inv device s) : Inv device s.handle := by
  unfold handle
  split
  · exact hs
  · constructor
    case uid_eq => exact (SlaveDevice.uid_parseAndProcess _ _).trans hs.uid_eq
    case device_eq =>
      simp only [List.map_append, List.map_cons, List.map_nil,
        List.foldl_append, List.foldl_cons, List.foldl_nil]
      rw [← hs.device_eq]
    case outcome =>
      intro raw_data outcome d hmem hdec
      rcases List.mem_append.mp hmem with hmem | hmem
      · exact hs.outcome raw_data outcome d hmem hdec
      · obtain ⟨rfl, rfl⟩ := Prod.mk.inj (List.mem_singleton.mp hmem)
        rw [← hs.uid_eq] at hdec
        rw [s.device.parseAndProcess_of_decode hdec]

theorem inv_step {device : SlaveDevice} (s : Reception) (e : Polling.Event)
    (s' : Reception) (hs : Inv device s) (h : step s e = some s') :
    Inv device s' := by
  cases e with
  | add =>
      rcases hpending : s.pending with _ | ⟨byte, pending⟩
      · simp [step, hpending] at h
      · simp only [step, hpending, Option.ite_none_right_eq_some] at h
        obtain ⟨-, heq⟩ := h
        cases heq
        exact ⟨hs.uid_eq, hs.device_eq, hs.outcome⟩
  | pop =>
      rcases hqueue : s.rx_data_queue with _ | ⟨byte, queue⟩
      · simp only [step, hqueue] at h
        cases h
        exact inv_handle hs
      · simp only [step, hqueue] at h
        cases h
        exact ⟨hs.uid_eq, hs.device_eq, hs.outcome⟩

/-! ## Frames and batches -/

/-- Every frame was parsed and its message processed, once and in order. -/
structure HandlesAll (device : SlaveDevice) (frames : List Bytes)
    (s : Reception) : Prop where
  handled_eq : (handled s.parsed).map (fun h => (h.1, some h.2)) =
    frames.map fun frame =>
      (frame, FrameParser.decodeFrame .slave device.uid frame)
  device_eq : s.device =
    frames.foldl (fun d frame => (d.parseAndProcess frame).2) device

/-- All bytes have been added and given to the parser. -/
def Done (s : Reception) : Prop :=
  s.pending = [] ∧ s.rx_data_queue = [] ∧ s.recv_data = []

theorem map_fst_handled_sublist
    (parsed : List (Bytes × SlaveDevice.Outcome)) :
    ((handled parsed).map Prod.fst).Sublist (parsed.map Prod.fst) := by
  induction parsed with
  | nil => exact .slnil
  | cons entry entries ih =>
      obtain ⟨raw_data, outcome⟩ := entry
      match outcome with
      | .ok (some d) => exact ih.cons_cons raw_data
      | .ok none => exact ih.cons raw_data
      | .error e => exact ih.cons raw_data

theorem handled_of_outcome {uid : UInt32}
    {parsed : List (Bytes × SlaveDevice.Outcome)}
    (h : ∀ entry ∈ parsed, ∃ d,
      FrameParser.decodeFrame .slave uid entry.1 = some d ∧
        entry.2 = .ok (some d)) :
    (handled parsed).map (fun h => (h.1, some h.2)) =
      (parsed.map Prod.fst).map fun frame =>
        (frame, FrameParser.decodeFrame .slave uid frame) := by
  induction parsed with
  | nil => rfl
  | cons entry entries ih =>
      obtain ⟨d, hdec, hout⟩ := h entry List.mem_cons_self
      obtain ⟨raw_data, outcome⟩ := entry
      simp only at hdec hout
      subst hout
      rw [List.map_cons, List.map_cons, hdec,
        ← ih fun e he => h e (List.mem_cons_of_mem _ he)]
      rfl

/-- The frames of the list are all handled in a finished run exactly when each
call of `proc` that found bytes found those of one frame. -/
theorem handlesAll_iff (device : SlaveDevice) (frames : List Bytes)
    (hvalid : ∀ frame ∈ frames,
      FrameParser.decodeFrame .slave device.uid frame ≠ none)
    (es : List Polling.Event) {s : Reception}
    (hrun : run step { device, pending := frames.flatten } es = some s)
    (hdone : s.Done) :
    HandlesAll device frames s ↔
      Polling.sizes 0 0 es = frames.map List.length := by
  have hpolling := run_map polling polling_step hrun
  have hpoll := Polling.inv_run hpolling
  have hinv : Inv device s :=
    run_invariant inv_step ⟨rfl, rfl, by simp⟩ hrun
  rw [← Polling.batches_eq_iff hpolling hdone]
  change _ ↔ s.parsed.map Prod.fst = frames
  constructor
  · intro hall
    have hframes : (handled s.parsed).map Prod.fst = frames := by
      have h := congrArg (List.map Prod.fst) hall.handled_eq
      simpa [List.map_map, Function.comp_def] using h
    have hlen : (s.parsed.map Prod.fst).flatten.length ≤
        ((handled s.parsed).map Prod.fst).flatten.length := by
      obtain ⟨hpending, hqueue, hrecv⟩ := hdone
      have hconserved := hpoll.conserved
      simp only [polling, hpending, hqueue, hrecv, List.append_nil]
        at hconserved
      rw [hconserved, hframes]
    rw [← Polling.eq_of_sublist_of_length_flatten
      (map_fst_handled_sublist s.parsed) hpoll.nonempty hlen, hframes]
  · intro hbatches
    constructor
    case handled_eq =>
      rw [← hbatches]
      refine handled_of_outcome fun entry hentry => ?_
      have hmem : entry.1 ∈ frames := by
        rw [← hbatches]
        exact List.mem_map_of_mem hentry
      obtain ⟨d, hdec⟩ := Option.ne_none_iff_exists'.mp
        (hvalid entry.1 hmem)
      exact ⟨d, hdec, hinv.outcome _ _ d hentry hdec⟩
    case device_eq => rw [hinv.device_eq, hbatches]

/-! ## A frame and its arrival -/

/-- A broadcast `SyncMsg` frame. -/
def syncFrame : Bytes :=
  FramePacker.packMaster2Slave
    (PacketPacker.master2SlavePack .syncMsg ⟨0, 0⟩ 0xFFFFFFFF)

/-- A `CondCfgMsg` frame for the device, of 20 bytes. -/
def configFrame : Bytes :=
  FramePacker.packMaster2Slave
    (PacketPacker.master2SlavePack .condCfgMsg ⟨0, 20, 3, 0, 2⟩ bootDevice.uid)

/-- `proc` looks at the queue before the first frame, between the two frames
and behind the second, but never within a frame. -/
def wholeFrames : List Polling.Event :=
  [.pop] ++ List.replicate 20 .add ++ List.replicate 21 .pop ++
    List.replicate 17 .add ++ List.replicate 18 .pop

theorem handlesAll_wholeFrames :
    ∃ s, run step
        { device := bootDevice, pending := [configFrame, syncFrame].flatten }
        wholeFrames = some s ∧
      HandlesAll bootDevice [configFrame, syncFrame] s :=
  ⟨_, rfl, (handlesAll_iff bootDevice [configFrame, syncFrame] (by decide)
    wholeFrames rfl ⟨rfl, rfl, rfl⟩).mpr (by decide)⟩

/-- `proc` runs after the first byte and again after the others. -/
def splitFrame : List Polling.Event :=
  [.add, .pop, .pop] ++ List.replicate 16 .add ++ List.replicate 17 .pop

/-- Neither part is a frame, so the frame is lost. -/
theorem not_handlesAll_splitFrame :
    ∃ s, run step { device := bootDevice, pending := [syncFrame].flatten }
        splitFrame = some s ∧
      s.Done ∧ ¬ HandlesAll bootDevice [syncFrame] s := by
  refine ⟨_, rfl, ⟨rfl, rfl, rfl⟩, fun hall => ?_⟩
  have hlength := congrArg List.length hall.handled_eq
  revert hlength
  decide

end Reception

end WirelessHarness
