import WirelessHarness.Protocol.Packing
import WirelessHarness.Support.SignalledQueue

/-!
# Receiving backend commands

`PCdataTransfer` receives datagrams into a buffer of 100 bytes, adds the bytes
to `rx_data_queue` and gives `rx_done_sem`; `PCinterface` takes the semaphore,
empties the queue and forwards what it took as one command.  What `forward` is
called with depends on the sizes of the datagrams and on the schedule.
-/

namespace WirelessHarness

open Runs SignalledQueue

namespace Datagrams

def MAX_BUF_SIZE : ℕ := 100

def PCdataTransferMsg_DATA_QUEUE_SIZE : ℕ := 2048

/-- Where `PCinterface` is: before `rx_done_sem.take`, in the loop that fills
`buffer`, or in `forward` and the reply. -/
inductive Interface
  | waiting
  | draining (buffer : Bytes)
  | forwarding
deriving DecidableEq, Repr

/-- `buf` is what is left to add of the datagram received last; `forwarded` are
the arguments of `forward`. -/
structure State where
  datagrams : List Bytes
  buf : Option Bytes := none
  rx_data_queue : Bytes := []
  rx_done_sem : Bool := false
  interface : Interface := .waiting
  forwarded : List Bytes := []
deriving DecidableEq, Repr

/-- One datagram, without what exceeds the buffer. -/
def recvfrom (datagram : Bytes) : Bytes :=
  datagram.take MAX_BUF_SIZE

def step (s : State) : Event → Option State
  | .receive =>
      match s.buf, s.datagrams with
      | none, datagram :: datagrams =>
          if 0 < (recvfrom datagram).length then
            some { s with datagrams, buf := some (recvfrom datagram) }
          else some { s with datagrams }
      | _, _ => none
  | .add =>
      match s.buf with
      | some (b :: buf) =>
          if s.rx_data_queue.length < PCdataTransferMsg_DATA_QUEUE_SIZE then
            some { s with
              buf := some buf
              rx_data_queue := s.rx_data_queue ++ [b] }
          else none
      | _ => none
  | .signal =>
      match s.buf with
      | some [] => some { s with buf := none, rx_done_sem := true }
      | _ => none
  | .take =>
      match s.interface, s.rx_done_sem with
      | .waiting, true =>
          some { s with interface := .draining [], rx_done_sem := false }
      | _, _ => none
  | .pop =>
      match s.interface, s.rx_data_queue with
      | .draining buffer, b :: rx_data_queue =>
          some { s with interface := .draining (buffer ++ [b]), rx_data_queue }
      | .draining buffer, [] =>
          some { s with
            interface := .forwarding
            forwarded := s.forwarded ++ [buffer] }
      | _, _ => none
  | .resume =>
      match s.interface with
      | .forwarding => some { s with interface := .waiting }
      | _ => none

/-! ## The two tasks as a signalled queue -/

def Interface.consumer : Interface → Consumer UInt8
  | .waiting => .waiting
  | .draining buffer => .draining buffer
  | .forwarding => .busy

def State.signalledQueue (s : State) : SignalledQueue.State UInt8 where
  chunks := s.datagrams.map recvfrom
  adding := s.buf
  queue := s.rx_data_queue
  signalled := s.rx_done_sem
  consumer := s.interface.consumer
  batches := s.forwarded

theorem map_step (s : State) (e : Event) :
    (step s e).map State.signalledQueue =
      SignalledQueue.step PCdataTransferMsg_DATA_QUEUE_SIZE s.signalledQueue
        e := by
  obtain ⟨datagrams, buf, queue, done, interface, forwarded⟩ := s
  cases e with
  | receive =>
      cases buf with
      | some buf => cases datagrams <;> rfl
      | none =>
          cases datagrams with
          | nil => rfl
          | cons datagram datagrams =>
              cases hbytes : recvfrom datagram <;>
                simp [step, SignalledQueue.step, State.signalledQueue, hbytes]
  | add =>
      cases buf with
      | none => rfl
      | some buf =>
          cases buf with
          | nil => rfl
          | cons b buf =>
              by_cases hroom : queue.length < PCdataTransferMsg_DATA_QUEUE_SIZE
              · simp [step, SignalledQueue.step, State.signalledQueue, hroom]
              · simp [step, SignalledQueue.step, State.signalledQueue, hroom]
  | signal =>
      cases buf with
      | none => rfl
      | some buf => cases buf <;> rfl
  | take => cases interface <;> cases done <;> rfl
  | pop => cases interface <;> cases queue <;> rfl
  | resume => cases interface <;> rfl

theorem map_run_signalledQueue (s : State) (es : List Event) :
    (run step s es).map State.signalledQueue =
      run (SignalledQueue.step PCdataTransferMsg_DATA_QUEUE_SIZE)
        s.signalledQueue es :=
  map_run State.signalledQueue map_step s es

/-! ## What is forwarded -/

/-- All datagrams have been received, forwarded and answered. -/
def Done (s : State) : Prop :=
  s.datagrams = [] ∧ s.buf = none ∧ s.rx_data_queue = [] ∧
    s.rx_done_sem = false ∧ s.interface = .waiting

theorem done_signalledQueue (s : State) :
    SignalledQueue.Done s.signalledQueue ↔ Done s := by
  have hinterface : s.interface.consumer = .waiting ↔
      s.interface = .waiting := by
    cases s.interface <;> simp [Interface.consumer]
  simp only [SignalledQueue.Done, Done, State.signalledQueue,
    List.map_eq_nil_iff, hinterface]

/-- Nothing is cut off in total only if nothing is cut off anywhere. -/
theorem length_le_of_flatten {n : ℕ} {frames : List Bytes}
    (h : frames.flatten.length ≤
      (frames.map fun frame => frame.take n).flatten.length) :
    ∀ frame ∈ frames, frame.length ≤ n := by
  have hle : ∀ frames : List Bytes,
      (frames.map fun frame => frame.take n).flatten.length ≤
        frames.flatten.length := by
    intro frames
    induction frames with
    | nil => exact le_rfl
    | cons frame frames ih =>
        simp only [List.map_cons, List.flatten_cons, List.length_append,
          List.length_take]
        omega
  induction frames with
  | nil => simp
  | cons frame frames ih =>
      have hrest := hle frames
      simp only [List.map_cons, List.flatten_cons, List.length_append,
        List.length_take] at h
      exact List.forall_mem_cons.mpr ⟨by omega, ih (by omega)⟩

theorem map_recvfrom {frames : List Bytes}
    (h : ∀ frame ∈ frames, frame.length ≤ MAX_BUF_SIZE) :
    frames.map recvfrom = frames := by
  calc
    frames.map recvfrom = frames.map id :=
      List.map_congr_left fun frame hframe =>
        List.take_of_length_le (h frame hframe)
    _ = frames := List.map_id frames

/-- In a finished run `forward` is called with exactly the frames exactly if
each of them fits into the receive buffer and the schedule empties the queue
just at their ends. -/
theorem forwarded_eq_iff {frames : List Bytes} {es : List Event} {s : State}
    (hrun : run step { datagrams := frames } es = some s) (hdone : Done s) :
    s.forwarded = frames ↔
      (∀ frame ∈ frames, frame.length ≤ MAX_BUF_SIZE) ∧
        sizes 0 0 es = frames.map List.length := by
  have hqueue := map_run_signalledQueue { datagrams := frames } es
  rw [hrun, Option.map_some] at hqueue
  have hbatches := batches_eq_iff hqueue.symm ((done_signalledQueue s).mpr hdone)
  constructor
  · intro hforwarded
    have hitems : s.forwarded.flatten = (frames.map recvfrom).flatten := by
      have hconserved := items_run hqueue.symm
      obtain ⟨hdatagrams, hbuf, hempty, -, hinterface⟩ := hdone
      simpa [SignalledQueue.State.items, State.signalledQueue, hdatagrams,
        hbuf, hempty, hinterface, Interface.consumer, Consumer.buffer]
        using hconserved
    rw [hforwarded] at hitems
    have hfits : ∀ frame ∈ frames, frame.length ≤ MAX_BUF_SIZE :=
      length_le_of_flatten (congrArg List.length hitems).le
    refine ⟨hfits, ?_⟩
    rw [map_recvfrom hfits] at hbatches
    exact hbatches.mp hforwarded
  · rintro ⟨hfits, hsizes⟩
    rw [map_recvfrom hfits] at hbatches
    exact hbatches.mpr hsizes

/-- Every run can be finished. -/
theorem exists_done {frames : List Bytes} {es : List Event} {s : State}
    (hrun : run step { datagrams := frames } es = some s) :
    ∃ fs s', run step s fs = some s' ∧ Done s' := by
  have hqueue := map_run_signalledQueue { datagrams := frames } es
  rw [hrun, Option.map_some] at hqueue
  have hstart : Roomy PCdataTransferMsg_DATA_QUEUE_SIZE
      (State.signalledQueue { datagrams := frames }) := by
    refine ⟨?_, by rintro _ ⟨⟩, by rintro _ _ ⟨⟩, fun _ _ => rfl⟩
    simp only [State.signalledQueue, List.forall_mem_map]
    intro frame _
    exact (List.length_take_le _ _).trans (by decide)
  obtain ⟨fs, t, hrest, hdone⟩ := exists_run_done (hstart.run hqueue.symm)
  rw [← map_run_signalledQueue] at hrest
  obtain ⟨s', hrun', rfl⟩ := Option.map_eq_some_iff.mp hrest
  exact ⟨fs, s', hrun', (done_signalledQueue s').mp hdone⟩

/-! ## Commands one after the other, and two at once -/

/-- A start or stop command as the backend sends it. -/
def ctrlFrame (runningStatus : UInt8) : Bytes :=
  FramePacker.packBackend2Master
    (PacketPacker.backend2MasterPack .ctrlMsg ⟨runningStatus⟩)

/-- Receive a datagram of `n` bytes. -/
def receiving (n : ℕ) : List Event :=
  .receive :: List.replicate n .add ++ [.signal]

/-- Forward `n` bytes and answer. -/
def forwarding (n : ℕ) : List Event :=
  .take :: List.replicate (n + 1) .pop ++ [.resume]

theorem forwarded_oneAfterTheOther :
    ∃ s, run step { datagrams := [ctrlFrame 1, ctrlFrame 0] }
        (receiving 9 ++ forwarding 9 ++ receiving 9 ++ forwarding 9) =
          some s ∧ s.forwarded = [ctrlFrame 1, ctrlFrame 0] :=
  have hrun : run step { datagrams := [ctrlFrame 1, ctrlFrame 0] }
      (receiving 9 ++ forwarding 9 ++ receiving 9 ++ forwarding 9) =
        some { datagrams := [], forwarded := [ctrlFrame 1, ctrlFrame 0] } := by
    decide
  ⟨_, hrun, (forwarded_eq_iff hrun ⟨rfl, rfl, rfl, rfl, rfl⟩).mpr
    (by decide)⟩

/-- A start and a stop command arrive before `PCinterface` takes the
semaphore. -/
theorem not_forwarded_together :
    (FrameParser.select .master 0 (ctrlFrame 1) =
      some (.backend2Master .ctrlMsg, [1])) ∧
    (FrameParser.select .master 0 (ctrlFrame 0) =
      some (.backend2Master .ctrlMsg, [0])) ∧
    ∃ s, run step { datagrams := [ctrlFrame 1, ctrlFrame 0] }
        (receiving 9 ++ receiving 9 ++ forwarding 18) = some s ∧ Done s ∧
      s.forwarded = [ctrlFrame 1 ++ ctrlFrame 0] ∧
      s.forwarded ≠ [ctrlFrame 1, ctrlFrame 0] :=
  ⟨by decide, by decide,
    { datagrams := [], forwarded := [ctrlFrame 1 ++ ctrlFrame 0] },
    by decide, ⟨rfl, rfl, rfl, rfl, rfl⟩, rfl, by decide⟩

end Datagrams

end WirelessHarness
