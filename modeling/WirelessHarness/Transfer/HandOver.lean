import Mathlib.Data.List.Perm.Subperm
import WirelessHarness.Protocol.Frame
import WirelessHarness.Support.Handshake

/-!
# Handing a frame over to the radio task

`MsgProc::send` on the slave and `__ProcessBase::__send` on the master are the
same code: the frame goes byte by byte into `tx_data_queue`, `tx_request_sem`
is given and `tx_done_sem` awaited.  The data-transfer task takes the request,
drains the queue into `buffer`, calls `data_transmit` and gives
`tx_done_sem`.  Every wait of the sender may time out, and the result of
`data_transmit` is not looked at.
-/

namespace WirelessHarness

open Runs

namespace HandOver

/-! ## The two tasks -/

def ManagerDataTransferMsg_RXDATA_QUEUE_SIZE : ℕ := 2048

/-- A byte of `tx_data_queue` and the number of the call of `send` that added
it.  The program has only the byte. -/
structure QueuedByte where
  call : ℕ
  value : UInt8
deriving DecidableEq, Repr

def label (call : ℕ) (frame : Bytes) : List QueuedByte :=
  frame.map (QueuedByte.mk call)

@[simp]
theorem length_label (call : ℕ) (frame : Bytes) :
    (label call frame).length = frame.length :=
  List.length_map _

theorem call_of_mem_label {call : ℕ} {frame : Bytes} {b : QueuedByte}
    (hb : b ∈ label call frame) : b.call = call := by
  obtain ⟨value, -, rfl⟩ := List.mem_map.mp hb
  rfl

/-- Where `send` is: in its loop with `rest` still to be added, or at
`tx_done_sem.take`. -/
inductive Sender
  | idle
  | adding (frame rest : List QueuedByte)
  | waiting (frame : List QueuedByte)
deriving DecidableEq, Repr

/-- Where the data-transfer task is: before `tx_request_sem.take`, in the loop
that fills `buffer`, or after `data_transmit`. -/
inductive Transfer
  | idle
  | draining (buffer : List QueuedByte)
  | transmitted
deriving DecidableEq, Repr

/-- A call of `data_transmit`. -/
structure Transmission where
  buffer : List QueuedByte
  ret : Bool
deriving DecidableEq, Repr

/-- A finished call of `send`, with the transmissions made during it. -/
structure Result where
  frame : List QueuedByte
  ret : Bool
  during : List Transmission
deriving DecidableEq, Repr

/-- The queue, the semaphores and the two tasks; `calls`, `transmitted` and
`results` record the calls of `send`, those of `data_transmit` and what `send`
returned, newest first, and `mark` is the number of transmissions made before
the current call. -/
structure State where
  tx_data_queue : List QueuedByte := []
  tx_request_sem : Bool := false
  tx_done_sem : Bool := false
  sender : Sender := .idle
  transfer : Transfer := .idle
  calls : List (List QueuedByte) := []
  transmitted : List Transmission := []
  mark : ℕ := 0
  results : List Result := []
deriving DecidableEq, Repr

def boot : State := {}

inductive Event
  | send (frame : Bytes)
  | add
  | addTimeout
  | giveRequest
  | takeDone
  | doneTimeout
  | takeRequest
  | pop
  | transmit (ret : Bool)
  | giveDone
deriving DecidableEq, Repr

/-- `send` returns. -/
def State.returns (s : State) (frame : List QueuedByte) (ret : Bool) : State :=
  { s with
    sender := .idle
    results := ⟨frame, ret,
      s.transmitted.take (s.transmitted.length - s.mark)⟩ :: s.results }

@[simp] theorem sender_returns (s : State) (frame : List QueuedByte)
    (ret : Bool) : (s.returns frame ret).sender = .idle := rfl

/-- One step of either task.  `add` waits for room and `takeDone` for the
token, so that each of them times out only where it could not go on. -/
def step (s : State) : Event → Option State
  | .send frame =>
      match s.sender with
      | .idle =>
          some { s with
            sender := .adding (label s.calls.length frame)
              (label s.calls.length frame)
            calls := label s.calls.length frame :: s.calls
            mark := s.transmitted.length }
      | _ => none
  | .add =>
      match s.sender with
      | .adding frame (b :: rest) =>
          if s.tx_data_queue.length < ManagerDataTransferMsg_RXDATA_QUEUE_SIZE
          then
            some { s with
              sender := .adding frame rest
              tx_data_queue := s.tx_data_queue ++ [b] }
          else none
      | _ => none
  | .addTimeout =>
      match s.sender with
      | .adding frame (_ :: _) =>
          if s.tx_data_queue.length < ManagerDataTransferMsg_RXDATA_QUEUE_SIZE
          then none
          else some (s.returns frame false)
      | _ => none
  | .giveRequest =>
      match s.sender with
      | .adding frame [] =>
          some { s with sender := .waiting frame, tx_request_sem := true }
      | _ => none
  | .takeDone =>
      match s.sender with
      | .waiting frame =>
          if s.tx_done_sem = true then
            some { s.returns frame true with tx_done_sem := false }
          else none
      | _ => none
  | .doneTimeout =>
      match s.sender with
      | .waiting frame =>
          if s.tx_done_sem = false then some (s.returns frame false) else none
      | _ => none
  | .takeRequest =>
      match s.transfer with
      | .idle =>
          if s.tx_request_sem = true then
            some { s with transfer := .draining [], tx_request_sem := false }
          else none
      | _ => none
  | .pop =>
      match s.transfer, s.tx_data_queue with
      | .draining buffer, b :: queue =>
          some { s with
            transfer := .draining (buffer ++ [b])
            tx_data_queue := queue }
      | _, _ => none
  | .transmit ret =>
      match s.transfer, s.tx_data_queue with
      | .draining buffer, [] =>
          some { s with
            transfer := .transmitted
            transmitted := ⟨buffer, ret⟩ :: s.transmitted }
      | _, _ => none
  | .giveDone =>
      match s.transfer with
      | .transmitted =>
          some { s with transfer := .idle, tx_done_sem := true }
      | _ => none

/-- What each event requires and does. -/
inductive Stepped (s : State) : Event → State → Prop
  | send (frame : Bytes) (hsender : s.sender = .idle) :
      Stepped s (.send frame) { s with
        sender := .adding (label s.calls.length frame)
          (label s.calls.length frame)
        calls := label s.calls.length frame :: s.calls
        mark := s.transmitted.length }
  | add {frame rest : List QueuedByte} {b : QueuedByte}
      (hsender : s.sender = .adding frame (b :: rest))
      (hroom : s.tx_data_queue.length <
        ManagerDataTransferMsg_RXDATA_QUEUE_SIZE) :
      Stepped s .add { s with
        sender := .adding frame rest
        tx_data_queue := s.tx_data_queue ++ [b] }
  | addTimeout {frame rest : List QueuedByte} {b : QueuedByte}
      (hsender : s.sender = .adding frame (b :: rest))
      (hfull : ManagerDataTransferMsg_RXDATA_QUEUE_SIZE ≤
        s.tx_data_queue.length) :
      Stepped s .addTimeout (s.returns frame false)
  | giveRequest {frame : List QueuedByte}
      (hsender : s.sender = .adding frame []) :
      Stepped s .giveRequest
        { s with sender := .waiting frame, tx_request_sem := true }
  | takeDone {frame : List QueuedByte} (hsender : s.sender = .waiting frame)
      (hdone : s.tx_done_sem = true) :
      Stepped s .takeDone { s.returns frame true with tx_done_sem := false }
  | doneTimeout {frame : List QueuedByte}
      (hsender : s.sender = .waiting frame) (hdone : s.tx_done_sem = false) :
      Stepped s .doneTimeout (s.returns frame false)
  | takeRequest (htransfer : s.transfer = .idle)
      (hrequest : s.tx_request_sem = true) :
      Stepped s .takeRequest
        { s with transfer := .draining [], tx_request_sem := false }
  | pop {buffer queue : List QueuedByte} {b : QueuedByte}
      (htransfer : s.transfer = .draining buffer)
      (hqueue : s.tx_data_queue = b :: queue) :
      Stepped s .pop { s with
        transfer := .draining (buffer ++ [b])
        tx_data_queue := queue }
  | transmit {buffer : List QueuedByte} (ret : Bool)
      (htransfer : s.transfer = .draining buffer)
      (hqueue : s.tx_data_queue = []) :
      Stepped s (.transmit ret) { s with
        transfer := .transmitted
        transmitted := ⟨buffer, ret⟩ :: s.transmitted }
  | giveDone (htransfer : s.transfer = .transmitted) :
      Stepped s .giveDone
        { s with transfer := .idle, tx_done_sem := true }

theorem stepped_of_step {s s' : State} {e : Event} (h : step s e = some s') :
    Stepped s e s' := by
  cases e with
  | send frame =>
      simp only [step] at h
      split at h
      next hsender =>
        cases h
        exact .send frame hsender
      next => cases h
  | add =>
      simp only [step] at h
      split at h
      next hsender =>
        split at h
        next hroom =>
          cases h
          exact .add hsender hroom
        next => cases h
      next => cases h
  | addTimeout =>
      simp only [step] at h
      split at h
      next hsender =>
        split at h
        next => cases h
        next hfull =>
          cases h
          exact .addTimeout hsender (not_lt.mp hfull)
      next => cases h
  | giveRequest =>
      simp only [step] at h
      split at h
      next hsender =>
        cases h
        exact .giveRequest hsender
      next => cases h
  | takeDone =>
      simp only [step] at h
      split at h
      next hsender =>
        split at h
        next hdone =>
          cases h
          exact .takeDone hsender hdone
        next => cases h
      next => cases h
  | doneTimeout =>
      simp only [step] at h
      split at h
      next hsender =>
        split at h
        next hdone =>
          cases h
          exact .doneTimeout hsender hdone
        next => cases h
      next => cases h
  | takeRequest =>
      simp only [step] at h
      split at h
      next htransfer =>
        split at h
        next hrequest =>
          cases h
          exact .takeRequest htransfer hrequest
        next => cases h
      next => cases h
  | pop =>
      simp only [step] at h
      split at h
      next htransfer hqueue =>
        cases h
        exact .pop htransfer hqueue
      next => cases h
  | transmit ret =>
      simp only [step] at h
      split at h
      next htransfer hqueue =>
        cases h
        exact .transmit ret htransfer hqueue
      next => cases h
  | giveDone =>
      simp only [step] at h
      split at h
      next htransfer =>
        cases h
        exact .giveDone htransfer
      next => cases h

/-! ## The property -/

/-- Every buffer passed to `data_transmit` is one whole frame given to `send`,
no call has its frame passed twice, and `send` returns true only if
`data_transmit` was called with its frame meanwhile and returned true. -/
structure OneToOne (s : State) : Prop where
  whole : (s.transmitted.map Transmission.buffer).Subperm s.calls
  success : ∀ r ∈ s.results, r.ret = true → ⟨r.frame, true⟩ ∈ r.during

/-- A call starts with nothing left of an earlier one, and the transfer task
does not report a failed transmission as done to a sender that waits. -/
def Orderly (s : State) : Event → Prop
  | .send _ =>
      s.tx_data_queue = [] ∧ s.tx_request_sem = false ∧
        s.transfer = .idle ∧ s.tx_done_sem = false
  | .giveDone =>
      s.sender = .idle ∨ s.transmitted.head?.map Transmission.ret = some true
  | _ => True

instance (s : State) (e : Event) : Decidable (Orderly s e) := by
  cases e <;> simp only [Orderly] <;> infer_instance

/-! ## The handshake -/

def Sender.client : Sender → Handshake.Client
  | .idle => .idle
  | .adding _ _ => .preparing
  | .waiting _ => .waiting

def Transfer.serving : Transfer → Bool
  | .idle => false
  | .draining _ => true
  | .transmitted => true

/-- The two tasks without their bytes. -/
def State.handshake (s : State) : Handshake.State where
  client := s.sender.client
  request := s.tx_request_sem
  serving := s.transfer.serving
  done := s.tx_done_sem

/-- The step of the handshake that an event is, if it is one. -/
def Event.handshake : Event → Option Handshake.Event
  | .send _ => some .start
  | .addTimeout => some .abort
  | .giveRequest => some .post
  | .takeDone => some .acknowledge
  | .doneTimeout => some .abandon
  | .takeRequest => some .accept
  | .giveDone => some .finish
  | .add => none
  | .pop => none
  | .transmit _ => none

/-- The two tasks keep to the handshake. -/
theorem handshake_step {s s' : State} {e : Event} (h : step s e = some s') :
    (∃ e', e.handshake = some e' ∧
        Handshake.step s.handshake e' = some s'.handshake) ∨
      e.handshake = none ∧ s'.handshake = s.handshake := by
  cases stepped_of_step h with
  | send frame hsender =>
      refine Or.inl ⟨.start, rfl, ?_⟩
      simp [Handshake.step, State.handshake, Sender.client, hsender]
  | add hsender hroom =>
      refine Or.inr ⟨rfl, ?_⟩
      simp [State.handshake, Sender.client, hsender]
  | addTimeout hsender hfull =>
      refine Or.inl ⟨.abort, rfl, ?_⟩
      simp [Handshake.step, State.handshake, Sender.client, hsender,
        State.returns]
  | giveRequest hsender =>
      refine Or.inl ⟨.post, rfl, ?_⟩
      simp [Handshake.step, State.handshake, Sender.client, hsender]
  | takeDone hsender hdone =>
      refine Or.inl ⟨.acknowledge, rfl, ?_⟩
      simp [Handshake.step, State.handshake, Sender.client, hsender, hdone,
        State.returns]
  | doneTimeout hsender hdone =>
      refine Or.inl ⟨.abandon, rfl, ?_⟩
      simp [Handshake.step, State.handshake, Sender.client, hsender, hdone,
        State.returns]
  | takeRequest htransfer hrequest =>
      refine Or.inl ⟨.accept, rfl, ?_⟩
      simp [Handshake.step, State.handshake, Transfer.serving, htransfer,
        hrequest]
  | pop htransfer hqueue =>
      refine Or.inr ⟨rfl, ?_⟩
      simp [State.handshake, Transfer.serving, htransfer]
  | transmit ret htransfer hqueue =>
      refine Or.inr ⟨rfl, ?_⟩
      simp [State.handshake, Transfer.serving, htransfer]
  | giveDone htransfer =>
      refine Or.inl ⟨.finish, rfl, ?_⟩
      simp [Handshake.step, State.handshake, Transfer.serving, htransfer]

theorem paired_step {s s' : State} {e : Event}
    (hs : Handshake.Paired s.handshake) (hC : Orderly s e)
    (h : step s e = some s') : Handshake.Paired s'.handshake := by
  obtain ⟨e', he, hstep⟩ | ⟨-, heq⟩ := handshake_step h
  · refine hs.step (fun hstart => ?_) hstep
    subst hstart
    cases e with
    | send frame =>
        obtain ⟨-, hrequest, htransfer, hdone⟩ := hC
        exact ⟨hrequest, congrArg Transfer.serving htransfer, hdone⟩
    | _ => cases he
  · rw [heq]
    exact hs

/-! ## Where the bytes of the current frame are -/

def Sender.rest : Sender → List QueuedByte
  | .adding _ rest => rest
  | _ => []

def Sender.frame : Sender → Option (List QueuedByte)
  | .idle => none
  | .adding frame _ => some frame
  | .waiting frame => some frame

def Transfer.buffer : Transfer → List QueuedByte
  | .draining buffer => buffer
  | _ => []

/-- The bytes on their way, in order. -/
def State.collected (s : State) : List QueuedByte :=
  s.transfer.buffer ++ s.tx_data_queue ++ s.sender.rest

def Transfer.collecting : Transfer → Bool
  | .draining _ => true
  | _ => false

/-- A frame is being added, requested or collected. -/
def Underway (s : State) : Prop :=
  s.sender.client = .preparing ∨ s.tx_request_sem = true ∨
    s.transfer.collecting = true

/-- What the transfer task has handed to `data_transmit` is no longer under
way. -/
theorem not_underway_of_transmitted {s : State}
    (hpaired : Handshake.Paired s.handshake)
    (htransfer : s.transfer = .transmitted) : ¬ Underway s := by
  obtain ⟨hclient, hrequest⟩ := hpaired.of_serving (by
    rw [State.handshake, htransfer, Transfer.serving])
  rintro (hadding | hrequested | hcollecting)
  · exact hclient hadding
  · exact Bool.false_ne_true (hrequest.symm.trans hrequested)
  · simp [htransfer, Transfer.collecting] at hcollecting

theorem not_underway {s : State} (hclient : s.sender.client ≠ .preparing)
    (hrequest : s.tx_request_sem = false)
    (hserving : s.transfer.serving = false) : ¬ Underway s := by
  rintro (h | h | h)
  · exact hclient h
  · exact Bool.false_ne_true (hrequest.symm.trans h)
  · cases htransfer : s.transfer <;>
      simp [htransfer, Transfer.serving, Transfer.collecting] at h hserving

theorem client_idle_ne_preparing : Sender.idle.client ≠ .preparing := by
  simp [Sender.client]

theorem rest_of_client {sender : Sender} (h : sender.client ≠ .preparing) :
    sender.rest = [] := by
  cases sender with
  | adding frame rest => exact absurd rfl h
  | _ => rfl

/-- The frame under way is the newest one and its bytes are where they should
be, and those transmitted are earlier ones. -/
structure Ordered (s : State) : Prop where
  earlier : (s.transmitted.map Transmission.buffer).Sublist s.calls
  underway : Underway s → ∃ calls, s.calls = s.collected :: calls ∧
    (s.transmitted.map Transmission.buffer).Sublist calls

theorem Ordered.step {s s' : State} {e : Event} (hs : Ordered s)
    (hpaired : Handshake.Paired s.handshake) (hC : Orderly s e)
    (h : HandOver.step s e = some s') : Ordered s' := by
  cases stepped_of_step h with
  | send frame hsender =>
      obtain ⟨hqueue, hrequest, htransfer, hdone⟩ := hC
      refine ⟨hs.earlier.cons _, fun _ => ⟨s.calls, ?_, hs.earlier⟩⟩
      simp [State.collected, htransfer, hqueue, Transfer.buffer, Sender.rest]
  | add hsender hroom =>
      refine ⟨hs.earlier, fun _ => ?_⟩
      obtain ⟨calls, hcalls, hsub⟩ := hs.underway (Or.inl (by
        rw [hsender, Sender.client]))
      refine ⟨calls, ?_, hsub⟩
      simpa [State.collected, hsender, Sender.rest] using hcalls
  | addTimeout hsender hfull =>
      obtain ⟨hrequest, hserving, -⟩ := hpaired.preparing (by
        rw [State.handshake, hsender, Sender.client])
      refine ⟨hs.earlier, fun hunderway => ?_⟩
      exact absurd hunderway
        (not_underway client_idle_ne_preparing hrequest hserving)
  | giveRequest hsender =>
      refine ⟨hs.earlier, fun _ => ?_⟩
      obtain ⟨calls, hcalls, hsub⟩ := hs.underway (Or.inl (by
        rw [hsender, Sender.client]))
      refine ⟨calls, ?_, hsub⟩
      simpa [State.collected, hsender, Sender.rest] using hcalls
  | takeDone hsender hdone =>
      obtain ⟨hrequest, hserving⟩ := hpaired.of_done hdone
      refine ⟨hs.earlier, fun hunderway => ?_⟩
      exact absurd hunderway
        (not_underway client_idle_ne_preparing hrequest hserving)
  | doneTimeout hsender hdone =>
      refine ⟨hs.earlier, fun hunderway => ?_⟩
      obtain ⟨calls, hcalls, hsub⟩ :=
        hs.underway (Or.inr (hunderway.resolve_left client_idle_ne_preparing))
      refine ⟨calls, ?_, hsub⟩
      simpa [State.collected, State.returns, hsender, Sender.rest] using hcalls
  | takeRequest htransfer hrequest =>
      refine ⟨hs.earlier, fun _ => ?_⟩
      obtain ⟨calls, hcalls, hsub⟩ := hs.underway (Or.inr (Or.inl hrequest))
      refine ⟨calls, ?_, hsub⟩
      simpa [State.collected, htransfer, Transfer.buffer] using hcalls
  | pop htransfer hqueue =>
      refine ⟨hs.earlier, fun _ => ?_⟩
      obtain ⟨calls, hcalls, hsub⟩ := hs.underway (Or.inr (Or.inr (by
        rw [htransfer, Transfer.collecting])))
      refine ⟨calls, ?_, hsub⟩
      simpa [State.collected, htransfer, hqueue, Transfer.buffer] using hcalls
  | transmit ret htransfer hqueue =>
      obtain ⟨hclient, hrequest⟩ := hpaired.of_serving (by
        rw [State.handshake, htransfer, Transfer.serving])
      obtain ⟨calls, hcalls, hsub⟩ := hs.underway (Or.inr (Or.inr (by
        rw [htransfer, Transfer.collecting])))
      simp only [State.collected, htransfer, hqueue, Transfer.buffer,
        rest_of_client hclient, List.append_nil] at hcalls
      constructor
      · rw [hcalls]
        exact hsub.cons_cons _
      · rintro (hadding | hrequested | hcollecting)
        · exact absurd hadding hclient
        · exact absurd (hrequest.symm.trans hrequested) Bool.false_ne_true
        · cases hcollecting
  | giveDone htransfer =>
      obtain ⟨hclient, hrequest⟩ := hpaired.of_serving (by
        rw [State.handshake, htransfer, Transfer.serving])
      refine ⟨hs.earlier, fun hunderway => ?_⟩
      exact absurd hunderway (not_underway hclient hrequest rfl)

/-- The sender is at work on the newest frame.  Once that is no longer under
way while the sender waits, it has been transmitted since the call, and if it
is reported as done, then with success. -/
structure Answered (s : State) : Prop where
  current : ∀ frame, s.sender.frame = some frame → s.calls.head? = some frame
  mark : s.mark ≤ s.transmitted.length
  answered : ∀ frame, s.sender = .waiting frame → ¬ Underway s →
    s.mark < s.transmitted.length ∧ ∃ ret,
      s.transmitted.head? = some ⟨frame, ret⟩ ∧
        (s.tx_done_sem = true → ret = true)

/-- While the frame is under way there is nothing to show. -/
theorem Answered.of_underway {s s' : State} (hs : Answered s)
    (hframe : s'.sender.frame = s.sender.frame) (hcalls : s'.calls = s.calls)
    (hmark : s'.mark = s.mark) (htransmitted : s'.transmitted = s.transmitted)
    (hunderway : Underway s') : Answered s' := by
  constructor
  · rw [hframe, hcalls]
    exact hs.current
  · rw [hmark, htransmitted]
    exact hs.mark
  · exact fun _ _ hnot => absurd hunderway hnot

theorem Answered.of_idle {s s' : State} (hs : Answered s)
    (hsender : s'.sender = .idle) (hmark : s'.mark = s.mark)
    (htransmitted : s'.transmitted = s.transmitted) : Answered s' := by
  constructor
  · simp [hsender, Sender.frame]
  · rw [hmark, htransmitted]
    exact hs.mark
  · simp [hsender]

theorem Answered.step {s s' : State} {e : Event} (hs : Answered s)
    (hpaired : Handshake.Paired s.handshake) (hordered : Ordered s)
    (hC : Orderly s e) (h : HandOver.step s e = some s') : Answered s' := by
  cases stepped_of_step h with
  | send frame hsender =>
      exact ⟨fun frame' hframe => hframe, le_rfl, by rintro _ ⟨⟩⟩
  | add hsender hroom =>
      exact hs.of_underway (by rw [hsender]; rfl) rfl rfl rfl (Or.inl rfl)
  | giveRequest hsender =>
      exact hs.of_underway (by rw [hsender]; rfl) rfl rfl rfl
        (Or.inr (Or.inl rfl))
  | addTimeout _ _ | takeDone _ _ | doneTimeout _ _ =>
      exact hs.of_idle rfl rfl rfl
  | takeRequest _ _ | pop _ _ =>
      exact hs.of_underway rfl rfl rfl rfl (Or.inr (Or.inr rfl))
  | transmit ret htransfer hqueue =>
      have hserving : s.handshake.serving = true := by
        rw [State.handshake, htransfer, Transfer.serving]
      obtain ⟨hclient, hrequest⟩ := hpaired.of_serving hserving
      obtain ⟨calls, hcalls, -⟩ := hordered.underway (Or.inr (Or.inr (by
        rw [htransfer, Transfer.collecting])))
      simp only [State.collected, htransfer, hqueue, Transfer.buffer,
        rest_of_client hclient, List.append_nil] at hcalls
      refine ⟨hs.current, hs.mark.trans (Nat.le_succ _), ?_⟩
      intro frame hwaiting _
      have hcurrent := hs.current frame (by rw [hwaiting, Sender.frame])
      rw [hcalls, List.head?_cons, Option.some.injEq] at hcurrent
      refine ⟨Nat.lt_succ_of_le hs.mark, ret, ?_, fun hdone => ?_⟩
      · rw [List.head?_cons, hcurrent]
      · exact absurd ((hpaired.serving hserving).symm.trans hdone)
          Bool.false_ne_true
  | giveDone htransfer =>
      have hnot := not_underway_of_transmitted hpaired htransfer
      refine ⟨hs.current, hs.mark, ?_⟩
      intro frame hwaiting _
      obtain ⟨hmark, ret, hhead, -⟩ := hs.answered frame hwaiting hnot
      refine ⟨hmark, ret, hhead, fun _ => ?_⟩
      obtain hidle | htrue := hC
      · rw [show s.sender = .idle from hidle] at hwaiting
        cases hwaiting
      · simpa [hhead] using htrue

/-- What holds between the steps of an orderly run. -/
structure Orderliness (s : State) : Prop where
  paired : Handshake.Paired s.handshake
  ordered : Ordered s
  answered : Answered s
  success : ∀ r ∈ s.results, r.ret = true → ⟨r.frame, true⟩ ∈ r.during

theorem mem_take_of_head? {α : Type*} {a : α} {l : List α} {n : ℕ}
    (hn : 0 < n) (h : l.head? = some a) : a ∈ l.take n := by
  obtain ⟨l', rfl⟩ := List.head?_eq_some_iff.mp h
  obtain ⟨n, rfl⟩ := Nat.exists_eq_succ_of_ne_zero hn.ne'
  exact List.mem_cons_self

theorem results_step {s s' : State} {e : Event} (hs : Orderliness s)
    (h : step s e = some s') :
    ∀ r ∈ s'.results, r.ret = true → ⟨r.frame, true⟩ ∈ r.during := by
  cases stepped_of_step h with
  | takeDone hsender hdone =>
      obtain ⟨hrequest, hserving⟩ := hs.paired.of_done hdone
      have hnot : ¬ Underway s := not_underway
        (by simp [hsender, Sender.client]) hrequest hserving
      obtain ⟨hmark, ret, hhead, hret⟩ :=
        hs.answered.answered _ hsender hnot
      rw [hret hdone] at hhead
      exact List.forall_mem_cons.mpr
        ⟨fun _ => mem_take_of_head? (Nat.sub_pos_of_lt hmark) hhead,
          hs.success⟩
  | addTimeout hsender hfull =>
      exact List.forall_mem_cons.mpr ⟨by simp, hs.success⟩
  | doneTimeout hsender hdone =>
      exact List.forall_mem_cons.mpr ⟨by simp, hs.success⟩
  | _ => exact hs.success

theorem Orderliness.step {s s' : State} {e : Event} (hs : Orderliness s)
    (hC : Orderly s e) (h : HandOver.step s e = some s') :
    Orderliness s' where
  paired := paired_step hs.paired hC h
  ordered := hs.ordered.step hs.paired hC h
  answered := hs.answered.step hs.paired hs.ordered hC h
  success := results_step hs h

theorem orderliness_boot : Orderliness boot where
  paired := Handshake.paired_of_idle rfl ⟨rfl, rfl, rfl⟩
  ordered := ⟨List.nil_sublist _, fun h => absurd h
    (not_underway client_idle_ne_preparing rfl rfl)⟩
  answered := ⟨by simp [boot, Sender.frame], le_rfl, by simp [boot]⟩
  success := by simp [boot]

/-- In a run whose steps are all orderly the hand-over is one-to-one. -/
theorem oneToOne_of_orderly {es : List Event} {s : State}
    (hC : Meets step Orderly boot es) (hrun : run step boot es = some s) :
    OneToOne s := by
  have hs := run_invariant_of_meets (fun _ _ _ h => h.step) orderliness_boot
    hC hrun
  exact ⟨hs.ordered.earlier.subperm, hs.success⟩

/-- The first of two calls succeeds; the second times out while the transfer
task is at work, and its transmission fails. -/
def twoFrames : List Event :=
  [.send [0x01, 0x02], .add, .add, .giveRequest, .takeRequest, .pop, .pop,
    .transmit true, .giveDone, .takeDone, .send [0x03], .add, .giveRequest,
    .takeRequest, .doneTimeout, .pop, .transmit false, .giveDone]

theorem oneToOne_twoFrames :
    ∃ s, run step boot twoFrames = some s ∧
      s.results.map Result.ret = [false, true] ∧ OneToOne s :=
  ⟨_, rfl, rfl, @oneToOne_of_orderly twoFrames _ (by decide) rfl⟩

/-- After a time-out two frames leave in one buffer; and a transmission that
failed is reported as a success. -/
theorem not_oneToOne_lateRequest :
    (∃ s, run step boot [.send [0x01], .add, .giveRequest, .doneTimeout,
        .send [0x02], .add, .giveRequest, .takeRequest, .pop, .pop,
        .transmit true] = some s ∧
      s.transmitted = [⟨[⟨0, 0x01⟩, ⟨1, 0x02⟩], true⟩] ∧ ¬ OneToOne s) ∧
    ∃ s, run step boot [.send [0x01], .add, .giveRequest, .takeRequest, .pop,
        .transmit false, .giveDone, .takeDone] = some s ∧
      s.results.map Result.ret = [true] ∧ ¬ OneToOne s := by
  constructor
  · refine ⟨_, rfl, rfl, fun h => ?_⟩
    exact absurd (h.whole.subset (List.mem_singleton_self _)) (by decide)
  · refine ⟨_, rfl, rfl, fun h => ?_⟩
    exact absurd (h.success _ (List.mem_singleton_self _) rfl) (by decide)

/-! ## Runs in which nothing times out and nothing fails -/

/-- No wait of `send` times out and `data_transmit` succeeds. -/
def Timely : Event → Prop
  | .addTimeout => False
  | .doneTimeout => False
  | .transmit ret => ret = true
  | _ => True

/-- Between calls nothing is left behind, and what the transfer task is about
to report as done was sent. -/
structure Settled (s : State) : Prop where
  paired : Handshake.Paired s.handshake
  quiet : s.sender = .idle → Handshake.Quiet s.handshake
  drained : ¬ Underway s → s.tx_data_queue = []
  sent : s.transfer = .transmitted →
    s.transmitted.head?.map Transmission.ret = some true

theorem Settled.orderly {s : State} {e : Event} (hs : Settled s) {s' : State}
    (h : HandOver.step s e = some s') : Orderly s e := by
  cases stepped_of_step h with
  | send frame hsender =>
      obtain ⟨hrequest, hserving, hdone⟩ := hs.quiet hsender
      have hnot := not_underway (s := s) (by simp [hsender, Sender.client]) hrequest
        hserving
      refine ⟨hs.drained hnot, hrequest, ?_, hdone⟩
      cases htransfer : s.transfer with
      | idle => rfl
      | _ => simp [State.handshake, htransfer, Transfer.serving] at hserving
  | giveDone htransfer => exact Or.inr (hs.sent htransfer)
  | _ => trivial

theorem sender_of_client {s : State} (h : s.handshake.client = .idle) :
    s.sender = .idle := by
  cases hsender : s.sender with
  | idle => rfl
  | _ => simp [State.handshake, hsender, Sender.client] at h

theorem Settled.quiet_step {s s' : State} {e : Event} (hs : Settled s)
    (he : Timely e) (h : HandOver.step s e = some s')
    (hsender : s'.sender = .idle) : Handshake.Quiet s'.handshake := by
  have hclient : s'.handshake.client = .idle := by
    rw [State.handshake, hsender, Sender.client]
  obtain ⟨e', he', hstep⟩ | ⟨-, heq⟩ := handshake_step h
  · refine Handshake.quiet_of_timely hs.paired
      (fun hidle => hs.quiet (sender_of_client hidle)) ?_ hstep hclient
    rintro rfl
    cases e with
    | doneTimeout => exact he
    | _ => cases he'
  · rw [heq] at hclient ⊢
    exact hs.quiet (sender_of_client hclient)

theorem Settled.step {s s' : State} {e : Event} (hs : Settled s)
    (he : Timely e) (h : HandOver.step s e = some s') : Settled s' := by
  refine ⟨paired_step hs.paired (hs.orderly h) h, hs.quiet_step he h, ?_, ?_⟩
  · cases stepped_of_step h with
    | send frame hsender => exact fun hnot => absurd (Or.inl rfl) hnot
    | add hsender hroom => exact fun hnot => absurd (Or.inl rfl) hnot
    | addTimeout hsender hfull => exact he.elim
    | giveRequest hsender =>
        exact fun hnot => absurd (Or.inr (Or.inl rfl)) hnot
    | takeDone hsender hdone =>
        obtain ⟨hrequest, hserving⟩ := hs.paired.of_done hdone
        exact fun _ => hs.drained
          (not_underway (by simp [hsender, Sender.client]) hrequest hserving)
    | doneTimeout hsender hdone => exact he.elim
    | takeRequest htransfer hrequest =>
        exact fun hnot => absurd (Or.inr (Or.inr rfl)) hnot
    | pop htransfer hqueue =>
        exact fun hnot => absurd (Or.inr (Or.inr rfl)) hnot
    | transmit ret htransfer hqueue => exact fun _ => hqueue
    | giveDone htransfer =>
        exact fun _ =>
          hs.drained (not_underway_of_transmitted hs.paired htransfer)
  · cases stepped_of_step h with
    | takeRequest htransfer hrequest => simp
    | pop htransfer hqueue => simp
    | transmit ret htransfer hqueue => exact fun _ => congrArg some he
    | giveDone htransfer => simp
    | _ => exact hs.sent

theorem oneToOne_of_timely {es : List Event} {s : State}
    (hes : ∀ e ∈ es, Timely e) (hrun : run step boot es = some s) :
    OneToOne s := by
  have hboot : Settled boot :=
    ⟨orderliness_boot.paired, fun _ => ⟨rfl, rfl, rfl⟩, fun _ => rfl,
      by simp [boot]⟩
  have hs := run_invariant_of_meets
    (I := fun s => Settled s ∧ Orderliness s)
    (fun _ _ _ h he hstep =>
      ⟨h.1.step he hstep, h.2.step (h.1.orderly hstep) hstep⟩)
    ⟨hboot, orderliness_boot⟩ (meets_of_forall hes boot) hrun
  exact ⟨hs.2.ordered.earlier.subperm, hs.2.success⟩

end HandOver

end WirelessHarness
