import Mathlib.Data.List.Count
import WirelessHarness.Master.ShareMem
import WirelessHarness.Support.Handshake

/-!
# Publishing to the backend

`PCinterface::rsp` and `SlaveManager::read_cond_data_process` publish through
one `ShareMem`, one request and one done semaphore: each gets the write access,
writes its frame, gives the request and waits for the completion.
`PCdataTransfer` takes the request and sends what the memory holds.  The
results of `write` and of the wait change nothing for the writer.
-/

namespace WirelessHarness

open Runs

namespace Publication

/-! ## The tasks -/

/-- A byte of the memory and the number of the publication that stored it.  The
program has only the byte. -/
structure Cell where
  publication : ℕ
  value : UInt8
deriving DecidableEq, Repr

def label (publication : ℕ) (frame : Bytes) : List Cell :=
  frame.map (Cell.mk publication)

/-- Where a writer is: after `get_write_access`, in `write` before and in its
copying loop, after `write`, at `tx_done_sem.take`, or before
`release_write_access`. -/
inductive WriterAt
  | outside
  | entered
  | begun (frame : List Cell)
  | copying (frame rest : List Cell)
  | written (frame : List Cell)
  | waiting (frame : List Cell)
  | leaving
deriving DecidableEq, Repr

/-- Where `PCdataTransfer` is: before `tx_request_sem.take`, before `lock`,
before `size`, in `sendto`, before `unlock` or before `tx_done_sem.give`. -/
inductive Transfer
  | idle
  | requested
  | locked
  | sending (size : ℕ) (bytes : List Cell)
  | sent
  | unlocked
deriving DecidableEq, Repr

/-- A publication that is over for its writer. -/
structure Result where
  frame : List Cell
  ret : Bool
deriving DecidableEq, Repr

/-- `publications`, `sends` and `results` record the frames given to `write`,
what `sendto` sent and how `tx_done_sem.take` ended, newest first. -/
structure State where
  mem : ShareMem Cell
  tx_request_sem : Bool := false
  tx_done_sem : Bool := false
  writer : Writer → WriterAt := fun _ => .outside
  transfer : Transfer := .idle
  publications : List (List Cell) := []
  sends : List (List Cell) := []
  results : List Result := []

def boot (mem : ShareMem Cell) : State where
  mem

inductive Event
  | getWriteAccess (w : Writer)
  | write (w : Writer) (frame : Bytes)
  | lockSize (w : Writer)
  | copy (w : Writer)
  | endWrite (w : Writer)
  | giveRequest (w : Writer)
  | takeDone (w : Writer)
  | doneTimeout (w : Writer)
  | releaseWriteAccess (w : Writer)
  | takeRequest
  | lock
  | readSize
  | sendByte
  | sendto
  | unlock
  | giveDone
deriving DecidableEq, Repr

/-- The writer goes on at `pc`. -/
def State.goto (s : State) (w : Writer) (pc : WriterAt) : State :=
  { s with writer := Function.update s.writer w pc }

/-- One step of a task.  A frame that `write` refuses is requested all the
same. -/
def step (s : State) : Event → Option State
  | .getWriteAccess w =>
      match s.writer w, s.mem.getWriteAccess with
      | .outside, (true, mem) => some ({ s with mem }.goto w .entered)
      | .outside, (false, mem) => some { s with mem }
      | _, _ => none
  | .write w frame =>
      let frame := label s.publications.length frame
      match s.writer w, s.mem.beginWrite (some frame) with
      | .entered, (granted, mem) =>
          some ({ s with
            mem
            publications := frame :: s.publications }.goto w
              (if granted then .begun frame else .written frame))
      | _, _ => none
  | .lockSize w =>
      match s.writer w with
      | .begun frame =>
          some ({ s with mem := s.mem.lockSize frame.length }.goto w
            (.copying frame frame))
      | _ => none
  | .copy w =>
      match s.writer w with
      | .copying frame (c :: rest) =>
          some ({ s with
            mem := s.mem.storeCell (frame.length - (c :: rest).length) c }.goto w
              (.copying frame rest))
      | _ => none
  | .endWrite w =>
      match s.writer w with
      | .copying frame [] =>
          some ({ s with mem := s.mem.unlock }.goto w (.written frame))
      | _ => none
  | .giveRequest w =>
      match s.writer w with
      | .written frame =>
          some ({ s with tx_request_sem := true }.goto w (.waiting frame))
      | _ => none
  | .takeDone w =>
      match s.writer w, s.tx_done_sem with
      | .waiting frame, true =>
          some ({ s with
            tx_done_sem := false
            results := ⟨frame, true⟩ :: s.results }.goto w .leaving)
      | _, _ => none
  | .doneTimeout w =>
      match s.writer w, s.tx_done_sem with
      | .waiting frame, false =>
          some ({ s with results := ⟨frame, false⟩ :: s.results }.goto w
            .leaving)
      | _, _ => none
  | .releaseWriteAccess w =>
      match s.writer w with
      | .leaving =>
          some ({ s with mem := s.mem.releaseWriteAccess }.goto w .outside)
      | _ => none
  | .takeRequest =>
      match s.transfer, s.tx_request_sem with
      | .idle, true =>
          some { s with transfer := .requested, tx_request_sem := false }
      | _, _ => none
  | .lock =>
      match s.transfer with
      | .requested => some { s with transfer := .locked, mem := s.mem.lock.2 }
      | _ => none
  | .readSize =>
      match s.transfer with
      | .locked => some { s with transfer := .sending s.mem.size [] }
      | _ => none
  | .sendByte =>
      match s.transfer with
      | .sending size bytes =>
          if bytes.length < size then
            some { s with
              transfer := .sending size
                (bytes ++ [s.mem.shared_mem bytes.length]) }
          else none
      | _ => none
  | .sendto =>
      match s.transfer with
      | .sending size bytes =>
          if bytes.length < size then none
          else some { s with transfer := .sent, sends := bytes :: s.sends }
      | _ => none
  | .unlock =>
      match s.transfer with
      | .sent => some { s with transfer := .unlocked, mem := s.mem.unlock }
      | _ => none
  | .giveDone =>
      match s.transfer with
      | .unlocked => some { s with transfer := .idle, tx_done_sem := true }
      | _ => none

/-- What each event requires and does. -/
inductive Stepped (s : State) : Event → State → Prop
  | getWriteAccess {w : Writer} (hpc : s.writer w = .outside)
      (pc : WriterAt) (hpc' : pc = .entered ∨ pc = .outside) :
      Stepped s (.getWriteAccess w)
        ({ s with mem := s.mem.getWriteAccess.2 }.goto w pc)
  | write {w : Writer} (frame : Bytes) (hpc : s.writer w = .entered) :
      Stepped s (.write w frame) ({ s with
        mem :=
          (s.mem.beginWrite (some (label s.publications.length frame))).2
        publications :=
          label s.publications.length frame :: s.publications }.goto w
        (if (s.mem.beginWrite (some (label s.publications.length frame))).1
          then .begun (label s.publications.length frame)
          else .written (label s.publications.length frame)))
  | lockSize {w : Writer} {frame : List Cell} (hpc : s.writer w = .begun frame) :
      Stepped s (.lockSize w)
        ({ s with mem := s.mem.lockSize frame.length }.goto w
          (.copying frame frame))
  | copy {w : Writer} {frame rest : List Cell} {c : Cell}
      (hpc : s.writer w = .copying frame (c :: rest)) :
      Stepped s (.copy w)
        ({ s with
          mem := s.mem.storeCell (frame.length - (c :: rest).length) c }.goto w
            (.copying frame rest))
  | endWrite {w : Writer} {frame : List Cell}
      (hpc : s.writer w = .copying frame []) :
      Stepped s (.endWrite w)
        ({ s with mem := s.mem.unlock }.goto w (.written frame))
  | giveRequest {w : Writer} {frame : List Cell}
      (hpc : s.writer w = .written frame) :
      Stepped s (.giveRequest w)
        ({ s with tx_request_sem := true }.goto w (.waiting frame))
  | takeDone {w : Writer} {frame : List Cell}
      (hpc : s.writer w = .waiting frame) (hdone : s.tx_done_sem = true) :
      Stepped s (.takeDone w)
        ({ s with
          tx_done_sem := false
          results := ⟨frame, true⟩ :: s.results }.goto w .leaving)
  | doneTimeout {w : Writer} {frame : List Cell}
      (hpc : s.writer w = .waiting frame) (hdone : s.tx_done_sem = false) :
      Stepped s (.doneTimeout w)
        ({ s with results := ⟨frame, false⟩ :: s.results }.goto w .leaving)
  | releaseWriteAccess {w : Writer} (hpc : s.writer w = .leaving) :
      Stepped s (.releaseWriteAccess w)
        ({ s with mem := s.mem.releaseWriteAccess }.goto w .outside)
  | takeRequest (htransfer : s.transfer = .idle)
      (hrequest : s.tx_request_sem = true) :
      Stepped s .takeRequest
        { s with transfer := .requested, tx_request_sem := false }
  | lock (htransfer : s.transfer = .requested) :
      Stepped s .lock { s with transfer := .locked, mem := s.mem.lock.2 }
  | readSize (htransfer : s.transfer = .locked) :
      Stepped s .readSize { s with transfer := .sending s.mem.size [] }
  | sendByte {size : ℕ} {bytes : List Cell}
      (htransfer : s.transfer = .sending size bytes)
      (hmore : bytes.length < size) :
      Stepped s .sendByte { s with
        transfer := .sending size
          (bytes ++ [s.mem.shared_mem bytes.length]) }
  | sendto {size : ℕ} {bytes : List Cell}
      (htransfer : s.transfer = .sending size bytes)
      (hall : size ≤ bytes.length) :
      Stepped s .sendto { s with transfer := .sent, sends := bytes :: s.sends }
  | unlock (htransfer : s.transfer = .sent) :
      Stepped s .unlock { s with transfer := .unlocked, mem := s.mem.unlock }
  | giveDone (htransfer : s.transfer = .unlocked) :
      Stepped s .giveDone { s with transfer := .idle, tx_done_sem := true }

theorem stepped_of_step {s s' : State} {e : Event} (h : step s e = some s') :
    Stepped s e s' := by
  cases e with
  | getWriteAccess w =>
      simp only [step] at h
      split at h
      next mem hpc heq =>
        cases h
        rw [show mem = s.mem.getWriteAccess.2 by rw [heq]]
        exact .getWriteAccess hpc .entered (Or.inl rfl)
      next mem hpc heq =>
        cases h
        have hstay : ({ s with mem } : State) =
            ({ s with mem := s.mem.getWriteAccess.2 }.goto w .outside) := by
          rw [heq, State.goto, ← hpc, Function.update_eq_self]
        rw [hstay]
        exact .getWriteAccess hpc .outside (Or.inr rfl)
      next => cases h
  | write w frame =>
      simp only [step] at h
      split at h
      next granted mem hpc heq =>
        cases h
        have hstepped := Stepped.write (s := s) frame hpc
        rw [heq] at hstepped
        exact hstepped
      next => cases h
  | lockSize w =>
      simp only [step] at h
      split at h
      next hpc =>
        cases h
        exact .lockSize hpc
      next => cases h
  | copy w =>
      simp only [step] at h
      split at h
      next hpc =>
        cases h
        exact .copy hpc
      next => cases h
  | endWrite w =>
      simp only [step] at h
      split at h
      next hpc =>
        cases h
        exact .endWrite hpc
      next => cases h
  | giveRequest w =>
      simp only [step] at h
      split at h
      next hpc =>
        cases h
        exact .giveRequest hpc
      next => cases h
  | takeDone w =>
      simp only [step] at h
      split at h
      next hpc hdone =>
        cases h
        exact .takeDone hpc hdone
      next => cases h
  | doneTimeout w =>
      simp only [step] at h
      split at h
      next hpc hdone =>
        cases h
        exact .doneTimeout hpc hdone
      next => cases h
  | releaseWriteAccess w =>
      simp only [step] at h
      split at h
      next hpc =>
        cases h
        exact .releaseWriteAccess hpc
      next => cases h
  | takeRequest =>
      simp only [step] at h
      split at h
      next htransfer hrequest =>
        cases h
        exact .takeRequest htransfer hrequest
      next => cases h
  | lock =>
      simp only [step] at h
      split at h
      next htransfer =>
        cases h
        exact .lock htransfer
      next => cases h
  | readSize =>
      simp only [step] at h
      split at h
      next htransfer =>
        cases h
        exact .readSize htransfer
      next => cases h
  | sendByte =>
      simp only [step] at h
      split at h
      next htransfer =>
        obtain ⟨hmore, heq⟩ := Option.ite_none_right_eq_some.mp h
        cases heq
        exact .sendByte htransfer hmore
      next => cases h
  | sendto =>
      simp only [step] at h
      split at h
      next htransfer =>
        obtain ⟨hall, heq⟩ := Option.ite_none_left_eq_some.mp h
        cases heq
        exact .sendto htransfer (not_lt.mp hall)
      next => cases h
  | unlock =>
      simp only [step] at h
      split at h
      next htransfer =>
        cases h
        exact .unlock htransfer
      next => cases h
  | giveDone =>
      simp only [step] at h
      split at h
      next htransfer =>
        cases h
        exact .giveDone htransfer
      next => cases h

/-! ## The property -/

/-- No `sendto` sends bytes of two frames, and the frame of every publication
that was not reported as failed was sent exactly once. -/
structure Delivers (s : State) : Prop where
  unmixed : ∀ bytes ∈ s.sends, ∀ a ∈ bytes, ∀ b ∈ bytes,
    a.publication = b.publication
  once : ∀ r ∈ s.results, r.frame ≠ [] → r.ret = true →
    s.sends.count r.frame = 1

/-- Whether the writer is between its `write` and its `take`. -/
def WriterAt.client : WriterAt → Handshake.Client
  | .outside => .idle
  | .entered => .idle
  | .begun _ => .preparing
  | .copying _ _ => .preparing
  | .written _ => .preparing
  | .waiting _ => .waiting
  | .leaving => .idle

/-- The frame that the writer publishes. -/
def WriterAt.frame : WriterAt → Option (List Cell)
  | .outside => none
  | .entered => none
  | .begun frame => some frame
  | .copying frame _ => some frame
  | .written frame => some frame
  | .waiting frame => some frame
  | .leaving => none

theorem WriterAt.client_ne_idle {pc : WriterAt} {frame : List Cell}
    (h : pc.frame = some frame) : pc.client ≠ .idle := by
  cases pc with
  | outside => cases h
  | entered => cases h
  | leaving => cases h
  | begun | copying | written | waiting =>
      intro hidle
      cases hidle

/-- A frame is written only if it fits, nothing of an earlier publication is
left and the other writer is not publishing. -/
def Orderly (s : State) : Event → Prop
  | .write w frame =>
      s.mem.init_success = true ∧ frame.length ≤ s.mem.capacity ∧
        (s.writer w.other).client = .idle ∧ s.tx_request_sem = false ∧
        s.transfer = .idle ∧ s.tx_done_sem = false
  | _ => True

instance (s : State) (e : Event) : Decidable (Orderly s e) := by
  cases e <;> simp only [Orderly] <;> infer_instance

/-! ## The writer that publishes -/

/-- A place between `write` and `take`, or `outside`. -/
def WriterAt.publishing (pc : WriterAt) : WriterAt :=
  if pc.client = .idle then .outside else pc

/-- The place of the writer that is publishing, if one is. -/
def active (writer : Writer → WriterAt) : WriterAt :=
  if (writer .rsp).client = .idle then (writer .upload).publishing
  else writer .rsp

/-- At most one writer is publishing. -/
def Single (writer : Writer → WriterAt) : Prop :=
  ∃ w, (writer w).client = .idle

section

variable {writer : Writer → WriterAt} {w : Writer} {old pc : WriterAt}

/-- While one writer publishes the other one does not. -/
theorem Single.other (h : Single writer) (hw : writer w = old)
    (hold : old.client ≠ .idle) : (writer w.other).client = .idle := by
  obtain ⟨v, hv⟩ := h
  subst hw
  cases v <;> cases w
  · exact absurd hv hold
  · exact hv
  · exact hv
  · exact absurd hv hold

theorem single_of_other (hother : (writer w.other).client = .idle) :
    Single (Function.update writer w pc) := by
  refine ⟨w.other, ?_⟩
  cases w <;> exact hother

theorem single_of_idle (hpc : pc.client = .idle) :
    Single (Function.update writer w pc) :=
  ⟨w, by rwa [Function.update_self]⟩

theorem active_of_other (hother : (writer w.other).client = .idle) :
    active writer = (writer w).publishing := by
  cases w with
  | rsp =>
      by_cases hidle : (writer .rsp).client = .idle
      · have hupload : (writer .upload).client = .idle := hother
        simp [active, WriterAt.publishing, hidle, hupload]
      · simp [active, WriterAt.publishing, hidle]
  | upload =>
      have hrsp : (writer .rsp).client = .idle := hother
      simp [active, hrsp]

theorem Single.active (h : Single writer) (hw : writer w = old)
    (hold : old.client ≠ .idle) : Publication.active writer = old := by
  rw [active_of_other (h.other hw hold), hw, WriterAt.publishing, if_neg hold]

theorem active_update_of_other (hother : (writer w.other).client = .idle) :
    active (Function.update writer w pc) = pc.publishing := by
  have hother' : ((Function.update writer w pc) w.other).client = .idle := by
    cases w <;> exact hother
  rw [active_of_other hother', Function.update_self]

@[simp]
theorem client_publishing (pc : WriterAt) :
    pc.publishing.client = pc.client := by
  cases pc <;> rfl

/-- What the handshake sees of a step of the writer that publishes. -/
theorem Single.client_update (h : Single writer) (hw : writer w = old)
    (hold : old.client ≠ .idle) (pc : WriterAt) :
    (Publication.active writer).client = old.client ∧
      (Publication.active (Function.update writer w pc)).client =
        pc.client := by
  constructor
  · rw [h.active hw hold]
  · rw [active_update_of_other (h.other hw hold), client_publishing]

theorem active_update_of_idle (hw : (writer w).client = .idle)
    (hpc : pc.client = .idle) :
    active (Function.update writer w pc) = active writer := by
  cases w with
  | rsp =>
      have hrsp : (Function.update writer .rsp pc .rsp).client = .idle := by
        rwa [Function.update_self]
      simp only [active, if_pos hrsp, if_pos hw]
      rfl
  | upload =>
      simp only [active, Function.update_self, WriterAt.publishing,
        if_pos hw, if_pos hpc]
      rfl

end

/-! ## The handshake -/

def Transfer.serving : Transfer → Bool
  | .idle => false
  | _ => true

/-- The publishing writer and the transfer without their bytes. -/
def State.handshake (s : State) : Handshake.State where
  client := (active s.writer).client
  request := s.tx_request_sem
  serving := s.transfer.serving
  done := s.tx_done_sem

/-- The step of the handshake that an event is, if it is one. -/
def Event.handshake : Event → Option Handshake.Event
  | .write _ _ => some .start
  | .giveRequest _ => some .post
  | .takeDone _ => some .acknowledge
  | .doneTimeout _ => some .abandon
  | .takeRequest => some .accept
  | .giveDone => some .finish
  | _ => none

/-- One writer publishes at a time, the write access is granted whenever it is
asked for, and the writer that publishes keeps to the handshake. -/
structure Paired (s : State) : Prop where
  single : Single s.writer
  access : ∃ n, s.mem.write_access.Held n
  paired : Handshake.Paired s.handshake

/-- A writer that goes on filling the memory leaves the handshake as it is,
whatever it stores. -/
theorem Single.handshake_goto {s : State} (h : Single s.writer) {w : Writer}
    {old : WriterAt} (hw : s.writer w = old) (hold : old.client ≠ .idle)
    (pc : WriterAt) (hpc : pc.client = old.client) (m : ShareMem Cell) :
    ({ s with mem := m }.goto w pc).handshake = s.handshake := by
  obtain ⟨hactive, hactive'⟩ := h.client_update hw hold pc
  simp only [State.handshake, State.goto, hactive, hactive', hpc]

theorem handshake_step {s s' : State} {e : Event} (hs : Single s.writer)
    (hC : Orderly s e) (h : step s e = some s') :
    (∃ e', e.handshake = some e' ∧
        Handshake.step s.handshake e' = some s'.handshake) ∨
      e.handshake = none ∧ s'.handshake = s.handshake := by
  cases stepped_of_step h with
  | @getWriteAccess w hpc pc hpc' =>
      refine Or.inr ⟨rfl, ?_⟩
      have hold : (s.writer w).client = .idle := by
        rw [hpc]
        rfl
      have hidle : pc.client = .idle := by
        obtain rfl | rfl := hpc' <;> rfl
      simp only [State.handshake, State.goto, active_update_of_idle hold hidle]
  | @write w frame hpc =>
      obtain ⟨-, -, hother, -⟩ := hC
      refine Or.inl ⟨.start, rfl, ?_⟩
      have hclient (granted : Bool) (frame : List Cell) :
          (WriterAt.publishing (if granted then .begun frame
            else .written frame)).client = .preparing := by
        cases granted <;> rfl
      simp only [Handshake.step, State.handshake, State.goto,
        active_of_other hother, hpc, active_update_of_other hother, hclient]
      rfl
  | @lockSize w frame hpc =>
      refine Or.inr ⟨rfl, ?_⟩
      exact hs.handshake_goto hpc (WriterAt.client_ne_idle rfl)
        (.copying frame frame) rfl _
  | @copy w frame rest c hpc =>
      refine Or.inr ⟨rfl, ?_⟩
      exact hs.handshake_goto hpc (WriterAt.client_ne_idle rfl)
        (.copying frame rest) rfl _
  | @endWrite w frame hpc =>
      refine Or.inr ⟨rfl, ?_⟩
      exact hs.handshake_goto hpc (WriterAt.client_ne_idle rfl)
        (.written frame) rfl _
  | @giveRequest w frame hpc =>
      obtain ⟨hactive, hactive'⟩ := hs.client_update hpc
        (WriterAt.client_ne_idle rfl) (.waiting frame)
      refine Or.inl ⟨.post, rfl, ?_⟩
      simp only [Handshake.step, State.handshake, State.goto, hactive,
        hactive']
      rfl
  | @takeDone w frame hpc hdone =>
      obtain ⟨hactive, hactive'⟩ := hs.client_update hpc
        (WriterAt.client_ne_idle rfl) .leaving
      refine Or.inl ⟨.acknowledge, rfl, ?_⟩
      simp only [Handshake.step, State.handshake, State.goto, hactive,
        hactive', hdone]
      rfl
  | @doneTimeout w frame hpc hdone =>
      obtain ⟨hactive, hactive'⟩ := hs.client_update hpc
        (WriterAt.client_ne_idle rfl) .leaving
      refine Or.inl ⟨.abandon, rfl, ?_⟩
      simp only [Handshake.step, State.handshake, State.goto, hactive,
        hactive', hdone]
      rfl
  | @releaseWriteAccess w hpc =>
      refine Or.inr ⟨rfl, ?_⟩
      have hold : (s.writer w).client = .idle := by
        rw [hpc]
        rfl
      have hidle : WriterAt.outside.client = .idle := rfl
      simp only [State.handshake, State.goto, active_update_of_idle hold hidle]
  | takeRequest htransfer hrequest =>
      refine Or.inl ⟨.accept, rfl, ?_⟩
      simp [Handshake.step, State.handshake, Transfer.serving, htransfer,
        hrequest]
  | lock htransfer | readSize htransfer | sendByte htransfer _
  | sendto htransfer _ | unlock htransfer =>
      refine Or.inr ⟨rfl, ?_⟩
      simp [State.handshake, Transfer.serving, htransfer]
  | giveDone htransfer =>
      refine Or.inl ⟨.finish, rfl, ?_⟩
      simp [Handshake.step, State.handshake, Transfer.serving, htransfer]

theorem Paired.begins {s : State} {w : Writer} {frame : Bytes}
    (hs : Paired s) (hC : Orderly s (.write w frame)) :
    s.mem.beginWrite (some (label s.publications.length frame)) =
      (true, { s.mem with
        size := 0
        write_access := s.mem.write_access.lock.2 }) := by
  obtain ⟨n, hheld⟩ := hs.access
  exact ShareMem.beginWrite_of_le hheld hC.1 (by simpa [label] using hC.2.1)

theorem access_releaseWriteAccess {m : ShareMem Cell}
    (h : ∃ n, m.write_access.Held n) :
    ∃ n, m.releaseWriteAccess.write_access.Held n := by
  obtain ⟨n, hheld⟩ := h
  cases n with
  | zero =>
      refine ⟨0, ?_⟩
      rw [ShareMem.releaseWriteAccess, Lock.unlock, hheld.1]
      exact hheld
  | succ n => exact ⟨n, hheld.unlock⟩

theorem Paired.step {s s' : State} {e : Event} (hs : Paired s)
    (hC : Orderly s e) (h : Publication.step s e = some s') : Paired s' := by
  have hpaired : Handshake.Paired s'.handshake := by
    obtain ⟨e', he, hstep⟩ | ⟨-, heq⟩ := handshake_step hs.single hC h
    · refine hs.paired.step (fun hstart => ?_) hstep
      subst hstart
      cases e with
      | write w frame =>
          obtain ⟨-, -, -, hrequest, htransfer, hdone⟩ := hC
          exact ⟨hrequest, congrArg Transfer.serving htransfer, hdone⟩
      | _ => cases he
    · rw [heq]
      exact hs.paired
  have hbegins (w : Writer) (frame : Bytes) (he : e = .write w frame) :=
    hs.begins (he ▸ hC)
  cases stepped_of_step h with
  | getWriteAccess hpc pc hpc' =>
      obtain ⟨n, hheld⟩ := hs.access
      refine ⟨single_of_idle ?_, ⟨n + 1, hheld.lock.2⟩, hpaired⟩
      obtain rfl | rfl := hpc' <;> rfl
  | write frame hpc =>
      obtain ⟨n, hheld⟩ := hs.access
      refine ⟨single_of_other hC.2.2.1, ⟨n + 1, ?_⟩, hpaired⟩
      simp only [State.goto, hbegins _ _ rfl]
      exact hheld.lock.2
  | lockSize hpc | copy hpc | endWrite hpc | giveRequest hpc =>
      have hother := hs.single.other hpc (WriterAt.client_ne_idle rfl)
      exact ⟨single_of_other hother, hs.access, hpaired⟩
  | takeDone _ _ | doneTimeout _ _ =>
      exact ⟨single_of_idle rfl, hs.access, hpaired⟩
  | releaseWriteAccess hpc =>
      exact ⟨single_of_idle rfl, access_releaseWriteAccess hs.access, hpaired⟩
  | lock htransfer =>
      refine ⟨hs.single, ?_, hpaired⟩
      simp only [ShareMem.lock]
      split
      · exact hs.access
      · exact hs.access
  | takeRequest _ _ | readSize _ | sendByte _ _ | sendto _ _ | unlock _
  | giveDone _ => exact ⟨hs.single, hs.access, hpaired⟩

/-! ## What the memory holds -/

/-- The memory begins with these cells. -/
def Stored (m : ShareMem Cell) (cells : List Cell) : Prop :=
  ∀ i c, cells[i]? = some c → m.shared_mem i = c

theorem stored_nil (m : ShareMem Cell) : Stored m [] := by
  simp [Stored]

theorem Stored.storeCell {m : ShareMem Cell} {cells : List Cell}
    (h : Stored m cells) (c : Cell) :
    Stored (m.storeCell cells.length c) (cells ++ [c]) := by
  intro i c' hi
  by_cases hlast : i = cells.length
  · subst hlast
    rw [List.getElem?_concat_length, Option.some.injEq] at hi
    change Function.update m.shared_mem _ c _ = c'
    rw [Function.update_self, hi]
  · change Function.update m.shared_mem _ c i = c'
    rw [Function.update_of_ne hlast]
    refine h i c' ?_
    have hlt := (List.getElem?_eq_some_iff.mp hi).1
    rw [List.length_append, List.length_singleton] at hlt
    rwa [List.getElem?_append_left (by omega)] at hi

/-- The memory holds exactly this frame. -/
structure Loaded (m : ShareMem Cell) (frame : List Cell) : Prop where
  size : m.size = frame.length
  stored : Stored m frame

/-- A requested frame is not sent yet. -/
def Transfer.unsent : Transfer → Bool
  | .requested => true
  | .locked => true
  | .sending _ _ => true
  | _ => false

def Pending (s : State) : Prop :=
  s.tx_request_sem = true ∨ s.transfer.unsent = true

/-- The writer that publishes is at work on the newest frame, whose first bytes
the memory holds; a frame that is pending is in the memory whole, and what the
transfer has read is its beginning. -/
structure Filled (s : State) : Prop where
  current : ∀ frame, (active s.writer).frame = some frame →
    s.publications.head? = some frame
  copying : ∀ frame rest, active s.writer = .copying frame rest →
    s.mem.size = frame.length ∧
      ∃ copied, frame = copied ++ rest ∧ Stored s.mem copied
  written : ∀ frame, active s.writer = .written frame → Loaded s.mem frame
  pending : Pending s → ∃ frame, s.publications.head? = some frame ∧
    Loaded s.mem frame
  sending : ∀ size bytes, s.transfer = .sending size bytes →
    ∃ frame, s.publications.head? = some frame ∧ size = frame.length ∧
      bytes <+: frame

theorem Loaded.congr {m m' : ShareMem Cell} {frame : List Cell}
    (h : Loaded m frame) (hsize : m'.size = m.size)
    (hmem : m'.shared_mem = m.shared_mem) : Loaded m' frame := by
  refine ⟨hsize.trans h.size, fun i c hi => ?_⟩
  rw [hmem]
  exact h.stored i c hi

/-- Steps that leave the memory and the publishing writer alone. -/
theorem Filled.congr {s s' : State} (hs : Filled s)
    (hactive : active s'.writer = active s.writer)
    (hpublications : s'.publications = s.publications)
    (hsize : s'.mem.size = s.mem.size)
    (hmem : s'.mem.shared_mem = s.mem.shared_mem)
    (hpending : Pending s' → Pending s)
    (hsending : ∀ size bytes, s'.transfer = .sending size bytes →
      s.transfer = .sending size bytes) : Filled s' := by
  constructor
  · rw [hactive, hpublications]
    exact hs.current
  · rw [hactive, hsize]
    intro frame rest hcopying
    obtain ⟨hlength, copied, heq, hstored⟩ := hs.copying frame rest hcopying
    refine ⟨hlength, copied, heq, fun i c hi => ?_⟩
    rw [hmem]
    exact hstored i c hi
  · rw [hactive]
    exact fun frame hwritten => (hs.written frame hwritten).congr hsize hmem
  · rw [hpublications]
    intro h
    obtain ⟨frame, hhead, hloaded⟩ := hs.pending (hpending h)
    exact ⟨frame, hhead, hloaded.congr hsize hmem⟩
  · rw [hpublications]
    exact fun size bytes h => hs.sending size bytes (hsending size bytes h)

/-- The writer stops publishing. -/
theorem Filled.of_outside {s s' : State} (hs : Filled s)
    (hactive : active s'.writer = .outside)
    (hpublications : s'.publications = s.publications) (hmem : s'.mem = s.mem)
    (hpending : Pending s' → Pending s) (htransfer : s'.transfer = s.transfer) :
    Filled s' := by
  constructor
  · simp [hactive, WriterAt.frame]
  · simp [hactive]
  · simp [hactive]
  · rw [hpublications, hmem]
    exact fun h => hs.pending (hpending h)
  · rw [hpublications, htransfer]
    exact hs.sending

/-- While the writer prepares nothing is requested or read. -/
theorem Paired.not_pending {s : State} (hs : Paired s)
    (hclient : (active s.writer).client = .preparing) :
    ¬ Pending s ∧ s.transfer = .idle := by
  obtain ⟨hrequest, hserving, -⟩ := hs.paired.preparing hclient
  have hidle : s.transfer = .idle := by
    cases htransfer : s.transfer with
    | idle => rfl
    | _ => simp [State.handshake, htransfer, Transfer.serving] at hserving
  refine ⟨?_, hidle⟩
  rintro (h | h)
  · exact Bool.false_ne_true (hrequest.symm.trans h)
  · simp [hidle, Transfer.unsent] at h

/-- A completion is alone on the path. -/
theorem Paired.not_pending_of_done {s : State} (hs : Paired s)
    (hdone : s.tx_done_sem = true) : ¬ Pending s := by
  obtain ⟨hrequest, hserving⟩ := hs.paired.of_done hdone
  rintro (h | h)
  · exact Bool.false_ne_true (hrequest.symm.trans h)
  · cases htransfer : s.transfer <;>
      simp [State.handshake, htransfer, Transfer.serving, Transfer.unsent]
        at h hserving

theorem filled_of_idle {s : State} (hpending : ¬ Pending s)
    (htransfer : s.transfer = .idle)
    (hcurrent : ∀ frame, (active s.writer).frame = some frame →
      s.publications.head? = some frame)
    (hcopying : ∀ frame rest, active s.writer = .copying frame rest →
      s.mem.size = frame.length ∧
        ∃ copied, frame = copied ++ rest ∧ Stored s.mem copied)
    (hwritten : ∀ frame, active s.writer = .written frame →
      Loaded s.mem frame) : Filled s :=
  ⟨hcurrent, hcopying, hwritten, fun h => absurd h hpending,
    fun size bytes h => by rw [htransfer] at h; cases h⟩

/-- A writer that fills the memory is the one that publishes, before its step
and after it; its frame is the last one published and nothing is requested. -/
theorem Filled.preparing {s : State} {w : Writer} {old : WriterAt}
    {frame : List Cell} (hs : Filled s) (hpaired : Paired s)
    (hpc : s.writer w = old) (hold : old.client = .preparing)
    (hframe : old.frame = some frame) (pc : WriterAt)
    (hnew : pc.frame = some frame) :
    active s.writer = old ∧
      active (Function.update s.writer w pc) = pc ∧
      s.publications.head? = some frame ∧
      ¬ Pending s ∧ s.transfer = .idle := by
  have hne : old.client ≠ .idle := WriterAt.client_ne_idle hframe
  have hactive := hpaired.single.active hpc hne
  have hactive' : active (Function.update s.writer w pc) = pc := by
    rw [active_update_of_other (hpaired.single.other hpc hne),
      WriterAt.publishing, if_neg (WriterAt.client_ne_idle hnew)]
  have hhead := hs.current frame (by rw [hactive, hframe])
  exact ⟨hactive, hactive', hhead, hpaired.not_pending (by rw [hactive, hold])⟩

theorem Filled.step {s s' : State} {e : Event} (hs : Filled s)
    (hpaired : Paired s) (hC : Orderly s e)
    (h : Publication.step s e = some s') : Filled s' := by
  have hbegins (w : Writer) (frame : Bytes) (he : e = .write w frame) :=
    hpaired.begins (he ▸ hC)
  cases stepped_of_step h with
  | @getWriteAccess w hpc pc hpc' =>
      refine hs.congr (active_update_of_idle (by rw [hpc]; rfl) ?_) rfl rfl rfl
        id fun _ _ => id
      obtain rfl | rfl := hpc' <;> rfl
  | @write w frame hpc =>
      obtain ⟨-, -, hother, hrequest, htransfer, -⟩ := hC
      rw [hbegins w frame rfl]
      have hactive : active (Function.update s.writer w
          (.begun (label s.publications.length frame))) =
          .begun (label s.publications.length frame) :=
        active_update_of_other hother
      refine filled_of_idle ?_ htransfer ?_ ?_ ?_
      · simp [Pending, State.goto, hrequest, htransfer, Transfer.unsent]
      · simp [State.goto, hactive, WriterAt.frame]
      · simp [State.goto, hactive]
      · simp [State.goto, hactive]
  | @lockSize w frame hpc =>
      obtain ⟨hactive, hactive', hhead, hpending, htransfer⟩ :=
        hs.preparing hpaired hpc rfl rfl (.copying frame frame) rfl
      refine filled_of_idle hpending htransfer ?_ ?_ ?_
      · simpa [State.goto, hactive', WriterAt.frame] using hhead
      · simp only [State.goto, hactive']
        rintro frame' rest ⟨⟩
        exact ⟨rfl, [], rfl, stored_nil s.mem⟩
      · simp [State.goto, hactive']
  | @copy w frame rest c hpc =>
      obtain ⟨hactive, hactive', hhead, hpending, htransfer⟩ :=
        hs.preparing hpaired hpc rfl rfl (.copying frame rest) rfl
      obtain ⟨hsize, copied, hframe, hstored⟩ :=
        hs.copying frame (c :: rest) hactive
      refine filled_of_idle hpending htransfer ?_ ?_ ?_
      · simpa [State.goto, hactive', WriterAt.frame] using hhead
      · simp only [State.goto, hactive']
        rintro frame' rest' ⟨⟩
        have hindex : frame.length - (c :: rest).length = copied.length := by
          rw [hframe, List.length_append, Nat.add_sub_cancel]
        refine ⟨hsize, copied ++ [c], by simpa using hframe, ?_⟩
        rw [hindex]
        exact hstored.storeCell c
      · simp [State.goto, hactive']
  | @endWrite w frame hpc =>
      obtain ⟨hactive, hactive', hhead, hpending, htransfer⟩ :=
        hs.preparing hpaired hpc rfl rfl (.written frame) rfl
      obtain ⟨hsize, copied, hframe, hstored⟩ := hs.copying frame [] hactive
      rw [List.append_nil] at hframe
      refine filled_of_idle hpending htransfer ?_ ?_ ?_
      · simpa [State.goto, hactive', WriterAt.frame] using hhead
      · simp [State.goto, hactive']
      · simp only [State.goto, hactive']
        rintro frame' ⟨⟩
        exact ⟨hsize, hframe ▸ hstored⟩
  | @giveRequest w frame hpc =>
      obtain ⟨hactive, hactive', hhead, -⟩ :=
        hs.preparing hpaired hpc rfl rfl (.waiting frame) rfl
      refine ⟨?_, ?_, ?_, fun _ => ⟨frame, hhead, hs.written frame hactive⟩,
        hs.sending⟩
      · simpa [State.goto, hactive', WriterAt.frame] using hhead
      · simp [State.goto, hactive']
      · simp [State.goto, hactive']
  | takeDone hpc _ | doneTimeout hpc _ =>
      refine hs.of_outside ?_ rfl rfl id rfl
      exact active_update_of_other
        (hpaired.single.other hpc (WriterAt.client_ne_idle rfl))
  | @releaseWriteAccess w hpc =>
      exact hs.congr (active_update_of_idle (by rw [hpc]; rfl) rfl) rfl rfl rfl
        id fun _ _ => id
  | takeRequest htransfer hrequest =>
      exact hs.congr rfl rfl rfl rfl (fun _ => Or.inl hrequest) (by simp)
  | lock htransfer =>
      have hlock : s.mem.lock.2.size = s.mem.size ∧
          s.mem.lock.2.shared_mem = s.mem.shared_mem := by
        simp only [ShareMem.lock]
        split
        · exact ⟨rfl, rfl⟩
        · exact ⟨rfl, rfl⟩
      refine hs.congr rfl rfl hlock.1 hlock.2 (fun _ => Or.inr ?_) (by simp)
      rw [htransfer, Transfer.unsent]
  | readSize htransfer =>
      have hpending : Pending s := Or.inr (by rw [htransfer, Transfer.unsent])
      obtain ⟨frame, hhead, hloaded⟩ := hs.pending hpending
      refine ⟨hs.current, hs.copying, hs.written,
        fun _ => ⟨frame, hhead, hloaded⟩, ?_⟩
      rintro size bytes ⟨⟩
      exact ⟨frame, hhead, hloaded.size, List.nil_prefix⟩
  | @sendByte size bytes htransfer hmore =>
      have hpending : Pending s := Or.inr (by rw [htransfer, Transfer.unsent])
      obtain ⟨frame, hhead, hloaded⟩ := hs.pending hpending
      refine ⟨hs.current, hs.copying, hs.written,
        fun _ => ⟨frame, hhead, hloaded⟩, ?_⟩
      rintro size' bytes' ⟨⟩
      obtain ⟨frame', hhead', hsize, rest, hframe⟩ :=
        hs.sending size bytes htransfer
      cases hhead.symm.trans hhead'
      refine ⟨frame, hhead, hsize, ?_⟩
      cases rest with
      | nil =>
          rw [List.append_nil] at hframe
          rw [hframe, ← hsize] at hmore
          exact absurd hmore (lt_irrefl _)
      | cons c rest =>
          have hcell := hloaded.stored bytes.length c (by simp [← hframe])
          exact ⟨rest, by rw [hcell, List.append_assoc]; exact hframe⟩
  | sendto htransfer _ | unlock htransfer | giveDone htransfer =>
      refine hs.congr rfl rfl rfl rfl ?_ (by simp)
      simp [Pending, Transfer.unsent, htransfer]

/-! ## What was sent -/

/-- The bytes of every publication carry its number. -/
def Numbered : List (List Cell) → Prop
  | [] => True
  | frame :: older =>
      (∀ c ∈ frame, c.publication = older.length) ∧ Numbered older

theorem Numbered.lt_length {publications : List (List Cell)}
    (h : Numbered publications) {frame : List Cell}
    (hframe : frame ∈ publications) {c : Cell} (hc : c ∈ frame) :
    c.publication < publications.length := by
  induction publications with
  | nil => cases hframe
  | cons newest older ih =>
      rw [List.length_cons]
      obtain rfl | hold := List.mem_cons.mp hframe
      · rw [h.1 c hc]
        exact Nat.lt_succ_self _
      · exact (ih h.2 hold).trans (Nat.lt_succ_self _)

theorem Numbered.publication_eq {publications : List (List Cell)}
    (h : Numbered publications) {frame : List Cell}
    (hframe : frame ∈ publications) {a b : Cell} (ha : a ∈ frame)
    (hb : b ∈ frame) : a.publication = b.publication := by
  induction publications with
  | nil => cases hframe
  | cons newest older ih =>
      obtain rfl | hold := List.mem_cons.mp hframe
      · rw [h.1 a ha, h.1 b hb]
      · exact ih h.2 hold

/-- No two publications of something have the same bytes. -/
theorem Numbered.count_le_one {publications : List (List Cell)}
    (h : Numbered publications) {frame : List Cell} (hframe : frame ≠ []) :
    publications.count frame ≤ 1 := by
  induction publications with
  | nil => exact Nat.zero_le _
  | cons newest older ih =>
      by_cases heq : newest = frame
      · subst heq
        obtain ⟨c, hc⟩ := List.exists_mem_of_ne_nil newest hframe
        have hnot : newest ∉ older := fun hmem =>
          (h.1 c hc).not_lt (h.2.lt_length hmem hc)
        rw [List.count_cons_self, List.count_eq_zero.mpr hnot]
      · rw [List.count_cons_of_ne heq]
        exact ih h.2

/-- A frame is being written, requested or read. -/
def Underway (s : State) : Prop :=
  (active s.writer).client = .preparing ∨ Pending s

/-- What was sent are publications, in order and each once; the newest one is
sent when it is no longer under way, and so is every one whose writer got the
completion. -/
structure Sent (s : State) : Prop where
  numbered : Numbered s.publications
  earlier : s.sends.Sublist s.publications
  underway : Underway s → s.sends.Sublist s.publications.tail
  answered : ∀ frame, active s.writer = .waiting frame → ¬ Pending s →
    frame ∈ s.sends
  results : ∀ r ∈ s.results, r.ret = true → r.frame ∈ s.sends

theorem Sent.congr {s s' : State} (hs : Sent s)
    (hactive : active s'.writer = active s.writer)
    (hpublications : s'.publications = s.publications)
    (hsends : s'.sends = s.sends) (hresults : s'.results = s.results)
    (hpending : Pending s' ↔ Pending s) : Sent s' := by
  constructor
  · rw [hpublications]
    exact hs.numbered
  · rw [hpublications, hsends]
    exact hs.earlier
  · rw [Underway, hactive, hpending, hpublications, hsends]
    exact hs.underway
  · rw [hactive, hpending, hsends]
    exact hs.answered
  · rw [hresults, hsends]
    exact hs.results

/-- The frame goes on being under way. -/
theorem Sent.of_underway {s s' : State} (hs : Sent s)
    (hpublications : s'.publications = s.publications)
    (hsends : s'.sends = s.sends) (hresults : s'.results = s.results)
    (hunderway : Underway s) (hunderway' : Underway s') : Sent s' := by
  constructor
  · rw [hpublications]
    exact hs.numbered
  · rw [hpublications, hsends]
    exact hs.earlier
  · rw [hpublications, hsends]
    exact fun _ => hs.underway hunderway
  · intro frame hwaiting hnot
    obtain hclient | hpending := hunderway'
    · rw [hwaiting] at hclient
      cases hclient
    · exact absurd hpending hnot
  · rw [hresults, hsends]
    exact hs.results

/-- The writer leaves with its result; its transfer may still be running. -/
theorem Sent.of_leaving {s s' : State} (hs : Sent s)
    (hactive : active s'.writer = .outside)
    (hpending : Pending s' → Pending s)
    (hpublications : s'.publications = s.publications)
    (hsends : s'.sends = s.sends)
    (hresults : ∀ r ∈ s'.results, r.ret = true → r.frame ∈ s.sends) :
    Sent s' := by
  constructor
  · rw [hpublications]
    exact hs.numbered
  · rw [hpublications, hsends]
    exact hs.earlier
  · rw [hpublications, hsends]
    rintro (hclient | h)
    · rw [hactive] at hclient
      cases hclient
    · exact hs.underway (Or.inr (hpending h))
  · intro frame hwaiting
    rw [hactive] at hwaiting
    cases hwaiting
  · rw [hsends]
    exact hresults

theorem Sent.step {s s' : State} {e : Event} (hs : Sent s)
    (hpaired : Paired s) (hfilled : Filled s) (hC : Orderly s e)
    (h : Publication.step s e = some s') : Sent s' := by
  cases stepped_of_step h with
  | @getWriteAccess w hpc pc hpc' =>
      refine hs.congr (active_update_of_idle (by rw [hpc]; rfl) ?_) rfl rfl rfl
        Iff.rfl
      obtain rfl | rfl := hpc' <;> rfl
  | @write w frame hpc =>
      rw [hpaired.begins hC]
      refine ⟨⟨fun c hc => ?_, hs.numbered⟩, hs.earlier.cons _,
        fun _ => hs.earlier, ?_, hs.results⟩
      · obtain ⟨value, -, rfl⟩ := List.mem_map.mp hc
        rfl
      · have hactive : active (Function.update s.writer w
            (.begun (label s.publications.length frame))) =
            .begun (label s.publications.length frame) :=
          active_update_of_other hC.2.2.1
        simp [State.goto, hactive]
  | @lockSize w frame hpc =>
      obtain ⟨hactive, hactive'⟩ := hpaired.single.client_update hpc
        (WriterAt.client_ne_idle rfl) (.copying frame frame)
      exact hs.of_underway rfl rfl rfl (Or.inl hactive) (Or.inl hactive')
  | @copy w frame rest c hpc =>
      obtain ⟨hactive, hactive'⟩ := hpaired.single.client_update hpc
        (WriterAt.client_ne_idle rfl) (.copying frame rest)
      exact hs.of_underway rfl rfl rfl (Or.inl hactive) (Or.inl hactive')
  | @endWrite w frame hpc =>
      obtain ⟨hactive, hactive'⟩ := hpaired.single.client_update hpc
        (WriterAt.client_ne_idle rfl) (.written frame)
      exact hs.of_underway rfl rfl rfl (Or.inl hactive) (Or.inl hactive')
  | @giveRequest w frame hpc =>
      obtain ⟨hactive, -⟩ := hpaired.single.client_update hpc
        (WriterAt.client_ne_idle rfl) (.waiting frame)
      exact hs.of_underway rfl rfl rfl (Or.inl hactive)
        (Or.inr (Or.inl rfl))
  | @takeDone w frame hpc hdone =>
      have hne : (WriterAt.waiting frame).client ≠ .idle :=
        WriterAt.client_ne_idle rfl
      have hsent := hs.answered frame (hpaired.single.active hpc hne)
        (hpaired.not_pending_of_done hdone)
      refine hs.of_leaving ?_ id rfl rfl ?_
      · exact active_update_of_other (hpaired.single.other hpc hne)
      · exact List.forall_mem_cons.mpr ⟨fun _ => hsent, hs.results⟩
  | @doneTimeout w frame hpc hdone =>
      have hne : (WriterAt.waiting frame).client ≠ .idle :=
        WriterAt.client_ne_idle rfl
      refine hs.of_leaving ?_ id rfl rfl ?_
      · exact active_update_of_other (hpaired.single.other hpc hne)
      · exact List.forall_mem_cons.mpr ⟨by simp, hs.results⟩
  | @releaseWriteAccess w hpc =>
      exact hs.congr (active_update_of_idle (by rw [hpc]; rfl) rfl) rfl rfl rfl
        Iff.rfl
  | takeRequest htransfer hrequest =>
      exact hs.of_underway rfl rfl rfl (Or.inr (Or.inl hrequest))
        (Or.inr (Or.inr rfl))
  | lock htransfer | readSize htransfer | sendByte htransfer _ =>
      exact hs.of_underway rfl rfl rfl
        (Or.inr (Or.inr (by rw [htransfer, Transfer.unsent])))
        (Or.inr (Or.inr rfl))
  | @sendto size bytes htransfer hall =>
      obtain ⟨frame, hhead, hsize, hprefix⟩ :=
        hfilled.sending size bytes htransfer
      obtain rfl := hprefix.eq_of_length_le (hsize ▸ hall)
      have hpending : Pending s := Or.inr (by rw [htransfer, Transfer.unsent])
      have htail := hs.underway (Or.inr hpending)
      obtain ⟨older, hpublications⟩ := List.head?_eq_some_iff.mp hhead
      obtain ⟨hclient, hrequest⟩ := hpaired.paired.of_serving (by
        simp [State.handshake, htransfer, Transfer.serving])
      refine ⟨hs.numbered, ?_, ?_, ?_, fun r hr hret =>
        List.mem_cons_of_mem _ (hs.results r hr hret)⟩
      · rw [hpublications, List.tail_cons] at htail
        rw [hpublications]
        exact htail.cons_cons bytes
      · rintro (hpreparing | hrequested | hunsent)
        · exact absurd hpreparing hclient
        · exact absurd (hrequest.symm.trans hrequested) Bool.false_ne_true
        · cases hunsent
      · intro frame hwaiting _
        have hcurrent := hfilled.current frame (by rw [hwaiting]; rfl)
        cases hhead.symm.trans hcurrent
        exact List.mem_cons_self
  | unlock htransfer | giveDone htransfer =>
      refine hs.congr rfl rfl rfl rfl ?_
      simp [Pending, htransfer, Transfer.unsent]

/-! ## Orderly runs -/

/-- What holds between the steps of an orderly run. -/
structure Orderliness (s : State) : Prop where
  paired : Paired s
  filled : Filled s
  sent : Sent s

theorem orderliness_boot (wantedSize : ℕ) (allocated : Bool) (size : ℕ)
    (shared_mem : ℕ → Cell) :
    Orderliness (boot (.construct wantedSize allocated size shared_mem)) where
  paired := ⟨⟨.rsp, rfl⟩, ⟨0, Lock.held_construct.unlock⟩,
    Handshake.paired_of_idle rfl ⟨rfl, rfl, rfl⟩⟩
  filled := filled_of_idle (by simp [Pending, boot, Transfer.unsent]) rfl
    (by rintro _ ⟨⟩) (by rintro _ _ ⟨⟩) (by rintro _ ⟨⟩)
  sent := ⟨trivial, List.Sublist.refl _, fun _ => List.Sublist.refl _,
    by rintro _ ⟨⟩, by simp [boot]⟩

theorem Orderliness.step {s s' : State} {e : Event} (hs : Orderliness s)
    (hC : Orderly s e) (h : Publication.step s e = some s') :
    Orderliness s' where
  paired := hs.paired.step hC h
  filled := hs.filled.step hs.paired hC h
  sent := hs.sent.step hs.paired hs.filled hC h

theorem Sent.delivers {s : State} (hs : Sent s) : Delivers s where
  unmixed := fun _ hbytes _ ha _ hb =>
    hs.numbered.publication_eq (hs.earlier.subset hbytes) ha hb
  once := fun r hr hframe hret => by
    have hsent := List.count_pos_iff.mpr (hs.results r hr hret)
    have hcount := (hs.earlier.count_le r.frame).trans
      (hs.numbered.count_le_one hframe)
    omega

/-- In an orderly run nothing is lost, mixed or emptied. -/
theorem delivers_of_orderly {wantedSize size : ℕ} {allocated : Bool}
    {shared_mem : ℕ → Cell} {es : List Event} {s : State}
    (hC : Meets step Orderly
      (boot (.construct wantedSize allocated size shared_mem)) es)
    (hrun : run step (boot (.construct wantedSize allocated size shared_mem))
      es = some s) : Delivers s :=
  (run_invariant_of_meets (fun _ _ _ h => h.step)
    (orderliness_boot wantedSize allocated size shared_mem) hC
    hrun).sent.delivers

/-- The writer's part of a publication up to its wait. -/
def publish (w : Writer) (frame : Bytes) : List Event :=
  [.getWriteAccess w, .write w frame, .lockSize w] ++
    List.replicate frame.length (.copy w) ++ [.endWrite w, .giveRequest w]

theorem delivers_oneByte :
    ∃ s, run step (boot (.construct 1024 true 0 fun _ => ⟨0, 0⟩))
        (publish .rsp [0x01] ++ [.takeRequest, .lock, .readSize, .sendByte,
          .sendto, .unlock, .giveDone, .takeDone .rsp]) = some s ∧
      s.results = [⟨[⟨0, 0x01⟩], true⟩] ∧ Delivers s :=
  ⟨_, rfl, rfl, @delivers_of_orderly 1024 0 true (fun _ => ⟨0, 0⟩)
    (publish .rsp [0x01] ++ [.takeRequest, .lock, .readSize, .sendByte,
      .sendto, .unlock, .giveDone, .takeDone .rsp]) _ (by decide) rfl⟩

/-- The second writer overwrites the first one's reply, whose writer gets the
completion; and a frame leaves with the beginning of another one. -/
theorem not_delivers_overwritten :
    (∃ s, run step (boot (.construct 1024 true 0 fun _ => ⟨0, 0⟩))
        (publish .rsp [0x01] ++ publish .upload [0x02] ++
          [.takeRequest, .lock, .readSize, .sendByte, .sendto, .unlock,
            .giveDone, .takeDone .rsp]) = some s ∧
      s.sends = [[⟨1, 0x02⟩]] ∧ s.results = [⟨[⟨0, 0x01⟩], true⟩] ∧
      ¬ Delivers s) ∧
    ∃ s, run step (boot (.construct 1024 true 0 fun _ => ⟨0, 0⟩))
        (publish .rsp [0x01, 0x01] ++
          [.takeRequest, .lock, .readSize, .sendByte] ++
          publish .upload [0x02, 0x02] ++ [.sendByte, .sendto]) = some s ∧
      s.sends = [[⟨0, 0x01⟩, ⟨1, 0x02⟩]] ∧ ¬ Delivers s := by
  constructor
  · refine ⟨_, rfl, rfl, rfl, fun h => ?_⟩
    exact absurd (h.once _ (List.mem_singleton_self _) (by decide) rfl)
      (by decide)
  · refine ⟨_, rfl, rfl, fun h => ?_⟩
    exact absurd (h.unmixed _ (List.mem_singleton_self _) ⟨0, 0x01⟩
      (by decide) ⟨1, 0x02⟩ (by decide)) (by decide)

end Publication

end WirelessHarness
