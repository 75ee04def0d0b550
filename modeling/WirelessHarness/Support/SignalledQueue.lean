import Mathlib.Data.List.Flatten
import WirelessHarness.Support.Runs

/-!
# A queue with a binary signal

A producer adds chunks of items to a bounded queue, item by item, and gives a
binary signal after each chunk.  A consumer waits for the signal, takes items
until the queue is empty, hands everything it took over as one batch and is
busy with it for a while.  The queue has no marks between chunks and the signal
does not count, so the batches depend on the schedule: they are the chunks
exactly if the schedule cuts the stream into pieces of the chunks' lengths.
-/

namespace SignalledQueue

open Runs

variable {α : Type*}

inductive Consumer (α : Type*)
  | waiting
  | draining (buffer : List α)
  | busy

inductive Event
  | receive
  | add
  | signal
  | take
  | pop
  | resume
deriving DecidableEq, Repr

/-- Chunks not yet received, what is left to add of the current one, the queue,
the signal, the consumer and the batches handed over. -/
structure State (α : Type*) where
  chunks : List (List α)
  adding : Option (List α) := none
  queue : List α := []
  signalled : Bool := false
  consumer : Consumer α := .waiting
  batches : List (List α) := []

/-- Adding waits for room.  An empty chunk is skipped; an empty batch is handed
over like any other. -/
def step (capacity : ℕ) (s : State α) : Event → Option (State α)
  | .receive =>
      match s.adding, s.chunks with
      | none, [] :: chunks => some { s with chunks }
      | none, chunk :: chunks => some { s with chunks, adding := some chunk }
      | _, _ => none
  | .add =>
      match s.adding with
      | some (x :: rest) =>
          if s.queue.length < capacity then
            some { s with adding := some rest, queue := s.queue ++ [x] }
          else none
      | _ => none
  | .signal =>
      match s.adding with
      | some [] => some { s with adding := none, signalled := true }
      | _ => none
  | .take =>
      match s.consumer, s.signalled with
      | .waiting, true =>
          some { s with consumer := .draining [], signalled := false }
      | _, _ => none
  | .pop =>
      match s.consumer, s.queue with
      | .draining buffer, x :: queue =>
          some { s with consumer := .draining (buffer ++ [x]), queue }
      | .draining buffer, [] =>
          some { s with consumer := .busy, batches := s.batches ++ [buffer] }
      | _, _ => none
  | .resume =>
      match s.consumer with
      | .busy => some { s with consumer := .waiting }
      | _ => none

/-- What each event requires and does. -/
inductive Stepped (capacity : ℕ) (s : State α) : Event → State α → Prop
  | skip {chunks : List (List α)} (hadding : s.adding = none)
      (hchunks : s.chunks = [] :: chunks) :
      Stepped capacity s .receive { s with chunks }
  | receive {chunk : List α} {chunks : List (List α)}
      (hadding : s.adding = none) (hchunks : s.chunks = chunk :: chunks) :
      Stepped capacity s .receive { s with chunks, adding := some chunk }
  | add {x : α} {rest : List α} (hadding : s.adding = some (x :: rest))
      (hroom : s.queue.length < capacity) :
      Stepped capacity s .add
        { s with adding := some rest, queue := s.queue ++ [x] }
  | signal (hadding : s.adding = some []) :
      Stepped capacity s .signal { s with adding := none, signalled := true }
  | take (hconsumer : s.consumer = .waiting) (hsignalled : s.signalled = true) :
      Stepped capacity s .take
        { s with consumer := .draining [], signalled := false }
  | pop {buffer queue : List α} {x : α}
      (hconsumer : s.consumer = .draining buffer)
      (hqueue : s.queue = x :: queue) :
      Stepped capacity s .pop
        { s with consumer := .draining (buffer ++ [x]), queue }
  | close {buffer : List α} (hconsumer : s.consumer = .draining buffer)
      (hqueue : s.queue = []) :
      Stepped capacity s .pop
        { s with consumer := .busy, batches := s.batches ++ [buffer] }
  | resume (hconsumer : s.consumer = .busy) :
      Stepped capacity s .resume { s with consumer := .waiting }

theorem stepped_of_step {capacity : ℕ} {s s' : State α} {e : Event}
    (h : step capacity s e = some s') : Stepped capacity s e s' := by
  cases e with
  | receive =>
      simp only [step] at h
      split at h
      next hadding hchunks =>
        cases h
        exact .skip hadding hchunks
      next hadding hchunks =>
        cases h
        exact .receive hadding hchunks
      next => cases h
  | add =>
      simp only [step] at h
      split at h
      next hadding =>
        obtain ⟨hroom, heq⟩ := Option.ite_none_right_eq_some.mp h
        cases heq
        exact .add hadding hroom
      next => cases h
  | signal =>
      simp only [step] at h
      split at h
      next hadding =>
        cases h
        exact .signal hadding
      next => cases h
  | take =>
      simp only [step] at h
      split at h
      next hconsumer hsignalled =>
        cases h
        exact .take hconsumer hsignalled
      next => cases h
  | pop =>
      simp only [step] at h
      split at h
      next hconsumer hqueue =>
        cases h
        exact .pop hconsumer hqueue
      next hconsumer hqueue =>
        cases h
        exact .close hconsumer hqueue
      next => cases h
  | resume =>
      simp only [step] at h
      split at h
      next hconsumer =>
        cases h
        exact .resume hconsumer
      next => cases h

/-! ## The batches of a schedule -/

def Consumer.buffer : Consumer α → List α
  | .draining buffer => buffer
  | _ => []

/-- The sizes of the batches of a schedule, from `queued` items in the queue
and `taken` items in the buffer. -/
def sizes : (queued taken : ℕ) → List Event → List ℕ
  | _, _, [] => []
  | queued, taken, .add :: es => sizes (queued + 1) taken es
  | queued + 1, taken, .pop :: es => sizes queued (taken + 1) es
  | 0, taken, .pop :: es => taken :: sizes 0 0 es
  | queued, taken, .receive :: es => sizes queued taken es
  | queued, taken, .signal :: es => sizes queued taken es
  | queued, taken, .take :: es => sizes queued taken es
  | queued, taken, .resume :: es => sizes queued taken es

/-- Everything has been added and handed over. -/
def Done (s : State α) : Prop :=
  s.chunks = [] ∧ s.adding = none ∧ s.queue = [] ∧ s.signalled = false ∧
    s.consumer = .waiting

/-- The items in the order in which they were, are or will be added. -/
def State.items (s : State α) : List α :=
  s.batches.flatten ++ s.consumer.buffer ++ s.queue ++ s.adding.getD [] ++
    s.chunks.flatten

/-- Nothing is lost or reordered. -/
theorem items_step {capacity : ℕ} {s s' : State α} {e : Event}
    (h : step capacity s e = some s') : s'.items = s.items := by
  cases stepped_of_step h with
  | skip hadding hchunks => simp [State.items, hchunks]
  | receive hadding hchunks => simp [State.items, hadding, hchunks]
  | add hadding hroom => simp [State.items, hadding]
  | signal hadding => simp [State.items, hadding]
  | take hconsumer hsignalled =>
      simp [State.items, hconsumer, Consumer.buffer]
  | pop hconsumer hqueue =>
      simp [State.items, hconsumer, hqueue, Consumer.buffer]
  | close hconsumer hqueue =>
      simp [State.items, hconsumer, hqueue, Consumer.buffer]
  | resume hconsumer => simp [State.items, hconsumer, Consumer.buffer]

theorem items_run {capacity : ℕ} {s s' : State α} {es : List Event}
    (hrun : run (step capacity) s es = some s') : s'.items = s.items :=
  run_invariant (I := fun t => t.items = s.items)
    (fun _ _ _ ht h => (items_step h).trans ht) rfl hrun

/-- The batches of a run have the sizes computed from the schedule. -/
theorem map_length_batches {capacity : ℕ} {s s' : State α} {es : List Event}
    (hrun : run (step capacity) s es = some s') :
    s'.batches.map List.length = s.batches.map List.length ++
      sizes s.queue.length s.consumer.buffer.length es := by
  induction es generalizing s with
  | nil =>
      cases hrun
      simp [sizes]
  | cons e es ih =>
      obtain ⟨t, hstep, hrest⟩ := run_cons_eq_some.mp hrun
      rw [ih hrest]
      cases stepped_of_step hstep with
      | skip hadding hchunks => simp [sizes]
      | receive hadding hchunks => simp [sizes]
      | add hadding hroom => simp [sizes]
      | signal hadding => simp [sizes]
      | take hconsumer hsignalled =>
          simp [sizes, hconsumer, Consumer.buffer]
      | pop hconsumer hqueue =>
          simp [sizes, hconsumer, hqueue, Consumer.buffer]
      | close hconsumer hqueue =>
          simp [sizes, hconsumer, hqueue, Consumer.buffer]
      | resume hconsumer => simp [sizes, hconsumer, Consumer.buffer]

/-- A finished run hands the chunks over as they are exactly when the
schedule's sizes are the chunks' lengths. -/
theorem batches_eq_iff {capacity : ℕ} {chunks : List (List α)} {s : State α}
    {es : List Event} (hrun : run (step capacity) { chunks } es = some s)
    (hdone : Done s) :
    s.batches = chunks ↔ sizes 0 0 es = chunks.map List.length := by
  obtain ⟨hchunks, hadding, hqueue, -, hconsumer⟩ := hdone
  have hflatten : s.batches.flatten = chunks.flatten := by
    simpa [State.items, hchunks, hadding, hqueue, hconsumer, Consumer.buffer]
      using items_run hrun
  have hsizes : s.batches.map List.length = sizes 0 0 es :=
    map_length_batches hrun
  rw [List.eq_iff_flatten_eq, hsizes]
  exact and_iff_right hflatten

/-! ## Every run can be finished -/

/-- Nobody is going to take items from the queue. -/
def Unattended (s : State α) : Prop :=
  s.signalled = false ∧ ∀ buffer, s.consumer ≠ .draining buffer

/-- The chunks fit into the queue, and an unattended queue holds at most the
beginning of the chunk that is being added. -/
structure Roomy (capacity : ℕ) (s : State α) : Prop where
  chunks : ∀ chunk ∈ s.chunks, chunk.length ≤ capacity
  rest : ∀ rest, s.adding = some rest → rest.length ≤ capacity
  room : Unattended s → ∀ rest, s.adding = some rest →
    s.queue.length + rest.length ≤ capacity
  empty : Unattended s → s.adding = none → s.queue = []

theorem Roomy.step {capacity : ℕ} {s s' : State α} {e : Event}
    (hs : Roomy capacity s) (h : SignalledQueue.step capacity s e = some s') :
    Roomy capacity s' := by
  cases stepped_of_step h with
  | skip hadding hchunks =>
      have hall := hs.chunks
      rw [hchunks, List.forall_mem_cons] at hall
      exact ⟨hall.2, hs.rest, hs.room, hs.empty⟩
  | receive hadding hchunks =>
      have hall := hs.chunks
      rw [hchunks, List.forall_mem_cons] at hall
      refine ⟨hall.2, ?_, ?_, by simp⟩
      · rintro rest ⟨⟩
        exact hall.1
      · rintro hunattended rest ⟨⟩
        rw [show s.queue = [] from hs.empty hunattended hadding]
        simpa using hall.1
  | add hadding hroom =>
      have hrest := hs.rest _ hadding
      rw [List.length_cons] at hrest
      refine ⟨hs.chunks, ?_, ?_, by simp⟩
      · rintro rest ⟨⟩
        exact Nat.le_of_succ_le hrest
      · rintro hunattended rest ⟨⟩
        have hfits := hs.room hunattended _ hadding
        simp only [List.length_append, List.length_cons,
          List.length_nil] at hfits ⊢
        omega
  | signal hadding =>
      exact ⟨hs.chunks, by simp, by simp, by simp [Unattended]⟩
  | take hconsumer hsignalled =>
      exact ⟨hs.chunks, hs.rest, fun h => absurd rfl (h.2 []),
        fun h => absurd rfl (h.2 [])⟩
  | pop hconsumer hqueue =>
      exact ⟨hs.chunks, hs.rest, fun h => absurd rfl (h.2 _),
        fun h => absurd rfl (h.2 _)⟩
  | close hconsumer hqueue =>
      refine ⟨hs.chunks, hs.rest, fun _ rest hadding => ?_, fun _ _ => hqueue⟩
      simpa [hqueue] using hs.rest rest hadding
  | resume hconsumer =>
      have hunattended (h : s.signalled = false) : Unattended s :=
        ⟨h, fun buffer => by simp [hconsumer]⟩
      exact ⟨hs.chunks, hs.rest, fun h => hs.room (hunattended h.1),
        fun h => hs.empty (hunattended h.1)⟩

theorem Roomy.run {capacity : ℕ} {s s' : State α} {es : List Event}
    (hs : Roomy capacity s)
    (hrun : Runs.run (SignalledQueue.step capacity) s es = some s') :
    Roomy capacity s' :=
  run_invariant (fun _ _ _ ht h => ht.step h) hs hrun

/-- The consumer takes what is in the queue and waits again. -/
theorem exists_run_drain (capacity : ℕ) {s : State α} {buffer : List α}
    (hconsumer : s.consumer = .draining buffer) :
    ∃ es s', run (step capacity) s es = some s' ∧ s'.consumer = .waiting ∧
      s'.signalled = s.signalled ∧ s'.chunks = s.chunks ∧
      s'.adding = s.adding := by
  induction hqueue : s.queue generalizing s buffer with
  | nil =>
      refine ⟨[.pop, .resume], { s with
        consumer := .waiting
        batches := s.batches ++ [buffer] }, ?_, rfl, rfl, rfl, rfl⟩
      simp [run, step, hconsumer, hqueue]
  | cons x queue ih =>
      obtain ⟨es, s', hrun, hrest⟩ := ih (s := { s with
        consumer := .draining (buffer ++ [x])
        queue }) rfl rfl
      refine ⟨.pop :: es, s', run_cons_eq_some.mpr ⟨_, ?_, hrun⟩, hrest⟩
      simp [step, hconsumer, hqueue]

/-- It can do so in any state, and take the signal if there is one. -/
theorem exists_run_unattended (capacity : ℕ) (s : State α) :
    ∃ es s', run (step capacity) s es = some s' ∧ s'.consumer = .waiting ∧
      s'.signalled = false ∧ s'.chunks = s.chunks ∧ s'.adding = s.adding := by
  have hwait : ∃ es s', run (step capacity) s es = some s' ∧
      s'.consumer = .waiting ∧ s'.chunks = s.chunks ∧
      s'.adding = s.adding := by
    cases hconsumer : s.consumer with
    | waiting => exact ⟨[], s, rfl, hconsumer, rfl, rfl⟩
    | draining buffer =>
        obtain ⟨es, s', hrun, hwaiting, -, hrest⟩ :=
          exists_run_drain capacity hconsumer
        exact ⟨es, s', hrun, hwaiting, hrest⟩
    | busy =>
        refine ⟨[.resume], { s with consumer := .waiting }, ?_, rfl, rfl, rfl⟩
        simp [run, step, hconsumer]
  obtain ⟨es, t, hrun, hwaiting, hchunks, hadding⟩ := hwait
  by_cases hsignalled : t.signalled = true
  · obtain ⟨fs, s', hdrain, hwaiting', hsignalled', hchunks', hadding'⟩ :=
      exists_run_drain capacity
        (s := { t with consumer := .draining [], signalled := false }) rfl
    refine ⟨es ++ .take :: fs, s', ?_, hwaiting', hsignalled',
      hchunks'.trans hchunks, hadding'.trans hadding⟩
    refine run_append_eq_some.mpr ⟨t, hrun, ?_⟩
    refine run_cons_eq_some.mpr ⟨_, ?_, hdrain⟩
    simp [step, hwaiting, hsignalled]
  · exact ⟨es, t, hrun, hwaiting, eq_false_of_ne_true hsignalled, hchunks,
      hadding⟩

/-- A chunk that has room is added and signalled. -/
theorem exists_run_signal {capacity : ℕ} {rest : List α} {s : State α}
    (hadding : s.adding = some rest)
    (hroom : s.queue.length + rest.length ≤ capacity) :
    ∃ es s', run (step capacity) s es = some s' ∧ s'.adding = none ∧
      s'.chunks = s.chunks := by
  induction rest generalizing s with
  | nil =>
      refine ⟨[.signal], { s with adding := none, signalled := true }, ?_, rfl,
        rfl⟩
      simp [run, step, hadding]
  | cons x rest ih =>
      rw [List.length_cons] at hroom
      obtain ⟨es, s', hrun, hrest⟩ := ih (s := { s with
        adding := some rest
        queue := s.queue ++ [x] }) rfl (by
          rw [List.length_append, List.length_singleton]
          omega)
      refine ⟨.add :: es, s', run_cons_eq_some.mpr ⟨_, ?_, hrun⟩, hrest⟩
      simp only [step, hadding]
      rw [if_pos (by omega)]

/-- What was received has been added and handed over. -/
def Calm (s : State α) : Prop :=
  s.adding = none ∧ s.queue = [] ∧ s.signalled = false ∧
    s.consumer = .waiting

theorem exists_run_calm_of_none {capacity : ℕ} {s : State α}
    (hs : Roomy capacity s) (hadding : s.adding = none) :
    ∃ es s', run (step capacity) s es = some s' ∧ s'.chunks = s.chunks ∧
      Calm s' := by
  obtain ⟨es, s', hrun, hwaiting, hsignalled, hchunks, hadding'⟩ :=
    exists_run_unattended capacity s
  have hempty := (hs.run hrun).empty ⟨hsignalled, by simp [hwaiting]⟩
    (hadding'.trans hadding)
  exact ⟨es, s', hrun, hchunks, hadding'.trans hadding, hempty, hsignalled,
    hwaiting⟩

theorem exists_run_calm {capacity : ℕ} {s : State α}
    (hs : Roomy capacity s) :
    ∃ es s', run (step capacity) s es = some s' ∧ s'.chunks = s.chunks ∧
      Calm s' := by
  obtain ⟨es, t, hrun, hwaiting, hsignalled, hchunks, -⟩ :=
    exists_run_unattended capacity s
  have ht := hs.run hrun
  cases hadding : t.adding with
  | none =>
      obtain ⟨fs, s', hrun', hchunks', hcalm⟩ :=
        exists_run_calm_of_none ht hadding
      exact ⟨es ++ fs, s', run_append_eq_some.mpr ⟨t, hrun, hrun'⟩,
        hchunks'.trans hchunks, hcalm⟩
  | some rest =>
      have hroom := ht.room ⟨hsignalled, by simp [hwaiting]⟩ rest hadding
      obtain ⟨fs, u, hadd, hnone, hu⟩ := exists_run_signal hadding hroom
      obtain ⟨gs, s', hrun', hchunks', hcalm⟩ :=
        exists_run_calm_of_none (ht.run hadd) hnone
      refine ⟨es ++ (fs ++ gs), s', ?_, hchunks'.trans (hu.trans hchunks),
        hcalm⟩
      exact run_append_eq_some.mpr ⟨t, hrun,
        run_append_eq_some.mpr ⟨u, hadd, hrun'⟩⟩

/-- If the chunks fit into the queue, every run can be continued until all of
them have been handed over. -/
theorem exists_run_done {capacity : ℕ} {s : State α} (hs : Roomy capacity s) :
    ∃ es s', run (step capacity) s es = some s' ∧ Done s' := by
  induction hn : s.chunks.length generalizing s with
  | zero =>
      obtain ⟨es, s', hrun, hchunks, hcalm⟩ := exists_run_calm hs
      exact ⟨es, s', hrun,
        hchunks.trans (List.eq_nil_of_length_eq_zero hn), hcalm⟩
  | succ n ih =>
      obtain ⟨es, t, hrun, hchunks, hnone, -⟩ := exists_run_calm hs
      rw [← hchunks] at hn
      obtain ⟨chunk, chunks, hcons⟩ := List.exists_cons_of_length_eq_add_one hn
      have hreceive : ∃ u, step capacity t .receive = some u ∧
          u.chunks.length = n := by
        rw [hcons, List.length_cons, Nat.add_right_cancel_iff] at hn
        cases chunk with
        | nil => exact ⟨{ t with chunks }, by simp [step, hnone, hcons], hn⟩
        | cons x chunk =>
            exact ⟨{ t with chunks, adding := some (x :: chunk) },
              by simp [step, hnone, hcons], hn⟩
      obtain ⟨u, hu, hlength⟩ := hreceive
      obtain ⟨fs, s', hrest, hdone⟩ := ih ((hs.run hrun).step hu) hlength
      refine ⟨es ++ .receive :: fs, s', ?_, hdone⟩
      exact run_append_eq_some.mpr
        ⟨t, hrun, run_cons_eq_some.mpr ⟨u, hu, hrest⟩⟩

end SignalledQueue
