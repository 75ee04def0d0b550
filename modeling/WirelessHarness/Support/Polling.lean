import WirelessHarness.Support.Runs
import Mathlib.Data.List.Flatten

/-!
# Polling a queue

A producer adds items one at a time to a bounded queue.  A consumer repeatedly
takes items until the queue is empty, and then hands everything it has taken
since as one batch to whatever comes next.  Batches are determined by how the
two interleave, not by what the items mean: cutting the stream as intended is
a condition on the numbers of items alone.
-/

namespace Polling

open Runs

variable {α : Type*}

inductive Event
  | add
  | pop
deriving DecidableEq, Repr

/-- Items not yet added, items in the queue, items taken since the last batch,
and the batches handed over. -/
structure State (α : Type*) where
  pending : List α
  queue : List α := []
  buffer : List α := []
  batches : List (List α) := []

/-- Adding waits for room.  A pop that finds the queue empty closes the batch;
an empty batch is not handed over. -/
def step (capacity : ℕ) (s : State α) : Event → Option (State α)
  | .add =>
      match s.pending with
      | [] => none
      | x :: pending =>
          if s.queue.length < capacity then
            some { s with pending, queue := s.queue ++ [x] }
          else none
  | .pop =>
      match s.queue with
      | x :: queue => some { s with queue, buffer := s.buffer ++ [x] }
      | [] =>
          if s.buffer = [] then some s
          else some { s with buffer := [], batches := s.batches ++ [s.buffer] }

/-- The sizes of the batches of a schedule, from `queued` items in the queue
and `taken` items in the buffer. -/
def sizes : (queued taken : ℕ) → List Event → List ℕ
  | _, _, [] => []
  | queued, taken, .add :: es => sizes (queued + 1) taken es
  | queued + 1, taken, .pop :: es => sizes queued (taken + 1) es
  | 0, taken, .pop :: es =>
      if taken = 0 then sizes 0 0 es else taken :: sizes 0 0 es

/-- Everything has been added and handed over. -/
def Done (s : State α) : Prop :=
  s.pending = [] ∧ s.queue = [] ∧ s.buffer = []

/-- Nothing is lost or reordered, and no batch is empty. -/
structure Inv (items : List α) (s : State α) : Prop where
  conserved : s.batches.flatten ++ s.buffer ++ s.queue ++ s.pending = items
  nonempty : ∀ batch ∈ s.batches, batch ≠ []

theorem inv_step {items : List α} {capacity : ℕ} (s : State α) (e : Event)
    (s' : State α) (hs : Inv items s) (hstep : step capacity s e = some s') :
    Inv items s' := by
  have hconserved := hs.conserved
  cases e with
  | add =>
      rcases hpending : s.pending with _ | ⟨x, pending⟩
      · simp [step, hpending] at hstep
      · simp only [step, hpending, Option.ite_none_right_eq_some] at hstep
        obtain ⟨-, heq⟩ := hstep
        cases heq
        exact ⟨by simpa [hpending] using hconserved, hs.nonempty⟩
  | pop =>
      rcases hqueue : s.queue with _ | ⟨x, queue⟩
      · simp only [step, hqueue] at hstep
        split at hstep
        · cases hstep
          exact hs
        next hbuffer =>
          cases hstep
          refine ⟨by simpa [hqueue] using hconserved, ?_⟩
          intro batch hbatch
          rcases List.mem_append.mp hbatch with hbatch | hbatch
          · exact hs.nonempty batch hbatch
          · rw [List.mem_singleton] at hbatch
            rw [hbatch]
            exact hbuffer
      · simp only [step, hqueue] at hstep
        cases hstep
        exact ⟨by simpa [hqueue] using hconserved, hs.nonempty⟩

/-- The batches of a run have the sizes computed from the schedule. -/
theorem map_length_batches {capacity : ℕ} {s s' : State α} {es : List Event}
    (hrun : run (step capacity) s es = some s') :
    s'.batches.map List.length = s.batches.map List.length ++
      sizes s.queue.length s.buffer.length es := by
  induction es generalizing s with
  | nil =>
      cases hrun
      simp [sizes]
  | cons e es ih =>
      obtain ⟨t, hstep, hrest⟩ := run_cons_eq_some.mp hrun
      rw [ih hrest]
      cases e with
      | add =>
          rcases hpending : s.pending with _ | ⟨x, pending⟩
          · simp [step, hpending] at hstep
          · simp only [step, hpending, Option.ite_none_right_eq_some] at hstep
            obtain ⟨-, heq⟩ := hstep
            cases heq
            simp [sizes]
      | pop =>
          rcases hqueue : s.queue with _ | ⟨x, queue⟩
          · simp only [step, hqueue] at hstep
            split at hstep
            next hbuffer =>
              cases hstep
              simp [hqueue, hbuffer, sizes]
            next hbuffer =>
              cases hstep
              simp [hbuffer, sizes]
          · simp only [step, hqueue] at hstep
            cases hstep
            simp [sizes]

theorem inv_run {capacity : ℕ} {items : List α} {s : State α}
    {es : List Event} (hrun : run (step capacity) { pending := items } es =
      some s) : Inv items s :=
  run_invariant inv_step ⟨by simp, by simp⟩ hrun

/-- A finished run cuts the stream into the given chunks exactly when the
schedule's sizes are the chunks' lengths. -/
theorem batches_eq_iff {capacity : ℕ} {chunks : List (List α)} {s : State α}
    {es : List Event}
    (hrun : run (step capacity) { pending := chunks.flatten } es = some s)
    (hdone : Done s) :
    s.batches = chunks ↔ sizes 0 0 es = chunks.map List.length := by
  obtain ⟨hpending, hqueue, hbuffer⟩ := hdone
  have hflatten : s.batches.flatten = chunks.flatten := by
    simpa [hpending, hqueue, hbuffer] using (inv_run hrun).conserved
  have hsizes : s.batches.map List.length = sizes 0 0 es :=
    map_length_batches hrun
  rw [List.eq_iff_flatten_eq, hsizes]
  exact and_iff_right hflatten

/-- Dropping non-empty lists shortens the concatenation. -/
theorem eq_of_sublist_of_length_flatten {xs ys : List (List α)}
    (hsub : xs.Sublist ys) (hne : ∀ y ∈ ys, y ≠ [])
    (hlen : ys.flatten.length ≤ xs.flatten.length) : xs = ys := by
  have hle {us vs : List (List α)} (h : us.Sublist vs) :
      us.flatten.length ≤ vs.flatten.length := h.flatten.length_le
  induction hsub with
  | slnil => rfl
  | cons y hsub _ =>
      have hpos := List.length_pos_iff.mpr (hne y List.mem_cons_self)
      have := hle hsub
      simp only [List.flatten_cons, List.length_append] at hlen
      omega
  | cons_cons y hsub ih =>
      simp only [List.flatten_cons, List.length_append] at hlen
      rw [ih (fun z hz => hne z (List.mem_cons_of_mem _ hz)) (by omega)]

end Polling
