import Mathlib.Data.List.Basic

/-!
# Checked vector reads

An unchecked `data[i]` has a meaning only for `i < data.size()`.  Code that
reads vectors is written here in the monad `Except OutOfRange`: a read outside
the vector stops the computation and reports the index together with the size
of the vector it indexed.  A computation that returns `ok` has therefore
evaluated in-range indices only.
-/

namespace CheckedRead

universe u

/-- An index that was evaluated although it is not below the vector's size. -/
structure OutOfRange where
  index : ℕ
  size : ℕ
deriving DecidableEq, Repr

variable {α : Type*} {β γ : Type u}

/-- The value of `data[i]`, or the offending index. -/
def readAt (data : List α) (i : ℕ) : Except OutOfRange α :=
  match data[i]? with
  | some x => .ok x
  | none => .error ⟨i, data.length⟩

theorem readAt_eq_ok {data : List α} {i : ℕ} {x : α} (h : data[i]? = some x) :
    readAt data i = .ok x := by
  simp [readAt, h]

theorem readAt_of_lt {data : List α} {i : ℕ} (h : i < data.length) :
    readAt data i = .ok data[i] :=
  readAt_eq_ok (List.getElem?_eq_getElem h)

@[simp] theorem readAt_cons_zero (x : α) (xs : List α) :
    readAt (x :: xs) 0 = .ok x := rfl

/-- The computation evaluated no index outside its vector. -/
def InRange (c : Except OutOfRange β) : Prop :=
  ∃ r, c = .ok r

@[simp] theorem inRange_ok (r : β) : InRange (.ok r : Except OutOfRange β) :=
  ⟨r, rfl⟩

@[simp] theorem not_inRange_error (e : OutOfRange) :
    ¬ InRange (.error e : Except OutOfRange β) := by
  rintro ⟨r, h⟩
  cases h

instance (c : Except OutOfRange β) : Decidable (InRange c) :=
  match c with
  | .ok r => isTrue ⟨r, rfl⟩
  | .error e => isFalse (not_inRange_error e)

@[simp] theorem pure_eq_ok (r : β) :
    (pure r : Except OutOfRange β) = .ok r := rfl

@[simp] theorem ok_bind (r : β) (f : β → Except OutOfRange γ) :
    ((.ok r : Except OutOfRange β) >>= f) = f r := rfl

@[simp] theorem error_bind (e : OutOfRange)
    (f : β → Except OutOfRange γ) :
    ((.error e : Except OutOfRange β) >>= f) = .error e := rfl

/-- A sequence of computations succeeds by each of them succeeding. -/
theorem bind_eq_ok {c : Except OutOfRange β} {f : β → Except OutOfRange γ}
    {r : γ} : c >>= f = .ok r ↔ ∃ x, c = .ok x ∧ f x = .ok r := by
  cases c with
  | error e => simp
  | ok x => simp

theorem inRange_readAt {data : List α} {i : ℕ} (h : i < data.length) :
    InRange (readAt data i) :=
  ⟨_, readAt_of_lt h⟩

theorem InRange.bind {c : Except OutOfRange β}
    {f : β → Except OutOfRange γ} (hc : InRange c)
    (hf : ∀ r, InRange (f r)) : InRange (c >>= f) := by
  obtain ⟨r, rfl⟩ := hc
  exact hf r

/-- A size test that returns early makes what follows it conditional. -/
theorem InRange.unless {p : Prop} [Decidable p] {r : β}
    {c : Except OutOfRange β} (h : ¬ p → InRange c) :
    InRange (if p then .ok r else c) := by
  split
  · exact inRange_ok r
  · exact h ‹_›

theorem inRange_bind_ok {c : Except OutOfRange β} {f : β → γ} :
    InRange (c >>= fun r => .ok (f r)) ↔ InRange c := by
  cases c with
  | error e => exact iff_of_false (not_inRange_error e) (not_inRange_error e)
  | ok r => exact iff_of_true ⟨f r, rfl⟩ ⟨r, rfl⟩

end CheckedRead
