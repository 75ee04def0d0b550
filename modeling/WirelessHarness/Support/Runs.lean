import Mathlib.Data.List.Basic

/-!
# Finite runs of labelled partial steps

A component is given by a partial step function `step : σ → ε → Option σ`: the
label resolves every choice of the environment, and `none` means that the
label is not possible in the state.  This file contains finite runs, the states
they pass through and the induction rules for invariants, with and without a
condition on the steps taken.
-/

namespace Runs

variable {σ : Type*} {ε : Type*}

/-- Execute the labels in order. -/
def run (step : σ → ε → Option σ) : σ → List ε → Option σ
  | s, [] => some s
  | s, e :: es => (step s e).bind fun s' => run step s' es

/-- Every step of the run is taken from a state and with a label in `C`. -/
def Meets (step : σ → ε → Option σ) (C : σ → ε → Prop) : σ → List ε → Prop
  | _, [] => True
  | s, e :: es => C s e ∧ ∀ s', step s e = some s' → Meets step C s' es

theorem meets_cons_of_none {step : σ → ε → Option σ} {C : σ → ε → Prop}
    {s : σ} {e : ε} (es : List ε) (h : step s e = none) :
    Meets step C s (e :: es) ↔ C s e := by
  simp [Meets, h]

theorem meets_cons_of_some {step : σ → ε → Option σ} {C : σ → ε → Prop}
    {s s' : σ} {e : ε} (es : List ε) (h : step s e = some s') :
    Meets step C s (e :: es) ↔ C s e ∧ Meets step C s' es := by
  simp [Meets, h]

instance decidableMeets (step : σ → ε → Option σ) (C : σ → ε → Prop)
    [∀ s e, Decidable (C s e)] :
    ∀ (s : σ) (es : List ε), Decidable (Meets step C s es)
  | _, [] => .isTrue trivial
  | s, e :: es =>
      match h : step s e with
      | none => decidable_of_iff (C s e) (meets_cons_of_none es h).symm
      | some s' =>
          have := decidableMeets step C s' es
          decidable_of_iff (C s e ∧ Meets step C s' es)
            (meets_cons_of_some es h).symm

/-- `s` is reached from an initial state by some run. -/
def Reachable (step : σ → ε → Option σ) (init : σ → Prop) (s : σ) : Prop :=
  ∃ s₀ es, init s₀ ∧ run step s₀ es = some s

section

variable {step : σ → ε → Option σ} {init : σ → Prop}

theorem run_cons_eq_some {s s'' : σ} {e : ε} {es : List ε} :
    run step s (e :: es) = some s'' ↔
      ∃ s', step s e = some s' ∧ run step s' es = some s'' := by
  simp [run, Option.bind_eq_some_iff]

theorem run_append (s : σ) (es fs : List ε) :
    run step s (es ++ fs) = (run step s es).bind fun s' => run step s' fs := by
  induction es generalizing s with
  | nil => rfl
  | cons e es ih =>
      simp only [List.cons_append, run]
      cases step s e with
      | none => rfl
      | some s' => exact ih s'

theorem run_append_eq_some {s s'' : σ} {es fs : List ε} :
    run step s (es ++ fs) = some s'' ↔
      ∃ s', run step s es = some s' ∧ run step s' fs = some s'' := by
  rw [run_append]
  exact Option.bind_eq_some_iff

/-- A condition on the labels alone is met label by label. -/
theorem meets_of_forall {D : ε → Prop} {es : List ε} (h : ∀ e ∈ es, D e)
    (s : σ) : Meets step (fun _ e => D e) s es := by
  induction es generalizing s with
  | nil => trivial
  | cons e es ih =>
      obtain ⟨he, hes⟩ := List.forall_mem_cons.mp h
      exact ⟨he, fun s' _ => ih hes s'⟩

theorem meets_and {C D : σ → ε → Prop} {s : σ} {es : List ε}
    (hC : Meets step C s es) (hD : Meets step D s es) :
    Meets step (fun s e => C s e ∧ D s e) s es := by
  induction es generalizing s with
  | nil => trivial
  | cons e es ih =>
      exact ⟨⟨hC.1, hD.1⟩, fun s' h => ih (hC.2 s' h) (hD.2 s' h)⟩

theorem meets_append {C : σ → ε → Prop} {s : σ} {es fs : List ε} :
    Meets step C s (es ++ fs) ↔ Meets step C s es ∧
      ∀ t, run step s es = some t → Meets step C t fs := by
  induction es generalizing s with
  | nil => simp [Meets, run]
  | cons e es ih =>
      rw [List.cons_append, run]
      cases hstep : step s e with
      | none => simp [Meets, hstep]
      | some s' => simp [Meets, hstep, ih, and_assoc]

/-- An invariant kept by every step that meets `C` holds after every run whose
steps all meet `C`. -/
theorem run_invariant_of_meets {I : σ → Prop} {C : σ → ε → Prop}
    (hstep : ∀ s e s', I s → C s e → step s e = some s' → I s')
    {s s' : σ} {es : List ε} (hs : I s) (hC : Meets step C s es)
    (hrun : run step s es = some s') : I s' := by
  induction es generalizing s with
  | nil =>
      cases hrun
      exact hs
  | cons e es ih =>
      obtain ⟨t, ht, hrest⟩ := run_cons_eq_some.mp hrun
      exact ih (hstep s e t hs hC.1 ht) (hC.2 t ht) hrest

/-- An invariant kept by every step holds after every run. -/
theorem run_invariant {I : σ → Prop}
    (hstep : ∀ s e s', I s → step s e = some s' → I s')
    {s s' : σ} {es : List ε} (hs : I s) (hrun : run step s es = some s') :
    I s' := by
  have hC : Meets step (fun _ _ => True) s es :=
    meets_of_forall (fun _ _ => trivial) s
  exact run_invariant_of_meets (fun s e s' hI _ h => hstep s e s' hI h)
    hs hC hrun

/-- A condition that keeps an invariant and implies another one where it holds
passes on to the other one. -/
theorem meets_mono_of_invariant {I : σ → Prop} {C D : σ → ε → Prop}
    (hstep : ∀ s e s', I s → C s e → step s e = some s' → I s')
    (hmono : ∀ s e, I s → C s e → D s e) {s : σ} (hs : I s) {es : List ε}
    (hC : Meets step C s es) : Meets step D s es := by
  induction es generalizing s with
  | nil => trivial
  | cons e es ih =>
      exact ⟨hmono s e hs hC.1, fun s' h =>
        ih (hstep s e s' hs hC.1 h) (hC.2 s' h)⟩

/-- Two conditions that agree where an invariant holds are met by the same
runs. -/
theorem meets_congr_of_invariant {I : σ → Prop} {C D : σ → ε → Prop}
    (hstep : ∀ s e s', I s → step s e = some s' → I s')
    (hcongr : ∀ s e, I s → (C s e ↔ D s e)) {s : σ} (hs : I s)
    (es : List ε) : Meets step C s es ↔ Meets step D s es :=
  ⟨meets_mono_of_invariant (fun s e s' h _ => hstep s e s' h)
      (fun s e h => (hcongr s e h).mp) hs,
    meets_mono_of_invariant (fun s e s' h _ => hstep s e s' h)
      (fun s e h => (hcongr s e h).mpr) hs⟩

/-- What a run logs is all good exactly if its steps meet the condition under
which a single step logs only good entries. -/
theorem forall_log_iff_meets {ρ : Type*} {I : σ → Prop} {C : σ → ε → Prop}
    {P : ρ → Prop} (log : σ → List ρ)
    (hstep : ∀ s e s', I s → step s e = some s' → I s' ∧
      ((∀ r ∈ log s', P r) ↔ (∀ r ∈ log s, P r) ∧ C s e))
    {s s' : σ} {es : List ε} (hs : I s) (hrun : run step s es = some s') :
    (∀ r ∈ log s', P r) ↔ (∀ r ∈ log s, P r) ∧ Meets step C s es := by
  induction es generalizing s with
  | nil =>
      cases hrun
      exact (and_iff_left trivial).symm
  | cons e es ih =>
      obtain ⟨t, ht, hrest⟩ := run_cons_eq_some.mp hrun
      obtain ⟨hinv, hlog⟩ := hstep s e t hs ht
      rw [ih hinv hrest, hlog, meets_cons_of_some es ht, and_assoc]

/-- A property holds all along a run exactly if its steps meet the condition
under which a single step keeps it. -/
theorem always_iff_meets {I P : σ → Prop} {C : σ → ε → Prop}
    (hinv : ∀ s e s', I s → step s e = some s' → I s')
    (hexact : ∀ s e s', I s → P s → step s e = some s' → (P s' ↔ C s e))
    {s s' : σ} {es : List ε} (hs : I s) (hP : P s)
    (hrun : run step s es = some s') :
    (∀ pre, pre <+: es → ∀ t, run step s pre = some t → P t) ↔
      Meets step C s es := by
  induction es generalizing s with
  | nil =>
      refine iff_of_true ?_ trivial
      intro pre hpre t ht
      rw [List.prefix_nil.mp hpre] at ht
      cases ht
      exact hP
  | cons e es ih =>
      obtain ⟨t, ht, hrest⟩ := run_cons_eq_some.mp hrun
      rw [meets_cons_of_some es ht, ← hexact s e t hs hP ht]
      constructor
      · intro h
        have hPt : P t := by
          apply h [e] (List.prefix_append [e] es) t
          exact run_cons_eq_some.mpr ⟨t, ht, rfl⟩
        refine ⟨hPt, (ih (hinv s e t hs ht) hPt hrest).mp ?_⟩
        intro pre hpre u hu
        exact h (e :: pre) ((List.prefix_cons_inj e).mpr hpre) u
          (run_cons_eq_some.mpr ⟨t, ht, hu⟩)
      · rintro ⟨hPt, hmeets⟩ pre hpre u hu
        rcases List.prefix_cons_iff.mp hpre with rfl | ⟨pre', rfl, hpre'⟩
        · cases hu
          exact hP
        · obtain ⟨t', ht', hu'⟩ := run_cons_eq_some.mp hu
          cases ht.symm.trans ht'
          exact (ih (hinv s e t hs ht) hPt hrest).mpr hmeets pre' hpre' u hu'

/-- A label repeated for every element of a list.  `g done rest` is the state
between two of them. -/
theorem run_replicate {α : Type*} {e : ε} {n : ℕ} (g : List α → List α → σ)
    (hstep : ∀ done x rest, done.length < n →
      step (g done (x :: rest)) e = some (g (done ++ [x]) rest))
    {done xs : List α} (rest : List α) (hn : done.length + xs.length ≤ n) :
    run step (g done (xs ++ rest)) (List.replicate xs.length e) =
      some (g (done ++ xs) rest) := by
  induction xs generalizing done with
  | nil =>
      rw [List.append_nil]
      rfl
  | cons x xs ih =>
      rw [List.length_cons] at hn
      apply run_cons_eq_some.mpr
      refine ⟨_, hstep done x (xs ++ rest) (by omega), ?_⟩
      rw [ih, List.append_assoc, List.singleton_append]
      rw [List.length_append, List.length_singleton]
      omega

/-- A map that carries steps to steps carries runs to runs. -/
theorem run_map {τ : Type*} {step' : τ → ε → Option τ} (f : σ → τ)
    (hstep : ∀ s e s', step s e = some s' → step' (f s) e = some (f s'))
    {s s' : σ} {es : List ε} (hrun : run step s es = some s') :
    run step' (f s) es = some (f s') := by
  induction es generalizing s with
  | nil =>
      cases hrun
      rfl
  | cons e es ih =>
      obtain ⟨t, ht, hrest⟩ := run_cons_eq_some.mp hrun
      exact run_cons_eq_some.mpr ⟨f t, hstep s e t ht, ih hrest⟩

/-- A map under which the steps correspond makes the runs correspond. -/
theorem map_run {τ : Type*} {step' : τ → ε → Option τ} (f : σ → τ)
    (hstep : ∀ s e, (step s e).map f = step' (f s) e) (s : σ)
    (es : List ε) : (run step s es).map f = run step' (f s) es := by
  induction es generalizing s with
  | nil => rfl
  | cons e es ih =>
      rw [run, run, ← hstep]
      cases step s e with
      | none => rfl
      | some s' => exact ih s'

/-- What a component goes through in a run: `label s e` is its part of step
`e`. -/
def trace {ρ : Type*} (step : σ → ε → Option σ) (label : σ → ε → List ρ) :
    σ → List ε → List ρ
  | _, [] => []
  | s, e :: es =>
      label s e ++ (step s e).elim [] fun s' => trace step label s' es

/-- A component that does its part of every step runs through its trace. -/
theorem run_trace {τ ρ : Type*} {step' : τ → ρ → Option τ} (f : σ → τ)
    {label : σ → ε → List ρ}
    (hstep : ∀ s e s', step s e = some s' →
      run step' (f s) (label s e) = some (f s'))
    {s s' : σ} {es : List ε} (hrun : run step s es = some s') :
    run step' (f s) (trace step label s es) = some (f s') := by
  induction es generalizing s with
  | nil =>
      cases hrun
      rfl
  | cons e es ih =>
      obtain ⟨t, ht, hrest⟩ := run_cons_eq_some.mp hrun
      rw [trace, ht]
      exact run_append_eq_some.mpr ⟨f t, hstep s e t ht, ih hrest⟩

/-- An invariant of the initial states kept by every step holds of every
reachable state. -/
theorem reachable_invariant {I : σ → Prop} (hinit : ∀ s, init s → I s)
    (hstep : ∀ s e s', I s → step s e = some s' → I s')
    {s : σ} (hs : Reachable step init s) : I s := by
  obtain ⟨s₀, es, h₀, hrun⟩ := hs
  exact run_invariant hstep (hinit s₀ h₀) hrun

theorem reachable_of_init {s : σ} (hs : init s) : Reachable step init s :=
  ⟨s, [], hs, rfl⟩

end

/-! ## Labels that change nothing -/

/-- The two lists are the same but for labels in `Q`, of which either side may
have any number at any place. -/
inductive DifferBy (Q : ε → Prop) : List ε → List ε → Prop
  | nil : DifferBy Q [] []
  | keep (e : ε) {es fs : List ε} (h : DifferBy Q es fs) :
      DifferBy Q (e :: es) (e :: fs)
  | left {e : ε} {es fs : List ε} (he : Q e) (h : DifferBy Q es fs) :
      DifferBy Q (e :: es) fs
  | right {e : ε} {es fs : List ε} (he : Q e) (h : DifferBy Q es fs) :
      DifferBy Q es (e :: fs)

theorem differBy_refl {Q : ε → Prop} (es : List ε) : DifferBy Q es es := by
  induction es with
  | nil => exact .nil
  | cons e es ih => exact .keep e ih

/-- One label with labels in `Q` around it. -/
theorem differBy_append_cons {Q : ε → Prop} {es fs : List ε} (e : ε)
    (hes : ∀ x ∈ es, Q x) (hfs : ∀ x ∈ fs, Q x) (gs : List ε) :
    DifferBy Q (es ++ e :: (fs ++ gs)) (e :: gs) := by
  have hafter : DifferBy Q (fs ++ gs) gs := by
    induction fs with
    | nil => exact differBy_refl gs
    | cons x fs ih =>
        rw [List.forall_mem_cons] at hfs
        exact .left hfs.1 (ih hfs.2)
  induction es with
  | nil => exact .keep e hafter
  | cons x es ih =>
      rw [List.forall_mem_cons] at hes
      exact .left hes.1 (ih hes.2)

/-- Where the labels in `Q` change nothing, runs that differ by them end in the
same state. -/
theorem run_eq_of_differBy {step : σ → ε → Option σ} {I : σ → Prop}
    {Q : ε → Prop} (hkeep : ∀ s e s', I s → step s e = some s' → I s')
    (hskip : ∀ s e, I s → Q e → step s e = some s) {es fs : List ε}
    (h : DifferBy Q es fs) {s : σ} (hs : I s) :
    run step s es = run step s fs := by
  induction h generalizing s with
  | nil => rfl
  | keep e _ ih =>
      rw [run, run]
      cases hstep : step s e with
      | none => rfl
      | some s' => exact ih (hkeep s e s' hs hstep)
  | left he _ ih =>
      rw [run, hskip s _ hs he]
      exact ih hs
  | right he _ ih =>
      rw [run, hskip s _ hs he]
      exact ih hs

end Runs
