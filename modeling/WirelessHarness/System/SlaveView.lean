import WirelessHarness.System.Agreement

/-!
# What one slave sees of a run

Master, radio and slaves take their steps in any order.  A slave takes part in
some of them: it processes a frame or its timer expires.  These steps alone
decide its state, and while the calls are of a certain kind and nothing is
started, so do the requests of these calls.
-/

namespace WirelessHarness

open CheckedRead Runs

namespace ClosedLoop

variable {n : ℕ}

/-! ## The slave's own run -/

/-- The part of slave `k` in a step. -/
def heard (k : Fin n) (s : ClosedLoop n) : Event n → List Bystander.Event
  | .process i _ =>
      match s.air[i]? with
      | some (some j, raw_data) => if j = k then [.frame raw_data] else []
      | _ => []
  | .callback j input => if j = k then [.callback input] else []
  | _ => []

/-- What slave `k` goes through in a run. -/
abbrev history (k : Fin n) (s : ClosedLoop n) (es : List (Event n)) :
    List Bystander.Event :=
  trace step (heard k) s es

/-- An empty vector is not parsed. -/
theorem bystander_step_frame (s : SlaveDevice) (raw_data : Bytes) :
    Bystander.step s (.frame raw_data) =
      some (s.parseAndProcess raw_data).2 := by
  by_cases hempty : raw_data = []
  · subst hempty
    rw [SlaveDevice.parseAndProcess_of_select_none rfl]
    rfl
  · exact Bystander.step_frame s hempty

theorem slaves_of_step (k : Fin n) (s : ClosedLoop n) (e : Event n)
    (s' : ClosedLoop n) (h : step s e = some s') :
    run Bystander.step (s.slaves k) (heard k s e) = some (s'.slaves k) := by
  cases e with
  | process i hears =>
      simp only [step] at h
      split at h
      next j raw_data hi =>
        cases h
        simp only [heard, hi, deliver]
        by_cases hj : j = k
        · subst hj
          rw [if_pos rfl, Function.update_self, run,
            bystander_step_frame]
          rfl
        · rw [if_neg hj, Function.update_of_ne (Ne.symm hj)]
          rfl
      next => cases h
  | callback j input =>
      obtain ⟨hactive, heq⟩ := Option.ite_none_right_eq_some.mp h
      cases heq
      simp only [heard]
      by_cases hj : j = k
      · subst hj
        rw [if_pos rfl, Function.update_self]
        simp [run, Bystander.step, hactive]
      · rw [if_neg hj, Function.update_of_ne (Ne.symm hj)]
        rfl
  | begin call | sync mode =>
      simp only [step] at h
      split at h
      · cases h
        rfl
      · cases h
  | add =>
      simp only [step] at h
      split at h
      · obtain ⟨-, heq⟩ := Option.ite_none_right_eq_some.mp h
        cases heq
        rfl
      · cases h
  | manager e =>
      obtain ⟨-, hmap⟩ := Option.ite_none_right_eq_some.mp h
      obtain ⟨master, -, rfl⟩ := Option.map_eq_some_iff.mp hmap
      rfl
  | transmit sent hears =>
      obtain ⟨master, -, rfl⟩ := Option.map_eq_some_iff.mp h
      rfl
  | receive i =>
      simp only [step] at h
      split at h
      · obtain ⟨master, -, rfl⟩ := Option.map_eq_some_iff.mp h
        rfl
      · cases h
  | lose i =>
      cases h
      rfl

/-- A slave runs through its history. -/
theorem slaves_of_run (k : Fin n) {s s' : ClosedLoop n} {es : List (Event n)}
    (hrun : run step s es = some s') :
    run Bystander.step (s.slaves k) (history k s es) = some (s'.slaves k) :=
  run_trace (fun s => s.slaves k) (slaves_of_step k) hrun

/-! ## Between starts -/

/-- Nothing is started, and the calls that begin are among these. -/
def Event.Calls (P : ProcessorCall → Prop) : Event n → Prop
  | .begin call => P call
  | .sync _ => False
  | _ => True

/-- The slave's part of a step, and what it could report afterwards. -/
theorem slave_cases {s s' : ClosedLoop n} {e : Event n}
    (h : step s e = some s') (hcalls : e.Calls fun _ => False) (k : Fin n) :
    s'.slaves k = s.slaves k ∧ s'.reportable k = s.reportable k ∨
      ((∃ raw_data, (some k, raw_data) ∈ s.air ∧
          s'.slaves k = ((s.slaves k).parseAndProcess raw_data).2) ∨
        (∃ input, (s.slaves k).board.harness.timerActive = true ∧
          s'.slaves k = { s.slaves k with
            board := Harness.myTimerCallback input (s.slaves k).board })) ∧
        s'.reportable k = s.reportable k ++ [(s'.slaves k).report] := by
  cases e with
  | process i hears =>
      simp only [step] at h
      split at h
      next j raw_data hi =>
        cases h
        by_cases hj : j = k
        · subst hj
          right
          refine ⟨.inl ⟨raw_data, List.mem_of_getElem? hi, ?_⟩, ?_⟩
          · simp [deliver]
          · simp [deliver]
        · left
          simp [deliver, Function.update_of_ne (Ne.symm hj)]
      next => cases h
  | callback j input =>
      obtain ⟨hactive, heq⟩ := Option.ite_none_right_eq_some.mp h
      cases heq
      by_cases hj : j = k
      · subst hj
        right
        refine ⟨.inr ⟨input, hactive, ?_⟩, ?_⟩
        · simp
        · simp
      · left
        simp [Function.update_of_ne (Ne.symm hj)]
  | begin call => exact hcalls.elim
  | sync mode => exact hcalls.elim
  | add =>
      simp only [step] at h
      split at h
      · obtain ⟨-, heq⟩ := Option.ite_none_right_eq_some.mp h
        cases heq
        exact .inl ⟨rfl, rfl⟩
      · cases h
  | manager e =>
      obtain ⟨-, hmap⟩ := Option.ite_none_right_eq_some.mp h
      obtain ⟨master, -, rfl⟩ := Option.map_eq_some_iff.mp hmap
      exact .inl ⟨rfl, rfl⟩
  | transmit sent hears =>
      obtain ⟨master, -, rfl⟩ := Option.map_eq_some_iff.mp h
      exact .inl ⟨rfl, rfl⟩
  | receive i =>
      simp only [step] at h
      split at h
      · obtain ⟨master, -, rfl⟩ := Option.map_eq_some_iff.mp h
        exact .inl ⟨rfl, rfl⟩
      · cases h
  | lose i =>
      cases h
      exact .inl ⟨rfl, rfl⟩

/-- The last call stays the last. -/
theorem call_eq_of_step {s s' : ClosedLoop n} {e : Event n}
    (h : step s e = some s') (hcalls : e.Calls fun _ => False) :
    s'.rsp = s.rsp ∧ s'.master.call = s.master.call := by
  cases e with
  | begin call => exact hcalls.elim
  | sync mode => exact hcalls.elim
  | process i hears =>
      simp only [step] at h
      split at h
      · cases h
        exact ⟨rfl, rfl⟩
      · cases h
  | callback j input =>
      obtain ⟨-, heq⟩ := Option.ite_none_right_eq_some.mp h
      cases heq
      exact ⟨rfl, rfl⟩
  | add =>
      simp only [step] at h
      split at h
      · obtain ⟨-, heq⟩ := Option.ite_none_right_eq_some.mp h
        cases heq
        exact ⟨rfl, rfl⟩
      · cases h
  | manager e =>
      obtain ⟨-, hmap⟩ := Option.ite_none_right_eq_some.mp h
      obtain ⟨master, hmaster, rfl⟩ := Option.map_eq_some_iff.mp hmap
      rw [call_manage]
      exact ⟨rfl, (SendFrame.stepped_of_step hmaster).call_eq⟩
  | transmit sent hears =>
      obtain ⟨master, hmaster, rfl⟩ := Option.map_eq_some_iff.mp h
      exact ⟨rfl, (SendFrame.stepped_of_step hmaster).call_eq⟩
  | receive i =>
      simp only [step] at h
      split at h
      · obtain ⟨master, hmaster, rfl⟩ := Option.map_eq_some_iff.mp h
        exact ⟨rfl, (SendFrame.stepped_of_step hmaster).call_eq⟩
      · cases h
  | lose i =>
      cases h
      exact ⟨rfl, rfl⟩

/-- The slave is in a good state, and so are those that its reports could be
from. -/
structure Undisturbed (uids : Fin n → UInt32) (k : Fin n)
    (P : ProcessorCall → Prop) (G : SlaveDevice → Prop) (s : ClosedLoop n) :
    Prop where
  inv : Inv uids s
  rsp : s.rsp = true
  call : P s.master.call
  slave : G (s.slaves k)
  reports : ∀ report ∈ s.reportable k, ∃ slave : SlaveDevice,
    G slave ∧ report = slave.report

/-- The requests of these calls, and callbacks, keep a slave in a good
state. -/
structure Keeps (uid : UInt32) (P : ProcessorCall → Prop)
    (G : SlaveDevice → Prop) : Prop where
  request : ∀ call, P call → ∀ s : SlaveDevice, s.uid = uid → G s →
    G (s.parseAndProcess call.frame).2
  callback : ∀ (s : SlaveDevice) (input : GpioInput), G s →
    s.board.harness.timerActive = true →
      G { s with board := Harness.myTimerCallback input s.board }

section

variable {uids : Fin n → UInt32} {k : Fin n} {P : ProcessorCall → Prop}
  {G : SlaveDevice → Prop}

theorem undisturbed_begin {s : ClosedLoop n} (hquiet : s.Quiet)
    (hagreed : ∀ k cfg_cmd, s.agreed k = some cfg_cmd →
      (s.slaves k).ConfiguredAs cfg_cmd)
    {call : ProcessorCall} (hcall : P call) (hslave : G (s.slaves k)) :
    Undisturbed (fun k => (s.slaves k).uid) k P G (s.begin call) where
  inv := inv_begin hquiet hagreed call
  rsp := rfl
  call := by
    cases call with
    | readCond id => exact hcall
    | condCfg cfg_cmd timeSlot => exact hcall
  slave := hslave
  reports := fun report hmem =>
    ⟨s.slaves k, hslave, List.mem_singleton.mp hmem⟩

theorem undisturbed_step (hids : Function.Injective uids)
    (hkeeps : Keeps (uids k) P G) (s : ClosedLoop n) (e : Event n)
    (s' : ClosedLoop n) (hs : Undisturbed uids k P G s)
    (hC : s.Orderly e ∧ e.Calls P) (h : step s e = some s') :
    Undisturbed uids k P G s' := by
  obtain ⟨horderly, hcalls⟩ := hC
  have hinv := inv_step hids s e s' hs.inv horderly h
  by_cases hbegin : ∃ call, e = .begin call
  · obtain ⟨call, rfl⟩ := hbegin
    simp only [step] at h
    split at h
    · cases h
      have hnew := undisturbed_begin (k := k) horderly hs.inv.agreed hcalls
        hs.slave
      rwa [show (fun k => (s.slaves k).uid) = uids from
        funext hs.inv.uid_eq] at hnew
    · cases h
  · have hnone : e.Calls fun _ => False := by
      cases e with
      | begin call => exact hbegin ⟨call, rfl⟩
      | sync mode => exact hcalls
      | _ => trivial
    obtain ⟨hrsp, hcall⟩ := call_eq_of_step h hnone
    have hslave : G (s'.slaves k) ∧ (s'.reportable k = s.reportable k ∨
        s'.reportable k =
          s.reportable k ++ [(s'.slaves k).report]) := by
      rcases slave_cases h hnone k with
        ⟨hsame, hreports⟩ | ⟨⟨raw_data, hmem, hprocess⟩ |
          ⟨input, hactive, hcallback⟩, hreports⟩
      · exact ⟨hsame ▸ hs.slave, .inl hreports⟩
      · refine ⟨?_, .inr hreports⟩
        rw [hprocess]
        rcases hs.inv.sent k raw_data hmem with hframe | ⟨reply, rfl⟩
        · have hcarries := hs.inv.carries
          rw [Carries, if_pos hs.rsp] at hcarries
          rw [hframe, hcarries]
          exact hkeeps.request _ hs.call _ (hs.inv.uid_eq k) hs.slave
        · rw [SlaveDevice.parseAndProcess_reply]
          exact hs.slave
      · refine ⟨?_, .inr hreports⟩
        rw [hcallback]
        exact hkeeps.callback _ input hs.slave hactive
    refine ⟨hinv, hrsp.trans hs.rsp, hcall ▸ hs.call, hslave.1, ?_⟩
    intro report hmem
    rcases hslave.2 with hreports | hreports
    · rw [hreports] at hmem
      exact hs.reports report hmem
    · rw [hreports, List.mem_append, List.mem_singleton] at hmem
      rcases hmem with hmem | hmem
      · exact hs.reports report hmem
      · exact ⟨s'.slaves k, hslave.1, hmem⟩

/-- What the requests of the calls of a run keep, if nothing is started. -/
theorem undisturbed_of_run {s s' : ClosedLoop n} (hquiet : s.Quiet)
    (hids : Function.Injective fun k => (s.slaves k).uid)
    (hagreed : ∀ k cfg_cmd, s.agreed k = some cfg_cmd →
      (s.slaves k).ConfiguredAs cfg_cmd)
    (hkeeps : Keeps (s.slaves k).uid P G) (hslave : G (s.slaves k))
    {call : ProcessorCall} (hcall : P call) {es : List (Event n)}
    (hcalls : ∀ e ∈ es, e.Calls P)
    (hC : Meets step Orderly (s.begin call) es)
    (hrun : run step (s.begin call) es = some s') :
    Undisturbed (fun k => (s.slaves k).uid) k P G s' := by
  apply run_invariant_of_meets (undisturbed_step hids hkeeps)
    (undisturbed_begin hquiet hagreed hcall hslave) _ hrun
  exact meets_and hC (meets_of_forall hcalls _)

/-- The same from any state that a run has led to. -/
theorem undisturbed_of_calls {s s' : ClosedLoop n} (hs : Inv uids s)
    (hids : Function.Injective uids) (hkeeps : Keeps (uids k) P G)
    (hslave : G (s.slaves k)) {call : ProcessorCall} {es : List (Event n)}
    (hcalls : ∀ e ∈ Event.begin call :: es, e.Calls P)
    (hC : Meets step Orderly s (.begin call :: es))
    (hrun : run step s (.begin call :: es) = some s') :
    Undisturbed uids k P G s' := by
  obtain ⟨t, ht, hrest⟩ := run_cons_eq_some.mp hrun
  obtain ⟨hcall, hcalls⟩ := List.forall_mem_cons.mp hcalls
  have hbegin : t = s.begin call := by
    simp only [step] at ht
    split at ht
    · exact (Option.some.inj ht).symm
    · cases ht
  have huids : (fun k => (s.slaves k).uid) = uids := funext hs.uid_eq
  have hCrest := hC.2 t ht
  subst hbegin
  subst huids
  exact undisturbed_of_run hC.1 hids hs.agreed hkeeps hslave hcall hcalls
    hCrest hrest

end

end ClosedLoop

end WirelessHarness
