import WirelessHarness.Master.SlaveManager
import WirelessHarness.Support.Runs

/-!
# The test cycle of the slave manager

While it is enabled, `SlaveManager::task` takes `sync_sem`, reads the data of
the period that has passed and sends the next sync frame.  The periodic timer
runs from the start command on, is restarted behind every sync frame and gives
`sync_sem` whenever it expires.  A token given before the sync frame is out
stays there, and the next round reads at once.
-/

namespace WirelessHarness

open CheckedRead Runs

namespace SlaveManager

/-- Configuring does not touch the variables of the test cycle. -/
theorem cycle_config_process (s : SlaveManager) (cfg_cmd : CfgCmd) :
    (s.config_process cfg_cmd).sync_sem = s.sync_sem ∧
      (s.config_process cfg_cmd).wait_for_data = s.wait_for_data ∧
      (s.config_process cfg_cmd).sync_timer_active = s.sync_timer_active := by
  cases hstate : s.cfg_state <;>
    simp [config_process, configDispatch, hstate, cfgProcess]

/-- A command leaves `sync_sem` and `wait_for_data` alone, or it starts the
cycle. -/
theorem cycle_handle (s : SlaveManager) (forward_data : DataForward) :
    (s.handle forward_data).sync_sem = s.sync_sem ∧
        (s.handle forward_data).wait_for_data = s.wait_for_data ∨
      (s.handle forward_data).sync_sem = true ∧
        (s.handle forward_data).wait_for_data = false := by
  cases htype : forward_data.type with
  | DEV_CONF =>
      obtain ⟨hsync, hwait, -⟩ := s.cycle_config_process forward_data.cfg_cmd
      left
      cases hrunning : s.running <;>
        simp [handle, htype, hrunning, hsync, hwait]
  | DEV_MODE =>
      left
      cases hrunning : s.running <;> simp [handle, htype, hrunning, modeProcess]
  | DEV_RESET =>
      left
      simp [handle, htype]
  | DEV_CTRL =>
      obtain ⟨-, -, -, hctrl⟩ | ⟨-, -, hctrl⟩ | ⟨-, hctrl⟩ :=
        s.ctrl_process_cases forward_data.ctrl_cmd
      · right
        simp [handle, htype, hctrl]
      · left
        simp [handle, htype, hctrl, ctrlProcess]
      · left
        simp [handle, htype, hctrl, ctrlProcess]

end SlaveManager

namespace TestCycle

/-! ## The task -/

/-- What gave `sync_sem`: the start command, or the timer when so many sync
frames had been sent. -/
inductive Giver
  | command
  | timer (sent : ℕ)
deriving DecidableEq, Repr

/-- Where `SlaveManager::task` is: at the queue and the test of `sync_sem`, at
the tests of `wait_for_data`, in the reading branch, in `send_sync_frame` or
behind it. -/
inductive Phase
  | polling
  | taken (giver : Giver)
  | reading (giver : Giver)
  | sending
  | sent
deriving DecidableEq, Repr

/-- A call of `read_cond_data_process`: what gave the token that triggered it,
and how many sync frames had been sent. -/
structure ReadCall where
  giver : Giver
  sent : ℕ
deriving DecidableEq, Repr

/-- A call of `send_sync_frame`, and whether the manager was running. -/
structure SyncCall where
  sync_frame : Bytes
  running : Bool
deriving DecidableEq, Repr

/-- `giver` is that of the token in `sync_sem`; `sent` counts the calls of
`send_sync_frame` that have returned. -/
structure State where
  manager : SlaveManager
  phase : Phase := .polling
  giver : Giver := .command
  sent : ℕ := 0
  reads : List ReadCall := []
  syncs : List SyncCall := []

/-- `expire` is the timer's callback, all other events are the task's. -/
inductive Event
  | command (forward_data : DataForward)
  | take
  | stop
  | resume
  | send
  | sent
  | start
  | expire
deriving DecidableEq, Repr

/-- `sync_sem.give()`: a token that is there already stays. -/
def State.give (s : State) (giver : Giver) : State :=
  { s with
    manager := { s.manager with sync_sem := true }
    giver := if s.manager.sync_sem then s.giver else giver }

/-- The timer's task preempts the manager's, so starting and stopping it takes
effect at once. -/
def step (s : State) : Event → Option State
  | .command forward_data =>
      match s.phase with
      | .polling => some { s with
          manager := s.manager.handle forward_data
          giver := if s.manager.sync_sem then s.giver else .command }
      | _ => none
  | .take =>
      match s.phase with
      | .polling =>
          if s.manager.ctrl = DEV_ENABLE ∧ s.manager.sync_sem = true then
            some { s with
              manager := { s.manager with sync_sem := false }
              phase := .taken s.giver }
          else none
      | _ => none
  | .stop =>
      match s.phase with
      | .taken giver =>
          if s.manager.wait_for_data = true then
            some { s with
              manager := { s.manager with sync_timer_active := false }
              phase := .reading giver
              reads :=
                if s.manager.mode = CONDUCTION_TEST then
                  s.reads ++ [⟨giver, s.sent⟩]
                else s.reads }
          else none
      | _ => none
  | .resume =>
      match s.phase with
      | .reading giver => some { s with
          manager := { s.manager with
            wait_for_data := false
            sync_timer_active := true }
          phase := .taken giver }
      | _ => none
  | .send =>
      match s.phase with
      | .taken _ =>
          if s.manager.wait_for_data = false then
            some { s with
              manager := { s.manager with wait_for_data := true }
              phase := .sending
              syncs := s.syncs ++ [⟨s.manager.sync_frame, s.manager.running⟩] }
          else none
      | _ => none
  | .sent =>
      match s.phase with
      | .sending => some { s with phase := .sent, sent := s.sent + 1 }
      | _ => none
  | .start =>
      match s.phase with
      | .sent => some { s with
          manager := { s.manager with sync_timer_active := true }
          phase := .polling }
      | _ => none
  | .expire =>
      if s.manager.sync_timer_active = true then
        some (s.give (.timer s.sent))
      else none

/-- After power-on.  Two members of the manager are not initialized. -/
def Boot (s : State) : Prop :=
  s = { manager :=
    { radio := s.manager.radio
      slave_dev_index := s.manager.slave_dev_index
      totalConductionNum := s.manager.totalConductionNum } }

/-- Everything a step can do. -/
inductive Stepped (s : State) : Event → State → Prop
  | command (forward_data : DataForward) (hphase : s.phase = .polling) :
      Stepped s (.command forward_data) { s with
        manager := s.manager.handle forward_data
        giver := if s.manager.sync_sem then s.giver else .command }
  | take (hphase : s.phase = .polling) (hctrl : s.manager.ctrl = DEV_ENABLE)
      (hsync : s.manager.sync_sem = true) :
      Stepped s .take { s with
        manager := { s.manager with sync_sem := false }
        phase := .taken s.giver }
  | stop (giver : Giver) (hphase : s.phase = .taken giver)
      (hwait : s.manager.wait_for_data = true) :
      Stepped s .stop { s with
        manager := { s.manager with sync_timer_active := false }
        phase := .reading giver
        reads :=
          if s.manager.mode = CONDUCTION_TEST then
            s.reads ++ [⟨giver, s.sent⟩]
          else s.reads }
  | resume (giver : Giver) (hphase : s.phase = .reading giver) :
      Stepped s .resume { s with
        manager := { s.manager with
          wait_for_data := false
          sync_timer_active := true }
        phase := .taken giver }
  | send (giver : Giver) (hphase : s.phase = .taken giver)
      (hwait : s.manager.wait_for_data = false) :
      Stepped s .send { s with
        manager := { s.manager with wait_for_data := true }
        phase := .sending
        syncs := s.syncs ++ [⟨s.manager.sync_frame, s.manager.running⟩] }
  | sent (hphase : s.phase = .sending) :
      Stepped s .sent { s with phase := .sent, sent := s.sent + 1 }
  | start (hphase : s.phase = .sent) :
      Stepped s .start { s with
        manager := { s.manager with sync_timer_active := true }
        phase := .polling }
  | expire (hactive : s.manager.sync_timer_active = true) :
      Stepped s .expire (s.give (.timer s.sent))

theorem stepped_iff {s s' : State} {e : Event} :
    step s e = some s' ↔ Stepped s e s' := by
  constructor
  · intro h
    cases e with
    | command forward_data =>
        simp only [step] at h
        split at h
        · next hphase =>
            cases h
            exact .command forward_data hphase
        · cases h
    | take =>
        simp only [step] at h
        split at h
        · next hphase =>
            rw [Option.ite_none_right_eq_some] at h
            obtain ⟨⟨hctrl, hsync⟩, h⟩ := h
            cases h
            exact .take hphase hctrl hsync
        · cases h
    | stop =>
        simp only [step] at h
        split at h
        · next giver hphase =>
            rw [Option.ite_none_right_eq_some] at h
            obtain ⟨hwait, h⟩ := h
            cases h
            exact .stop giver hphase hwait
        · cases h
    | resume =>
        simp only [step] at h
        split at h
        · next giver hphase =>
            cases h
            exact .resume giver hphase
        · cases h
    | send =>
        simp only [step] at h
        split at h
        · next giver hphase =>
            rw [Option.ite_none_right_eq_some] at h
            obtain ⟨hwait, h⟩ := h
            cases h
            exact .send giver hphase hwait
        · cases h
    | sent =>
        simp only [step] at h
        split at h
        · next hphase =>
            cases h
            exact .sent hphase
        · cases h
    | start =>
        simp only [step] at h
        split at h
        · next hphase =>
            cases h
            exact .start hphase
        · cases h
    | expire =>
        rw [step, Option.ite_none_right_eq_some] at h
        obtain ⟨hactive, h⟩ := h
        cases h
        exact .expire hactive
  · intro h
    cases h with
    | command forward_data hphase => simp only [step, hphase]
    | take hphase hctrl hsync =>
        simp only [step, hphase]
        exact if_pos ⟨hctrl, hsync⟩
    | stop giver hphase hwait =>
        simp only [step, hphase]
        exact if_pos hwait
    | resume giver hphase => simp only [step, hphase]
    | send giver hphase hwait =>
        simp only [step, hphase]
        exact if_pos hwait
    | sent hphase => simp only [step, hphase]
    | start hphase => simp only [step, hphase]
    | expire hactive => exact if_pos hactive

/-! ## Complete periods -/

/-- A token that the timer gave after the last sync frame had been sent. -/
def Fresh (sent : ℕ) (giver : Giver) : Prop :=
  giver = .timer sent ∧ 0 < sent

instance (sent : ℕ) : DecidablePred (Fresh sent) := fun _ =>
  inferInstanceAs (Decidable (_ ∧ _))

/-- Every reading was triggered by such a token. -/
def ReadsComplete (s : State) : Prop :=
  ∀ r ∈ s.reads, Fresh r.sent r.giver

instance : DecidablePred ReadsComplete := fun s =>
  inferInstanceAs (Decidable (∀ r ∈ s.reads, _))

/-- The timer does not expire between the taking of a token and the end of the
sync frame that follows. -/
def Orderly (s : State) : Event → Prop
  | .expire => s.phase = .polling ∨ s.phase = .sent
  | _ => True

instance (s : State) : DecidablePred (Orderly s)
  | .expire => inferInstanceAs (Decidable (_ ∨ _))
  | .command _ | .take | .stop | .resume | .send | .sent | .start =>
      .isTrue trivial

/-- What holds between the steps of any run: a token is only looked at while
the manager is enabled, a sync frame makes it wait for data, and the timer does
not run during a reading. -/
structure Inv (s : State) : Prop where
  enabled : s.phase ≠ .polling → s.manager.ctrl = DEV_ENABLE
  waiting : s.phase = .sending ∨ s.phase = .sent →
    s.manager.wait_for_data = true
  stopped : ∀ giver, s.phase = .reading giver →
    s.manager.sync_timer_active = false

theorem inv_boot {s : State} (hs : Boot s) : Inv s := by
  rw [hs]
  constructor <;> simp

theorem Inv.step {s s' : State} {e : Event} (hs : Inv s)
    (h : TestCycle.step s e = some s') : Inv s' := by
  cases stepped_iff.mp h with
  | command forward_data hphase => constructor <;> simp [hphase]
  | take hphase hctrl hsync => constructor <;> simp [hctrl]
  | stop giver hphase hwait =>
      have hctrl := hs.enabled (by simp [hphase])
      constructor <;> simp [hctrl]
  | resume giver hphase =>
      have hctrl := hs.enabled (by simp [hphase])
      constructor <;> simp [hctrl]
  | send giver hphase hwait =>
      have hctrl := hs.enabled (by simp [hphase])
      constructor <;> simp [hctrl]
  | sent hphase =>
      have hctrl := hs.enabled (by simp [hphase])
      have hwait := hs.waiting (Or.inl hphase)
      constructor <;> simp [hctrl, hwait]
  | start hphase => constructor <;> simp
  | expire hactive =>
      refine ⟨hs.enabled, hs.waiting, fun giver hphase => ?_⟩
      have hstopped := hs.stopped giver hphase
      rw [hactive] at hstopped
      cases hstopped

/-- What an orderly run adds: while data is waited for, a token there is and a
token that was taken are from after the last sync frame. -/
structure OrderlyInv (s : State) : Prop where
  untaken : s.manager.sync_sem = true → s.phase = .polling ∨ s.phase = .sent
  token : s.manager.wait_for_data = true → s.manager.sync_sem = true →
    Fresh s.sent s.giver
  taken : ∀ giver, s.phase = .taken giver →
    s.manager.wait_for_data = true → Fresh s.sent giver
  sent : s.manager.wait_for_data = true → s.phase ≠ .sending → 0 < s.sent
  reads : ReadsComplete s

theorem OrderlyInv.sync_sem_eq {s : State} (hs : OrderlyInv s)
    (hpolling : s.phase ≠ .polling) (hsent : s.phase ≠ .sent) :
    s.manager.sync_sem = false := by
  by_contra hsync
  obtain h | h := hs.untaken (eq_true_of_ne_false hsync)
  · exact hpolling h
  · exact hsent h

theorem orderlyInv_boot {s : State} (hs : Boot s) : OrderlyInv s := by
  rw [hs]
  constructor <;> simp [ReadsComplete]

theorem OrderlyInv.step {s s' : State} {e : Event} (hs : OrderlyInv s)
    (hC : Orderly s e) (h : TestCycle.step s e = some s') : OrderlyInv s' := by
  cases stepped_iff.mp h with
  | command forward_data hphase =>
      refine ⟨fun _ => Or.inl hphase, ?_, ?_, ?_, hs.reads⟩
      · intro hwait hsync
        obtain ⟨hsync', hwait'⟩ | ⟨-, hwait'⟩ :=
          s.manager.cycle_handle forward_data
        · rw [hwait'] at hwait
          rw [hsync'] at hsync
          simpa [hsync, Fresh] using hs.token hwait hsync
        · rw [hwait'] at hwait
          cases hwait
      · intro giver htaken
        rw [hphase] at htaken
        cases htaken
      · intro hwait hsending
        obtain ⟨-, hwait'⟩ | ⟨-, hwait'⟩ :=
          s.manager.cycle_handle forward_data
        · rw [hwait'] at hwait
          exact hs.sent hwait hsending
        · rw [hwait'] at hwait
          cases hwait
  | take hphase hctrl hsync =>
      refine ⟨by simp, by simp, ?_, ?_, hs.reads⟩
      · intro giver htaken hwait
        cases htaken
        exact hs.token hwait hsync
      · intro hwait _
        exact hs.sent hwait (by simp [hphase])
  | stop giver hphase hwait =>
      have hfresh := hs.taken giver hphase hwait
      have hsync := hs.sync_sem_eq (by simp [hphase]) (by simp [hphase])
      refine ⟨by simp [hsync], by simp [hsync], by simp,
        fun _ _ => hfresh.2, ?_⟩
      intro r hr
      simp only at hr
      split at hr
      · rcases List.mem_append.mp hr with hr | hr
        · exact hs.reads r hr
        · rw [List.mem_singleton.mp hr]
          exact hfresh
      · exact hs.reads r hr
  | resume giver hphase =>
      have hsync := hs.sync_sem_eq (by simp [hphase]) (by simp [hphase])
      exact ⟨by simp [hsync], by simp, by simp, by simp, hs.reads⟩
  | send giver hphase hwait =>
      have hsync := hs.sync_sem_eq (by simp [hphase]) (by simp [hphase])
      exact ⟨by simp [hsync], by simp [hsync], by simp, by simp, hs.reads⟩
  | sent hphase =>
      have hsync := hs.sync_sem_eq (by simp [hphase]) (by simp [hphase])
      exact ⟨by simp [hsync], by simp [hsync], by simp, by simp, hs.reads⟩
  | start hphase =>
      refine ⟨by simp, hs.token, by simp, ?_, hs.reads⟩
      intro hwait _
      exact hs.sent hwait (by simp [hphase])
  | expire hactive =>
      have hphase : s.phase = .polling ∨ s.phase = .sent := hC
      refine ⟨fun _ => hphase, ?_, ?_, hs.sent, hs.reads⟩
      · intro hwait _
        have hsent := hs.sent hwait (by rintro h; simp [h] at hphase)
        cases hsync : s.manager.sync_sem with
        | false => simp [State.give, hsync, Fresh, hsent]
        | true => simpa [State.give, hsync] using hs.token hwait hsync
      · intro giver htaken
        simp only [State.give] at htaken
        simp [htaken] at hphase

/-! ## A token from before the sync frame -/

/-- There is a token, and it will not be from after the next sync frame. -/
structure Stale (s : State) : Prop where
  enabled : s.manager.ctrl = DEV_ENABLE
  sync_sem : s.manager.sync_sem = true
  mode : s.manager.mode = CONDUCTION_TEST
  giver : s.giver ≠ .timer (s.sent + 1)

/-- The round after the sync frame reads at once. -/
theorem Stale.read_of_sending {s : State} (hs : Stale s)
    (hphase : s.phase = .sending) (hwait : s.manager.wait_for_data = true) :
    ∃ s', run step s [.sent, .start, .take, .stop] = some s' ∧
      ¬ ReadsComplete s' := by
  have hlate : ¬ Fresh (s.sent + 1) s.giver := fun h => hs.giver h.1
  simp only [run, step, hphase, hwait, hs.enabled, hs.sync_sem, hs.mode,
    and_self, if_true, Option.bind_some]
  refine ⟨_, rfl, fun hreads => hlate ?_⟩
  exact hreads ⟨s.giver, s.sent + 1⟩
    (List.mem_append_right _ List.mem_cons_self)

theorem Stale.read_of_taken {s : State} (hs : Stale s) {giver : Giver}
    (hphase : s.phase = .taken giver)
    (hwait : s.manager.wait_for_data = false) :
    ∃ s', run step s [.send, .sent, .start, .take, .stop] = some s' ∧
      ¬ ReadsComplete s' := by
  have hsend := stepped_iff.mpr (.send giver hphase hwait)
  have hsending : Stale { s with
      manager := { s.manager with wait_for_data := true }
      phase := .sending
      syncs := s.syncs ++ [⟨s.manager.sync_frame, s.manager.running⟩] } :=
    ⟨hs.enabled, hs.sync_sem, hs.mode, hs.giver⟩
  obtain ⟨s', hrun, hreads⟩ := hsending.read_of_sending rfl rfl
  exact ⟨s', run_cons_eq_some.mpr ⟨_, hsend, hrun⟩, hreads⟩

/-- Before the sync frame there may be the reading that the round began
with. -/
theorem Stale.read {s : State} (hs : Stale s) {giver : Giver}
    (hphase : s.phase = .taken giver) :
    ∃ es s', .expire ∉ es ∧ run step s es = some s' ∧
      ¬ ReadsComplete s' := by
  cases hwait : s.manager.wait_for_data with
  | false =>
      obtain ⟨s', hrun, hreads⟩ := hs.read_of_taken hphase hwait
      exact ⟨_, s', by decide, hrun, hreads⟩
  | true =>
      have hstop := stepped_iff.mpr (.stop giver hphase hwait)
      obtain ⟨s', hrun, hreads⟩ := Stale.read_of_taken
        (s := { s with
          manager := { s.manager with
            wait_for_data := false
            sync_timer_active := true }
          phase := .taken giver
          reads :=
            if s.manager.mode = CONDUCTION_TEST then
              s.reads ++ [⟨giver, s.sent⟩]
            else s.reads })
        ⟨hs.enabled, hs.sync_sem, hs.mode, hs.giver⟩ rfl rfl
      refine ⟨[.stop, .resume, .send, .sent, .start, .take, .stop], s',
        by decide, ?_, hreads⟩
      exact run_cons_eq_some.mpr ⟨_, hstop,
        run_cons_eq_some.mpr
          ⟨_, stepped_iff.mpr (.resume giver rfl), hrun⟩⟩

/-- The first expiry between the taking of a token and the end of the sync
frame leaves a token that triggers a reading too early, if nothing else is
done. -/
theorem exists_early_read {s t : State} (hs : Inv s) (hs' : OrderlyInv s)
    (hC : ¬ Orderly s .expire) (h : step s .expire = some t)
    (hmode : s.manager.mode = CONDUCTION_TEST) :
    ∃ es s', .expire ∉ es ∧ run step t es = some s' ∧
      ¬ ReadsComplete s' := by
  have hphase : ¬ (s.phase = .polling ∨ s.phase = .sent) := hC
  have hpolling : s.phase ≠ .polling := fun h => hphase (Or.inl h)
  have hsent : s.phase ≠ .sent := fun h => hphase (Or.inr h)
  have hsync := hs'.sync_sem_eq hpolling hsent
  cases stepped_iff.mp h with
  | expire hactive =>
      have hstale : Stale (s.give (.timer s.sent)) := by
        refine ⟨hs.enabled hpolling, rfl, hmode, ?_⟩
        simp [State.give, hsync]
      cases hcase : s.phase with
      | polling => exact absurd hcase hpolling
      | sent => exact absurd hcase hsent
      | reading giver =>
          have hstopped := hs.stopped giver hcase
          rw [hactive] at hstopped
          cases hstopped
      | taken giver => exact hstale.read hcase
      | sending =>
          obtain ⟨s', hrun, hreads⟩ := hstale.read_of_sending hcase
            (hs.waiting (Or.inl hcase))
          exact ⟨_, s', by decide, hrun, hreads⟩

/-- As long as the timer does not expire between the taking of a token and the
end of the sync frame, all data are read after a complete period; the first
expiry there can be followed by an early reading. -/
theorem readsComplete_until_expiry {s₀ s : State} {es : List Event}
    (hboot : Boot s₀) (hC : Meets step Orderly s₀ es)
    (hrun : run step s₀ es = some s) :
    ReadsComplete s ∧
      ∀ t, step s .expire = some t → ¬ Orderly s .expire →
        s.manager.mode = CONDUCTION_TEST →
          ∃ es' s', .expire ∉ es' ∧ run step t es' = some s' ∧
            ¬ ReadsComplete s' := by
  have hs := run_invariant (fun _ _ _ h => h.step) (inv_boot hboot) hrun
  have hs' := run_invariant_of_meets (fun _ _ _ h => h.step)
    (orderlyInv_boot hboot) hC hrun
  exact ⟨hs'.reads, fun _ h hnot hmode => exists_early_read hs hs' hnot h hmode⟩

/-- The command that configures a single device. -/
def oneDevice : DataForward :=
  { DataForward.zero with cfg_cmd := { CfgCmd.zero with slave_dev_num := 1 } }

/-- Start the cycle. -/
def enable : DataForward :=
  { DataForward.zero with type := .DEV_CTRL, ctrl_cmd := ⟨DEV_ENABLE⟩ }

/-- Powered on, and every device answers. -/
def powerOn : State := { manager := { radio := fun _ => true } }

def oneCycle : List Event :=
  [.command oneDevice, .command enable, .take, .send, .sent, .start, .expire,
    .take, .stop]

theorem readsComplete_oneCycle :
    ∃ s, run step powerOn oneCycle = some s ∧ ReadsComplete s := by
  have hboot : Boot powerOn := rfl
  have hC : Meets step Orderly powerOn oneCycle := by decide
  exact ⟨_, rfl, (readsComplete_until_expiry hboot hC rfl).1⟩

/-- The timer expires while the first sync frame is being sent. -/
theorem not_readsComplete_slowSend :
    ∃ s, run step powerOn
        [.command oneDevice, .command enable, .take, .send, .expire, .sent,
          .start, .take, .stop] = some s ∧ ¬ ReadsComplete s :=
  ⟨_, rfl, by decide⟩

end TestCycle

end WirelessHarness
