import WirelessHarness.Master.CommandReply
import WirelessHarness.Master.Links

/-!
# How the slave manager acknowledges a command

`DataForwardBase::forward` puts a command into `data_forward_queue` and waits
for `FORWARD_SUCCESS_EVENT`, which the slave manager sets after every command
it has taken.  The bit carries no number, a wait that times out returns the
other bits, and the forwarders keep their success when a forward fails.
-/

namespace WirelessHarness

open CheckedRead Runs

/-! ## The command switch of the slave manager -/

namespace SlaveManager

/-- The `switch` on the type of `forward_data`. -/
def execute (s : SlaveManager) (forward_data : DataForward) : SlaveManager :=
  match forward_data.type with
  | .DEV_CONF =>
      if s.running = false then s.config_process forward_data.cfg_cmd else s
  | .DEV_MODE =>
      if s.running = false then s.modeProcess forward_data.mode_cmd else s
  | .DEV_RESET => s
  | .DEV_CTRL => s.ctrl_process forward_data.ctrl_cmd

/-- `pc_manager_msg.event.set(FORWARD_SUCCESS_EVENT)`. -/
def complete (s : SlaveManager) : SlaveManager :=
  { s with event := s.event.set .FORWARD_SUCCESS_EVENT }

theorem handle_eq (s : SlaveManager) (forward_data : DataForward) :
    s.handle forward_data = (s.execute forward_data).complete := rfl

theorem event_configDispatch (s : SlaveManager) (cfg_cmd : CfgCmd) :
    (s.configDispatch cfg_cmd).2.event = s.event := by
  unfold configDispatch
  split <;> rfl

/-- Executing a command does not acknowledge it. -/
theorem forward_event_execute (s : SlaveManager) (forward_data : DataForward) :
    (s.execute forward_data).event .FORWARD_SUCCESS_EVENT =
      s.event .FORWARD_SUCCESS_EVENT := by
  cases htype : forward_data.type with
  | DEV_CONF =>
      simp only [execute, htype]
      split
      · simp only [config_process]
        split <;> simp [event_configDispatch]
      · rfl
  | DEV_MODE =>
      simp only [execute, htype]
      split
      · simp [modeProcess]
      · rfl
  | DEV_RESET => simp only [execute, htype]
  | DEV_CTRL => simp [execute, htype, (s.ctrl_process_spec _).1]

end SlaveManager

/-- The wait's result, which `forward` only compares with 0. -/
def EventGroup.nonzero (event : EventGroup) : Bool :=
  [EventBit.FORWARD_SUCCESS_EVENT, .CONFIG_SUCCESS_EVENT,
    .MODE_SUCCESS_EVENT, .RESET_SUCCESS_EVENT, .CTRL_SUCCESS_EVENT].any event

/-! ## The two tasks -/

namespace Acknowledge

/-- A value in `data_forward_queue`, with the number of the call that added
it. -/
structure Added where
  number : ℕ
  data_forward : DataForward
deriving DecidableEq, Repr

/-- Where `PCinterface::task` is: `todo` are the commands that the current
message still has to forward. -/
inductive InterfacePhase
  | idle
  | forwarding (todo : List DataForward)
  | waiting (added : Added) (todo : List DataForward)
  | testing (todo : List DataForward)
deriving DecidableEq, Repr

/-- Where `SlaveManager::task` is. -/
inductive ManagerPhase
  | idle
  | taken (added : Added)
  | executed
deriving DecidableEq, Repr

/-- A reply and what each `forward()` of its message returned. -/
structure Reply where
  rsp_packet : Bytes
  results : List Bool
deriving DecidableEq, Repr

/-- `answers` are the results of the current message's forwards, each with the
success bit tested after it.  `returned` are the values whose forward returned
`true`, each with what the manager had handled by then. -/
structure State where
  self : ProtocolMessageForward := {}
  manager : SlaveManager
  data_forward_queue : List Added := []
  phase : InterfacePhase := .idle
  managerPhase : ManagerPhase := .idle
  number : ℕ := 0
  answers : List (Bool × Bool) := []
  handled : List Added := []
  returned : List (Added × List Added) := []
  replies : List Reply := []

/-- `PCmanagerMsg_FORWARD_QUEUE_SIZE`. -/
def FORWARD_QUEUE_SIZE : ℕ := 10

/-- The port that gives recorded answers. -/
def replayPort : CommandPort (List (Bool × Bool) × Bool) where
  forward _ s :=
    match s.1 with
    | [] => (false, s)
    | (ok, bit) :: answers => (ok, answers, bit)
  event s _ := s.2

/-- The first five events are the command interface's in the order of the
code, each time-out beside what it replaces; the last three are the slave
manager's. -/
inductive Event
  | receive (raw_data : Bytes)
  | add
  | addTimeout
  | wait
  | waitTimeout
  | test
  | reply
  | pop
  | execute
  | complete
deriving DecidableEq, Repr

/-- An add times out while the queue is full.  A wait that times out returns
the bits there are, and `FORWARD_SUCCESS_EVENT` is not among them. -/
def step (s : State) : Event → Option State
  | .receive raw_data =>
      match s.phase with
      | .idle =>
          match FrameParser.parse .master 0 raw_data s.self.statics with
          | .error _ => none
          | .ok (none, statics) => some { s with
              self := { s.self with statics, rsp_packet := [] } }
          | .ok (some msg, statics) =>
              let self := { s.self with statics }.processMessage msg
              some { s with
                self
                phase := .forwarding self.dataForwards
                answers := [] }
      | _ => none
  | .add =>
      match s.phase with
      | .forwarding (data_forward :: todo) =>
          if s.data_forward_queue.length < FORWARD_QUEUE_SIZE then
            let added := Added.mk s.number data_forward
            some { s with
              data_forward_queue := s.data_forward_queue ++ [added]
              number := s.number + 1
              phase := .waiting added todo }
          else none
      | _ => none
  | .addTimeout =>
      match s.phase with
      | .forwarding (_ :: todo) =>
          if s.data_forward_queue.length < FORWARD_QUEUE_SIZE then none
          else some { s with
            answers := s.answers ++ [(false, false)]
            phase := .forwarding todo }
      | _ => none
  | .wait =>
      match s.phase with
      | .waiting added todo =>
          if s.manager.event .FORWARD_SUCCESS_EVENT then
            some { s with
              manager := { s.manager with
                event := s.manager.event.clear .FORWARD_SUCCESS_EVENT }
              returned := s.returned ++ [(added, s.handled)]
              phase := .testing todo }
          else none
      | _ => none
  | .waitTimeout =>
      match s.phase with
      | .waiting added todo =>
          if s.manager.event .FORWARD_SUCCESS_EVENT then none
          else if s.manager.event.nonzero then
            some { s with
              returned := s.returned ++ [(added, s.handled)]
              phase := .testing todo }
          else
            some { s with
              answers := s.answers ++ [(false, false)]
              phase := .forwarding todo }
      | _ => none
  | .test =>
      match s.phase with
      | .testing todo =>
          let bit := ProtocolMessageForward.successBit s.self.rx_msg_id
          some { s with
            answers := s.answers ++ [(true, s.manager.event bit)]
            phase := .forwarding todo }
      | _ => none
  | .reply =>
      match s.phase with
      | .forwarding [] =>
          let (self, _) := s.self.dispatch replayPort (s.answers, false)
          some { s with
            self
            replies := s.replies ++
              [Reply.mk self.rsp_packet (s.answers.map Prod.fst)]
            phase := .idle }
      | _ => none
  | .pop =>
      match s.managerPhase, s.data_forward_queue with
      | .idle, added :: data_forward_queue =>
          some { s with data_forward_queue, managerPhase := .taken added }
      | _, _ => none
  | .execute =>
      match s.managerPhase with
      | .taken added => some { s with
          manager := s.manager.execute added.data_forward
          handled := s.handled ++ [added]
          managerPhase := .executed }
      | _ => none
  | .complete =>
      match s.managerPhase with
      | .executed => some { s with
          manager := s.manager.complete
          managerPhase := .idle }
      | _ => none

/-- After power-on.  Two members of the manager are not initialized. -/
def Boot (s : State) : Prop :=
  s = { manager :=
    { radio := s.manager.radio
      slave_dev_index := s.manager.slave_dev_index
      totalConductionNum := s.manager.totalConductionNum } }

/-- `forward` returned `true` only for values that had been handled, and a
reply has status 0 only if every forward of its message returned `true`. -/
structure Acknowledged (s : State) : Prop where
  returned : ∀ added handled, (added, handled) ∈ s.returned → added ∈ handled
  replies : ∀ reply ∈ s.replies,
    CommandReply.replyStatus reply.rsp_packet = some 0 →
      ∀ result ∈ reply.results, result = true

/-! ## Runs without time-outs -/

/-- Nothing of an earlier command is left. -/
def Quiet (s : State) : Prop :=
  s.data_forward_queue = [] ∧ s.managerPhase = .idle ∧
    s.manager.event .FORWARD_SUCCESS_EVENT = false

/-- How far the manager is with the command of the waiting call. -/
inductive Stage (s : State) (added : Added) : Prop
  | queued (queue : s.data_forward_queue = [added])
      (manager : s.managerPhase = .idle)
      (event : s.manager.event .FORWARD_SUCCESS_EVENT = false)
  | taken (queue : s.data_forward_queue = [])
      (manager : s.managerPhase = .taken added)
      (event : s.manager.event .FORWARD_SUCCESS_EVENT = false)
  | executed (queue : s.data_forward_queue = [])
      (manager : s.managerPhase = .executed) (handled : added ∈ s.handled)
      (event : s.manager.event .FORWARD_SUCCESS_EVENT = false)
  | completed (queue : s.data_forward_queue = [])
      (manager : s.managerPhase = .idle) (handled : added ∈ s.handled)
      (event : s.manager.event .FORWARD_SUCCESS_EVENT = true)

/-- The manager is at the command of the waiting call, or at none. -/
structure InStep (s : State) : Prop where
  quiet : (∀ added todo, s.phase ≠ .waiting added todo) → Quiet s
  stage : ∀ added todo, s.phase = .waiting added todo → Stage s added
  answers : ∀ answer ∈ s.answers, answer.1 = true
  acknowledged : Acknowledged s

theorem inStep_of_boot {s : State} (h : Boot s) : InStep s := by
  rw [Boot] at h
  rw [h]
  constructor
  case quiet => intro _; exact ⟨rfl, rfl, rfl⟩
  case stage => rintro _ _ ⟨⟩
  case answers => simp
  case acknowledged => exact ⟨by simp, by simp⟩

/-- A parsed message is a new list of commands; a refused vector changes no
phase. -/
theorem receive_cases {s s' : State} {raw_data : Bytes}
    (h : step s (.receive raw_data) = some s') :
    s.phase = .idle ∧
      ((∃ self, s' = { s with self }) ∨
        ∃ self todo, s' =
          { s with self, phase := .forwarding todo, answers := [] }) := by
  simp only [step] at h
  split at h
  case h_2 => cases h
  case h_1 hphase =>
    split at h
    case h_1 => cases h
    case h_2 =>
      cases h
      exact ⟨hphase, .inl ⟨_, rfl⟩⟩
    case h_3 =>
      cases h
      exact ⟨hphase, .inr ⟨_, _, rfl⟩⟩

/-- Outside a wait the interface keeps the path quiet. -/
theorem InStep.of_quiet {s : State} (hquiet : Quiet s)
    (hphase : ∀ added todo, s.phase ≠ .waiting added todo)
    (hanswers : ∀ answer ∈ s.answers, answer.1 = true)
    (hacknowledged : Acknowledged s) : InStep s where
  quiet _ := hquiet
  stage added todo h := absurd h (hphase added todo)
  answers := hanswers
  acknowledged := hacknowledged

theorem InStep.of_stage {s : State} {added : Added} {todo : List DataForward}
    (hphase : s.phase = .waiting added todo) (hstage : Stage s added)
    (hanswers : ∀ answer ∈ s.answers, answer.1 = true)
    (hacknowledged : Acknowledged s) : InStep s where
  quiet h := absurd hphase (h added todo)
  stage added' todo' h := by
    rw [hphase] at h
    cases h
    exact hstage
  answers := hanswers
  acknowledged := hacknowledged

theorem InStep.interface_step {s s' : State} {e : Event} (hs : InStep s)
    (he : e = .add ∨ e = .addTimeout ∨ e = .wait ∨ e = .test ∨ e = .reply ∨
      ∃ raw_data, e = .receive raw_data)
    (h : step s e = some s') : InStep s' := by
  obtain ⟨hquiet, hstage, hanswers, hreturned, hreplies⟩ := hs
  obtain rfl | rfl | rfl | rfl | rfl | ⟨raw_data, rfl⟩ := he
  · simp only [step] at h
    split at h
    case h_2 => cases h
    case h_1 data_forward todo hphase =>
      obtain ⟨hqueue, hmanager, hevent⟩ := hquiet (by simp [hphase])
      rw [if_pos (by simp [hqueue, FORWARD_QUEUE_SIZE])] at h
      cases h
      refine ⟨fun hne => absurd rfl (hne _ _), ?_, hanswers,
        ⟨hreturned, hreplies⟩⟩
      rintro _ _ ⟨⟩
      exact .queued (by simp [hqueue]) hmanager hevent
  · simp only [step] at h
    split at h
    case h_2 => cases h
    case h_1 data_forward todo hphase =>
      -- A quiet queue is empty, so the add finds room.
      obtain ⟨hqueue, -⟩ := hquiet (by simp [hphase])
      rw [if_pos (by simp [hqueue, FORWARD_QUEUE_SIZE])] at h
      cases h
  · simp only [step] at h
    split at h
    case h_2 => cases h
    case h_1 added todo hphase =>
      split at h
      case isFalse => cases h
      case isTrue hset =>
        cases h
        -- The bit is set, so the command has been completed.
        obtain ⟨-, -, hevent⟩ | ⟨-, -, hevent⟩ | ⟨-, -, -, hevent⟩ |
            ⟨hqueue, hmanager, hhandled, -⟩ := hstage added todo hphase
        · simp [hevent] at hset
        · simp [hevent] at hset
        · simp [hevent] at hset
        refine .of_quiet ⟨hqueue, hmanager, by simp⟩ (by simp) hanswers
          ⟨?_, hreplies⟩
        intro added' handled hmem
        rcases List.mem_append.mp hmem with hold | hnew
        · exact hreturned added' handled hold
        · cases List.mem_singleton.mp hnew
          exact hhandled
  · simp only [step] at h
    split at h
    case h_2 => cases h
    case h_1 todo hphase =>
      cases h
      refine .of_quiet (hquiet (by simp [hphase])) (by simp) ?_
        ⟨hreturned, hreplies⟩
      intro answer hmem
      rcases List.mem_append.mp hmem with hold | hnew
      · exact hanswers answer hold
      · rw [List.mem_singleton.mp hnew]
  · simp only [step] at h
    split at h
    case h_2 => cases h
    case h_1 hphase =>
      cases h
      refine .of_quiet (hquiet (by simp [hphase])) (by simp) hanswers
        ⟨hreturned, ?_⟩
      intro reply hmem _ result hresult
      rcases List.mem_append.mp hmem with hold | hnew
      · exact hreplies reply hold ‹_› result hresult
      · cases List.mem_singleton.mp hnew
        obtain ⟨answer, hanswer, rfl⟩ := List.mem_map.mp hresult
        exact hanswers answer hanswer
  · obtain ⟨hphase, ⟨self, rfl⟩ | ⟨self, todo, rfl⟩⟩ := receive_cases h
    · exact .of_quiet (hquiet (by simp [hphase])) (by simp [hphase]) hanswers
        ⟨hreturned, hreplies⟩
    · exact .of_quiet (hquiet (by simp [hphase])) (by simp) (by simp)
        ⟨hreturned, hreplies⟩

theorem Stage.congr {s t : State} {added : Added} (hs : Stage s added)
    (hqueue : t.data_forward_queue = s.data_forward_queue)
    (hmanagerPhase : t.managerPhase = s.managerPhase)
    (hmanager : t.manager = s.manager) (hhandled : t.handled = s.handled) :
    Stage t added := by
  cases hs with
  | queued queue manager event =>
      apply Stage.queued <;> simp [*]
  | taken queue manager event =>
      apply Stage.taken <;> simp [*]
  | executed queue manager handled event =>
      apply Stage.executed <;> simp [*]
  | completed queue manager handled event =>
      apply Stage.completed <;> simp [*]

/-- The manager takes the command from stage to stage. -/
theorem Stage.manager_step {s s' : State} {e : Event} {added : Added}
    (hs : Stage s added) (he : e = .pop ∨ e = .execute ∨ e = .complete)
    (h : step s e = some s') :
    Stage s' added ∧ s'.phase = s.phase ∧ s'.answers = s.answers ∧
      s'.returned = s.returned ∧ s'.replies = s.replies := by
  obtain rfl | rfl | rfl := he
  · cases hs with
    | queued hqueue hmanager hevent =>
        simp only [step, hqueue, hmanager] at h
        cases h
        exact ⟨.taken rfl rfl hevent, rfl, rfl, rfl, rfl⟩
    | taken hqueue hmanager => simp [step, hqueue] at h
    | executed hqueue hmanager => simp [step, hqueue] at h
    | completed hqueue hmanager => simp [step, hqueue] at h
  · cases hs with
    | taken hqueue hmanager hevent =>
        simp only [step, hmanager] at h
        cases h
        refine ⟨.executed hqueue rfl (by simp) ?_, rfl, rfl, rfl, rfl⟩
        exact (s.manager.forward_event_execute _).trans hevent
    | queued hqueue hmanager => simp [step, hmanager] at h
    | executed hqueue hmanager => simp [step, hmanager] at h
    | completed hqueue hmanager => simp [step, hmanager] at h
  · cases hs with
    | executed hqueue hmanager hhandled =>
        simp only [step, hmanager] at h
        cases h
        refine ⟨.completed hqueue rfl hhandled ?_, rfl, rfl, rfl, rfl⟩
        simp [SlaveManager.complete]
    | queued hqueue hmanager => simp [step, hmanager] at h
    | taken hqueue hmanager => simp [step, hmanager] at h
    | completed hqueue hmanager => simp [step, hmanager] at h

theorem InStep.manager_step {s s' : State} {e : Event} (hs : InStep s)
    (he : e = .pop ∨ e = .execute ∨ e = .complete)
    (h : step s e = some s') : InStep s' := by
  obtain ⟨hquiet, hstage, hanswers, hreturned, hreplies⟩ := hs
  by_cases hwaiting : ∃ added todo, s.phase = .waiting added todo
  · obtain ⟨added, todo, hphase⟩ := hwaiting
    obtain ⟨hstage', hphase', hans, hret, hrep⟩ :=
      (hstage added todo hphase).manager_step he h
    refine .of_stage (hphase'.trans hphase) hstage' ?_ ⟨?_, ?_⟩
    · rwa [hans]
    · rwa [hret]
    · rwa [hrep]
  · -- There is nothing to take and nothing in hand.
    obtain ⟨hqueue, hmanager, -⟩ :=
      hquiet fun added todo hphase => hwaiting ⟨added, todo, hphase⟩
    obtain rfl | rfl | rfl := he <;>
      simp [step, hqueue, hmanager] at h

theorem InStep.step {s s' : State} {e : Event} (hs : InStep s)
    (he : e ≠ .waitTimeout) (h : step s e = some s') : InStep s' := by
  cases e
  case waitTimeout => exact absurd rfl he
  case pop | execute | complete => exact hs.manager_step (by simp) h
  all_goals exact hs.interface_step (by simp) h

/-- Without a wait that times out every run stays in step. -/
theorem inStep_run {s s' : State} {es : List Event} (hs : InStep s)
    (hes : ∀ e ∈ es, e ≠ .waitTimeout) (hrun : run step s es = some s') :
    InStep s' :=
  run_invariant_of_meets (fun _ _ _ => InStep.step) hs
    (meets_of_forall hes s) hrun

/-! ## What has been added -/

def ManagerPhase.inHand : ManagerPhase → List Added
  | .taken added => [added]
  | .idle | .executed => []

/-- The values added so far: handled, in the manager's hand or queued. -/
def allAdded (s : State) : List Added :=
  s.handled ++ s.managerPhase.inHand ++ s.data_forward_queue

/-- The values are numbered in order, and none is lost or handled twice. -/
def Numbered (s : State) : Prop :=
  (allAdded s).map Added.number = List.range s.number

theorem numbered_of_boot {s : State} (h : Boot s) : Numbered s := by
  rw [Boot] at h
  rw [h]
  rfl

/-- Only an add changes what has been added. -/
theorem allAdded_step {s s' : State} {e : Event} (h : step s e = some s') :
    (allAdded s' = allAdded s ∧ s'.number = s.number) ∨
      ∃ data_forward, allAdded s' =
          allAdded s ++ [Added.mk s.number data_forward] ∧
        s'.number = s.number + 1 := by
  cases e
  case receive raw_data =>
    obtain ⟨-, ⟨self, rfl⟩ | ⟨self, todo, rfl⟩⟩ := receive_cases h <;>
      exact .inl ⟨rfl, rfl⟩
  case add =>
    simp only [step] at h
    split at h
    case h_2 => cases h
    case h_1 data_forward todo hphase =>
      split at h <;> cases h
      exact .inr ⟨data_forward, by simp [allAdded], rfl⟩
  case addTimeout =>
    simp only [step] at h
    split at h
    · split at h <;> cases h
      exact .inl ⟨rfl, rfl⟩
    · cases h
  case wait =>
    simp only [step] at h
    split at h
    · split at h <;> cases h
      exact .inl ⟨rfl, rfl⟩
    · cases h
  case waitTimeout =>
    simp only [step] at h
    split at h
    · split at h
      · cases h
      · split at h <;> cases h <;> exact .inl ⟨rfl, rfl⟩
    · cases h
  case test | reply =>
    simp only [step] at h
    split at h <;> cases h
    exact .inl ⟨rfl, rfl⟩
  case pop =>
    simp only [step] at h
    split at h <;> cases h
    case h_1 added queue hqueue hmanager =>
      refine .inl ⟨?_, rfl⟩
      simp [allAdded, ManagerPhase.inHand, hmanager, hqueue]
  case execute =>
    simp only [step] at h
    split at h <;> cases h
    case h_1 added hmanager =>
      refine .inl ⟨?_, rfl⟩
      simp [allAdded, ManagerPhase.inHand, hmanager]
  case complete =>
    simp only [step] at h
    split at h <;> cases h
    case h_1 hmanager =>
      refine .inl ⟨?_, rfl⟩
      simp [allAdded, ManagerPhase.inHand, hmanager]

theorem numbered_step (s : State) (e : Event) (s' : State) (hs : Numbered s)
    (h : step s e = some s') : Numbered s' := by
  obtain ⟨hall, hnumber⟩ | ⟨data_forward, hall, hnumber⟩ := allAdded_step h
  · rw [Numbered, hall, hnumber, hs]
  · rw [Numbered, hall, hnumber, List.map_append, hs, List.range_succ]
    rfl

theorem Numbered.of_handled {s : State} (hs : Numbered s) {added : Added}
    (h : added ∈ s.handled) : added.number < s.number := by
  have hmem : added.number ∈ List.range s.number := by
    rw [← hs]
    exact List.mem_map_of_mem (by simp [allAdded, h])
  exact List.mem_range.mp hmem

/-! ## After a time-out

The manager still completes the command that was waited for, and the next
forward takes that completion for its own. -/

theorem Stage.exists_completed {s : State} {added : Added}
    (hs : Stage s added) :
    ∃ es t, (∀ e ∈ es, e ≠ .waitTimeout) ∧ run step s es = some t ∧
      t.phase = s.phase ∧ t.data_forward_queue = [] ∧
        t.manager.event .FORWARD_SUCCESS_EVENT = true := by
  cases hs with
  | completed hqueue hmanager hhandled hevent =>
      exact ⟨[], s, by simp, rfl, rfl, hqueue, hevent⟩
  | executed hqueue hmanager =>
      have hcomplete : step s .complete = some { s with
          manager := s.manager.complete
          managerPhase := .idle } := by
        simp [step, hmanager]
      refine ⟨[.complete], _, by simp,
        run_cons_eq_some.mpr ⟨_, hcomplete, rfl⟩, rfl, hqueue, ?_⟩
      simp [SlaveManager.complete]
  | taken hqueue hmanager =>
      have hexecute : step s .execute = some { s with
          manager := s.manager.execute added.data_forward
          handled := s.handled ++ [added]
          managerPhase := .executed } := by
        simp [step, hmanager]
      refine ⟨[.execute, .complete], _, by simp,
        run_cons_eq_some.mpr ⟨_, hexecute, rfl⟩, rfl, hqueue, ?_⟩
      simp [SlaveManager.complete]
  | queued hqueue hmanager =>
      have hpop : step s .pop = some { s with
          data_forward_queue := []
          managerPhase := .taken added } := by
        simp [step, hmanager, hqueue]
      refine ⟨[.pop, .execute, .complete], _, by simp,
        run_cons_eq_some.mpr ⟨_, hpop, rfl⟩, rfl, rfl, ?_⟩
      simp [SlaveManager.complete]

/-- Control commands can always follow. -/
theorem exists_receive {s : State} (hphase : s.phase = .idle) :
    ∃ self data_forward todo, step s (.receive Links.ctrlCommand) =
      some { s with
        self
        phase := .forwarding (data_forward :: todo)
        answers := [] } := by
  obtain ⟨msg, st', hparse, hcls⟩ :=
    FrameParser.parse_command Links.commandId?_ctrlCommand s.self.statics
  have hmsg : ({ s.self with statics := st' }.processMessage msg).rx_msg_id =
      .ctrlMsg := by
    simp [ProtocolMessageForward.processMessage, hcls]
  exact ⟨{ s.self with statics := st' }.processMessage msg, _, [], by
    simp only [step, hphase, hparse, ProtocolMessageForward.dataForwards,
      hmsg]
    rfl⟩

theorem exists_forwarding_of_forwarding {s : State}
    {todo : List DataForward} (hphase : s.phase = .forwarding todo) :
    ∃ es t data_forward todo', (∀ e ∈ es, e ≠ .waitTimeout) ∧
      run step s es = some t ∧
      t.phase = .forwarding (data_forward :: todo') ∧
      t.data_forward_queue = s.data_forward_queue ∧ t.manager = s.manager := by
  cases todo with
  | cons data_forward todo =>
      exact ⟨[], s, data_forward, todo, by simp, rfl, hphase, rfl, rfl⟩
  | nil =>
      obtain ⟨t, hreply, hidle, hqueue, hmanager⟩ : ∃ t,
          step s .reply = some t ∧ t.phase = .idle ∧
            t.data_forward_queue = s.data_forward_queue ∧
            t.manager = s.manager := by
        simp [step, hphase]
      obtain ⟨self, data_forward, todo, hreceive⟩ := exists_receive hidle
      exact ⟨[.reply, .receive Links.ctrlCommand], _, data_forward, todo,
        by simp, run_cons_eq_some.mpr ⟨t, hreply,
          run_cons_eq_some.mpr ⟨_, hreceive, rfl⟩⟩, rfl, hqueue, hmanager⟩

/-- The interface comes to a next command. -/
theorem exists_forwarding {s : State}
    (hphase : (∃ todo, s.phase = .testing todo) ∨
      ∃ todo, s.phase = .forwarding todo) :
    ∃ es t data_forward todo, (∀ e ∈ es, e ≠ .waitTimeout) ∧
      run step s es = some t ∧
      t.phase = .forwarding (data_forward :: todo) ∧
      t.data_forward_queue = s.data_forward_queue ∧ t.manager = s.manager := by
  obtain ⟨todo, hphase⟩ | ⟨todo, hphase⟩ := hphase
  · obtain ⟨t, htest, hphase', hqueue, hmanager⟩ : ∃ t,
        step s .test = some t ∧ t.phase = .forwarding todo ∧
          t.data_forward_queue = s.data_forward_queue ∧
          t.manager = s.manager := by
      simp [step, hphase]
    obtain ⟨es, u, data_forward, todo', hes, hrun, hu, hqueue', hmanager'⟩ :=
      exists_forwarding_of_forwarding hphase'
    refine ⟨.test :: es, u, data_forward, todo', ?_,
      run_cons_eq_some.mpr ⟨t, htest, hrun⟩, hu, hqueue'.trans hqueue,
      hmanager'.trans hmanager⟩
    simpa using hes
  · exact exists_forwarding_of_forwarding hphase

/-- A completion left behind makes the next forward return too early. -/
theorem exists_premature {s : State} {data_forward : DataForward}
    {todo : List DataForward} (hs : Numbered s)
    (hphase : s.phase = .forwarding (data_forward :: todo))
    (hqueue : s.data_forward_queue = [])
    (hevent : s.manager.event .FORWARD_SUCCESS_EVENT = true) :
    ∃ t, run step s [.add, .wait] = some t ∧ ¬ Acknowledged t := by
  let added := Added.mk s.number data_forward
  have hadd : step s .add = some { s with
      data_forward_queue := [added]
      number := s.number + 1
      phase := .waiting added todo } := by
    simp [step, hphase, hqueue, FORWARD_QUEUE_SIZE, added]
  obtain ⟨t, hwait, hreturned⟩ : ∃ t, step { s with
      data_forward_queue := [added]
      number := s.number + 1
      phase := .waiting added todo } .wait = some t ∧
        t.returned = s.returned ++ [(added, s.handled)] := by
    simp [step, hevent]
  refine ⟨t, run_cons_eq_some.mpr ⟨_, hadd, run_cons_eq_some.mpr ⟨t, hwait,
    rfl⟩⟩, ?_⟩
  intro hacknowledged
  have hhandled : added ∈ s.handled :=
    hacknowledged.returned added s.handled (by simp [hreturned])
  exact Nat.lt_irrefl _ (hs.of_handled hhandled)

/-- A wait that times out leaves the manager's side alone. -/
theorem waitTimeout_cases {s t : State} (h : step s .waitTimeout = some t) :
    ∃ added todo, s.phase = .waiting added todo ∧
      (t.phase = .testing todo ∨ t.phase = .forwarding todo) ∧
      (Stage s added → Stage t added) ∧ allAdded t = allAdded s ∧
      t.number = s.number := by
  simp only [step] at h
  split at h
  case h_2 => cases h
  case h_1 added todo hphase =>
    split at h
    case isTrue => cases h
    case isFalse =>
      refine ⟨added, todo, hphase, ?_⟩
      split at h <;> cases h
      · exact ⟨.inl rfl, fun hs => hs.congr rfl rfl rfl rfl, rfl, rfl⟩
      · exact ⟨.inr rfl, fun hs => hs.congr rfl rfl rfl rfl, rfl, rfl⟩

/-- The first wait that times out can be followed by a wrong acknowledgement
without any other time-out. -/
theorem exists_wrong_of_timeout {s t : State} (hs : InStep s)
    (hnumbered : Numbered s) (h : step s .waitTimeout = some t) :
    ∃ es u, (∀ e ∈ es, e ≠ .waitTimeout) ∧ run step t es = some u ∧
      ¬ Acknowledged u := by
  obtain ⟨added, todo, hphase, hphase', hstage, -⟩ := waitTimeout_cases h
  obtain ⟨es₁, t₁, hes₁, hrun₁, hphase₁, hqueue₁, hevent₁⟩ :=
    (hstage (hs.stage added todo hphase)).exists_completed
  obtain ⟨es₂, t₂, data_forward, todo₂, hes₂, hrun₂, hphase₂, hqueue₂,
      hmanager₂⟩ : ∃ es t₂ data_forward todo₂, (∀ e ∈ es, e ≠ .waitTimeout) ∧
        run step t₁ es = some t₂ ∧
        t₂.phase = .forwarding (data_forward :: todo₂) ∧
        t₂.data_forward_queue = t₁.data_forward_queue ∧
        t₂.manager = t₁.manager := by
    apply exists_forwarding
    rw [hphase₁]
    exact hphase'.imp (fun h => ⟨todo, h⟩) (fun h => ⟨todo, h⟩)
  have hrun : run step t (es₁ ++ es₂) = some t₂ :=
    run_append_eq_some.mpr ⟨t₁, hrun₁, hrun₂⟩
  have hnumbered₂ : Numbered t₂ :=
    run_invariant numbered_step (numbered_step _ _ _ hnumbered h) hrun
  obtain ⟨u, hrun₃, hwrong⟩ := exists_premature hnumbered₂ hphase₂
    (hqueue₂.trans hqueue₁) (by rw [hmanager₂, hevent₁])
  refine ⟨es₁ ++ es₂ ++ [.add, .wait], u, ?_,
    run_append_eq_some.mpr ⟨t₂, hrun, hrun₃⟩, hwrong⟩
  simp only [List.mem_append, List.mem_cons, List.not_mem_nil, or_false]
  rintro e ((he | he) | rfl | rfl)
  · exact hes₁ e he
  · exact hes₂ e he
  · simp
  · simp

/-- A run in which no wait times out is acknowledged correctly, and the first
wait that does time out can lead to a wrong acknowledgement. -/
theorem acknowledged_until_timeout {s₀ s : State} {es : List Event}
    (hboot : Boot s₀) (hes : ∀ e ∈ es, e ≠ .waitTimeout)
    (hrun : run step s₀ es = some s) :
    Acknowledged s ∧ ∀ t, step s .waitTimeout = some t →
      ∃ fs u, (∀ e ∈ fs, e ≠ .waitTimeout) ∧ run step t fs = some u ∧
        ¬ Acknowledged u := by
  have hs : InStep s := inStep_run (inStep_of_boot hboot) hes hrun
  have hnumbered : Numbered s :=
    run_invariant numbered_step (numbered_of_boot hboot) hrun
  constructor
  · exact hs.acknowledged
  · intro t htimeout
    exact exists_wrong_of_timeout hs hnumbered htimeout

def bootState : State where
  manager := { radio := fun _ => true }

theorem acknowledged_ctrlCommand :
    ∃ s, run step bootState [.receive Links.ctrlCommand, .add, .pop, .execute,
        .complete, .wait, .test, .reply] = some s ∧
      s.replies.map Reply.results = [[true]] ∧ Acknowledged s :=
  ⟨_, rfl, rfl, (@acknowledged_until_timeout bootState _
    [.receive Links.ctrlCommand, .add, .pop, .execute, .complete, .wait,
      .test, .reply] rfl (by decide) rfl).1⟩

/-- The manager is busy while a control command waits: `forward` returns
`false` and the reply has status 0.  After an earlier mode command, whose bit
stays set, `forward` returns `true` instead. -/
theorem not_acknowledged_busy :
    Boot bootState ∧
    (∃ s, run step bootState [.receive Links.ctrlCommand, .add, .waitTimeout,
      .reply] = some s ∧ ¬ Acknowledged s) ∧
    ∃ s, run step bootState [.receive Links.modeCommand, .add, .pop, .execute,
      .complete, .wait, .test, .reply, .receive Links.ctrlCommand, .add,
      .waitTimeout] = some s ∧ ¬ Acknowledged s := by
  refine ⟨rfl, ?_, ?_⟩
  · refine ⟨_, rfl, ?_⟩
    intro hacknowledged
    have hresult := hacknowledged.replies _ (List.mem_singleton.mpr rfl) rfl
      false (List.mem_singleton.mpr rfl)
    cases hresult
  · refine ⟨_, rfl, ?_⟩
    intro hacknowledged
    have hhandled := hacknowledged.returned _ _
      (List.mem_cons_of_mem _ (List.mem_singleton.mpr rfl))
    have hnumber := congrArg Added.number (List.mem_singleton.mp hhandled)
    cases hnumber

end Acknowledge

end WirelessHarness
