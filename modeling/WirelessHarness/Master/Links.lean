import WirelessHarness.Master.Dispatch
import WirelessHarness.Support.Runs

/-!
# The backend link and the slave link

One parser, one set of static message fields and one `rx_msg_id` serve both
links of the master.  The command interface parses and processes a vector and
then switches on `rx_msg_id`; the slave manager may process a reply at any
time, also between the two.
-/

namespace WirelessHarness

open CheckedRead Runs

/-! ## What a frame changes -/

/-- What the forwarders read: the `Backend2Master` fields and `rx_msg_id`. -/
structure CommandFields where
  slaveCfg : Backend2Master.SlaveCfgMsg
  modeCfg : Backend2Master.ModeCfgMsg
  rst : Backend2Master.RstMsg
  ctrl : Backend2Master.CtrlMsg
  rx_msg_id : Backend2MasterMessageID
deriving DecidableEq, Repr

def Statics.commandFields (st : Statics)
    (rx_msg_id : Backend2MasterMessageID) : CommandFields :=
  ⟨st.b2mSlaveCfg, st.b2mModeCfg, st.b2mRst, st.b2mCtrl, rx_msg_id⟩

def ProtocolMessageForward.commandFields (self : ProtocolMessageForward) :
    CommandFields :=
  self.statics.commandFields self.rx_msg_id

/-- Only commands set `rx_msg_id`. -/
theorem ProtocolMessageForward.processMessage_of_ne {msg : Message}
    (hcls : ∀ id, msg.cls ≠ .backend2Master id)
    (self : ProtocolMessageForward) : self.processMessage msg = self := by
  unfold processMessage
  split
  case h_1 id hid => exact absurd hid (hcls id)
  case h_2 => rfl

/-- A message has the class that was selected, and only the commands' classes
touch the commands' fields. -/
theorem deserializeInto_spec {cls : MessageClass} {payload : Bytes}
    {st st' : Statics} {msg : Message}
    (h : deserializeInto cls payload st = .ok (msg, st')) :
    msg.cls = cls ∧
      ((∀ id, cls ≠ .backend2Master id) →
        ∀ rx_msg_id, st'.commandFields rx_msg_id =
          st.commandFields rx_msg_id) := by
  obtain ⟨fields, rfl, rfl⟩ := deserializeInto_store h
  refine ⟨Message.cls_ofFields cls fields, ?_⟩
  intro hcls rx_msg_id
  rcases cls with id | id | id | id | id
  case backend2Master => exact absurd rfl (hcls id)
  all_goals cases id <;> rfl

namespace FrameParser

/-- The message id of a `Backend2Master` frame. -/
def commandId? (raw_data : Bytes) : Option Backend2MasterMessageID :=
  match select .master 0 raw_data with
  | some (.backend2Master id, _) => some id
  | _ => none

/-- The vector is a `Slave2Master` or a `Slave2Backend` frame. -/
def FromSlave (raw_data : Bytes) : Prop :=
  match select .master 0 raw_data with
  | some (.slave2Master _, _) | some (.slave2Backend _, _) => True
  | _ => False

instance (raw_data : Bytes) : Decidable (FromSlave raw_data) := by
  unfold FromSlave
  split <;> infer_instance

theorem select_of_commandId? {raw_data : Bytes}
    {id : Backend2MasterMessageID} (hcommand : commandId? raw_data = some id) :
    ∃ payload, select .master 0 raw_data =
      some (.backend2Master id, payload) := by
  unfold commandId? at hcommand
  split at hcommand
  case h_1 id' payload hsel =>
    cases hcommand
    exact ⟨payload, hsel⟩
  case h_2 => cases hcommand

theorem select_of_fromSlave {raw_data : Bytes} (hslave : FromSlave raw_data) :
    ∃ cls payload, select .master 0 raw_data = some (cls, payload) ∧
      ∀ id, cls ≠ .backend2Master id := by
  unfold FromSlave at hslave
  split at hslave
  case h_1 id payload hsel => exact ⟨_, payload, hsel, by simp⟩
  case h_2 id payload hsel => exact ⟨_, payload, hsel, by simp⟩
  case h_3 => exact hslave.elim

theorem commandId?_of_fromSlave {raw_data : Bytes}
    (hslave : FromSlave raw_data) : commandId? raw_data = none := by
  by_contra hne
  obtain ⟨id, hid⟩ := Option.ne_none_iff_exists'.mp hne
  obtain ⟨payload, hcommand⟩ := select_of_commandId? hid
  obtain ⟨cls, payload', hsel, hcls⟩ := select_of_fromSlave hslave
  rw [hcommand] at hsel
  cases hsel
  exact hcls id rfl

/-- The master's parser reads no index out of range, and a selected class is
constructed. -/
theorem parse_master_of_select {raw_data payload : Bytes} {cls : MessageClass}
    (hsel : select .master 0 raw_data = some (cls, payload)) (st : Statics) :
    ∃ msg st', parse .master 0 raw_data st = .ok (some msg, st') ∧
      msg.cls = cls ∧
      ((∀ id, cls ≠ .backend2Master id) →
        ∀ rx_msg_id, st'.commandFields rx_msg_id =
          st.commandFields rx_msg_id) := by
  obtain ⟨fields, hok⟩ := deserializeInto_of_select hsel st
  obtain ⟨hcls, hfields⟩ := deserializeInto_spec hok
  refine ⟨_, _, ?_, hcls, hfields⟩
  rw [parse_of_select hsel, hok]
  rfl

theorem parse_command {raw_data : Bytes} {id : Backend2MasterMessageID}
    (hcommand : commandId? raw_data = some id) (st : Statics) :
    ∃ msg st', parse .master 0 raw_data st = .ok (some msg, st') ∧
      msg.cls = .backend2Master id := by
  obtain ⟨payload, hsel⟩ := select_of_commandId? hcommand
  obtain ⟨msg, st', hparse, hcls, -⟩ := parse_master_of_select hsel st
  exact ⟨msg, st', hparse, hcls⟩

/-- A slave's frame is parsed, and the commands' fields stay. -/
theorem parse_fromSlave {raw_data : Bytes} (hslave : FromSlave raw_data)
    (st : Statics) :
    ∃ msg st', parse .master 0 raw_data st = .ok (some msg, st') ∧
      (∀ id, msg.cls ≠ .backend2Master id) ∧
      ∀ rx_msg_id, st'.commandFields rx_msg_id =
        st.commandFields rx_msg_id := by
  obtain ⟨cls, payload, hsel, hne⟩ := select_of_fromSlave hslave
  obtain ⟨msg, st', hparse, hcls, hfields⟩ := parse_master_of_select hsel st
  exact ⟨msg, st', hparse, hcls ▸ hne, hfields hne⟩

theorem parse_refused {raw_data : Bytes} (hcommand : commandId? raw_data = none)
    (hslave : ¬ FromSlave raw_data) (st : Statics) :
    parse .master 0 raw_data st = .ok (none, st) := by
  refine parse_of_select_none ?_ st
  by_contra hne
  obtain ⟨⟨cls, payload⟩, hsel⟩ := Option.ne_none_iff_exists'.mp hne
  obtain ⟨id, rfl⟩ | ⟨id, rfl⟩ | ⟨id, rfl⟩ := class_of_select hsel
  · exact hslave (by simp [FromSlave, hsel])
  · simp [commandId?, hsel] at hcommand
  · exact hslave (by simp [FromSlave, hsel])

end FrameParser

/-- A command is parsed, and processing it sets `rx_msg_id`. -/
theorem ProtocolMessageForward.process_command (self : ProtocolMessageForward)
    {raw_data : Bytes} {id : Backend2MasterMessageID}
    (hcommand : FrameParser.commandId? raw_data = some id) :
    ∃ msg st', FrameParser.parse .master 0 raw_data self.statics =
        .ok (some msg, st') ∧
      ({ self with statics := st' }.processMessage msg).rx_msg_id = id := by
  obtain ⟨msg, st', hparse, hcls⟩ :=
    FrameParser.parse_command hcommand self.statics
  refine ⟨msg, st', hparse, ?_⟩
  simp [processMessage, hcls]

/-- Processing a slave's frame leaves what the commands read. -/
theorem ProtocolMessageForward.process_fromSlave
    (self : ProtocolMessageForward) {raw_data : Bytes}
    (hslave : FrameParser.FromSlave raw_data) :
    ∃ msg st', FrameParser.parse .master 0 raw_data self.statics =
        .ok (some msg, st') ∧
      ({ self with statics := st' }.processMessage msg).commandFields =
        self.commandFields := by
  obtain ⟨msg, st', hparse, hcls, hfields⟩ :=
    FrameParser.parse_fromSlave hslave self.statics
  refine ⟨msg, st', hparse, ?_⟩
  rw [processMessage_of_ne hcls]
  exact hfields self.rx_msg_id

/-! ## The two links -/

/-- Where `PCinterface::task` is in `ProtocolMessageForward::forward`. -/
inductive InterfacePhase
  | waiting
  | switching (raw_data : Bytes)
deriving DecidableEq, Repr

/-- `forwards` are the commands put into `data_forward_queue`, each with the
vector that was being forwarded; `slaveCalls` are the commands' fields before
and after each call of `__rsp_process`. -/
structure Links where
  self : ProtocolMessageForward := {}
  phase : InterfacePhase := .waiting
  forwards : List (Bytes × DataForward) := []
  slaveCalls : List (CommandFields × CommandFields) := []

namespace Links

open FrameParser

/-- `__rsp_process` on the fields both links share.  What the processors keep
of a reply is their own. -/
def rspProcess (self : ProtocolMessageForward) (raw_data : Bytes) :
    Except OutOfRange ProtocolMessageForward := do
  let (msg?, statics) ← parse .master 0 raw_data self.statics
  match msg? with
  | some msg => return { self with statics }.processMessage msg
  | none => return { self with statics }

/-- `port` and `sys` stand for the answers the forwarder gets: any sequence of
results and events. -/
inductive Event
  | receive (raw_data : Bytes)
  | switch (port : CommandPort ℕ) (sys : ℕ)
  | slaveRx (raw_data : Bytes)

def step (s : Links) : Event → Option Links
  | .receive raw_data =>
      match s.phase with
      | .waiting =>
          match parse .master 0 raw_data s.self.statics with
          | .error _ => none
          | .ok (none, statics) => some { s with
              self := { s.self with statics, rsp_packet := [] } }
          | .ok (some msg, statics) => some { s with
              self := { s.self with statics }.processMessage msg
              phase := .switching raw_data }
      | .switching _ => none
  | .switch port sys =>
      match s.phase with
      | .waiting => none
      | .switching raw_data =>
          let (self, _, log) := s.self.dispatch port.logged (sys, [])
          some { s with
            self
            phase := .waiting
            forwards := s.forwards ++ log.map fun data_forward =>
              (raw_data, data_forward) }
  | .slaveRx raw_data =>
      match rspProcess s.self raw_data with
      | .error _ => none
      | .ok self => some { s with
          self
          slaveCalls := s.slaveCalls ++
            [(s.self.commandFields, self.commandFields)] }

/-- Without a reply in between, the two steps are one `forward`. -/
theorem forward_eq_of_receive {s t : Links} {raw_data : Bytes}
    (h : step s (.receive raw_data) = some t) (port : CommandPort ℕ)
    (sys : ℕ) :
    s.self.forward port.logged raw_data (sys, []) =
      .ok (match t.phase with
        | .waiting => (t.self, sys, [])
        | .switching _ => t.self.dispatch port.logged (sys, [])) := by
  simp only [step] at h
  split at h
  case h_2 => cases h
  case h_1 hphase =>
    unfold ProtocolMessageForward.forward
    split at h
    case h_1 => cases h
    case h_2 statics hparse =>
      cases h
      simp [hparse, hphase]
    case h_3 msg statics hparse =>
      cases h
      simp [hparse]

/-! ## What each step does -/

theorem receive_refused {s : Links} {raw_data : Bytes}
    (hphase : s.phase = .waiting) (hcommand : commandId? raw_data = none)
    (hslave : ¬ FromSlave raw_data) :
    step s (.receive raw_data) =
      some { s with self := { s.self with rsp_packet := [] } } := by
  have hparse := parse_refused hcommand hslave s.self.statics
  simp [step, hphase, hparse]

theorem receive_command {s : Links} {raw_data : Bytes}
    {id : Backend2MasterMessageID} (hphase : s.phase = .waiting)
    (hcommand : commandId? raw_data = some id) :
    ∃ self : ProtocolMessageForward, self.rx_msg_id = id ∧
      step s (.receive raw_data) =
        some { s with self, phase := .switching raw_data } := by
  obtain ⟨msg, st', hparse, hid⟩ := s.self.process_command hcommand
  exact ⟨_, hid, by simp [step, hphase, hparse]⟩

/-- A slave's frame leaves the id of the last command. -/
theorem receive_fromSlave {s : Links} {raw_data : Bytes}
    (hphase : s.phase = .waiting) (hslave : FromSlave raw_data) :
    ∃ self : ProtocolMessageForward,
      self.commandFields = s.self.commandFields ∧
      step s (.receive raw_data) =
        some { s with self, phase := .switching raw_data } := by
  obtain ⟨msg, st', hparse, hfields⟩ := s.self.process_fromSlave hslave
  exact ⟨_, hfields, by simp [step, hphase, hparse]⟩

/-- The switch puts the commands of `rx_msg_id` into the queue, whatever was
received. -/
theorem switch_eq {s : Links} {raw_data : Bytes}
    (hphase : s.phase = .switching raw_data) (port : CommandPort ℕ)
    (sys : ℕ) :
    ∃ self : ProtocolMessageForward,
      self.commandFields = s.self.commandFields ∧
      step s (.switch port sys) = some { s with
        self
        phase := .waiting
        forwards := s.forwards ++ s.self.dataForwards.map fun data_forward =>
          (raw_data, data_forward) } := by
  have hlog := s.self.log_dispatch port (sys, [])
  obtain ⟨hstatics, hid⟩ := s.self.statics_dispatch port.logged (sys, [])
  refine ⟨(s.self.dispatch port.logged (sys, [])).1, ?_, ?_⟩
  · simp only [ProtocolMessageForward.commandFields, hstatics, hid]
  · simp [step, hphase, hlog]

theorem slaveRx_command (s : Links) {raw_data : Bytes}
    {id : Backend2MasterMessageID} (hcommand : commandId? raw_data = some id) :
    ∃ self : ProtocolMessageForward, self.rx_msg_id = id ∧
      step s (.slaveRx raw_data) = some { s with
        self
        slaveCalls := s.slaveCalls ++
          [(s.self.commandFields, self.commandFields)] } := by
  obtain ⟨msg, st', hparse, hid⟩ := s.self.process_command hcommand
  exact ⟨_, hid, by simp [step, rspProcess, hparse]⟩

theorem slaveRx_other (s : Links) {raw_data : Bytes}
    (hcommand : commandId? raw_data = none) :
    ∃ self : ProtocolMessageForward,
      self.commandFields = s.self.commandFields ∧
      step s (.slaveRx raw_data) = some { s with
        self
        slaveCalls := s.slaveCalls ++
          [(s.self.commandFields, self.commandFields)] } := by
  by_cases hslave : FromSlave raw_data
  · obtain ⟨msg, st', hparse, hfields⟩ := s.self.process_fromSlave hslave
    exact ⟨_, hfields, by simp [step, rspProcess, hparse]⟩
  · have hparse := parse_refused hcommand hslave s.self.statics
    exact ⟨s.self, rfl, by simp [step, rspProcess, hparse]⟩

/-! ## Isolation -/

/-- Only `Backend2Master` vectors forward commands, of the kind they name, and
replies leave the commands' fields alone. -/
structure Isolated (s : Links) : Prop where
  forwards : ∀ raw_data data_forward, (raw_data, data_forward) ∈ s.forwards →
    ∃ id, commandId? raw_data = some id ∧
      data_forward.type = ProtocolMessageForward.kind id
  slaveCalls : ∀ before after, (before, after) ∈ s.slaveCalls →
    after = before

/-- The frames that arrive: the backend port carries commands and the vectors
`backend` allows, the slave link those that `slave` allows. -/
def Carries (backend slave : Bytes → Prop) : Event → Prop
  | .receive raw_data => (commandId? raw_data).isSome ∨ backend raw_data
  | .switch _ _ => True
  | .slaveRx raw_data => slave raw_data

/-- While a vector is being forwarded, `rx_msg_id` is its own message id. -/
def Matched (s : Links) : Prop :=
  ∀ raw_data, s.phase = .switching raw_data →
    commandId? raw_data = some s.self.rx_msg_id

/-- Each step keeps the links isolated when the backend port carries no frame
of a slave and the slave link no command. -/
theorem Isolated.step {s s' : Links} {e : Event} {backend slave : Bytes → Prop}
    (hbackend : ∀ raw_data, backend raw_data → ¬ FromSlave raw_data)
    (hslave : ∀ raw_data, slave raw_data → commandId? raw_data = none)
    (hs : s.Isolated ∧ s.Matched) (he : Carries backend slave e)
    (h : Links.step s e = some s') : s'.Isolated ∧ s'.Matched := by
  obtain ⟨⟨hforwards, hcalls⟩, hmatched⟩ := hs
  cases e with
  | receive raw_data =>
      cases hphase : s.phase with
      | switching raw' =>
          simp [Links.step, hphase] at h
      | waiting =>
          cases hcommand : commandId? raw_data with
          | some id =>
              obtain ⟨self, hid, hstep⟩ := receive_command hphase hcommand
              rw [hstep] at h
              cases h
              refine ⟨⟨hforwards, hcalls⟩, ?_⟩
              rintro _ ⟨⟩
              rw [hcommand, ← hid]
          | none =>
              have hallowed : backend raw_data := by
                simpa [Carries, hcommand] using he
              rw [receive_refused hphase hcommand (hbackend _ hallowed)] at h
              cases h
              refine ⟨⟨hforwards, hcalls⟩, ?_⟩
              intro raw' hraw
              rw [hphase] at hraw
              cases hraw
  | switch port sys =>
      cases hphase : s.phase with
      | waiting => simp [Links.step, hphase] at h
      | switching raw_data =>
          obtain ⟨self, -, hstep⟩ := switch_eq hphase port sys
          rw [hstep] at h
          cases h
          refine ⟨⟨?_, hcalls⟩, ?_⟩
          · intro raw' data_forward hmem
            rcases List.mem_append.mp hmem with hold | hnew
            · exact hforwards raw' data_forward hold
            · obtain ⟨data_forward', hdata, heq⟩ := List.mem_map.mp hnew
              cases heq
              exact ⟨s.self.rx_msg_id, hmatched raw_data hphase,
                ProtocolMessageForward.type_of_mem_dataForwards hdata⟩
          · rintro _ ⟨⟩
  | slaveRx raw_data =>
      obtain ⟨self, hfields, hstep⟩ := s.slaveRx_other (hslave _ he)
      rw [hstep] at h
      cases h
      refine ⟨⟨hforwards, ?_⟩, ?_⟩
      · intro before after hmem
        rcases List.mem_append.mp hmem with hold | hnew
        · exact hcalls before after hold
        · cases List.mem_singleton.mp hnew
          exact hfields
      · intro raw' hphase
        have hid : self.rx_msg_id = s.self.rx_msg_id :=
          congrArg CommandFields.rx_msg_id hfields
        rw [hid]
        exact hmatched raw' hphase

theorem isolated_init : Isolated {} ∧ Matched {} :=
  ⟨⟨by simp, by simp⟩, by rintro _ ⟨⟩⟩

/-! ## Frames that cross over -/

/-- Every command is forwarded and reported as handled. -/
def acceptingPort : CommandPort ℕ where
  forward _ sys := (true, sys)
  event _ _ := true

def modeCommand : Bytes :=
  [0xAB, 0xCD, 0x02, 0x00, 0x00, 0x02, 0x00, 0x01, 0x00]

def ctrlCommand : Bytes :=
  [0xAB, 0xCD, 0x02, 0x00, 0x00, 0x02, 0x00, 0x03, 0x01]

theorem commandId?_modeCommand : commandId? modeCommand = some .modeCfgMsg :=
  rfl

theorem commandId?_ctrlCommand : commandId? ctrlCommand = some .ctrlMsg :=
  rfl

/-- A slave's frame on the backend port executes the last command again. -/
theorem exists_replay {raw_data : Bytes} (hslave : FromSlave raw_data) :
    ∃ s, run step {} [.receive ctrlCommand, .switch acceptingPort 0,
      .receive raw_data, .switch acceptingPort 0] = some s ∧
        ∃ data_forward, (raw_data, data_forward) ∈ s.forwards := by
  obtain ⟨self₁, hid₁, hstep₁⟩ :=
    receive_command (s := {}) rfl commandId?_ctrlCommand
  obtain ⟨self₂, hfields₂, hstep₂⟩ := switch_eq
    (s := { self := self₁, phase := .switching ctrlCommand }) rfl
    acceptingPort 0
  obtain ⟨self₃, hfields₃, hstep₃⟩ := receive_fromSlave
    (s := { self := self₂
            forwards := [] ++ self₁.dataForwards.map fun data_forward =>
              (ctrlCommand, data_forward) }) rfl hslave
  obtain ⟨self₄, -, hstep₄⟩ := switch_eq
    (s := { self := self₃
            phase := .switching raw_data
            forwards := [] ++ self₁.dataForwards.map fun data_forward =>
              (ctrlCommand, data_forward) }) rfl acceptingPort 0
  have hid₃ : self₃.rx_msg_id = .ctrlMsg := by
    have hid₂ := congrArg CommandFields.rx_msg_id hfields₂
    exact ((congrArg CommandFields.rx_msg_id hfields₃).trans hid₂).trans hid₁
  refine ⟨_, run_cons_eq_some.mpr ⟨_, hstep₁, run_cons_eq_some.mpr ⟨_, hstep₂,
    run_cons_eq_some.mpr ⟨_, hstep₃, run_cons_eq_some.mpr ⟨_, hstep₄,
      rfl⟩⟩⟩⟩, { self₃.control_config.data_forward with
        type := .DEV_CTRL
        ctrl_cmd := ⟨self₃.statics.b2mCtrl.runningStatus⟩ }, ?_⟩
  simp [ProtocolMessageForward.dataForwards, hid₃]

/-- A command on the slave link replaces the id of the last command. -/
theorem exists_overwrite {raw_data : Bytes} {id : Backend2MasterMessageID}
    (hcommand : commandId? raw_data = some id) :
    ∃ first id', commandId? first = some id' ∧ id' ≠ id ∧
      ∃ s, run step {} [.receive first, .slaveRx raw_data] = some s ∧
        ∃ before after, (before, after) ∈ s.slaveCalls ∧
          before.rx_msg_id = id' ∧ after.rx_msg_id = id := by
  obtain ⟨first, id', hfirst, hne⟩ : ∃ first id',
      commandId? first = some id' ∧ id' ≠ id := by
    by_cases hctrl : id = .ctrlMsg
    · refine ⟨modeCommand, .modeCfgMsg, commandId?_modeCommand, ?_⟩
      simp [hctrl]
    · exact ⟨ctrlCommand, .ctrlMsg, commandId?_ctrlCommand, Ne.symm hctrl⟩
  obtain ⟨self₁, hid₁, hstep₁⟩ := receive_command (s := {}) rfl hfirst
  obtain ⟨self₂, hid₂, hstep₂⟩ := slaveRx_command
    { self := self₁, phase := .switching first } hcommand
  refine ⟨first, id', hfirst, hne, _, run_cons_eq_some.mpr ⟨_, hstep₁,
    run_cons_eq_some.mpr ⟨_, hstep₂, rfl⟩⟩, self₁.commandFields,
    self₂.commandFields, ?_, hid₁, hid₂⟩
  simp

/-- Whatever the answers and the order of the replies, the links are isolated
exactly when the backend port carries no frame of a slave and the slave link
carries no command. -/
theorem isolated_iff (backend slave : Bytes → Prop) :
    (∀ es s, (∀ e ∈ es, Carries backend slave e) →
      run step {} es = some s → s.Isolated) ↔
    (∀ raw_data, backend raw_data → ¬ FromSlave raw_data) ∧
      ∀ raw_data, slave raw_data → commandId? raw_data = none := by
  constructor
  · intro hisolated
    constructor
    · intro raw_data hallowed hslave
      obtain ⟨s, hrun, data_forward, hmem⟩ := exists_replay hslave
      have hcarries : ∀ e ∈ [Event.receive ctrlCommand,
          .switch acceptingPort 0, .receive raw_data,
          .switch acceptingPort 0], Carries backend slave e := by
        simp [Carries, commandId?_ctrlCommand, hallowed]
      obtain ⟨id, hid, -⟩ :=
        (hisolated _ s hcarries hrun).forwards _ _ hmem
      rw [commandId?_of_fromSlave hslave] at hid
      cases hid
    · intro raw_data hallowed
      by_contra hne
      obtain ⟨id, hid⟩ := Option.ne_none_iff_exists'.mp hne
      obtain ⟨first, id', hfirst, hdiff, s, hrun, before, after, hmem,
        hbefore, hafter⟩ := exists_overwrite hid
      have hcarries : ∀ e ∈ [Event.receive first, .slaveRx raw_data],
          Carries backend slave e := by
        simp [Carries, hfirst, hallowed]
      have hsame := (hisolated _ s hcarries hrun).slaveCalls _ _ hmem
      rw [hsame, hbefore] at hafter
      exact hdiff hafter
  · rintro ⟨hbackend, hslave⟩ es s hcarries hrun
    have hinv : s.Isolated ∧ s.Matched :=
      run_invariant_of_meets
        (fun _ _ _ => Isolated.step hbackend hslave) isolated_init
        (meets_of_forall hcarries _) hrun
    exact hinv.1

/-- A slave's answer to a reset. -/
def resetReply : Bytes :=
  [0xAB, 0xCD, 0x01, 0x00, 0x00, 0x09, 0x00, 0x30, 0x01, 0x00, 0x00, 0x00,
    0x00, 0x00, 0x00, 0x00]

/-- The reset reply on the backend port starts the test again, and a control
command on the slave link replaces `rx_msg_id`. -/
theorem not_isolated_crossed :
    (∃ s, run step {} [.receive ctrlCommand, .switch acceptingPort 0,
      .receive resetReply, .switch acceptingPort 0] = some s ∧
        ¬ s.Isolated) ∧
    ∃ s, run step {} [.slaveRx ctrlCommand] = some s ∧ ¬ s.Isolated := by
  constructor
  · refine ⟨_, rfl, ?_⟩
    intro hisolated
    obtain ⟨id, hid, -⟩ := hisolated.forwards resetReply
      { DataForward.zero with type := .DEV_CTRL, ctrl_cmd := ⟨1⟩ }
      (List.mem_cons_of_mem _ (List.mem_singleton.mpr rfl))
    cases hid
  · refine ⟨_, rfl, ?_⟩
    intro hisolated
    have hsame := hisolated.slaveCalls _ _ (List.mem_singleton.mpr rfl)
    cases congrArg CommandFields.rx_msg_id hsame

end Links

end WirelessHarness
