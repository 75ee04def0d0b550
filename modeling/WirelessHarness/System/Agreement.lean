import WirelessHarness.System.ClosedLoop

/-!
# What master and slaves agree on

The master does not know which request a reply belongs to.  If nothing of
earlier calls is left when a call begins, every reply under way is one to the
last request and from a slave that it asked, however often frames are repeated,
lost or late.  So a slave whose configuration was acknowledged scans the lines
it was asked to, and what a reading call uploads is what the slave reported.
-/

namespace WirelessHarness

open CheckedRead Runs
open SlaveConfigForward (forwarded)

namespace SendFrame

/-- A call that returns `true` has found a lone reply, and if it reads, the
upload frame holds the reply's data. -/
theorem lone_of_drain {s t : SendFrame} {device_status : UInt16}
    {replies : List Reply}
    (hqueue : s.rx_data_queue = replies.flatMap Reply.frame)
    (h : s.drain device_status = some t) (hret : t.phase = .returned true) :
    ∃ reply, replies = [reply] ∧
      ∀ id status conductionData, s.call = .readCond id →
        reply.body = .condData status conductionData →
          t.upload_frame =
            SlaveLink.uploadFrame s.deviceID device_status conductionData := by
  rcases drain_cases s device_status with
    ⟨cls, payload, fields, ⟨hsel, hdes, -⟩, heq⟩ | ⟨-, _, _, -, heq⟩
  · cases heq.symm.trans h
    rw [hqueue, Reply.select_flatMap_frame] at hsel
    rcases replies with _ | ⟨reply, _ | ⟨_, _⟩⟩
    · cases hsel
    · simp only [Option.ite_none_right_eq_some] at hsel
      obtain ⟨hfits, hsel⟩ := hsel
      refine ⟨reply, rfl, fun id status conductionData hcall hbody => ?_⟩
      have hdec := deserializeInto_of_decode (Reply.decode_message hfits)
        s.statics
      cases hsel
      have hstore := (Prod.mk.inj (Except.ok.inj (hdec.symm.trans hdes))).2
      simp only [← hstore, hcall, processRspData]
      obtain ⟨request, source, body⟩ := reply
      subst hbody
      rfl
    · cases hsel
  · cases heq.symm.trans h
    exact absurd hret (phase_retry_ne _)

end SendFrame

namespace ClosedLoop

open Conduction (echoPort secondDevice twoDevices twoSlaves)

variable {n : ℕ} {uids : Fin n → UInt32}

/-! ## What is under way -/

/-- The reply is backed by the state of the slave, or by one since the request
was made. -/
inductive Backed (slave : SlaveDevice) (reportable : List Bytes) :
    ProcessorCall → ReplyBody → Prop
  | condCfg {cfg_cmd : CfgCmd} {timeSlot : UInt8}
      {msg : Slave2Master.CondCfgMsg} (h : slave.ConfiguredAs cfg_cmd) :
      Backed slave reportable (.condCfg cfg_cmd timeSlot) (.condCfg msg)
  | condData {id : UInt32} {device_status : UInt16} {conductionData : Bytes}
      (h : conductionData ∈ reportable) :
      Backed slave reportable (.readCond id)
        (.condData device_status conductionData)

/-- A reply of slave `k` to the last request. -/
def Answers (s : ClosedLoop n) (k : Fin n) (reply : Reply) : Prop :=
  s.rsp = true ∧ s.master.call.Asks (s.slaves k).uid ∧
    Backed (s.slaves k) (s.reportable k) s.master.call reply.body

/-- What `__send` and the data-transfer task have done of a round. -/
def Fed (frame : Bytes) (phase : CallPhase) (rest tx_data_queue : Bytes)
    (tx_request_sem tx_done_sem : Bool) : Prop :=
  match phase with
  | .sending => tx_data_queue ++ rest = frame ∧
      tx_request_sem = false ∧ tx_done_sem = false
  | .transmitting =>
      tx_data_queue = frame ∧ tx_request_sem = true ∧ tx_done_sem = false ∨
        tx_data_queue = [] ∧ tx_request_sem = false ∧ tx_done_sem = true
  | .returned false => tx_request_sem = true → tx_data_queue = frame
  | _ => tx_data_queue = [] ∧ tx_request_sem = false ∧ tx_done_sem = false

def Feeding (s : ClosedLoop n) : Prop :=
  Fed s.frame s.master.phase s.rest s.tx_data_queue s.master.tx_request_sem
    s.master.tx_done_sem

/-- The frame is that of the last call. -/
def Carries (s : ClosedLoop n) : Prop :=
  if s.rsp then s.frame = s.master.call.frame
  else ∃ mode, s.frame = Conduction.syncFrame mode

/-- What the last call has uploaded if it was one for a single slave that
returned `true`. -/
def Uploaded (s : ClosedLoop n) : Prop :=
  ∀ id, s.rsp = true → s.master.call = .readCond id → id ≠ 0xFFFFFFFF →
    s.master.phase = .returned true →
      ∃ k, (s.slaves k).uid = id ∧ ∃ device_status,
        ∃ conductionData ∈ s.reportable k,
          s.master.upload_frame =
            SlaveLink.uploadFrame id device_status conductionData

structure Inv (uids : Fin n → UInt32) (s : ClosedLoop n) : Prop where
  uid_eq : ∀ k, (s.slaves k).uid = uids k
  carries : s.Carries
  deviceID : ∀ id, s.master.call = .readCond id → s.master.deviceID = id
  feeding : s.Feeding
  sent : ∀ k raw_data, (some k, raw_data) ∈ s.air →
    raw_data = s.frame ∨ ∃ reply : Reply, raw_data = reply.frame
  answers : ∀ raw_data, (none, raw_data) ∈ s.air →
    ∃ k reply, s.Answers k reply ∧ raw_data = reply.frame
  received : ∃ replies : List Reply,
    s.master.rx_data_queue = replies.flatMap Reply.frame ∧
      ∀ reply ∈ replies, ∃ k, s.Answers k reply
  report_mem : ∀ k, (s.slaves k).report ∈ s.reportable k
  agreed : ∀ k cfg_cmd, s.agreed k = some cfg_cmd →
    (s.slaves k).ConfiguredAs cfg_cmd
  current : s.rsp = true → ∀ cfg_cmd timeSlot,
    s.master.call = .condCfg cfg_cmd timeSlot →
      ∀ k, s.master.call.Asks (s.slaves k).uid →
        ∀ cfg_cmd', s.agreed k = some cfg_cmd' → cfg_cmd' = cfg_cmd
  uploaded : s.Uploaded

/-! ## The start of a call -/

theorem inv_begin {s : ClosedLoop n} (hquiet : s.Quiet)
    (hagreed : ∀ k cfg_cmd, s.agreed k = some cfg_cmd →
      (s.slaves k).ConfiguredAs cfg_cmd) (call : ProcessorCall) :
    Inv (fun k => (s.slaves k).uid) (s.begin call) := by
  obtain ⟨htx, hrx, hrequest, hdone, hair⟩ := hquiet
  have hmaster : (s.begin call).master.call = call ∧
      (s.begin call).master.phase = .sending ∧
      (s.begin call).master.tx_request_sem = false ∧
      (s.begin call).master.tx_done_sem = false ∧
      (s.begin call).master.rx_data_queue = [] ∧
      ∀ id, call = .readCond id → (s.begin call).master.deviceID = id := by
    cases call with
    | readCond id =>
        exact ⟨rfl, rfl, hrequest, hdone, hrx, fun _ h => by cases h; rfl⟩
    | condCfg cfg_cmd timeSlot =>
        exact ⟨rfl, rfl, hrequest, hdone, hrx, by simp⟩
  obtain ⟨hcall, hphase, hrequest, hdone, hrx, hdeviceID⟩ := hmaster
  have hsuperseded (k : Fin n) (cfg_cmd : CfgCmd)
      (h : s.superseded call k = some cfg_cmd) : s.agreed k = some cfg_cmd ∧
        ∀ cfg_cmd' timeSlot, call = .condCfg cfg_cmd' timeSlot →
          ¬ call.Asks (s.slaves k).uid := by
    cases call with
    | readCond id => exact ⟨h, by simp⟩
    | condCfg cfg_cmd' timeSlot =>
        simp only [superseded, Option.ite_none_left_eq_some] at h
        exact ⟨h.2, fun _ _ _ => h.1⟩
  constructor
  case uid_eq => exact fun _ => rfl
  case carries =>
    rw [Carries, hcall]
    rfl
  case deviceID =>
    intro id hid
    rw [hcall] at hid
    exact hdeviceID id hid
  case feeding =>
    rw [Feeding, hphase, hrequest, hdone]
    refine ⟨?_, rfl, rfl⟩
    change s.tx_data_queue ++ call.frame = call.frame
    rw [htx, List.nil_append]
  case sent =>
    intro k raw_data hmem
    change _ ∈ s.air at hmem
    rw [hair] at hmem
    cases hmem
  case answers =>
    intro raw_data hmem
    change _ ∈ s.air at hmem
    rw [hair] at hmem
    cases hmem
  case received => exact ⟨[], hrx, by simp⟩
  case report_mem => exact fun k => List.mem_singleton_self _
  case agreed =>
    intro k cfg_cmd h
    exact hagreed k cfg_cmd (hsuperseded k cfg_cmd h).1
  case current =>
    intro _ cfg_cmd timeSlot hcfg k hasks cfg_cmd' h
    rw [hcall] at hcfg hasks
    exact absurd hasks ((hsuperseded k cfg_cmd' h).2 _ _ hcfg)
  case uploaded =>
    intro id _ _ _ hret
    rw [hphase] at hret
    cases hret

/-! ## The manager's steps -/

section

variable (s : ClosedLoop n) (master : SendFrame)

@[simp] theorem call_manage :
    (s.manage master).master.call = master.call := by
  simp only [manage]
  split <;> rfl

@[simp] theorem deviceID_manage :
    (s.manage master).master.deviceID = master.deviceID := by
  simp only [manage]
  split <;> rfl

@[simp] theorem rx_data_queue_manage :
    (s.manage master).master.rx_data_queue = master.rx_data_queue := by
  simp only [manage]
  split <;> rfl

@[simp] theorem upload_frame_manage :
    (s.manage master).master.upload_frame = master.upload_frame := by
  simp only [manage]
  split <;> rfl

/-- A call that waits for no reply returns. -/
theorem phase_manage :
    (s.manage master).master.phase = master.phase ∨
      s.rsp = false ∧ master.phase = .waiting ∧
        (s.manage master).master.phase = .returned true := by
  by_cases h : s.rsp = false ∧ master.phase = .waiting
  · exact .inr ⟨h.1, h.2, by simp [manage, h]⟩
  · exact .inl (by simp [manage, h])

end

/-- A round that is over leaves nothing behind. -/
theorem feeding_retry {s : ClosedLoop n} {statics : Statics}
    {upload_frame rx_data_queue : Bytes}
    (htx : s.tx_data_queue = [] ∧
      s.master.tx_request_sem = false ∧ s.master.tx_done_sem = false)
    (hphase : s.master.phase ≠ .sending) :
    (s.manage ({ s.master with
      statics, upload_frame, rx_data_queue } : SendFrame).retry).Feeding := by
  obtain ⟨hqueue, hrequest, hdone⟩ := htx
  simp only [SendFrame.retry]
  split
  · simp [Feeding, Fed, manage, hqueue, hrequest, hdone, hphase]
  · simp [Feeding, Fed, manage, hrequest]

theorem feeding_manage {s : ClosedLoop n} (hs : s.Feeding)
    {e : SendFrame.Event} {master : SendFrame} (he : s.Manages e)
    (h : s.master.step e = some master) : (s.manage master).Feeding := by
  rw [Feeding] at hs
  cases e with
  | queueFull =>
      obtain ⟨hphase, heq⟩ := Option.ite_none_right_eq_some.mp h
      cases heq
      rw [hphase] at hs
      simp [Feeding, Fed, manage, hs.2.1]
  | request =>
      obtain ⟨hphase, heq⟩ := Option.ite_none_right_eq_some.mp h
      cases heq
      have hrest : s.rest = [] := he
      rw [hphase, hrest] at hs
      obtain ⟨hqueue, -, hdone⟩ := hs
      rw [List.append_nil] at hqueue
      simp [Feeding, Fed, manage, hqueue, hdone]
  | txDone =>
      obtain ⟨⟨hphase, hdone⟩, heq⟩ := Option.ite_none_right_eq_some.mp h
      cases heq
      rw [hphase, hdone] at hs
      obtain ⟨-, -, hfalse⟩ | ⟨hqueue, hrequest, -⟩ := hs
      · cases hfalse
      by_cases hrsp : s.rsp = false
      · simp [Feeding, Fed, manage, hrsp, hqueue, hrequest]
      · simp [Feeding, Fed, manage, hrsp, hqueue, hrequest]
  | txTimeout =>
      obtain ⟨⟨hphase, hdone⟩, heq⟩ := Option.ite_none_right_eq_some.mp h
      cases heq
      rw [hphase, hdone] at hs
      obtain ⟨hqueue, -, -⟩ | ⟨-, -, hfalse⟩ := hs
      · simp [Feeding, Fed, manage, hqueue]
      · cases hfalse
  | rxTake =>
      obtain ⟨⟨hphase, -⟩, heq⟩ := Option.ite_none_right_eq_some.mp h
      cases heq
      rw [hphase] at hs
      simpa [Feeding, Fed, manage] using hs
  | rxTimeout =>
      obtain ⟨⟨hphase, -⟩, heq⟩ := Option.ite_none_right_eq_some.mp h
      cases heq
      rw [hphase] at hs
      exact feeding_retry hs (by simp [hphase])
  | drain device_status =>
      obtain ⟨hphase, heq⟩ := Option.ite_none_right_eq_some.mp h
      rw [hphase] at hs
      rcases SendFrame.drain_cases s.master device_status with
        ⟨cls, payload, fields, -, hdrain⟩ | ⟨-, _, _, -, hdrain⟩
      · cases hdrain.symm.trans heq
        simpa [Feeding, Fed, manage] using hs
      · cases hdrain.symm.trans heq
        exact feeding_retry hs (by simp [hphase])
  | transmit sent => exact absurd he id
  | receive frame => exact absurd he id
  | backend raw_data =>
      simp only [SendFrame.step] at h
      split at h
      · cases h
        by_cases hwait : s.rsp = false ∧ s.master.phase = .waiting
        · rw [hwait.2] at hs
          simpa [Feeding, Fed, manage, hwait] using hs
        · simp only [Feeding, manage, if_neg hwait,
            not_and_self, if_false]
          exact hs
      · cases h

/-- Only a drain changes what was received or uploaded and ends a call with
`true`. -/
theorem manages_cases {s : ClosedLoop n} {e : SendFrame.Event}
    {master : SendFrame} (he : s.Manages e)
    (h : s.master.step e = some master) :
    (∃ device_status, s.master.phase = .draining ∧
        s.master.drain device_status = some master) ∨
      master.rx_data_queue = s.master.rx_data_queue ∧
        master.upload_frame = s.master.upload_frame ∧
        (master.phase = .returned true → s.master.phase = .returned true) := by
  cases e with
  | drain device_status =>
      exact .inl ⟨device_status, Option.ite_none_right_eq_some.mp h⟩
  | queueFull | request | txDone | txTimeout | rxTake =>
      obtain ⟨-, heq⟩ := Option.ite_none_right_eq_some.mp h
      cases heq
      exact .inr ⟨rfl, rfl, by simp⟩
  | rxTimeout =>
      obtain ⟨-, heq⟩ := Option.ite_none_right_eq_some.mp h
      cases heq
      refine .inr ⟨rfl, rfl, fun hret => ?_⟩
      exact absurd hret (SendFrame.phase_retry_ne _)
  | transmit sent => exact absurd he id
  | receive frame => exact absurd he id
  | backend raw_data =>
      simp only [SendFrame.step] at h
      split at h
      · cases h
        exact .inr ⟨rfl, rfl, id⟩
      · cases h

/-- The reply that a call with success has found. -/
theorem Inv.exists_reply {s : ClosedLoop n} (hs : Inv uids s)
    {device_status : UInt16} {master : SendFrame}
    (h : s.master.drain device_status = some master)
    (hret : master.phase = .returned true) :
    ∃ k reply, s.Answers k reply ∧
      ∀ id status conductionData, s.master.call = .readCond id →
        reply.body = .condData status conductionData →
          master.upload_frame =
            SlaveLink.uploadFrame id device_status conductionData := by
  obtain ⟨replies, hqueue, hreplies⟩ := hs.received
  obtain ⟨reply, rfl, hupload⟩ := SendFrame.lone_of_drain hqueue h hret
  obtain ⟨k, hanswers⟩ := hreplies reply List.mem_cons_self
  refine ⟨k, reply, hanswers, fun id status conductionData hcall hbody => ?_⟩
  rw [hupload id status conductionData hcall hbody, hs.deviceID id hcall]

/-- A configuration that is confirmed is in force. -/
theorem Inv.confirmed {s : ClosedLoop n} (hs : Inv uids s)
    (hids : Function.Injective uids) {k : Fin n} {reply : Reply}
    (hanswers : s.Answers k reply) {j : Fin n} {cfg_cmd : CfgCmd}
    (h : s.confirmed j = some cfg_cmd) :
    (s.slaves j).ConfiguredAs cfg_cmd ∧ (s.agreed j = some cfg_cmd ∨
      ∃ timeSlot, s.master.call = .condCfg cfg_cmd timeSlot) := by
  obtain ⟨-, hasked, hbacked⟩ := hanswers
  unfold ClosedLoop.confirmed at h
  generalize reply.body = body at hbacked
  cases hcall : s.master.call with
  | readCond id =>
      simp only [hcall] at h
      exact ⟨hs.agreed j cfg_cmd h, .inl h⟩
  | condCfg cfg_cmd' timeSlot =>
      simp only [hcall] at h
      rw [hcall] at hasked hbacked
      split at h
      next hj =>
        cases h
        have hkj : k = j := by
          apply hids
          rw [← hs.uid_eq k, ← hs.uid_eq j, ← hj.2]
          exact (hasked.resolve_left hj.1).symm
        cases hbacked with
        | condCfg hconfigured =>
            exact ⟨hkj ▸ hconfigured, .inr ⟨timeSlot, rfl⟩⟩
      next => exact ⟨hs.agreed j cfg_cmd h, .inl h⟩

theorem answers_manage {s : ClosedLoop n} {k : Fin n} {reply : Reply}
    (h : s.Answers k reply) {master : SendFrame}
    (hcall : master.call = s.master.call) :
    (s.manage master).Answers k reply := by
  unfold Answers at h ⊢
  rw [call_manage, hcall]
  exact h

theorem inv_manage {s : ClosedLoop n} (hs : Inv uids s)
    (hids : Function.Injective uids) {e : SendFrame.Event}
    {master : SendFrame} (he : s.Manages e)
    (h : s.master.step e = some master) : Inv uids (s.manage master) := by
  have hstepped := SendFrame.stepped_of_step h
  have hcall := hstepped.call_eq
  have hcases := manages_cases he h
  have hagreed (k : Fin n) (cfg_cmd : CfgCmd)
      (hk : (s.manage master).agreed k = some cfg_cmd) :
      (s.slaves k).ConfiguredAs cfg_cmd ∧ (s.agreed k = some cfg_cmd ∨
        ∃ timeSlot, s.master.call = .condCfg cfg_cmd timeSlot) := by
    by_cases hend : s.master.phase = .draining ∧ master.phase = .returned true
    · simp only [ClosedLoop.manage, if_pos hend] at hk
      obtain ⟨device_status, -, hdrain⟩ | ⟨-, -, hret⟩ := hcases
      · obtain ⟨j, reply, hanswers, -⟩ := hs.exists_reply hdrain hend.2
        exact hs.confirmed hids hanswers hk
      · rw [hret hend.2] at hend
        cases hend.1
    · simp only [ClosedLoop.manage, if_neg hend] at hk
      exact ⟨hs.agreed k cfg_cmd hk, .inl hk⟩
  constructor
  case uid_eq => exact hs.uid_eq
  case carries =>
    have hcarries := hs.carries
    unfold Carries at hcarries ⊢
    rw [call_manage, hcall]
    exact hcarries
  case deviceID =>
    intro id hid
    rw [call_manage, hcall] at hid
    rw [deviceID_manage, hstepped.deviceID_eq]
    exact hs.deviceID id hid
  case feeding => exact feeding_manage hs.feeding he h
  case sent => exact hs.sent
  case answers =>
    intro raw_data hmem
    obtain ⟨k, reply, hanswers, hraw⟩ := hs.answers raw_data hmem
    exact ⟨k, reply, answers_manage hanswers hcall, hraw⟩
  case received =>
    rw [rx_data_queue_manage]
    obtain ⟨device_status, -, hdrain⟩ | ⟨hqueue, -, -⟩ := hcases
    · refine ⟨[], ?_, by simp⟩
      rcases SendFrame.drain_cases s.master device_status with
        ⟨_, _, _, -, heq⟩ | ⟨-, _, _, -, heq⟩ <;>
          cases heq.symm.trans hdrain <;> rfl
    · obtain ⟨replies, hreplies, hall⟩ := hs.received
      refine ⟨replies, hqueue.trans hreplies, fun reply hreply => ?_⟩
      obtain ⟨k, hanswers⟩ := hall reply hreply
      exact ⟨k, answers_manage hanswers hcall⟩
  case report_mem => exact hs.report_mem
  case agreed => exact fun k cfg_cmd hk => (hagreed k cfg_cmd hk).1
  case current =>
    intro hrsp cfg_cmd timeSlot hcfg k hasks cfg_cmd' hk
    rw [call_manage, hcall] at hcfg hasks
    obtain ⟨-, hold | ⟨timeSlot', hnew⟩⟩ := hagreed k cfg_cmd' hk
    · exact hs.current hrsp cfg_cmd timeSlot hcfg k hasks cfg_cmd' hold
    · cases hcfg.symm.trans hnew
      rfl
  case uploaded =>
    intro id hrsp hid hne hret
    rw [call_manage, hcall] at hid
    rw [upload_frame_manage]
    have hret : master.phase = .returned true := by
      rcases phase_manage s master with hphase | ⟨hfalse, -⟩
      · rw [← hphase, hret]
      · cases hfalse.symm.trans hrsp
    obtain ⟨device_status, -, hdrain⟩ | ⟨-, hupload, hold⟩ := hcases
    · obtain ⟨k, reply, ⟨-, hasked, hbacked⟩, hframe⟩ :=
        hs.exists_reply hdrain hret
      rw [hid] at hasked hbacked
      have hframe := hframe id
      generalize reply.body = body at hbacked hframe
      cases hbacked with
      | condData hmem =>
          exact ⟨k, (hasked.resolve_left hne).symm, device_status, _, hmem,
            hframe _ _ hid rfl⟩
    · rw [hupload]
      exact hs.uploaded id hrsp hid hne (hold hret)

/-! ## The other steps -/

theorem inv_sync {s : ClosedLoop n} (hs : Inv uids s) (hquiet : s.Quiet)
    (mode : SysMode) : Inv uids (s.sync mode) := by
  obtain ⟨htx, hrx, hrequest, hdone, hair⟩ := hquiet
  constructor
  case uid_eq => exact hs.uid_eq
  case carries => exact ⟨mode, rfl⟩
  case deviceID => exact hs.deviceID
  case feeding =>
    refine ⟨?_, hrequest, hdone⟩
    change s.tx_data_queue ++ Conduction.syncFrame mode = _
    rw [htx]
    rfl
  case sent =>
    intro k raw_data hmem
    change _ ∈ s.air at hmem
    rw [hair] at hmem
    cases hmem
  case answers =>
    intro raw_data hmem
    change _ ∈ s.air at hmem
    rw [hair] at hmem
    cases hmem
  case received => exact ⟨[], hrx, by simp⟩
  case report_mem => exact hs.report_mem
  case agreed => exact hs.agreed
  case current =>
    intro hrsp
    cases hrsp
  case uploaded =>
    intro id hrsp
    cases hrsp

theorem inv_add {s : ClosedLoop n} (hs : Inv uids s) {b : UInt8}
    {rest : Bytes} (hphase : s.master.phase = .sending)
    (hrest : s.rest = b :: rest) :
    Inv uids { s with rest, tx_data_queue := s.tx_data_queue ++ [b] } := by
  have hfeeding := hs.feeding
  simp only [Feeding, hphase, hrest] at hfeeding
  obtain ⟨hframe, hrequest, hdone⟩ := hfeeding
  have hfed : Feeding
      { s with rest, tx_data_queue := s.tx_data_queue ++ [b] } := by
    simp only [Feeding, hphase, hrequest, hdone]
    refine ⟨?_, rfl, rfl⟩
    rw [List.append_assoc]
    exact hframe
  exact { hs with feeding := hfed }

theorem inv_transmit {s : ClosedLoop n} (hs : Inv uids s) {sent : Bool}
    {master : SendFrame} (h : s.master.step (.transmit sent) = some master)
    (hears : List (Fin n)) :
    Inv uids { s with
      master
      tx_data_queue := []
      air := s.air ++ hears.map fun k => (some k, s.tx_data_queue) } := by
  obtain ⟨hrequest, heq⟩ := Option.ite_none_right_eq_some.mp h
  cases heq
  have hqueue : s.tx_data_queue = s.frame ∧ Feeding { s with
      master := { s.master with
        tx_request_sem := false
        tx_done_sem := true
        queued := false
        transmitted := s.master.transmitted || (s.master.queued && sent) }
      tx_data_queue := [] } := by
    have hfeeding := hs.feeding
    simp only [Feeding, hrequest] at hfeeding ⊢
    generalize s.master.phase = phase at hfeeding ⊢
    rcases phase with _ | _ | _ | _ | ⟨_ | _⟩
    · cases hfeeding.2.1
    · obtain ⟨hqueue, -⟩ | ⟨-, hfalse, -⟩ := hfeeding
      · exact ⟨hqueue, .inr ⟨rfl, rfl, rfl⟩⟩
      · cases hfalse
    · cases hfeeding.2.1
    · cases hfeeding.2.1
    · exact ⟨hfeeding rfl, fun h => by cases h⟩
    · cases hfeeding.2.1
  refine { hs with feeding := hqueue.2, sent := ?_, answers := ?_ }
  · intro k raw_data hmem
    rcases List.mem_append.mp hmem with hmem | hmem
    · exact hs.sent k raw_data hmem
    · obtain ⟨j, -, hj⟩ := List.mem_map.mp hmem
      cases hj
      exact .inl hqueue.1
  · intro raw_data hmem
    rcases List.mem_append.mp hmem with hmem | hmem
    · exact hs.answers raw_data hmem
    · obtain ⟨j, -, hj⟩ := List.mem_map.mp hmem
      cases hj

theorem inv_lose {s : ClosedLoop n} (hs : Inv uids s) (i : ℕ) :
    Inv uids { s with air := s.air.eraseIdx i } :=
  { hs with
    sent := fun k raw_data hmem =>
      hs.sent k raw_data (List.mem_of_mem_eraseIdx hmem)
    answers := fun raw_data hmem =>
      hs.answers raw_data (List.mem_of_mem_eraseIdx hmem) }

theorem inv_receive {s : ClosedLoop n} (hs : Inv uids s) {raw_data : Bytes}
    {master : SendFrame} (hmem : (none, raw_data) ∈ s.air)
    (h : s.master.step (.receive raw_data) = some master) :
    Inv uids { s with master } := by
  cases h
  obtain ⟨k, reply, hanswers, rfl⟩ := hs.answers raw_data hmem
  obtain ⟨replies, hqueue, hall⟩ := hs.received
  refine { hs with received := ⟨replies ++ [reply], ?_, ?_⟩ }
  · rw [List.flatMap_append, List.flatMap_singleton, ← hqueue]
  · intro other hother
    rcases List.mem_append.mp hother with hother | hother
    · exact hall other hother
    · obtain rfl := List.mem_singleton.mp hother
      exact ⟨k, hanswers⟩

/-! ## The slaves' steps -/

theorem Backed.mono {slave slave' : SlaveDevice}
    {reportable reportable' : List Bytes} {call : ProcessorCall}
    {body : ReplyBody} (h : Backed slave reportable call body)
    (hconfigured : ∀ cfg_cmd timeSlot, call = .condCfg cfg_cmd timeSlot →
      slave.ConfiguredAs cfg_cmd → slave'.ConfiguredAs cfg_cmd)
    (hreportable : reportable ⊆ reportable') :
    Backed slave' reportable' call body := by
  cases h with
  | condCfg h => exact .condCfg (hconfigured _ _ rfl h)
  | condData h => exact .condData (hreportable h)

/-- The slave's configuration by the last request, or by an earlier one that is
in force. -/
def Stands (s : ClosedLoop n) (k : Fin n) (cfg_cmd : CfgCmd) : Prop :=
  s.agreed k = some cfg_cmd ∨
    s.rsp = true ∧ s.master.call.Asks (s.slaves k).uid ∧
      ∃ timeSlot, s.master.call = .condCfg cfg_cmd timeSlot

/-- One slave goes on and replies, if it does, to the last request. -/
theorem inv_slave {s : ClosedLoop n} (hs : Inv uids s) {k : Fin n}
    {slave : SlaveDevice} (huid : slave.uid = (s.slaves k).uid)
    (hconfigured : ∀ cfg_cmd, s.Stands k cfg_cmd →
      (s.slaves k).ConfiguredAs cfg_cmd → slave.ConfiguredAs cfg_cmd)
    {replies : List Reply} (hreplies : ∀ reply ∈ replies, s.rsp = true ∧
      s.master.call.Asks (s.slaves k).uid ∧
      Backed slave (s.reportable k) s.master.call reply.body)
    (hears : List (Option (Fin n))) :
    Inv uids { s with
      slaves := Function.update s.slaves k slave
      air := s.air ++ (replies.map Reply.frame).flatMap fun reply =>
        hears.map fun receiver => (receiver, reply)
      reportable := Function.update s.reportable k
        (s.reportable k ++ [slave.report]) } := by
  set s' : ClosedLoop n := { s with
    slaves := Function.update s.slaves k slave
    air := s.air ++ (replies.map Reply.frame).flatMap fun reply =>
      hears.map fun receiver => (receiver, reply)
    reportable := Function.update s.reportable k
      (s.reportable k ++ [slave.report]) } with hs'
  have huids (j : Fin n) : (s'.slaves j).uid = (s.slaves j).uid := by
    by_cases hj : j = k
    · subst hj
      simp [hs', huid]
    · simp [hs', Function.update_of_ne hj]
  have hreportable (j : Fin n) : s.reportable j ⊆ s'.reportable j := by
    by_cases hj : j = k
    · subst hj
      simp [hs']
    · simp [hs', Function.update_of_ne hj]
  have hstands (j : Fin n) (cfg_cmd : CfgCmd) (hj : s.Stands j cfg_cmd)
      (h : (s.slaves j).ConfiguredAs cfg_cmd) :
      (s'.slaves j).ConfiguredAs cfg_cmd := by
    by_cases hjk : j = k
    · subst hjk
      simpa [hs'] using hconfigured cfg_cmd hj h
    · simpa [hs', Function.update_of_ne hjk] using h
  have hold {j : Fin n} {reply : Reply} (h : s.Answers j reply) :
      s'.Answers j reply := by
    obtain ⟨hrsp, hasked, hbacked⟩ := h
    refine ⟨hrsp, by rw [huids]; exact hasked, ?_⟩
    refine hbacked.mono (fun cfg_cmd timeSlot hcall => ?_) (hreportable j)
    exact hstands j cfg_cmd (.inr ⟨hrsp, hasked, timeSlot, hcall⟩)
  have hnew {reply : Reply} (hreply : reply ∈ replies) :
      s'.Answers k reply := by
    obtain ⟨hrsp, hasked, hbacked⟩ := hreplies reply hreply
    refine ⟨hrsp, by rw [huids]; exact hasked, ?_⟩
    refine hbacked.mono (fun _ _ _ h => ?_) (hreportable k)
    simpa [hs'] using h
  have hair {receiver : Option (Fin n)} {raw_data : Bytes}
      (hmem : (receiver, raw_data) ∈ s'.air) :
      (receiver, raw_data) ∈ s.air ∨
        ∃ reply ∈ replies, raw_data = reply.frame := by
    rcases List.mem_append.mp hmem with hmem | hmem
    · exact .inl hmem
    · obtain ⟨frame, hframe, hreceiver⟩ := List.mem_flatMap.mp hmem
      obtain ⟨reply, hreply, rfl⟩ := List.mem_map.mp hframe
      obtain ⟨_, -, heq⟩ := List.mem_map.mp hreceiver
      cases heq
      exact .inr ⟨reply, hreply, rfl⟩
  constructor
  case uid_eq => exact fun j => (huids j).trans (hs.uid_eq j)
  case carries => exact hs.carries
  case deviceID => exact hs.deviceID
  case feeding => exact hs.feeding
  case sent =>
    intro j raw_data hmem
    rcases hair hmem with hmem | ⟨reply, -, rfl⟩
    · exact hs.sent j raw_data hmem
    · exact .inr ⟨reply, rfl⟩
  case answers =>
    intro raw_data hmem
    rcases hair hmem with hmem | ⟨reply, hreply, rfl⟩
    · obtain ⟨j, reply, hanswers, hraw⟩ := hs.answers raw_data hmem
      exact ⟨j, reply, hold hanswers, hraw⟩
    · exact ⟨k, reply, hnew hreply, rfl⟩
  case received =>
    obtain ⟨received, hqueue, hall⟩ := hs.received
    refine ⟨received, hqueue, fun reply hreply => ?_⟩
    obtain ⟨j, hanswers⟩ := hall reply hreply
    exact ⟨j, hold hanswers⟩
  case report_mem =>
    intro j
    by_cases hj : j = k
    · subst hj
      simp [hs']
    · simpa [hs', Function.update_of_ne hj] using hs.report_mem j
  case agreed =>
    intro j cfg_cmd hj
    exact hstands j cfg_cmd (.inl hj) (hs.agreed j cfg_cmd hj)
  case current =>
    intro hrsp cfg_cmd timeSlot hcall j hasks
    rw [huids] at hasks
    exact hs.current hrsp cfg_cmd timeSlot hcall j hasks
  case uploaded =>
    intro id hrsp hcall hne hret
    obtain ⟨j, hj, status, data, hmem, hframe⟩ :=
      hs.uploaded id hrsp hcall hne hret
    exact ⟨j, (huids j).trans hj, status, data, hreportable j hmem, hframe⟩

/-- A configuration that is the request's own is in force afterwards, and every
one is if the request is a reading one. -/
theorem configuredAs_of_answered {s slave : SlaveDevice}
    {call : ProcessorCall} {body : ReplyBody}
    (h : s.Answered call slave body) {cfg_cmd : CfgCmd}
    (hcall : ∀ cfg_cmd' timeSlot, call = .condCfg cfg_cmd' timeSlot →
      cfg_cmd = cfg_cmd')
    (hs : s.ConfiguredAs cfg_cmd) : slave.ConfiguredAs cfg_cmd := by
  cases h with
  | condCfg h =>
      rw [hcall _ _ rfl]
      exact h
  | condData hboard hstatics =>
      apply hs.of_eq
      case hstatics => exact hstatics
      all_goals rw [hboard]

theorem backed_of_answered {s slave : SlaveDevice} {call : ProcessorCall}
    {body : ReplyBody} (h : s.Answered call slave body)
    {reportable : List Bytes} (hs : s.report ∈ reportable) :
    Backed slave reportable call body := by
  cases h with
  | condCfg h => exact .condCfg h
  | condData => exact .condData hs

/-- A slave processes one of the frames on the air. -/
theorem Inv.process_cases {s : ClosedLoop n} (hs : Inv uids s) {k : Fin n}
    {raw_data : Bytes} (hmem : (some k, raw_data) ∈ s.air) :
    let slave := ((s.slaves k).parseAndProcess raw_data).2
    ∃ replies : List Reply,
      slave.sent = (s.slaves k).sent ++ replies.map Reply.frame ∧
        (∀ cfg_cmd, s.Stands k cfg_cmd →
          (s.slaves k).ConfiguredAs cfg_cmd → slave.ConfiguredAs cfg_cmd) ∧
        ∀ reply ∈ replies, s.rsp = true ∧
          s.master.call.Asks (s.slaves k).uid ∧
          Backed slave (s.reportable k) s.master.call reply.body := by
  intro slave
  have hsilent (hsent : slave.sent = (s.slaves k).sent)
      (hkeep : ∀ cfg_cmd, (s.slaves k).ConfiguredAs cfg_cmd →
        slave.ConfiguredAs cfg_cmd) : ∃ replies : List Reply,
      slave.sent = (s.slaves k).sent ++ replies.map Reply.frame ∧
        (∀ cfg_cmd, s.Stands k cfg_cmd →
          (s.slaves k).ConfiguredAs cfg_cmd → slave.ConfiguredAs cfg_cmd) ∧
        ∀ reply ∈ replies, s.rsp = true ∧
          s.master.call.Asks (s.slaves k).uid ∧
          Backed slave (s.reportable k) s.master.call reply.body :=
    ⟨[], by simp [hsent], fun cfg_cmd _ => hkeep cfg_cmd, by simp⟩
  have hunchanged (h : slave = s.slaves k) :=
    hsilent (by rw [h]) (fun cfg_cmd hk => by rw [h]; exact hk)
  rcases hs.sent k raw_data hmem with rfl | ⟨reply, rfl⟩
  · have hcarries := hs.carries
    unfold Carries at hcarries
    split at hcarries
    next hrsp =>
      by_cases hasks : s.master.call.Asks (s.slaves k).uid
      · obtain ⟨reply, hsent, hanswered⟩ :=
          (s.slaves k).parseAndProcess_of_asks hasks
        rw [← hcarries] at hsent hanswered
        refine ⟨[reply], hsent, fun cfg_cmd hstands hk => ?_,
          fun other hother => ?_⟩
        · apply configuredAs_of_answered hanswered _ hk
          intro cfg_cmd' timeSlot hcall
          obtain hagreed | ⟨-, -, timeSlot', hcall'⟩ := hstands
          · exact hs.current hrsp _ _ hcall k hasks _ hagreed
          · cases hcall.symm.trans hcall'
            rfl
        · obtain rfl := List.mem_singleton.mp hother
          exact ⟨hrsp, hasks, backed_of_answered hanswered (hs.report_mem k)⟩
      · apply hunchanged
        have hsame := (s.slaves k).parseAndProcess_of_not_asks hasks
        rw [← hcarries] at hsame
        exact hsame
    next =>
      obtain ⟨mode, hframe⟩ := hcarries
      have hsync := (s.slaves k).parseAndProcess_syncFrame mode
      rw [← hframe] at hsync
      apply hsilent
      · exact (congrArg SlaveDevice.sent hsync).trans rfl
      · intro cfg_cmd hk
        change (SlaveDevice.parseAndProcess _ _).2.ConfiguredAs cfg_cmd
        rw [hsync]
        exact hk.sync _
  · exact hunchanged ((s.slaves k).parseAndProcess_reply reply)

theorem inv_deliver {s : ClosedLoop n} (hs : Inv uids s) {k : Fin n}
    {raw_data : Bytes} (hmem : (some k, raw_data) ∈ s.air) (i : ℕ)
    (hears : List (Option (Fin n))) :
    Inv uids (s.deliver i k raw_data hears) := by
  obtain ⟨replies, hsent, hconfigured, hreplies⟩ := hs.process_cases hmem
  have hslave := inv_slave (inv_lose hs i) (k := k)
    (SlaveDevice.uid_parseAndProcess _ raw_data) hconfigured hreplies hears
  simp only [deliver, hsent, List.drop_left]
  exact hslave

theorem inv_callback {s : ClosedLoop n} (hs : Inv uids s) (k : Fin n)
    (input : GpioInput) :
    let slave := { s.slaves k with
      board := Harness.myTimerCallback input (s.slaves k).board }
    Inv uids { s with
      slaves := Function.update s.slaves k slave
      reportable := Function.update s.reportable k
        (s.reportable k ++ [slave.report]) } := by
  intro slave
  have hslave := @inv_slave _ _ s hs k slave rfl
    (fun cfg_cmd _ h => h.callback input) [] (by simp) []
  simpa using hslave

/-! ## Runs -/

theorem inv_step (hids : Function.Injective uids) (s : ClosedLoop n)
    (e : Event n) (s' : ClosedLoop n) (hs : Inv uids s) (hC : s.Orderly e)
    (h : step s e = some s') : Inv uids s' := by
  cases e with
  | begin call =>
      simp only [step] at h
      split at h
      · cases h
        have hbegin := inv_begin hC hs.agreed call
        rwa [show (fun k => (s.slaves k).uid) = uids from funext hs.uid_eq]
          at hbegin
      · cases h
  | sync mode =>
      simp only [step] at h
      split at h
      · cases h
        exact inv_sync hs hC mode
      · cases h
  | add =>
      simp only [step] at h
      split at h
      next hphase hrest =>
        obtain ⟨-, heq⟩ := Option.ite_none_right_eq_some.mp h
        cases heq
        exact inv_add hs hphase hrest
      next => cases h
  | manager e =>
      obtain ⟨hmanages, hmap⟩ := Option.ite_none_right_eq_some.mp h
      obtain ⟨master, hmaster, rfl⟩ := Option.map_eq_some_iff.mp hmap
      exact inv_manage hs hids hmanages hmaster
  | transmit sent hears =>
      obtain ⟨master, hmaster, rfl⟩ := Option.map_eq_some_iff.mp h
      exact inv_transmit hs hmaster hears
  | receive i =>
      simp only [step] at h
      split at h
      next raw_data hi =>
        obtain ⟨master, hmaster, rfl⟩ := Option.map_eq_some_iff.mp h
        have hreceive :=
          inv_receive hs (List.mem_of_getElem? hi) hmaster
        exact inv_lose hreceive i
      next => cases h
  | process i hears =>
      simp only [step] at h
      split at h
      next k raw_data hi =>
        cases h
        exact inv_deliver hs (List.mem_of_getElem? hi) i hears
      next => cases h
  | lose i =>
      cases h
      exact inv_lose hs i
  | callback k input =>
      obtain ⟨-, heq⟩ := Option.ite_none_right_eq_some.mp h
      cases heq
      exact inv_callback hs k input

/-- What a run from the beginning of a call keeps, if all its calls begin when
nothing of earlier ones is left. -/
theorem inv_of_run {s s' : ClosedLoop n}
    (hids : Function.Injective fun k => (s.slaves k).uid) (hquiet : s.Quiet)
    (hagreed : ∀ k, s.agreed k = none) (call : ProcessorCall)
    {es : List (Event n)} (hC : Meets step Orderly (s.begin call) es)
    (hrun : run step (s.begin call) es = some s') :
    Inv (fun k => (s.slaves k).uid) s' := by
  apply run_invariant_of_meets (inv_step hids) _ hC hrun
  apply inv_begin hquiet
  intro k cfg_cmd h
  rw [hagreed k] at h
  cases h

/-- Two slaves that are not configured. -/
def twoIdle : ClosedLoop (forwarded echoPort {} twoSlaves ()).length where
  master := { call := .readCond 0 }
  slaves := twoDevices

/-- A frame is put into the queue and sent. -/
def sends {n : ℕ} (frame : Bytes) (hears : List (Fin n)) : List (Event n) :=
  List.replicate frame.length .add ++
    [.manager .request, .transmit true hears, .manager .txDone]

/-- A frame that both slaves process and one of them replies to. -/
def answered (frame : Bytes) :
    List (Event (forwarded echoPort {} twoSlaves ()).length) :=
  sends frame (List.finRange _) ++
    [.process 0 [none], .process 0 [none], .receive 0, .manager .rxTake,
      .manager (.drain 0)]

def configures (k : Fin (forwarded echoPort {} twoSlaves ()).length) :
    ProcessorCall :=
  .condCfg ((forwarded echoPort {} twoSlaves ()).get k) 0

def firstDevice : Fin (forwarded echoPort {} twoSlaves ()).length :=
  ⟨0, by decide⟩

/-- Nobody hears the first configuration when it is sent the first time. -/
def bothConfigured :
    List (Event (forwarded echoPort {} twoSlaves ()).length) :=
  sends (configures firstDevice).frame [] ++ .manager .rxTimeout ::
    answered (configures firstDevice).frame ++
    .begin (configures secondDevice) ::
    answered (configures secondDevice).frame

def bothAgreed : ClosedLoop (forwarded echoPort {} twoSlaves ()).length :=
  (run step (twoIdle.begin (configures firstDevice)) bothConfigured).get
    (by decide +kernel)

/-- A call that reads one slave with success uploads a report that this slave
could have made since the call began. -/
theorem uploaded_of_run {s s' : ClosedLoop n}
    (hids : Function.Injective fun k => (s.slaves k).uid) (hquiet : s.Quiet)
    (hagreed : ∀ k, s.agreed k = none) (call : ProcessorCall)
    {es : List (Event n)} (hC : Meets step Orderly (s.begin call) es)
    (hrun : run step (s.begin call) es = some s') {id : UInt32}
    (hrsp : s'.rsp = true) (hcall : s'.master.call = .readCond id)
    (hne : id ≠ 0xFFFFFFFF) (hret : s'.master.phase = .returned true) :
    ∃ k, (s.slaves k).uid = id ∧ ∃ device_status,
      ∃ conductionData ∈ s'.reportable k,
        s'.master.upload_frame =
          SlaveLink.uploadFrame id device_status conductionData := by
  have hinv := inv_of_run hids hquiet hagreed call hC hrun
  obtain ⟨k, hk, hupload⟩ := hinv.uploaded id hrsp hcall hne hret
  exact ⟨k, (hinv.uid_eq k).symm.trans hk, hupload⟩

/-- The slaves are started, the second one scans a row and is read. -/
def secondRead : List (Event (forwarded echoPort {} twoSlaves ()).length) :=
  bothConfigured ++ .sync 0 ::
    sends (Conduction.syncFrame 0) (List.finRange _) ++
    [.process 0 [], .process 0 [], .callback secondDevice fun _ _ => true,
      .begin (.readCond 2)] ++
    answered (ProcessorCall.readCond 2).frame

def secondUploaded :
    ClosedLoop (forwarded echoPort {} twoSlaves ()).length :=
  (run step (twoIdle.begin (configures firstDevice)) secondRead).get
    (by decide +kernel)

theorem uploaded_of_run_second :
    ∃ k, (twoIdle.slaves k).uid = 2 ∧ ∃ device_status,
      ∃ conductionData ∈ secondUploaded.reportable k,
        secondUploaded.master.upload_frame =
          SlaveLink.uploadFrame 2 device_status conductionData :=
  @uploaded_of_run _ twoIdle secondUploaded (by decide) (by decide)
    (fun _ => rfl) (configures firstDevice) secondRead (by decide +kernel)
    (Option.some_get _).symm 2 (by decide +kernel) (by decide +kernel)
    (by decide) (by decide +kernel)

end ClosedLoop

end WirelessHarness
