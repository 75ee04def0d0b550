import WirelessHarness.Master.SendFrame

/-!
# Acknowledging a configuration

A configuration counts as acknowledged when the comparison with the request
succeeds.  It looks at five fields, wherever they come from: the sender, the
status and the age of the reply are not compared, and a payload of a wrong size
leaves the fields of an earlier reply.
-/

namespace WirelessHarness

open CheckedRead Runs

namespace SendFrame

/-! ## Acknowledgements -/

/-- The packet of a `Slave2Master` frame with the id of `CondCfgMsg`. -/
def condCfgPacket? (raw_data : Bytes) : Option Slave2MasterPacket :=
  match wireFrame raw_data with
  | some (packet_id, packet_data) =>
      if packet_id = PacketType.slave2Master.toUInt8 then
        (wireAddressed packet_data).filter fun packet =>
          packet.message_id = Slave2MasterMessageID.condCfgMsg.toUInt8
      else none
  | none => none

/-- The target's positive acknowledgement of this request, in nine payload
bytes. -/
def OwnAck (cfg_cmd : CfgCmd) (timeSlot : UInt8) (frame : Bytes) : Prop :=
  ∃ packet, condCfgPacket? frame = some packet ∧
    packet.id = get_id cfg_cmd.id ∧ packet.payload.length = 9 ∧
    Slave2Master.CondCfgMsg.decode packet.payload =
      some
        { status := 0
          timeSlot := timeSlot
          interval := DeviceConfigProcessor.CONDUCTION_TEST_INTERVAL
          totalConductionNum := cfg_cmd.totalHarnessNum
          startConductionNum := cfg_cmd.startHarnessNum
          conductionNum := cfg_cmd.cond }

/-- The fields that are compared: those of nine payload bytes, or, with any
other number of bytes, those that an earlier reply left. -/
def compared (st : Statics) (payload : Bytes) : Slave2Master.CondCfgMsg :=
  (Slave2Master.CondCfgMsg.decode payload).getD st.s2mCondCfg

/-- The five numbers of the request. -/
structure SameNumbers (cfg_cmd : CfgCmd) (timeSlot : UInt8)
    (m : Slave2Master.CondCfgMsg) : Prop where
  timeSlot : m.timeSlot = timeSlot
  interval : m.interval = DeviceConfigProcessor.CONDUCTION_TEST_INTERVAL
  totalConductionNum : m.totalConductionNum = cfg_cmd.totalHarnessNum
  startConductionNum : m.startConductionNum = cfg_cmd.startHarnessNum
  conductionNum : m.conductionNum = cfg_cmd.cond

/-- The queue holds exactly one frame, a configuration reply, and the fields
compared have the numbers of the request. -/
def Holds (s : SendFrame) (cfg_cmd : CfgCmd) (timeSlot : UInt8)
    (packet : Slave2MasterPacket) : Prop :=
  condCfgPacket? s.rx_data_queue = some packet ∧
    SameNumbers cfg_cmd timeSlot (compared s.statics packet.payload)

/-- The reply in the queue was sent by another slave, has not nine payload
bytes, reports a failure, or is not a vector received since the request went
out. -/
def Stray (s : SendFrame) (cfg_cmd : CfgCmd) (packet : Slave2MasterPacket) :
    Prop :=
  packet.id ≠ get_id cfg_cmd.id ∨ packet.payload.length ≠ 9 ∨
    packet.payload[0]? ≠ some 0 ∨ s.rx_data_queue ∉ s.arrived

/-- The target's acknowledgement is among the vectors received since the
request went out. -/
def Acknowledged (s : SendFrame) (cfg_cmd : CfgCmd) (timeSlot : UInt8) :
    Prop :=
  ∃ frame ∈ s.arrived, OwnAck cfg_cmd timeSlot frame

/-- No drain finds a stray reply with the numbers of the request.  In a call
that has the acknowledgement from an earlier round, where other bytes stood
beside it in the queue, one does no harm. -/
def NoStray (cfg_cmd : CfgCmd) (timeSlot : UInt8) (s : SendFrame) :
    Event → Prop
  | .drain _ =>
      ∀ packet, s.Holds cfg_cmd timeSlot packet → s.Stray cfg_cmd packet →
        s.Acknowledged cfg_cmd timeSlot
  | _ => True

/-- The frames that reach `CondCfgMsg::deserialize`. -/
theorem select_condCfg_iff (raw_data payload : Bytes) :
    FrameParser.select .master 0 raw_data =
        some (.slave2Master .condCfgMsg, payload) ↔
      ∃ packet, condCfgPacket? raw_data = some packet ∧
        packet.payload = payload := by
  constructor
  · intro h
    obtain ⟨⟨packet_id, packet_data⟩, hwire, hselect⟩ :=
      Option.bind_eq_some_iff.mp h
    rcases FrameParser.selectPacket_master hselect with
      ⟨packet, id, rfl, hpacket, hid, hcls, rfl⟩ |
        ⟨_, _, -, -, -, hcls, -⟩ | ⟨_, _, -, -, -, hcls, -⟩
    · cases hcls
      have hmessage := Slave2MasterMessageID.ofUInt8?_eq_some_iff.mp hid
      refine ⟨packet, ?_, rfl⟩
      simp [condCfgPacket?, hwire, hpacket, Option.filter, hmessage]
    -- The other two packet types select their own classes.
    · cases hcls
    · cases hcls
  · rintro ⟨packet, hpacket, rfl⟩
    unfold condCfgPacket? at hpacket
    split at hpacket
    next packet_id packet_data hwire =>
      rw [Option.ite_none_right_eq_some, Option.filter_eq_some_iff]
        at hpacket
      obtain ⟨rfl, hpacket, hmessage⟩ := hpacket
      simp [FrameParser.select, hwire, FrameParser.selectPacket, hpacket,
        of_decide_eq_true hmessage]
    next => cases hpacket

section

variable (s : SendFrame) (cfg_cmd : CfgCmd) (timeSlot : UInt8)

instance (m : Slave2Master.CondCfgMsg) :
    Decidable (SameNumbers cfg_cmd timeSlot m) :=
  decidable_of_iff
    (m.timeSlot = timeSlot ∧
      m.interval = DeviceConfigProcessor.CONDUCTION_TEST_INTERVAL ∧
      m.totalConductionNum = cfg_cmd.totalHarnessNum ∧
      m.startConductionNum = cfg_cmd.startHarnessNum ∧
      m.conductionNum = cfg_cmd.cond)
    ⟨fun ⟨h₁, h₂, h₃, h₄, h₅⟩ => ⟨h₁, h₂, h₃, h₄, h₅⟩,
      fun ⟨h₁, h₂, h₃, h₄, h₅⟩ => ⟨h₁, h₂, h₃, h₄, h₅⟩⟩

instance (frame : Bytes) : Decidable (OwnAck cfg_cmd timeSlot frame) :=
  inferInstanceAs (Decidable (∃ packet ∈ condCfgPacket? frame, _ ∧ _))

instance : Decidable (s.Acknowledged cfg_cmd timeSlot) :=
  inferInstanceAs (Decidable (∃ frame ∈ s.arrived, _))

instance (packet : Slave2MasterPacket) :
    Decidable (s.Stray cfg_cmd packet) :=
  inferInstanceAs (Decidable (_ ∨ _))

instance : ∀ e, Decidable (NoStray cfg_cmd timeSlot s e)
  | .drain _ =>
      decidable_of_iff
        (∀ packet ∈ condCfgPacket? s.rx_data_queue,
          SameNumbers cfg_cmd timeSlot (compared s.statics packet.payload) →
            s.Stray cfg_cmd packet → s.Acknowledged cfg_cmd timeSlot)
        ⟨fun h packet hholds => h packet hholds.1 hholds.2,
          fun h packet hpacket hnumbers => h packet ⟨hpacket, hnumbers⟩⟩
  | .queueFull | .request | .txDone | .txTimeout | .rxTake | .rxTimeout
  | .transmit _ | .receive _ | .backend _ => .isTrue trivial

end

/-! ## Accepted replies -/

/-- Every payload of nine bytes has the fields. -/
theorem length_ne_of_decode_eq_none {payload : Bytes}
    (h : Slave2Master.CondCfgMsg.decode payload = none) :
    payload.length ≠ 9 := by
  rcases payload with
    _ | ⟨status, _ | ⟨timeSlot, _ | ⟨interval, _ | ⟨t₀, _ | ⟨t₁, _ | ⟨s₀,
      _ | ⟨s₁, _ | ⟨c₀, _ | ⟨c₁, _ | ⟨b, payload⟩⟩⟩⟩⟩⟩⟩⟩⟩⟩
  case cons.cons.cons.cons.cons.cons.cons.cons.cons.nil => cases h
  all_goals simp

/-- After `deserialize` the static fields are those that are compared. -/
theorem deserialize_condCfg (st : Statics) (payload : Bytes) :
    deserializeInto (.slave2Master .condCfgMsg) payload st =
      .ok (Message.ofFields (.slave2Master .condCfgMsg)
          (compared st payload),
        st.store (.slave2Master .condCfgMsg) (compared st payload)) := by
  cases hdec : Slave2Master.CondCfgMsg.decode payload with
  | none =>
      have hlen := length_ne_of_decode_eq_none hdec
      rw [compared, hdec, deserializeInto.eq_def]
      simp only [Slave2Master.CondCfgMsg.deserialize, if_pos hlen]
      rfl
  | some m =>
      rw [compared, hdec]
      exact @deserializeInto_of_decode (.slave2Master .condCfgMsg) _ m hdec
        st

/-- The comparison succeeds if the numbers are those of the request. -/
theorem rspParsed_condCfg_iff {st : Statics} {cfg_cmd : CfgCmd}
    {timeSlot : UInt8} (m : Slave2Master.CondCfgMsg)
    (hm2s : st.m2sCondCfg =
      DeviceConfigProcessor.condCfgMsg cfg_cmd timeSlot) :
    (Message.ofFields (.slave2Master .condCfgMsg) m).rspParsed
        (ProcessorCall.condCfg cfg_cmd timeSlot).expected
        (st.store (.slave2Master .condCfgMsg) m) = true ↔
      SameNumbers cfg_cmd timeSlot m := by
  have hprocess : (Message.ofFields (.slave2Master .condCfgMsg) m).rspParsed
        (ProcessorCall.condCfg cfg_cmd timeSlot).expected
        (st.store (.slave2Master .condCfgMsg) m) =
      Slave2Master.CondCfgMsg.process
        Slave2MasterMessageID.condCfgMsg.toUInt8
        { st with s2mCondCfg := m } := rfl
  rw [hprocess, Slave2Master.CondCfgMsg.process, decide_eq_true_iff, hm2s]
  constructor
  · rintro ⟨-, htimeSlot, hinterval, htotal, hstart, hnum⟩
    exact ⟨htimeSlot, hinterval, htotal, hstart, hnum⟩
  · rintro ⟨htimeSlot, hinterval, htotal, hstart, hnum⟩
    exact ⟨rfl, htimeSlot, hinterval, htotal, hstart, hnum⟩

/-- The request stays what it was, and nothing counts as received before it has
gone out. -/
structure AckInv (cfg_cmd : CfgCmd) (timeSlot : UInt8) (s : SendFrame) :
    Prop where
  expected : s.expected_rsp_msg_id =
    (ProcessorCall.condCfg cfg_cmd timeSlot).expected
  m2sCondCfg : s.statics.m2sCondCfg =
    DeviceConfigProcessor.condCfgMsg cfg_cmd timeSlot
  arrived : s.arrived ≠ [] → s.transmitted = true

/-- A configuration call accepts exactly the configuration replies with the
numbers of the request. -/
theorem accepts_condCfg_iff {s : SendFrame} {cfg_cmd : CfgCmd}
    {timeSlot : UInt8} (hs : AckInv cfg_cmd timeSlot s) :
    (∃ cls payload fields, s.Accepts cls payload fields) ↔
      ∃ packet, s.Holds cfg_cmd timeSlot packet := by
  constructor
  · rintro ⟨cls, payload, fields, hsel, hdes, hparsed⟩
    rw [hs.expected] at hparsed
    have hcls := Message.cls_of_rspParsed
      (by rw [Message.cls_ofFields]; exact class_ne_master2Slave hsel) hparsed
    rw [Message.cls_ofFields] at hcls
    subst hcls
    obtain ⟨packet, hpacket, rfl⟩ :=
      (select_condCfg_iff s.rx_data_queue payload).mp hsel
    refine ⟨packet, hpacket, ?_⟩
    obtain ⟨hmsg, hstore⟩ := Prod.mk.inj (Except.ok.inj
      ((deserialize_condCfg s.statics packet.payload).symm.trans hdes))
    rw [← hmsg, ← hstore] at hparsed
    exact (rspParsed_condCfg_iff _ hs.m2sCondCfg).mp hparsed
  · rintro ⟨packet, hpacket, hnumbers⟩
    have hsel := (select_condCfg_iff s.rx_data_queue packet.payload).mpr
      ⟨packet, hpacket, rfl⟩
    refine ⟨_, _, _, hsel, deserialize_condCfg s.statics packet.payload, ?_⟩
    rw [hs.expected]
    exact (rspParsed_condCfg_iff _ hs.m2sCondCfg).mpr hnumbers

/-- A reply with the numbers of the request ends the call, whoever sent it and
whenever it came; nothing else does. -/
theorem drain_returned_iff {s t : SendFrame} {cfg_cmd : CfgCmd}
    {timeSlot : UInt8} (hs : AckInv cfg_cmd timeSlot s)
    {device_status : UInt16} (h : s.drain device_status = some t) :
    t.phase = .returned true ↔ ∃ packet, s.Holds cfg_cmd timeSlot packet := by
  rw [← accepts_condCfg_iff hs]
  rcases drain_cases s device_status with
    ⟨cls, payload, fields, haccepts, heq⟩ |
      ⟨hnone, statics, upload_frame, -, heq⟩
  · cases heq.symm.trans h
    exact iff_of_true rfl ⟨cls, payload, fields, haccepts⟩
  · cases heq.symm.trans h
    refine iff_of_false ?_ hnone
    exact phase_retry_ne _

/-- A reply with the numbers of the request that is not stray is the target's
acknowledgement. -/
theorem acknowledged_of_not_stray {s : SendFrame} {cfg_cmd : CfgCmd}
    {timeSlot : UInt8} {packet : Slave2MasterPacket}
    (h : s.Holds cfg_cmd timeSlot packet)
    (hstray : ¬ s.Stray cfg_cmd packet) :
    s.Acknowledged cfg_cmd timeSlot := by
  obtain ⟨hpacket, hnumbers⟩ := h
  simp only [Stray, not_or, not_not] at hstray
  obtain ⟨hid, hlen, hstatus, harrived⟩ := hstray
  refine ⟨s.rx_data_queue, harrived, packet, hpacket, hid, hlen, ?_⟩
  match hpayload : packet.payload, hlen with
  | [status, timeSlot', interval, t₀, t₁, s₀, s₁, c₀, c₁], _ =>
      rw [hpayload] at hstatus hnumbers
      obtain rfl : status = 0 := Option.some.inj hstatus
      obtain ⟨rfl, hinterval, htotal, hstart, hnum⟩ := hnumbers
      rw [← hinterval, ← htotal, ← hstart, ← hnum]
      rfl

/-! ## Steps and runs -/

theorem ackInv_begin (s : SendFrame) (cfg_cmd : CfgCmd) (timeSlot : UInt8) :
    AckInv cfg_cmd timeSlot (s.begin (.condCfg cfg_cmd timeSlot)) where
  expected := rfl
  m2sCondCfg := rfl
  arrived h := absurd rfl h

theorem ackInv_step (cfg_cmd : CfgCmd) (timeSlot : UInt8) (s : SendFrame)
    (e : Event) (t : SendFrame) (hs : AckInv cfg_cmd timeSlot s)
    (h : step s e = some t) : AckInv cfg_cmd timeSlot t := by
  have hstep := stepped_of_step h
  constructor
  case expected => rw [hstep.expected_eq, hs.expected]
  case m2sCondCfg => rw [hstep.m2sCondCfg_eq, hs.m2sCondCfg]
  case arrived =>
    intro hne
    apply hstep.transmitted
    rcases hstep.arrived with heq | ⟨-, htransmitted, -⟩
    · rw [heq] at hne
      exact hs.arrived hne
    · exact htransmitted

theorem acknowledged_step {s t : SendFrame} {e : Event} {cfg_cmd : CfgCmd}
    {timeSlot : UInt8} (h : step s e = some t)
    (hs : s.Acknowledged cfg_cmd timeSlot) :
    t.Acknowledged cfg_cmd timeSlot := by
  obtain ⟨frame, hframe, hack⟩ := hs
  refine ⟨frame, ?_, hack⟩
  rcases (stepped_of_step h).arrived with heq | ⟨new, -, heq⟩ <;> rw [heq]
  · exact hframe
  · exact List.mem_append_left _ hframe

/-- A drain receives nothing. -/
theorem acknowledged_drain_iff {s t : SendFrame} {cfg_cmd : CfgCmd}
    {timeSlot : UInt8} {device_status : UInt16}
    (h : s.drain device_status = some t) :
    t.Acknowledged cfg_cmd timeSlot ↔ s.Acknowledged cfg_cmd timeSlot := by
  rcases drain_cases s device_status with
    ⟨cls, payload, fields, -, heq⟩ | ⟨-, statics, upload_frame, -, heq⟩
  · cases heq.symm.trans h
    rfl
  · cases heq.symm.trans h
    rfl

/-- A call that has returned `true` has transmitted its request and received
the target's acknowledgement. -/
def Confirmed (cfg_cmd : CfgCmd) (timeSlot : UInt8) (s : SendFrame) : Prop :=
  s.phase = .returned true →
    s.transmitted = true ∧ s.Acknowledged cfg_cmd timeSlot

theorem transmitted_of_acknowledged {s : SendFrame} {cfg_cmd : CfgCmd}
    {timeSlot : UInt8} (hs : AckInv cfg_cmd timeSlot s)
    (h : s.Acknowledged cfg_cmd timeSlot) : s.transmitted = true := by
  obtain ⟨frame, hframe, -⟩ := h
  exact hs.arrived (List.ne_nil_of_mem hframe)

theorem confirmed_step_iff (cfg_cmd : CfgCmd) (timeSlot : UInt8)
    (s : SendFrame) (e : Event) (t : SendFrame)
    (hs : AckInv cfg_cmd timeSlot s) (hP : Confirmed cfg_cmd timeSlot s)
    (h : step s e = some t) :
    Confirmed cfg_cmd timeSlot t ↔ NoStray cfg_cmd timeSlot s e := by
  have ht := ackInv_step cfg_cmd timeSlot s e t hs h
  by_cases hdrain : ∃ device_status, e = .drain device_status
  · obtain ⟨device_status, rfl⟩ := hdrain
    have hd := (Option.ite_none_right_eq_some.mp h).2
    constructor
    · intro hconfirmed packet hholds _
      have hret := (drain_returned_iff hs hd).mpr ⟨packet, hholds⟩
      exact (acknowledged_drain_iff hd).mp (hconfirmed hret).2
    · intro hno hret
      obtain ⟨packet, hholds⟩ := (drain_returned_iff hs hd).mp hret
      have hack : s.Acknowledged cfg_cmd timeSlot := by
        by_cases hstray : s.Stray cfg_cmd packet
        · exact hno packet hholds hstray
        · exact acknowledged_of_not_stray hholds hstray
      have hack' := (acknowledged_drain_iff hd).mpr hack
      exact ⟨transmitted_of_acknowledged ht hack', hack'⟩
  -- No other step returns `true`.
  · refine iff_of_true ?_ ?_
    · intro hret
      rcases (stepped_of_step h).returned hret with
        hold | ⟨device_status, heq, -⟩
      · have hack := acknowledged_step h (hP hold).2
        exact ⟨transmitted_of_acknowledged ht hack, hack⟩
      · exact absurd ⟨device_status, heq⟩ hdrain
    · cases e with
      | drain device_status => exact absurd ⟨device_status, rfl⟩ hdrain
      | _ => trivial

/-- Slave 7 is to measure two lines. -/
def twoLines : CfgCmd :=
  { CfgCmd.zero with id := memcpyId 7, cond := 2, totalHarnessNum := 2 }

/-- The reply of a slave to this command. -/
def twoLinesReply (source : UInt32) (status : UInt8) : Bytes :=
  FramePacker.packSlave2Master
    (PacketPacker.slave2MasterPack .condCfgMsg ⟨status, 0, 20, 2, 0, 2⟩ source)

/-- A late reply of slave 9 to another request ends the first round, the
acknowledgement of slave 7 the second one. -/
def lateThenOwn : List Event :=
  answered (FramePacker.packSlave2Master
      (PacketPacker.slave2MasterPack .condCfgMsg ⟨0, 1, 20, 5, 2, 3⟩ 9)) ++
    [.drain 0] ++ answered (twoLinesReply 7 0) ++ [.drain 0]

end SendFrame

end WirelessHarness
