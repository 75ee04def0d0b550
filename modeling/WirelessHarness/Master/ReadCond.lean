import WirelessHarness.Master.SlaveLink

/-!
# Reading conduction data

A reading call takes whatever single conduction-data frame it finds for the
answer: neither the sender nor the request is compared.  Its result is right
as long as no reply outlives the call it belongs to.
-/

namespace WirelessHarness

open CheckedRead Runs

/-! ## What the master parses -/

namespace Reply

/-- The frame is short enough for its 16-bit length field. -/
def Fits (reply : Reply) : Prop :=
  match reply.body with
  | .condData _ conductionData => conductionData.length + 9 < 65536
  | .condCfg _ => True

instance : DecidablePred Fits
  | ⟨_, _, .condData _ conductionData⟩ =>
      Nat.decLt (conductionData.length + 9) 65536
  | ⟨_, _, .condCfg _⟩ => .isTrue trivial

/-- The message a reply carries. -/
def message (reply : Reply) : DecodedMessage :=
  match reply.body with
  | .condData _ conductionData =>
      ⟨.slave2Backend .condDataMsg,
        ⟨UInt16.ofNat conductionData.length, conductionData⟩⟩
  | .condCfg msg => ⟨.slave2Master .condCfgMsg, msg⟩

theorem frame_ne_nil (reply : Reply) : reply.frame ≠ [] := by
  rcases reply with ⟨request, source, _ | _⟩ <;>
    simp [frame, FramePacker.packSlave2Backend, FramePacker.packSlave2Master,
      FramePacker.packData, FrameHeader.serialize]

/-- A frame is selected only if nothing follows it. -/
theorem select_frame_append (reply : Reply) (rest : Bytes) :
    FrameParser.select .master 0 (reply.frame ++ rest) =
      if rest = [] ∧ reply.Fits then
        some (reply.message.1,
          serializePayload reply.message.1 reply.message.2)
      else none := by
  rcases reply with ⟨request, source, ⟨device_status, conductionData⟩ | msg⟩
  · have hlength : (serializePayload (.slave2Backend .condDataMsg)
        ⟨UInt16.ofNat conductionData.length, conductionData⟩).length + 7 =
          conductionData.length + 9 := by
      simp [serializePayload, Slave2Backend.CondDataMsg.serialize]
      omega
    have hselect := FrameParser.select_packSlave2Backend 0 source
      device_status .condDataMsg (serializePayload (.slave2Backend .condDataMsg)
        ⟨UInt16.ofNat conductionData.length, conductionData⟩) rest
    rw [hlength] at hselect
    exact hselect
  · have hlength : (serializePayload (.slave2Master .condCfgMsg)
        msg).length + 5 < 65536 := by
      simp [serializePayload, Slave2Master.CondCfgMsg.serialize]
    have hselect := FrameParser.select_packSlave2Master 0 source .condCfgMsg
      (serializePayload (.slave2Master .condCfgMsg) msg) rest
    simp only [hlength] at hselect
    exact hselect

/-- Replies that arrive together are not taken apart. -/
theorem select_flatMap_frame (replies : List Reply) :
    FrameParser.select .master 0 (replies.flatMap frame) =
      match replies with
      | [reply] =>
          if reply.Fits then
            some (reply.message.1,
              serializePayload reply.message.1 reply.message.2)
          else none
      | _ => none := by
  rcases replies with _ | ⟨reply, _ | ⟨other, rest⟩⟩
  · rfl
  · rw [List.flatMap_cons, select_frame_append]
    simp
  · have hne : (other :: rest).flatMap frame ≠ [] := by
      simp [frame_ne_nil]
    rw [List.flatMap_cons, select_frame_append, if_neg fun h => hne h.1]

theorem decode_message {reply : Reply} (hfits : reply.Fits) :
    decode reply.message.1
        (serializePayload reply.message.1 reply.message.2) =
      some reply.message.2 := by
  rcases reply with ⟨request, source, ⟨device_status, conductionData⟩ | msg⟩
  · have hlength : conductionData.length =
        (UInt16.ofNat conductionData.length).toNat :=
      (UInt16.toNat_ofNat_of_lt' (by
        simp only [Fits] at hfits
        simp only [UInt16.size]
        omega)).symm
    simp only [message, decode, serializePayload,
      Slave2Backend.CondDataMsg.serialize, ByteOrder.bytes16,
      List.nil_append, List.cons_append, Slave2Backend.CondDataMsg.decode,
      ByteOrder.word16_bytes]
    exact if_pos hlength
  · simp only [message, decode, serializePayload,
      Slave2Master.CondCfgMsg.serialize, ByteOrder.bytes16, List.nil_append,
      List.cons_append, Slave2Master.CondCfgMsg.decode,
      ByteOrder.word16_bytes]
    rfl

/-- A lone reply is parsed as the message it carries; anything else is
refused. -/
theorem parse_flatMap_frame (replies : List Reply) (st : Statics) :
    FrameParser.parse .master 0 (replies.flatMap frame) st =
      .ok (match replies with
      | [reply] =>
          if reply.Fits then
            (some (Message.ofFields reply.message.1 reply.message.2),
              st.store reply.message.1 reply.message.2)
          else (none, st)
      | _ => (none, st)) := by
  rw [FrameParser.parse_eq, select_flatMap_frame]
  rcases replies with _ | ⟨reply, _ | ⟨_, _⟩⟩
  · rfl
  · by_cases hfits : reply.Fits
    · simp only [if_pos hfits, FrameParser.constructSelected,
        FrameParser.construct,
        deserializeInto_of_decode (decode_message hfits)]
      rfl
    · simp only [if_neg hfits]
      rfl
  · rfl

end Reply

namespace SlaveLink

/-! ## What a drain does -/

/-- A lone reply is processed as the message it carries. -/
theorem rspProcess_of_lone {s : SlaveLink} {reply : Reply}
    (hqueue : s.rx_data_queue = [reply]) (hfits : reply.Fits)
    (call : ProcessorCall) (device_status : UInt16) :
    s.rspProcess call device_status =
      let t := { s with
        statics := s.statics.store reply.message.1 reply.message.2
        rx_data_queue := [] }.processRspData call device_status
      some ((Message.ofFields reply.message.1 reply.message.2).rspParsed
        t.expected_rsp_msg_id t.statics, t) := by
  rw [rspProcess, Reply.parse_flatMap_frame, hqueue]
  simp only [if_pos hfits]

/-- Other contents of the queue are dropped. -/
theorem rspProcess_of_refused {s : SlaveLink}
    (h : ¬ ∃ reply : Reply, s.rx_data_queue = [reply] ∧ reply.Fits)
    (call : ProcessorCall) (device_status : UInt16) :
    s.rspProcess call device_status =
      some (false, { s with rx_data_queue := [] }) := by
  rw [rspProcess, Reply.parse_flatMap_frame]
  rcases hqueue : s.rx_data_queue with _ | ⟨reply, _ | ⟨_, _⟩⟩
  · rfl
  · have hfits : ¬ reply.Fits := fun hfits => h ⟨reply, hqueue, hfits⟩
    simp only [if_neg hfits]
  · rfl

/-- What is the same before and after a drain. -/
structure Drained (s t : SlaveLink) : Prop where
  air_eq : t.air = s.air
  queue_eq : t.rx_data_queue = []
  requests_eq : t.requests = s.requests
  number_eq : t.number = s.number
  expected_eq : t.expected_rsp_msg_id = s.expected_rsp_msg_id
  deviceID_eq : t.deviceID = s.deviceID

theorem drained_of_rspProcess {s t : SlaveLink} {call : ProcessorCall}
    {device_status : UInt16} {rsp_parsed : Bool}
    (h : s.rspProcess call device_status = some (rsp_parsed, t)) :
    Drained s t ∧ t.results = s.results := by
  by_cases hlone : ∃ reply : Reply, s.rx_data_queue = [reply] ∧ reply.Fits
  · obtain ⟨reply, hqueue, hfits⟩ := hlone
    rw [rspProcess_of_lone hqueue hfits] at h
    cases h
    cases call <;> exact ⟨⟨rfl, rfl, rfl, rfl, rfl, rfl⟩, rfl⟩
  · rw [rspProcess_of_refused hlone] at h
    cases h
    exact ⟨⟨rfl, rfl, rfl, rfl, rfl, rfl⟩, rfl⟩

theorem phase_retry (s : SlaveLink) (call : ProcessorCall) :
    (s.retry call).phase = .idle ∨ (s.retry call).phase = .sending call := by
  simp only [retry]
  split
  · exact .inr rfl
  · exact .inl rfl

theorem call?_retry {s : SlaveLink} {call call' : ProcessorCall}
    (h : (s.retry call).phase.call? = some call') : call = call' := by
  rcases phase_retry s call with hphase | hphase <;> rw [hphase] at h
  · cases h
  · exact Option.some.inj h

/-- The call ends or sends again; only a successful end is logged. -/
theorem drained_of_drain {s t : SlaveLink} {call : ProcessorCall}
    {device_status : UInt16} (h : s.drain call device_status = some t) :
    Drained s t ∧ (t.phase = .idle ∨ t.phase = .sending call) ∧
      (t.results = s.results ∨
        ∃ r : CallResult, t.results = s.results ++ [r] ∧ r.call = call) := by
  obtain ⟨⟨rsp_parsed, t₀⟩, hrsp, rfl⟩ := Option.map_eq_some_iff.mp h
  obtain ⟨⟨hair, hqueue, hrequests, hnumber, hexpected, hdeviceID⟩,
    hresults⟩ := drained_of_rspProcess hrsp
  cases rsp_parsed with
  | true =>
      refine ⟨⟨hair, hqueue, hrequests, hnumber, hexpected, hdeviceID⟩,
        .inl rfl, .inr
          ⟨⟨t₀.number, call, s.rx_data_queue, t₀.upload_frame⟩, ?_, rfl⟩⟩
      exact congrArg (· ++ _) hresults
  | false =>
      exact ⟨⟨hair, hqueue, hrequests, hnumber, hexpected, hdeviceID⟩,
        phase_retry t₀ call, .inl hresults⟩

/-- The queue holds one conduction-data reply and nothing else. -/
def Holds (s : SlaveLink) (reply : Reply) (conductionData : Bytes) : Prop :=
  s.rx_data_queue = [reply] ∧ reply.Fits ∧
    ∃ device_status, reply.body = .condData device_status conductionData

/-- The frame uploaded for a slave. -/
def uploadFrame (id : UInt32) (device_status : UInt16)
    (conductionData : Bytes) : Bytes :=
  FramePacker.packSlave2Backend
    (PacketPacker.slave2BackendPack .condDataMsg
      ⟨UInt16.ofNat conductionData.length, conductionData⟩ id device_status)

/-- A lone conduction-data reply is taken for the answer. -/
theorem drain_of_holds {s t : SlaveLink} {id : UInt32}
    {device_status : UInt16} {reply : Reply} {conductionData : Bytes}
    (hexpected : s.expected_rsp_msg_id = (ProcessorCall.readCond id).expected)
    (hholds : s.Holds reply conductionData)
    (h : s.drain (.readCond id) device_status = some t) :
    t.results = s.results ++ [CallResult.mk s.number (.readCond id) [reply]
      (uploadFrame s.deviceID device_status conductionData)] := by
  obtain ⟨hqueue, hfits, status, hbody⟩ := hholds
  obtain ⟨request, source, body⟩ := reply
  subst hbody
  obtain ⟨⟨rsp_parsed, t₀⟩, hrsp, rfl⟩ := Option.map_eq_some_iff.mp h
  rw [rspProcess_of_lone hqueue hfits] at hrsp
  cases hrsp
  simp [processRspData, Reply.message, Message.rspParsed, Message.ofFields,
    Slave2Backend.CondDataMsg.process, hexpected, ProcessorCall.expected,
    hqueue, uploadFrame, Statics.store]

/-- Nothing else is. -/
theorem drain_of_not_holds {s t : SlaveLink} {id : UInt32}
    {device_status : UInt16}
    (hexpected : s.expected_rsp_msg_id = (ProcessorCall.readCond id).expected)
    (hholds : ¬ ∃ reply conductionData, s.Holds reply conductionData)
    (h : s.drain (.readCond id) device_status = some t) :
    t.results = s.results := by
  obtain ⟨⟨rsp_parsed, t₀⟩, hrsp, rfl⟩ := Option.map_eq_some_iff.mp h
  have hresults := (drained_of_rspProcess hrsp).2
  have hfalse : rsp_parsed = false := by
    by_cases hlone : ∃ reply : Reply, s.rx_data_queue = [reply] ∧ reply.Fits
    · obtain ⟨⟨request, source, ⟨status, conductionData⟩ | msg⟩, hqueue,
        hfits⟩ := hlone
      · exact absurd ⟨_, _, hqueue, hfits, status, rfl⟩ hholds
      · rw [rspProcess_of_lone hqueue hfits] at hrsp
        cases hrsp
        -- A configuration reply compares its own id with the expected one.
        simp [processRspData, Reply.message, Message.rspParsed,
          Message.ofFields, Slave2Master.CondCfgMsg.process, hexpected,
          ProcessorCall.expected, Slave2BackendMessageID.toUInt8,
          Slave2MasterMessageID.toUInt8]
    · rw [rspProcess_of_refused hlone] at hrsp
      cases hrsp
      rfl
  subst hfalse
  exact hresults

/-! ## What a step does -/

/-- Everything a step can do, the start of a call apart. -/
structure Stepped (s : SlaveLink) (e : Event) (t : SlaveLink) : Prop where
  number_eq : t.number = s.number
  expected_eq : t.expected_rsp_msg_id = s.expected_rsp_msg_id
  deviceID_eq : t.deviceID = s.deviceID
  call : ∀ call, t.phase.call? = some call → s.phase.call? = some call
  requests_subset : s.requests ⊆ t.requests
  requests : ∀ request ∈ t.requests, request ∈ s.requests ∨
    request.number = s.number ∧ s.phase.call? = some request.call
  air : ∀ reply ∈ t.air, reply ∈ s.air ∨
    reply.request ∈ s.requests ∧ reply.Answers
  queue : ∀ reply ∈ t.rx_data_queue, reply ∈ s.rx_data_queue ∨
    ∃ k, e = .deliver k ∧ s.air[k]? = some reply
  results : (∀ device_status, e ≠ .drain device_status) →
    t.results = s.results

/-- The master moves on in `send_frame`, for the same call. -/
theorem stepped_phase {s : SlaveLink} (e : Event) {phase : SendPhase}
    {send_cnd : ℕ} {rx_done_sem : Bool}
    (hcall : ∀ call, phase.call? = some call → s.phase.call? = some call) :
    Stepped s e { s with phase, send_cnd, rx_done_sem } where
  number_eq := rfl
  expected_eq := rfl
  deviceID_eq := rfl
  call := hcall
  requests_subset := List.Subset.refl _
  requests := fun _ => .inl
  air := fun _ => .inl
  queue := fun _ => .inl
  results := fun _ => rfl

/-- The slaves and the link change what is on its way. -/
theorem stepped_link {s : SlaveLink} {e : Event}
    {air rx_data_queue : List Reply} {rx_done_sem : Bool}
    (hair : ∀ reply ∈ air, reply ∈ s.air ∨
      reply.request ∈ s.requests ∧ reply.Answers)
    (hqueue : ∀ reply ∈ rx_data_queue, reply ∈ s.rx_data_queue ∨
      ∃ k, e = .deliver k ∧ s.air[k]? = some reply) :
    Stepped s e { s with air, rx_data_queue, rx_done_sem } where
  number_eq := rfl
  expected_eq := rfl
  deviceID_eq := rfl
  call := fun _ => id
  requests_subset := List.Subset.refl _
  requests := fun _ => .inl
  air := hair
  queue := hqueue
  results := fun _ => rfl

theorem stepped_of_drain {s t : SlaveLink} {call : ProcessorCall}
    {device_status : UInt16} (hphase : s.phase = .draining call)
    (h : s.drain call device_status = some t) :
    Stepped s (.drain device_status) t := by
  obtain ⟨hdrained, hnext, -⟩ := drained_of_drain h
  constructor
  case number_eq => exact hdrained.number_eq
  case expected_eq => exact hdrained.expected_eq
  case deviceID_eq => exact hdrained.deviceID_eq
  case call =>
    intro call' hcall'
    rw [hphase]
    rcases hnext with hnext | hnext
    · rw [hnext] at hcall'
      cases hcall'
    · rw [hnext] at hcall'
      exact hcall'
  case requests_subset =>
    rw [hdrained.requests_eq]
    exact List.Subset.refl _
  case requests =>
    intro request hrequest
    rw [hdrained.requests_eq] at hrequest
    exact .inl hrequest
  case air =>
    intro reply hreply
    rw [hdrained.air_eq] at hreply
    exact .inl hreply
  case queue =>
    intro reply hreply
    rw [hdrained.queue_eq] at hreply
    cases hreply
  case results =>
    intro hne
    exact absurd rfl (hne device_status)

theorem stepped_of_send {s : SlaveLink} {call : ProcessorCall}
    (hphase : s.phase = .sending call) (done : Bool) :
    Stepped s (.send done)
      { s with
        requests := s.requests ++ [Request.mk s.number call]
        phase := if done then .waiting call else .idle } := by
  have hcall : s.phase.call? = some call := by
    rw [hphase]
    rfl
  constructor
  case number_eq => rfl
  case expected_eq => rfl
  case deviceID_eq => rfl
  case call =>
    intro call' hcall'
    cases done with
    | true => exact hcall.trans hcall'
    | false => cases hcall'
  case requests_subset => exact List.subset_append_left _ _
  case requests =>
    intro request hrequest
    rcases List.mem_append.mp hrequest with hold | hnew
    · exact .inl hold
    · rw [List.mem_singleton.mp hnew]
      exact .inr ⟨rfl, hcall⟩
  case air => exact fun _ => .inl
  case queue => exact fun _ => .inl
  case results => exact fun _ => rfl

theorem stepped_of_step {s t : SlaveLink} {e : Event} (h : step s e = some t)
    (he : ∀ call, e ≠ .begin call) : Stepped s e t := by
  cases e with
  | begin call => exact absurd rfl (he call)
  | send done =>
      simp only [step] at h
      split at h
      next call hphase =>
        cases h
        exact stepped_of_send hphase done
      · cases h
  | timeout =>
      simp only [step] at h
      split at h
      next call hphase =>
        split at h
        · cases h
        · cases h
          apply stepped_phase
          intro call' hcall'
          rw [hphase]
          exact congrArg some (call?_retry hcall')
      · cases h
  | take =>
      simp only [step] at h
      split at h
      next call hphase =>
        split at h
        · cases h
          apply stepped_phase
          intro call' hcall'
          rw [hphase]
          exact hcall'
        · cases h
      · cases h
  | drain device_status =>
      simp only [step] at h
      split at h
      next call hphase => exact stepped_of_drain hphase h
      · cases h
  | answer reply =>
      simp only [step, Option.ite_none_right_eq_some] at h
      obtain ⟨hanswers, heq⟩ := h
      cases heq
      apply stepped_link
      · intro other hother
        rcases List.mem_append.mp hother with hold | hnew
        · exact .inl hold
        · rw [List.mem_singleton.mp hnew]
          exact .inr hanswers
      · exact fun _ => .inl
  | duplicate k =>
      obtain ⟨reply, hk, rfl⟩ := Option.map_eq_some_iff.mp h
      apply stepped_link
      · intro other hother
        rcases List.mem_append.mp hother with hold | hnew
        · exact .inl hold
        · rw [List.mem_singleton.mp hnew]
          exact .inl (List.mem_of_getElem? hk)
      · exact fun _ => .inl
  | lose k =>
      obtain ⟨reply, hk, rfl⟩ := Option.map_eq_some_iff.mp h
      apply stepped_link
      · intro other hother
        exact .inl (List.mem_of_mem_eraseIdx hother)
      · exact fun _ => .inl
  | deliver k =>
      obtain ⟨reply, hk, rfl⟩ := Option.map_eq_some_iff.mp h
      apply stepped_link
      · intro other hother
        exact .inl (List.mem_of_mem_eraseIdx hother)
      · intro other hother
        rcases List.mem_append.mp hother with hold | hnew
        · exact .inl hold
        · rw [List.mem_singleton.mp hnew]
          exact .inr ⟨k, rfl, hk⟩

theorem eq_begin_or (e : Event) :
    (∃ call, e = .begin call) ∨ ∀ call, e ≠ .begin call := by
  cases e <;> simp

/-- A call starts from the idle phase. -/
theorem step_begin {s t : SlaveLink} {call : ProcessorCall}
    (h : step s (.begin call) = some t) : s.begin call = t := by
  simp only [step] at h
  split at h
  · exact Option.some.inj h
  · cases h

/-! ## Invariant -/

/-- Every reply answers a request that was sent, and while a call runs the
requests under its number are its own. -/
structure Inv (s : SlaveLink) : Prop where
  answered : ∀ reply, reply ∈ s.air ∨ reply ∈ s.rx_data_queue →
    reply.request ∈ s.requests ∧ reply.Answers
  numbered : ∀ request ∈ s.requests, request.number ≤ s.number
  own : ∀ call, s.phase.call? = some call → ∀ request ∈ s.requests,
    request.number = s.number → request.call = call
  expected : ∀ call, s.phase.call? = some call →
    s.expected_rsp_msg_id = call.expected
  deviceID : ∀ id, s.phase.call? = some (.readCond id) → s.deviceID = id

theorem inv_boot {s : SlaveLink} (hs : Boot s) : Inv s := by
  rw [hs]
  constructor
  case answered => simp
  case numbered => simp
  case own => simp
  case expected => simp [SendPhase.call?]
  case deviceID => simp [SendPhase.call?]

/-- No request carries the number of a call that starts. -/
theorem inv_begin {s : SlaveLink} (hs : Inv s) (call : ProcessorCall) :
    Inv (s.begin call) := by
  have hlt : ∀ request ∈ s.requests, request.number < s.number + 1 := by
    intro request hrequest
    exact Nat.lt_succ_of_le (hs.numbered request hrequest)
  constructor
  case answered =>
    intro reply hreply
    rw [air_begin, rx_data_queue_begin] at hreply
    rw [requests_begin]
    exact hs.answered reply hreply
  case numbered =>
    intro request hrequest
    rw [requests_begin] at hrequest
    rw [number_begin]
    exact (hlt request hrequest).le
  case own =>
    intro call' _ request hrequest heq
    rw [requests_begin] at hrequest
    rw [number_begin] at heq
    exact absurd heq (hlt request hrequest).ne
  case expected =>
    intro call' hcall'
    rw [call?_begin] at hcall'
    obtain rfl : call = call' := Option.some.inj hcall'
    cases call <;> rfl
  case deviceID =>
    intro id hcall'
    rw [call?_begin] at hcall'
    obtain rfl : call = .readCond id := Option.some.inj hcall'
    rfl

theorem inv_step (s : SlaveLink) (e : Event) (t : SlaveLink) (hs : Inv s)
    (h : step s e = some t) : Inv t := by
  obtain ⟨call, rfl⟩ | he := eq_begin_or e
  · rw [← step_begin h]
    exact inv_begin hs call
  have hstep := stepped_of_step h he
  constructor
  case answered =>
    intro reply hreply
    have hcases : (reply ∈ s.air ∨ reply ∈ s.rx_data_queue) ∨
        reply.request ∈ s.requests ∧ reply.Answers := by
      rcases hreply with hair | hqueue
      · rcases hstep.air reply hair with hold | hnew
        · exact .inl (.inl hold)
        · exact .inr hnew
      · rcases hstep.queue reply hqueue with hold | ⟨k, -, hk⟩
        · exact .inl (.inr hold)
        · exact .inl (.inl (List.mem_of_getElem? hk))
    have hanswered : reply.request ∈ s.requests ∧ reply.Answers := by
      rcases hcases with hold | hnew
      · exact hs.answered reply hold
      · exact hnew
    obtain ⟨hrequest, hanswers⟩ := hanswered
    exact ⟨hstep.requests_subset hrequest, hanswers⟩
  case numbered =>
    intro request hrequest
    rw [hstep.number_eq]
    rcases hstep.requests request hrequest with hold | ⟨hnumber, -⟩
    · exact hs.numbered request hold
    · exact hnumber.le
  case own =>
    intro call hcall request hrequest hnumber
    rw [hstep.number_eq] at hnumber
    have hcall' := hstep.call call hcall
    rcases hstep.requests request hrequest with hold | ⟨-, hnew⟩
    · exact hs.own call hcall' request hold hnumber
    · exact Option.some.inj (hnew.symm.trans hcall')
  case expected =>
    intro call hcall
    rw [hstep.expected_eq]
    exact hs.expected call (hstep.call call hcall)
  case deviceID =>
    intro id hcall
    rw [hstep.deviceID_eq]
    exact hs.deviceID id (hstep.call _ hcall)

/-! ## Truthful reads -/

/-- A successful read consumed one reply, sent by the slave asked and for a
request of the call, and uploads that reply's data under the slave's id. -/
def Truthful (r : CallResult) : Prop :=
  ∀ id, r.call = .readCond id → ∃ reply, r.consumed = [reply] ∧
    reply.source = id ∧ reply.request = ⟨r.number, .readCond id⟩ ∧
    ∃ status device_status conductionData,
      reply.body = .condData status conductionData ∧
        r.upload_frame = uploadFrame id device_status conductionData

/-- The queue holds a lone conduction-data reply that outlived its call, or
one of several answers to a broadcast request. -/
def Stray (s : SlaveLink) (id : UInt32) : Prop :=
  ∃ reply conductionData, s.Holds reply conductionData ∧
    (reply.request.number ≠ s.number ∨
      id = 0xFFFFFFFF ∧ reply.source ≠ 0xFFFFFFFF)

/-- No reading call drains a stray reply. -/
def NoStray (s : SlaveLink) : Event → Prop
  | .drain _ => ∀ id, s.phase = .draining (.readCond id) → ¬ s.Stray id
  | _ => True

/-- A slave lets a reading request through if it is meant for it. -/
theorem source_of_answers {reply : Reply} {id : UInt32}
    (h : reply.Answers) (hcall : reply.request.call = .readCond id) :
    id = 0xFFFFFFFF ∨ id = reply.source := by
  have hsome := h.1
  have hselect := FrameParser.select_packMaster2Slave reply.source id
    .readCondDataMsg [0] (by simp)
  by_contra hne
  rw [if_neg hne] at hselect
  have hnone : FrameParser.select .slave reply.source
      (ProcessorCall.readCond id).frame = none := hselect
  rw [hcall, hnone] at hsome
  cases hsome

/-- The result of a drain that finds a lone conduction-data reply. -/
theorem truthful_mk_iff {s : SlaveLink} {id : UInt32} {reply : Reply}
    {device_status : UInt16} {conductionData : Bytes} (hs : Inv s)
    (hphase : s.phase = .draining (.readCond id))
    (hholds : s.Holds reply conductionData) :
    Truthful (CallResult.mk s.number (.readCond id) [reply]
        (uploadFrame id device_status conductionData)) ↔ ¬ s.Stray id := by
  have hqueue := hholds.1
  constructor
  · rintro htruthful ⟨other, -, ⟨hother, -⟩, hstray⟩
    obtain ⟨reply', hconsumed, hsource, hrequest, -⟩ := htruthful id rfl
    obtain rfl : reply = reply' := List.singleton_inj.mp hconsumed
    obtain rfl : reply = other :=
      List.singleton_inj.mp (hqueue.symm.trans hother)
    rcases hstray with hnumber | ⟨rfl, hne⟩
    · exact hnumber (congrArg Request.number hrequest)
    · exact hne hsource
  · rintro hstray _ ⟨⟩
    have hnumber : reply.request.number = s.number := by
      by_contra hne
      exact hstray ⟨reply, conductionData, hholds, .inl hne⟩
    have hbroadcast : id = 0xFFFFFFFF → reply.source = 0xFFFFFFFF := by
      intro hid
      by_contra hne
      exact hstray ⟨reply, conductionData, hholds, .inr ⟨hid, hne⟩⟩
    obtain ⟨hrequest, hanswers⟩ :=
      hs.answered reply (.inr (by simp [hqueue]))
    have hcall : reply.request.call = .readCond id :=
      hs.own (.readCond id) (by rw [hphase]; rfl) _ hrequest hnumber
    have hsource : reply.source = id := by
      rcases source_of_answers hanswers hcall with hid | hid
      · rw [hid]
        exact hbroadcast hid
      · exact hid.symm
    obtain ⟨-, -, status, hbody⟩ := hholds
    refine ⟨reply, rfl, hsource, ?_, status, device_status, conductionData,
      hbody, rfl⟩
    rw [← hnumber, ← hcall]

theorem truthful_drain {s t : SlaveLink} {id : UInt32}
    {device_status : UInt16} (hs : Inv s)
    (hphase : s.phase = .draining (.readCond id))
    (h : s.drain (.readCond id) device_status = some t) :
    (∀ r ∈ t.results, Truthful r) ↔
      (∀ r ∈ s.results, Truthful r) ∧ ¬ s.Stray id := by
  have hcall : s.phase.call? = some (.readCond id) := by
    rw [hphase]
    rfl
  have hexpected := hs.expected _ hcall
  by_cases hholds : ∃ reply conductionData, s.Holds reply conductionData
  · obtain ⟨reply, conductionData, hholds⟩ := hholds
    rw [drain_of_holds hexpected hholds h, hs.deviceID id hcall,
      List.forall_mem_append, List.forall_mem_singleton,
      truthful_mk_iff hs hphase hholds]
  · rw [drain_of_not_holds hexpected hholds h]
    refine (and_iff_left ?_).symm
    rintro ⟨reply, conductionData, hstray, -⟩
    exact hholds ⟨reply, conductionData, hstray⟩

theorem truthful_step_drain {s t : SlaveLink} {device_status : UInt16}
    (hs : Inv s) (h : step s (.drain device_status) = some t) :
    (∀ r ∈ t.results, Truthful r) ↔
      (∀ r ∈ s.results, Truthful r) ∧ NoStray s (.drain device_status) := by
  simp only [step] at h
  split at h
  next call hphase =>
    cases call with
    | readCond id =>
        have hstray : NoStray s (.drain device_status) ↔ ¬ s.Stray id := by
          constructor
          · intro hno
            exact hno id hphase
          · intro hno id' hphase'
            rw [hphase] at hphase'
            cases hphase'
            exact hno
        rw [truthful_drain hs hphase h, hstray]
    | condCfg cfg_cmd timeSlot =>
        have hno : NoStray s (.drain device_status) := by
          intro id hid
          rw [hphase] at hid
          cases hid
        rw [and_iff_left hno]
        obtain ⟨-, -, hresults | ⟨r, hresults, hcall⟩⟩ := drained_of_drain h
        · rw [hresults]
        · have hr : Truthful r := by
            intro id hid
            rw [hcall] at hid
            cases hid
          rw [hresults, List.forall_mem_append, List.forall_mem_singleton]
          exact and_iff_left hr
  · cases h

/-- Only a drain can return a result. -/
theorem results_of_ne_drain {s t : SlaveLink} {e : Event}
    (h : step s e = some t) (he : ∀ device_status, e ≠ .drain device_status) :
    t.results = s.results := by
  obtain ⟨call, rfl⟩ | hbegin := eq_begin_or e
  · rw [← step_begin h, results_begin]
  · exact (stepped_of_step h hbegin).results he

theorem truthful_step (s : SlaveLink) (e : Event) (t : SlaveLink)
    (hs : Inv s) (h : step s e = some t) :
    Inv t ∧ ((∀ r ∈ t.results, Truthful r) ↔
      (∀ r ∈ s.results, Truthful r) ∧ NoStray s e) := by
  refine ⟨inv_step s e t hs h, ?_⟩
  by_cases hdrain : ∃ device_status, e = .drain device_status
  · obtain ⟨device_status, rfl⟩ := hdrain
    exact truthful_step_drain hs h
  · have hne : ∀ device_status, e ≠ .drain device_status := by
      intro device_status heq
      exact hdrain ⟨device_status, heq⟩
    have hno : NoStray s e := by
      cases e with
      | drain device_status => exact absurd rfl (hne device_status)
      | _ => trivial
    rw [results_of_ne_drain h hne]
    exact (and_iff_left hno).symm

/-- Reading results are right in exactly the runs in which no reading call
drains a stray reply. -/
theorem truthful_iff_noStray {s s' : SlaveLink} {es : List Event} (hs : Boot s)
    (hrun : run step s es = some s') :
    (∀ r ∈ s'.results, Truthful r) ↔ Meets step NoStray s es := by
  rw [forall_log_iff_meets results truthful_step (inv_boot hs) hrun]
  have hnil : s.results = [] := by rw [hs]
  simp [hnil]

/-- A slave whose answer comes in time is read. -/
def answeredRead : List Event :=
  [.begin (.readCond 1), .send true,
    .answer ⟨⟨1, .readCond 1⟩, 1, .condData 0 [0xAA]⟩, .deliver 0, .take,
    .drain 0]

theorem truthful_answeredRead :
    ∃ s', run step { deviceID := 0 } answeredRead = some s' ∧
      s'.results.map CallResult.call = [.readCond 1] ∧
      ((∀ r ∈ s'.results, Truthful r) ↔
        Meets step NoStray { deviceID := 0 } answeredRead) :=
  ⟨_, rfl, by decide, truthful_iff_noStray rfl rfl⟩

/-- Four waits for slave 1 time out; its late reply is delivered while slave 2
is read. -/
def lateReply : List Event :=
  [.begin (.readCond 1), .send true, .timeout, .send true, .timeout,
    .send true, .timeout, .send true,
    .answer ⟨⟨1, .readCond 1⟩, 1, .condData 0 [0xAA]⟩, .timeout,
    .begin (.readCond 2), .send true, .deliver 0, .take, .drain 0]

theorem not_truthful_lateReply :
    ∃ s', run step { deviceID := 0 } lateReply = some s' ∧
      s'.results.map CallResult.call = [.readCond 2] ∧
      ¬ ∀ r ∈ s'.results, Truthful r := by
  refine ⟨_, rfl, by decide, fun h => ?_⟩
  obtain ⟨reply, hconsumed, hsource, -⟩ :=
    h _ List.mem_cons_self 2 rfl
  cases hconsumed
  revert hsource
  decide

/-! ## A link without strays -/

/-- Replies are delivered to the call that asked for them, and a call starts
with an empty queue and does not read every slave at once. -/
def Timely (s : SlaveLink) : Event → Prop
  | .begin call => s.rx_data_queue = [] ∧ call ≠ .readCond 0xFFFFFFFF
  | .deliver k => ∀ reply, s.air[k]? = some reply →
      reply.request.number = s.number
  | _ => True

structure TimelyInv (s : SlaveLink) : Prop where
  number_eq : ∀ reply ∈ s.rx_data_queue, reply.request.number = s.number
  single : s.phase.call? ≠ some (.readCond 0xFFFFFFFF)

theorem timelyInv_step (s : SlaveLink) (e : Event) (t : SlaveLink)
    (hs : TimelyInv s) (hC : Timely s e) (h : step s e = some t) :
    TimelyInv t := by
  obtain ⟨call, rfl⟩ | he := eq_begin_or e
  · obtain ⟨hqueue, hcall⟩ := hC
    rw [← step_begin h]
    constructor
    case number_eq =>
      intro reply hreply
      rw [rx_data_queue_begin, hqueue] at hreply
      cases hreply
    case single =>
      intro hcall'
      rw [call?_begin] at hcall'
      exact hcall (Option.some.inj hcall')
  have hstep := stepped_of_step h he
  constructor
  case number_eq =>
    intro reply hreply
    rw [hstep.number_eq]
    rcases hstep.queue reply hreply with hold | ⟨k, rfl, hk⟩
    · exact hs.number_eq reply hold
    · exact hC reply hk
  case single =>
    intro hcall
    exact hs.single (hstep.call _ hcall)

theorem meets_noStray_of_timely {s : SlaveLink} (hs : Boot s)
    {es : List Event} (h : Meets step Timely s es) :
    Meets step NoStray s es := by
  refine meets_mono_of_invariant timelyInv_step ?_ ?_ h
  · intro s e hs _
    cases e with
    | drain device_status =>
        rintro id hphase ⟨reply, conductionData, ⟨hqueue, -⟩, hstray⟩
        rcases hstray with hnumber | ⟨rfl, -⟩
        · apply hnumber
          apply hs.number_eq reply
          rw [hqueue]
          exact List.mem_singleton_self reply
        · apply hs.single
          rw [hphase]
          rfl
    | _ => trivial
  · rw [hs]
    constructor
    case number_eq => simp
    case single => simp [SendPhase.call?]

end SlaveLink

end WirelessHarness
