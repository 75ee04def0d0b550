import WirelessHarness.Uwb.Driver

/-!
# What a UWB command's success says

A command succeeds when the response's check does.  The check looks for the
status byte in the parser object's `packet`, which parsing never fills; the
payload is collected in another vector.
-/

namespace WirelessHarness

open CheckedRead Runs

namespace UWB

variable {beyond : OutOfRange → UInt8}

/-! ## The receive loop as a scan -/

/-- The first response packet that `flow_parse` completes over the bytes. -/
def firstResponse : UciCtrlPacket → (rx_payload bytes : Bytes) →
    Option Response
  | _, _, [] => none
  | p, rx_payload, data :: bytes =>
      let r := p.flowParse data rx_payload
      if r.1 ∧ r.2.1.mt = MT_RSP then some ⟨r.2.1.gid, r.2.1.oid, r.2.2⟩
      else firstResponse r.2.1 r.2.2 bytes

/-- What arrives before the deadline. -/
def inTime : List Poll → List Bytes
  | .received bytes :: polls => bytes :: inTime polls
  | _ => []

/-- The bytes a waiting loop gets to see: without a turn before the deadline it
does not look into the queue either. -/
def awaited (d : UWB) (polls : List Poll) : Bytes :=
  if inTime polls = [] then [] else d.rx_data_queue ++ (inTime polls).flatten

/-- The response the driver would take for the answer. -/
def nextResponse (d : UWB) (polls : List Poll) : Option Response :=
  firstResponse d.recv_packet d.rx_payload (d.awaited polls)

@[simp] theorem recv_packet_notifyProcess (d : UWB) :
    (d.notifyProcess beyond).recv_packet = d.recv_packet := by
  simp only [notifyProcess]
  repeat' split
  all_goals rfl

@[simp] theorem rx_payload_notifyProcess (d : UWB) :
    (d.notifyProcess beyond).rx_payload = d.rx_payload := by
  simp only [notifyProcess]
  repeat' split
  all_goals rfl

/-- The driver after a byte that is not the last one of a response. -/
def afterByte (beyond : OutOfRange → UInt8) (d : UWB) (data : UInt8) : UWB :=
  let r := d.parseData data
  if r.1 ∧ r.2.recv_packet.mt = MT_NTF then r.2.notifyProcess beyond else r.2

theorem recv_packet_afterByte (d : UWB) (data : UInt8) :
    (d.afterByte beyond data).recv_packet =
      (d.recv_packet.flowParse data d.rx_payload).2.1 := by
  simp only [afterByte]
  split
  · rw [recv_packet_notifyProcess]
    rfl
  · rfl

theorem rx_payload_afterByte (d : UWB) (data : UInt8) :
    (d.afterByte beyond data).rx_payload =
      (d.recv_packet.flowParse data d.rx_payload).2.2 := by
  simp only [afterByte]
  split
  · rw [rx_payload_notifyProcess]
    rfl
  · rfl

theorem rspDrain_cons (d : UWB) (data : UInt8) (bytes : Bytes) :
    rspDrain beyond d (data :: bytes) =
      if (d.parseData data).1 ∧
          (d.parseData data).2.recv_packet.mt = MT_RSP then
        (true, { (d.parseData data).2 with rx_data_queue := bytes })
      else rspDrain beyond (d.afterByte beyond data) bytes := by
  simp only [rspDrain, afterByte]
  by_cases hdone : (d.parseData data).1 = true
  · by_cases hmt : (d.parseData data).2.recv_packet.mt = MT_RSP
    · simp [hdone, hmt]
    · simp only [hdone, hmt, true_and, if_true, if_false]
      split <;> rfl
  · simp [hdone]

/-- A response the inner loop reports is the first one of the bytes. -/
theorem firstResponse_of_rspDrain_true {bytes : Bytes} {d d' : UWB}
    (h : rspDrain beyond d bytes = (true, d')) (more : Bytes) :
    d'.recv_packet.mt = MT_RSP ∧
      firstResponse d.recv_packet d.rx_payload (bytes ++ more) =
        some ⟨d'.recv_packet.gid, d'.recv_packet.oid, d'.rx_payload⟩ := by
  induction bytes generalizing d with
  | nil => simp [rspDrain] at h
  | cons data bytes ih =>
      rw [rspDrain_cons] at h
      rw [List.cons_append, firstResponse]
      split at h
      next hrsp =>
        cases h
        exact ⟨hrsp.2, if_pos hrsp⟩
      next hrsp =>
        have hrest := ih h
        rw [recv_packet_afterByte, rx_payload_afterByte] at hrest
        exact ⟨hrest.1, (if_neg hrsp).trans hrest.2⟩

/-- Bytes without a response leave the parser where the scan would be. -/
theorem firstResponse_of_rspDrain_false {bytes : Bytes} {d d' : UWB}
    (h : rspDrain beyond d bytes = (false, d')) (more : Bytes) :
    d'.rx_data_queue = [] ∧
      firstResponse d.recv_packet d.rx_payload (bytes ++ more) =
        firstResponse d'.recv_packet d'.rx_payload more := by
  induction bytes generalizing d with
  | nil =>
      cases h
      exact ⟨rfl, rfl⟩
  | cons data bytes ih =>
      rw [rspDrain_cons] at h
      rw [List.cons_append, firstResponse]
      split at h
      · simp at h
      next hrsp =>
        have hrest := ih h
        rw [recv_packet_afterByte, rx_payload_afterByte] at hrest
        exact ⟨hrest.1, (if_neg hrsp).trans hrest.2⟩

/-- `__rsp_process` succeeds with the first response among the bytes that
arrive in time, and fails when there is none. -/
theorem nextResponse_of_rspProcess {polls polls' : List Poll} {d d' : UWB}
    {received : Bool} (h : rspProcess beyond d polls = (received, d', polls')) :
    (received = true → d'.recv_packet.mt = MT_RSP) ∧
      d.nextResponse polls = if received then
        some ⟨d'.recv_packet.gid, d'.recv_packet.oid, d'.rx_payload⟩
      else none := by
  induction polls generalizing d with
  | nil =>
      cases h
      simp [nextResponse, awaited, inTime, firstResponse]
  | cons poll polls ih =>
      cases poll with
      | deadline =>
          cases h
          simp [nextResponse, awaited, inTime, firstResponse]
      | received bytes =>
          have hawaited : d.awaited (.received bytes :: polls) =
              d.rx_data_queue ++ bytes ++ (inTime polls).flatten := by
            simp [awaited, inTime]
          rw [rspProcess] at h
          split at h
          next d₁ hdrain =>
            have hfirst := firstResponse_of_rspDrain_true hdrain
              (inTime polls).flatten
            rw [nextResponse, hawaited]
            cases h
            exact ⟨fun _ => hfirst.1, hfirst.2⟩
          next d₁ hdrain =>
            obtain ⟨hqueue, hfirst⟩ := firstResponse_of_rspDrain_false hdrain
              (inTime polls).flatten
            have hrest : d₁.awaited polls = (inTime polls).flatten := by
              simp only [awaited, hqueue, List.nil_append]
              split
              next hnil => simp [hnil]
              · rfl
            obtain ⟨hmt, hnext⟩ := ih h
            refine ⟨hmt, ?_⟩
            rw [nextResponse, hawaited, hfirst, ← hrest]
            exact hnext

/-! ## The parser object's packet -/

theorem packet_afterByte (d : UWB) (data : UInt8) :
    (d.afterByte beyond data).recv_packet.packet = d.recv_packet.packet := by
  rw [recv_packet_afterByte, UciCtrlPacket.packet_flowParse]

theorem packet_rspDrain (beyond : OutOfRange → UInt8) (bytes : Bytes)
    (d : UWB) :
    (rspDrain beyond d bytes).2.recv_packet.packet =
      d.recv_packet.packet := by
  induction bytes generalizing d with
  | nil => rfl
  | cons data bytes ih =>
      rw [rspDrain_cons]
      split
      · exact UciCtrlPacket.packet_flowParse _ _ _
      · rw [ih, packet_afterByte]

theorem packet_rspProcess (beyond : OutOfRange → UInt8) (polls : List Poll)
    (d : UWB) :
    (rspProcess beyond d polls).2.1.recv_packet.packet =
      d.recv_packet.packet := by
  induction polls generalizing d with
  | nil => rfl
  | cons poll polls ih =>
      cases poll with
      | deadline => rfl
      | received bytes =>
          have hdrain := packet_rspDrain beyond
            (d.rx_data_queue ++ bytes) d
          rw [rspProcess]
          split
          next d₁ heq =>
            rw [heq] at hdrain
            exact hdrain
          next d₁ heq =>
            rw [heq] at hdrain
            rw [ih]
            exact hdrain

theorem ntfDrain_cons (d : UWB) (data : UInt8) (bytes : Bytes) :
    ntfDrain beyond d (data :: bytes) =
      ntfDrain beyond (d.afterByte beyond data) bytes := by
  simp only [ntfDrain, afterByte]
  split <;> rfl

theorem packet_sendLoop {packer checker : Command} {fuel : ℕ} {d : UWB}
    {polls : List Poll} {o : Outcome}
    (h : sendLoop beyond packer checker fuel d polls = some o) :
    o.driver.recv_packet.packet = d.recv_packet.packet := by
  induction fuel generalizing d polls o with
  | zero => cases h
  | succ fuel ih =>
      have hrsp := packet_rspProcess beyond polls
        { d with uci_cmd := (packer.pack d.uci_cmd).2 }
      simp only [sendLoop] at h
      split at h
      next heq =>
        rw [heq] at hrsp
        cases h
        exact hrsp
      next d₁ polls₁ heq =>
        rw [heq] at hrsp
        split at h
        · split at h
          · cases h
            exact hrsp
          · obtain ⟨o', ho', rfl⟩ := Option.map_eq_some_iff.mp h
            exact (ih ho').trans hrsp
        · cases h
          exact hrsp

theorem packet_sendPacket {d : UWB} {polls : List Poll} {o : Outcome}
    (h : sendPacket beyond d polls = some o) :
    o.driver.recv_packet.packet = d.recv_packet.packet := by
  rw [sendPacket] at h
  split at h
  · obtain ⟨o', ho', rfl⟩ := Option.map_eq_some_iff.mp h
    have hloop := packet_sendLoop ho'
    exact hloop
  · cases h
    rfl

/-! ## Listening -/

/-- What bytes of the chip keep and the received data do not matter for. -/
structure Kept (beyond : OutOfRange → UInt8) (I : UWB → Prop) : Prop where
  byte : ∀ d data, I d → I (d.afterByte beyond data)
  data : ∀ d rx_data_queue transparent_data, I d →
    I { d with rx_data_queue, transparent_data }

section

variable {I : UWB → Prop} (hI : Kept beyond I) {d : UWB} (hd : I d)

include hI hd

theorem Kept.update (bytes : Bytes) : I (d.update beyond bytes) := by
  rw [UWB.update]
  induction d.rx_data_queue ++ bytes generalizing d with
  | nil => exact hI.data d [] d.transparent_data hd
  | cons data bytes ih =>
      rw [ntfDrain_cons]
      exact ih (hI.byte d data hd)

theorem Kept.getRecvData (bytes : Bytes) :
    I (d.getRecvData beyond bytes).2 := by
  have hupdate := hI.update hd bytes
  simp only [UWB.getRecvData]
  split
  · exact hupdate
  · split
    · exact hupdate
    · exact hI.data _ (d.update beyond bytes).rx_data_queue [] hupdate

theorem Kept.waitReady (polls : List Poll) :
    I (waitReady beyond d polls).2.1 := by
  induction polls generalizing d with
  | nil => exact hd
  | cons poll polls ih =>
      cases poll with
      | deadline => exact hd
      | received bytes =>
          have hupdate := hI.update hd bytes
          simp only [UWB.waitReady]
          split
          · exact hupdate
          · exact ih hupdate

end

/-- What holds once the reset command has been sent holds after the reset. -/
theorem Kept.reset {I : UWB → Prop} (hI : Kept beyond I) {d : UWB}
    {polls : List Poll} {r : Bool × UWB × List Poll}
    (hsend : ∀ o, sendPacket beyond (UWB.prepare
      { d with uwbs_sta := .boot, uci_cmd := d.uci_cmd.coreDeviceReset.2 }
      .coreDeviceReset) polls = some o → I o.driver)
    (h : reset beyond d polls = some r) : I r.2.1 := by
  obtain ⟨o, ho, rfl⟩ := Option.map_eq_some_iff.mp h
  have hwait := hI.waitReady (hsend o ho) o.polls
  split
  · split
    next heq =>
      rw [heq] at hwait
      exact hwait
    next heq =>
      rw [heq] at hwait
      exact hI.waitReady hwait _
  · exact hwait

/-- The parser object's `packet` is never written. -/
theorem kept_packet (beyond : OutOfRange → UInt8) (packet : Bytes) :
    Kept beyond fun d => d.recv_packet.packet = packet where
  byte d data hd := (packet_afterByte d data).trans hd
  data _ _ _ hd := hd

/-! ## Calls of the driver -/

/-- The calls that send a command; `send` is `__send_packet` as `reset` calls
it. -/
inductive Operation
  | send (cmd : Command)
  | dataTransmit (data : Bytes)
  | setRecvMode
  | stopRecv
deriving DecidableEq, Repr

namespace Operation

def command : Operation → Command
  | send cmd => cmd
  | dataTransmit data => .cxAppDataTx data
  | setRecvMode => .cxAppDataRx
  | stopRecv => .cxAppDataStopRx

def perform (beyond : OutOfRange → UInt8) :
    Operation → UWB → List Poll → Option Outcome
  | send cmd, d => sendPacket beyond (d.prepare cmd)
  | dataTransmit data, d => UWB.dataTransmit beyond data d
  | setRecvMode, d => UWB.setRecvMode beyond d
  | stopRecv, d => UWB.stopRecv beyond d

/-- The call gets as far as sending. -/
def Sends (d : UWB) : Operation → Prop
  | send _ => True
  | dataTransmit data => d.uwbs_sta = .ready ∧ data ≠ []
  | setRecvMode => d.uwbs_sta = .ready
  | stopRecv => d.uwbs_sta = .ready

/-- A call that does not send leaves the driver alone and fails, unless there
was nothing to send. -/
theorem perform_eq (beyond : OutOfRange → UInt8) (op : Operation) (d : UWB)
    (polls : List Poll) :
    op.Sends d ∧ op.perform beyond d polls =
        sendPacket beyond (d.prepare op.command) polls ∨
      ¬ op.Sends d ∧
        ∃ ret, op.perform beyond d polls = some ⟨ret, d, polls, []⟩ := by
  cases op with
  | send cmd => exact .inl ⟨trivial, rfl⟩
  | dataTransmit data =>
      by_cases hsta : d.uwbs_sta = .ready
      · by_cases hdata : data = []
        · exact .inr ⟨fun h => h.2 hdata, true, by
            simp [perform, UWB.dataTransmit, hsta, hdata]⟩
        · exact .inl ⟨⟨hsta, hdata⟩, by
            simp [perform, UWB.dataTransmit, hsta, hdata, command]⟩
      · exact .inr ⟨fun h => hsta h.1, false, by
          simp [perform, UWB.dataTransmit, hsta]⟩
  | setRecvMode =>
      by_cases hsta : d.uwbs_sta = .ready
      · exact .inl ⟨hsta, by
          simp [perform, UWB.setRecvMode, hsta, command]⟩
      · exact .inr ⟨hsta, false, by simp [perform, UWB.setRecvMode, hsta]⟩
  | stopRecv =>
      by_cases hsta : d.uwbs_sta = .ready
      · exact .inl ⟨hsta, by simp [perform, UWB.stopRecv, hsta, command]⟩
      · exact .inr ⟨hsta, false, by simp [perform, UWB.stopRecv, hsta]⟩

end Operation

inductive Call
  | operation (op : Operation) (polls : List Poll)
  | update (bytes : Bytes)
  | getRecvData (bytes : Bytes)
  | reset (polls : List Poll)

def step (beyond : OutOfRange → UInt8) (d : UWB) : Call → Option UWB
  | .operation op polls => (op.perform beyond d polls).map Outcome.driver
  | .update bytes => some (d.update beyond bytes)
  | .getRecvData bytes => some (d.getRecvData beyond bytes).2
  | .reset polls => (d.reset beyond polls).map fun r => r.2.1

/-- A driver as its constructor leaves it. -/
def Constructed (beyond : OutOfRange → UInt8) (d : UWB) : Prop :=
  ∃ mt gid oid pbf, ∃ uci_cmd polls,
    construct beyond (UciCtrlPacket.init mt gid oid pbf) uci_cmd polls = some d

/-- Calls keep what sending a command keeps. -/
theorem Kept.step {I : UWB → Prop} (hI : Kept beyond I)
    (hsend : ∀ d uwbs_sta uci_cmd cmd polls o, I d → sendPacket beyond
      (UWB.prepare { d with uwbs_sta, uci_cmd } cmd) polls = some o →
        I o.driver)
    (d : UWB) (call : Call) (d' : UWB) (hd : I d)
    (h : UWB.step beyond d call = some d') : I d' := by
  cases call with
  | operation op polls =>
      obtain ⟨o, ho, rfl⟩ := Option.map_eq_some_iff.mp h
      obtain ⟨-, hperform⟩ | ⟨-, ret, hperform⟩ :=
        op.perform_eq beyond d polls
      · exact hsend d d.uwbs_sta d.uci_cmd op.command polls o hd
          (hperform.symm.trans ho)
      · rw [hperform] at ho
        cases ho
        exact hd
  | update bytes =>
      cases h
      exact hI.update hd bytes
  | getRecvData bytes =>
      cases h
      exact hI.getRecvData hd bytes
  | reset polls =>
      obtain ⟨r, hr, rfl⟩ := Option.map_eq_some_iff.mp h
      exact hI.reset (fun o => hsend d _ _ _ _ o hd) hr

/-- Whatever a driver has received, its parser object's `packet` is empty. -/
theorem packet_of_reachable {d : UWB}
    (hd : Reachable (step beyond) (Constructed beyond) d) :
    d.recv_packet.packet = [] := by
  have hkept := kept_packet beyond []
  refine reachable_invariant (I := fun d => d.recv_packet.packet = []) ?_
    (hkept.step fun _ _ _ _ _ _ hpacket ho =>
      (packet_sendPacket ho).trans hpacket) hd
  rintro d ⟨mt, gid, oid, pbf, uci_cmd, polls, hconstruct⟩
  obtain ⟨r, hr, rfl⟩ := Option.map_eq_some_iff.mp hconstruct
  refine hkept.reset (fun o ho => ?_) hr
  rw [packet_sendPacket ho]
  exact hkept.waitReady rfl polls

/-! ## Success -/

/-- The chip confirmed the exchange of a command. -/
def Confirmed (cmd : Command) (x : Exchange) : Prop :=
  ∃ rsp, x.response = some rsp ∧ rsp.gid = cmd.gid ∧ rsp.oid = cmd.oid ∧
    rsp.payload.head? = some STATUS_OK

/-- The checks read received bytes only, and success means that the chip has
confirmed every packet. -/
def Truthful (cmd : Command) (o : Outcome) : Prop :=
  (∀ x ∈ o.exchanges, ∀ check ∈ x.check, InRange check) ∧
    (o.ret = true → ∀ x ∈ o.exchanges, Confirmed cmd x)

/-- The response that would be taken for the answer carries the command's
identifiers. -/
def Answered (cmd : Command) (d : UWB) (polls : List Poll) : Prop :=
  ∃ rsp, d.nextResponse polls = some rsp ∧
    rsp.gid = cmd.gid ∧ rsp.oid = cmd.oid

/-- The check of a response comes to the status byte only if the identifiers
match, and then it leaves the vector. -/
theorem check_eq (cmd : Command) {rsp : UciCtrlPacket} (hmt : rsp.mt = MT_RSP)
    (hpacket : rsp.packet = []) :
    cmd.check rsp =
      if rsp.gid = cmd.gid ∧ rsp.oid = cmd.oid then .error ⟨0, 0⟩
      else .ok false := by
  rw [cmd.check_eq_checkRsp, UciCMD.checkRsp]
  by_cases hgid : rsp.gid = cmd.gid
  · by_cases hoid : rsp.oid = cmd.oid
    · simp [hmt, hgid, hoid, hpacket, readAt]
    · simp [hmt, hgid, hoid]
  · simp [hmt, hgid]

theorem truthful_sendLoop_iff (beyond : OutOfRange → UInt8) {d : UWB}
    (hpacket : d.recv_packet.packet = [])
    (cmd : Command) (fuel : ℕ) (polls : List Poll) :
    (∃ o, sendLoop beyond cmd cmd (fuel + 1) d polls = some o ∧
        Truthful cmd o) ↔
      ¬ Answered cmd d polls := by
  set d₀ : UWB := { d with uci_cmd := (cmd.pack d.uci_cmd).2 } with hd₀
  have hnext : d₀.nextResponse polls = d.nextResponse polls := rfl
  have hpacket₁ := packet_rspProcess beyond polls d₀
  rcases hrsp : rspProcess beyond d₀ polls with ⟨received, d₁, polls₁⟩
  obtain ⟨hmt, hfirst⟩ := nextResponse_of_rspProcess hrsp
  rw [hrsp] at hpacket₁
  have hempty : d₁.recv_packet.packet = [] := hpacket₁.trans hpacket
  rw [hnext] at hfirst
  simp only [sendLoop, ← hd₀, hrsp, Answered, hfirst]
  cases received with
  | false => simp [Truthful]
  | true =>
      simp only [if_true, check_eq cmd (hmt rfl) hempty,
        Option.some.injEq, exists_eq_left']
      by_cases hids : d₁.recv_packet.gid = cmd.gid ∧
          d₁.recv_packet.oid = cmd.oid
      · refine iff_of_false ?_ (not_not.mpr hids)
        rintro ⟨o, ho, hin, -⟩
        -- Whatever the comparison makes of it, the exchange stays in the log.
        have hmem : ∃ x ∈ o.exchanges, x.check = some (.error ⟨0, 0⟩) := by
          simp only [if_pos hids] at ho
          split at ho
          · split at ho
            · cases ho
              simp
            · obtain ⟨o', -, rfl⟩ := Option.map_eq_some_iff.mp ho
              simp
          · cases ho
            simp
        obtain ⟨x, hx, hcheck⟩ := hmem
        exact not_inRange_error _ (hin x hx _ hcheck)
      · refine iff_of_true ?_ hids
        simp [hids, verdict, Truthful]

theorem truthful_sendPacket_iff {d : UWB} {cmd : Command}
    (hpacket : d.recv_packet.packet = []) {polls : List Poll} :
    (∃ o, sendPacket beyond (d.prepare cmd) polls = some o ∧
        Truthful cmd o) ↔
      ¬ Answered cmd d polls := by
  rw [← show Answered cmd (d.prepare cmd) polls ↔ Answered cmd d polls from
      Iff.rfl,
    ← truthful_sendLoop_iff beyond (d := d.prepare cmd) hpacket cmd
      polls.length polls]
  constructor
  · rintro ⟨o, ho, htruthful⟩
    obtain ⟨o', ho', rfl⟩ := Option.map_eq_some_iff.mp ho
    exact ⟨o', ho', htruthful⟩
  · rintro ⟨o', ho', htruthful⟩
    exact ⟨_, Option.map_eq_some_iff.mpr ⟨o', ho', rfl⟩, htruthful⟩

/-- A call tells the truth exactly if it does not send, or its first response
in time is none or not one to this command. -/
theorem truthful_perform_iff {d : UWB}
    (hd : Reachable (step beyond) (Constructed beyond) d) (op : Operation)
    (polls : List Poll) :
    (∃ o, op.perform beyond d polls = some o ∧ Truthful op.command o) ↔
      ¬ (op.Sends d ∧ Answered op.command d polls) := by
  obtain ⟨hsends, hperform⟩ | ⟨hsends, ret, hperform⟩ :=
    op.perform_eq beyond d polls
  · rw [hperform, and_iff_right hsends,
      ← truthful_sendPacket_iff (packet_of_reachable hd)]
  · refine iff_of_true ?_ fun h => hsends h.1
    exact ⟨_, hperform, by simp, fun _ => by simp⟩

/-- A driver that came up without an answer to its reset command. -/
def broughtUp : UWB :=
  (construct (fun _ => 0) (UciCtrlPacket.init 0 0 0 0)
    { toUciCtrlPacket := UciCtrlPacket.init 0 0 0 0 }
    [.received [0x60, 0x01, 0x00, 0x01, 0x01], .deadline,
      .received [0x60, 0x01, 0x00, 0x01, 0x01]]).get (by decide)

theorem reachable_broughtUp :
    Reachable (step fun _ => 0) (Constructed fun _ => 0) broughtUp := by
  apply reachable_of_init
  exact ⟨0, 0, 0, 0, _, _, (Option.some_get _).symm⟩

theorem truthful_perform_unanswered :
    ∃ o, Operation.perform (fun _ => 0) (.dataTransmit [0x01]) broughtUp
        [.received [0x43, 0x01, 0x00, 0x01, 0x00]] = some o ∧
      Truthful (.cxAppDataTx [0x01]) o := by
  refine (truthful_perform_iff reachable_broughtUp (.dataTransmit [0x01])
    [.received [0x43, 0x01, 0x00, 0x01, 0x00]]).mpr ?_
  rintro ⟨-, rsp, hrsp, -, hoid⟩
  have hnext : broughtUp.nextResponse
      [.received [0x43, 0x01, 0x00, 0x01, 0x00]] =
        some ⟨3, 1, [0x00]⟩ := by
    decide
  cases hnext.symm.trans hrsp
  revert hoid
  decide

/-- The chip rejects the data, and the status it reported is not looked at: the
read leaves the vector, and with a zero there the call succeeds. -/
theorem not_truthful_rejected :
    ∃ o, Operation.perform (fun _ => 0) (.dataTransmit [0x01]) broughtUp
        [.received [0x43, 0x00, 0x00, 0x01, 0x01]] = some o ∧
      o.ret = true ∧
      o.exchanges.map Exchange.response = [some ⟨3, 0, [0x01]⟩] ∧
      ¬ Truthful (.cxAppDataTx [0x01]) o := by
  refine ⟨_, rfl, by decide, by decide, ?_⟩
  rintro ⟨-, hconfirmed⟩
  obtain ⟨rsp, hrsp, -, -, hstatus⟩ := hconfirmed (by decide) _
    List.mem_cons_self
  cases hrsp
  revert hstatus
  decide

end UWB

end WirelessHarness
