import WirelessHarness.Master.SendFrame
import WirelessHarness.System.Conduction

/-!
# The shared radio channel

All slaves hear the same frames, each other's replies among them, and nothing
but the addresses keeps them from answering at the same time.  In every run a
frame is answered by at most one slave unless it asks all of them, a reply
carries the id of the slave that was asked, and no slave takes a reply for a
request.  What the master sends is answered request by request.

A reply is a frame that a slave hands to `MsgProc::send`.  Whether its queue
and the radio take the frame in time is not modelled; that the radio refuses
long ones is.
-/

namespace WirelessHarness

open CheckedRead Runs SlaveDevice

namespace Air

open Bystander

/-! ## The channel -/

/-- The slaves within reach, and what was heard so far with the frames that
they handed to `MsgProc::send` in reply. -/
structure Channel (n : ℕ) where
  slaves : Fin n → SlaveDevice
  answered : List (Bytes × List (Fin n × Bytes)) := []

/-- `hears` are the slaves that receive the frame, whoever sent it. -/
inductive Event (n : ℕ)
  | frame (raw_data : Bytes) (hears : Fin n → Bool)
  | callback (k : Fin n) (input : GpioInput)

/-- The slaves after a frame. -/
def hear {n : ℕ} (slaves : Fin n → SlaveDevice) (raw_data : Bytes)
    (hears : Fin n → Bool) (k : Fin n) : SlaveDevice :=
  if hears k then ((slaves k).parseAndProcess raw_data).2 else slaves k

/-- What one slave sends in reply to a frame. -/
def replyOf {n : ℕ} (slaves : Fin n → SlaveDevice) (raw_data : Bytes)
    (hears : Fin n → Bool) (k : Fin n) : List (Fin n × Bytes) :=
  ((hear slaves raw_data hears k).sent.drop (slaves k).sent.length).map
    fun reply => (k, reply)

def replies {n : ℕ} (slaves : Fin n → SlaveDevice) (raw_data : Bytes)
    (hears : Fin n → Bool) : List (Fin n × Bytes) :=
  (List.finRange n).flatMap (replyOf slaves raw_data hears)

def step {n : ℕ} (s : Channel n) : Event n → Option (Channel n)
  | .frame raw_data hears =>
      some {
        slaves := hear s.slaves raw_data hears
        answered := s.answered ++
          [(raw_data, replies s.slaves raw_data hears)] }
  | .callback k input =>
      if (s.slaves k).board.harness.timerActive then
        some { s with
          slaves := Function.update s.slaves k
            { s.slaves k with
              board := Harness.myTimerCallback input (s.slaves k).board } }
      else none

/-! ## Replies -/

/-- A frame with one of the two requests that are answered, for everyone. -/
def AsksAll (raw_data : Bytes) : Prop :=
  ∃ (id : Master2SlaveMessageID) (payload : Bytes)
    (fragment_seq more_fragments : UInt8),
    (id = .condCfgMsg ∨ id = .readCondDataMsg) ∧
      raw_data = FramePacker.packData .master2Slave
        (⟨id.toUInt8, 0xFFFFFFFF, payload⟩ : Master2SlavePacket).serialize
        fragment_seq more_fragments

/-- The frames of the two replies. -/
inductive Signed (uid : UInt32) : Bytes → Prop
  | condCfg (msg : Slave2Master.CondCfgMsg) :
      Signed uid (FramePacker.packSlave2Master
        (PacketPacker.slave2MasterPack .condCfgMsg msg uid))
  | condData (msg : Slave2Backend.CondDataMsg) (device_status : UInt16) :
      Signed uid (FramePacker.packSlave2Backend
        (PacketPacker.slave2BackendPack .condDataMsg msg uid device_status))

/-- The packet id stands in the third byte of a frame. -/
theorem getElem?_packData (type : PacketType) (packet_data : Bytes)
    (fragment_seq more_fragments : UInt8) :
    (FramePacker.packData type packet_data fragment_seq more_fragments)[2]? =
      some type.toUInt8 := rfl

/-- No slave takes a reply for a request. -/
theorem not_addressedTo_of_signed {uid : UInt32} {reply : Bytes}
    (h : Signed uid reply) (uid' : UInt32) : ¬ AddressedTo uid' reply := by
  rintro ⟨id, destination_id, payload, seq, more, hraw, -⟩
  have hid := congrArg (fun frame : Bytes => frame[2]?) hraw
  simp only [getElem?_packData] at hid
  cases h with
  | condCfg msg =>
      rw [FramePacker.packSlave2Master, getElem?_packData] at hid
      cases hid
  | condData msg device_status =>
      rw [FramePacker.packSlave2Backend, getElem?_packData] at hid
      cases hid

/-- A slave answers a frame with nothing or, to one of the two requests, with
one reply of its own. -/
theorem sent_parseAndProcess (s : SlaveDevice) (raw_data : Bytes) :
    (s.parseAndProcess raw_data).2.sent = s.sent ∨
      ∃ reply id payload,
        (s.parseAndProcess raw_data).2.sent = s.sent ++ [reply] ∧
        Signed s.uid reply ∧
        FrameParser.select .slave s.uid raw_data =
          some (.master2Slave id, payload) ∧
        (id = .condCfgMsg ∨ id = .readCondDataMsg) := by
  cases hsel : FrameParser.select .slave s.uid raw_data with
  | none =>
      left
      rw [parseAndProcess, FrameParser.parse_of_select_none hsel]
  | some sel =>
      obtain ⟨cls, payload⟩ := sel
      rw [parseAndProcess, FrameParser.parse_of_select hsel]
      cases hdes : deserializeInto cls payload s.statics with
      | error e =>
          left
          rfl
      | ok r =>
          obtain ⟨msg, statics⟩ := r
          obtain ⟨fields, rfl, rfl⟩ := deserializeInto_store hdes
          rcases cls with id | id | id | id | id
          case master2Slave =>
            cases id with
            | condCfgMsg =>
                right
                exact ⟨_, .condCfgMsg, payload, rfl, .condCfg _, rfl,
                  Or.inl rfl⟩
            | readCondDataMsg =>
                right
                exact ⟨_, .readCondDataMsg, payload, rfl, .condData _ _, rfl,
                  Or.inr rfl⟩
            | syncMsg | resCfgMsg | clipCfgMsg | readResDataMsg
            | readClipDataMsg | rstMsg =>
                left
                rfl
          all_goals
            left
            cases id <;> rfl

/-- The frame behind a selected request. -/
theorem exists_packData_of_select {uid : UInt32} {raw_data payload : Bytes}
    {id : Master2SlaveMessageID}
    (h : FrameParser.select .slave uid raw_data =
      some (.master2Slave id, payload)) :
    ∃ destination_id seq more,
      raw_data = FramePacker.packData .master2Slave
        (⟨id.toUInt8, destination_id, payload⟩ : Master2SlavePacket).serialize
        seq more ∧
      (⟨id.toUInt8, destination_id, payload⟩ :
        Master2SlavePacket).serialize.length < 65536 ∧
      (destination_id = 0xFFFFFFFF ∨ destination_id = uid) := by
  obtain ⟨⟨packet_id, packet_data⟩, hwire, hpacket⟩ :=
    Option.bind_eq_some_iff.mp h
  obtain ⟨packet, id', rfl, hdata, hdest, hid, hcls, rfl⟩ :=
    selectPacket_slave hpacket
  cases hcls
  rw [Master2SlaveMessageID.ofUInt8?_eq_some_iff] at hid
  have hpack : (⟨id.toUInt8, packet.id, packet.payload⟩ :
      Master2SlavePacket).serialize = packet_data := by
    rw [← hid]
    exact AddressedPacket.serialize_of_wire hdata
  have hlength := length_lt_of_wireFrame hwire
  obtain ⟨seq, more, rfl⟩ := exists_packData_of_wireFrame hwire
  exact ⟨packet.id, seq, more, by rw [hpack], by rw [hpack]; exact hlength,
    hdest⟩

theorem replyOf_cases {n : ℕ} (slaves : Fin n → SlaveDevice)
    (raw_data : Bytes) (hears : Fin n → Bool) (k : Fin n) :
    replyOf slaves raw_data hears k = [] ∨
      ∃ reply id payload, replyOf slaves raw_data hears k = [(k, reply)] ∧
        Signed (slaves k).uid reply ∧
        FrameParser.select .slave (slaves k).uid raw_data =
          some (.master2Slave id, payload) ∧
        (id = .condCfgMsg ∨ id = .readCondDataMsg) := by
  unfold replyOf hear
  split
  · rcases sent_parseAndProcess (slaves k) raw_data with
      hsent | ⟨reply, id, payload, hsent, hsigned, hsel, hid⟩
    · left
      simp [hsent]
    · right
      exact ⟨reply, id, payload, by simp [hsent], hsigned, hsel, hid⟩
  · left
    simp

/-- Slaves with different ids do not answer the same frame unless it asks all
of them. -/
theorem eq_of_replyOf_ne_nil {n : ℕ} {slaves : Fin n → SlaveDevice}
    (hids : Function.Injective fun k => (slaves k).uid) {raw_data : Bytes}
    {hears : Fin n → Bool} (hall : ¬ AsksAll raw_data) {j k : Fin n}
    (hj : replyOf slaves raw_data hears j ≠ [])
    (hk : replyOf slaves raw_data hears k ≠ []) : j = k := by
  obtain ⟨-, id, payload, -, -, hsel, hid⟩ :=
    (replyOf_cases slaves raw_data hears j).resolve_left hj
  obtain ⟨-, id', payload', -, -, hsel', -⟩ :=
    (replyOf_cases slaves raw_data hears k).resolve_left hk
  obtain ⟨destination_id, seq, more, hraw, -, hdest⟩ :=
    exists_packData_of_select hsel
  obtain ⟨destination_id', seq', more', hraw', -, hdest'⟩ :=
    exists_packData_of_select hsel'
  have hpacket := (packData_inj.mp (hraw.symm.trans hraw')).1
  have hsame := congrArg wireAddressed hpacket
  rw [wireAddressed_serialize, wireAddressed_serialize, Option.some.injEq]
    at hsame
  have hdestEq : destination_id = destination_id' :=
    congrArg AddressedPacket.id hsame
  have hne : destination_id ≠ 0xFFFFFFFF := by
    rintro rfl
    exact hall ⟨id, payload, seq, more, hid, hraw⟩
  apply hids
  have hjuid := hdest.resolve_left hne
  have hkuid := hdest'.resolve_left (hdestEq ▸ hne)
  exact hjuid.symm.trans (hdestEq.trans hkuid)

/-- Where only one element contributes, a `flatMap` is its contribution. -/
theorem flatMap_eq_of_unique {α β : Type} {f : α → List β} {xs : List α}
    (hxs : xs.Nodup) {x : α} (hx : x ∈ xs)
    (hother : ∀ y ∈ xs, y ≠ x → f y = []) : xs.flatMap f = f x := by
  induction xs with
  | nil => cases hx
  | cons y ys ih =>
      obtain ⟨hy, hys⟩ := List.nodup_cons.mp hxs
      rw [List.flatMap_cons]
      by_cases hyx : y = x
      · subst hyx
        have hrest : ys.flatMap f = [] := by
          rw [List.flatMap_eq_nil_iff]
          intro z hz
          apply hother z (List.mem_cons_of_mem _ hz)
          rintro rfl
          exact hy hz
        rw [hrest, List.append_nil]
      · rw [hother y List.mem_cons_self hyx, List.nil_append]
        exact ih hys ((List.mem_cons.mp hx).resolve_left (Ne.symm hyx))
          fun z hz => hother z (List.mem_cons_of_mem _ hz)

/-! ## At most one answer -/

/-- A frame and the replies to it. -/
structure Arbitrated {n : ℕ} (uids : Fin n → UInt32) (raw_data : Bytes)
    (replies : List (Fin n × Bytes)) : Prop where
  one : ¬ AsksAll raw_data → replies.length ≤ 1
  once : (replies.map Prod.fst).Nodup
  asked : ∀ r ∈ replies, AddressedTo (uids r.1) raw_data
  signed : ∀ r ∈ replies, Signed (uids r.1) r.2
  unheard : ∀ r ∈ replies, ∀ uid, ¬ AddressedTo uid r.2

theorem arbitrated_replies {n : ℕ} (slaves : Fin n → SlaveDevice)
    (hids : Function.Injective fun k => (slaves k).uid) (raw_data : Bytes)
    (hears : Fin n → Bool) :
    Arbitrated (fun k => (slaves k).uid) raw_data
      (replies slaves raw_data hears) := by
  have hlen (k : Fin n) : (replyOf slaves raw_data hears k).length ≤ 1 := by
    rcases replyOf_cases slaves raw_data hears k with hnil | ⟨_, _, _, h, -⟩
    · rw [hnil]
      exact Nat.zero_le 1
    · rw [h]
      exact le_rfl
  have hmem (r : Fin n × Bytes) (hr : r ∈ replies slaves raw_data hears) :
      Signed (slaves r.1).uid r.2 ∧
        FrameParser.select .slave (slaves r.1).uid raw_data ≠ none := by
    obtain ⟨k, -, hk⟩ := List.mem_flatMap.mp hr
    rcases replyOf_cases slaves raw_data hears k with
      hnil | ⟨reply, id, payload, h, hsigned, hsel, -⟩
    · rw [hnil] at hk
      cases hk
    · rw [h, List.mem_singleton] at hk
      subst hk
      exact ⟨hsigned, by rw [hsel]; exact Option.some_ne_none _⟩
  constructor
  case one =>
    intro hall
    by_cases hnone : ∀ k, replyOf slaves raw_data hears k = []
    · simp [replies, hnone]
    · obtain ⟨k, hk⟩ := not_forall.mp hnone
      rw [replies, flatMap_eq_of_unique (List.nodup_finRange n)
        (List.mem_finRange k)]
      · exact hlen k
      · intro j _ hjk
        by_contra hj
        exact hjk (eq_of_replyOf_ne_nil hids hall hj hk)
  case once =>
    rw [replies, List.map_flatMap]
    apply List.nodup_flatMap.mpr
    refine ⟨fun k _ => ?_, (List.nodup_finRange n).imp ?_⟩
    · rcases replyOf_cases slaves raw_data hears k with
        hnil | ⟨_, _, _, h, -⟩
      · simp [hnil]
      · simp [h]
    · intro j k hjk
      have hfst (i : Fin n) : ∀ x ∈ (replyOf slaves raw_data hears i).map
          Prod.fst, x = i := by
        intro x hx
        obtain ⟨r, hr, rfl⟩ := List.mem_map.mp hx
        obtain ⟨reply, -, rfl⟩ := List.mem_map.mp hr
        rfl
      intro x hj hk
      exact hjk ((hfst j x hj).symm.trans (hfst k x hk))
  case asked =>
    intro r hr
    exact (select_slave_ne_none_iff _ _).mp (hmem r hr).2
  case signed => exact fun r hr => (hmem r hr).1
  case unheard =>
    exact fun r hr => not_addressedTo_of_signed (hmem r hr).1

theorem uid_hear {n : ℕ} (slaves : Fin n → SlaveDevice) (raw_data : Bytes)
    (hears : Fin n → Bool) (k : Fin n) :
    (hear slaves raw_data hears k).uid = (slaves k).uid := by
  unfold hear
  split
  · exact uid_parseAndProcess _ _
  · rfl

/-- The ids never change, and every frame is arbitrated. -/
theorem arbitrated_step {n : ℕ} {uids : Fin n → UInt32}
    (hids : Function.Injective uids) (s : Channel n) (e : Event n)
    (s' : Channel n)
    (hs : (∀ k, (s.slaves k).uid = uids k) ∧
      ∀ a ∈ s.answered, Arbitrated uids a.1 a.2)
    (h : step s e = some s') :
    (∀ k, (s'.slaves k).uid = uids k) ∧
      ∀ a ∈ s'.answered, Arbitrated uids a.1 a.2 := by
  obtain ⟨huid, hanswered⟩ := hs
  have huids : (fun k => (s.slaves k).uid) = uids := funext huid
  rcases e with ⟨raw_data, hears⟩ | ⟨k, input⟩
  · cases h
    refine ⟨fun k => (uid_hear _ _ _ _).trans (huid k), fun a ha => ?_⟩
    rcases List.mem_append.mp ha with ha | ha
    · exact hanswered a ha
    · obtain rfl := List.mem_singleton.mp ha
      have harb := arbitrated_replies s.slaves (huids ▸ hids) raw_data hears
      rwa [huids] at harb
  · obtain ⟨-, heq⟩ := Option.ite_none_right_eq_some.mp h
    cases heq
    refine ⟨fun j => ?_, hanswered⟩
    by_cases hjk : j = k
    · subst hjk
      simp [huid]
    · simp [Function.update_of_ne hjk, huid]

/-- In every run of slaves with different ids, whoever sends and whoever
hears, every frame is arbitrated. -/
theorem arbitrated_of_run {n : ℕ} {s s' : Channel n}
    (hids : Function.Injective fun k => (s.slaves k).uid)
    (hanswered : s.answered = []) {es : List (Event n)}
    (hrun : run step s es = some s') :
    ∀ a ∈ s'.answered, Arbitrated (fun k => (s.slaves k).uid) a.1 a.2 := by
  refine (run_invariant (arbitrated_step hids) ⟨fun _ => rfl, ?_⟩ hrun).2
  rw [hanswered]
  simp

/-- Two slaves, with the ids 0 and 1. -/
def twoSlaves : Channel 2 where
  slaves := fun k => { bootDevice with uid := UInt32.ofNat k }

/-- Two configurations, the start, a row of each slave, and a read that only
slave 0 hears. -/
def twoConfigured : List (Event 2) :=
  [.frame (condCfgFrame 0 0) fun _ => true,
    .frame (condCfgFrame 1 1) fun _ => true,
    .frame Reception.syncFrame fun _ => true,
    .callback 0 fun _ _ => true, .callback 1 fun _ _ => true,
    .frame (ProcessorCall.readCond 0).frame fun k => k = 0]

theorem arbitrated_twoSlaves :
    ∃ s', run step twoSlaves twoConfigured = some s' ∧
      (s'.answered.map fun a => a.2.map Prod.fst) = [[0], [1], [], [0]] ∧
      ∀ a ∈ s'.answered,
        Arbitrated (fun k => (twoSlaves.slaves k).uid) a.1 a.2 :=
  ⟨_, rfl, by decide +kernel,
    @arbitrated_of_run 2 twoSlaves _ (by decide) rfl twoConfigured rfl⟩

/-! ## What the master sends -/

/-- A request of a processor, a start, or a frame for none of the slaves. -/
inductive Traffic
  | request (call : ProcessorCall)
  | sync (mode : SysMode)
  | foreign (raw_data : Bytes)
deriving DecidableEq

namespace Traffic

def frame : Traffic → Bytes
  | request call => call.frame
  | sync mode => Conduction.syncFrame mode
  | foreign raw_data => raw_data

/-- The slaves that have something to answer. -/
def asked : Traffic → List UInt32
  | request (.readCond id) => [id]
  | request (.condCfg cfg_cmd _) => [get_id cfg_cmd.id]
  | sync _ => []
  | foreign _ => []

/-- Requests go to slaves that are there, with matrices whose reports the radio
takes. -/
structure Valid {n : ℕ} (uids : Fin n → UInt32) (t : Traffic) : Prop where
  asked : ∀ id ∈ t.asked, id ≠ 0xFFFFFFFF ∧ ∃ k, uids k = id
  fits : ∀ cfg_cmd timeSlot, t = request (.condCfg cfg_cmd timeSlot) →
    cfg_cmd.totalHarnessNum.toNat * cfg_cmd.cond.toNat ≤ 8032
  foreign : ∀ raw_data, t = foreign raw_data →
    ∀ k, ¬ AddressedTo (uids k) raw_data

theorem valid_request {n : ℕ} {uids : Fin n → UInt32} {call : ProcessorCall}
    (k : Fin n) (hk : (request call).asked = [uids k])
    (hne : uids k ≠ 0xFFFFFFFF)
    (hfits : ∀ cfg_cmd timeSlot, call = .condCfg cfg_cmd timeSlot →
      cfg_cmd.totalHarnessNum.toNat * cfg_cmd.cond.toNat ≤ 8032) :
    (request call).Valid uids where
  asked := by
    intro id hid
    rw [hk, List.mem_singleton] at hid
    subst hid
    exact ⟨hne, k, rfl⟩
  fits := by
    rintro cfg_cmd timeSlot ⟨⟩
    exact hfits cfg_cmd timeSlot rfl
  foreign := by
    intro raw_data h
    cases h

theorem valid_sync {n : ℕ} (uids : Fin n → UInt32) (mode : SysMode) :
    (sync mode).Valid uids where
  asked := by
    intro id hid
    cases hid
  fits := by
    intro cfg_cmd timeSlot h
    cases h
  foreign := by
    intro raw_data h
    cases h

theorem valid_foreign {n : ℕ} {uids : Fin n → UInt32} {raw_data : Bytes}
    (h : ∀ k, ¬ AddressedTo (uids k) raw_data) :
    (foreign raw_data).Valid uids where
  asked := by
    intro id hid
    cases hid
  fits := by
    intro cfg_cmd timeSlot h
    cases h
  foreign := by
    rintro _ ⟨⟩
    exact h

end Traffic

/-! ## Replies that the radio takes -/

/-- The slave's report is not too long for `data_transmit`. -/
def Fits (s : SlaveDevice) : Prop :=
  s.board.harness.data.rows * s.board.harness.data.cols ≤ 8032

/-- The replies that `data_transmit` does not refuse. -/
def taken {n : ℕ} (replies : List (Fin n × Bytes)) : List (Fin n × Bytes) :=
  replies.filter fun r => decide (r.2.length ≤ CX_APP_DATA_TX_MAX_PAYLOAD_LEN)

/-- The reply to a configuration has 21 bytes, a report 16 and one for every
eight cells. -/
theorem length_reply_le {s : SlaveDevice} (hs : Fits s)
    {id : Master2SlaveMessageID}
    (hid : id = .condCfgMsg ∨ id = .readCondDataMsg)
    {msg : (MessageClass.master2Slave id).Fields} {reply : Bytes}
    (h : (s.receive (.master2Slave id) msg).sent = s.sent ++ [reply]) :
    reply.length ≤ CX_APP_DATA_TX_MAX_PAYLOAD_LEN := by
  rcases hid with rfl | rfl
  · have hreply := List.append_cancel_left
      (show s.sent ++ [_] = s.sent ++ [reply] from h)
    obtain ⟨m, rfl⟩ : ∃ m : Slave2Master.CondCfgMsg,
        reply = FramePacker.packSlave2Master
          (PacketPacker.slave2MasterPack .condCfgMsg m s.uid) :=
      ⟨_, (List.singleton_inj.mp hreply).symm⟩
    have hlen := SlaveMessage.length_serializePayload_slave2Master .condCfgMsg
      m
    rw [FramePacker.packSlave2Master, length_packData,
      AddressedPacket.length_serialize, CX_APP_DATA_TX_MAX_PAYLOAD_LEN,
      MAX_PAYLOAD_LEN, FrameHeader.HEADER_SIZE]
    simp only [PacketPacker.slave2MasterPack]
    omega
  · have hreply := List.append_cancel_left
      (show s.sent ++ [ReportSize.reportFrame s] = s.sent ++ [reply] from h)
    rw [← List.singleton_inj.mp hreply, ReportSize.length_reportFrame,
      BinaryMatrix.length_flatten, CX_APP_DATA_TX_MAX_PAYLOAD_LEN,
      MAX_PAYLOAD_LEN]
    rw [Fits] at hs
    omega

theorem fits_process {s : SlaveDevice} (hs : Fits s)
    (id : Master2SlaveMessageID) (msg : (MessageClass.master2Slave id).Fields)
    (destination_id : UInt32)
    (hreceive : Fits (s.receive (.master2Slave id) msg)) :
    Fits (s.parseAndProcess (FramePacker.packMaster2Slave
      (PacketPacker.master2SlavePack id msg destination_id))).2 := by
  by_cases hdest : destination_id = 0xFFFFFFFF ∨ destination_id = s.uid
  · rw [s.parseAndProcess_master2SlavePack id msg hdest]
    exact hreceive
  · rw [s.parseAndProcess_of_other id msg hdest]
    exact hs

theorem fits_hear {n : ℕ} {slaves : Fin n → SlaveDevice} {t : Traffic}
    (ht : t.Valid fun k => (slaves k).uid) {k : Fin n}
    (hk : Fits (slaves k)) :
    Fits (hear slaves t.frame (fun _ => true) k) := by
  rw [hear, if_pos rfl]
  cases t with
  | request call =>
      cases call with
      | readCond id => exact fits_process hk .readCondDataMsg (0 : UInt8) id hk
      | condCfg cfg_cmd timeSlot =>
          refine fits_process hk .condCfgMsg
            (DeviceConfigProcessor.condCfgMsg cfg_cmd timeSlot) _ ?_
          obtain ⟨hharness, -⟩ := receive_condCfg_spec (slaves k)
            (DeviceConfigProcessor.condCfgMsg cfg_cmd timeSlot)
          have hnarrow : cfg_cmd.cond.toUInt8.toNat ≤ cfg_cmd.cond.toNat := by
            rw [UInt16.toNat_toUInt8]
            exact Nat.mod_le _ _
          rw [Fits, hharness]
          exact (Nat.mul_le_mul_left _ hnarrow).trans
            (ht.fits cfg_cmd timeSlot rfl)
  | sync mode =>
      refine fits_process hk .syncMsg (⟨mode, 0⟩ : Master2Slave.SyncMsg) _ ?_
      rw [Fits, board_receive_sync, Harness.startWithCount]
      split <;> exact hk
  | foreign raw_data =>
      have hsel : FrameParser.select .slave (slaves k).uid raw_data = none := by
        by_contra hne
        exact ht.foreign raw_data rfl k
          ((select_slave_ne_none_iff _ _).mp hne)
      rw [Traffic.frame, parseAndProcess_of_select_none hsel]
      exact hk

theorem taken_singleton {n : ℕ} (k : Fin n) {reply : Bytes}
    (h : reply.length ≤ CX_APP_DATA_TX_MAX_PAYLOAD_LEN) :
    taken [(k, reply)] = [(k, reply)] := by
  simp [taken, h]

/-- The slave whose id a request carries replies, and no other one. -/
theorem replies_request {n : ℕ} {slaves : Fin n → SlaveDevice}
    (hids : Function.Injective fun k => (slaves k).uid)
    (id : Master2SlaveMessageID)
    (hid : id = .condCfgMsg ∨ id = .readCondDataMsg)
    (msg : (MessageClass.master2Slave id).Fields) {k : Fin n}
    (hk : (slaves k).uid ≠ 0xFFFFFFFF) (hfits : Fits (slaves k)) :
    ∃ reply, reply.length ≤ CX_APP_DATA_TX_MAX_PAYLOAD_LEN ∧
      replies slaves (FramePacker.packMaster2Slave
          (PacketPacker.master2SlavePack id msg (slaves k).uid))
        (fun _ => true) = [(k, reply)] := by
  set raw_data := FramePacker.packMaster2Slave
    (PacketPacker.master2SlavePack id msg (slaves k).uid) with hraw
  have hlen := FrameParser.length_serializePayload_master2Slave id msg
  have hsel (j : Fin n) := FrameParser.select_packMaster2Slave (slaves j).uid
    (slaves k).uid id (serializePayload (.master2Slave id) msg) (by omega)
  have hother (j : Fin n) (hjk : j ≠ k) :
      replyOf slaves raw_data (fun _ => true) j = [] := by
    by_contra hne
    obtain ⟨_, _, _, -, -, hsome, -⟩ :=
      (replyOf_cases slaves raw_data _ j).resolve_left hne
    have hnone := hsel j
    rw [if_neg (not_or_intro hk fun heq => hjk (hids heq.symm))] at hnone
    cases hnone.symm.trans hsome
  have hparse := (slaves k).parseAndProcess_master2SlavePack id msg
    (Or.inr rfl)
  obtain ⟨reply, hsent⟩ : ∃ reply,
      ((slaves k).receive (.master2Slave id) msg).sent =
        (slaves k).sent ++ [reply] := by
    rcases hid with rfl | rfl <;> exact ⟨_, rfl⟩
  have hown : replyOf slaves raw_data (fun _ => true) k = [(k, reply)] := by
    rw [replyOf, hear, if_pos rfl, hparse, hsent, List.drop_left]
    rfl
  refine ⟨reply, length_reply_le hfits hid hsent, ?_⟩
  rw [replies, flatMap_eq_of_unique (List.nodup_finRange n)
    (List.mem_finRange k) fun j _ hjk => hother j hjk, hown]

/-- Nobody answers a start or a frame for others. -/
theorem replies_eq_nil {n : ℕ} {slaves : Fin n → SlaveDevice}
    {raw_data : Bytes} {hears : Fin n → Bool}
    (h : ∀ k id payload, FrameParser.select .slave (slaves k).uid raw_data =
      some (.master2Slave id, payload) →
        ¬ (id = .condCfgMsg ∨ id = .readCondDataMsg)) :
    replies slaves raw_data hears = [] := by
  rw [replies, List.flatMap_eq_nil_iff]
  intro k _
  by_contra hne
  obtain ⟨_, id, payload, -, -, hsel, hid⟩ :=
    (replyOf_cases slaves raw_data hears k).resolve_left hne
  exact h k id payload hsel hid

/-- What every slave hears is answered by the slaves asked. -/
theorem uids_replies {n : ℕ} {slaves : Fin n → SlaveDevice}
    (hids : Function.Injective fun k => (slaves k).uid) {t : Traffic}
    (ht : t.Valid fun k => (slaves k).uid) (hfits : ∀ k, Fits (slaves k)) :
    (taken (replies slaves t.frame fun _ => true)).map
      (fun r => (slaves r.1).uid) = t.asked := by
  obtain ⟨hasked, -, hforeign⟩ := ht
  cases t with
  | request call =>
      cases call with
      | readCond id =>
          obtain ⟨hne, k, rfl⟩ := hasked id List.mem_cons_self
          obtain ⟨reply, hlen, hreply⟩ := replies_request hids
            .readCondDataMsg (Or.inr rfl) (0 : UInt8) hne (hfits k)
          rw [Traffic.frame, ProcessorCall.frame, hreply,
            taken_singleton k hlen]
          rfl
      | condCfg cfg_cmd timeSlot =>
          obtain ⟨hne, k, hk⟩ := hasked _ List.mem_cons_self
          change (slaves k).uid = get_id cfg_cmd.id at hk
          rw [← hk] at hne
          obtain ⟨reply, hlen, hreply⟩ := replies_request hids .condCfgMsg
            (Or.inl rfl) (DeviceConfigProcessor.condCfgMsg cfg_cmd timeSlot)
            hne (hfits k)
          rw [Traffic.frame, ProcessorCall.frame,
            DeviceConfigProcessor.cond_frame, ← hk, hreply,
            taken_singleton k hlen]
          exact congrArg (fun id => [id]) hk
  | sync mode =>
      have hnil : replies slaves (Traffic.sync mode).frame (fun _ => true) =
          [] := by
        apply replies_eq_nil
        intro k id payload hsel hid
        have hlen := FrameParser.length_serializePayload_master2Slave .syncMsg
          (⟨mode, 0⟩ : Master2Slave.SyncMsg)
        have hsync := FrameParser.select_packMaster2Slave (slaves k).uid
          0xFFFFFFFF .syncMsg (serializePayload (.master2Slave .syncMsg)
            (⟨mode, 0⟩ : Master2Slave.SyncMsg)) (by omega)
        rw [if_pos (Or.inl rfl)] at hsync
        cases hsync.symm.trans hsel
        rcases hid with hid | hid <;> cases hid
      rw [hnil]
      rfl
  | foreign raw_data =>
      have hnil : replies slaves (Traffic.foreign raw_data).frame
          (fun _ => true) = [] := by
        apply replies_eq_nil
        intro k id payload hsel
        have hsome : FrameParser.select .slave (slaves k).uid raw_data ≠
            none := by
          rw [show FrameParser.select .slave (slaves k).uid raw_data = _ from
            hsel]
          exact Option.some_ne_none _
        exact absurd ((select_slave_ne_none_iff _ _).mp hsome)
          (hforeign raw_data rfl k)
      rw [hnil]
      rfl

/-- The ids of the slaves with a reply that the radio takes, in the order of the
frames. -/
def repliers {n : ℕ} (uids : Fin n → UInt32) (s : Channel n) : List UInt32 :=
  s.answered.flatMap fun a => (taken a.2).map fun r => uids r.1

/-- The traffic is heard by all slaves, with timer callbacks in between. -/
inductive Carries {n : ℕ} : List (Event n) → List Traffic → Prop
  | nil : Carries [] []
  | frame (t : Traffic) {es : List (Event n)} {ts : List Traffic}
      (h : Carries es ts) :
      Carries (.frame t.frame (fun _ => true) :: es) (t :: ts)
  | callback (k : Fin n) (input : GpioInput) {es : List (Event n)}
      {ts : List Traffic} (h : Carries es ts) :
      Carries (.callback k input :: es) ts

/-- However many requests the master sends, to whom and in which order, and
whatever else is on the air: the replies that the radio takes are one for each
request, in the order of the requests, from the slave that was asked. -/
theorem repliers_of_run {n : ℕ} {s s' : Channel n}
    (hids : Function.Injective fun k => (s.slaves k).uid)
    (hfits : ∀ k, Fits (s.slaves k)) {es : List (Event n)} {ts : List Traffic}
    (hes : Carries es ts) (hts : ∀ t ∈ ts, t.Valid fun k => (s.slaves k).uid)
    (hrun : run step s es = some s') :
    repliers (fun k => (s.slaves k).uid) s' =
      repliers (fun k => (s.slaves k).uid) s ++ ts.flatMap Traffic.asked := by
  induction hes generalizing s with
  | nil =>
      cases hrun
      exact (List.append_nil _).symm
  | @frame t es ts hes ih =>
      obtain ⟨ht, hts⟩ := List.forall_mem_cons.mp hts
      obtain ⟨_, hstep, hrun⟩ := run_cons_eq_some.mp hrun
      cases hstep
      have huids : (fun k => (hear s.slaves t.frame (fun _ => true) k).uid) =
          fun k => (s.slaves k).uid := funext fun k => uid_hear _ _ _ k
      have hrest := ih (s := ⟨hear s.slaves t.frame fun _ => true, _⟩)
        (huids ▸ hids) (fun k => fits_hear ht (hfits k)) (huids ▸ hts) hrun
      simp only [huids] at hrest
      rw [hrest, List.flatMap_cons, ← List.append_assoc]
      congr 1
      rw [repliers, List.flatMap_append, List.flatMap_singleton,
        uids_replies hids ht hfits]
      rfl
  | @callback k input es ts hes ih =>
      obtain ⟨t, hstep, hrun⟩ := run_cons_eq_some.mp hrun
      obtain ⟨-, heq⟩ := Option.ite_none_right_eq_some.mp hstep
      cases heq
      set slave : SlaveDevice := { s.slaves k with
        board := Harness.myTimerCallback input (s.slaves k).board } with hslave
      have huids : (fun j => (Function.update s.slaves k slave j).uid) =
          fun j => (s.slaves j).uid := by
        funext j
        rw [Function.update_apply]
        split
        next hj => rw [hj]
        next => rfl
      have hfits' (j : Fin n) : Fits (Function.update s.slaves k slave j) := by
        rw [Function.update_apply]
        split
        next =>
          obtain ⟨hrows, hcols⟩ := ReportSize.rows_cols_myTimerCallback input
            (s.slaves k).board
          rw [Fits, hslave, hrows, hcols]
          exact hfits k
        next => exact hfits j
      have hrest := ih (s := { s with
          slaves := Function.update s.slaves k slave })
        (huids ▸ hids) hfits' (huids ▸ hts) hrun
      simp only [huids] at hrest
      exact hrest

/-- The first of two lines goes to slave 0. -/
def firstLine : CfgCmd :=
  { CfgCmd.zero with cond := 1, totalHarnessNum := 2 }

/-- A configuration, the start and both reports, with two bytes of some other
frame in between. -/
def twoReports : List Traffic :=
  [.request (.condCfg firstLine 0), .sync 0, .request (.readCond 1),
    .foreign [0xAB, 0xCD], .request (.readCond 0)]

/-- Slave 0 scans a row meanwhile. -/
def twoReported : List (Event 2) :=
  (twoReports.take 2).map (fun t => .frame t.frame fun _ => true) ++
    .callback 0 (fun _ _ => true) ::
      (twoReports.drop 2).map fun t => .frame t.frame fun _ => true

theorem repliers_twoReports :
    ∃ s', run step twoSlaves twoReported = some s' ∧
      repliers (fun k => (twoSlaves.slaves k).uid) s' = [] ++ [0, 1, 0] := by
  have hcarries : Carries twoReported twoReports :=
    .frame _ (.frame _ (.callback _ _ (.frame _ (.frame _ (.frame _ .nil)))))
  refine ⟨_, rfl, @repliers_of_run 2 twoSlaves _ (by decide)
    (fun _ => Nat.zero_le _) _ twoReports hcarries ?_ rfl⟩
  have hforeign (k : Fin 2) :
      ¬ AddressedTo (twoSlaves.slaves k).uid [0xAB, 0xCD] := by
    rw [← select_slave_ne_none_iff, not_not]
    rfl
  have hread (id : UInt32) (cfg_cmd : CfgCmd) (timeSlot : UInt8)
      (h : ProcessorCall.readCond id = .condCfg cfg_cmd timeSlot) :
      cfg_cmd.totalHarnessNum.toNat * cfg_cmd.cond.toNat ≤ 8032 := by
    cases h
  simp only [twoReports, List.forall_mem_cons]
  refine ⟨?_, Traffic.valid_sync _ 0,
    Traffic.valid_request 1 rfl (by decide) (hread 1),
    Traffic.valid_foreign hforeign,
    Traffic.valid_request 0 rfl (by decide) (hread 0),
    List.forall_mem_nil _⟩
  apply Traffic.valid_request 0 rfl (by decide)
  rintro cfg_cmd timeSlot ⟨⟩
  decide

end Air

end WirelessHarness
