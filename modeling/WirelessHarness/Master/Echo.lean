import WirelessHarness.Master.Dispatch
import WirelessHarness.Protocol.RoundTrip

/-!
# Replies echo the request

A reply to a list command is built record by record while the devices are
commanded.  Whatever earlier commands left behind and however the commands to
the devices turn out, the backend reads its own list from the reply.
-/

namespace WirelessHarness

open CheckedRead

/-- A backend command with a list of devices. -/
inductive ListRequest
  | slaveCfg (m : Backend2Master.SlaveCfgMsg)
  | rst (m : Backend2Master.RstMsg)

namespace ListRequest

def frame : ListRequest → Bytes
  | slaveCfg m =>
      FramePacker.packBackend2Master
        (PacketPacker.backend2MasterPack .slaveCfgMsg m)
  | rst m =>
      FramePacker.packBackend2Master
        (PacketPacker.backend2MasterPack .rstMsg m)

/-- The count is the number of records. -/
def Counted : ListRequest → Prop
  | slaveCfg m => m.slaveNum.toNat = m.slaves.length
  | rst m => m.slaveNum.toNat = m.slaves.length

/-- A reply of the same kind with the request's list and its length. -/
def EchoedBy : ListRequest → DecodedMessage → Prop
  | slaveCfg m, ⟨.master2Backend .slaveCfgMsg, reply⟩ =>
      reply.slaves = m.slaves ∧ reply.slaveNum.toNat = m.slaves.length
  | rst m, ⟨.master2Backend .rstMsg, reply⟩ =>
      reply.slaves = m.slaves ∧ reply.slaveNum.toNat = m.slaves.length
  | _, _ => False

end ListRequest

/-- The count of a reply is not narrowed. -/
theorem toNat_slave_num {n : ℕ} (h : n < 256) :
    (UInt16.ofNat n).toUInt8.toNat = n := by
  rw [UInt16.toNat_toUInt8, UInt16.toNat_ofNat']
  omega

namespace ProtocolMessageForward

variable {σ : Type}

/-- The frame of a command reaches its forwarder with the command's fields in
the static memory. -/
theorem forward_pack (port : CommandPort σ) (self : ProtocolMessageForward)
    {id : Backend2MasterMessageID}
    {fields : (MessageClass.backend2Master id).Fields}
    (h : Consistent (.backend2Master id) fields) (sys : σ) :
    forward port self (FramePacker.packBackend2Master
        (PacketPacker.backend2MasterPack id fields)) sys =
      .ok (dispatch port
        { self with
          statics := self.statics.store (.backend2Master id) fields
          rx_msg_id := id } sys) := by
  have hsel := FrameParser.select_packBackend2Master 0 id
    (length_serializePayload_backend2Master h)
  have hdec := decode_serializePayload (by simp) h
  exact self.forward_of_decode port hsel hdec sys

/-- The backend reads a consistent reply, whichever status it carries. -/
theorem returns_reply (port : CommandPort σ) (self : ProtocolMessageForward)
    (sys : σ) (uid : UInt32) (st : Statics) {id : Master2BackendMessageID}
    {msg : Bool → (MessageClass.master2Backend id).Fields}
    (hreply : ∀ is_success, self.reply is_success =
      FramePacker.packMaster2Backend
        (PacketPacker.master2BackendPack id (msg is_success)))
    (h : ∀ is_success, Consistent (.master2Backend id) (msg is_success)) :
    ∃ is_success, FrameParser.Returns .backend uid
      (dispatch port self sys).1.rsp_packet st
      ⟨.master2Backend id, msg is_success⟩ := by
  have hpacket := (dispatch_eq port self sys).1
  rw [hreply] at hpacket
  rw [hpacket]
  exact ⟨_, FrameParser.returns_master2BackendPack uid st id _ (h _)⟩

/-- Whatever happened before and whatever the devices answer, the reply to a
list command carries the list of the command. -/
theorem reply_echoes (port : CommandPort σ) (self : ProtocolMessageForward)
    (sys : σ) (request : ListRequest) (uid : UInt32) (st : Statics)
    (h : request.Counted) :
    ∃ self' sys' reply,
      forward port self request.frame sys = .ok (self', sys') ∧
        FrameParser.Returns .backend uid self'.rsp_packet st reply ∧
        request.EchoedBy reply := by
  cases request with
  | slaveCfg m =>
      have hcount : m.slaveNum.toNat = m.slaves.length := h
      have hnum := toNat_slave_num (hcount ▸ m.slaveNum.toNat_lt)
      have hforward := @forward_pack _ port self .slaveCfgMsg m h sys
      obtain ⟨is_success, hreturns⟩ := returns_reply port
        { self with
          statics := self.statics.store (.backend2Master .slaveCfgMsg) m
          rx_msg_id := .slaveCfgMsg } sys uid st
        (fun _ => rfl) (fun _ => hnum)
      exact ⟨_, _, _, hforward, hreturns, rfl, hnum⟩
  | rst m =>
      have hcount : m.slaveNum.toNat = m.slaves.length := h
      have hnum := toNat_slave_num (hcount ▸ m.slaveNum.toNat_lt)
      have hforward := @forward_pack _ port self .rstMsg m h sys
      obtain ⟨is_success, hreturns⟩ := returns_reply port
        { self with
          statics := self.statics.store (.backend2Master .rstMsg) m
          rx_msg_id := .rstMsg } sys uid st
        (fun _ => rfl) (fun _ => hnum)
      exact ⟨_, _, _, hforward, hreturns, rfl, hnum⟩

/-- A manager that lets every wait time out. -/
def silentPort : CommandPort Unit where
  forward _ s := (false, s)
  event _ _ := false

/-- A reset of two devices. -/
def twoResets : ListRequest :=
  .rst ⟨2, [⟨0x01020304, 1, 0x00FF⟩, ⟨0x05060708, 0, 0xFF00⟩]⟩

theorem reply_echoes_twoResets :
    ∃ self' sys' reply,
      forward silentPort {} twoResets.frame () = .ok (self', sys') ∧
        FrameParser.Returns .backend 0 self'.rsp_packet {} reply ∧
        twoResets.EchoedBy reply :=
  reply_echoes silentPort {} () twoResets 0 {} rfl

end ProtocolMessageForward

end WirelessHarness
