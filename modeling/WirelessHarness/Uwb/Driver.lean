import WirelessHarness.Support.Runs
import WirelessHarness.Uwb.UciPacket

/-!
# The UWB driver

The driver sends a command packet, waits for the chip's response and checks
it.  Time and the serial port are given as a list of polls: each says what a
turn of a waiting loop finds, or that the loop's time is over.  An unchecked
read outside a vector finds `beyond`.
-/

namespace WirelessHarness

open CheckedRead

/-- One turn of a loop that waits for the chip. -/
inductive Poll
  | received (bytes : Bytes)
  | deadline
deriving DecidableEq, Repr

/-! ## Commands -/

def STATUS_OK : UInt8 := 0x00

def GID0x00 : UInt8 := 0x00

def GID0x03 : UInt8 := 0x03

def CORE_DEVICE_RESET : UInt8 := 0x00

def CORE_DEVICE_STATUS_NTF : UInt8 := 0x01

def CX_APP_DATA_TX : UInt8 := 0x00

def CX_APP_DATA_RX : UInt8 := 0x01

def CX_APP_DATA_STOP_RX : UInt8 := 0x02

def DEVICE_STATE_READY : UInt8 := 0x01

def CX_APP_DATA_TX_MAX_PAYLOAD_LEN : ℕ := MAX_PAYLOAD_LEN - 4

structure UciCMD extends UciCtrlPacket where
  payload : Bytes := []
deriving DecidableEq, Repr

namespace UciCMD

def resetPacker (c : UciCMD) : UciCMD :=
  { c with toUciCtrlPacket := c.reset }

/-- What the packers have in common. -/
def build (c : UciCMD) (gid oid : UInt8) (payload : Bytes) : Bool × UciCMD :=
  let r := UciCtrlPacket.buildPacket
    { c.toUciCtrlPacket with mt := MT_CMD, gid, oid } payload
  (r.1, { toUciCtrlPacket := r.2, payload })

def coreDeviceReset (c : UciCMD) : Bool × UciCMD :=
  c.build GID0x00 CORE_DEVICE_RESET [0x00]

def cxAppDataTx (data : Bytes) (c : UciCMD) : Bool × UciCMD :=
  if CX_APP_DATA_TX_MAX_PAYLOAD_LEN < data.length then (false, c)
  else c.build GID0x03 CX_APP_DATA_TX data

def cxAppDataRx (c : UciCMD) : Bool × UciCMD :=
  c.build GID0x03 CX_APP_DATA_RX []

def cxAppDataStopRx (c : UciCMD) : Bool × UciCMD :=
  c.build GID0x03 CX_APP_DATA_STOP_RX []

/-- What the checks of a response have in common. -/
def checkRsp (gid oid : UInt8) (rsp : UciCtrlPacket) :
    Except OutOfRange Bool :=
  if rsp.mt ≠ MT_RSP then .ok false
  else if rsp.gid ≠ gid then .ok false
  else if rsp.oid ≠ oid then .ok false
  else do
    let status ← readAt rsp.packet 0
    return decide (status = STATUS_OK)

def checkCoreDeviceResetRsp : UciCtrlPacket → Except OutOfRange Bool :=
  checkRsp GID0x00 CORE_DEVICE_RESET

def checkCxAppDataTxRsp : UciCtrlPacket → Except OutOfRange Bool :=
  checkRsp GID0x03 CX_APP_DATA_TX

def checkCxAppDataRxRsp : UciCtrlPacket → Except OutOfRange Bool :=
  checkRsp GID0x03 CX_APP_DATA_RX

def checkCxAppDataStopRxRsp : UciCtrlPacket → Except OutOfRange Bool :=
  checkRsp GID0x03 CX_APP_DATA_STOP_RX

end UciCMD

/-- The closures the driver keeps in `cmd_packer` and `check_rsp`. -/
inductive Command
  | coreDeviceReset
  | cxAppDataTx (data : Bytes)
  | cxAppDataRx
  | cxAppDataStopRx
deriving DecidableEq, Repr

namespace Command

def gid : Command → UInt8
  | coreDeviceReset => GID0x00
  | _ => GID0x03

def oid : Command → UInt8
  | coreDeviceReset => CORE_DEVICE_RESET
  | cxAppDataTx _ => CX_APP_DATA_TX
  | cxAppDataRx => CX_APP_DATA_RX
  | cxAppDataStopRx => CX_APP_DATA_STOP_RX

def pack : Command → UciCMD → Bool × UciCMD
  | coreDeviceReset => UciCMD.coreDeviceReset
  | cxAppDataTx data => UciCMD.cxAppDataTx data
  | cxAppDataRx => UciCMD.cxAppDataRx
  | cxAppDataStopRx => UciCMD.cxAppDataStopRx

def check : Command → UciCtrlPacket → Except OutOfRange Bool
  | coreDeviceReset => UciCMD.checkCoreDeviceResetRsp
  | cxAppDataTx _ => UciCMD.checkCxAppDataTxRsp
  | cxAppDataRx => UciCMD.checkCxAppDataRxRsp
  | cxAppDataStopRx => UciCMD.checkCxAppDataStopRxRsp

theorem check_eq_checkRsp (cmd : Command) :
    cmd.check = UciCMD.checkRsp cmd.gid cmd.oid := by
  cases cmd <;> rfl

end Command

/-! ## The driver object -/

inductive UwbsSTA
  | boot
  | ready
  | active
  | error
deriving DecidableEq, Repr

structure UWB where
  uwbs_sta : UwbsSTA := .boot
  recv_packet : UciCtrlPacket
  uci_cmd : UciCMD
  rx_payload : Bytes := []
  rx_data_queue : Bytes := []
  transparent_data : Bytes := []
  check_rsp : Option Command := none
  cmd_packer : Option Command := none
deriving DecidableEq, Repr

/-- A response packet as `flow_parse` put it together. -/
structure Response where
  gid : UInt8
  oid : UInt8
  payload : Bytes
deriving DecidableEq, Repr

/-- One round of `__send_packet`: the packet sent, the response received if
there was one, and how far its check came. -/
structure Exchange where
  packet : Bytes
  response : Option Response := none
  check : Option (Except OutOfRange Bool) := none

namespace UWB

variable (beyond : OutOfRange → UInt8)

/-- `v[i]`, whatever the size of `v`. -/
def uncheckedRead (v : Bytes) (i : ℕ) : UInt8 :=
  match readAt v i with
  | .ok x => x
  | .error e => beyond e

def notifyProcess (d : UWB) : UWB :=
  if d.recv_packet.gid = GID0x00 then
    if d.recv_packet.oid = CORE_DEVICE_STATUS_NTF then
      if uncheckedRead beyond d.rx_payload 0 = DEVICE_STATE_READY ∧
          d.uwbs_sta = .boot then
        { d with uwbs_sta := .ready }
      else d
    else d
  else if d.recv_packet.gid = GID0x03 then
    if d.recv_packet.oid = CX_APP_DATA_RX then
      if d.rx_payload.length < 2 then d
      else { d with
        transparent_data := d.transparent_data ++ d.rx_payload.drop 2 }
    else d
  else d

/-- Give one byte from the queue to the parser. -/
def parseData (d : UWB) (data : UInt8) : Bool × UWB :=
  let r := d.recv_packet.flowParse data d.rx_payload
  (r.1, { d with recv_packet := r.2.1, rx_payload := r.2.2 })

/-- The inner loop of `__rsp_process`. -/
def rspDrain : UWB → (rx_data_queue : Bytes) → Bool × UWB
  | d, [] => (false, { d with rx_data_queue := [] })
  | d, data :: rx_data_queue =>
      let r := d.parseData data
      if r.1 then
        if r.2.recv_packet.mt = MT_RSP then (true, { r.2 with rx_data_queue })
        else if r.2.recv_packet.mt = MT_NTF then
          rspDrain (r.2.notifyProcess beyond) rx_data_queue
        else rspDrain r.2 rx_data_queue
      else rspDrain r.2 rx_data_queue

def rspProcess : UWB → List Poll → Bool × UWB × List Poll
  | d, [] => (false, d, [])
  | d, .deadline :: polls => (false, d, polls)
  | d, .received bytes :: polls =>
      match rspDrain beyond d (d.rx_data_queue ++ bytes) with
      | (true, d) => (true, d, polls)
      | (false, d) => rspProcess d polls

/-- The loop of `__listening_ntf`. -/
def ntfDrain : UWB → (rx_data_queue : Bytes) → UWB
  | d, [] => { d with rx_data_queue := [] }
  | d, data :: rx_data_queue =>
      let r := d.parseData data
      if r.1 ∧ r.2.recv_packet.mt = MT_NTF then
        ntfDrain (r.2.notifyProcess beyond) rx_data_queue
      else ntfDrain r.2 rx_data_queue

def update (d : UWB) (bytes : Bytes) : UWB :=
  ntfDrain beyond d (d.rx_data_queue ++ bytes)

/-! ## Sending -/

structure Outcome where
  ret : Bool
  driver : UWB
  polls : List Poll
  exchanges : List Exchange

/-- The answer of a check whose read may have left the vector. -/
def verdict : Except OutOfRange Bool → Bool
  | .ok passed => passed
  | .error e => decide (beyond e = STATUS_OK)

/-- The loop of `__send_packet`.  `send_flag` is set before the loop and by the
only branch that goes round again, so every round sends. -/
def sendLoop (packer checker : Command) :
    ℕ → UWB → List Poll → Option Outcome
  | 0, _, _ => none
  | fuel + 1, d, polls =>
      let packed := packer.pack d.uci_cmd
      let packet := packed.2.packet
      match rspProcess beyond { d with uci_cmd := packed.2 } polls with
      | (false, d, polls) => some ⟨false, d, polls, [{ packet }]⟩
      | (true, d, polls) =>
          let check := checker.check d.recv_packet
          let exchange : Exchange :=
            { packet
              response := some
                ⟨d.recv_packet.gid, d.recv_packet.oid, d.rx_payload⟩
              check := some check }
          if verdict beyond check then
            if packed.1 then some ⟨true, d, polls, [exchange]⟩
            else (sendLoop packer checker fuel d polls).map fun o =>
              { o with exchanges := exchange :: o.exchanges }
          else some ⟨false, d, polls, [exchange]⟩

/-- Waiting with success uses up a poll. -/
theorem length_rspProcess {beyond : OutOfRange → UInt8}
    {polls polls' : List Poll} {d d' : UWB}
    (h : rspProcess beyond d polls = (true, d', polls')) :
    polls'.length < polls.length := by
  induction polls generalizing d with
  | nil => simp [rspProcess] at h
  | cons poll polls ih =>
      cases poll with
      | deadline => simp [rspProcess] at h
      | received bytes =>
          rw [rspProcess] at h
          split at h
          · cases h
            simp
          · exact (ih h).trans (by simp)

/-- A round that does not end the loop has used up a poll. -/
theorem isSome_sendLoop {beyond : OutOfRange → UInt8}
    (packer checker : Command) {fuel : ℕ} {polls : List Poll} (d : UWB)
    (h : polls.length < fuel) :
    (sendLoop beyond packer checker fuel d polls).isSome := by
  induction fuel generalizing d polls with
  | zero => omega
  | succ fuel ih =>
      simp only [sendLoop]
      split
      · rfl
      next d₁ polls₁ hrsp =>
        have hlt := length_rspProcess hrsp
        split
        · split
          · rfl
          · rw [Option.isSome_map]
            exact ih d₁ (by omega)
        · rfl

def sendPacket (d : UWB) (polls : List Poll) : Option Outcome :=
  match d.cmd_packer, d.check_rsp with
  | some packer, some checker =>
      (sendLoop beyond packer checker (polls.length + 1) d polls).map fun o =>
        { o with
          driver := { o.driver with
            uci_cmd := o.driver.uci_cmd.resetPacker
            cmd_packer := none
            check_rsp := none } }
  | _, _ => some ⟨false, d, polls, []⟩

/-- `__send_packet` always comes back. -/
theorem isSome_sendPacket {beyond : OutOfRange → UInt8} (d : UWB)
    (polls : List Poll) : (sendPacket beyond d polls).isSome := by
  rw [sendPacket]
  split
  · rw [Option.isSome_map]
    exact isSome_sendLoop _ _ d (Nat.lt_succ_self _)
  · rfl

/-- `cmd_packer` and `check_rsp` are set together, for one command. -/
def prepare (d : UWB) (cmd : Command) : UWB :=
  { d with cmd_packer := some cmd, check_rsp := some cmd }

def dataTransmit (data : Bytes) (d : UWB) (polls : List Poll) :
    Option Outcome :=
  if d.uwbs_sta ≠ .ready then some ⟨false, d, polls, []⟩
  else if data = [] then some ⟨true, d, polls, []⟩
  else sendPacket beyond (d.prepare (.cxAppDataTx data)) polls

def setRecvMode (d : UWB) (polls : List Poll) : Option Outcome :=
  if d.uwbs_sta ≠ .ready then some ⟨false, d, polls, []⟩
  else sendPacket beyond (d.prepare .cxAppDataRx) polls

def stopRecv (d : UWB) (polls : List Poll) : Option Outcome :=
  if d.uwbs_sta ≠ .ready then some ⟨false, d, polls, []⟩
  else sendPacket beyond (d.prepare .cxAppDataStopRx) polls

def getRecvData (d : UWB) (bytes : Bytes) : Option Bytes × UWB :=
  let d := update beyond d bytes
  if d.uwbs_sta ≠ .ready then (none, d)
  else if d.transparent_data = [] then (none, d)
  else (some d.transparent_data, { d with transparent_data := [] })

/-! ## Resetting -/

/-- Update until the chip reports that it is ready. -/
def waitReady : UWB → List Poll → Bool × UWB × List Poll
  | d, [] => (false, d, [])
  | d, .deadline :: polls => (false, d, polls)
  | d, .received bytes :: polls =>
      let d := update beyond d bytes
      if d.uwbs_sta = .ready then (true, d, polls) else waitReady d polls

/-- A failed software reset is followed by a hardware reset. -/
def reset (d : UWB) (polls : List Poll) : Option (Bool × UWB × List Poll) :=
  let d := { d with
    uwbs_sta := .boot
    uci_cmd := d.uci_cmd.coreDeviceReset.2 }
  (sendPacket beyond (d.prepare .coreDeviceReset) polls).map fun o =>
    if o.ret then
      match waitReady beyond o.driver o.polls with
      | (true, d, polls) => (true, d, polls)
      | (false, d, polls) => waitReady beyond d polls
    else waitReady beyond o.driver o.polls

/-- The constructor, from the values in the uninitialized fields. -/
def construct (recv_packet : UciCtrlPacket) (uci_cmd : UciCMD)
    (polls : List Poll) : Option UWB :=
  let (_, d, polls) := waitReady beyond { recv_packet, uci_cmd } polls
  (reset beyond d polls).map fun r => r.2.1

end UWB

end WirelessHarness
