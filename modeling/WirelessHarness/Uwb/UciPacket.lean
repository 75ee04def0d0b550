import WirelessHarness.Protocol.Frame

/-!
# UCI control packets

One object both cuts a payload into packets (`buildPacket`, one packet a call)
and reassembles packets from single bytes (`flowParse`, one byte a call).  The
two directions share the length, offset and flag fields.
-/

namespace WirelessHarness

open ByteOrder

def UCI_CTRL_PKT_HDR_SIZE : ℕ := 4

def MAX_PAYLOAD_LEN : ℕ := 1024

def MT_CMD : UInt8 := 1

def MT_RSP : UInt8 := 2

def MT_NTF : UInt8 := 3

def PBF_COMPLETE : UInt8 := 0

def PBF_SEGMENT : UInt8 := 1

inductive ParserSta
  | parseStart
  | mtPbfGidByte
  | oidByte
  | rfuByte
  | payloadLenByte
  | payloadBytes
deriving DecidableEq, Repr

/-- The fields without a default are not initialized by the constructor. -/
structure UciCtrlPacket where
  mt : UInt8
  gid : UInt8
  oid : UInt8
  packet : Bytes := []
  sending : Bool := false
  pbf : UInt8
  current_packet_len : UInt16 := 0
  payload_offset : UInt16 := 0
  currunt_payload_len : UInt16 := 0
  is_last_packet : Bool := true
  parser_sta : ParserSta := .parseStart
  pkt_recv_len : UInt16 := 0
  recv_packet : Bool := false
deriving DecidableEq, Repr

namespace UciCtrlPacket

/-- An object as constructed, with these values in its uninitialized fields. -/
def init (mt gid oid pbf : UInt8) : UciCtrlPacket :=
  { mt, gid, oid, pbf }

def reset (p : UciCtrlPacket) : UciCtrlPacket :=
  { p with
    sending := false
    current_packet_len := 0
    payload_offset := 0
    currunt_payload_len := 0
    is_last_packet := true
    parser_sta := .parseStart
    pkt_recv_len := 0
    recv_packet := false }

/-! ## Building -/

/-- `a - b` in `size_t`, which has 32 bits. -/
def sizeSub (a b : ℕ) : ℕ :=
  if b ≤ a then a - b else 2 ^ 32 + a - b

/-- The four bytes `__build_header` writes. -/
def buildHeader (mt pbf gid oid : UInt8) (currunt_payload_len : UInt16) :
    Bytes :=
  [(mt &&& 0x07) <<< 5 ||| (pbf &&& 0x01) <<< 4 ||| (gid &&& 0x0F),
    oid &&& 0x3F, (currunt_payload_len >>> 8).toUInt8,
    (currunt_payload_len &&& 0xFF).toUInt8]

/-- The next packet of `total_payload`, and whether it is the last one.  The
range copied behind the header lies in the vector as long as `payload_offset`
does. -/
def buildPacket (p : UciCtrlPacket) (total_payload : Bytes) :
    Bool × UciCtrlPacket :=
  let residual_len := sizeSub total_payload.length p.payload_offset.toNat
  let is_last_packet := decide (residual_len ≤ MAX_PAYLOAD_LEN)
  let currunt_payload_len : UInt16 :=
    if is_last_packet then UInt16.ofNat residual_len
    else UInt16.ofNat MAX_PAYLOAD_LEN
  let pbf := if is_last_packet then PBF_COMPLETE else PBF_SEGMENT
  (is_last_packet,
    { p with
      pbf
      is_last_packet
      currunt_payload_len
      current_packet_len :=
        currunt_payload_len + UInt16.ofNat UCI_CTRL_PKT_HDR_SIZE
      packet := buildHeader p.mt pbf p.gid p.oid currunt_payload_len ++
        (total_payload.drop p.payload_offset.toNat).take
          currunt_payload_len.toNat
      payload_offset :=
        if is_last_packet then 0 else p.payload_offset + currunt_payload_len
      sending := !is_last_packet })

/-- The packets of calling `buildPacket` until it returns `true`, if that
takes at most `fuel` calls. -/
def buildPackets : ℕ → UciCtrlPacket → Bytes → Option (List Bytes)
  | 0, _, _ => none
  | fuel + 1, p, total_payload =>
      match p.buildPacket total_payload with
      | (true, p) => some [p.packet]
      | (false, p) =>
          (buildPackets fuel p total_payload).map (p.packet :: ·)

/-! ## Parsing -/

/-- The case `MT_PBF_GID_BYTE`. -/
def parseFirstByte (p : UciCtrlPacket) (data : UInt8) : UciCtrlPacket :=
  let mt := (data >>> 5) &&& 0x07
  let pbf := (data >>> 4) &&& 0x01
  let p := { p with mt, pbf, gid := data &&& 0x0F }
  if mt ≠ MT_CMD ∧ mt ≠ MT_RSP ∧ mt ≠ MT_NTF then
    { p with parser_sta := .parseStart }
  else
    { p with
      is_last_packet := decide (pbf = PBF_COMPLETE)
      parser_sta := .oidByte }

/-- The `switch` of `flow_parse`; the case `PARSE_START` falls through. -/
def parseByte (p : UciCtrlPacket) (data : UInt8) (total_payload : Bytes) :
    UciCtrlPacket × Bytes :=
  match p.parser_sta with
  | .parseStart => (parseFirstByte { p with recv_packet := false } data, [])
  | .mtPbfGidByte => (parseFirstByte p data, total_payload)
  | .oidByte =>
      ({ p with
        oid := data &&& 0x3F
        currunt_payload_len := 0
        parser_sta := .rfuByte }, total_payload)
  | .rfuByte =>
      ({ p with
        currunt_payload_len :=
          p.currunt_payload_len ||| (data.toUInt16 <<< 8)
        parser_sta := .payloadLenByte }, total_payload)
  | .payloadLenByte =>
      let p := { p with
        currunt_payload_len := p.currunt_payload_len ||| data.toUInt16
        pkt_recv_len := 0 }
      if 0 < p.currunt_payload_len.toNat then
        ({ p with parser_sta := .payloadBytes }, total_payload)
      else
        ({ p with recv_packet := true, parser_sta := .parseStart },
          total_payload)
  | .payloadBytes =>
      let p := { p with pkt_recv_len := p.pkt_recv_len + 1 }
      let total_payload := total_payload ++ [data]
      if p.pkt_recv_len = p.currunt_payload_len then
        ({ p with
          recv_packet := true
          parser_sta :=
            if p.is_last_packet then .parseStart else .mtPbfGidByte },
          total_payload)
      else (p, total_payload)

def flowParse (p : UciCtrlPacket) (data : UInt8) (total_payload : Bytes) :
    Bool × UciCtrlPacket × Bytes :=
  let r := p.parseByte data total_payload
  (r.1.is_last_packet && r.1.recv_packet, r)

/-- Feed bytes in order, collecting what each call returns. -/
def feed (p : UciCtrlPacket) (total_payload : Bytes) :
    Bytes → List Bool × UciCtrlPacket × Bytes
  | [] => ([], p, total_payload)
  | data :: rest =>
      let r := p.flowParse data total_payload
      let s := r.2.1.feed r.2.2 rest
      (r.1 :: s.1, s.2)

theorem feed_append (p : UciCtrlPacket) (total_payload xs ys : Bytes) :
    p.feed total_payload (xs ++ ys) =
      let r := p.feed total_payload xs
      let s := r.2.1.feed r.2.2 ys
      (r.1 ++ s.1, s.2) := by
  induction xs generalizing p total_payload with
  | nil => rfl
  | cons x xs ih => simp [feed, ih]

/-- Parsing never touches the `packet` field. -/
@[simp] theorem packet_flowParse (p : UciCtrlPacket) (data : UInt8)
    (total_payload : Bytes) :
    (p.flowParse data total_payload).2.1.packet = p.packet := by
  have hfirst (p : UciCtrlPacket) :
      (parseFirstByte p data).packet = p.packet := by
    simp only [parseFirstByte]
    split <;> rfl
  simp only [flowParse, parseByte]
  split <;> try rfl
  · exact hfirst _
  · exact hfirst _
  · split <;> rfl
  · split <;> rfl

end UciCtrlPacket

/-- The header fields a message can be sent under. -/
structure MessageId where
  mt : UInt8
  gid : UInt8
  oid : UInt8
  mt_known : mt = MT_CMD ∨ mt = MT_RSP ∨ mt = MT_NTF
  gid_lt : gid < 16
  oid_lt : oid < 64

namespace MessageId

open UciCtrlPacket

/-- The bytes of one packet. -/
def packet (id : MessageId) (pbf : UInt8) (payload : Bytes) : Bytes :=
  buildHeader id.mt pbf id.gid id.oid (UInt16.ofNat payload.length) ++ payload

/-- A message as the list of its packets: full segments, then the rest. -/
def packets (id : MessageId) (payload : Bytes) : List Bytes :=
  if payload.length ≤ MAX_PAYLOAD_LEN then
    [id.packet PBF_COMPLETE payload]
  else
    id.packet PBF_SEGMENT (payload.take MAX_PAYLOAD_LEN) ::
      id.packets (payload.drop MAX_PAYLOAD_LEN)
termination_by payload.length
decreasing_by simp [MAX_PAYLOAD_LEN] at *; omega

@[simp] theorem length_packet (id : MessageId) (pbf : UInt8)
    (payload : Bytes) :
    (id.packet pbf payload).length = UCI_CTRL_PKT_HDR_SIZE + payload.length := by
  simp [packet, buildHeader, UCI_CTRL_PKT_HDR_SIZE]
  omega

end MessageId

end WirelessHarness
