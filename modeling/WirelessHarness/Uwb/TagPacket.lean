import WirelessHarness.Support.ByteOrder

/-!
# Packets of a tag

`UWBPacketBuilder` wraps user data in six layers, each with a size field that
is masked to its width.  A receiver that follows the size fields and checks the
checksums gets back what was sent exactly when the smallest of the fields, the
10-bit message size of the packet layer, holds its value: up to 1016 bytes of
user data.
-/

namespace WirelessHarness

open ByteOrder

/-! ## The builder -/

structure UWBPacketBuilder where
  tag_uid_ : List UInt8
  tx_counter_ : UInt32
  current_packet_ : List UInt8

namespace UWBPacketBuilder

/-- The constructor accepts a uid of any length. -/
def construct (tag_uid : List UInt8) : UWBPacketBuilder where
  tag_uid_ := tag_uid
  tx_counter_ := 0
  current_packet_ := []

def calculateHeaderChecksum (sof : UInt8) (payload_size : UInt16) : UInt8 :=
  sof + payload_size.toUInt8 + (payload_size >>> 8).toUInt8

def calculateFrameChecksum (frame_data : List UInt8) : UInt16 :=
  frame_data.foldl (fun sum byte => sum + byte.toUInt16) 0

/-- The type and both reserved fields are 0; the size goes through a bit field
of 12 bits. -/
def buildTag2BackendPayload (user_data : List UInt8) (b : UWBPacketBuilder) :
    UWBPacketBuilder :=
  let reserved := 0
  let type := 0
  let reserved2 := 0
  let payload_size := user_data.length % 2 ^ 12
  let type_info_value := UInt32.ofNat ((payload_size &&& 0xFFF) |||
    ((reserved2 &&& 0x3) <<< 12) ||| ((type &&& 0x3FF) <<< 14) |||
    ((reserved &&& 0xFF) <<< 24))
  { b with
    current_packet_ := [b.tx_counter_.toUInt8] ++
      (bytes32 type_info_value).reverse ++ user_data }

def buildTagBlinkMsgPayload (b : UWBPacketBuilder) : UWBPacketBuilder :=
  { b with current_packet_ := (bytes32 b.tx_counter_).reverse ++ [1] }

def MSG_ID_TAG2USER : ℕ := 43

def buildTag2BackendMsg (b : UWBPacketBuilder) : UWBPacketBuilder :=
  let msg_payload := b.current_packet_
  let msg_id_size := UInt16.ofNat
    ((MSG_ID_TAG2USER <<< 10) ||| (msg_payload.length &&& 0x3FF))
  { b with current_packet_ := (bytes16 msg_id_size).reverse ++ msg_payload }

def buildTagBlinkMsg (b : UWBPacketBuilder) : UWBPacketBuilder :=
  { b with current_packet_ := [0x48, 0x01] ++ b.current_packet_ }

def buildTag2BackendSharedData (b : UWBPacketBuilder) : UWBPacketBuilder :=
  { b with current_packet_ :=
      b.tag_uid_ ++ (bytes32 b.tx_counter_).reverse ++ b.current_packet_ }

def buildTagBlinkSharedData (b : UWBPacketBuilder) : UWBPacketBuilder :=
  { b with current_packet_ := b.tag_uid_ ++ b.current_packet_ }

def PACKET_ID_TAG2BACKEND : UInt8 := 2

/-- With a uid of 8 bytes the subtraction does not wrap. -/
def buildTag2BackendPacketLayer (b : UWBPacketBuilder) : UWBPacketBuilder :=
  let shared_data_msg := b.current_packet_
  let shared_size := 12
  let msg_size := shared_data_msg.length - shared_size
  let size_info := UInt16.ofNat
    (((shared_size &&& 0x3F) <<< 10) ||| (msg_size &&& 0x3FF))
  { b with current_packet_ := [PACKET_ID_TAG2BACKEND] ++
      (bytes16 size_info).reverse ++ shared_data_msg }

def buildTagBlinkPacketLayer (b : UWBPacketBuilder) : UWBPacketBuilder :=
  { b with current_packet_ := [0x06, 0xC8, 0x01] ++ b.current_packet_ }

def SOF : UInt8 := 0xAA

def buildFrame (b : UWBPacketBuilder) : UWBPacketBuilder :=
  let packet_data := b.current_packet_
  let payload_size := UInt16.ofNat packet_data.length
  let frame := [SOF] ++ bytes16 payload_size ++
    [calculateHeaderChecksum SOF payload_size] ++ packet_data
  { b with current_packet_ :=
      frame ++ bytes16 (calculateFrameChecksum frame) }

def buildUCI (b : UWBPacketBuilder) : UWBPacketBuilder :=
  let frame_data := b.current_packet_
  let size := UInt16.ofNat frame_data.length
  { b with current_packet_ :=
      [0x23, 0x00] ++ (bytes16 size).reverse ++ frame_data }

/-- The packet is `current_packet_`. -/
def buildTag2BackendPacket (user_data : List UInt8) (b : UWBPacketBuilder) :
    UWBPacketBuilder :=
  let b := { b with current_packet_ := [], tx_counter_ := b.tx_counter_ + 1 }
  b.buildTag2BackendPayload user_data |>.buildTag2BackendMsg
    |>.buildTag2BackendSharedData |>.buildTag2BackendPacketLayer
    |>.buildFrame |>.buildUCI

def buildTagBlinkPacket (b : UWBPacketBuilder) : UWBPacketBuilder :=
  let b := { b with current_packet_ := [], tx_counter_ := b.tx_counter_ + 1 }
  b.buildTagBlinkMsgPayload.buildTagBlinkMsg.buildTagBlinkSharedData
    |>.buildTagBlinkPacketLayer |>.buildFrame |>.buildUCI

/-- A call of one of the two build functions. -/
inductive Call
  | tag2Backend (user_data : List UInt8)
  | tagBlink

def perform (b : UWBPacketBuilder) : Call → UWBPacketBuilder
  | .tag2Backend user_data => b.buildTag2BackendPacket user_data
  | .tagBlink => b.buildTagBlinkPacket

end UWBPacketBuilder

/-! ## A receiver

One function a layer.  Each takes the layer off only if its size fields are the
byte counts of its parts and its checksums are right. -/

namespace TagReceiver

def byteSum (bytes : List UInt8) : ℕ :=
  (bytes.map UInt8.toNat).sum

def readUCI : List UInt8 → Option (List UInt8)
  | header :: oid :: hi :: lo :: frame =>
      if header = 0x23 ∧ oid = 0x00 ∧ (word16 lo hi).toNat = frame.length then
        some frame
      else none
  | _ => none

def readFrame : List UInt8 → Option (List UInt8)
  | sof :: lo :: hi :: header_checksum :: rest =>
      let packet := rest.take (rest.length - 2)
      let covered := sof :: lo :: hi :: header_checksum :: packet
      if sof = 0xAA ∧ (word16 lo hi).toNat = packet.length ∧
          header_checksum.toNat = byteSum [sof, lo, hi] % 2 ^ 8 ∧
          rest.drop packet.length =
            bytes16 (UInt16.ofNat (byteSum covered)) then
        some packet
      else none
  | _ => none

/-- The shared data and the message. -/
def readPacket : List UInt8 → Option (List UInt8 × List UInt8)
  | packet_id :: hi :: lo :: rest =>
      let size_info := (word16 lo hi).toNat
      let shared := rest.take 12
      let msg := rest.drop 12
      if packet_id = 2 ∧ size_info / 2 ^ 10 = shared.length ∧
          size_info % 2 ^ 10 = msg.length then
        some (shared, msg)
      else none
  | _ => none

/-- The uid and the counter. -/
def readSharedData (shared : List UInt8) : Option (List UInt8 × UInt32) :=
  match shared.drop 8 with
  | [c₃, c₂, c₁, c₀] => some (shared.take 8, word32 c₀ c₁ c₂ c₃)
  | _ => none

def readMsg : List UInt8 → Option (List UInt8)
  | hi :: lo :: payload =>
      let msg_id_size := (word16 lo hi).toNat
      if msg_id_size / 2 ^ 10 = 43 ∧
          msg_id_size % 2 ^ 10 = payload.length then
        some payload
      else none
  | _ => none

/-- The low byte of the counter and the user data. -/
def readPayload : List UInt8 → Option (UInt8 × List UInt8)
  | tx_cnt :: t₃ :: t₂ :: t₁ :: t₀ :: user_data =>
      if (word32 t₀ t₁ t₂ t₃).toNat % 2 ^ 12 = user_data.length then
        some (tx_cnt, user_data)
      else none
  | _ => none

structure Received where
  tag_uid : List UInt8
  tx_counter : UInt32
  tx_cnt : UInt8
  user_data : List UInt8
deriving DecidableEq, Repr

def read (packet : List UInt8) : Option Received := do
  let frame ← readUCI packet
  let packet ← readFrame frame
  let (shared, msg) ← readPacket packet
  let (tag_uid, tx_counter) ← readSharedData shared
  let payload ← readMsg msg
  let (tx_cnt, user_data) ← readPayload payload
  return ⟨tag_uid, tx_counter, tx_cnt, user_data⟩

end TagReceiver

/-! ## Fields and checksums -/

open UWBPacketBuilder TagReceiver

/-- A 6-bit number above a masked 10-bit size. -/
theorem toNat_sizeWord {k : ℕ} (hk : k < 64) (n : ℕ) :
    (UInt16.ofNat ((k <<< 10) ||| (n &&& 0x3FF))).toNat =
      k * 2 ^ 10 + n % 2 ^ 10 := by
  have hand : n &&& 0x3FF = n % 2 ^ 10 := Nat.and_two_pow_sub_one_eq_mod n 10
  have hlt : n % 2 ^ 10 < 2 ^ 10 := Nat.mod_lt n (by norm_num)
  rw [hand, ← Nat.shiftLeft_add_eq_or_of_lt hlt, Nat.shiftLeft_eq,
    UInt16.toNat_ofNat']
  omega

theorem toNat_foldl_add (sum : UInt16) (bytes : List UInt8) :
    (bytes.foldl (fun sum byte => sum + byte.toUInt16) sum).toNat =
      (sum.toNat + byteSum bytes) % 2 ^ 16 := by
  induction bytes generalizing sum with
  | nil => simp [byteSum, Nat.mod_eq_of_lt sum.toNat_lt]
  | cons byte bytes ih =>
      rw [List.foldl_cons, ih, UInt16.toNat_add, UInt8.toNat_toUInt16]
      simp only [byteSum, List.map_cons, List.sum_cons]
      omega

/-- The running 16-bit sum is the sum of the bytes modulo 65536. -/
theorem calculateFrameChecksum_eq (bytes : List UInt8) :
    calculateFrameChecksum bytes = UInt16.ofNat (byteSum bytes) := by
  apply UInt16.toNat_inj.mp
  rw [calculateFrameChecksum, toNat_foldl_add, UInt16.toNat_ofNat']
  simp

theorem toNat_calculateHeaderChecksum (sof : UInt8) (size : UInt16) :
    (calculateHeaderChecksum sof size).toNat =
      byteSum [sof, size.toUInt8, (size >>> 8).toUInt8] % 2 ^ 8 := by
  simp only [calculateHeaderChecksum, UInt8.toNat_add, byteSum,
    List.map_cons, List.map_nil, List.sum_cons, List.sum_nil]
  omega

/-! ## One layer at a time -/

theorem toNat_ofNat_length_iff (bytes : List UInt8) :
    (UInt16.ofNat bytes.length).toNat = bytes.length ↔
      bytes.length < 2 ^ 16 := by
  rw [UInt16.toNat_ofNat', Nat.mod_eq_iff_lt (by norm_num)]

theorem readUCI_buildUCI (b : UWBPacketBuilder) :
    readUCI b.buildUCI.current_packet_ =
      if b.current_packet_.length < 2 ^ 16 then some b.current_packet_
      else none := by
  simp only [buildUCI, bytes16, List.reverse_cons, List.reverse_nil,
    List.nil_append, List.cons_append, readUCI, word16_bytes,
    toNat_ofNat_length_iff, true_and]

theorem readFrame_buildFrame (b : UWBPacketBuilder) :
    readFrame b.buildFrame.current_packet_ =
      if b.current_packet_.length < 2 ^ 16 then some b.current_packet_
      else none := by
  have hsize := toNat_ofNat_length_iff b.current_packet_
  generalize hword : UInt16.ofNat b.current_packet_.length = size at hsize
  have hheader := toNat_calculateHeaderChecksum SOF size
  simp only [buildFrame, hword]
  generalize hsum : calculateFrameChecksum _ = checksum
  rw [calculateFrameChecksum_eq] at hsum
  simp only [List.cons_append, List.nil_append, bytes16] at hsum ⊢
  have htake : (b.current_packet_ ++
      [checksum.toUInt8, (checksum >>> 8).toUInt8]).take
        ((b.current_packet_ ++
          [checksum.toUInt8, (checksum >>> 8).toUInt8]).length - 2) =
      b.current_packet_ := by
    simp
  simp only [readFrame, htake, word16_bytes, List.drop_left, hsum, hheader]
  refine if_congr ?_ rfl rfl
  simp [SOF, bytes16, hsize]

theorem readPacket_buildTag2BackendPacketLayer (b : UWBPacketBuilder)
    (hshared : 12 ≤ b.current_packet_.length) :
    readPacket b.buildTag2BackendPacketLayer.current_packet_ =
      if b.current_packet_.length - 12 < 2 ^ 10 then
        some (b.current_packet_.take 12, b.current_packet_.drop 12)
      else none := by
  have hmask : (12 : ℕ) &&& 0x3F = 12 := rfl
  have hword := toNat_sizeWord (k := 12) (by norm_num)
    (b.current_packet_.length - 12)
  simp only [buildTag2BackendPacketLayer, hmask, bytes16, List.reverse_cons,
    List.reverse_nil, List.nil_append, List.cons_append, readPacket,
    word16_bytes, hword, PACKET_ID_TAG2BACKEND, List.length_take,
    List.length_drop, true_and]
  have hlt := Nat.mod_lt (b.current_packet_.length - 12)
    (show 0 < 2 ^ 10 by norm_num)
  refine if_congr ?_ rfl rfl
  omega

theorem readMsg_buildTag2BackendMsg (b : UWBPacketBuilder) :
    readMsg b.buildTag2BackendMsg.current_packet_ =
      if b.current_packet_.length < 2 ^ 10 then some b.current_packet_
      else none := by
  have hword := toNat_sizeWord (k := 43) (by norm_num)
    b.current_packet_.length
  simp only [buildTag2BackendMsg, MSG_ID_TAG2USER, bytes16,
    List.reverse_cons, List.reverse_nil, List.nil_append, List.cons_append,
    readMsg, word16_bytes, hword]
  have hlt := Nat.mod_lt b.current_packet_.length (show 0 < 2 ^ 10 by norm_num)
  refine if_congr ?_ rfl rfl
  omega

theorem readSharedData_append (b : UWBPacketBuilder)
    (huid : b.tag_uid_.length = 8) :
    readSharedData (b.tag_uid_ ++ (bytes32 b.tx_counter_).reverse) =
      some (b.tag_uid_, b.tx_counter_) := by
  have hdrop : (b.tag_uid_ ++ (bytes32 b.tx_counter_).reverse).drop 8 =
      (bytes32 b.tx_counter_).reverse := List.drop_left' huid
  have htake : (b.tag_uid_ ++ (bytes32 b.tx_counter_).reverse).take 8 =
      b.tag_uid_ := List.take_left' huid
  rw [readSharedData, hdrop, htake]
  simp [bytes32]

theorem readPayload_buildTag2BackendPayload (b : UWBPacketBuilder)
    (user_data : List UInt8) :
    readPayload (b.buildTag2BackendPayload user_data).current_packet_ =
      if user_data.length < 2 ^ 12 then
        some (b.tx_counter_.toUInt8, user_data)
      else none := by
  have hmask : ((user_data.length % 2 ^ 12) &&& 0xFFF) =
      user_data.length % 2 ^ 12 :=
    (Nat.and_two_pow_sub_one_eq_mod _ 12).trans (Nat.mod_mod _ _)
  have hword : (UInt32.ofNat (user_data.length % 2 ^ 12)).toNat =
      user_data.length % 2 ^ 12 :=
    UInt32.toNat_ofNat_of_lt' (by simp only [UInt32.size]; omega)
  simp only [buildTag2BackendPayload, hmask, Nat.zero_and, Nat.zero_shiftLeft,
    Nat.or_zero, bytes32, List.reverse_cons, List.reverse_nil,
    List.nil_append, List.cons_append, readPayload, word32_bytes, hword,
    Nat.mod_mod]
  refine if_congr ?_ rfl rfl
  omega

/-! ## Sizes of the layers -/

theorem length_buildTag2BackendPayload (b : UWBPacketBuilder)
    (user_data : List UInt8) :
    (b.buildTag2BackendPayload user_data).current_packet_.length =
      user_data.length + 5 := by
  simp only [buildTag2BackendPayload, List.length_append,
    List.length_reverse, length_bytes32, List.length_cons, List.length_nil]
  omega

theorem length_buildTag2BackendMsg (b : UWBPacketBuilder) :
    b.buildTag2BackendMsg.current_packet_.length =
      b.current_packet_.length + 2 := by
  simp only [buildTag2BackendMsg, List.length_append, List.length_reverse,
    length_bytes16]
  omega

theorem length_buildTag2BackendPacketLayer (b : UWBPacketBuilder) :
    b.buildTag2BackendPacketLayer.current_packet_.length =
      b.current_packet_.length + 3 := by
  simp only [buildTag2BackendPacketLayer, List.length_append,
    List.length_reverse, length_bytes16, List.length_cons, List.length_nil]
  omega

theorem length_buildFrame (b : UWBPacketBuilder) :
    b.buildFrame.current_packet_.length = b.current_packet_.length + 6 := by
  simp only [buildFrame, List.length_append, length_bytes16,
    List.length_cons, List.length_nil]
  omega

/-- The shared data is a uid of 8 bytes and the counter. -/
theorem length_sharedData {b : UWBPacketBuilder}
    (huid : b.tag_uid_.length = 8) :
    (b.tag_uid_ ++ (bytes32 b.tx_counter_).reverse).length = 12 := by
  simp [huid]

/-! ## The whole packet -/

/-- What a receiver gets from a packet. -/
theorem read_buildTag2BackendPacket (b : UWBPacketBuilder)
    (huid : b.tag_uid_.length = 8) (user_data : List UInt8) :
    read (b.buildTag2BackendPacket user_data).current_packet_ =
      if user_data.length ≤ 1016 then
        some ⟨b.tag_uid_, b.tx_counter_ + 1, (b.tx_counter_ + 1).toUInt8,
          user_data⟩
      else none := by
  let b₀ : UWBPacketBuilder :=
    { b with current_packet_ := [], tx_counter_ := b.tx_counter_ + 1 }
  let b₁ := b₀.buildTag2BackendPayload user_data
  let b₂ := b₁.buildTag2BackendMsg
  let b₃ := b₂.buildTag2BackendSharedData
  let b₄ := b₃.buildTag2BackendPacketLayer
  have h₁ : b₁.current_packet_.length = user_data.length + 5 :=
    length_buildTag2BackendPayload b₀ user_data
  have h₂ : b₂.current_packet_.length = user_data.length + 7 := by
    rw [length_buildTag2BackendMsg, h₁]
  have hshared := length_sharedData (b := b₂) huid
  have h₃ : b₃.current_packet_.length = user_data.length + 19 := by
    rw [show b₃.current_packet_ = (b₂.tag_uid_ ++
      (bytes32 b₂.tx_counter_).reverse) ++ b₂.current_packet_ from rfl,
      List.length_append, hshared, h₂]
    omega
  have h₄ : b₄.current_packet_.length = user_data.length + 22 := by
    rw [length_buildTag2BackendPacketLayer, h₃]
  have h₅ : b₄.buildFrame.current_packet_.length = user_data.length + 28 := by
    rw [length_buildFrame, h₄]
  have htake : b₃.current_packet_.take 12 =
      b₂.tag_uid_ ++ (bytes32 b₂.tx_counter_).reverse := List.take_left' hshared
  have hdrop : b₃.current_packet_.drop 12 = b₂.current_packet_ :=
    List.drop_left' hshared
  change read b₄.buildFrame.buildUCI.current_packet_ = _
  have hpacket := readPacket_buildTag2BackendPacketLayer b₃ (by omega)
  rw [htake, hdrop, h₃] at hpacket
  have hmsg := readMsg_buildTag2BackendMsg b₁
  rw [h₁] at hmsg
  by_cases hle : user_data.length ≤ 1016
  · rw [if_pos (by omega)] at hpacket hmsg
    rw [if_pos hle, TagReceiver.read, readUCI_buildUCI, if_pos (by omega)]
    simp only [Option.bind_eq_bind, Option.bind_some]
    rw [readFrame_buildFrame, if_pos (by omega), Option.bind_some, hpacket]
    simp only [Option.bind_some]
    rw [readSharedData_append b₂ huid, Option.bind_some, hmsg,
      Option.bind_some, readPayload_buildTag2BackendPayload,
      if_pos (by omega)]
    rfl
  · rw [if_neg (by omega)] at hpacket
    rw [if_neg hle, TagReceiver.read, readUCI_buildUCI]
    split
    · rw [Option.bind_eq_bind, Option.bind_some, readFrame_buildFrame,
        if_pos (by omega), Option.bind_eq_bind, Option.bind_some, hpacket]
      rfl
    · rfl

theorem foldl_perform (calls : List Call) (b : UWBPacketBuilder) :
    (calls.foldl perform b).tag_uid_ = b.tag_uid_ ∧
      (calls.foldl perform b).tx_counter_ =
        b.tx_counter_ + UInt32.ofNat calls.length := by
  induction calls generalizing b with
  | nil => simp
  | cons call calls ih =>
      obtain ⟨huid, hcounter⟩ := ih (b.perform call)
      have hstep : (b.perform call).tag_uid_ = b.tag_uid_ ∧
          (b.perform call).tx_counter_ = b.tx_counter_ + 1 := by
        rcases call with user_data | _ <;> exact ⟨rfl, rfl⟩
      rw [List.foldl_cons, huid, hcounter, hstep.1, hstep.2]
      refine ⟨rfl, ?_⟩
      rw [List.length_cons, UInt32.ofNat_add, UInt32.add_assoc,
        UInt32.add_comm 1]
      rfl

/-- After any earlier calls, a receiver gets the uid, the number of the call
and the user data exactly if there are at most 1016 bytes of it. -/
theorem read_packet_iff (calls : List Call) {tag_uid : List UInt8}
    (huid : tag_uid.length = 8) (user_data : List UInt8) :
    let b := calls.foldl perform (construct tag_uid)
    let tx_counter := UInt32.ofNat (calls.length + 1)
    read (b.buildTag2BackendPacket user_data).current_packet_ =
        some ⟨tag_uid, tx_counter, tx_counter.toUInt8, user_data⟩ ↔
      user_data.length ≤ 1016 := by
  intro b tx_counter
  obtain ⟨htag, hcounter⟩ := foldl_perform calls (construct tag_uid)
  have hnext : b.tx_counter_ + 1 = tx_counter := by
    rw [show b.tx_counter_ = _ from hcounter]
    simp [construct, tx_counter, UInt32.ofNat_add]
  rw [read_buildTag2BackendPacket b (htag ▸ huid) user_data, hnext]
  rw [show b.tag_uid_ = tag_uid from htag]
  by_cases hle : user_data.length ≤ 1016
  · simp [hle]
  · simp [hle]

/-- Three bytes after a blink packet. -/
theorem read_packet_afterBlink :
    let b := [Call.tagBlink].foldl perform
      (construct [1, 2, 3, 4, 5, 6, 7, 8])
    read (b.buildTag2BackendPacket [0xA1, 0xA2, 0xA3]).current_packet_ =
      some ⟨[1, 2, 3, 4, 5, 6, 7, 8], 2, 2, [0xA1, 0xA2, 0xA3]⟩ :=
  (read_packet_iff [.tagBlink] rfl [0xA1, 0xA2, 0xA3]).mpr (by decide)

/-- With 1017 bytes the message size of the packet layer is 0. -/
theorem not_read_packet_1017 :
    ¬ ∀ (calls : List Call) (tag_uid user_data : List UInt8),
      tag_uid.length = 8 →
      let b := calls.foldl perform (construct tag_uid)
      let tx_counter := UInt32.ofNat (calls.length + 1)
      read (b.buildTag2BackendPacket user_data).current_packet_ =
        some ⟨tag_uid, tx_counter, tx_counter.toUInt8, user_data⟩ := by
  intro h
  have hread := h [] (List.replicate 8 0) (List.replicate 1017 0) rfl
  have hlong : ¬ (List.replicate 1017 (0 : UInt8)).length ≤ 1016 := by
    rw [List.length_replicate]
    omega
  simp only [List.foldl_nil] at hread
  rw [read_buildTag2BackendPacket _ rfl, if_neg hlong] at hread
  cases hread

end WirelessHarness
