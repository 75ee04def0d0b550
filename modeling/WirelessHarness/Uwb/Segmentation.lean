import WirelessHarness.Uwb.UciPacket

/-!
# Segmentation and reassembly

The builder produces the packets of a message, for payloads its 16-bit offset
can walk through; the parser puts the payload together again, but what its
calls return on the way is right for single packets only.
-/

namespace WirelessHarness

open ByteOrder

namespace MessageId

open UciCtrlPacket

theorem packets_of_le (id : MessageId) {payload : Bytes}
    (h : payload.length ≤ MAX_PAYLOAD_LEN) :
    id.packets payload = [id.packet PBF_COMPLETE payload] := by
  rw [packets, if_pos h]

theorem packets_of_lt (id : MessageId) {payload : Bytes}
    (h : MAX_PAYLOAD_LEN < payload.length) :
    id.packets payload =
      id.packet PBF_SEGMENT (payload.take MAX_PAYLOAD_LEN) ::
        id.packets (payload.drop MAX_PAYLOAD_LEN) := by
  rw [packets, if_neg (by omega)]

theorem packets_ne_nil (id : MessageId) (payload : Bytes) :
    id.packets payload ≠ [] := by
  rw [packets]
  split <;> simp

theorem length_le_of_mem_packets (id : MessageId) {payload p : Bytes}
    (hp : p ∈ id.packets payload) :
    p.length ≤ UCI_CTRL_PKT_HDR_SIZE + MAX_PAYLOAD_LEN := by
  induction payload using packets.induct with
  | case1 payload hle =>
      rw [packets_of_le id hle, List.mem_singleton] at hp
      simp [hp, hle]
  | case2 payload hlt ih =>
      rw [packets_of_lt id (by omega), List.mem_cons] at hp
      rcases hp with rfl | hp
      · simp
      · exact ih hp

end MessageId

/-! ## The builder -/

namespace UciCtrlPacket

/-- The object carries the header fields of `id`. -/
def Labelled (p : UciCtrlPacket) (id : MessageId) : Prop :=
  p.mt = id.mt ∧ p.gid = id.gid ∧ p.oid = id.oid

theorem toNat_ofNat_of_le {n : ℕ} (h : n ≤ MAX_PAYLOAD_LEN) :
    (UInt16.ofNat n).toNat = n := by
  simp only [MAX_PAYLOAD_LEN] at h
  exact UInt16.toNat_ofNat_of_lt' (by simp only [UInt16.size]; omega)

/-- Before the last packet the builder moves its offset by a full segment. -/
theorem buildPacket_segment {p : UciCtrlPacket} {id : MessageId}
    (total_payload : Bytes) (hp : p.Labelled id)
    (hlong : p.payload_offset.toNat + MAX_PAYLOAD_LEN <
      total_payload.length) :
    ∃ p', p.buildPacket total_payload = (false, p') ∧ p'.Labelled id ∧
      p'.packet = id.packet PBF_SEGMENT
        ((total_payload.drop p.payload_offset.toNat).take
          MAX_PAYLOAD_LEN) ∧
      p'.payload_offset = p.payload_offset + UInt16.ofNat MAX_PAYLOAD_LEN := by
  obtain ⟨hmt, hgid, hoid⟩ := hp
  have hres : ¬ sizeSub total_payload.length p.payload_offset.toNat ≤
      MAX_PAYLOAD_LEN := by
    simp only [sizeSub]
    split <;> omega
  have htake : ((total_payload.drop p.payload_offset.toNat).take
      MAX_PAYLOAD_LEN).length = MAX_PAYLOAD_LEN := by
    rw [List.length_take, List.length_drop]
    omega
  refine ⟨(p.buildPacket total_payload).2, ?_, ⟨hmt, hgid, hoid⟩, ?_, ?_⟩
  · simp [buildPacket, hres]
  · simp only [buildPacket, hres, decide_false, Bool.false_eq_true, if_false,
      toNat_ofNat_of_le le_rfl, MessageId.packet, htake, hmt, hgid, hoid]
  · simp [buildPacket, hres]

/-- The last packet holds everything from the offset on. -/
theorem buildPacket_last {p : UciCtrlPacket} {id : MessageId}
    {total_payload : Bytes} (hp : p.Labelled id)
    (hoffset : p.payload_offset.toNat ≤ total_payload.length)
    (hshort : total_payload.length ≤
      p.payload_offset.toNat + MAX_PAYLOAD_LEN) :
    ∃ p', p.buildPacket total_payload = (true, p') ∧
      p'.packet = id.packet PBF_COMPLETE
        (total_payload.drop p.payload_offset.toNat) := by
  obtain ⟨hmt, hgid, hoid⟩ := hp
  have hres : sizeSub total_payload.length p.payload_offset.toNat =
      (total_payload.drop p.payload_offset.toNat).length := by
    rw [List.length_drop]
    exact if_pos hoffset
  have hle : (total_payload.drop p.payload_offset.toNat).length ≤
      MAX_PAYLOAD_LEN := by
    rw [List.length_drop]
    omega
  refine ⟨(p.buildPacket total_payload).2, ?_, ?_⟩
  · simp only [buildPacket, hres, hle, decide_true]
  · simp only [buildPacket, hres, hle, decide_true, if_true,
      MessageId.packet, hmt, hgid, hoid, toNat_ofNat_of_le hle,
      List.take_length]

/-- As long as the offset does not wrap, the calls produce the message. -/
theorem buildPackets_eq_packets {id : MessageId} (total_payload : Bytes)
    (hsize : total_payload.length ≤ 65536) (rest : Bytes) :
    ∀ (p : UciCtrlPacket), p.Labelled id →
      total_payload.drop p.payload_offset.toNat = rest →
      p.payload_offset.toNat ≤ total_payload.length →
      ∃ fuel, buildPackets fuel p total_payload = some (id.packets rest) := by
  induction rest using MessageId.packets.induct with
  | case1 rest hle =>
      rintro p hp rfl hoffset
      rw [List.length_drop] at hle
      obtain ⟨p', hbuild, hpacket⟩ :=
        buildPacket_last hp hoffset (by omega)
      refine ⟨1, ?_⟩
      rw [MessageId.packets_of_le id (by rwa [List.length_drop]), ← hpacket]
      simp [buildPackets, hbuild]
  | case2 rest hlt ih =>
      rintro p hp rfl hoffset
      rw [List.length_drop] at hlt
      obtain ⟨p', hbuild, hp', hpacket, hoffset'⟩ :=
        buildPacket_segment total_payload hp (by omega)
      have hsum : p'.payload_offset.toNat =
          p.payload_offset.toNat + MAX_PAYLOAD_LEN := by
        rw [hoffset', UInt16.toNat_add]
        rw [toNat_ofNat_of_le le_rfl]
        exact Nat.mod_eq_of_lt (by omega)
      obtain ⟨fuel, hfuel⟩ := ih p' hp'
        (by rw [hsum, List.drop_drop]) (by omega)
      refine ⟨fuel + 1, ?_⟩
      rw [MessageId.packets_of_lt id (by rw [List.length_drop]; omega),
        ← hpacket]
      simp [buildPackets, hbuild, hfuel]

/-- Past 65536 bytes the offset comes back to zero before the end of the
payload is in sight. -/
theorem buildPackets_eq_none {id : MessageId} {total_payload : Bytes}
    (hsize : 65536 < total_payload.length) (fuel : ℕ) :
    ∀ (p : UciCtrlPacket), p.Labelled id →
      MAX_PAYLOAD_LEN ∣ p.payload_offset.toNat →
      buildPackets fuel p total_payload = none := by
  induction fuel with
  | zero => intros; rfl
  | succ fuel ih =>
      intro p hp hdvd
      have hlt : p.payload_offset.toNat < 65536 := p.payload_offset.toNat_lt
      simp only [MAX_PAYLOAD_LEN] at hdvd
      obtain ⟨p', hbuild, hp', -, hoffset'⟩ :=
        buildPacket_segment total_payload hp
          (by simp only [MAX_PAYLOAD_LEN]; omega)
      have hdvd' : MAX_PAYLOAD_LEN ∣ p'.payload_offset.toNat := by
        rw [hoffset', UInt16.toNat_add]
        rw [toNat_ofNat_of_le le_rfl]
        simp only [MAX_PAYLOAD_LEN]
        omega
      simp [buildPackets, hbuild, ih p' hp' hdvd']

theorem buildPackets_mono {p : UciCtrlPacket} {total_payload : Bytes}
    {fuel fuel' : ℕ} (hle : fuel ≤ fuel') {packets : List Bytes}
    (h : buildPackets fuel p total_payload = some packets) :
    buildPackets fuel' p total_payload = some packets := by
  induction fuel' generalizing fuel p packets with
  | zero =>
      obtain rfl : fuel = 0 := by omega
      exact h
  | succ fuel' ih =>
      rcases fuel with _ | fuel
      · simp [buildPackets] at h
      · rw [buildPackets] at h ⊢
        split at h
        · exact h
        · obtain ⟨rest, hrest, rfl⟩ := Option.map_eq_some_iff.mp h
          rw [ih (by omega) hrest]
          rfl

/-- Calling `buildPacket` repeatedly ends, with these packets. -/
def Builds (p : UciCtrlPacket) (total_payload : Bytes)
    (packets : List Bytes) : Prop :=
  ∃ fuel, buildPackets fuel p total_payload = some packets

theorem Builds.unique {p : UciCtrlPacket} {total_payload : Bytes}
    {xs ys : List Bytes} (hxs : p.Builds total_payload xs)
    (hys : p.Builds total_payload ys) : xs = ys := by
  obtain ⟨m, hm⟩ := hxs
  obtain ⟨n, hn⟩ := hys
  have hmax := buildPackets_mono (Nat.le_max_left m n) hm
  rw [buildPackets_mono (Nat.le_max_right m n) hn] at hmax
  exact (Option.some.inj hmax).symm

/-- From an object that has built nothing yet, the calls end exactly for the
payloads the 16-bit offset can walk through, and give the message. -/
theorem builds_iff {id : MessageId} {p : UciCtrlPacket} (hp : p.Labelled id)
    (hoffset : p.payload_offset = 0) (total_payload : Bytes)
    (packets : List Bytes) :
    p.Builds total_payload packets ↔
      total_payload.length ≤ 65536 ∧ packets = id.packets total_payload := by
  have hzero : p.payload_offset.toNat = 0 := by
    rw [hoffset]
    rfl
  constructor
  · rintro hbuilds
    by_cases hsize : total_payload.length ≤ 65536
    · have hpackets := buildPackets_eq_packets total_payload hsize
        total_payload p hp (by rw [hzero, List.drop_zero]) (by omega)
      exact ⟨hsize, hbuilds.unique hpackets⟩
    · obtain ⟨fuel, hfuel⟩ := hbuilds
      rw [buildPackets_eq_none (by omega) fuel p hp (by simp [hzero])] at hfuel
      cases hfuel
  · rintro ⟨hsize, rfl⟩
    exact buildPackets_eq_packets total_payload hsize total_payload p hp
      (by rw [hzero, List.drop_zero]) (by omega)

/-! ## The parser -/

theorem parseFirstByte_buildHeader (p : UciCtrlPacket) (id : MessageId)
    {pbf : UInt8} (hpbf : pbf = PBF_COMPLETE ∨ pbf = PBF_SEGMENT) :
    p.parseFirstByte ((id.mt &&& 0x07) <<< 5 ||| (pbf &&& 0x01) <<< 4 |||
        (id.gid &&& 0x0F)) =
      { p with
        mt := id.mt
        pbf
        gid := id.gid
        is_last_packet := decide (pbf = PBF_COMPLETE)
        parser_sta := .oidByte } := by
  have hfields : ∀ mt ∈ [MT_CMD, MT_RSP, MT_NTF],
      ∀ pbf ∈ [PBF_COMPLETE, PBF_SEGMENT], ∀ gid < 16,
        let data : UInt8 := (mt &&& 0x07) <<< 5 ||| (pbf &&& 0x01) <<< 4 |||
          (UInt8.ofNat gid &&& 0x0F)
        (data >>> 5) &&& 0x07 = mt ∧ (data >>> 4) &&& 0x01 = pbf ∧
          data &&& 0x0F = UInt8.ofNat gid := by
    decide +kernel
  obtain ⟨hmt, hbf, hgid⟩ := hfields id.mt (by simpa using id.mt_known) pbf
    (by simpa using hpbf) id.gid.toNat (UInt8.lt_iff_toNat_lt.mp id.gid_lt)
  rw [UInt8.ofNat_toNat] at hmt hbf hgid
  have hknown : ¬ (id.mt ≠ MT_CMD ∧ id.mt ≠ MT_RSP ∧ id.mt ≠ MT_NTF) := by
    rintro ⟨hcmd, hrsp, hntf⟩
    rcases id.mt_known with h | h | h
    · exact hcmd h
    · exact hrsp h
    · exact hntf h
  simp only [parseFirstByte, hmt, hbf, hgid, if_neg hknown]

theorem oid_mask (id : MessageId) : id.oid &&& 0x3F &&& 0x3F = id.oid := by
  have hmask : (0x3F : UInt8) &&& 0x3F = 0x3F := rfl
  rw [UInt8.and_assoc, hmask]
  apply UInt8.toNat_inj.mp
  have hlt : id.oid.toNat < 2 ^ 6 := UInt8.lt_iff_toNat_lt.mp id.oid_lt
  calc
    (id.oid &&& 0x3F).toNat = id.oid.toNat % 2 ^ 6 :=
      Nat.and_two_pow_sub_one_eq_mod id.oid.toNat 6
    _ = id.oid.toNat := Nat.mod_eq_of_lt hlt

/-- The two length bytes of the header give the length back. -/
theorem length_bytes (len : UInt16) :
    (0 : UInt16) ||| ((len >>> 8).toUInt8.toUInt16 <<< 8) |||
      (len &&& 0xFF).toUInt8.toUInt16 = len := by
  have hlow : (len &&& 0xFF).toUInt8 = len.toUInt8 := by
    apply UInt8.toNat_inj.mp
    simpa using Nat.and_two_pow_sub_one_eq_mod (len.toNat % 256) 8
  calc
    _ = word16 len.toUInt8 (len >>> 8).toUInt8 := by
      rw [hlow, word16, UInt16.zero_or, UInt16.or_comm]
    _ = len := word16_bytes len

/-- A message starts like a continuation of one without any packet yet. -/
theorem feed_parseStart {p : UciCtrlPacket} (hsta : p.parser_sta = .parseStart)
    (total_payload : Bytes) {xs : Bytes} (hxs : xs ≠ []) :
    p.feed total_payload xs =
      feed { p with recv_packet := false, parser_sta := .mtPbfGidByte } []
        xs := by
  rcases xs with _ | ⟨x, xs⟩
  · exact absurd rfl hxs
  · simp [feed, flowParse, parseByte, parseFirstByte, hsta]

theorem feed_buildHeader {p : UciCtrlPacket}
    (hsta : p.parser_sta = .mtPbfGidByte) (id : MessageId) {pbf : UInt8}
    (hpbf : pbf = PBF_COMPLETE ∨ pbf = PBF_SEGMENT) (len : UInt16)
    (total_payload : Bytes) :
    let last := decide (pbf = PBF_COMPLETE)
    let done := decide (len = 0) || p.recv_packet
    p.feed total_payload (buildHeader id.mt pbf id.gid id.oid len) =
      (List.replicate 3 (last && p.recv_packet) ++ [last && done],
        { p with
          mt := id.mt
          pbf
          gid := id.gid
          oid := id.oid
          is_last_packet := last
          currunt_payload_len := len
          pkt_recv_len := 0
          recv_packet := done
          parser_sta := if len = 0 then .parseStart else .payloadBytes },
        total_payload) := by
  have hpos : 0 < len.toNat ↔ len ≠ 0 := by
    rw [Nat.pos_iff_ne_zero, ne_eq, ne_eq, ← UInt16.toNat_inj]
    rfl
  simp only [buildHeader, feed, flowParse, parseByte, hsta,
    parseFirstByte_buildHeader p id hpbf, oid_mask, length_bytes, hpos]
  by_cases hlen : len = 0
  · simp [hlen, List.replicate_succ]
  · simp [hlen, List.replicate_succ]

/-- The payload of a packet: only the last byte reports the packet, unless an
earlier packet of the message has already been reported. -/
theorem feed_payload (rest : Bytes) :
    ∀ (p : UciCtrlPacket) (total_payload : Bytes), rest ≠ [] →
      p.parser_sta = .payloadBytes →
      p.pkt_recv_len.toNat + rest.length = p.currunt_payload_len.toNat →
      p.feed total_payload rest =
        (List.replicate (rest.length - 1)
            (p.is_last_packet && p.recv_packet) ++ [p.is_last_packet],
          { p with
            pkt_recv_len := p.currunt_payload_len
            recv_packet := true
            parser_sta :=
              if p.is_last_packet then .parseStart else .mtPbfGidByte },
          total_payload ++ rest) := by
  induction rest with
  | nil => intro _ _ h; exact absurd rfl h
  | cons x rest ih =>
      intro p total_payload _ hsta hlen
      have hlt : p.currunt_payload_len.toNat < 65536 :=
        p.currunt_payload_len.toNat_lt
      have hsucc : (p.pkt_recv_len + 1).toNat = p.pkt_recv_len.toNat + 1 := by
        rw [List.length_cons] at hlen
        rw [UInt16.toNat_add]
        exact Nat.mod_eq_of_lt (by simp; omega)
      rcases rest with _ | ⟨y, rest⟩
      · have hend : p.pkt_recv_len + 1 = p.currunt_payload_len := by
          apply UInt16.toNat_inj.mp
          rw [hsucc]
          exact hlen
        simp [feed, flowParse, parseByte, hsta, hend]
      · have hmore : p.pkt_recv_len + 1 ≠ p.currunt_payload_len := by
          intro heq
          rw [← heq, hsucc] at hlen
          simp only [List.length_cons] at hlen
          omega
        have hstep : p.flowParse x total_payload =
            (p.is_last_packet && p.recv_packet,
              { p with pkt_recv_len := p.pkt_recv_len + 1 },
              total_payload ++ [x]) := by
          simp [flowParse, parseByte, hsta, hmore]
        have hrest := ih { p with pkt_recv_len := p.pkt_recv_len + 1 }
          (total_payload ++ [x]) (List.cons_ne_nil _ _) hsta (by
            rw [hsucc, ← hlen]
            simp only [List.length_cons]
            omega)
        rw [feed, hstep]
        simp only [hrest]
        simp [List.replicate_succ]

/-- One packet, fed where the parser expects the first byte of a packet. -/
theorem feed_packet {p : UciCtrlPacket} (hsta : p.parser_sta = .mtPbfGidByte)
    (id : MessageId) {pbf : UInt8} {payload : Bytes}
    (hpbf : pbf = PBF_COMPLETE ∨ pbf = PBF_SEGMENT ∧ payload ≠ [])
    (hlen : payload.length ≤ 65535) (total_payload : Bytes) :
    let last := decide (pbf = PBF_COMPLETE)
    ∃ p', p.feed total_payload (id.packet pbf payload) =
        (List.replicate ((id.packet pbf payload).length - 1)
          (last && p.recv_packet) ++ [last], p', total_payload ++ payload) ∧
      p'.Labelled id ∧ p'.recv_packet = true ∧
      p'.parser_sta = if last then .parseStart else .mtPbfGidByte := by
  have hpbf' : pbf = PBF_COMPLETE ∨ pbf = PBF_SEGMENT := by tauto
  have hto : (UInt16.ofNat payload.length).toNat = payload.length :=
    UInt16.toNat_ofNat_of_lt' (by simp only [UInt16.size]; omega)
  rw [MessageId.length_packet, MessageId.packet, feed_append,
    feed_buildHeader hsta id hpbf']
  rcases payload with _ | ⟨x, payload⟩
  · obtain rfl : pbf = PBF_COMPLETE := by tauto
    exact ⟨_, by simp [feed, UCI_CTRL_PKT_HDR_SIZE]; rfl, ⟨rfl, rfl, rfl⟩,
      by simp, by simp⟩
  · have hne : UInt16.ofNat (x :: payload).length ≠ 0 := by
      intro heq
      rw [heq] at hto
      simp at hto
    simp only [hne, decide_false, Bool.false_or, if_false]
    rw [feed_payload _ _ _ (List.cons_ne_nil _ _) rfl (by simp only [hto]; simp)]
    refine ⟨_, Prod.ext ?_ rfl, ⟨rfl, rfl, rfl⟩, rfl, rfl⟩
    simp [UCI_CTRL_PKT_HDR_SIZE, List.replicate_succ, Nat.add_comm]

/-- What the calls return over the packets of a message; `early` tells whether
an earlier packet of it has already been completed. -/
def signals : Bool → List Bytes → List Bool
  | _, [] => []
  | early, [p] => List.replicate (p.length - 1) early ++ [true]
  | _, p :: ps => List.replicate p.length false ++ signals true ps

theorem signals_cons (id : MessageId) (early : Bool) (q payload : Bytes) :
    signals early (q :: id.packets payload) =
      List.replicate q.length false ++ signals true (id.packets payload) := by
  obtain ⟨p, ps, hps⟩ :=
    List.exists_cons_of_ne_nil (id.packets_ne_nil payload)
  rw [hps, signals]
  simp

theorem feed_packets_continued (id : MessageId) (payload : Bytes) :
    ∀ (p : UciCtrlPacket) (total_payload : Bytes),
      p.parser_sta = .mtPbfGidByte →
      ∃ p', p.feed total_payload (id.packets payload).flatten =
          (signals p.recv_packet (id.packets payload), p',
            total_payload ++ payload) ∧ p'.Labelled id := by
  induction payload using MessageId.packets.induct with
  | case1 payload hle =>
      intro p total_payload hsta
      obtain ⟨p', hfeed, hid, -, -⟩ :=
        feed_packet hsta id (.inl rfl) (hle.trans (by decide)) total_payload
      refine ⟨p', ?_, hid⟩
      rw [MessageId.packets_of_le id hle, List.flatten_singleton, hfeed]
      simp [signals]
  | case2 payload hlt ih =>
      intro p total_payload hsta
      have htake : (payload.take MAX_PAYLOAD_LEN).length = MAX_PAYLOAD_LEN := by
        rw [List.length_take]
        omega
      have hne : payload.take MAX_PAYLOAD_LEN ≠ [] := by
        intro heq
        rw [heq] at htake
        exact absurd htake (by decide)
      obtain ⟨p₁, hfeed₁, -, hrecv, hsta₁⟩ :=
        feed_packet hsta id (.inr ⟨rfl, hne⟩) (htake.le.trans (by decide))
          total_payload
      have hsegment : decide (PBF_SEGMENT = PBF_COMPLETE) = false := rfl
      rw [hsegment, Bool.false_and, ← List.replicate_succ',
        Nat.sub_add_cancel (by simp [UCI_CTRL_PKT_HDR_SIZE]; omega)] at hfeed₁
      rw [hsegment] at hsta₁
      obtain ⟨p₂, hfeed₂, hid⟩ := ih p₁
        (total_payload ++ payload.take MAX_PAYLOAD_LEN) hsta₁
      refine ⟨p₂, ?_, hid⟩
      rw [MessageId.packets_of_lt id (by omega), List.flatten_cons,
        feed_append, hfeed₁]
      simp only [hfeed₂, hrecv, signals_cons id, List.append_assoc,
        List.take_append_drop]

/-- The parser returns the payload of every message the builder can produce;
its calls return what `signals` says. -/
theorem feed_packets (id : MessageId) (payload : Bytes) {p : UciCtrlPacket}
    (hsta : p.parser_sta = .parseStart) (total_payload : Bytes) :
    ∃ p', p.feed total_payload (id.packets payload).flatten =
        (signals false (id.packets payload), p', payload) ∧
      p'.Labelled id := by
  have hne : (id.packets payload).flatten ≠ [] := by
    rw [MessageId.packets]
    split <;> simp [MessageId.packet, buildHeader]
  rw [feed_parseStart hsta total_payload hne]
  exact feed_packets_continued id payload _ [] rfl

/-- After an earlier packet every byte of the last packet is signalled. -/
theorem one_lt_count_signals (id : MessageId) (payload : Bytes) :
    1 < (signals true (id.packets payload)).count true := by
  induction payload using MessageId.packets.induct with
  | case1 payload hle =>
      simp [MessageId.packets_of_le id hle, signals, UCI_CTRL_PKT_HDR_SIZE]
  | case2 payload hlt ih =>
      rw [MessageId.packets_of_lt id (by omega), signals_cons,
        List.count_append]
      exact Nat.lt_add_left _ ih

/-- One signal at the very end means a single packet. -/
theorem signals_eq_iff (id : MessageId) (payload : Bytes) :
    signals false (id.packets payload) =
        List.replicate ((id.packets payload).flatten.length - 1) false ++
          [true] ↔
      payload.length ≤ MAX_PAYLOAD_LEN := by
  constructor
  · intro heq
    by_contra hlt
    have hcount := congrArg (List.count true) heq
    rw [MessageId.packets_of_lt id (by omega), signals_cons,
      List.count_append, List.count_append] at hcount
    have := one_lt_count_signals id (payload.drop MAX_PAYLOAD_LEN)
    simp [List.count_replicate] at hcount
    omega
  · intro hle
    simp [MessageId.packets_of_le id hle, signals]

/-! ## The round trip -/

/-- The builder comes to an end with packets of bounded size, and over their
bytes the parser returns `true` once, at the last one, holding the payload and
the header fields. -/
def RoundTrip (builder parser : UciCtrlPacket)
    (rx_payload total_payload : Bytes) : Prop :=
  ∃ packets, builder.Builds total_payload packets ∧
    (∀ packet ∈ packets,
      packet.length ≤ UCI_CTRL_PKT_HDR_SIZE + MAX_PAYLOAD_LEN) ∧
    let r := parser.feed rx_payload packets.flatten
    r.1 = List.replicate (packets.flatten.length - 1) false ++ [true] ∧
      r.2.2 = total_payload ∧ r.2.1.mt = builder.mt ∧
      r.2.1.gid = builder.gid ∧ r.2.1.oid = builder.oid

theorem roundTrip_iff_signals (id : MessageId) (pbf mt gid oid pbf' : UInt8)
    (rx_payload total_payload : Bytes) :
    RoundTrip (init id.mt id.gid id.oid pbf) (init mt gid oid pbf')
        rx_payload total_payload ↔
      total_payload.length ≤ 65536 ∧
        signals false (id.packets total_payload) =
          List.replicate ((id.packets total_payload).flatten.length - 1)
            false ++ [true] := by
  obtain ⟨p, hfeed, hmt, hgid, hoid⟩ := feed_packets id total_payload
    (p := init mt gid oid pbf') rfl rx_payload
  have hbuilds := builds_iff (p := init id.mt id.gid id.oid pbf)
    ⟨rfl, rfl, rfl⟩ rfl total_payload
  constructor
  · rintro ⟨packets, hpackets, -, hsignals, -⟩
    obtain ⟨hsize, rfl⟩ := (hbuilds packets).mp hpackets
    rw [hfeed] at hsignals
    exact ⟨hsize, hsignals⟩
  · rintro ⟨hsize, hsignals⟩
    refine ⟨_, (hbuilds _).mpr ⟨hsize, rfl⟩,
      fun _ => id.length_le_of_mem_packets, ?_⟩
    rw [hfeed]
    exact ⟨hsignals, rfl, hmt, hgid, hoid⟩

/-- Segmentation and reassembly are inverse exactly for payloads that fit into
one packet. -/
theorem roundTrip_iff (id : MessageId) (pbf mt gid oid pbf' : UInt8)
    (rx_payload total_payload : Bytes) :
    RoundTrip (init id.mt id.gid id.oid pbf) (init mt gid oid pbf')
        rx_payload total_payload ↔
      total_payload.length ≤ MAX_PAYLOAD_LEN := by
  rw [roundTrip_iff_signals, signals_eq_iff]
  simp only [MAX_PAYLOAD_LEN]
  omega

def appDataTx : MessageId where
  mt := MT_CMD
  gid := 3
  oid := 0
  mt_known := .inl rfl
  gid_lt := by decide
  oid_lt := by decide

/-- With 1025 bytes the parser reports the message at the first byte of the
second packet. -/
theorem not_roundTrip_twoPackets :
    ¬ RoundTrip (init appDataTx.mt appDataTx.gid appDataTx.oid 0)
      (init 0 0 0 0) [] (List.replicate 1025 0) := by
  rw [roundTrip_iff_signals, signals_eq_iff, List.length_replicate]
  decide

end UciCtrlPacket

end WirelessHarness
