import WirelessHarness.Uwb.Notifications
import WirelessHarness.Uwb.Segmentation

/-!
# Streams of packets

What the chip sends is a sequence of complete packets with noise between them.
Cut off anywhere, it completes exactly the notifications whose last byte is in
the part before the cut.
-/

namespace WirelessHarness

open ByteOrder UciCtrlPacket

/-! ## Items -/

/-- A noise byte or a complete packet. -/
inductive StreamItem
  | noise (b : UInt8)
  | packet (id : MessageId) (payload : Bytes)

/-- The data behind a length prefix. -/
def dataPart : Bytes → Bytes
  | lo :: hi :: rest => rest.take (word16 lo hi).toNat
  | _ => []

/-- A packet with this id is a data notification. -/
def MessageId.IsDataNtf (id : MessageId) : Prop :=
  id.mt = MT_NTF ∧ id.gid = GID0x03 ∧ id.oid = CX_APP_DATA_RX

instance (id : MessageId) : Decidable id.IsDataNtf :=
  inferInstanceAs (Decidable (_ ∧ _ ∧ _))

instance : (payload : Bytes) → Decidable (LengthMatches payload)
  | [] | [_] => .isFalse id
  | lo :: hi :: rest =>
      inferInstanceAs (Decidable ((word16 lo hi).toNat = rest.length))

namespace StreamItem

def bytes : StreamItem → Bytes
  | noise b => [b]
  | packet id payload => id.packet PBF_COMPLETE payload

/-- Noise does not look like the first byte of a packet, the length field holds
the length of the payload, and data have a correct prefix. -/
def WellFormed : StreamItem → Prop
  | noise b => b >>> 5 ≠ MT_CMD ∧ b >>> 5 ≠ MT_RSP ∧ b >>> 5 ≠ MT_NTF
  | packet id payload => payload.length ≤ 65535 ∧
      (id.IsDataNtf → LengthMatches payload)

instance : (item : StreamItem) → Decidable item.WellFormed
  | noise _ => inferInstanceAs (Decidable (_ ∧ _ ∧ _))
  | packet _ _ => inferInstanceAs (Decidable (_ ∧ (_ → _)))

/-- The data an item carries. -/
def data : StreamItem → Bytes
  | noise _ => []
  | packet id payload => if id.IsDataNtf then dataPart payload else []

/-- The items that end within the first `n` bytes. -/
def completed : List StreamItem → ℕ → List StreamItem
  | [], _ => []
  | item :: items, n =>
      if item.bytes.length ≤ n then
        item :: completed items (n - item.bytes.length)
      else []

end StreamItem

instance (n : Notification) : Decidable n.IsData :=
  inferInstanceAs (Decidable (_ ∧ _))

/-- What `__notify_process` pushes. -/
def Notification.pushed (n : Notification) : Bytes :=
  if n.IsData then n.payload.drop 2 else []

theorem dataPart_of_lengthMatches {payload : Bytes}
    (h : LengthMatches payload) : dataPart payload = payload.drop 2 := by
  match payload with
  | [] | [_] => exact h.elim
  | lo :: hi :: rest => exact List.take_of_length_le (le_of_eq h.symm)

/-! ## The notifications of signalled bytes -/

theorem completedNtfs_append (p : UciCtrlPacket) (rx_payload xs ys : Bytes) :
    completedNtfs p rx_payload (xs ++ ys) =
      let r := (p.feed rx_payload xs).2
      completedNtfs p rx_payload xs ++ completedNtfs r.1 r.2 ys := by
  induction xs generalizing p rx_payload with
  | nil => rfl
  | cons x xs ih =>
      simp only [List.cons_append, completedNtfs, feed]
      split
      · rw [ih, List.cons_append]
      · rw [ih]

theorem length_feed (p : UciCtrlPacket) (rx_payload xs : Bytes) :
    (p.feed rx_payload xs).1.length = xs.length := by
  induction xs generalizing p rx_payload with
  | nil => rfl
  | cons x xs ih => exact congrArg (· + 1) (ih _ _)

/-- Where nothing is signalled there is no notification. -/
theorem completedNtfs_of_silent {p : UciCtrlPacket} {rx_payload xs : Bytes}
    (h : (p.feed rx_payload xs).1 = List.replicate xs.length false) :
    completedNtfs p rx_payload xs = [] := by
  induction xs generalizing p rx_payload with
  | nil => rfl
  | cons x xs ih =>
      obtain ⟨hfirst, hrest⟩ := List.cons.inj h
      have hnone : ¬ ((p.flowParse x rx_payload).1 = true ∧
          (p.flowParse x rx_payload).2.1.mt = MT_NTF) := by
        rw [hfirst]
        exact fun hfalse => Bool.false_ne_true hfalse.1
      rw [completedNtfs]
      exact (if_neg hnone).trans (ih hrest)

/-- With a signal at the last byte only, that is where the notification is. -/
theorem completedNtfs_of_last {p p' : UciCtrlPacket}
    {rx_payload xs rx_payload' : Bytes} (hne : xs ≠ [])
    (h : p.feed rx_payload xs =
      (List.replicate (xs.length - 1) false ++ [true], p', rx_payload')) :
    completedNtfs p rx_payload xs =
      if p'.mt = MT_NTF then [⟨p'.gid, p'.oid, rx_payload'⟩] else [] := by
  induction xs generalizing p rx_payload with
  | nil => exact absurd rfl hne
  | cons x xs ih =>
      rcases xs with _ | ⟨y, ys⟩
      · obtain ⟨hsignal, hstate⟩ := Prod.mk.inj h
        obtain ⟨htrue, -⟩ := List.cons.inj hsignal
        have hp : (p.flowParse x rx_payload).2 = (p', rx_payload') := hstate
        simp only [completedNtfs, htrue, hp, true_and]
      · obtain ⟨hsignal, hstate⟩ := Prod.mk.inj h
        obtain ⟨hfirst, hrest⟩ := List.cons.inj hsignal
        have hnone : ¬ ((p.flowParse x rx_payload).1 = true ∧
            (p.flowParse x rx_payload).2.1.mt = MT_NTF) := by
          rw [hfirst]
          exact fun hfalse => Bool.false_ne_true hfalse.1
        rw [completedNtfs]
        refine (if_neg hnone).trans (ih (List.cons_ne_nil _ _) ?_)
        exact Prod.ext hrest hstate

/-! ## One item -/

theorem shiftRight_and_mask (b : UInt8) :
    (b >>> 5) &&& (0x07 : UInt8) = b >>> 5 := by
  apply UInt8.toNat_inj.mp
  have hlt : (b >>> 5).toNat < 2 ^ 3 := by
    have hb := b.toNat_lt
    rw [UInt8.toNat_shiftRight]
    change b.toNat >>> 5 < 8
    rw [Nat.shiftRight_eq_div_pow]
    omega
  calc
    ((b >>> 5) &&& (0x07 : UInt8)).toNat = (b >>> 5).toNat % 2 ^ 3 :=
      Nat.and_two_pow_sub_one_eq_mod (b >>> 5).toNat 3
    _ = (b >>> 5).toNat := Nat.mod_eq_of_lt hlt

/-- Between packets the parser drops noise. -/
theorem feed_noise {p : UciCtrlPacket} (hsta : p.parser_sta = .parseStart)
    {b : UInt8} (hb : (StreamItem.noise b).WellFormed) (rx_payload : Bytes) :
    ∃ p', p.feed rx_payload [b] = ([false], p', []) ∧
      p'.parser_sta = .parseStart := by
  have hunknown : (b >>> 5) &&& 0x07 ≠ MT_CMD ∧ (b >>> 5) &&& 0x07 ≠ MT_RSP ∧
      (b >>> 5) &&& 0x07 ≠ MT_NTF := by
    rw [shiftRight_and_mask]
    exact hb
  refine ⟨(p.parseByte b rx_payload).1, ?_, ?_⟩
  · simp [feed, flowParse, parseByte, hsta, parseFirstByte, hunknown]
  · simp [parseByte, hsta, parseFirstByte, hunknown]

/-- A complete packet is signalled at its last byte. -/
theorem feed_complete {p : UciCtrlPacket} (hsta : p.parser_sta = .parseStart)
    (id : MessageId) {payload : Bytes} (hlen : payload.length ≤ 65535)
    (rx_payload : Bytes) :
    ∃ p', p.feed rx_payload (id.packet PBF_COMPLETE payload) =
        (List.replicate ((id.packet PBF_COMPLETE payload).length - 1) false ++
          [true], p', payload) ∧
      p'.Labelled id ∧ p'.parser_sta = .parseStart := by
  rw [feed_parseStart hsta rx_payload (by simp [MessageId.packet, buildHeader])]
  obtain ⟨p', hfeed, hid, -, hsta'⟩ := feed_packet
    (p := { p with recv_packet := false, parser_sta := .mtPbfGidByte }) rfl
    id (.inl rfl) hlen []
  exact ⟨p', hfeed, hid, hsta'⟩

theorem pushed_of_labelled {p : UciCtrlPacket} {id : MessageId}
    (hid : p.Labelled id) {payload : Bytes}
    (hmatches : id.IsDataNtf → LengthMatches payload) :
    (if p.mt = MT_NTF then
        [(⟨p.gid, p.oid, payload⟩ : Notification)] else []).flatMap
      Notification.pushed = (StreamItem.packet id payload).data := by
  obtain ⟨hmt, hgid, hoid⟩ := hid
  rw [hmt, hgid, hoid, StreamItem.data]
  by_cases hntf : id.mt = MT_NTF
  · rw [if_pos hntf, List.flatMap_singleton, Notification.pushed]
    by_cases hdata : (⟨id.gid, id.oid, payload⟩ : Notification).IsData
    · rw [if_pos hdata, if_pos ⟨hntf, hdata⟩,
        dataPart_of_lengthMatches (hmatches ⟨hntf, hdata⟩)]
    · rw [if_neg hdata, if_neg (fun h => hdata h.2)]
  · rw [if_neg hntf, if_neg (fun h => hntf h.1)]
    rfl

/-- Nothing is signalled before the last byte of an item, and behind it the
parser is where it started. -/
theorem StreamItem.feed_bytes {item : StreamItem} (h : item.WellFormed)
    {p : UciCtrlPacket} (hsta : p.parser_sta = .parseStart)
    (rx_payload : Bytes) :
    ∃ last p' rx_payload', p.feed rx_payload item.bytes =
        (List.replicate (item.bytes.length - 1) false ++ [last], p',
          rx_payload') ∧
      p'.parser_sta = .parseStart ∧
      (completedNtfs p rx_payload item.bytes).flatMap Notification.pushed =
        item.data := by
  rcases item with b | ⟨id, payload⟩
  · obtain ⟨p', hfeed, hsta'⟩ := feed_noise hsta h rx_payload
    refine ⟨false, p', [], hfeed, hsta', ?_⟩
    rw [bytes, completedNtfs_of_silent (by rw [hfeed]; rfl)]
    rfl
  · obtain ⟨p', hfeed, hid, hsta'⟩ := feed_complete hsta id h.1 rx_payload
    refine ⟨true, p', payload, hfeed, hsta', ?_⟩
    rw [bytes, completedNtfs_of_last (by simp [MessageId.packet, buildHeader])
      hfeed]
    exact pushed_of_labelled hid h.2

/-! ## The beginning of a stream -/

/-- Part of an item completes nothing. -/
theorem completedNtfs_of_part {item : StreamItem} (h : item.WellFormed)
    {p : UciCtrlPacket} (hsta : p.parser_sta = .parseStart)
    (rx_payload : Bytes) {xs : Bytes} (hxs : xs <+: item.bytes)
    (hlt : xs.length < item.bytes.length) :
    completedNtfs p rx_payload xs = [] := by
  obtain ⟨last, p', rx_payload', hfeed, -⟩ :=
    StreamItem.feed_bytes h hsta rx_payload
  obtain ⟨ys, hys⟩ := hxs
  have hsignals := congrArg Prod.fst hfeed
  generalize item.bytes.length = n at hsignals hlt
  rw [← hys, feed_append] at hsignals
  have htake := congrArg (List.take xs.length) hsignals
  rw [List.take_left' (length_feed _ _ _),
    List.take_append_of_le_length (by rw [List.length_replicate]; omega),
    List.take_replicate, Nat.min_eq_left (by omega)] at htake
  exact completedNtfs_of_silent htake

/-- The data pushed over the beginning of a stream are those of the items
completed in it. -/
theorem pushed_completedNtfs {items : List StreamItem}
    (hitems : ∀ item ∈ items, item.WellFormed) {p : UciCtrlPacket}
    (hsta : p.parser_sta = .parseStart) (rx_payload : Bytes) {xs : Bytes}
    (hxs : xs <+: items.flatMap StreamItem.bytes) :
    (completedNtfs p rx_payload xs).flatMap Notification.pushed =
      (StreamItem.completed items xs.length).flatMap StreamItem.data := by
  induction items generalizing p rx_payload xs with
  | nil =>
      rw [List.prefix_nil.mp hxs]
      rfl
  | cons item items ih =>
      obtain ⟨hitem, hrest⟩ := List.forall_mem_cons.mp hitems
      rw [List.flatMap_cons] at hxs
      by_cases hlen : item.bytes.length ≤ xs.length
      · obtain ⟨ys, rfl⟩ := List.prefix_of_prefix_length_le
          (List.prefix_append _ _) hxs hlen
        have hys := (List.prefix_append_right_inj _).mp hxs
        obtain ⟨last, p', rx_payload', hfeed, hsta', hdata⟩ :=
          StreamItem.feed_bytes hitem hsta rx_payload
        rw [completedNtfs_append, List.flatMap_append, hdata,
          StreamItem.completed, if_pos hlen, List.flatMap_cons]
        simp only [hfeed]
        rw [ih hrest hsta' rx_payload' hys, List.length_append,
          Nat.add_sub_cancel_left]
      · have hpart := List.prefix_of_prefix_length_le hxs
          (List.prefix_append item.bytes _) (by omega)
        rw [completedNtfs_of_part hitem hsta rx_payload hpart (by omega),
          StreamItem.completed, if_neg hlen]
        rfl

end WirelessHarness
