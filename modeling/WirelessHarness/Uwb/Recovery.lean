import WirelessHarness.Uwb.Delivery

/-!
# Finding the packets again

A lost byte or noise in the middle of a packet makes the parser read headers
where there are none.  From whatever state this leaves, 65539 bytes that do not
look like the first byte of a packet take it back to the start of a packet, and
no smaller number does.  From there on reception is exact again.
-/

namespace WirelessHarness

open CheckedRead Runs UciCtrlPacket

namespace UciCtrlPacket

/-! ## Progress -/

/-- How many noise bytes the parser can still take for parts of a packet. -/
def remaining (p : UciCtrlPacket) : ℕ :=
  match p.parser_sta with
  | .parseStart => 0
  | .mtPbfGidByte => 1
  | .oidByte => 65539
  | .rfuByte => 65538
  | .payloadLenByte => 65537
  | .payloadBytes => (p.currunt_payload_len - p.pkt_recv_len - 1).toNat + 2

theorem remaining_le (p : UciCtrlPacket) : p.remaining ≤ 65539 := by
  have hlen := (p.currunt_payload_len - p.pkt_recv_len - 1).toNat_lt
  rw [remaining]
  split <;> omega

theorem parser_sta_of_remaining_eq_zero {p : UciCtrlPacket}
    (h : p.remaining = 0) : p.parser_sta = .parseStart := by
  rw [remaining] at h
  split at h
  case h_1 hsta => exact hsta
  all_goals omega

/-- A noise byte that is taken for a first byte is dropped. -/
theorem remaining_parseFirstByte {b : UInt8}
    (hb : (StreamItem.noise b).WellFormed) (p : UciCtrlPacket) :
    (p.parseFirstByte b).remaining = 0 := by
  have hunknown : (b >>> 5) &&& 0x07 ≠ MT_CMD ∧ (b >>> 5) &&& 0x07 ≠ MT_RSP ∧
      (b >>> 5) &&& 0x07 ≠ MT_NTF := by
    rw [shiftRight_and_mask]
    exact hb
  rw [parseFirstByte, if_pos hunknown]
  rfl

/-- One more byte of a payload, the counter wrapping around. -/
theorem remaining_payloadBytes (len recv : UInt16) :
    (recv + 1 = len → (len - recv - 1).toNat = 0) ∧
      (recv + 1 ≠ len →
        (len - (recv + 1) - 1).toNat + 1 = (len - recv - 1).toNat) := by
  have hlen := len.toNat_lt
  have hrecv := recv.toNat_lt
  simp only [ne_eq, ← UInt16.toNat_inj, UInt16.toNat_sub, UInt16.toNat_add,
    UInt16.reduceToNat]
  omega

theorem toNat_sub_zero_sub_one (len : UInt16) (h : 0 < len.toNat) :
    (len - 0 - 1).toNat + 1 = len.toNat := by
  have hlen := len.toNat_lt
  simp only [UInt16.toNat_sub, UInt16.reduceToNat]
  omega

/-- Every noise byte brings the parser nearer to the start of a packet. -/
theorem remaining_parseByte (p : UciCtrlPacket) {b : UInt8}
    (hb : (StreamItem.noise b).WellFormed) (rx_payload : Bytes) :
    (p.parseByte b rx_payload).1.remaining ≤ p.remaining - 1 := by
  cases hsta : p.parser_sta with
  | parseStart =>
      simp only [parseByte, hsta, remaining_parseFirstByte hb, Nat.zero_le]
  | mtPbfGidByte =>
      simp only [parseByte, hsta, remaining_parseFirstByte hb, Nat.zero_le]
  | oidByte => simp only [parseByte, remaining, hsta, le_refl]
  | rfuByte => simp only [parseByte, remaining, hsta, le_refl]
  | payloadLenByte =>
      have hlen := toNat_sub_zero_sub_one
        (p.currunt_payload_len ||| b.toUInt16)
      have hlt := (p.currunt_payload_len ||| b.toUInt16).toNat_lt
      simp only [parseByte, remaining, hsta]
      by_cases hpos : 0 < (p.currunt_payload_len ||| b.toUInt16).toNat
      · have := hlen hpos
        simp only [if_pos hpos]
        omega
      · simp only [if_neg hpos]
        omega
  | payloadBytes =>
      obtain ⟨hlast, hmore⟩ :=
        remaining_payloadBytes p.currunt_payload_len p.pkt_recv_len
      simp only [parseByte, remaining, hsta]
      by_cases heq : p.pkt_recv_len + 1 = p.currunt_payload_len
      · simp only [if_pos heq]
        cases p.is_last_packet <;> simp
      · have := hmore heq
        simp only [if_neg heq]
        omega

theorem remaining_feed {noise : Bytes}
    (hnoise : ∀ b ∈ noise, (StreamItem.noise b).WellFormed)
    (p : UciCtrlPacket) (rx_payload : Bytes) :
    (p.feed rx_payload noise).2.1.remaining ≤ p.remaining - noise.length := by
  induction noise generalizing p rx_payload with
  | nil => exact le_refl _
  | cons b noise ih =>
      obtain ⟨hb, hrest⟩ := List.forall_mem_cons.mp hnoise
      have hfirst := remaining_parseByte p hb rx_payload
      have htail := ih hrest (p.parseByte b rx_payload).1
        (p.parseByte b rx_payload).2
      change (UciCtrlPacket.feed _ _ noise).2.1.remaining ≤ _
      rw [List.length_cons]
      exact htail.trans (by omega)

/-- Enough noise leaves the parser at the start of a packet. -/
theorem parser_sta_feed_noise {noise : Bytes}
    (hnoise : ∀ b ∈ noise, (StreamItem.noise b).WellFormed)
    (hlen : 65539 ≤ noise.length) (p : UciCtrlPacket) (rx_payload : Bytes) :
    (p.feed rx_payload noise).2.1.parser_sta = .parseStart := by
  apply parser_sta_of_remaining_eq_zero
  have hfeed := remaining_feed hnoise p rx_payload
  have hle := p.remaining_le
  omega

/-! ## The longest way -/

/-- On the way through a segment whose other bytes are all `0xFF`. -/
def Slow (p : UciCtrlPacket) : Prop :=
  p.is_last_packet = false ∧
    match p.parser_sta with
    | .parseStart => False
    | .mtPbfGidByte => True
    | .oidByte => True
    | .rfuByte => p.currunt_payload_len = 0
    | .payloadLenByte => p.currunt_payload_len = 0xFF00
    | .payloadBytes => p.currunt_payload_len = 0xFFFF

theorem noise_0xFF : (StreamItem.noise 0xFF).WellFormed := by
  decide

theorem noise_replicate (n : ℕ) :
    ∀ b ∈ List.replicate n (0xFF : UInt8), (StreamItem.noise b).WellFormed := by
  intro b hb
  rw [List.eq_of_mem_replicate hb]
  exact noise_0xFF

/-- Here a noise byte takes the parser no more than one byte nearer. -/
theorem slow_parseByte {p : UciCtrlPacket} (hp : p.Slow)
    (rx_payload : Bytes) :
    let p' := (p.parseByte 0xFF rx_payload).1
    p'.remaining = p.remaining - 1 ∧ (p'.remaining = 0 ∨ p'.Slow) := by
  intro p'
  obtain ⟨hlast, hlen⟩ := hp
  cases hsta : p.parser_sta with
  | parseStart =>
      rw [hsta] at hlen
      exact hlen.elim
  | mtPbfGidByte =>
      have hp' : p'.remaining = 0 := by
        simp only [p', parseByte, hsta, remaining_parseFirstByte noise_0xFF]
      refine ⟨?_, Or.inl hp'⟩
      rw [hp', remaining, hsta]
      rfl
  | oidByte =>
      simp only [p', parseByte, remaining, Slow, hsta, hlast]
      simp
  | rfuByte =>
      rw [hsta] at hlen
      simp only [p', parseByte, remaining, Slow, hsta, hlast, hlen]
      decide
  | payloadLenByte =>
      rw [hsta] at hlen
      have hor : (0xFF00 : UInt16) ||| UInt8.toUInt16 0xFF = 0xFFFF := rfl
      have hpos : 0 < (0xFFFF : UInt16).toNat := by decide
      simp only [p', parseByte, remaining, Slow, hsta, hlast, hlen, hor,
        if_pos hpos]
      decide
  | payloadBytes =>
      rw [hsta] at hlen
      obtain ⟨hend, hmore⟩ :=
        remaining_payloadBytes p.currunt_payload_len p.pkt_recv_len
      simp only [p', parseByte, remaining, Slow, hsta, hlast]
      by_cases heq : p.pkt_recv_len + 1 = p.currunt_payload_len
      · simp [heq, hend heq]
      · have := hmore heq
        simp only [if_neg heq]
        refine ⟨by omega, Or.inr ⟨trivial, hlen⟩⟩

theorem remaining_feed_slow {n : ℕ} {p : UciCtrlPacket} (hp : p.Slow)
    (rx_payload : Bytes) (hn : n ≤ p.remaining) :
    (p.feed rx_payload (List.replicate n 0xFF)).2.1.remaining =
      p.remaining - n := by
  induction n generalizing p rx_payload with
  | zero => rfl
  | succ n ih =>
      obtain ⟨hstep, hnext⟩ := slow_parseByte hp rx_payload
      change ((p.parseByte 0xFF rx_payload).1.feed _
        (List.replicate n 0xFF)).2.1.remaining = _
      rcases hnext with hzero | hslow
      · have hnil : n = 0 := by omega
        subst hnil
        exact hstep
      · rw [ih hslow _ (by omega)]
        omega

/-- The first byte of a segment makes the longest way. -/
theorem slow_firstByte (mt gid oid pbf : UInt8) :
    let p := ((UciCtrlPacket.init mt gid oid pbf).feed [] [0x70]).2.1
    p.Slow ∧ p.remaining = 65539 :=
  ⟨⟨rfl, trivial⟩, rfl⟩

/-- `n` noise bytes always find the start of a packet, whatever was received
before, exactly if `n` is at least 65539. -/
theorem resynchronizes_iff (n : ℕ) :
    (∀ (mt gid oid pbf : UInt8) (garbage noise : Bytes), noise.length = n →
      (∀ b ∈ noise, (StreamItem.noise b).WellFormed) →
      ((UciCtrlPacket.init mt gid oid pbf).feed []
        (garbage ++ noise)).2.1.parser_sta = .parseStart) ↔ 65539 ≤ n := by
  constructor
  · intro h
    by_contra hlt
    have hstart := h 0 0 0 0 [0x70] _ List.length_replicate
      (noise_replicate n)
    rw [feed_append] at hstart
    obtain ⟨hslow, hremaining⟩ := slow_firstByte 0 0 0 0
    have hfeed := remaining_feed_slow (n := n) hslow
      ((UciCtrlPacket.init 0 0 0 0).feed [] [0x70]).2.2 (by omega)
    rw [hremaining, remaining, hstart] at hfeed
    simp only at hfeed
    omega
  · intro hn mt gid oid pbf garbage noise hlen hnoise
    rw [feed_append]
    exact parser_sta_feed_noise hnoise (by omega) _ _

end UciCtrlPacket

/-! ## Sessions -/

/-- Every item has bytes. -/
theorem StreamItem.completed_zero (items : List StreamItem) :
    StreamItem.completed items 0 = [] := by
  rcases items with _ | ⟨_ | _, items⟩
  · rfl
  · rfl
  · rw [StreamItem.completed, if_neg]
    rw [StreamItem.bytes, MessageId.length_packet, UCI_CTRL_PKT_HDR_SIZE]
    omega

namespace UWB

namespace Session

variable {beyond : OutOfRange → UInt8}

/-- From the driver `d₀` on, all bytes that have left the queue are digested,
and the data pushed for them are behind those that `d₀` had. -/
def AccountsFrom (d₀ : UWB) (s : Session) : Prop :=
  Consumes d₀ { s.driver with
    transparent_data := s.returned.flatten ++ s.driver.transparent_data }
    s.loaded

/-- Where the data go has no influence on what is pushed. -/
theorem Consumes.prepend {d d' : UWB} {bytes : Bytes}
    (h : Consumes d d' bytes) (before : Bytes) :
    Consumes { d with transparent_data := before ++ d.transparent_data }
      { d' with transparent_data := before ++ d'.transparent_data } bytes := by
  obtain ⟨consumed, hqueue, hparser, hdata⟩ := h
  refine ⟨consumed, hqueue, hparser, ?_⟩
  simp only [hdata, List.append_assoc]

theorem AccountsFrom.consumes {d₀ : UWB} {s : Session}
    (h : s.AccountsFrom d₀) {d : UWB} {bytes : Bytes}
    (hd : Consumes s.driver d bytes) :
    AccountsFrom d₀
      { s with driver := d, loaded := s.loaded ++ bytes } :=
  Consumes.trans h (Consumes.prepend hd s.returned.flatten)

theorem AccountsFrom.returns {d₀ : UWB} {s : Session}
    (h : s.AccountsFrom d₀) :
    AccountsFrom d₀ { s with
      driver := { s.driver with transparent_data := [] }
      returned := s.returned ++ [s.driver.transparent_data] } := by
  have hflatten :
      (s.returned ++ [s.driver.transparent_data]).flatten ++ [] =
        s.returned.flatten ++ s.driver.transparent_data := by simp
  rw [AccountsFrom]
  simp only [hflatten]
  exact h

theorem accountsFrom_step (d₀ : UWB) (s : Session) (call : Call)
    (s' : Session) (hs : s.AccountsFrom d₀)
    (h : s.step beyond call = some s') : s'.AccountsFrom d₀ := by
  rcases call with ⟨op, polls⟩ | bytes | bytes | polls
  · obtain ⟨o, ho, rfl⟩ := Option.map_eq_some_iff.mp h
    exact hs.consumes (performs_perform ho).taken
  · cases h
    exact hs.consumes (consumes_update s.driver bytes)
  · have hupdate := hs.consumes
      (@consumes_update beyond s.driver bytes)
    simp only [step] at h
    rcases @getRecvData_eq beyond s.driver bytes with heq | heq
    · rw [heq] at h
      cases h
      simpa using hupdate
    · rw [heq] at h
      cases h
      exact hupdate.returns
  · obtain ⟨r, hr, rfl⟩ := Option.map_eq_some_iff.mp h
    exact hs.consumes (performs_reset hr).taken

/-- Whatever state a driver is in: once it has consumed enough noise, the data
behind those that it had and those pushed during the noise are exactly the data
of the packets behind the noise. -/
theorem returned_after_noise {d₀ : UWB} {noise : Bytes}
    (hnoise : ∀ b ∈ noise, (StreamItem.noise b).WellFormed)
    (hlen : 65539 ≤ noise.length) {items : List StreamItem}
    (hitems : ∀ item ∈ items, item.WellFormed) {calls : List Call}
    {s : Session} (hrun : run (step beyond) { driver := d₀ } calls = some s)
    (hstream : d₀.rx_data_queue ++ s.loaded <+:
      noise ++ items.flatMap StreamItem.bytes) :
    ∃ consumed,
      d₀.rx_data_queue ++ s.loaded = consumed ++ s.driver.rx_data_queue ∧
      s.returned.flatten ++ s.driver.transparent_data =
        d₀.transparent_data ++
          (completedNtfs d₀.recv_packet d₀.rx_payload
            (consumed.take noise.length)).flatMap Notification.pushed ++
          (StreamItem.completed items
            (consumed.length - noise.length)).flatMap StreamItem.data := by
  have hstart : AccountsFrom d₀ { driver := d₀ } := Consumes.refl d₀
  obtain ⟨consumed, hqueue, -, hdata⟩ :=
    run_invariant (accountsFrom_step d₀) hstart hrun
  refine ⟨consumed, hqueue, ?_⟩
  have hconsumed : consumed <+: noise ++ items.flatMap StreamItem.bytes := by
    rw [hqueue] at hstream
    exact (List.prefix_append _ _).trans hstream
  change s.returned.flatten ++ s.driver.transparent_data = _ at hdata
  rw [hdata, List.append_assoc]
  congr 1
  by_cases hle : noise.length ≤ consumed.length
  · obtain ⟨rest, rfl⟩ := List.prefix_of_prefix_length_le
      (List.prefix_append _ _) hconsumed hle
    have hrest := (List.prefix_append_right_inj _).mp hconsumed
    rw [completedNtfs_append, List.flatMap_append, List.take_left' rfl,
      List.length_append, Nat.add_sub_cancel_left]
    congr 1
    apply pushed_completedNtfs hitems _ _ hrest
    exact parser_sta_feed_noise hnoise hlen _ _
  · rw [List.take_of_length_le (by omega), Nat.sub_eq_zero_of_le (by omega)]
    rw [StreamItem.completed_zero, List.flatMap_nil, List.append_nil]

/-- A data notification has lost its last byte. -/
def lostByte : UWB :=
  UWB.update (fun _ => 0)
    { recv_packet := UciCtrlPacket.init 0 0 0 0
      uci_cmd := { toUciCtrlPacket := UciCtrlPacket.init 0 0 0 0 } }
    [0x63, 0x01, 0x00, 0x04, 0x02, 0x00, 0xAA]

def quiet : Bytes := List.replicate 65539 0xFF

/-- Then come noise and two data notifications. -/
def resumed : Session where
  driver := lostByte.update (fun _ => 0)
    (quiet ++ twoDataNtfs.flatMap StreamItem.bytes)
  loaded := quiet ++ twoDataNtfs.flatMap StreamItem.bytes

theorem returned_resumed :
    ∃ consumed,
      lostByte.rx_data_queue ++ resumed.loaded =
        consumed ++ resumed.driver.rx_data_queue ∧
      resumed.returned.flatten ++ resumed.driver.transparent_data =
        lostByte.transparent_data ++
          (completedNtfs lostByte.recv_packet lostByte.rx_payload
            (consumed.take quiet.length)).flatMap Notification.pushed ++
          (StreamItem.completed twoDataNtfs
            (consumed.length - quiet.length)).flatMap StreamItem.data :=
  @returned_after_noise (fun _ => 0) lostByte quiet (noise_replicate _)
    (le_of_eq List.length_replicate.symm) twoDataNtfs (by decide)
    [.update (quiet ++ twoDataNtfs.flatMap StreamItem.bytes)] resumed rfl
    (List.prefix_refl _)

end Session

end UWB

end WirelessHarness
