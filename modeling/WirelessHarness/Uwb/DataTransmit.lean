import WirelessHarness.Uwb.CommandStatus
import WirelessHarness.Uwb.Segmentation

/-!
# What `data_transmit` puts on the wire

Between commands the packer's offset is 0, so data that fit into one command
are sent as one packet.  Larger data are refused by the packer, with the same
`false` that announces another segment: the driver then sends the packet of an
earlier command.
-/

namespace WirelessHarness

open CheckedRead Runs UciCtrlPacket

namespace UWB

variable {beyond : OutOfRange → UInt8}

/-! ## The packer between commands -/

theorem uci_cmd_notifyProcess (d : UWB) :
    (d.notifyProcess beyond).uci_cmd = d.uci_cmd := by
  simp only [notifyProcess]
  repeat' split
  all_goals rfl

theorem uci_cmd_afterByte (d : UWB) (data : UInt8) :
    (d.afterByte beyond data).uci_cmd = d.uci_cmd := by
  simp only [afterByte]
  split
  · exact uci_cmd_notifyProcess _
  · rfl

theorem kept_payload_offset (beyond : OutOfRange → UInt8) :
    Kept beyond fun d => d.uci_cmd.payload_offset = 0 where
  byte d data hd := by rw [uci_cmd_afterByte, hd]
  data _ _ _ hd := hd

/-- Sending a command ends with `reset_packer`. -/
theorem payload_offset_sendPacket {d : UWB} {cmd : Command}
    {polls : List Poll} {o : Outcome}
    (h : sendPacket beyond (d.prepare cmd) polls = some o) :
    o.driver.uci_cmd.payload_offset = 0 := by
  obtain ⟨o', -, rfl⟩ := Option.map_eq_some_iff.mp h
  rfl

/-- Whatever commands a driver has sent, the next one is packed from its
beginning. -/
theorem payload_offset_of_reachable {d : UWB}
    (hd : Reachable (step beyond) (Constructed beyond) d) :
    d.uci_cmd.payload_offset = 0 := by
  have hkept := kept_payload_offset beyond
  refine reachable_invariant (I := fun d => d.uci_cmd.payload_offset = 0) ?_
    (hkept.step fun _ _ _ _ _ _ _ ho => payload_offset_sendPacket ho) hd
  rintro d ⟨mt, gid, oid, pbf, uci_cmd, polls, hconstruct⟩
  obtain ⟨r, hr, rfl⟩ := Option.map_eq_some_iff.mp hconstruct
  exact hkept.reset (fun o ho => payload_offset_sendPacket ho) hr

/-! ## The packets of a call -/

/-- The payload of a command packet. -/
def packetPayload (packet : Bytes) : Bytes :=
  packet.drop UCI_CTRL_PKT_HDR_SIZE

/-- The packets passed to `interface.send` are `CX_APP_DATA_TX` commands with
the segments of the data in order, and no more than there are segments; success
means that all of them were sent, and data the command cannot carry are not
sent at all. -/
structure SendsData (data : Bytes) (o : Outcome) : Prop where
  segment : ∀ k x, o.exchanges[k]? = some x → ∃ pbf,
    x.packet = appDataTx.packet pbf
      ((data.drop (k * MAX_PAYLOAD_LEN)).take MAX_PAYLOAD_LEN)
  count : o.exchanges.length ≤
    (data.length + MAX_PAYLOAD_LEN - 1) / MAX_PAYLOAD_LEN
  complete : o.ret = true →
    o.exchanges.flatMap (fun x => packetPayload x.packet) = data
  oversized : CX_APP_DATA_TX_MAX_PAYLOAD_LEN < data.length →
    o.exchanges = [] ∧ o.ret = false

theorem packetPayload_packet (id : MessageId) (pbf : UInt8)
    (payload : Bytes) : packetPayload (id.packet pbf payload) = payload := rfl

/-- Data that fit into the command are packed whole. -/
theorem pack_cxAppDataTx {c : UciCMD} (hoffset : c.payload_offset = 0)
    {data : Bytes} (hdata : data.length ≤ CX_APP_DATA_TX_MAX_PAYLOAD_LEN) :
    (Command.cxAppDataTx data).pack c =
        (true, ((Command.cxAppDataTx data).pack c).2) ∧
      ((Command.cxAppDataTx data).pack c).2.packet =
        appDataTx.packet PBF_COMPLETE data := by
  have hmax : CX_APP_DATA_TX_MAX_PAYLOAD_LEN ≤ MAX_PAYLOAD_LEN := by decide
  set p : UciCtrlPacket := { c.toUciCtrlPacket with
    mt := MT_CMD
    gid := GID0x03
    oid := CX_APP_DATA_TX } with hp
  have hzero : p.payload_offset.toNat = 0 := by
    rw [hp]
    exact congrArg UInt16.toNat hoffset
  obtain ⟨p', hbuild, hpacket⟩ := @buildPacket_last p appDataTx data
    ⟨rfl, rfl, rfl⟩ (by omega) (by omega)
  have hpack : (Command.cxAppDataTx data).pack c =
      (true, { toUciCtrlPacket := p', payload := data }) := by
    simp only [Command.pack, UciCMD.cxAppDataTx, if_neg (not_lt.mpr hdata),
      UciCMD.build, ← hp, hbuild]
  rw [hpack]
  refine ⟨rfl, ?_⟩
  rw [hzero] at hpacket
  exact hpacket

/-- The first round sends whatever the packer has left in `packet`. -/
theorem exchanges_sendLoop {packer checker : Command} {fuel : ℕ} {d : UWB}
    {polls : List Poll} {o : Outcome}
    (h : sendLoop beyond packer checker fuel d polls = some o) :
    ∃ x rest, o.exchanges = x :: rest ∧
      x.packet = (packer.pack d.uci_cmd).2.packet ∧
      ((packer.pack d.uci_cmd).1 = true → rest = []) := by
  cases fuel with
  | zero => cases h
  | succ fuel =>
      simp only [sendLoop] at h
      split at h
      · cases h
        exact ⟨_, [], rfl, rfl, fun _ => rfl⟩
      · split at h
        · split at h
          · cases h
            exact ⟨_, [], rfl, rfl, fun _ => rfl⟩
          next hmore =>
            obtain ⟨o', -, rfl⟩ := Option.map_eq_some_iff.mp h
            exact ⟨_, o'.exchanges, rfl, rfl, fun hlast => absurd hlast hmore⟩
        · cases h
          exact ⟨_, [], rfl, rfl, fun _ => rfl⟩

theorem exchanges_sendPacket {d : UWB} {cmd : Command} {polls : List Poll}
    {o : Outcome} (h : sendPacket beyond (d.prepare cmd) polls = some o) :
    ∃ x rest, o.exchanges = x :: rest ∧
      x.packet = (cmd.pack d.uci_cmd).2.packet ∧
      ((cmd.pack d.uci_cmd).1 = true → rest = []) := by
  obtain ⟨o', ho', rfl⟩ := Option.map_eq_some_iff.mp h
  have hloop := exchanges_sendLoop ho'
  exact hloop

theorem sendsData_of_le {d : UWB} (hoffset : d.uci_cmd.payload_offset = 0)
    {data : Bytes} (hdata : data ≠ [])
    (hle : data.length ≤ CX_APP_DATA_TX_MAX_PAYLOAD_LEN) {polls : List Poll}
    {o : Outcome}
    (h : sendPacket beyond (d.prepare (.cxAppDataTx data)) polls = some o) :
    SendsData data o := by
  have hmax : CX_APP_DATA_TX_MAX_PAYLOAD_LEN ≤ MAX_PAYLOAD_LEN := by decide
  have hpos := List.length_pos_iff.mpr hdata
  obtain ⟨hlast, hpack⟩ := pack_cxAppDataTx hoffset hle
  obtain ⟨x, rest, hexchanges, hpacket, hrest⟩ := exchanges_sendPacket h
  obtain rfl := hrest (congrArg Prod.fst hlast)
  rw [hpack] at hpacket
  constructor
  case segment =>
    intro k y hy
    rw [hexchanges] at hy
    obtain ⟨rfl, rfl⟩ : k = 0 ∧ y = x := by
      cases k with
      | zero => exact ⟨rfl, (Option.some.inj hy).symm⟩
      | succ k => simp at hy
    refine ⟨PBF_COMPLETE, ?_⟩
    rw [hpacket, Nat.zero_mul, List.drop_zero,
      List.take_of_length_le (hle.trans hmax)]
  case count =>
    rw [hexchanges, List.length_singleton]
    apply (Nat.one_le_div_iff (by decide)).mpr
    omega
  case complete =>
    intro _
    rw [hexchanges, List.flatMap_singleton, hpacket, packetPayload_packet]
  case oversized =>
    intro hlt
    omega

theorem dataTransmit_of_ready {d : UWB} (hsta : d.uwbs_sta = .ready)
    {data : Bytes} (hdata : data ≠ []) (polls : List Poll) :
    d.dataTransmit beyond data polls =
      sendPacket beyond (d.prepare (.cxAppDataTx data)) polls := by
  rw [dataTransmit, if_neg (not_not.mpr hsta), if_neg hdata]

/-- The refused data are not sent, but something is: the packet that an earlier
command has left. -/
theorem exchanges_of_oversized {d : UWB} (hsta : d.uwbs_sta = .ready)
    {data : Bytes} (hlt : CX_APP_DATA_TX_MAX_PAYLOAD_LEN < data.length)
    (polls : List Poll) :
    ∃ o, d.dataTransmit beyond data polls = some o ∧
      (o.exchanges.map Exchange.packet).head? = some d.uci_cmd.packet := by
  have hdata : data ≠ [] := List.ne_nil_of_length_pos (by omega)
  obtain ⟨o, ho⟩ := Option.isSome_iff_exists.mp
    (@isSome_sendPacket beyond
      (d.prepare (.cxAppDataTx data)) polls)
  obtain ⟨x, rest, hexchanges, hpacket, -⟩ := exchanges_sendPacket ho
  refine ⟨o, (dataTransmit_of_ready hsta hdata polls).trans ho, ?_⟩
  rw [hexchanges, List.map_cons, List.head?_cons, hpacket, Command.pack,
    UciCMD.cxAppDataTx, if_pos hlt]

theorem not_sendsData_of_oversized {d : UWB} (hsta : d.uwbs_sta = .ready)
    {data : Bytes} (hlt : CX_APP_DATA_TX_MAX_PAYLOAD_LEN < data.length)
    (polls : List Poll) {o : Outcome}
    (ho : d.dataTransmit beyond data polls = some o) :
    ¬ SendsData data o := by
  intro hsends
  obtain ⟨o', ho', hhead⟩ := exchanges_of_oversized hsta hlt polls
  cases ho.symm.trans ho'
  rw [(hsends.oversized hlt).1] at hhead
  cases hhead

/-- A call keeps to the data exactly if the driver refuses it as not ready or
the data fit into one command. -/
theorem sendsData_iff {d : UWB}
    (hd : Reachable (step beyond) (Constructed beyond) d) {data : Bytes}
    (hdata : data ≠ []) (polls : List Poll) :
    (∃ o, d.dataTransmit beyond data polls = some o ∧ SendsData data o) ↔
      d.uwbs_sta ≠ .ready ∨
        data.length ≤ CX_APP_DATA_TX_MAX_PAYLOAD_LEN := by
  by_cases hsta : d.uwbs_sta = .ready
  · constructor
    · rintro ⟨o, ho, hsends⟩
      refine Or.inr (not_lt.mp fun hlt => ?_)
      exact not_sendsData_of_oversized hsta hlt polls ho hsends
    · intro hor
      have hle := hor.resolve_left (not_not.mpr hsta)
      obtain ⟨o, ho⟩ := Option.isSome_iff_exists.mp
        (@isSome_sendPacket beyond
          (d.prepare (.cxAppDataTx data)) polls)
      exact ⟨o, (dataTransmit_of_ready hsta hdata polls).trans ho,
        sendsData_of_le (payload_offset_of_reachable hd) hdata hle ho⟩
  · refine iff_of_true ?_ (Or.inl hsta)
    refine ⟨⟨false, d, polls, []⟩, by rw [dataTransmit, if_pos hsta], ?_⟩
    constructor
    case segment => simp
    case count => simp
    case complete => simp
    case oversized => simp

/-- As many data as the command carries, and an answer in two parts. -/
theorem sendsData_1020 :
    ∃ o, broughtUp.dataTransmit (fun _ => 0) (List.replicate 1020 0x01)
        [.received [0x43, 0x00, 0x00], .received [0x01, 0x00]] = some o ∧
      SendsData (List.replicate 1020 0x01) o := by
  have hlength : (List.replicate 1020 (0x01 : UInt8)).length ≤
      CX_APP_DATA_TX_MAX_PAYLOAD_LEN := by
    rw [List.length_replicate]
    decide
  exact (sendsData_iff reachable_broughtUp
    (List.ne_nil_of_length_pos (by rw [List.length_replicate]; decide))
    _).mpr (Or.inr hlength)

/-- Instead of 1021 bytes the driver sends the packet of its reset command. -/
theorem not_sendsData_oversized :
    ∃ o, broughtUp.dataTransmit (fun _ => 0) (List.replicate 1021 0)
        [.received [0x43, 0x00, 0x00, 0x01, 0x00]] = some o ∧
      (o.exchanges.map Exchange.packet).head? =
        some [0x20, 0x00, 0x00, 0x01, 0x00] ∧
      ¬ SendsData (List.replicate 1021 0) o := by
  have hlt : CX_APP_DATA_TX_MAX_PAYLOAD_LEN <
      (List.replicate 1021 (0 : UInt8)).length := by
    rw [List.length_replicate]
    decide
  have hsta : broughtUp.uwbs_sta = .ready := by decide
  have hpacket : broughtUp.uci_cmd.packet = [0x20, 0x00, 0x00, 0x01, 0x00] := by
    decide
  obtain ⟨o, ho, hhead⟩ := @exchanges_of_oversized (fun _ => 0) _ hsta _ hlt
    [.received [0x43, 0x00, 0x00, 0x01, 0x00]]
  rw [hpacket] at hhead
  exact ⟨o, ho, hhead, not_sendsData_of_oversized hsta hlt _ ho⟩

end UWB

end WirelessHarness
