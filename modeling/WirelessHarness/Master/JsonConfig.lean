import WirelessHarness.Master.IdFormat

/-!
# The JSON device configuration

`DeviceConfigInst::forward` sends one command for every item of a request.  Its
success flag is set by the first item that succeeds and never cleared again,
and the result of `parseIdString` is not looked at, so the answer tells the
outcome of each item only when all items have the same one and every id string
is an id.
-/

namespace WirelessHarness

open CheckedRead

/-! ## Requests and answers -/

/-- `item["clip"]`: a `pin` counts only if it is a string. -/
structure ClipItem where
  mode : Option UInt8
  pin : Option Bytes

/-- An item of `params`, with its numbers as the library converts them to the
type they are assigned to. -/
structure Item where
  id : Option Bytes
  cond : UInt16
  Z : Option UInt16 := none
  clip : Option ClipItem := none

inductive StatusReply
  | STATUS_OK
  | STATUS_ERROR
deriving DecidableEq, Repr

/-- `rsp`, with an absent list of ids empty. -/
structure JsonResponse where
  status : StatusReply
  inst : CmdType
  id : List Bytes
deriving DecidableEq, Repr

/-! ## DeviceConfigInst -/

structure DeviceConfigInst where
  data_forward : DataForward := .zero
  cfg_success : Bool := false
  cfg_false_dev : List IdBytes := []

namespace DeviceConfigInst

/-- The total of all items, narrowed at each addition. -/
def countHarness (params : List Item) : UInt16 :=
  params.foldl (fun total item => total + item.cond) 0

/-- The state of the loop over the items. -/
structure LoopState (σ : Type) where
  self : DeviceConfigInst
  index : ℕ
  sys : σ

/-- The result of `parseIdString` is not looked at: the groups it has not read
keep the bytes of the item before. -/
def extractId (tar_id : IdBytes) (item : Item) : Except OutOfRange IdBytes :=
  match item.id with
  | none => return tar_id
  | some id => do
      let (_, tar_id) ← parseIdString id tar_id
      return tar_id

/-- What the item does not set keeps the value of the item before. -/
def setClip (cfg_cmd : CfgCmd) (item : Item) : CfgCmd :=
  match item.clip with
  | none => cfg_cmd
  | some clip => { cfg_cmd with
      clip_exist := true
      clip_mode := clip.mode.getD cfg_cmd.clip_mode
      clip_pin := (clip.pin.map hexStringToUint16).getD cfg_cmd.clip_pin }

/-- The fields of the command that an item sets. -/
def fillCmd (slave_num index : ℕ) (cfg_cmd : CfgCmd) (item : Item) :
    Except OutOfRange CfgCmd := do
  let id ← extractId cfg_cmd.id item
  return setClip { cfg_cmd with
    is_last_dev := decide (index = slave_num - 1)
    id
    cond := item.cond
    Z := item.Z.getD cfg_cmd.Z } item

variable {σ : Type}

/-- One iteration: `cfg_success` is the flag of all items so far. -/
def configItem (port : CommandPort σ) (slave_num : ℕ) (l : LoopState σ)
    (item : Item) : Except OutOfRange (LoopState σ) := do
  let cfg_cmd ←
    fillCmd slave_num l.index l.self.data_forward.cfg_cmd item
  let data_forward := { l.self.data_forward with cfg_cmd }
  let (ok, sys) := port.forward data_forward l.sys
  let cfg_success :=
    l.self.cfg_success || (ok && port.event sys .CONFIG_SUCCESS_EVENT)
  return {
    self := {
      data_forward := { data_forward with
        cfg_cmd := { cfg_cmd with
          startHarnessNum := cfg_cmd.startHarnessNum + cfg_cmd.cond } }
      cfg_success
      cfg_false_dev :=
        if cfg_success then l.self.cfg_false_dev
        else l.self.cfg_false_dev ++ [cfg_cmd.id] }
    index := l.index + 1
    sys }

/-- The members before the test for `params`. -/
def start (self : DeviceConfigInst) : DeviceConfigInst where
  data_forward :=
    { self.data_forward with type := .DEV_CONF, cfg_cmd := .zero }
  cfg_success := false
  cfg_false_dev := []

/-- The loop over the items. -/
def configLoop (port : CommandPort σ) (self : DeviceConfigInst)
    (params : List Item) (sys : σ) : Except OutOfRange (LoopState σ) :=
  let data_forward := { self.data_forward with
    cfg_cmd := { self.data_forward.cfg_cmd with
      totalHarnessNum := countHarness params
      slave_dev_num := UInt16.ofNat params.length } }
  params.foldlM (configItem port params.length)
    ⟨{ self with data_forward }, 0, sys⟩

def response (self : DeviceConfigInst) : JsonResponse :=
  if self.cfg_success then ⟨.STATUS_OK, .DEV_CONF, []⟩
  else ⟨.STATUS_ERROR, .DEV_CONF, self.cfg_false_dev.map formatDevId⟩

/-- `params` is `none` when the request has no `params`. -/
def forward (port : CommandPort σ) (self : DeviceConfigInst)
    (params : Option (List Item)) (sys : σ) :
    Except OutOfRange (JsonResponse × DeviceConfigInst × σ) := do
  let self := self.start
  let (self, sys) ← match params with
    | none => pure (self, sys)
    | some params => do
        let l ← configLoop port self params sys
        pure (l.self, l.sys)
  return (self.response, self, sys)

end DeviceConfigInst

/-! ## Outcomes of the items -/

/-- The `k`-th command: whether `DataForwardBase::forward` returns true, and
the reading of `CONFIG_SUCCESS_EVENT` after it. -/
abbrev Outcomes := ℕ → Bool × Bool

/-- The other tasks with these outcomes; the state counts the commands. -/
def Outcomes.port (outcome : Outcomes) : CommandPort ℕ where
  forward _ n := ((outcome n).1, n + 1)
  event n _ := (outcome (n - 1)).2

def Outcomes.succeeded (outcome : Outcomes) (k : ℕ) : Bool :=
  (outcome k).1 && (outcome k).2

/-- The id of an item whose string is one. -/
def Item.acceptedId? (item : Item) : Option IdBytes :=
  item.id.bind WirelessHarness.acceptedId?

namespace DeviceConfigInst

/-- The answer and the commands tell the outcome of each item. -/
structure ReportsEach (outcome : Outcomes) (params : List Item)
    (cmds : List CfgCmd) (rsp : JsonResponse) : Prop where
  ids_eq : cmds.map CfgCmd.id = params.filterMap Item.acceptedId?
  status_iff : rsp.status = .STATUS_OK ↔
    ∀ k item, params[k]? = some item →
      item.acceptedId? ≠ none ∧ outcome.succeeded k = true
  failed_eq : rsp.status ≠ .STATUS_OK → rsp.id =
    ((params.zipIdx.filter fun entry => !outcome.succeeded entry.2).filterMap
      fun entry => entry.1.acceptedId?).map formatDevId

/-- What one request does under the given outcomes. -/
def Reports (outcome : Outcomes) (self : DeviceConfigInst)
    (params : List Item) : Prop :=
  ∃ rsp self' n cmds,
    forward outcome.port.logged self (some params) (0, []) =
        .ok (rsp, self', n, cmds) ∧
      ReportsEach outcome params (cmds.map DataForward.cfg_cmd) rsp

/-! ## One item -/

theorem extractId_spec (tar_id : IdBytes) (item : Item) :
    ∃ id, extractId tar_id item = .ok id ∧
      ∀ dev, item.acceptedId? = some dev → id = dev := by
  rcases hstring : item.id with _ | string
  · refine ⟨tar_id, by rw [extractId, hstring]; rfl, ?_⟩
    intro dev hdev
    rw [Item.acceptedId?, hstring] at hdev
    cases hdev
  · obtain ⟨⟨ok, id⟩, hparse⟩ := parseIdString_inRange string tar_id
    refine ⟨id, by rw [extractId, hstring]; simp [hparse], ?_⟩
    intro dev hdev
    rw [Item.acceptedId?, hstring, Option.bind_some,
      acceptedId?_eq_some_iff tar_id, hparse] at hdev
    cases hdev
    rfl

@[simp] theorem setClip_id (cfg_cmd : CfgCmd) (item : Item) :
    (setClip cfg_cmd item).id = cfg_cmd.id := by
  unfold setClip
  split <;> rfl

theorem fillCmd_spec (slave_num index : ℕ) (cfg_cmd : CfgCmd) (item : Item) :
    ∃ cmd, fillCmd slave_num index cfg_cmd item = .ok cmd ∧
      ∀ dev, item.acceptedId? = some dev → cmd.id = dev := by
  obtain ⟨id, hid, hdev⟩ := extractId_spec cfg_cmd.id item
  rw [fillCmd, hid, ok_bind]
  refine ⟨_, rfl, ?_⟩
  intro dev hsome
  rw [setClip_id]
  exact hdev dev hsome

/-- What one iteration adds to the commands, the flag and the list. -/
theorem configItem_spec (outcome : Outcomes) (slave_num : ℕ)
    (l : LoopState (ℕ × List DataForward)) (item : Item) :
    ∃ cmd l', configItem outcome.port.logged slave_num l item = .ok l' ∧
      (∀ dev, item.acceptedId? = some dev → cmd.cfg_cmd.id = dev) ∧
      l'.sys = (l.sys.1 + 1, l.sys.2 ++ [cmd]) ∧
      l'.self.cfg_success =
        (l.self.cfg_success || outcome.succeeded l.sys.1) ∧
      (l'.self.cfg_success = false → l'.self.cfg_false_dev =
        l.self.cfg_false_dev ++ [cmd.cfg_cmd.id]) := by
  obtain ⟨cfg_cmd, hfill, hdev⟩ := fillCmd_spec slave_num l.index
    l.self.data_forward.cfg_cmd item
  rw [configItem, hfill, ok_bind]
  refine ⟨{ l.self.data_forward with cfg_cmd }, _, rfl, hdev, rfl, rfl, ?_⟩
  intro hfalse
  exact if_neg (Bool.eq_false_iff.mp hfalse)

/-! ## All items -/

/-- What the loop adds.  The commands of items without an accepted id are left
open: they carry what the items before left in the target. -/
theorem foldlM_configItem (outcome : Outcomes) (slave_num : ℕ)
    (params : List Item) (l : LoopState (ℕ × List DataForward)) :
    ∃ cmds l',
      params.foldlM (configItem outcome.port.logged slave_num) l = .ok l' ∧
      List.Forall₂ (fun item (cmd : DataForward) =>
        ∀ dev, item.acceptedId? = some dev → cmd.cfg_cmd.id = dev)
        params cmds ∧
      l'.sys = (l.sys.1 + params.length, l.sys.2 ++ cmds) ∧
      (l'.self.cfg_success = true ↔ l.self.cfg_success = true ∨
        ∃ k < params.length, outcome.succeeded (l.sys.1 + k) = true) ∧
      (l'.self.cfg_success = false → l'.self.cfg_false_dev =
        l.self.cfg_false_dev ++ cmds.map fun cmd => cmd.cfg_cmd.id) := by
  induction params generalizing l with
  | nil => exact ⟨[], l, rfl, .nil, by simp, by simp, by simp⟩
  | cons item params ih =>
      obtain ⟨cmd, l₁, hitem, hdev, hsys, hflag, hlist⟩ :=
        configItem_spec outcome slave_num l item
      obtain ⟨cmds, l', hrun, hids, hsys', hflag', hlist'⟩ := ih l₁
      rw [hsys] at hsys' hflag'
      have hstep (k : ℕ) : l.sys.1 + 1 + k = l.sys.1 + (k + 1) := by omega
      have hall : l'.self.cfg_success = true ↔ l.self.cfg_success = true ∨
          ∃ k < params.length + 1,
            outcome.succeeded (l.sys.1 + k) = true := by
        rw [hflag', hflag, Bool.or_eq_true, or_assoc, Nat.exists_lt_succ_left]
        simp only [hstep, Nat.add_zero]
      refine ⟨cmd :: cmds, l', ?_, .cons hdev hids, ?_, hall, ?_⟩
      · rw [List.foldlM_cons, hitem, ok_bind, hrun]
      · rw [hsys', List.append_assoc, List.length_cons, Nat.add_assoc,
          Nat.add_comm 1]
        rfl
      · intro hfalse
        have hfalse₁ : l₁.self.cfg_success = false := by
          rw [← Bool.not_eq_true]
          intro htrue
          exact Bool.eq_false_iff.mp hfalse (hflag'.mpr (.inl htrue))
        rw [hlist' hfalse, hlist hfalse₁, List.append_assoc]
        rfl

theorem response_status (self : DeviceConfigInst) :
    self.response.status = .STATUS_OK ↔ self.cfg_success = true := by
  unfold response
  split <;> simp_all

theorem response_id {self : DeviceConfigInst}
    (h : self.cfg_success = false) :
    self.response.id = self.cfg_false_dev.map formatDevId := by
  rw [response, h]
  rfl

/-- The answer is a success as soon as one item succeeds; else it lists the ids
of all commands. -/
theorem forward_spec (outcome : Outcomes) (self : DeviceConfigInst)
    (params : List Item) :
    ∃ rsp self' n cmds,
      forward outcome.port.logged self (some params) (0, []) =
          .ok (rsp, self', n, cmds) ∧
        List.Forall₂ (fun item (cmd : DataForward) =>
          ∀ dev, item.acceptedId? = some dev → cmd.cfg_cmd.id = dev)
          params cmds ∧
        (rsp.status = .STATUS_OK ↔
          ∃ k < params.length, outcome.succeeded k = true) ∧
        (rsp.status ≠ .STATUS_OK →
          rsp.id = (cmds.map fun cmd => cmd.cfg_cmd.id).map formatDevId) := by
  obtain ⟨cmds, l', hrun, hids, hsys, hflag, hlist⟩ :=
    foldlM_configItem outcome params.length params
      ⟨{ self.start with data_forward := { self.start.data_forward with
          cfg_cmd := { self.start.data_forward.cfg_cmd with
            totalHarnessNum := countHarness params
            slave_dev_num := UInt16.ofNat params.length } } }, 0, (0, [])⟩
  refine ⟨l'.self.response, l'.self, l'.sys.1, cmds, ?_, hids, ?_, ?_⟩
  · rw [forward]
    simp only [configLoop]
    rw [hrun, ok_bind]
    simp only [pure_bind]
    rw [hsys]
    rfl
  · rw [response_status, hflag]
    simp [start]
  · intro hstatus
    have hfalse : l'.self.cfg_success = false := by
      rw [← Bool.not_eq_true, ← response_status]
      exact hstatus
    rw [response_id hfalse, hlist hfalse]
    rfl

/-- With ids for all items the commands carry exactly them. -/
theorem ids_of_forall₂ {params : List Item} {cmds : List DataForward}
    (h : List.Forall₂ (fun item (cmd : DataForward) =>
      ∀ dev, item.acceptedId? = some dev → cmd.cfg_cmd.id = dev) params cmds)
    (hids : ∀ item ∈ params, item.acceptedId? ≠ none) :
    (cmds.map DataForward.cfg_cmd).map CfgCmd.id =
      params.filterMap Item.acceptedId? := by
  induction h with
  | nil => rfl
  | @cons item cmd params cmds hdev _ ih =>
      obtain ⟨dev, hsome⟩ :=
        Option.ne_none_iff_exists'.mp (hids item List.mem_cons_self)
      rw [List.filterMap_cons_some hsome, ← hdev dev hsome, ← ih ?_]
      · rfl
      · intro item' hmem
        exact hids item' (List.mem_cons_of_mem _ hmem)

theorem filterMap_zipIdx_fst (params : List Item) (n : ℕ) :
    ((params.zipIdx n).filterMap fun entry => entry.1.acceptedId?) =
      params.filterMap Item.acceptedId? := by
  induction params generalizing n with
  | nil => rfl
  | cons item params ih =>
      rw [List.zipIdx_cons, List.filterMap_cons, List.filterMap_cons, ih]

/-- The answer tells each item's own outcome exactly when there are items,
every id string is an id, and all items have the same outcome. -/
theorem reports_iff (outcome : Outcomes) (self : DeviceConfigInst)
    (params : List Item) :
    Reports outcome self params ↔
      params ≠ [] ∧ (∀ item ∈ params, item.acceptedId? ≠ none) ∧
        ((∀ k < params.length, outcome.succeeded k = true) ∨
          ∀ k < params.length, outcome.succeeded k = false) := by
  obtain ⟨rsp, self', n, cmds, hforward, hcmds, hstatus, hfailed⟩ :=
    forward_spec outcome self params
  constructor
  · rintro ⟨rsp₁, self₁, n₁, cmds₁, hforward₁, ids_eq, status_iff, -⟩
    rw [hforward] at hforward₁
    cases hforward₁
    have hids : ∀ item ∈ params, item.acceptedId? ≠ none := by
      have hlen := congrArg List.length ids_eq
      rw [List.length_map, List.length_map, ← hcmds.length_eq] at hlen
      intro item hmem
      exact Option.isSome_iff_ne_none.mp
        (List.filterMap_length_eq_length.mp hlen.symm item hmem)
    refine ⟨?_, hids, ?_⟩
    · rintro rfl
      obtain ⟨k, hk, -⟩ := hstatus.mp (status_iff.mpr (by simp))
      exact Nat.not_lt_zero k hk
    · by_cases hok : rsp.status = .STATUS_OK
      · left
        intro k hk
        exact (status_iff.mp hok k _ (List.getElem?_eq_getElem hk)).2
      · right
        intro k hk
        rw [← Bool.not_eq_true]
        intro hsucc
        exact hok (hstatus.mpr ⟨k, hk, hsucc⟩)
  · rintro ⟨hne, hids, hsame⟩
    refine ⟨rsp, self', n, cmds, hforward, ?_, ?_, ?_⟩
    · exact ids_of_forall₂ hcmds hids
    · rw [hstatus]
      constructor
      · rintro ⟨k, hk, hsucc⟩ k' item hitem
        obtain ⟨hk', -⟩ := List.getElem?_eq_some_iff.mp hitem
        refine ⟨hids item (List.mem_of_getElem? hitem), ?_⟩
        rcases hsame with hall | hnone
        · exact hall k' hk'
        · cases hsucc.symm.trans (hnone k hk)
      · intro h
        have hpos : 0 < params.length := List.length_pos_iff.mpr hne
        exact ⟨0, hpos, (h 0 _ (List.getElem?_eq_getElem hpos)).2⟩
    · intro hnot
      have hnone : ∀ k < params.length, outcome.succeeded k = false := by
        rcases hsame with hall | hnone
        · have hpos : 0 < params.length := List.length_pos_iff.mpr hne
          exact absurd (hstatus.mpr ⟨0, hpos, hall 0 hpos⟩) hnot
        · exact hnone
      have hfilter : params.zipIdx.filter
          (fun entry => !outcome.succeeded entry.2) = params.zipIdx := by
        apply List.filter_eq_self.mpr
        rintro ⟨item, k⟩ hmem
        rw [hnone k (List.snd_lt_of_mem_zipIdx hmem)]
        rfl
      rw [hfailed hnot, hfilter, filterMap_zipIdx_fst,
        ← ids_of_forall₂ hcmds hids]
      simp only [List.map_map, Function.comp_def]

/-- `"00-00-00-01"` and `"00-00-00-02"`. -/
def twoItems : List Item :=
  [⟨some (formatDevId #v[0, 0, 0, 1]), 2, none, none⟩,
    ⟨some (formatDevId #v[0, 0, 0, 2]), 2, none, none⟩]

example : twoItems.filterMap Item.acceptedId? =
    [#v[0, 0, 0, 1], #v[0, 0, 0, 2]] := by decide

/-- The second device fails and the answer is `STATUS_OK`. -/
theorem not_reports_secondFails :
    ¬ Reports (fun k => (true, k == 0)) {} twoItems := by
  rintro ⟨rsp, self', n, cmds, hforward, -, status_iff, -⟩
  obtain ⟨rsp₁, self₁, n₁, cmds₁, hforward₁, -, hstatus, -⟩ :=
    forward_spec (fun k => (true, k == 0)) {} twoItems
  rw [hforward] at hforward₁
  cases hforward₁
  have hok : rsp.status = .STATUS_OK := hstatus.mpr ⟨0, by decide, rfl⟩
  have hsecond := (status_iff.mp hok 1 _ rfl).2
  cases hsecond

end DeviceConfigInst

end WirelessHarness
