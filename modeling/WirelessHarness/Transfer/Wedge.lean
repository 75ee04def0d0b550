import WirelessHarness.Transfer.HandOver

/-!
# A full receive queue

The transfer task adds what it has received to `rx_data_queue` without a
time-out, and the queue is drained only in `__rsp_process`, after a request of
the `SlaveManager`.  Traffic that nobody has asked for fills the queue; the
task then blocks, and with it the sending of the very requests that would drain
the queue.
-/

namespace WirelessHarness

open Runs

namespace Wedge

open HandOver (ManagerDataTransferMsg_RXDATA_QUEUE_SIZE)

def SlaveManager_TX_RETRY_TIMES : ℕ := 3

/-! ## The two tasks -/

/-- A call of `send_frame`. -/
structure Call where
  frame : Bytes
  rsp : Bool
  send_cnd : ℕ := 0
deriving DecidableEq, Repr

/-- Where the `SlaveManager` is: outside `send_frame`; in `__send` with `rest`
still to be added, or at `tx_done_sem.take`; at `rx_done_sem.take`; in the loop
of `__rsp_process`, or behind it. -/
inductive Manager
  | idle
  | adding (call : Call) (rest : Bytes)
  | waitingDone (call : Call)
  | waitingRsp (call : Call)
  | draining (call : Call) (rsp_data : Bytes)
  | parsing (call : Call) (rsp_data : Bytes)
deriving DecidableEq, Repr

namespace Manager

def isDraining : Manager → Bool
  | draining _ _ => true
  | _ => false

def inRspProcess : Manager → Bool
  | draining _ _ => true
  | parsing _ _ => true
  | _ => false

theorem inRspProcess_of_isDraining {m : Manager} (h : m.isDraining = true) :
    m.inRspProcess = true := by
  cases m with
  | draining call rsp_data => rfl
  | _ => cases h

/-- Before the wait for `tx_done_sem` has succeeded. -/
def beforeDone : Manager → Bool
  | idle => true
  | adding _ _ => true
  | waitingDone _ => true
  | _ => false

theorem inRspProcess_of_beforeDone {m : Manager} (h : m.beforeDone = true) :
    m.inRspProcess = false := by
  cases m with
  | idle => rfl
  | adding call rest => rfl
  | waitingDone call => rfl
  | _ => cases h

end Manager

/-- Where the transfer task is: before `tx_request_sem.take`, in the loop that
fills `buffer`, behind `data_transmit`, before `get_recv_data`, or in the loop
over the bytes received. -/
inductive Transfer
  | polling
  | draining (buffer : Bytes)
  | transmitted
  | receiving
  | adding (rest : Bytes)
deriving DecidableEq, Repr

/-- `results` records what `send_frame` has returned, newest first. -/
structure State where
  tx_data_queue : Bytes := []
  rx_data_queue : Bytes := []
  tx_request_sem : Bool := false
  tx_done_sem : Bool := false
  rx_done_sem : Bool := false
  manager : Manager := .idle
  transfer : Transfer := .polling
  results : List Bool := []
deriving DecidableEq, Repr

def boot : State := {}

namespace State

/-- `send_frame` returns. -/
def returns (s : State) (ret : Bool) : State :=
  { s with manager := .idle, results := ret :: s.results }

/-- The end of the loop in `send_frame`. -/
def retry (s : State) (call : Call) : State :=
  if call.send_cnd + 1 < SlaveManager_TX_RETRY_TIMES + 1 then
    { s with manager :=
      .adding { call with send_cnd := call.send_cnd + 1 } call.frame }
  else s.returns false

end State

inductive Event
  | sendFrame (frame : Bytes) (rsp : Bool)
  | addTx
  | addTxTimeout
  | giveRequest
  | takeDone
  | doneTimeout
  | takeRsp
  | rspTimeout
  | popRx
  | process (rsp_parsed : Bool)
  | takeRequest
  | noRequest
  | popTx
  | transmit
  | giveDone
  | receive (recv_data : Bytes)
  | noData
  | addRx
  | giveRx
deriving DecidableEq, Repr

/-- The vector that the driver returns. -/
def Event.vector? : Event → Option Bytes
  | .receive recv_data => some recv_data
  | _ => none

/-- One step of either task.  A wait times out only where it cannot go on, and
`addRx`, which has no time-out, waits for room. -/
def step (s : State) : Event → Option State
  | .sendFrame frame rsp =>
      match s.manager with
      | .idle => some { s with manager := .adding { frame, rsp } frame }
      | _ => none
  | .addTx =>
      match s.manager with
      | .adding call (b :: rest) =>
          if s.tx_data_queue.length < ManagerDataTransferMsg_RXDATA_QUEUE_SIZE
          then
            some { s with
              manager := .adding call rest
              tx_data_queue := s.tx_data_queue ++ [b] }
          else none
      | _ => none
  | .addTxTimeout =>
      match s.manager with
      | .adding _ (_ :: _) =>
          if s.tx_data_queue.length < ManagerDataTransferMsg_RXDATA_QUEUE_SIZE
          then none
          else some (s.returns false)
      | _ => none
  | .giveRequest =>
      match s.manager with
      | .adding call [] =>
          some { s with manager := .waitingDone call, tx_request_sem := true }
      | _ => none
  | .takeDone =>
      match s.manager, s.tx_done_sem with
      | .waitingDone call, true =>
          if call.rsp then
            some { s with manager := .waitingRsp call, tx_done_sem := false }
          else some { s.returns true with tx_done_sem := false }
      | _, _ => none
  | .doneTimeout =>
      match s.manager, s.tx_done_sem with
      | .waitingDone _, false => some (s.returns false)
      | _, _ => none
  | .takeRsp =>
      match s.manager, s.rx_done_sem with
      | .waitingRsp call, true =>
          some { s with manager := .draining call [], rx_done_sem := false }
      | _, _ => none
  | .rspTimeout =>
      match s.manager, s.rx_done_sem with
      | .waitingRsp call, false => some (s.retry call)
      | _, _ => none
  | .popRx =>
      match s.manager, s.rx_data_queue with
      | .draining call rsp_data, b :: queue =>
          some { s with
            manager := .draining call (rsp_data ++ [b])
            rx_data_queue := queue }
      | .draining call rsp_data, [] =>
          some { s with manager := .parsing call rsp_data }
      | _, _ => none
  | .process rsp_parsed =>
      match s.manager with
      | .parsing call _ =>
          some (if rsp_parsed then s.returns true else s.retry call)
      | _ => none
  | .takeRequest =>
      match s.transfer, s.tx_request_sem with
      | .polling, true =>
          some { s with transfer := .draining [], tx_request_sem := false }
      | _, _ => none
  | .noRequest =>
      match s.transfer, s.tx_request_sem with
      | .polling, false => some { s with transfer := .receiving }
      | _, _ => none
  | .popTx =>
      match s.transfer, s.tx_data_queue with
      | .draining buffer, b :: queue =>
          some { s with
            transfer := .draining (buffer ++ [b])
            tx_data_queue := queue }
      | _, _ => none
  | .transmit =>
      match s.transfer, s.tx_data_queue with
      | .draining _, [] => some { s with transfer := .transmitted }
      | _, _ => none
  | .giveDone =>
      match s.transfer with
      | .transmitted =>
          some { s with transfer := .receiving, tx_done_sem := true }
      | _ => none
  | .receive recv_data =>
      match s.transfer with
      | .receiving =>
          if recv_data = [] then none
          else some { s with transfer := .adding recv_data }
      | _ => none
  | .noData =>
      match s.transfer with
      | .receiving => some { s with transfer := .polling }
      | _ => none
  | .addRx =>
      match s.transfer with
      | .adding (b :: rest) =>
          if s.rx_data_queue.length < ManagerDataTransferMsg_RXDATA_QUEUE_SIZE
          then
            some { s with
              transfer := .adding rest
              rx_data_queue := s.rx_data_queue ++ [b] }
          else none
      | _ => none
  | .giveRx =>
      match s.transfer with
      | .adding [] =>
          some { s with transfer := .polling, rx_done_sem := true }
      | _ => none

/-! ## The property -/

/-- The transfer task waits for room that only `__rsp_process` can make, and
the `SlaveManager` is not there. -/
def Blocked (s : State) : Prop :=
  (∃ b rest, s.transfer = .adding (b :: rest)) ∧
    ManagerDataTransferMsg_RXDATA_QUEUE_SIZE ≤ s.rx_data_queue.length ∧
    s.manager.inRspProcess = false

/-- A vector taken from the driver fits into the free room, or into the whole
queue while this is being drained. -/
def Fits (s : State) : Event → Prop
  | .receive recv_data =>
      s.rx_data_queue.length + recv_data.length ≤
          ManagerDataTransferMsg_RXDATA_QUEUE_SIZE ∨
        s.manager.isDraining = true ∧
          recv_data.length ≤ ManagerDataTransferMsg_RXDATA_QUEUE_SIZE
  | _ => True

instance (s : State) (e : Event) : Decidable (Fits s e) := by
  cases e <;> simp only [Fits] <;> infer_instance

/-! ## What a step changes -/

@[simp] theorem rx_data_queue_retry (s : State) (call : Call) :
    (s.retry call).rx_data_queue = s.rx_data_queue := by
  unfold State.retry
  split <;> rfl

@[simp] theorem transfer_retry (s : State) (call : Call) :
    (s.retry call).transfer = s.transfer := by
  unfold State.retry
  split <;> rfl

/-- What the steps do to the receive queue and the task that fills it.  A step
of the manager outside its loop is a `manager` step. -/
inductive Stepped (s : State) : Event → State → Prop
  | manager {e : Event} {s' : State} (hvector : e.vector? = none)
      (hdraining : s.manager.isDraining = false)
      (hqueue : s'.rx_data_queue = s.rx_data_queue)
      (htransfer : s'.transfer = s.transfer) : Stepped s e s'
  | pop {call : Call} {rsp_data queue : Bytes} {b : UInt8}
      (hmanager : s.manager = .draining call rsp_data)
      (hqueue : s.rx_data_queue = b :: queue) :
      Stepped s .popRx { s with
        manager := .draining call (rsp_data ++ [b])
        rx_data_queue := queue }
  | drained {call : Call} {rsp_data : Bytes}
      (hmanager : s.manager = .draining call rsp_data)
      (hqueue : s.rx_data_queue = []) :
      Stepped s .popRx { s with manager := .parsing call rsp_data }
  | transfer {e : Event} {s' : State} (hvector : e.vector? = none)
      (hqueue : s'.rx_data_queue = s.rx_data_queue)
      (hadding : ∀ rest, s'.transfer ≠ .adding rest) : Stepped s e s'
  | receive {recv_data : Bytes} (htransfer : s.transfer = .receiving)
      (hne : recv_data ≠ []) :
      Stepped s (.receive recv_data)
        { s with transfer := .adding recv_data }
  | add {rest : Bytes} {b : UInt8}
      (htransfer : s.transfer = .adding (b :: rest))
      (hroom : s.rx_data_queue.length <
        ManagerDataTransferMsg_RXDATA_QUEUE_SIZE) :
      Stepped s .addRx { s with
        transfer := .adding rest
        rx_data_queue := s.rx_data_queue ++ [b] }

theorem stepped_of_step {s s' : State} {e : Event} (h : step s e = some s') :
    Stepped s e s' := by
  cases e with
  | sendFrame _ _ | giveRequest =>
      simp only [step] at h
      split at h
      next hmanager =>
        cases h
        exact .manager rfl (by rw [hmanager]; rfl) rfl rfl
      next => cases h
  | addTx =>
      simp only [step] at h
      split at h
      next hmanager =>
        obtain ⟨-, heq⟩ := Option.ite_none_right_eq_some.mp h
        cases heq
        exact .manager rfl (by rw [hmanager]; rfl) rfl rfl
      next => cases h
  | addTxTimeout =>
      simp only [step] at h
      split at h
      next hmanager =>
        obtain ⟨-, heq⟩ := Option.ite_none_left_eq_some.mp h
        cases heq
        exact .manager rfl (by rw [hmanager]; rfl) rfl rfl
      next => cases h
  | doneTimeout | takeRsp =>
      simp only [step] at h
      split at h
      next hmanager _ =>
        cases h
        exact .manager rfl (by rw [hmanager]; rfl) rfl rfl
      next => cases h
  | takeDone =>
      simp only [step] at h
      split at h
      next hmanager _ =>
        have hdraining : s.manager.isDraining = false := by
          rw [hmanager]
          rfl
        split at h
        · cases h
          exact .manager rfl hdraining rfl rfl
        · cases h
          exact .manager rfl hdraining rfl rfl
      next => cases h
  | rspTimeout =>
      simp only [step] at h
      split at h
      next call hmanager _ =>
        cases h
        exact .manager rfl (by rw [hmanager]; rfl)
          (rx_data_queue_retry s call) (transfer_retry s call)
      next => cases h
  | popRx =>
      simp only [step] at h
      split at h
      next hmanager hqueue =>
        cases h
        exact .pop hmanager hqueue
      next hmanager hqueue =>
        cases h
        exact .drained hmanager hqueue
      next => cases h
  | process rsp_parsed =>
      simp only [step] at h
      split at h
      next call _ hmanager =>
        have hdraining : s.manager.isDraining = false := by
          rw [hmanager]
          rfl
        cases h
        by_cases hparsed : rsp_parsed = true
        · rw [if_pos hparsed]
          exact .manager rfl hdraining rfl rfl
        · rw [if_neg hparsed]
          exact .manager rfl hdraining (rx_data_queue_retry s call)
            (transfer_retry s call)
      next => cases h
  | receive recv_data =>
      simp only [step] at h
      split at h
      next htransfer =>
        obtain ⟨hne, heq⟩ := Option.ite_none_left_eq_some.mp h
        cases heq
        exact .receive htransfer hne
      next => cases h
  | addRx =>
      simp only [step] at h
      split at h
      next htransfer =>
        obtain ⟨hroom, heq⟩ := Option.ite_none_right_eq_some.mp h
        cases heq
        exact .add htransfer hroom
      next => cases h
  | takeRequest | noRequest | popTx | transmit | giveDone | noData | giveRx =>
      simp only [step] at h
      split at h
      · cases h
        exact .transfer rfl rfl (by simp)
      · cases h

/-! ## Runs in which every vector fits -/

/-- What is left of a vector has room, at the latest once the queue has been
drained. -/
structure Room (s : State) : Prop where
  bounded : s.rx_data_queue.length ≤ ManagerDataTransferMsg_RXDATA_QUEUE_SIZE
  room : ∀ rest, s.transfer = .adding rest →
    s.rx_data_queue.length + rest.length ≤
        ManagerDataTransferMsg_RXDATA_QUEUE_SIZE ∨
      s.manager.isDraining = true ∧
        rest.length ≤ ManagerDataTransferMsg_RXDATA_QUEUE_SIZE

theorem room_boot : Room boot :=
  ⟨Nat.zero_le _, by rintro rest ⟨⟩⟩

theorem Room.step (s : State) (e : Event) (s' : State) (hs : Room s)
    (he : Fits s e) (h : Wedge.step s e = some s') : Room s' := by
  cases stepped_of_step h with
  | manager _ hdraining hqueue htransfer =>
      constructor
      · rw [hqueue]
        exact hs.bounded
      · intro rest hrest
        rw [hqueue]
        left
        rcases hs.room rest (htransfer ▸ hrest) with hfits | ⟨htrue, -⟩
        · exact hfits
        · cases hdraining.symm.trans htrue
  | @pop call rsp_data queue b hmanager hqueue =>
      have hlen : s.rx_data_queue.length = queue.length + 1 := by
        rw [hqueue, List.length_cons]
      have hbounded := hs.bounded
      constructor
      · change queue.length ≤ _
        omega
      · intro rest hrest
        right
        refine ⟨rfl, ?_⟩
        rcases hs.room rest hrest with hfits | ⟨-, hrest⟩
        · omega
        · exact hrest
  | drained hmanager hqueue =>
      refine ⟨hs.bounded, ?_⟩
      intro rest hrest
      left
      change s.rx_data_queue.length + rest.length ≤ _
      rw [hqueue, List.length_nil, Nat.zero_add]
      rcases hs.room rest hrest with hfits | ⟨-, hrest⟩
      · omega
      · exact hrest
  | transfer _ hqueue hadding =>
      constructor
      · rw [hqueue]
        exact hs.bounded
      · intro rest hrest
        exact absurd hrest (hadding rest)
  | receive htransfer hne =>
      refine ⟨hs.bounded, ?_⟩
      rintro rest ⟨⟩
      exact he
  | @add rest b htransfer hroom =>
      have hlen : (s.rx_data_queue ++ [b]).length =
          s.rx_data_queue.length + 1 := by
        rw [List.length_append, List.length_singleton]
      constructor
      · change (s.rx_data_queue ++ [b]).length ≤ _
        omega
      · rintro rest' ⟨⟩
        change (s.rx_data_queue ++ [b]).length + _ ≤ _ ∨ _
        rw [hlen]
        rcases hs.room _ htransfer with hfits | ⟨hdraining, hrest⟩
        · rw [List.length_cons] at hfits
          left
          omega
        · rw [List.length_cons] at hrest
          right
          exact ⟨hdraining, by omega⟩

theorem not_blocked_of_room {s : State} (hs : Room s) : ¬ Blocked s := by
  rintro ⟨⟨b, rest, htransfer⟩, hfull, houtside⟩
  rcases hs.room _ htransfer with hfits | ⟨hdraining, -⟩
  · rw [List.length_cons] at hfits
    omega
  · have hinside := Manager.inRspProcess_of_isDraining hdraining
    cases houtside.symm.trans hinside

/-! ## A vector that does not fit -/

theorem step_addRx_of_full {s : State} {b : UInt8} {rest : Bytes}
    (htransfer : s.transfer = .adding (b :: rest))
    (hfull : ManagerDataTransferMsg_RXDATA_QUEUE_SIZE ≤
      s.rx_data_queue.length) : step s .addRx = none := by
  simp only [step, htransfer]
  exact if_neg (Nat.not_lt.mpr hfull)

theorem run_addRx (s : State) (bs rest : Bytes)
    (htransfer : s.transfer = .adding (bs ++ rest))
    (hroom : s.rx_data_queue.length + bs.length ≤
      ManagerDataTransferMsg_RXDATA_QUEUE_SIZE) :
    run step s (List.replicate bs.length .addRx) =
      some { s with
        transfer := .adding rest
        rx_data_queue := s.rx_data_queue ++ bs } := by
  let g (queue bytes : Bytes) : State :=
    { s with transfer := .adding bytes, rx_data_queue := queue }
  have hstep : ∀ queue b bytes,
      queue.length < ManagerDataTransferMsg_RXDATA_QUEUE_SIZE →
      step (g queue (b :: bytes)) .addRx = some (g (queue ++ [b]) bytes) :=
    fun queue b bytes hlt => if_pos hlt
  have hrun := run_replicate g hstep rest hroom
  simp only [g, ← htransfer] at hrun
  exact hrun

theorem run_popRx (s : State) (call : Call) (rsp_data : Bytes)
    (hmanager : s.manager = .draining call rsp_data) :
    run step s (List.replicate s.rx_data_queue.length .popRx) =
      some { s with
        manager := .draining call (rsp_data ++ s.rx_data_queue)
        rx_data_queue := [] } := by
  let g (bytes queue : Bytes) : State :=
    { s with manager := .draining call bytes, rx_data_queue := queue }
  have hstep : ∀ bytes b queue,
      bytes.length < rsp_data.length + s.rx_data_queue.length →
      step (g bytes (b :: queue)) .popRx = some (g (bytes ++ [b]) queue) :=
    fun bytes b queue _ => rfl
  have hrun := run_replicate g hstep [] le_rfl
  simp only [g, List.append_nil, ← hmanager] at hrun
  exact hrun

/-- The manager can leave `__rsp_process` on its own, and leaves the queue
empty if it was draining it. -/
theorem exists_run_outside (s : State) :
    ∃ es s', (∀ e ∈ es, e.vector? = none) ∧ run step s es = some s' ∧
      s'.transfer = s.transfer ∧ s'.manager.inRspProcess = false ∧
      (s.manager.isDraining = true ∧ s'.rx_data_queue = [] ∨
        s.manager.isDraining = false ∧ s'.rx_data_queue = s.rx_data_queue) := by
  by_cases hinside : s.manager.inRspProcess = true
  · cases hmanager : s.manager with
    | draining call rsp_data =>
        refine ⟨List.replicate s.rx_data_queue.length .popRx ++
            [.popRx, .process true],
          { s with
            manager := .idle
            rx_data_queue := []
            results := true :: s.results },
          ?_, ?_, rfl, rfl, .inl ⟨rfl, rfl⟩⟩
        · intro e he
          rcases List.mem_append.mp he with he | he
          · rw [List.eq_of_mem_replicate he]
            rfl
          · rcases List.mem_pair.mp he with rfl | rfl <;> rfl
        · apply run_append_eq_some.mpr
          exact ⟨_, run_popRx s call rsp_data hmanager, rfl⟩
    | parsing call rsp_data =>
        refine ⟨[.process true], s.returns true, ?_, ?_, rfl, rfl,
          .inr ⟨rfl, rfl⟩⟩
        · intro e he
          rw [List.mem_singleton.mp he]
          rfl
        · simp [run, step, hmanager]
    | _ =>
        rw [hmanager] at hinside
        cases hinside
  · rw [Bool.not_eq_true] at hinside
    have hdraining : s.manager.isDraining = false := by
      by_contra hne
      rw [Bool.not_eq_false] at hne
      have htrue := Manager.inRspProcess_of_isDraining hne
      cases hinside.symm.trans htrue
    exact ⟨[], s, by simp, rfl, rfl, hinside, .inr ⟨hdraining, rfl⟩⟩

theorem exists_blocked_of_not_fits {s : State} {recv_data : Bytes}
    (hs : Room s) (htransfer : s.transfer = .receiving)
    (hne : recv_data ≠ []) (hfits : ¬ Fits s (.receive recv_data)) :
    ∃ es t, (∀ e ∈ es, e.vector? = none) ∧
      run step s (.receive recv_data :: es) = some t ∧ Blocked t := by
  have hreceive : step s (.receive recv_data) =
      some { s with transfer := .adding recv_data } := by
    simp only [step, htransfer]
    rw [if_neg hne]
  obtain ⟨es, s', hes, hrun, htransfer', houtside, hqueue⟩ :=
    exists_run_outside { s with transfer := .adding recv_data }
  have hbounded := hs.bounded
  obtain ⟨hunfit, hunfit'⟩ := not_or.mp hfits
  have hroom : s'.rx_data_queue.length ≤
        ManagerDataTransferMsg_RXDATA_QUEUE_SIZE ∧
      ManagerDataTransferMsg_RXDATA_QUEUE_SIZE <
        s'.rx_data_queue.length + recv_data.length := by
    rcases hqueue with ⟨hdraining, hempty⟩ | ⟨-, hsame⟩
    · have hlong := not_and.mp hunfit' hdraining
      rw [hempty, List.length_nil]
      omega
    · rw [hsame]
      change s.rx_data_queue.length ≤ _ ∧
        _ < s.rx_data_queue.length + recv_data.length
      omega
  -- the bytes that still go into the queue, and the rest that waits
  let n := ManagerDataTransferMsg_RXDATA_QUEUE_SIZE - s'.rx_data_queue.length
  have hlen : (recv_data.take n).length = n := by
    rw [List.length_take]
    omega
  have hadd := run_addRx s' (recv_data.take n) (recv_data.drop n)
    (by rw [htransfer', List.take_append_drop]) (by rw [hlen]; omega)
  refine ⟨es ++ List.replicate (recv_data.take n).length .addRx,
    { s' with
      transfer := .adding (recv_data.drop n)
      rx_data_queue := s'.rx_data_queue ++ recv_data.take n },
    ?_, ?_, ?_, ?_, houtside⟩
  · intro e he
    rcases List.mem_append.mp he with he | he
    · exact hes e he
    · rw [List.eq_of_mem_replicate he]
      rfl
  · apply run_cons_eq_some.mpr
    exact ⟨_, hreceive, run_append_eq_some.mpr ⟨s', hrun, hadd⟩⟩
  · obtain ⟨b, rest, hrest⟩ : ∃ b rest, recv_data.drop n = b :: rest := by
      apply List.exists_cons_of_ne_nil
      rw [ne_eq, List.drop_eq_nil_iff]
      omega
    exact ⟨b, rest, congrArg Transfer.adding hrest⟩
  · change _ ≤ (s'.rx_data_queue ++ recv_data.take n).length
    rw [List.length_append, hlen]
    omega

theorem fits_of_vector?_none {s : State} {e : Event} (h : e.vector? = none) :
    Fits s e := by
  cases e with
  | receive recv_data => cases h
  | _ => trivial

/-- As long as every vector fits, the transfer task does not block while the
manager is outside `__rsp_process`; and a further vector is taken without that
danger exactly if it fits. -/
theorem not_blocked_of_fits {es : List Event} {s : State}
    (hfits : Meets step Fits boot es) (hrun : run step boot es = some s) :
    ¬ Blocked s ∧
      ∀ recv_data, recv_data ≠ [] → s.transfer = .receiving →
        ((∀ es' t, (∀ e ∈ es', e.vector? = none) →
            run step s (.receive recv_data :: es') = some t → ¬ Blocked t) ↔
          Fits s (.receive recv_data)) := by
  have hroom : Room s :=
    run_invariant_of_meets Room.step room_boot hfits hrun
  refine ⟨not_blocked_of_room hroom, ?_⟩
  intro recv_data hne htransfer
  constructor
  · intro hfree
    by_contra hunfit
    obtain ⟨es', t, hes', hrun', hblocked⟩ :=
      exists_blocked_of_not_fits hroom htransfer hne hunfit
    exact hfree es' t hes' hrun' hblocked
  · intro hfit es' t hes' hrun'
    obtain ⟨s', hs', hrest⟩ := run_cons_eq_some.mp hrun'
    have hroom' : Room s' := Room.step s _ s' hroom hfit hs'
    apply not_blocked_of_room
    refine run_invariant_of_meets ?_ hroom' (meets_of_forall hes' s') hrest
    intro u e u' hu he
    exact Room.step u e u' hu (fits_of_vector?_none he)

/-- After a vector of one byte, before the next one. -/
def heard : State :=
  { boot with
    rx_data_queue := [1]
    rx_done_sem := true
    transfer := .receiving }

theorem not_blocked_heard :
    ¬ Blocked heard ∧
      ((∀ es' t, (∀ e ∈ es', e.vector? = none) →
          run step heard (.receive [2] :: es') = some t → ¬ Blocked t) ↔
        Fits heard (.receive [2])) := by
  have h := @not_blocked_of_fits
    [.noRequest, .receive [1], .addRx, .giveRx, .noRequest] heard
    (by decide) rfl
  exact ⟨h.1, h.2 [2] (List.cons_ne_nil 2 []) rfl⟩

/-! ## Traffic that nobody has asked for -/

/-- One turn of the transfer task, with a vector that fits. -/
def turn (recv_data : Bytes) : List Event :=
  [.noRequest, .receive recv_data] ++
    List.replicate recv_data.length .addRx ++ [.giveRx]

theorem run_turn (s : State) (recv_data : Bytes)
    (htransfer : s.transfer = .polling) (hrequest : s.tx_request_sem = false)
    (hne : recv_data ≠ [])
    (hroom : s.rx_data_queue.length + recv_data.length ≤
      ManagerDataTransferMsg_RXDATA_QUEUE_SIZE) :
    run step s (turn recv_data) = some { s with
      rx_data_queue := s.rx_data_queue ++ recv_data
      rx_done_sem := true } := by
  have hreceive : run step s [.noRequest, .receive recv_data] =
      some { s with transfer := .adding recv_data } := by
    simp only [run, step, htransfer, hrequest, Option.bind_some]
    rw [if_neg hne]
    rfl
  have hadd := run_addRx { s with transfer := .adding recv_data } recv_data []
    (by rw [List.append_nil]) hroom
  rw [turn]
  apply run_append_eq_some.mpr
  refine ⟨_, run_append_eq_some.mpr ⟨_, hreceive, hadd⟩, ?_⟩
  simp only [run, step, Option.bind_some, ← htransfer]

/-- Two vectors that fill the queue, and a single byte, while the manager is
idle. -/
theorem exists_blocked_of_flood (recv_data : Bytes) (hne : recv_data ≠ [])
    (hfill : recv_data.length + recv_data.length =
      ManagerDataTransferMsg_RXDATA_QUEUE_SIZE) :
    ∃ t, run step boot (turn recv_data ++ turn recv_data ++
      [.noRequest, .receive [0]]) = some t ∧ Blocked t := by
  have hfirst := run_turn boot recv_data rfl rfl hne (by
    change 0 + recv_data.length ≤ _
    omega)
  have hsecond := run_turn
    { boot with rx_data_queue := recv_data, rx_done_sem := true } recv_data
    rfl rfl hne hfill.le
  refine ⟨{ boot with
      transfer := .adding [0]
      rx_data_queue := recv_data ++ recv_data
      rx_done_sem := true }, ?_, ⟨0, [], rfl⟩, ?_, rfl⟩
  · apply run_append_eq_some.mpr
    exact ⟨_, run_append_eq_some.mpr ⟨_, hfirst, hsecond⟩, rfl⟩
  · change _ ≤ (recv_data ++ recv_data).length
    rw [List.length_append]
    exact hfill.ge

/-- Half a queue of bytes. -/
def unasked : Bytes := List.replicate 1024 0

theorem not_unblocked_flood :
    ¬ ∀ t, run step boot (turn unasked ++ turn unasked ++
      [.noRequest, .receive [0]]) = some t → ¬ Blocked t := by
  intro hfree
  have hlen : unasked.length = 1024 := List.length_replicate
  obtain ⟨t, hrun, hblocked⟩ := exists_blocked_of_flood unasked
    (List.ne_nil_of_length_pos (by omega))
    (by unfold ManagerDataTransferMsg_RXDATA_QUEUE_SIZE; omega)
  exact hfree t hrun hblocked

/-! ## The way out that is missing -/

/-- The transfer task waits for room and the manager for the transfer task. -/
structure Stuck (s : State) : Prop where
  adding : ∃ b rest, s.transfer = .adding (b :: rest)
  full : ManagerDataTransferMsg_RXDATA_QUEUE_SIZE ≤ s.rx_data_queue.length
  before : s.manager.beforeDone = true
  no_token : s.tx_done_sem = false

theorem Stuck.blocked {s : State} (hs : Stuck s) : Blocked s :=
  ⟨hs.adding, hs.full, Manager.inRspProcess_of_beforeDone hs.before⟩

/-- No step gets out, and a call that returns has failed. -/
theorem Stuck.step {s s' : State} {e : Event} (hs : Stuck s)
    (h : Wedge.step s e = some s') :
    Stuck s' ∧ ∃ n, s'.results = List.replicate n false ++ s.results := by
  obtain ⟨⟨b, rest, htransfer⟩, hfull, hbefore, htoken⟩ := hs
  have hsame : s.results = List.replicate 0 false ++ s.results := rfl
  have hfailed : false :: s.results =
      List.replicate 1 false ++ s.results := rfl
  cases hmanager : s.manager with
  | idle =>
      cases e with
      | sendFrame frame rsp =>
          simp only [Wedge.step, hmanager] at h
          cases h
          exact ⟨⟨⟨b, rest, htransfer⟩, hfull, rfl, htoken⟩, 0, hsame⟩
      | addRx =>
          rw [step_addRx_of_full htransfer hfull] at h
          cases h
      | _ => simp [Wedge.step, hmanager, htransfer] at h
  | adding call bytes =>
      cases bytes with
      | nil =>
          cases e with
          | giveRequest =>
              simp only [Wedge.step, hmanager] at h
              cases h
              exact ⟨⟨⟨b, rest, htransfer⟩, hfull, rfl, htoken⟩, 0, hsame⟩
          | addRx =>
              rw [step_addRx_of_full htransfer hfull] at h
              cases h
          | _ => simp [Wedge.step, hmanager, htransfer] at h
      | cons c bytes =>
          cases e with
          | addTx =>
              simp only [Wedge.step, hmanager] at h
              obtain ⟨-, heq⟩ := Option.ite_none_right_eq_some.mp h
              cases heq
              exact ⟨⟨⟨b, rest, htransfer⟩, hfull, rfl, htoken⟩, 0, hsame⟩
          | addTxTimeout =>
              simp only [Wedge.step, hmanager] at h
              obtain ⟨-, heq⟩ := Option.ite_none_left_eq_some.mp h
              cases heq
              exact ⟨⟨⟨b, rest, htransfer⟩, hfull, rfl, htoken⟩, 1, hfailed⟩
          | addRx =>
              rw [step_addRx_of_full htransfer hfull] at h
              cases h
          | _ => simp [Wedge.step, hmanager, htransfer] at h
  | waitingDone call =>
      cases e with
      | doneTimeout =>
          simp only [Wedge.step, hmanager, htoken] at h
          cases h
          exact ⟨⟨⟨b, rest, htransfer⟩, hfull, rfl, htoken⟩, 1, hfailed⟩
      | addRx =>
          rw [step_addRx_of_full htransfer hfull] at h
          cases h
      | _ => simp [Wedge.step, hmanager, htransfer, htoken] at h
  | _ =>
      rw [hmanager] at hbefore
      cases hbefore

/-- From there on every request fails, since `tx_done_sem` is given by the
transfer task alone. -/
theorem results_of_blocked {s t : State} {es : List Event} (hs : Blocked s)
    (hidle : s.manager = .idle) (htoken : s.tx_done_sem = false)
    (hrun : run step s es = some t) :
    Blocked t ∧ ∃ n, t.results = List.replicate n false ++ s.results := by
  have hstuck : Stuck s := ⟨hs.1, hs.2.1, by rw [hidle]; rfl, htoken⟩
  have hafter := run_invariant
    (I := fun u => Stuck u ∧
      ∃ n, u.results = List.replicate n false ++ s.results)
    (fun u e u' ⟨hu, n, hn⟩ h => by
      obtain ⟨hu', m, hm⟩ := hu.step h
      refine ⟨hu', m + n, ?_⟩
      rw [hm, hn, ← List.append_assoc, List.replicate_append_replicate])
    ⟨hstuck, 0, rfl⟩ hrun
  exact ⟨hafter.1.blocked, hafter.2⟩

end Wedge

end WirelessHarness
