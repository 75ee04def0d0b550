import WirelessHarness.Transfer.HandOver

/-!
# What a failed `send` leaves in the queue

The queue is emptied only after `tx_request_sem` was given.  A frame that does
not fit into it makes `send` return before the request, and its bytes stay; a
frame that fits always gets as far as the request.
-/

namespace WirelessHarness

open Runs

namespace HandOver

/-! ## The property -/

def Event.frame : Event → Option Bytes
  | .send frame => some frame
  | _ => none

/-- A call with this frame can get all its bytes into the queue and make the
request, and none of its `add`s can time out. -/
def CanRequest (s : State) (frame : Bytes) : Prop :=
  (run step s (.send frame ::
    (List.replicate frame.length .add ++ [.giveRequest]))).isSome ∧
  ∀ es s', (∀ e ∈ es, e.frame = none) →
    run step s (.send frame :: es) = some s' → step s' .addTimeout = none

/-- However the call of `send` that starts in `s` fails and the run goes on,
once the transfer task is idle and no request is pending the queue has none of
its bytes; and a later frame that fits into the queue can be sent, unless
another call in between had a frame that does not fit. -/
def FailureLeavesUsable (s : State) (frame : Bytes) : Prop :=
  ∀ es e es' t, (∀ e' ∈ es, e'.frame = none) →
    (e = .addTimeout ∨ e = .doneTimeout) →
    run step s (.send frame :: (es ++ e :: es')) = some t →
    t.transfer = .idle → t.tx_request_sem = false →
      (∀ b ∈ t.tx_data_queue, b.call ≠ s.calls.length) ∧
      ((∀ e' ∈ es', ∀ f ∈ e'.frame,
          f.length ≤ ManagerDataTransferMsg_RXDATA_QUEUE_SIZE) →
        t.sender = .idle → ∀ later : Bytes,
          later.length ≤ ManagerDataTransferMsg_RXDATA_QUEUE_SIZE →
            CanRequest t later)

/-! ## Frames that fit -/

/-- The transfer task is going to empty the queue. -/
def Draining (s : State) : Prop :=
  s.tx_request_sem = true ∨ s.transfer.collecting = true

/-- What is still to be added has room, at the latest once the queue has been
drained. -/
structure Roomy (s : State) : Prop where
  rest : s.sender.rest.length ≤ ManagerDataTransferMsg_RXDATA_QUEUE_SIZE
  room : ¬ Draining s → s.tx_data_queue.length + s.sender.rest.length ≤
    ManagerDataTransferMsg_RXDATA_QUEUE_SIZE
  drained : ¬ Draining s → s.sender.client ≠ .preparing →
    s.tx_data_queue = []

/-- The frame of a call fits into the queue. -/
def Fits (e : Event) : Prop :=
  ∀ f ∈ e.frame, f.length ≤ ManagerDataTransferMsg_RXDATA_QUEUE_SIZE

theorem Roomy.of_draining {s s' : State} (hs : Roomy s)
    (hrest : s'.sender.rest.length ≤ s.sender.rest.length)
    (hdraining : Draining s') : Roomy s' :=
  ⟨hrest.trans hs.rest, fun hnot => absurd hdraining hnot,
    fun hnot => absurd hdraining hnot⟩

/-- A call that ends without a request leaves what was in the queue. -/
theorem roomy_of_return {s s' : State}
    (hsender : s'.sender = .idle) (hqueue : s'.tx_data_queue = s.tx_data_queue)
    (hdraining : Draining s' ↔ Draining s)
    (hempty : ¬ Draining s → s.tx_data_queue = []) : Roomy s' := by
  constructor
  · simp [hsender, Sender.rest]
  · intro hnot
    rw [hdraining] at hnot
    simp [hsender, hqueue, hempty hnot, Sender.rest]
  · intro hnot _
    rw [hdraining] at hnot
    rw [hqueue, hempty hnot]

theorem Roomy.step {s s' : State} {e : Event} (hs : Roomy s) (he : Fits e)
    (h : HandOver.step s e = some s') : Roomy s' := by
  cases stepped_of_step h with
  | send frame hsender =>
      have hlength := he frame rfl
      constructor
      · simpa [Sender.rest] using hlength
      · intro hnot
        have hqueue := hs.drained hnot (by simp [hsender, Sender.client])
        simpa [hqueue, Sender.rest] using hlength
      · exact fun _ hclient => absurd rfl hclient
  | @add frame rest b hsender hroom =>
      have hrest := hs.rest
      simp only [hsender, Sender.rest, List.length_cons] at hrest
      constructor
      · exact (Nat.le_succ _).trans hrest
      · intro hnot
        have hfits := hs.room hnot
        simp only [hsender, Sender.rest, List.length_cons] at hfits
        simp only [Sender.rest, List.length_append, List.length_singleton]
        omega
      · exact fun _ hclient => absurd rfl hclient
  | addTimeout hsender hfull =>
      refine roomy_of_return rfl rfl Iff.rfl fun hnot => ?_
      have hfits := hs.room hnot
      simp only [hsender, Sender.rest, List.length_cons] at hfits
      omega
  | giveRequest hsender =>
      refine hs.of_draining ?_ (Or.inl rfl)
      rw [hsender]
      exact le_rfl
  | takeDone hsender _ | doneTimeout hsender _ =>
      exact roomy_of_return rfl rfl Iff.rfl fun hnot =>
        hs.drained hnot (by simp [hsender, Sender.client])
  | takeRequest _ _ | pop _ _ =>
      exact hs.of_draining le_rfl (Or.inr rfl)
  | transmit ret htransfer hqueue =>
      refine ⟨hs.rest, fun _ => ?_, fun _ _ => hqueue⟩
      simpa [hqueue] using hs.rest
  | giveDone htransfer =>
      have hdraining (hnot : s.tx_request_sem ≠ true) : ¬ Draining s := by
        rintro (hrequest | hcollecting)
        · exact hnot hrequest
        · simp [htransfer, Transfer.collecting] at hcollecting
      exact ⟨hs.rest, fun hnot => hs.room (hdraining fun h => hnot (Or.inl h)),
        fun hnot => hs.drained (hdraining fun h => hnot (Or.inl h))⟩

/-- Bytes of call `n`, which has returned, stay only until the queue is
drained. -/
structure Gone (n : ℕ) (s : State) : Prop where
  past : n < s.calls.length
  rest : ∀ b ∈ s.sender.rest, b.call ≠ n
  queue : ¬ Draining s → ∀ b ∈ s.tx_data_queue, b.call ≠ n

theorem Gone.step {n : ℕ} {s s' : State} {e : Event} (hs : Gone n s)
    (h : HandOver.step s e = some s') : Gone n s' := by
  cases stepped_of_step h with
  | send frame hsender =>
      refine ⟨hs.past.trans (Nat.lt_succ_self _), fun b hb => ?_, hs.queue⟩
      rw [call_of_mem_label hb]
      exact hs.past.ne'
  | @add frame rest b hsender hroom =>
      have hrest := hs.rest
      rw [hsender, Sender.rest, List.forall_mem_cons] at hrest
      refine ⟨hs.past, hrest.2, fun hnot => ?_⟩
      exact List.forall_mem_append.mpr ⟨hs.queue hnot, by simpa using hrest.1⟩
  | addTimeout hsender hfull =>
      exact ⟨hs.past, by simp [Sender.rest], hs.queue⟩
  | giveRequest hsender =>
      exact ⟨hs.past, by simp [Sender.rest],
        fun hnot => absurd (Or.inl rfl) hnot⟩
  | takeDone hsender hdone =>
      exact ⟨hs.past, by simp [Sender.rest], hs.queue⟩
  | doneTimeout hsender hdone =>
      exact ⟨hs.past, by simp [Sender.rest], hs.queue⟩
  | takeRequest htransfer hrequest =>
      exact ⟨hs.past, hs.rest, fun hnot => absurd (Or.inr rfl) hnot⟩
  | pop htransfer hqueue =>
      exact ⟨hs.past, hs.rest, fun hnot => absurd (Or.inr rfl) hnot⟩
  | transmit ret htransfer hqueue =>
      exact ⟨hs.past, hs.rest, fun _ b hb => by simp [hqueue] at hb⟩
  | giveDone htransfer =>
      refine ⟨hs.past, hs.rest, fun hnot => hs.queue ?_⟩
      rintro (hrequest | hcollecting)
      · exact hnot (Or.inl hrequest)
      · simp [htransfer, Transfer.collecting] at hcollecting

/-! ## Getting a frame into the queue -/

theorem run_add {frame : List QueuedByte} (n : ℕ) {s : State}
    {rest : List QueuedByte} (hsender : s.sender = .adding frame rest)
    (hn : n ≤ rest.length) (hroom : s.tx_data_queue.length + n ≤
      ManagerDataTransferMsg_RXDATA_QUEUE_SIZE) :
    run step s (List.replicate n .add) = some { s with
      sender := .adding frame (rest.drop n)
      tx_data_queue := s.tx_data_queue ++ rest.take n } := by
  let g (queue bytes : List QueuedByte) : State :=
    { s with sender := .adding frame bytes, tx_data_queue := queue }
  have hstep : ∀ queue b bytes,
      queue.length < ManagerDataTransferMsg_RXDATA_QUEUE_SIZE →
      step (g queue (b :: bytes)) .add = some (g (queue ++ [b]) bytes) :=
    fun queue b bytes hlt => if_pos hlt
  have hlen : (rest.take n).length = n := List.length_take_of_le hn
  rw [← hlen] at hroom
  have hrun := run_replicate g hstep (rest.drop n) hroom
  rw [List.take_append_drop, hlen] at hrun
  simp only [g, ← hsender] at hrun
  exact hrun

/-- While a frame is being added to a queue that nobody drains, nobody starts
to. -/
def Undrained (s : State) : Prop :=
  s.sender.client = .preparing → ¬ Draining s

theorem Undrained.step {s s' : State} {e : Event} (hs : Undrained s)
    (he : e.frame = none) (h : HandOver.step s e = some s') :
    Undrained s' := by
  cases stepped_of_step h with
  | send frame hsender => cases he
  | add hsender hroom => exact fun _ => hs (by rw [hsender, Sender.client])
  | takeRequest htransfer hrequest =>
      exact fun hadding => absurd (Or.inl hrequest) (hs hadding)
  | pop htransfer hqueue =>
      refine fun hadding => absurd (Or.inr ?_) (hs hadding)
      rw [htransfer, Transfer.collecting]
  | transmit ret htransfer hqueue =>
      refine fun hadding => absurd (Or.inr ?_) (hs hadding)
      rw [htransfer, Transfer.collecting]
  | giveDone htransfer =>
      intro hadding hdraining
      refine hs hadding (Or.inl ?_)
      simpa [Draining, Transfer.collecting] using hdraining
  | _ => simp [Undrained, Sender.client]

theorem canRequest_of_roomy {s : State} (hs : Roomy s)
    (hsender : s.sender = .idle) (htransfer : s.transfer = .idle)
    (hrequest : s.tx_request_sem = false) {frame : Bytes}
    (hframe : frame.length ≤ ManagerDataTransferMsg_RXDATA_QUEUE_SIZE) :
    CanRequest s frame := by
  have hnot : ¬ Draining s := by
    simp [Draining, hrequest, htransfer, Transfer.collecting]
  have hqueue := hs.drained hnot (by simp [hsender, Sender.client])
  have hfits : Fits (.send frame) := fun f hf => by
    obtain rfl := Option.some.inj hf
    exact hframe
  set s₁ : State := { s with
    sender := .adding (label s.calls.length frame)
      (label s.calls.length frame)
    calls := label s.calls.length frame :: s.calls
    mark := s.transmitted.length }
  have hsend : step s (.send frame) = some s₁ := by
    simp only [step, hsender, s₁]
  constructor
  · have hdrop : (label s.calls.length frame).drop frame.length = [] :=
      List.drop_eq_nil_of_le (length_label _ _).le
    rw [run, hsend, Option.bind_some, run_append,
      run_add frame.length (s := s₁) rfl (length_label _ _).ge
        (by simpa [s₁, hqueue] using hframe), Option.bind_some]
    simp [run, step, hdrop]
  · intro es s' hes hrun
    rw [run, hsend, Option.bind_some] at hrun
    have hinv := run_invariant_of_meets
      (I := fun s => Roomy s ∧ Undrained s) (C := fun _ e => e.frame = none)
      (fun u e u' hu he h => ⟨hu.1.step (by simp [Fits, he]) h,
        hu.2.step he h⟩)
      ⟨hs.step hfits hsend, fun _ => hnot⟩ (meets_of_forall hes s₁) hrun
    cases hstep : step s' .addTimeout with
    | none => rfl
    | some s'' =>
        cases stepped_of_step hstep with
        | addTimeout hadding hfull =>
            have hroom := hinv.1.room
              (hinv.2 (by rw [hadding, Sender.client]))
            simp only [hadding, Sender.rest, List.length_cons] at hroom
            omega

theorem calls_step {s s' : State} {e : Event} (h : step s e = some s') :
    s.calls.length ≤ s'.calls.length := by
  cases stepped_of_step h with
  | send frame hsender => exact Nat.le_succ _
  | _ => exact le_rfl

theorem calls_run {s s' : State} {es : List Event}
    (h : run step s es = some s') : s.calls.length ≤ s'.calls.length :=
  run_invariant (I := fun u => s.calls.length ≤ u.calls.length)
    (fun _ _ _ hu hstep => hu.trans (calls_step hstep)) le_rfl h

/-- A frame that fits leaves nothing behind when its call fails. -/
theorem failureLeavesUsable_of_le {s : State} (hsender : s.sender = .idle)
    (hqueue : s.tx_data_queue = []) {frame : Bytes}
    (hframe : frame.length ≤ ManagerDataTransferMsg_RXDATA_QUEUE_SIZE) :
    FailureLeavesUsable s frame := by
  intro es e es' t hes he hrun htransfer hrequest
  obtain ⟨s₁, hsend, hrun⟩ := run_cons_eq_some.mp hrun
  obtain ⟨s₂, hfirst, hrun⟩ := run_append_eq_some.mp hrun
  obtain ⟨s₃, hfail, hlater⟩ := run_cons_eq_some.mp hrun
  have hs : Roomy s := by
    constructor <;> simp [hsender, hqueue, Sender.rest]
  have hstep (u e u') (hu : Roomy u) (he : Fits e)
      (h : step u e = some u') : Roomy u' := hu.step he h
  have hroomy₁ := hs.step (e := .send frame)
    (fun f hf => Option.some.inj hf ▸ hframe) hsend
  have hroomy₂ := run_invariant_of_meets hstep hroomy₁
    (meets_of_forall (fun e' he' => by simp [Fits, hes e' he']) s₁) hfirst
  have hroomy₃ : Roomy s₃ := hroomy₂.step
    (by obtain rfl | rfl := he <;> simp [Fits, Event.frame]) hfail
  have hidle : s₃.sender = .idle := by
    obtain rfl | rfl := he <;> cases stepped_of_step hfail <;> rfl
  have hpast₁ : s.calls.length < s₁.calls.length := by
    cases stepped_of_step hsend with
    | send => exact Nat.lt_succ_self _
  have hpast : s.calls.length < s₃.calls.length :=
    (hpast₁.trans_le (calls_run hfirst)).trans_le (calls_step hfail)
  have hgone : Gone s.calls.length s₃ := by
    refine ⟨hpast, by simp [hidle, Sender.rest], fun hnot => ?_⟩
    have hempty := hroomy₃.drained hnot (by simp [hidle, Sender.client])
    simp [hempty]
  have hnot : ¬ Draining t := by
    simp [Draining, hrequest, htransfer, Transfer.collecting]
  constructor
  · exact (run_invariant (fun _ _ _ h => h.step) hgone hlater).queue hnot
  · intro hfits htidle later hlength
    have hroomy := run_invariant_of_meets hstep hroomy₃
      (meets_of_forall hfits s₃) hlater
    exact canRequest_of_roomy hroomy htidle htransfer hrequest hlength

theorem step_addTimeout {s : State} {frame rest : List QueuedByte}
    {b : QueuedByte} (hsender : s.sender = .adding frame (b :: rest))
    (hfull : ManagerDataTransferMsg_RXDATA_QUEUE_SIZE ≤
      s.tx_data_queue.length) :
    step s .addTimeout = some (s.returns frame false) := by
  simp only [step, hsender, if_neg (not_lt.mpr hfull)]

/-- The transfer task can finish what it has begun while the queue is
empty. -/
theorem exists_run_idle {s : State} (hqueue : s.tx_data_queue = []) :
    ∃ es s', (∀ e ∈ es, e.frame = none) ∧ run step s es = some s' ∧
      s'.transfer = .idle ∧ s'.sender = s.sender ∧ s'.tx_data_queue = [] ∧
      s'.tx_request_sem = s.tx_request_sem := by
  cases htransfer : s.transfer with
  | idle => exact ⟨[], s, by simp, rfl, htransfer, rfl, hqueue, rfl⟩
  | draining buffer =>
      refine ⟨[.transmit false, .giveDone], { s with
        transfer := .idle
        tx_done_sem := true
        transmitted := ⟨buffer, false⟩ :: s.transmitted }, by decide, ?_, rfl,
        rfl, hqueue, rfl⟩
      simp only [run, step, htransfer, hqueue, Option.bind_some]
  | transmitted =>
      refine ⟨[.giveDone], { s with transfer := .idle, tx_done_sem := true },
        by decide, ?_, rfl, rfl, hqueue, rfl⟩
      simp only [run, step, htransfer, Option.bind_some]

/-- A frame that does not fit fails before the request and stays in part. -/
theorem not_failureLeavesUsable {s : State} (hsender : s.sender = .idle)
    (hqueue : s.tx_data_queue = []) (hrequest : s.tx_request_sem = false)
    {frame : Bytes}
    (hframe : ManagerDataTransferMsg_RXDATA_QUEUE_SIZE < frame.length) :
    ¬ FailureLeavesUsable s frame := by
  intro husable
  set bytes := label s.calls.length frame with hbytes
  have hlength : ManagerDataTransferMsg_RXDATA_QUEUE_SIZE < bytes.length := by
    rwa [hbytes, length_label]
  set s₁ : State := { s with
    sender := .adding bytes bytes
    calls := bytes :: s.calls
    mark := s.transmitted.length } with hs₁
  have hsend : step s (.send frame) = some s₁ := by
    simp only [step, hsender, hs₁, hbytes]
  obtain ⟨es, s₂, hes, hrun, htransfer₂, hsender₂, hqueue₂, hrequest₂⟩ :=
    exists_run_idle (s := s₁) hqueue
  have hadd := run_add ManagerDataTransferMsg_RXDATA_QUEUE_SIZE hsender₂
    hlength.le (by simp [hqueue₂])
  set s₃ : State := { s₂ with
    sender := .adding bytes
      (bytes.drop ManagerDataTransferMsg_RXDATA_QUEUE_SIZE)
    tx_data_queue := s₂.tx_data_queue ++
      bytes.take ManagerDataTransferMsg_RXDATA_QUEUE_SIZE } with hs₃
  have hqueue₃ : s₃.tx_data_queue =
      bytes.take ManagerDataTransferMsg_RXDATA_QUEUE_SIZE := by
    rw [hs₃, hqueue₂, List.nil_append]
  have hfull : s₃.tx_data_queue.length =
      ManagerDataTransferMsg_RXDATA_QUEUE_SIZE := by
    rw [hqueue₃, List.length_take_of_le hlength.le]
  obtain ⟨b, rest, hrest⟩ := List.exists_cons_of_length_pos
    (l := bytes.drop ManagerDataTransferMsg_RXDATA_QUEUE_SIZE)
    (by rw [List.length_drop]; omega)
  have hfail : step s₃ .addTimeout = some (s₃.returns bytes false) :=
    step_addTimeout (congrArg (Sender.adding bytes) hrest) hfull.ge
  have hall : run step s (.send frame ::
      ((es ++ List.replicate ManagerDataTransferMsg_RXDATA_QUEUE_SIZE .add) ++
        .addTimeout :: [])) = some (s₃.returns bytes false) := by
    refine run_cons_eq_some.mpr ⟨s₁, hsend, ?_⟩
    refine run_append_eq_some.mpr ⟨s₃, ?_, ?_⟩
    · exact run_append_eq_some.mpr ⟨s₂, hrun, hadd⟩
    · exact run_cons_eq_some.mpr ⟨_, hfail, rfl⟩
  have hnosend : ∀ e ∈ es ++
      List.replicate ManagerDataTransferMsg_RXDATA_QUEUE_SIZE .add,
      e.frame = none := by
    refine List.forall_mem_append.mpr ⟨hes, fun e he => ?_⟩
    rw [List.eq_of_mem_replicate he]
    rfl
  have hclean := (husable _ _ _ _ hnosend (Or.inl rfl) hall htransfer₂
    (hrequest₂.trans hrequest)).1
  obtain ⟨b', hb'⟩ := List.exists_mem_of_length_pos
    (l := s₃.tx_data_queue) (by rw [hfull]; decide)
  refine hclean b' hb' ?_
  rw [hqueue₃] at hb'
  exact call_of_mem_label (List.mem_of_mem_take hb')

/-- A failed call leaves the transmit path usable exactly if its frame fits
into the queue. -/
theorem failureLeavesUsable_iff {s : State} (hsender : s.sender = .idle)
    (hqueue : s.tx_data_queue = []) (hrequest : s.tx_request_sem = false)
    (frame : Bytes) :
    FailureLeavesUsable s frame ↔
      frame.length ≤ ManagerDataTransferMsg_RXDATA_QUEUE_SIZE := by
  constructor
  · intro husable
    by_contra hframe
    exact not_failureLeavesUsable hsender hqueue hrequest
      (not_le.mp hframe) husable
  · exact failureLeavesUsable_of_le hsender hqueue

/-- After a first call a frame that fills the queue is sent. -/
theorem failureLeavesUsable_2048 :
    ∃ s, run step boot [.send [0x01, 0x02], .add, .add, .giveRequest,
        .takeRequest, .pop, .pop, .transmit true, .giveDone, .takeDone] =
        some s ∧
      FailureLeavesUsable s (List.replicate 2048 0) :=
  ⟨_, rfl, (failureLeavesUsable_iff rfl rfl rfl _).mpr
    (by rw [List.length_replicate]; decide)⟩

/-- The first 2048 bytes of a frame of 2049 bytes stay in the queue. -/
theorem not_failureLeavesUsable_2049 :
    ¬ FailureLeavesUsable boot (List.replicate 2049 0) :=
  not_failureLeavesUsable rfl rfl rfl (by rw [List.length_replicate]; decide)

end HandOver

end WirelessHarness
