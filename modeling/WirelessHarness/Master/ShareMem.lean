import Mathlib.Logic.Function.Basic
import WirelessHarness.Protocol.Frame
import WirelessHarness.Support.Runs

/-!
# The memory shared with the backend link

`ShareMem` guards its buffer with two `Lock` objects.  A `Lock` counts nested
acquisitions for the object and not for the task, the constructor takes one
lock without releasing it, and `write` takes the write access once more than
anything releases; so neither lock ever keeps a task out.
-/

namespace WirelessHarness

open Runs

/-! ## Locks -/

/-- A `Lock` and the mutex it is on. -/
structure Lock where
  taken : Bool := false
  lockCnt : ℕ := 0
deriving DecidableEq, Repr

namespace Lock

/-- The mutex is taken for the first acquisition only.  On a mutex that is not
free the wait times out. -/
def lock (l : Lock) : Bool × Lock :=
  if 0 < l.lockCnt then (true, { l with lockCnt := l.lockCnt + 1 })
  else if l.taken = false then (true, ⟨true, l.lockCnt + 1⟩)
  else (false, l)

/-- Extra unlocks are ignored. -/
def unlock (l : Lock) : Lock :=
  if 0 < l.lockCnt then
    if l.lockCnt - 1 = 0 then ⟨false, 0⟩
    else { l with lockCnt := l.lockCnt - 1 }
  else l

/-- `Lock(mutex)`: the lock is taken by default. -/
def construct : Lock :=
  (lock {}).2

/-- The mutex is taken while the lock is held. -/
def Held (l : Lock) (n : ℕ) : Prop :=
  l.lockCnt = n ∧ (l.taken = true ↔ 0 < n)

theorem held_construct : construct.Held 1 :=
  ⟨rfl, by decide⟩

/-- No wait is ever needed. -/
theorem Held.lock {l : Lock} {n : ℕ} (h : l.Held n) :
    l.lock.1 = true ∧ l.lock.2.Held (n + 1) := by
  obtain ⟨rfl, htaken⟩ := h
  simp only [Lock.lock]
  split
  next hpos => exact ⟨rfl, rfl, by simp [htaken.mpr hpos]⟩
  next hzero =>
    have hfree : l.taken = false := by
      by_contra h
      exact hzero (htaken.mp (eq_true_of_ne_false h))
    rw [if_pos hfree]
    exact ⟨rfl, rfl, by simp⟩

theorem Held.unlock {l : Lock} {n : ℕ} (h : l.Held (n + 1)) :
    l.unlock.Held n := by
  obtain ⟨hcnt, htaken⟩ := h
  simp only [Lock.unlock, hcnt, Nat.zero_lt_succ, if_true,
    Nat.add_sub_cancel]
  split
  next hzero => exact ⟨hzero.symm, by simp [hzero]⟩
  next hpos => exact ⟨rfl, by simp [htaken, Nat.pos_of_ne_zero hpos]⟩

end Lock

/-! ## The shared memory -/

/-- `shared_mem` is the buffer and what lies behind it. -/
structure ShareMem (α : Type) where
  mem_lock : Lock
  write_access : Lock
  size : ℕ
  capacity : ℕ
  init_success : Bool
  shared_mem : ℕ → α

namespace ShareMem

variable {α : Type}

/-- `ShareMem(wantedSize)`, where `allocated` tells whether `pvPortMalloc`
succeeded; `__size` and the buffer are not initialized.  Only the write access
is unlocked. -/
def construct (wantedSize : ℕ) (allocated : Bool) (size : ℕ)
    (shared_mem : ℕ → α) : ShareMem α where
  mem_lock := Lock.construct
  write_access := Lock.construct.unlock
  size
  capacity := if allocated then wantedSize else 0
  init_success := allocated
  shared_mem

def getWriteAccess (m : ShareMem α) : Bool × ShareMem α :=
  (m.write_access.lock.1, { m with write_access := m.write_access.lock.2 })

def releaseWriteAccess (m : ShareMem α) : ShareMem α :=
  { m with write_access := m.write_access.unlock }

/-- `write` as far as its checks: the old size is gone whatever they say.  The
data are `none` for a null pointer. -/
def beginWrite (m : ShareMem α) (data : Option (List α)) :
    Bool × ShareMem α :=
  let m := { m with size := 0 }
  if m.init_success = false then (false, m)
  else
    match data with
    | none => (false, m)
    | some data =>
        if m.capacity < data.length then (false, m) else m.getWriteAccess

/-- `write` up to the copy.  The result of `__lock.lock` is not looked at. -/
def lockSize (m : ShareMem α) (size : ℕ) : ShareMem α :=
  { m with mem_lock := m.mem_lock.lock.2, size }

def storeCell (m : ShareMem α) (i : ℕ) (a : α) : ShareMem α :=
  { m with shared_mem := Function.update m.shared_mem i a }

/-- `std::copy` to the buffer from the cell `i` on. -/
def copyFrom (m : ShareMem α) (i : ℕ) : List α → ShareMem α
  | [] => m
  | a :: data => (m.storeCell i a).copyFrom (i + 1) data

def unlock (m : ShareMem α) : ShareMem α :=
  { m with mem_lock := m.mem_lock.unlock }

def write (m : ShareMem α) (data : Option (List α)) : Bool × ShareMem α :=
  match m.beginWrite data with
  | (false, m) => (false, m)
  | (true, m) =>
      (true, ((m.lockSize (data.getD []).length).copyFrom 0
        (data.getD [])).unlock)

def lock (m : ShareMem α) : Bool × ShareMem α :=
  if m.init_success = false then (false, m)
  else (m.mem_lock.lock.1, { m with mem_lock := m.mem_lock.lock.2 })

/-- `write` is refused by its checks, or the data fit. -/
theorem beginWrite_cases (m : ShareMem α) (data : Option (List α)) :
    m.beginWrite data = (false, { m with size := 0 }) ∨
      m.init_success = true ∧
        ∃ bytes, data = some bytes ∧ bytes.length ≤ m.capacity := by
  simp only [beginWrite]
  split
  next => exact Or.inl rfl
  next hinit =>
    cases data with
    | none => exact Or.inl rfl
    | some bytes =>
        by_cases hsize : m.capacity < bytes.length
        · exact Or.inl (if_pos hsize)
        · exact Or.inr
            ⟨eq_true_of_ne_false hinit, bytes, rfl, not_lt.mp hsize⟩

/-- `write` is not refused if the data fit. -/
theorem beginWrite_of_le {m : ShareMem α} {n : ℕ} {bytes : List α}
    (haccess : m.write_access.Held n) (hinit : m.init_success = true)
    (hfits : bytes.length ≤ m.capacity) :
    m.beginWrite (some bytes) =
      (true, { m with size := 0, write_access := m.write_access.lock.2 }) := by
  simp only [beginWrite, hinit, Bool.true_eq_false, if_false,
    if_neg (not_lt.mpr hfits), getWriteAccess, haccess.lock.1]

/-- Copying leaves the locks as they are. -/
theorem copyFrom_spec (m : ShareMem α) (i : ℕ) (data : List α) :
    (m.copyFrom i data).mem_lock = m.mem_lock ∧
      (m.copyFrom i data).write_access = m.write_access ∧
      (m.copyFrom i data).init_success = m.init_success := by
  induction data generalizing m i with
  | nil => exact ⟨rfl, rfl, rfl⟩
  | cons a data ih => exact ih (m.storeCell i a) (i + 1)

/-- A `write` that copies keeps one more acquisition of the write access, and
gives back what it took of the other lock. -/
theorem write_spec {m : ShareMem α} {n k : ℕ} (data : Option (List α))
    (haccess : m.write_access.Held n)
    (hmem : m.init_success = true → m.mem_lock.Held k) :
    (m.write data).2.init_success = m.init_success ∧
      (m.write data).2.write_access.Held
        (n + if (m.write data).1 then 1 else 0) ∧
      (m.init_success = true → (m.write data).2.mem_lock.Held k) := by
  obtain hrefused | ⟨hinit, bytes, rfl, hfits⟩ := m.beginWrite_cases data
  · rw [write, hrefused]
    exact ⟨rfl, haccess, hmem⟩
  · simp only [write, beginWrite_of_le haccess hinit hfits, Option.getD_some]
    set m' : ShareMem α :=
      { m with size := 0, write_access := m.write_access.lock.2 } with hm'
    obtain ⟨hlock, hwrite, hsuccess⟩ :=
      (m'.lockSize bytes.length).copyFrom_spec 0 bytes
    refine ⟨hsuccess, ?_, fun _ => ?_⟩
    · rw [unlock, hwrite]
      exact haccess.lock.2
    · rw [unlock, hlock]
      exact (hmem hinit).lock.2.unlock

end ShareMem

/-! ## The three tasks -/

/-- The tasks that write: `PCinterface::rsp` and
`SlaveManager::read_cond_data_process`. -/
inductive Writer
  | rsp
  | upload
deriving DecidableEq, Repr

def Writer.other : Writer → Writer
  | .rsp => .upload
  | .upload => .rsp

namespace ExclusiveAccess

inductive WriterAt
  | outside
  | entered
  | written
deriving DecidableEq, Repr

/-- `sending` is whether `PCdataTransfer` is between `lock` and `unlock`;
`copies` records it for every `write` that copied, newest first. -/
structure State where
  mem : ShareMem UInt8
  writer : Writer → WriterAt := fun _ => .outside
  sending : Bool := false
  copies : List Bool := []

inductive Event
  | getWriteAccess (w : Writer)
  | write (w : Writer) (data : Option Bytes)
  | releaseWriteAccess (w : Writer)
  | lock
  | unlock
deriving DecidableEq, Repr

/-- A writer that is not granted access is still outside; it goes on after
`write` whatever `write` returned, and so does `PCdataTransfer` after
`lock`. -/
def step (s : State) : Event → Option State
  | .getWriteAccess w =>
      if s.writer w = .outside then
        match s.mem.getWriteAccess with
        | (true, mem) =>
            some { s with mem, writer := Function.update s.writer w .entered }
        | (false, mem) => some { s with mem }
      else none
  | .write w data =>
      if s.writer w = .entered then
        match s.mem.write data with
        | (true, mem) =>
            some { s with
              mem
              writer := Function.update s.writer w .written
              copies := s.sending :: s.copies }
        | (false, mem) =>
            some { s with
              mem
              writer := Function.update s.writer w .written }
      else none
  | .releaseWriteAccess w =>
      if s.writer w = .written then
        some { s with
          mem := s.mem.releaseWriteAccess
          writer := Function.update s.writer w .outside }
      else none
  | .lock =>
      if s.sending = false then
        some { s with mem := s.mem.lock.2, sending := true }
      else none
  | .unlock =>
      if s.sending = true then
        some { s with mem := s.mem.unlock, sending := false }
      else none

/-- After construction. -/
def boot (mem : ShareMem UInt8) : State where
  mem

/-! ## The property -/

def Inside (s : State) (w : Writer) : Prop :=
  s.writer w ≠ .outside

instance (s : State) (w : Writer) : Decidable (Inside s w) :=
  inferInstanceAs (Decidable (¬ _))

/-- At most one writer is inside, nothing was copied while `PCdataTransfer` was
sending, and both mutexes are free while nobody is inside. -/
structure Exclusive (s : State) : Prop where
  writers : ¬ (Inside s .rsp ∧ Inside s .upload)
  copies : ∀ sending ∈ s.copies, sending = false
  free : ¬ Inside s .rsp → ¬ Inside s .upload → s.sending = false →
    s.mem.mem_lock.taken = false ∧ s.mem.write_access.taken = false

/-! ## What the locks count -/

def WriterAt.inside : WriterAt → ℕ
  | .outside => 0
  | _ => 1

/-- How many writers are inside. -/
def insideCount (writer : Writer → WriterAt) : ℕ :=
  (writer .rsp).inside + (writer .upload).inside

theorem insideCount_update (writer : Writer → WriterAt) (w : Writer)
    (a : WriterAt) :
    insideCount (Function.update writer w a) + (writer w).inside =
      insideCount writer + a.inside := by
  cases w <;> simp [insideCount, Function.update] <;> omega

/-- The write access counts the writers inside and every copy ever made; the
lock of the memory counts the constructor and the transfer. -/
structure Balanced (allocated : Bool) (s : State) : Prop where
  init_success : s.mem.init_success = allocated
  access : s.mem.write_access.Held (insideCount s.writer + s.copies.length)
  mem : allocated = true →
    s.mem.mem_lock.Held (1 + if s.sending then 1 else 0)

theorem balanced_boot (wantedSize : ℕ) (allocated : Bool) (size : ℕ)
    (shared_mem : ℕ → UInt8) :
    Balanced allocated
      (boot (.construct wantedSize allocated size shared_mem)) where
  init_success := rfl
  access := Lock.held_construct.unlock
  mem := fun _ => Lock.held_construct

theorem Balanced.step {allocated : Bool} {s s' : State} {e : Event}
    (hs : Balanced allocated s) (h : ExclusiveAccess.step s e = some s') :
    Balanced allocated s' := by
  obtain ⟨hinit, haccess, hmem⟩ := hs
  cases e with
  | getWriteAccess w =>
      obtain ⟨hgranted, hheld⟩ := haccess.lock
      simp only [ExclusiveAccess.step, ShareMem.getWriteAccess,
        hgranted] at h
      split at h
      next houtside =>
        cases h
        have hcount := insideCount_update s.writer w .entered
        rw [houtside] at hcount
        refine ⟨hinit, ?_, hmem⟩
        rwa [show insideCount (Function.update s.writer w .entered) =
          insideCount s.writer + 1 from hcount, Nat.add_right_comm]
      next => cases h
  | write w data =>
      have hcount := insideCount_update s.writer w .written
      obtain ⟨hsuccess, hwrite, hlock⟩ := ShareMem.write_spec data haccess
        (fun hsuccess => hmem (hinit.symm.trans hsuccess))
      simp only [ExclusiveAccess.step] at h
      split at h
      next hentered =>
        rw [hentered] at hcount
        split at h
        next mem heq =>
          cases h
          rw [heq] at hsuccess hwrite hlock
          refine ⟨hsuccess.trans hinit, ?_, fun hall =>
            hlock (hinit.trans hall)⟩
          rw [Nat.add_right_cancel hcount]
          exact hwrite
        next mem heq =>
          cases h
          rw [heq] at hsuccess hwrite hlock
          refine ⟨hsuccess.trans hinit, ?_, fun hall =>
            hlock (hinit.trans hall)⟩
          rw [Nat.add_right_cancel hcount]
          exact hwrite
      next => cases h
  | releaseWriteAccess w =>
      simp only [ExclusiveAccess.step] at h
      split at h
      next hwritten =>
        cases h
        have hcount := insideCount_update s.writer w .outside
        rw [hwritten] at hcount
        refine ⟨hinit, Lock.Held.unlock ?_, hmem⟩
        rwa [Nat.add_right_comm, show insideCount
          (Function.update s.writer w .outside) + 1 =
            insideCount s.writer from hcount]
      next => cases h
  | lock =>
      simp only [ExclusiveAccess.step] at h
      split at h
      next hidle =>
        cases h
        rw [hidle] at hmem
        refine ⟨?_, ?_, fun hall => ?_⟩
        · simp only [ShareMem.lock]
          split
          · exact hinit
          · exact hinit
        · simp only [ShareMem.lock]
          split
          · exact haccess
          · exact haccess
        · simp only [ShareMem.lock, hinit, hall, Bool.true_eq_false, if_false]
          exact (hmem hall).lock.2
      next => cases h
  | unlock =>
      simp only [ExclusiveAccess.step] at h
      split at h
      next hsending =>
        cases h
        refine ⟨hinit, haccess, fun hall => ?_⟩
        have hheld := hmem hall
        rw [hsending] at hheld
        exact Lock.Held.unlock hheld
      next => cases h

theorem balanced_run {wantedSize size : ℕ} {allocated : Bool}
    {shared_mem : ℕ → UInt8} {es : List Event} {s : State}
    (hrun : run step (boot (.construct wantedSize allocated size shared_mem))
      es = some s) : Balanced allocated s :=
  run_invariant (fun _ _ _ h => h.step)
    (balanced_boot wantedSize allocated size shared_mem) hrun

/-! ## Nobody is kept out -/

/-- A writer outside is granted access at once, also while the other one is
inside. -/
theorem enters {allocated : Bool} {s : State} (hs : Balanced allocated s)
    {w : Writer} (houtside : s.writer w = .outside) :
    ∃ s', step s (.getWriteAccess w) = some s' ∧
      s'.writer = Function.update s.writer w .entered := by
  have hgranted := hs.access.lock.1
  simp only [step, houtside, ShareMem.getWriteAccess, hgranted]
  exact ⟨_, rfl, rfl⟩

/-- Data that fit are copied, also while `PCdataTransfer` is sending. -/
theorem copies_write {s : State} (hs : Balanced true s) {w : Writer}
    (hentered : s.writer w = .entered) {data : Bytes}
    (hfits : data.length ≤ s.mem.capacity) :
    ∃ s', step s (.write w (some data)) = some s' ∧
      s'.copies = s.sending :: s.copies := by
  have hwrite : (s.mem.write (some data)).1 = true := by
    simp only [ShareMem.write,
      ShareMem.beginWrite_of_le hs.access hs.init_success hfits]
  simp only [step, hentered, if_true]
  split
  next mem heq => exact ⟨_, rfl, rfl⟩
  next mem heq =>
    rw [heq] at hwrite
    cases hwrite

/-- No run keeps to the rule: it fails after construction, and again whenever
nobody is inside; and once something was copied the write access is not free
either. -/
theorem not_exclusive {wantedSize size : ℕ} {allocated : Bool}
    {shared_mem : ℕ → UInt8} {es : List Event} {s : State}
    (hrun : run step (boot (.construct wantedSize allocated size shared_mem))
      es = some s) :
    (¬ ∀ es' t, es' <+: es →
      run step (boot (.construct wantedSize allocated size shared_mem)) es' =
        some t → Exclusive t) ∧
    (allocated = true → s.mem.mem_lock.taken = true) ∧
    (s.copies ≠ [] → s.mem.write_access.taken = true) := by
  have hs := balanced_run hrun
  refine ⟨fun hall => ?_, fun hallocated => ?_, fun hcopies => ?_⟩
  · have hboot := hall [] _ List.nil_prefix rfl
    have hfree : true = false :=
      (hboot.free (not_not.mpr rfl) (not_not.mpr rfl) rfl).1
    cases hfree
  · exact (hs.mem hallocated).2.mpr (by omega)
  · have hpos := List.length_pos_iff.mpr hcopies
    exact hs.access.2.mpr (by omega)

theorem not_exclusive_onePublication :
    ∃ s, run step (boot (.construct 1024 true 0 fun _ => 0))
        [.getWriteAccess .rsp, .write .rsp (some [0xAB]),
          .releaseWriteAccess .rsp] = some s ∧
      (¬ ∀ es' t, es' <+: [.getWriteAccess .rsp, .write .rsp (some [0xAB]),
          .releaseWriteAccess .rsp] →
        run step (boot (.construct 1024 true 0 fun _ => 0)) es' = some t →
          Exclusive t) ∧
      (true = true → s.mem.mem_lock.taken = true) ∧
      (s.copies ≠ [] → s.mem.write_access.taken = true) :=
  ⟨_, rfl, not_exclusive rfl⟩

/-- Both writers are inside; and a write copies between `lock` and
`unlock`. -/
theorem not_exclusive_bothInside :
    (∃ s, run step (boot (.construct 1024 true 0 fun _ => 0))
        [.getWriteAccess .rsp, .getWriteAccess .upload] = some s ∧
      Inside s .rsp ∧ Inside s .upload) ∧
    (∃ s, run step (boot (.construct 1024 true 0 fun _ => 0))
        [.getWriteAccess .rsp, .lock, .write .rsp (some [0xAB])] = some s ∧
      s.copies = [true]) ∧
    ¬ Exclusive (boot (.construct 1024 true 0 fun _ => 0)) := by
  refine ⟨⟨_, rfl, by decide, by decide⟩, ⟨_, rfl, rfl⟩, fun h => ?_⟩
  exact absurd (h.free (by decide) (by decide) rfl).1 (by decide)

end ExclusiveAccess

end WirelessHarness
