import WirelessHarness.Support.Runs

/-!
# A handshake over two binary semaphores

A client prepares some work, gives a request semaphore and waits for a
completion semaphore; a server takes the request, does the work and gives the
completion.  The client may give up, and then the request, the service or the
completion it left behind meets its next start.  If every start finds the path
quiet, a completion the client takes is the answer to its own request.
-/

namespace Handshake

inductive Client
  | idle
  | preparing
  | waiting
deriving DecidableEq, Repr

structure State where
  client : Client := .idle
  request : Bool := false
  serving : Bool := false
  done : Bool := false
deriving DecidableEq, Repr

/-- `abort` gives up before the request is made, `abandon` afterwards. -/
inductive Event
  | start
  | abort
  | post
  | accept
  | finish
  | acknowledge
  | abandon
deriving DecidableEq, Repr

def step (s : State) : Event → Option State
  | .start =>
      if s.client = .idle then some { s with client := .preparing } else none
  | .abort =>
      if s.client = .preparing then some { s with client := .idle } else none
  | .post =>
      if s.client = .preparing then
        some { s with client := .waiting, request := true }
      else none
  | .accept =>
      if s.request = true ∧ s.serving = false then
        some { s with request := false, serving := true }
      else none
  | .finish =>
      if s.serving = true then
        some { s with serving := false, done := true }
      else none
  | .acknowledge =>
      if s.client = .waiting ∧ s.done = true then
        some { s with client := .idle, done := false }
      else none
  | .abandon =>
      if s.client = .waiting ∧ s.done = false then
        some { s with client := .idle }
      else none

/-- Nothing of an earlier start is left. -/
def Quiet (s : State) : Prop :=
  s.request = false ∧ s.serving = false ∧ s.done = false

instance (s : State) : Decidable (Quiet s) :=
  inferInstanceAs (Decidable (_ ∧ _ ∧ _))

/-- There is at most one of a request, a service and a completion, none while
the client prepares and one while it waits. -/
structure Paired (s : State) : Prop where
  preparing : s.client = .preparing → Quiet s
  waiting : s.client = .waiting → ¬ Quiet s
  request : s.request = true → s.serving = false ∧ s.done = false
  serving : s.serving = true → s.done = false

theorem paired_of_idle {s : State} (hclient : s.client = .idle)
    (hquiet : Quiet s) : Paired s := by
  obtain ⟨hrequest, hserving, hdone⟩ := hquiet
  constructor <;> simp [hclient, hrequest, hserving]

/-- Starting on a quiet path keeps the handshake paired, and so does every
other step. -/
theorem Paired.step {s s' : State} {e : Event} (hs : Paired s)
    (hstart : e = .start → Quiet s) (h : Handshake.step s e = some s') :
    Paired s' := by
  obtain ⟨hprep, hwait, hreq, hserv⟩ := hs
  cases e <;>
    simp only [Handshake.step, Option.ite_none_right_eq_some,
      Option.some.injEq] at h <;>
    obtain ⟨hguard, rfl⟩ := h
  case start => constructor <;> simp_all [Quiet]
  case abort => constructor <;> simp_all
  case post => constructor <;> simp_all [Quiet]
  case accept => constructor <;> simp_all [Quiet]
  case finish => constructor <;> simp_all [Quiet]
  case acknowledge => constructor <;> simp_all [Quiet]
  case abandon => constructor <;> simp_all

/-- A completion is alone on the path. -/
theorem Paired.of_done {s : State} (hs : Paired s) (hdone : s.done = true) :
    s.request = false ∧ s.serving = false := by
  constructor
  · by_contra hrequest
    have hquiet := (hs.request (eq_true_of_ne_false hrequest)).2
    exact Bool.false_ne_true (hquiet.symm.trans hdone)
  · by_contra hserving
    have hquiet := hs.serving (eq_true_of_ne_false hserving)
    exact Bool.false_ne_true (hquiet.symm.trans hdone)

/-- So is a service, and the client does not prepare meanwhile. -/
theorem Paired.of_serving {s : State} (hs : Paired s)
    (hserving : s.serving = true) :
    s.client ≠ .preparing ∧ s.request = false := by
  constructor
  · intro hpreparing
    have hquiet := (hs.preparing hpreparing).2.1
    exact Bool.false_ne_true (hquiet.symm.trans hserving)
  · by_contra hrequest
    have hquiet := (hs.request (eq_true_of_ne_false hrequest)).1
    exact Bool.false_ne_true (hquiet.symm.trans hserving)

/-- A client that never abandons a request finds the path quiet whenever it is
idle. -/
theorem quiet_of_timely {s s' : State} {e : Event} (hs : Paired s)
    (hidle : s.client = .idle → Quiet s) (he : e ≠ .abandon)
    (h : Handshake.step s e = some s') (hclient : s'.client = .idle) :
    Quiet s' := by
  cases e <;>
    simp only [Handshake.step, Option.ite_none_right_eq_some,
      Option.some.injEq] at h <;>
    obtain ⟨hguard, rfl⟩ := h
  case start => simp at hclient
  case abort => exact hs.preparing hguard
  case post => simp at hclient
  case accept => simp_all [Quiet]
  case finish => simp_all [Quiet]
  case acknowledge =>
    obtain ⟨hrequest, hserving⟩ := hs.of_done hguard.2
    exact ⟨hrequest, hserving, rfl⟩
  case abandon => exact absurd rfl he

end Handshake
