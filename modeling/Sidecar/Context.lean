import Sidecar.Failure

/-!
# Contexts

A context bounds the work done in it: the work is over once the context has been cancelled or its
deadline has passed. A context derived from another one stops with it, and its deadline is never
later. What is cancelled is a scope; contexts may share one. Which scopes have been cancelled is
kept beside the contexts, in `Scopes`.
-/

namespace Sidecar

inductive Stop where
  | cancelled
  | deadlineExceeded
  deriving DecidableEq, Repr

namespace Stop

def message : Stop → String
  | .cancelled => "context cancelled"
  | .deadlineExceeded => "context deadline exceeded"

def failure (s : Stop) : Failure := .plain s.message

end Stop

/-- A scope of cancellation, known by a number of its own. -/
structure Scope where
  number : Nat
  /-- The scopes that it lies in. -/
  around : List Nat
  deriving DecidableEq, Repr

/-- Which scopes there are, and which of them have been cancelled. -/
structure Scopes where
  next : Nat
  cancelled : List Nat
  deriving DecidableEq, Repr

namespace Scopes

def empty : Scopes := ⟨0, []⟩

/-- A scope is cancelled with every scope that it lies in, whether this was before or after it was
made. -/
def isCancelled (w : Scopes) (s : Scope) : Bool :=
  (s.number :: s.around).any w.cancelled.contains

end Scopes

/-- A scope, and perhaps a deadline in milliseconds since 1970. -/
structure Context where
  scope : Scope
  deadline : Option Int
  deriving DecidableEq, Repr

namespace Context

/-- A context with a scope of its own and without a deadline. -/
def root (w : Scopes) : Context × Scopes :=
  (⟨⟨w.next, []⟩, none⟩, { w with next := w.next + 1 })

/-- A context with the scope of another one and without a deadline. -/
def sharing (c : Context) : Context := ⟨c.scope, none⟩

/-- A context with a scope inside that of another one. -/
def child (c : Context) (w : Scopes) : Context × Scopes :=
  ({ c with scope := ⟨w.next, c.scope.number :: c.scope.around⟩ }, { w with next := w.next + 1 })

def earlier (limit : Option Int) (deadline : Int) : Int :=
  match limit with
  | some limit => min limit deadline
  | none => deadline

/-- A context inside another one that ends at a deadline, if the other one has not ended by then. -/
def childUntil (c : Context) (deadline : Int) (w : Scopes) : Context × Scopes :=
  let (inner, w) := c.child w
  ({ inner with deadline := some (earlier c.deadline deadline) }, w)

/-- The point in time so many milliseconds after 1970. Points in time lie at most 2⁶³ seconds away
from 1970. -/
def time? (ms : Int64) : Option Int :=
  let seconds := ms.toInt / 1000
  if -0x8000000000000000 ≤ seconds ∧ seconds < 0x8000000000000000 then some ms.toInt else none

/-- A context inside another one with a deadline in milliseconds, or without one of its own if there is
no such point in time. -/
def childUntilMs (c : Context) (deadlineMs : Int64) (w : Scopes) : Context × Scopes :=
  match time? deadlineMs with
  | some deadline => c.childUntil deadline w
  | none => c.child w

/-- There is a point in time for every number of milliseconds. -/
theorem time?_eq (ms : Int64) : time? ms = some ms.toInt := by
  have := ms.minValue_le_toInt
  have := ms.toInt_lt
  unfold time?
  rw [if_pos (by simp only [Int64.toInt_minValue] at *; omega)]

/-- A deadline in milliseconds is the deadline of that many milliseconds, also where it lies before the
epoch. -/
theorem childUntilMs_eq (c : Context) (deadlineMs : Int64) (w : Scopes) :
    c.childUntilMs deadlineMs w = c.childUntil deadlineMs.toInt w := by
  rw [childUntilMs, time?_eq]

def cancel (c : Context) (w : Scopes) : Scopes :=
  { w with cancelled := c.scope.number :: w.cancelled }

/-- Why the context has stopped, if it has. Cancellation is looked at first. -/
def stop? (c : Context) (w : Scopes) (now : Int) : Option Stop :=
  if w.isCancelled c.scope then some .cancelled
  else if c.deadline.any (· ≤ now) then some .deadlineExceeded
  else none

/-- Looks once at work that is done in the context: nothing while the context goes on and the work
has no result. A context that has stopped comes first. -/
def outcome? (c : Context) (w : Scopes) (now : Int) (result : Option α) :
    Option (Except Stop α) :=
  match c.stop? w now with
  | some stop => some (.error stop)
  | none => result.map .ok

/-- Deadlines further away than this are kept, but not waited for. A year, in milliseconds. -/
def longestWait : Int := 365 * 24 * 60 * 60 * 1000

/-- How waiting for the context to stop ends, and when, if nothing is cancelled meanwhile. -/
def wait? (c : Context) (w : Scopes) (now : Int) : Option (Stop × Int) :=
  match c.stop? w now with
  | some stop => some (stop, now)
  | none =>
    (c.deadline.filter (· - now ≤ longestWait)).map fun deadline => (.deadlineExceeded, deadline)

/-- The deadline in milliseconds since 1970, if it is not earlier and 64 bits suffice for it. -/
def deadlineMs? (c : Context) : Option Int :=
  c.deadline.filter fun deadline => 0 ≤ deadline && deadline < 0x8000000000000000

end Context

end Sidecar
