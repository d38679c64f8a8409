import Sidecar.Batch.Scanner

/-!
# Scanning in place

How a scanner goes about it when it changes its own registers. A byte is put into the buffer before it
is known whether an element may start with it, and taken out again if not; the byte behind a number or a
literal is looked at twice; two flags say whether the scanner is in a string and behind a backslash; the
depth is counted up and down. `Scanner.step` says what comes of a byte, and that is the same.
-/

namespace Sidecar.Scanner

/-- Where a scanner stands. -/
inductive InPlace.State where
  | opening
  | first
  | element
  | inside (depth : Nat) (inString escape : Bool)
  | scalar
  | separator
  | closed
  deriving DecidableEq, Repr

/-- What has become of a byte, or of a chunk. -/
inductive InPlace.Verdict where
  | taken
  | refused (problem : Problem)
  /-- The depth was to be counted down from zero. -/
  | underflow
  deriving DecidableEq, Repr

structure InPlace where
  state : InPlace.State
  /-- The buffer: the bytes of the element that the scanner is in. -/
  pending : List UInt8
  /-- What elements are appended to. It belongs to the caller, who may change it between chunks. -/
  out : List (List UInt8)
  deriving DecidableEq, Repr

namespace InPlace

def initial : InPlace := ⟨.opening, [], []⟩

/-- What comes of looking at a byte. -/
inductive Looked where
  | done (result : InPlace × Verdict)
  /-- The byte has to be looked at again. -/
  | again (m : InPlace)

def store (m : InPlace) (b : UInt8) : InPlace := { m with pending := m.pending ++ [b] }

/-- Moves the buffer to the elements. -/
def complete (m : InPlace) : InPlace := ⟨.separator, [], m.out ++ [m.pending]⟩

def goto (m : InPlace) (state : State) : InPlace × Verdict := ({ m with state }, .taken)

def refuse (m : InPlace) (wanted : Wanted) (b : UInt8) : InPlace × Verdict :=
  (m, .refused ⟨wanted, some b⟩)

def start (m : InPlace) (b : UInt8) : InPlace × Verdict :=
  let m := m.store b
  match Json.classify b with
  | .openArray | .openObject => m.goto (.inside 1 false false)
  | .quote => m.goto (.inside 0 true false)
  | .closeArray | .closeObject | .comma | .colon => refuse { m with pending := [] } .element b
  | .blank | .backslash | .other => m.goto .scalar

/-- A byte inside an element that has brackets or quotes. -/
def within (m : InPlace) (depth : Nat) (inString escape : Bool) (b : UInt8) : InPlace × Verdict :=
  let m := m.store b
  match inString, escape, Json.classify b with
  | true, true, _ => m.goto (.inside depth true false)
  | true, false, .backslash => m.goto (.inside depth true true)
  | true, false, .quote =>
    if depth = 0 then m.complete.goto .separator else m.goto (.inside depth false false)
  | true, false, _ => m.goto (.inside depth true false)
  | false, _, .quote => m.goto (.inside depth true false)
  | false, _, .openArray | false, _, .openObject => m.goto (.inside (depth + 1) false false)
  | false, _, .closeArray | false, _, .closeObject =>
    match depth with
    | 0 => (m, .underflow)
    | 1 => m.complete.goto .separator
    | depth + 1 => m.goto (.inside depth false false)
  | false, _, _ => m.goto (.inside depth false escape)

/-- Looks at a byte once. -/
def look (m : InPlace) (b : UInt8) : Looked :=
  match m.state, Json.classify b with
  | .opening, .openArray => .done (m.goto .first)
  | .opening, .blank => .done (m.goto .opening)
  | .opening, _ => .done (m.refuse .opening b)
  | .first, .closeArray => .done (m.goto .closed)
  | .first, .blank => .done (m.goto .first)
  | .first, _ => .done (m.start b)
  | .element, .blank => .done (m.goto .element)
  | .element, _ => .done (m.start b)
  | .inside depth inString escape, _ => .done (m.within depth inString escape b)
  | .scalar, .blank | .scalar, .comma | .scalar, .closeArray => .again m.complete
  | .scalar, _ => .done ((m.store b).goto .scalar)
  | .separator, .comma => .done (m.goto .element)
  | .separator, .closeArray => .done (m.goto .closed)
  | .separator, .blank => .done (m.goto .separator)
  | .separator, _ => .done (m.refuse .separator b)
  | .closed, _ => .done (m.goto .closed)

/-- Only what ends a number or a literal is looked at again. -/
theorem look_eq_again {m m' : InPlace} {b : UInt8} (h : m.look b = .again m') :
    m.state = .scalar ∧ m' = m.complete := by
  unfold look at h
  split at h
  case h_10 scalar _ | h_11 scalar _ | h_12 scalar _ =>
    cases h
    exact ⟨scalar, rfl⟩
  all_goals cases h

/-- How often the scanner may have to look at a byte again. -/
def looksLeft (m : InPlace) : Nat := if m.state = .scalar then 1 else 0

/-- Looks at a byte until it is done with it. -/
def pushByte (m : InPlace) (b : UInt8) : InPlace × Verdict :=
  match _h : m.look b with
  | .done result => result
  | .again m' => m'.pushByte b
termination_by m.looksLeft
decreasing_by
  obtain ⟨scalar, rfl⟩ := look_eq_again _h
  rw [looksLeft, looksLeft, if_pos scalar, if_neg nofun]
  exact Nat.one_pos

/-- Takes a chunk, up to the first byte that is not taken. -/
def push (m : InPlace) : List UInt8 → InPlace × Verdict
  | [] => (m, .taken)
  | b :: rest =>
    match m.pushByte b with
    | (m', .taken) => m'.push rest
    | stopped => stopped

/-- A chunk, and what its elements are appended to. -/
structure Push where
  bytes : List UInt8
  out : List (List UInt8)

def given (m : InPlace) (out : List (List UInt8)) : InPlace := { m with out }

/-- Takes chunks one after the other, also after one that was not taken whole. -/
def afterAll (m : InPlace) (pushes : List Push) : InPlace :=
  pushes.foldl (fun m p => ((m.given p.out).push p.bytes).1) m

end InPlace

end Sidecar.Scanner
