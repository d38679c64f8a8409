import Sidecar.Json.Token
import Sidecar.Text.Quoted

/-!
# Scanning an array for its elements

A `Scanner` cuts the text of an array into the texts of its elements while the bytes arrive. It
counts brackets and watches quotes, and looks no closer: whether an element is JSON is left to
whoever reads it. `Scanner.step` takes one byte, `Scanner.push` a chunk. A byte that cannot stand in
an array changes nothing, so a scanner can be fed on after it.
-/

namespace Sidecar

/-- Where a scanner stands inside an element that has brackets or quotes. -/
inductive Scanner.Mode where
  | plain
  | quoted
  | escaped
  deriving DecidableEq, Repr

/-- Where a scanner stands. -/
inductive Scanner.State where
  /-- Before the opening bracket. -/
  | opening
  /-- After it: an element or the closing bracket. -/
  | first
  /-- After a comma: an element. -/
  | element
  /-- Inside a string, or inside `depth` brackets. -/
  | inside (depth : Nat) (mode : Scanner.Mode)
  /-- Inside a number or a literal. -/
  | scalar
  /-- After an element: a comma or the closing bracket. -/
  | separator
  /-- After the closing bracket. -/
  | closed
  deriving DecidableEq, Repr

/-- What was wanted when the bytes turned out to be no array. -/
inductive Scanner.Wanted where
  | opening
  | element
  | separator
  | closing
  deriving DecidableEq, Repr

/-- Why bytes are no array: what was wanted, and the byte that came, or none at the end. -/
structure Scanner.Problem where
  wanted : Scanner.Wanted
  got : Option UInt8
  deriving DecidableEq, Repr

/-- A scanner and the bytes of the element it is in, the last first. -/
structure Scanner where
  state : Scanner.State
  pending : List UInt8
  deriving DecidableEq, Repr

namespace Scanner

def Wanted.text : Wanted → String
  | .opening => "["
  | .element => "array element"
  | .separator => ", or ]"
  | .closing => "]"

def Problem.text (p : Problem) : String :=
  "want " ++ p.wanted.text ++ ", got " ++
    match p.got with
    | some b => Text.quoteByte b
    | none => "end of body"

def initial : Scanner := ⟨.opening, []⟩

def isClosed (s : Scanner) : Bool := s.state = .closed

/-- A scanner after a byte, and the element that the byte completed. -/
abbrev Stepped := Scanner × Option (List UInt8)

/-- Outside elements nothing is pending. -/
def goto (state : State) : Stepped := (⟨state, []⟩, none)

/-- The scanner is inside an element. -/
def stay (state : State) (pending : List UInt8) : Stepped := (⟨state, pending⟩, none)

/-- The pending bytes are an element. -/
def complete (pending : List UInt8) (state : State) : Stepped :=
  (⟨state, []⟩, some pending.reverse)

def start (b : UInt8) : Except Problem Stepped :=
  match Json.classify b with
  | .openArray | .openObject => .ok (stay (.inside 1 .plain) [b])
  | .quote => .ok (stay (.inside 0 .quoted) [b])
  | .closeArray | .closeObject | .comma | .colon => .error ⟨.element, some b⟩
  | .blank | .backslash | .other => .ok (stay .scalar [b])

def separate (b : UInt8) : Except Problem State :=
  match Json.classify b with
  | .comma => .ok .element
  | .closeArray => .ok .closed
  | .blank => .ok .separator
  | _ => .error ⟨.separator, some b⟩

/-- A byte inside an element that has brackets or quotes; `pending` holds it already. -/
def within (depth : Nat) (mode : Mode) (b : UInt8) (pending : List UInt8) : Stepped :=
  match mode, Json.classify b with
  | .escaped, _ => stay (.inside depth .quoted) pending
  | .quoted, .backslash => stay (.inside depth .escaped) pending
  | .quoted, .quote =>
    if depth = 0 then complete pending .separator else stay (.inside depth .plain) pending
  | .quoted, _ => stay (.inside depth .quoted) pending
  | .plain, .quote => stay (.inside depth .quoted) pending
  | .plain, .openArray | .plain, .openObject => stay (.inside (depth + 1) .plain) pending
  -- which bracket closes which is left to the decoder of the element
  | .plain, .closeArray | .plain, .closeObject =>
    if depth = 1 then complete pending .separator else stay (.inside (depth - 1) .plain) pending
  | .plain, _ => stay (.inside depth .plain) pending

def step (s : Scanner) (b : UInt8) : Except Problem Stepped :=
  match s.state with
  | .opening =>
    match Json.classify b with
    | .openArray => .ok (goto .first)
    | .blank => .ok (goto .opening)
    | _ => .error ⟨.opening, some b⟩
  | .first =>
    match Json.classify b with
    | .closeArray => .ok (goto .closed)
    | .blank => .ok (goto .first)
    | _ => start b
  | .element =>
    match Json.classify b with
    | .blank => .ok (goto .element)
    | _ => start b
  | .inside depth mode => .ok (within depth mode b (b :: s.pending))
  | .scalar =>
    match Json.classify b with
    -- only what comes behind a number or a literal ends it, and that byte counts as well
    | .blank | .comma | .closeArray => (separate b).map (complete s.pending)
    | _ => .ok (stay .scalar (b :: s.pending))
  | .separator => (separate b).map goto
  | .closed => .ok (goto .closed)

structure Pushed where
  scanner : Scanner
  elements : List (List UInt8)
  /-- The problem with the first byte that was refused; the chunk is not read beyond it. -/
  problem : Option Problem

def push (s : Scanner) : List UInt8 → Pushed
  | [] => ⟨s, [], none⟩
  | b :: rest =>
    match s.step b with
    | .error problem => ⟨s, [], some problem⟩
    | .ok (s, completed) =>
      let pushed := s.push rest
      { pushed with elements := completed.toList ++ pushed.elements }

/-- Says whether the bytes taken are a whole array. -/
def finish (s : Scanner) : Except Problem Unit :=
  match s.state with
  | .closed => .ok ()
  | .opening => .error ⟨.opening, none⟩
  | _ => .error ⟨.closing, none⟩

end Scanner

end Sidecar
