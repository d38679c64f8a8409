import Sidecar.Json.Token

/-!
# Failures

Every error of the library has a message and, often, a cause with a message of its own. A `Failure`
is what can be shown of an error: its message and those of its causes. Errors that an extension
raises are known to the library as failures only.
-/

namespace Sidecar

/-- The messages of an error and its causes, outermost first. -/
structure Failure where
  message : String
  causes : List String
  deriving DecidableEq, Inhabited, Repr

namespace Failure

def plain (message : String) : Failure := ⟨message, []⟩

def chain (f : Failure) : List String := f.message :: f.causes

/-- A failure that another one has caused. -/
def because (message : String) (cause : Failure) : Failure := ⟨message, cause.chain⟩

def text (f : Failure) : String := ": ".intercalate f.chain

/-- The chain of an error with a cause starts with its own message. -/
theorem chain_because (message : String) (cause : Failure) :
    (because message cause).chain = message :: cause.chain := rfl

end Failure

/-- Failures from outside the library, whose own words are not shown. -/
inductive Foreign where
  | json (fault : Json.Fault)
  | http
  | io
  | panic
  /-- The body of a request could not be read to its end. -/
  | body
  deriving DecidableEq, Repr

namespace Foreign

def faultName : Json.Fault → String
  | .truncated => "eof"
  | .malformed => "syntax"
  | .mismatched => "data"

/-- What is shown in place of the message. -/
def label : Foreign → String
  | .json fault => "<json " ++ faultName fault ++ ">"
  | .http => "<http>"
  | .io => "<io>"
  | .panic => "<panic>"
  | .body => "<body>"

def failure (f : Foreign) : Failure := .plain f.label

end Foreign

end Sidecar
