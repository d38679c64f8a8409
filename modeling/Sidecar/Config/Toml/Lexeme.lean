import Sidecar.Config.Escape

/-!
# Lexemes of TOML

A document is a list of lexemes. They are found by one pass over its characters, during which the
reader is always in one of a few modes.
-/

namespace Sidecar.Config.Toml

/-- A piece of a document. Comments are none. -/
inductive Lexeme where
  /-- A run of letters, digits and the signs that keys, numbers and times are made of. -/
  | word (cs : List Char)
  /-- A string; a block may go over several lines. -/
  | text (value : String) (isBlock : Bool)
  /-- One of `= . , [ ] { }`. -/
  | mark (c : Char)
  | blank (cs : List Char)
  | newline
  deriving DecidableEq, Repr

namespace Lexeme

def isMark (c : Char) : Lexeme → Bool
  | .mark d => c = d
  | _ => false

def isBlank : Lexeme → Bool
  | .blank _ => true
  | _ => false

end Lexeme

/-- Where the reader stands. The characters `seen` so far are in reverse. -/
inductive Mode where
  | outside
  | word (seen : List Char)
  | blank (seen : List Char)
  | comment
  /-- Behind the first one or two quotes of a string. -/
  | opening (quote : Char) (two : Bool)
  | line (quote : Char) (escape : Escape) (seen : List Char)
  /-- Behind the three quotes that open a block. -/
  | opened (quote : Char)
  /-- In a block, behind a run of quotes that may be its end. -/
  | block (quote : Char) (escape : Escape) (quotes : Nat) (seen : List Char)
  /-- Behind a backslash that ends a line of a block: white space does not count. -/
  | folding (seen : List Char) (behindNewline : Bool)

abbrev Reading := Option (Mode × List Lexeme)

def isSpace (c : Char) : Bool := c = ' ' || c = '\t'

def isWordChar (c : Char) : Bool :=
  c.isAlphanum || c = '_' || c = '-' || c = '+' || c = ':'

/-- Reads the first character of a lexeme. -/
def start (c : Char) : Reading :=
  if c = '\n' then some (.outside, [.newline])
  else if isSpace c then some (.blank [c], [])
  else if c = '#' then some (.comment, [])
  else if c = '"' || c = '\'' then some (.opening c false, [])
  else if "=.,[]\x7b\x7d".toList.contains c then some (.outside, [.mark c])
  else if isWordChar c then some (.word [c], [])
  else none

def startAfter (lexeme : Lexeme) (c : Char) : Reading :=
  (start c).map fun (mode, lexemes) => (mode, lexeme :: lexemes)

def textOf (seen : List Char) (isBlock : Bool) : Lexeme :=
  .text (String.ofList seen.reverse) isBlock

/-- Reads a character of a string on one line. Only between double quotes there are escapes. -/
def readLine (quote : Char) (escape : Escape) (seen : List Char) (c : Char) : Reading :=
  match escape with
  | .outside =>
    if c = quote then some (.outside, [textOf seen false])
    else if quote = '\'' then
      if isPlain c then some (.line quote .outside (c :: seen), []) else none
    else (escape.next isPlain c).map fun (e, made) => (.line quote e (made.toList ++ seen), [])
  | escape => (escape.next isPlain c).map fun (e, made) => (.line quote e (made.toList ++ seen), [])

/-- Reads a character of a block. The last three quotes of a run of three to five close it. -/
def readBlock (quote : Char) (escape : Escape) (quotes : Nat) (seen : List Char) (c : Char) :
    Reading :=
  match escape with
  | .outside =>
    if c = quote then
      if quotes = 4 then some (.outside, [textOf (quote :: quote :: seen) true])
      else some (.block quote .outside (quotes + 1) seen, [])
    else if 3 ≤ quotes then
      startAfter (textOf (List.replicate (quotes - 3) quote ++ seen) true) c
    else
      let seen := List.replicate quotes quote ++ seen
      if c = '\n' then some (.block quote .outside 0 (c :: seen), [])
      else if c = '\\' && quote = '"' then some (.block quote .letter 0 seen, [])
      else if isPlain c then some (.block quote .outside 0 (c :: seen), [])
      else none
  | escape =>
    if escape matches .letter && (isSpace c || c = '\n') then some (.folding seen (c = '\n'), [])
    else (escape.next isPlain c).map fun (e, made) => (.block quote e 0 (made.toList ++ seen), [])

def read (c : Char) : Mode → Reading
  | .outside => start c
  | .word seen =>
    if isWordChar c then some (.word (c :: seen), []) else startAfter (.word seen.reverse) c
  | .blank seen =>
    if isSpace c then some (.blank (c :: seen), []) else startAfter (.blank seen.reverse) c
  | .comment =>
    if c = '\n' then start c
    else if isPlain c then some (.comment, [])
    else none
  | .opening quote false =>
    if c = quote then some (.opening quote true, []) else readLine quote .outside [] c
  | .opening quote true =>
    if c = quote then some (.opened quote, []) else startAfter (.text "" false) c
  | .line quote escape seen => readLine quote escape seen c
  | .opened quote =>
    if c = '\n' then some (.block quote .outside 0 [], []) else readBlock quote .outside 0 [] c
  | .block quote escape quotes seen => readBlock quote escape quotes seen c
  | .folding seen behindNewline =>
    if isSpace c then some (.folding seen behindNewline, [])
    else if c = '\n' then some (.folding seen true, [])
    else if behindNewline then readBlock '"' .outside 0 seen c
    else none

/-- The lexeme that the end of the document completes. -/
def finish : Mode → Option (List Lexeme)
  | .outside => some []
  | .comment => some []
  | .word seen => some [.word seen.reverse]
  | .blank seen => some [.blank seen.reverse]
  | .opening _ true => some [.text "" false]
  | .block quote .outside quotes seen =>
    if 3 ≤ quotes then some [textOf (List.replicate (quotes - 3) quote ++ seen) true] else none
  | _ => none

def lexemes (mode : Mode) : List Char → Option (List Lexeme)
  | [] => finish mode
  | c :: rest => do
    let (mode, made) ← read c mode
    return made ++ (← lexemes mode rest)

end Sidecar.Config.Toml
