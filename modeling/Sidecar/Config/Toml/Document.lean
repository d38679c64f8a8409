import Sidecar.Config.Toml.Lexeme
import Sidecar.Config.Toml.Scalar
import Sidecar.Config.Toml.Table

/-!
# Documents of TOML

A document is a list of statements, one on a line: headers, and keys with their values. The lexemes
are first grouped by brackets, so that the line breaks and commas inside a value are out of the way.
-/

namespace Sidecar.Config.Toml

/-- A lexeme, or what stands between two brackets. -/
inductive Tree where
  | leaf (lexeme : Lexeme)
  | group (isSquare : Bool) (items : List Tree)

/-- Groups lexemes by brackets. The groups that are still open, with what stands in front of each,
are in `pending`, the innermost first. -/
def grouped (current : List Tree) (pending : List (Bool × List Tree)) :
    List Lexeme → Option (List Tree)
  | [] => if pending.isEmpty then some current.reverse else none
  | lexeme :: rest =>
    let close (isSquare : Bool) : Option (List Tree × List (Bool × List Tree)) :=
      match pending with
      | (kind, before) :: outer =>
        if kind = isSquare then some (.group kind current.reverse :: before, outer) else none
      | [] => none
    match lexeme with
    | .mark '[' => grouped [] ((true, current) :: pending) rest
    | .mark '\x7b' => grouped [] ((false, current) :: pending) rest
    | .mark ']' => do
      let (current, pending) ← close true
      grouped current pending rest
    | .mark '\x7d' => do
      let (current, pending) ← close false
      grouped current pending rest
    | lexeme => grouped (.leaf lexeme :: current) pending rest

/-- Splits a list at each element of a kind. -/
def splitAtEach (isSplit : α → Bool) : List α → List (List α)
  | [] => [[]]
  | x :: rest =>
    match splitAtEach isSplit rest with
    | [] => [[x]]
    | part :: parts => if isSplit x then [] :: part :: parts else (x :: part) :: parts

/-- Drops the elements of a kind at both ends. -/
def stripped (isSpace : α → Bool) (xs : List α) : List α :=
  ((xs.dropWhile isSpace).reverse.dropWhile isSpace).reverse

/-- A lexeme, or the value of a group. -/
inductive Piece where
  | leaf (lexeme : Lexeme)
  | value (value : Value)

namespace Piece

def leaf? : Piece → Option Lexeme
  | .leaf lexeme => some lexeme
  | _ => none

def isMark (c : Char) (p : Piece) : Bool := p.leaf?.any (·.isMark c)

def isBlank (p : Piece) : Bool := p.leaf?.any Lexeme.isBlank

def isNewline (p : Piece) : Bool := p.leaf? = some .newline

end Piece

/-- One part of a key: letters, digits, hyphens and underscores, or a string on one line. -/
def keyPart? (lexemes : List Lexeme) : Option String :=
  match stripped Lexeme.isBlank lexemes with
  | [.word cs] =>
    if cs.all fun c => c.isAlphanum || c = '_' || c = '-' then some (String.ofList cs) else none
  | [.text value false] => some value
  | _ => none

/-- How many groups may lie in one another, and how many parts a key may have. -/
def nestingLimit : Nat := 79

/-- A key: the path to a table and the name in it. -/
def key? (lexemes : List Lexeme) : Option (List String × String) := do
  let parts ← (splitAtEach (Lexeme.isMark '.') lexemes).mapM keyPart?
  if nestingLimit < parts.length then none
  return (parts.dropLast, ← parts.getLast?)

def scalarChars : Lexeme → Option (List Char)
  | .word cs => some cs
  | .mark '.' => some ['.']
  | .blank [' '] => some [' ']
  | _ => none

def value? : List Piece → Option Value
  | [.value value] => some value
  | [.leaf (.text value _)] => some (.text value)
  | pieces => do scalar? (← pieces.mapM fun piece => piece.leaf?.bind scalarChars).flatten

/-- An array: values and commas, perhaps one more comma at the end, on any number of lines. -/
def array? (pieces : List Piece) : Option Value := do
  let parts := (splitAtEach (Piece.isMark ',') pieces).map
    (stripped fun piece => piece.isBlank || piece.isNewline)
  let parts := if (parts.getLast?.map List.isEmpty).getD true then parts.dropLast else parts
  return .list (← parts.mapM value?)

def pair? (pieces : List Piece) : Option ((List String × String) × Value) := do
  let key ← key? (← (pieces.takeWhile (!·.isMark '=')).mapM Piece.leaf?)
  let value ← value? (stripped Piece.isBlank ((pieces.dropWhile (!·.isMark '=')).drop 1))
  return (key, value)

/-- A table on one line: keys with their values, and commas between them. -/
def inlineTable? (pieces : List Piece) : Option Value := do
  if pieces.any Piece.isNewline then none
  if pieces.all Piece.isBlank then return .table []
  let pairs ← (splitAtEach (Piece.isMark ',') pieces).mapM pair?
  let entries ← pairs.foldlM (fun entries ((path, key), value) => assign path key value entries) []
  return .table (membersOf entries)

mutual

/-- The value of a group, in which at most `room` groups lie in one another. -/
def Tree.piece? (room : Nat) : Tree → Option Piece
  | .leaf lexeme => some (.leaf lexeme)
  | .group isSquare items => do
    if room = 0 then none
    let inner ← pieces? (room - 1) items
    return .value (← if isSquare then array? inner else inlineTable? inner)

def pieces? (room : Nat) : List Tree → Option (List Piece)
  | [] => some []
  | tree :: rest => do return (← tree.piece? room) :: (← pieces? room rest)

end

namespace Tree

def leaf? : Tree → Option Lexeme
  | .leaf lexeme => some lexeme
  | _ => none

def isNewline (t : Tree) : Bool := t.leaf? = some .newline

def isBlank (t : Tree) : Bool := t.leaf?.any Lexeme.isBlank

end Tree

/-- What has been read of a document: its tables, and the name in the last header. -/
structure Progress where
  entries : Entries
  header : List String

/-- Reads the statement on one line. -/
def Progress.read (p : Progress) (line : List Tree) : Option Progress := do
  match stripped Tree.isBlank line with
  | [] => return p
  | [.group true [.group true inner]] =>
    let (path, key) ← key? (← inner.mapM Tree.leaf?)
    return ⟨← openItem path key p.entries, path ++ [key]⟩
  | [.group true inner] =>
    let (path, key) ← key? (← inner.mapM Tree.leaf?)
    return ⟨← openTable path key p.entries, path ++ [key]⟩
  | line =>
    let ((path, key), value) ← pair? (← pieces? nestingLimit line)
    let add (_ : Origin) (entries : Entries) := assign path key value entries
    return { p with entries := ← descend false add p.header .header p.entries }

/-- Joins a carriage return and a line feed to one line break. -/
def joinLineBreaks : List Char → List Char
  | [] => []
  | '\r' :: '\n' :: rest => '\n' :: joinLineBreaks rest
  | c :: rest => c :: joinLineBreaks rest

/-- Drops the byte order mark that a text may start with. -/
def withoutMark : List Char → List Char
  | '\uFEFF' :: rest => rest
  | cs => cs

/-- The members of the table that a document describes. -/
def parse? (document : String) : Option Members := do
  let lexemes ← lexemes .outside (joinLineBreaks (withoutMark document.toList))
  let lines := splitAtEach Tree.isNewline (← grouped [] [] lexemes)
  let progress ← lines.foldlM Progress.read ⟨[], []⟩
  return membersOf progress.entries

end Sidecar.Config.Toml
