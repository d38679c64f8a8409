import Sidecar.Json.Basic
import Sidecar.Text.Utf8

/-!
# JSON tokens

`Json.tokens` cuts a text into brackets, separators and scalars. A scalar is read in two ways at
once, because a value that nobody asked for is looked at less closely than one that is kept: its
numbers may have any size, and its strings may hold lone surrogates and bytes that are not UTF-8.
A `Leaf` holds both findings. The list ends where the text ends, or with the first token that is at
fault either way.
-/

namespace Sidecar.Json

/-- What is wrong with a text that does not give the value asked for. -/
inductive Fault where
  /-- It ends inside a value. -/
  | truncated
  /-- It is not JSON, or nothing that can be kept. -/
  | malformed
  /-- It is JSON, but another value was asked for. -/
  | mismatched
  deriving DecidableEq, Repr

/-- A value without parts. -/
inductive Scalar where
  | null
  | bool (value : Bool)
  | number (value : Number)
  | string (value : String)
  deriving DecidableEq, Repr

/-- What the first byte of a scalar announces. -/
inductive Leaf.Kind where
  | string
  | null
  | other
  deriving DecidableEq, Repr

def Scalar.kind : Scalar → Leaf.Kind
  | .string _ => .string
  | .null => .null
  | _ => .other

/-- A scalar of a text: what keeping it gives, and whether it can at least be passed over. -/
structure Leaf where
  kind : Leaf.Kind
  kept : Except Fault Scalar
  skipped : Except Fault Unit
  deriving Repr

inductive Token where
  | openArray
  | closeArray
  | openObject
  | closeObject
  | comma
  | colon
  | leaf (leaf : Leaf)
  /-- A byte that starts no token. -/
  | stray
  deriving Repr

/-- The part that a byte plays outside strings. -/
inductive ByteClass where
  | blank
  | quote
  | backslash
  | openArray
  | closeArray
  | openObject
  | closeObject
  | comma
  | colon
  | other
  deriving DecidableEq, Repr

/-- The part of each byte; blanks are the space, the tab, the line feed and the carriage return. -/
def classify (b : UInt8) : ByteClass :=
  if b = 0x20 || b = 0x09 || b = 0x0A || b = 0x0D then .blank
  else if b = 0x22 then .quote
  else if b = 0x5C then .backslash
  else if b = 0x5B then .openArray
  else if b = 0x5D then .closeArray
  else if b = 0x7B then .openObject
  else if b = 0x7D then .closeObject
  else if b = 0x2C then .comma
  else if b = 0x3A then .colon
  else .other

/-- The value of a hexadecimal digit of either case. -/
def hexDigit? (b : UInt8) : Option Nat :=
  if 0x30 ≤ b && b ≤ 0x39 then some (b.toNat - 0x30)
  else if 0x41 ≤ b && b ≤ 0x46 then some (b.toNat - 0x37)
  else if 0x61 ≤ b && b ≤ 0x66 then some (b.toNat - 0x57)
  else none

/-- The number that four hexadecimal digits spell. -/
def hexQuad? (a b c d : UInt8) : Option Nat := do
  let a ← hexDigit? a
  let b ← hexDigit? b
  let c ← hexDigit? c
  let d ← hexDigit? d
  return ((a * 16 + b) * 16 + c) * 16 + d

/-- The byte that an escape of two characters stands for. -/
def shortEscape? (b : UInt8) : Option UInt8 :=
  if b = 0x22 || b = 0x5C || b = 0x2F then some b
  else if b = 0x62 then some 0x08
  else if b = 0x66 then some 0x0C
  else if b = 0x6E then some 0x0A
  else if b = 0x72 then some 0x0D
  else if b = 0x74 then some 0x09
  else none

/-- Passes over a string after its opening quote, and gives what follows the closing one. An escape
that the text is too short for counts as truncated, whatever its digits are. -/
def skipString : List UInt8 → Except Fault (List UInt8)
  | [] => .error .truncated
  | 0x5C :: rest =>
    match rest with
    | [] => .error .truncated
    | 0x75 :: a :: b :: c :: d :: rest =>
      if (hexQuad? a b c d).isSome then skipString rest else .error .malformed
    | 0x75 :: _ => .error .truncated
    | e :: rest => if (shortEscape? e).isSome then skipString rest else .error .malformed
  | b :: rest =>
    if b = 0x22 then .ok rest
    else if b < 0x20 then .error .malformed
    else skipString rest

/-- The code point of a pair of surrogates. -/
def joinSurrogates (high low : Nat) : Nat :=
  0x10000 + (high - 0xD800) * 0x400 + (low - 0xDC00)

/-- The bytes of a string after its opening quote, escapes replaced. A surrogate stands only before
or after its partner. -/
def stringBytes : List UInt8 → Except Fault (List UInt8)
  | [] => .error .truncated
  | 0x5C :: rest =>
    match rest with
    | [] => .error .truncated
    | 0x75 :: a :: b :: c :: d :: rest =>
      match hexQuad? a b c d with
      | none => .error .malformed
      | some n =>
        -- a low surrogate without a high one in front of it
        if 0xDC00 ≤ n && n ≤ 0xDFFF then .error .malformed
        else if 0xD800 ≤ n && n ≤ 0xDBFF then
          match rest with
          | [] => .error .truncated
          | [0x5C] => .error .truncated
          | 0x5C :: 0x75 :: a :: b :: c :: d :: rest =>
            match hexQuad? a b c d with
            | none => .error .malformed
            | some m =>
              if 0xDC00 ≤ m && m ≤ 0xDFFF then
                (stringBytes rest).map
                  (String.utf8EncodeChar (Char.ofNat (joinSurrogates n m)) ++ ·)
              else .error .malformed
          | 0x5C :: 0x75 :: _ => .error .truncated
          | _ => .error .malformed
        else (stringBytes rest).map (String.utf8EncodeChar (Char.ofNat n) ++ ·)
    | 0x75 :: _ => .error .truncated
    | e :: rest =>
      match shortEscape? e with
      | none => .error .malformed
      | some b => (stringBytes rest).map (b :: ·)
  | b :: rest =>
    if b = 0x22 then .ok []
    else if b < 0x20 then .error .malformed
    else (stringBytes rest).map (b :: ·)

/-- A string that is kept is UTF-8; this is looked at when its closing quote has been found. -/
def keepString (bytes : List UInt8) : Except Fault String := do
  let bytes ← stringBytes bytes
  match Utf8.decode? bytes with
  | some text => .ok text
  | none => .error .malformed

def isDigit (b : UInt8) : Bool :=
  0x30 ≤ b && b ≤ 0x39

/-- The number that decimal digits spell. -/
def ofDigits (digits : List UInt8) : Nat :=
  digits.foldl (fun n b => n * 10 + (b.toNat - 0x30)) 0

structure Numeral where
  negative : Bool
  whole : List UInt8
  fraction : List UInt8
  /-- The exponent's sign (true for minus) and digits. -/
  exponent : Option (Bool × List UInt8)

/-- What is missing if a digit had to come next. -/
def wantDigit : List UInt8 → Fault
  | [] => .truncated
  | _ => .malformed

/-- Reads the digits before the point: a zero alone, or digits that do not start with one. -/
def readWhole : List UInt8 → Except Fault (List UInt8 × List UInt8)
  | 0x30 :: rest =>
    if rest.head?.any isDigit then .error .malformed else .ok ([0x30], rest)
  | bytes =>
    if bytes.head?.any isDigit then .ok (bytes.takeWhile isDigit, bytes.dropWhile isDigit)
    else .error (wantDigit bytes)

/-- Reads a point and the digits after it, if there is a point. -/
def readFraction : List UInt8 → Except Fault (List UInt8 × List UInt8)
  | 0x2E :: rest =>
    if rest.head?.any isDigit then .ok (rest.takeWhile isDigit, rest.dropWhile isDigit)
    else .error (wantDigit rest)
  | bytes => .ok ([], bytes)

/-- Reads the sign and the digits of an exponent. -/
def readSignedDigits : List UInt8 → Except Fault ((Bool × List UInt8) × List UInt8)
  | 0x2D :: rest => digitsAfter true rest
  | 0x2B :: rest => digitsAfter false rest
  | bytes => digitsAfter false bytes
where
  digitsAfter (negative : Bool) (bytes : List UInt8) :=
    if bytes.head?.any isDigit then
      .ok ((negative, bytes.takeWhile isDigit), bytes.dropWhile isDigit)
    else .error (wantDigit bytes)

/-- Reads an exponent, if there is one. -/
def readExponent : List UInt8 → Except Fault (Option (Bool × List UInt8) × List UInt8)
  | 0x65 :: rest => (readSignedDigits rest).map fun (e, rest) => (some e, rest)
  | 0x45 :: rest => (readSignedDigits rest).map fun (e, rest) => (some e, rest)
  | bytes => .ok (none, bytes)

def readUnsigned (negative : Bool) (bytes : List UInt8) :
    Except Fault (Numeral × List UInt8) := do
  let (whole, bytes) ← readWhole bytes
  let (fraction, bytes) ← readFraction bytes
  let (exponent, bytes) ← readExponent bytes
  return (⟨negative, whole, fraction, exponent⟩, bytes)

def readNumeral : List UInt8 → Except Fault (Numeral × List UInt8)
  | 0x2D :: rest => readUnsigned true rest
  | bytes => readUnsigned false bytes

/-- The double nearest to what is written, unless that is out of range. This is rounded exactly. A reader
that multiplies and divides in doubles may be off by one in the last place if more than sixteen digits are
written, and may take or refuse another number at the end of the range. No theorem depends on which double
is read. -/
def Numeral.real? (n : Numeral) : Option Binary64 :=
  let exponent : Int := match n.exponent with
    | none => 0
    | some (true, digits) => -(ofDigits digits : Int)
    | some (false, digits) => ofDigits digits
  Binary64.ofDecimal? n.negative (ofDigits (n.whole ++ n.fraction))
    (n.whole.length + n.fraction.length) (exponent - n.fraction.length)

/-- The number that is written. Minus zero is a double, and so is an integer beyond 64 bits. -/
def Numeral.number? (n : Numeral) : Option Number :=
  let value := ofDigits n.whole
  if n.fraction.isEmpty && n.exponent.isNone then
    if n.negative then
      -- the least integer of 64 bits has no positive counterpart
      if 0 < value && value ≤ 0x8000000000000000 then some (.integer (-value))
      else n.real?.map .real
    else if value < UInt64.size then some (.integer value)
    else n.real?.map .real
  else n.real?.map .real

def readLiteral : (expected : List UInt8) → List UInt8 → Except Fault (List UInt8)
  | [], rest => .ok rest
  | _ :: _, [] => .error .truncated
  | e :: expected, b :: rest =>
    if b = e then readLiteral expected rest else .error .malformed

/-- A leaf that is at fault in both ways, so that nothing can be read after it. -/
def Leaf.faulty (kind : Leaf.Kind) (kept skipped : Fault) : Leaf :=
  ⟨kind, .error kept, .error skipped⟩

/-- Reads a string after its opening quote: the leaf and, unless it is at fault in both ways, what
follows. -/
def lexString (bytes : List UInt8) : Leaf × Option (List UInt8) :=
  let kept := (keepString bytes).map Scalar.string
  match skipString bytes with
  | .ok rest => (⟨.string, kept, .ok ()⟩, some rest)
  | .error fault => (⟨.string, kept, .error fault⟩, none)

/-- Reads a number. One that the text breaks off in is truncated if it is kept, malformed if it is
passed over. -/
def lexNumber (bytes : List UInt8) : Leaf × Option (List UInt8) :=
  match readNumeral bytes with
  | .error fault => (.faulty .other fault .malformed, none)
  | .ok (numeral, rest) =>
    let kept := match numeral.number? with
      | some n => .ok (.number n)
      | none => .error .malformed
    (⟨.other, kept, .ok ()⟩, some rest)

/-- Reads a literal after its first letter. -/
def lexLiteral (value : Scalar) (expected : List UInt8) (bytes : List UInt8) :
    Leaf × Option (List UInt8) :=
  match readLiteral expected bytes with
  | .ok rest => (⟨value.kind, .ok value, .ok ()⟩, some rest)
  | .error fault => (.faulty value.kind fault fault, none)

/-- Reads the scalar that starts with a byte which is neither blank nor punctuation. -/
def lexScalar (first : UInt8) (rest : List UInt8) : Option (Leaf × Option (List UInt8)) :=
  if first = 0x22 then some (lexString rest)
  else if first = 0x2D || isDigit first then some (lexNumber (first :: rest))
  else if first = 0x6E then some (lexLiteral .null [0x75, 0x6C, 0x6C] rest)
  else if first = 0x74 then some (lexLiteral (.bool true) [0x72, 0x75, 0x65] rest)
  else if first = 0x66 then some (lexLiteral (.bool false) [0x61, 0x6C, 0x73, 0x65] rest)
  else none

/-- Behind a string that is passed over no more is left than there was. -/
theorem length_of_skipString {bytes rest : List UInt8} (h : skipString bytes = .ok rest) :
    rest.length ≤ bytes.length := by
  fun_induction skipString bytes <;> simp only [List.length_cons, List.length_nil] <;> grind

/-- Behind a literal no more is left than there was. -/
theorem length_of_readLiteral {expected bytes rest : List UInt8}
    (h : readLiteral expected bytes = .ok rest) : rest.length ≤ bytes.length := by
  fun_induction readLiteral expected bytes <;> grind

/-- What is left behind a run of bytes is no longer than the whole. -/
theorem length_dropWhile_le (p : UInt8 → Bool) (bytes : List UInt8) :
    (bytes.dropWhile p).length ≤ bytes.length :=
  (List.dropWhile_sublist p).length_le

/-- If the run is not empty, what is left behind it is shorter than the whole. -/
theorem length_dropWhile_lt {p : UInt8 → Bool} {bytes : List UInt8}
    (h : bytes.head?.any p = true) : (bytes.dropWhile p).length < bytes.length := by
  cases bytes with
  | nil => simp at h
  | cons b rest =>
    have hb : p b = true := by simpa using h
    have := length_dropWhile_le p rest
    simp only [List.dropWhile_cons, hb, if_true, List.length_cons]
    omega

/-- The digits in front of the point take up at least one byte. -/
theorem length_of_readWhole {bytes digits rest : List UInt8}
    (h : readWhole bytes = .ok (digits, rest)) : rest.length < bytes.length := by
  unfold readWhole at h
  split at h
  · grind
  · have := @length_dropWhile_lt isDigit bytes
    grind

/-- Behind a fraction no more is left than there was. -/
theorem length_of_readFraction {bytes digits rest : List UInt8}
    (h : readFraction bytes = .ok (digits, rest)) : rest.length ≤ bytes.length := by
  unfold readFraction at h
  split at h
  · have := length_dropWhile_le isDigit
    grind
  · grind

/-- Behind the digits of an exponent no more is left than there was. -/
theorem length_of_readSignedDigits {bytes rest : List UInt8} {e : Bool × List UInt8}
    (h : readSignedDigits bytes = .ok (e, rest)) : rest.length ≤ bytes.length := by
  have := length_dropWhile_le isDigit
  unfold readSignedDigits at h
  split at h <;> simp only [readSignedDigits.digitsAfter] at h <;> grind

/-- Behind an exponent no more is left than there was. -/
theorem length_of_readExponent {bytes rest : List UInt8} {e : Option (Bool × List UInt8)}
    (h : readExponent bytes = .ok (e, rest)) : rest.length ≤ bytes.length := by
  unfold readExponent at h
  split at h
  · rename_i r
    rcases hr : readSignedDigits r with f | ⟨e', r'⟩ <;> simp only [hr, Except.map] at h
    · cases h
    · cases h
      exact Nat.le_succ_of_le (length_of_readSignedDigits hr)
  · rename_i r
    rcases hr : readSignedDigits r with f | ⟨e', r'⟩ <;> simp only [hr, Except.map] at h
    · cases h
    · cases h
      exact Nat.le_succ_of_le (length_of_readSignedDigits hr)
  · cases h
    exact Nat.le_refl _

/-- A number behind its sign takes up at least one byte. -/
theorem length_of_readUnsigned {negative : Bool} {bytes rest : List UInt8} {n : Numeral}
    (h : readUnsigned negative bytes = .ok (n, rest)) : rest.length < bytes.length := by
  simp only [readUnsigned, bind, Except.bind] at h
  rcases hw : readWhole bytes with f | ⟨w, bytes₁⟩ <;> simp only [hw] at h
  · cases h
  rcases hf : readFraction bytes₁ with f | ⟨d, bytes₂⟩ <;> simp only [hf] at h
  · cases h
  rcases he : readExponent bytes₂ with f | ⟨e, bytes₃⟩ <;> simp only [he] at h
  · cases h
  cases h
  have := length_of_readWhole hw
  have := length_of_readFraction hf
  have := length_of_readExponent he
  omega

/-- A number takes up at least one byte. -/
theorem length_of_readNumeral {bytes rest : List UInt8} {n : Numeral}
    (h : readNumeral bytes = .ok (n, rest)) : rest.length < bytes.length := by
  unfold readNumeral at h
  split at h
  · exact Nat.lt_succ_of_lt (length_of_readUnsigned h)
  · exact length_of_readUnsigned h

/-- Every scalar takes its first byte at least. -/
theorem length_of_lexScalar {first : UInt8} {bytes rest : List UInt8} {leaf : Leaf}
    (h : lexScalar first bytes = some (leaf, some rest)) : rest.length ≤ bytes.length := by
  have literal : ∀ {value expected leaf rest}, lexLiteral value expected bytes = (leaf, some rest) →
      rest.length ≤ bytes.length := by
    intro value expected leaf rest h
    unfold lexLiteral at h
    split at h
    · next h' => cases h; exact length_of_readLiteral h'
    · cases h
  unfold lexScalar at h
  split at h
  · simp only [Option.some.injEq, lexString] at h
    split at h
    · next h' => cases h; exact length_of_skipString h'
    · cases h
  split at h
  · simp only [Option.some.injEq, lexNumber] at h
    split at h
    · cases h
    · next h' =>
      cases h
      exact Nat.le_of_lt_succ (length_of_readNumeral h')
  split at h
  · exact literal (Option.some.inj h)
  split at h
  · exact literal (Option.some.inj h)
  split at h
  · exact literal (Option.some.inj h)
  · cases h

def tokens : List UInt8 → List Token
  | [] => []
  | b :: rest =>
    match classify b with
    | .blank => tokens rest
    | .openArray => .openArray :: tokens rest
    | .closeArray => .closeArray :: tokens rest
    | .openObject => .openObject :: tokens rest
    | .closeObject => .closeObject :: tokens rest
    | .comma => .comma :: tokens rest
    | .colon => .colon :: tokens rest
    | .quote | .backslash | .other =>
      match _h : lexScalar b rest with
      | none => [.stray]
      -- behind such a leaf nothing can be told apart any more
      | some (leaf, none) => [.leaf leaf]
      | some (leaf, some after) => .leaf leaf :: tokens after
termination_by bytes => bytes.length
decreasing_by
  all_goals simp only [List.length_cons]
  all_goals first
    | exact Nat.lt_succ_of_le (length_of_lexScalar _h)
    | exact Nat.lt_succ_self _

end Sidecar.Json
