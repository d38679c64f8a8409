/-!
# UTF-8

Text crosses the wire as bytes. `Utf8.encode` writes it, `Utf8.decode?` reads it back and refuses
what no text is written as, and `Utf8.lossy` reads any bytes, with a replacement character for each
ill-formed run. Main statement: `decode?_encode`.
-/

namespace Sidecar.Utf8

def encode (text : String) : List UInt8 :=
  text.toList.flatMap String.utf8EncodeChar

/-- The text that the bytes spell, if they are well formed. -/
def decode? (bytes : List UInt8) : Option String :=
  String.fromUTF8? bytes.toByteArray

/-- What was written is read back. -/
theorem decode?_encode (text : String) : decode? (encode text) = some text := by
  have h : (encode text).toByteArray = text.toByteArray := by
    rw [← String.ofList_toList (s := text), String.toByteArray_ofList, String.ofList_toList]
    rfl
  simp only [decode?, String.fromUTF8?, h, text.isValidUTF8, dite_true]
  rfl

/-- How many tail bytes follow a first byte, if some character starts with it. -/
def tailCount? (lead : UInt8) : Option Nat :=
  if lead < 0x80 then some 0
  else if lead < 0xC2 then none
  else if lead < 0xE0 then some 1
  else if lead < 0xF0 then some 2
  else if lead < 0xF5 then some 3
  else none

/-- The least and the greatest byte that may follow a first byte. -/
def tailRange (lead : UInt8) : UInt8 × UInt8 :=
  if lead = 0xE0 then (0xA0, 0xBF)
  else if lead = 0xED then (0x80, 0x9F)
  else if lead = 0xF0 then (0x90, 0xBF)
  else if lead = 0xF4 then (0x80, 0x8F)
  else (0x80, 0xBF)

/-- Takes at most `count` tail bytes, the first of which has a range of its own. -/
def takeTails : (count : Nat) → (range : UInt8 × UInt8) → List UInt8 → List UInt8 × List UInt8
  | 0, _, rest => ([], rest)
  | _ + 1, _, [] => ([], [])
  | count + 1, (low, high), b :: rest =>
    if low ≤ b && b ≤ high then
      let (tails, rest) := takeTails count (0x80, 0xBF) rest
      (b :: tails, rest)
    else ([], b :: rest)

/-- The code point of a first byte and its tail bytes, six bits for each of these. -/
def codePoint (lead : UInt8) (tails : List UInt8) : Nat :=
  let start := lead.toNat % Nat.pow 2 (if tails.isEmpty then 7 else 6 - tails.length)
  tails.foldl (fun n b => n * 64 + b.toNat % 64) start

/-- Reads the character that starts with `lead`. Where there is none, what is passed over is the
longest run of bytes that some character starts with, and at least the first byte. -/
def next (lead : UInt8) (rest : List UInt8) : Option Char × List UInt8 :=
  match tailCount? lead with
  | none => (none, rest)
  | some count =>
    let (tails, rest) := takeTails count (tailRange lead) rest
    (if tails.length = count then some (Char.ofNat (codePoint lead tails)) else none, rest)

/-- The bytes that continue a character are taken off the front. -/
theorem length_takeTails_le (count : Nat) (range : UInt8 × UInt8) (bytes : List UInt8) :
    (takeTails count range bytes).2.length ≤ bytes.length := by
  fun_induction takeTails count range bytes with
  | case1 => simp
  | case2 => simp
  | case3 count low high b rest h tails rest' e ih => simp_all; omega
  | case4 => simp

/-- A character takes nothing but bytes that are there. -/
theorem length_next_le (lead : UInt8) (rest : List UInt8) :
    (next lead rest).2.length ≤ rest.length := by
  unfold next
  split
  · simp
  · exact length_takeTails_le _ _ _

/-- The characters of any bytes, each ill-formed run read as U+FFFD. -/
def lossyChars : List UInt8 → List Char
  | [] => []
  | b :: rest => (next b rest).1.getD '\uFFFD' :: lossyChars (next b rest).2
termination_by bytes => bytes.length
decreasing_by
  have := length_next_le b rest
  simp only [List.length_cons]
  omega

/-- The text of any bytes, each ill-formed run read as U+FFFD. -/
def lossy (bytes : List UInt8) : String :=
  String.ofList (lossyChars bytes)

end Sidecar.Utf8
