import Sidecar.Json.Printer
import Sidecar.Proofs.Json.Rereading
import Sidecar.Proofs.Json.Spelling

/-!
# What is printed is read back

The text that a value is printed as spells that value, if its numbers are integers of 64 bits
(`Integral.spells`). So a codec that reads back the values that it writes also reads back their text
(`Codec.Rereads.roundTrips`).
-/

namespace Sidecar.Json

open Grammar

/-! ## Bytes of characters -/

def encoded (chars : List Char) : List UInt8 :=
  chars.flatMap String.utf8EncodeChar

@[simp]
lemma encoded_nil : encoded [] = [] := rfl

@[simp]
lemma encoded_cons (c : Char) (chars : List Char) :
    encoded (c :: chars) = String.utf8EncodeChar c ++ encoded chars := rfl

/-- Two texts after each other have their bytes after each other. -/
@[simp]
lemma encoded_append (front back : List Char) :
    encoded (front ++ back) = encoded front ++ encoded back :=
  List.flatMap_append

/-- The text of a value has the bytes of the characters that are printed. -/
lemma toBytes_eq (value : Json) : value.toBytes = encoded (printChars value) := by
  rw [toBytes, Utf8.encode, print, String.toList_ofList]
  rfl

/-! ## Strings -/

/-- A character below the space is written with four hexadecimal digits, which spell it. -/
lemma encoded_control : ∀ n < 0x20, ∃ p q,
    encoded ['\\', 'u', '0', '0', hexChar (n / 16), hexChar n] = [0x5C, 0x75, 0x30, 0x30, p, q] ∧
      hexQuad? 0x30 0x30 p q = some n := by
  intro n hn
  refine ⟨UInt8.ofNat (hexChar (n / 16)).toNat, UInt8.ofNat (hexChar n).toNat, ?_⟩
  revert n
  decide

/-- The three ways in which a character stands in a string. -/
inductive IsEscaped (c : Char) : List UInt8 → Prop where
  | short {b e : UInt8} : b ≠ 0x75 → shortEscape? b = some e → String.utf8EncodeChar c = [e] →
    IsEscaped c [0x5C, b]
  | control {p q : UInt8} : c.toNat < 0x20 → hexQuad? 0x30 0x30 p q = some c.toNat →
    IsEscaped c [0x5C, 0x75, 0x30, 0x30, p, q]
  | plain : (∀ b ∈ String.utf8EncodeChar c, IsVerbatim b) → IsEscaped c (String.utf8EncodeChar c)

/-- Every character is escaped in one of the three ways, and read back from that. -/
lemma isEscaped (c : Char) : IsEscaped c (encoded (escapeChar c)) := by
  by_cases special : c ∈ ['"', '\\', '\n', '\r', '\t', '\x08', '\x0c']
  · simp only [List.mem_cons, List.not_mem_nil, or_false] at special
    rcases special with rfl | rfl | rfl | rfl | rfl | rfl | rfl
    all_goals exact .short (by decide) rfl rfl
  simp only [List.mem_cons, List.not_mem_nil, or_false, not_or] at special
  obtain ⟨quote, backslash, h⟩ := special
  by_cases control : c.toNat < 0x20
  · obtain ⟨p, q, bytes, digits⟩ := encoded_control c.toNat control
    have same : escapeChar c = ['\\', 'u', '0', '0', hexChar (c.toNat / 16), hexChar c.toNat] := by
      simp [escapeChar, quote, backslash, h, control]
    rw [same, bytes]
    exact .control control digits
  · have same : escapeChar c = [c] := by
      simp [escapeChar, quote, backslash, h, control]
    rw [same, encoded_cons, encoded_nil, List.append_nil]
    exact .plain (isVerbatim_of_plain (by omega) quote backslash)

variable {c : Char} {bytes rest : List UInt8}

/-- A character in any of the three ways is passed over. -/
lemma IsEscaped.skipString_eq (h : IsEscaped c bytes) : skipString (bytes ++ rest) = skipString rest := by
  cases h with
  | short other escape _ => exact skipString_escape other escape
  | control _ digits => exact skipString_codePoint digits
  | plain verbatim => exact skipString_verbatim verbatim

/-- A character in any of the three ways is read as its own bytes. -/
lemma IsEscaped.stringBytes_eq (h : IsEscaped c bytes) :
    stringBytes (bytes ++ rest) = (stringBytes rest).map (String.utf8EncodeChar c ++ ·) := by
  cases h with
  | short other escape same =>
    rw [same]
    exact stringBytes_escape other escape
  | control low digits =>
    rw [← Char.ofNat_toNat c]
    exact stringBytes_codePoint digits (by unfold IsLow; omega) (by unfold IsHigh; omega)
  | plain verbatim => exact stringBytes_verbatim verbatim

/-- All characters that have been escaped are passed over. -/
lemma skipString_escaped (chars : List Char) :
    skipString (encoded (chars.flatMap escapeChar) ++ rest) = skipString rest := by
  induction chars with
  | nil => rfl
  | cons c chars ih =>
    rw [List.flatMap_cons, encoded_append, List.append_assoc, (isEscaped c).skipString_eq, ih]

/-- All characters that have been escaped are read back, up to the closing quote. -/
lemma stringBytes_escaped (chars : List Char) :
    stringBytes (encoded (chars.flatMap escapeChar) ++ 0x22 :: rest) = .ok (encoded chars) := by
  induction chars with
  | nil => rfl
  | cons c chars ih =>
    rw [List.flatMap_cons, encoded_append, List.append_assoc, (isEscaped c).stringBytes_eq, ih]
    rfl

/-- A string is read back, whatever characters it has. -/
lemma isLeaf_printString (text : String) :
    IsLeaf (encoded (printString text)) (Scalar.toLeaf (.string text)) := by
  intro rest _
  have bytes : encoded (printString text) =
      0x22 :: (encoded (text.toList.flatMap escapeChar) ++ [0x22]) := by
    rw [printString, encoded_append, encoded_cons]
    rfl
  have skips : skipString (encoded (text.toList.flatMap escapeChar) ++ 0x22 :: rest) = .ok rest := by
    rw [skipString_escaped]
    rfl
  have kept : keepString (encoded (text.toList.flatMap escapeChar) ++ 0x22 :: rest) = .ok text := by
    have decoded : Utf8.decode? (encoded text.toList) = some text := Utf8.decode?_encode text
    rw [keepString, stringBytes_escaped]
    simp only [decoded, bind, Except.bind]
  have lex : lexString (encoded (text.toList.flatMap escapeChar) ++ 0x22 :: rest) =
      (Scalar.toLeaf (.string text), some rest) := by
    rw [lexString, skips, kept]
    rfl
  rw [bytes, List.cons_append, List.append_assoc, List.singleton_append]
  exact tokens_scalar (.inl rfl) (congrArg some lex)

/-! ## Integers -/

/-- A decimal digit is one byte. -/
lemma encoded_digitChar : ∀ n < 10, encoded [Nat.digitChar n] = [UInt8.ofNat (0x30 + n)] := by
  decide

/-- The byte of a decimal digit does not overflow. -/
lemma toNat_digit {n : Nat} (h : n < 10) : (UInt8.ofNat (0x30 + n)).toNat = 0x30 + n := by
  rw [UInt8.toNat_ofNat', Nat.mod_eq_of_lt (by omega)]

/-- One digit more makes a number ten times as large, and adds the digit. -/
lemma ofDigits_append (digits : List UInt8) (b : UInt8) :
    ofDigits (digits ++ [b]) = ofDigits digits * 10 + (b.toNat - 0x30) := by
  rw [ofDigits, List.foldl_append]
  rfl

/-- The digits of a number above zero: the first is not a zero, and together they spell the number. -/
lemma digits_of_pos (n : Nat) (pos : 0 < n) : ∃ b rest, encoded (Nat.toDigits 10 n) = b :: rest ∧
    0x31 ≤ b ∧ b ≤ 0x39 ∧ (∀ d ∈ rest, IsDigit d) ∧ ofDigits (b :: rest) = n := by
  -- the last digit is split off, and the others are those of a tenth
  induction n using Nat.strongRecOn with
  | ind n ih =>
    by_cases small : n < 10
    · have value := toNat_digit small
      rw [Nat.toDigits_of_lt_base small, encoded_digitChar n small]
      refine ⟨_, [], rfl, ?low, ?high, nofun, ?spelt⟩
      case low =>
        simp only [UInt8.le_iff_toNat_le, value, UInt8.reduceToNat]
        omega
      case high =>
        simp only [UInt8.le_iff_toNat_le, value, UInt8.reduceToNat]
        omega
      case spelt =>
        show 0 * 10 + ((UInt8.ofNat (0x30 + n)).toNat - 0x30) = n
        omega
    · obtain ⟨b, rest, bytes, low, high, digits, spelt⟩ := ih (n / 10) (by omega) (by omega)
      have last : n % 10 < 10 := Nat.mod_lt n (by decide)
      have value := toNat_digit last
      refine ⟨b, rest ++ [UInt8.ofNat (0x30 + n % 10)], ?bytes, low, high, ?digits, ?spelt⟩
      case bytes =>
        rw [Nat.toDigits_of_base_le (by decide) (by omega), encoded_append, bytes,
          encoded_digitChar _ last, List.cons_append]
      case digits =>
        intro d mem
        rcases List.mem_append.mp mem with mem | mem
        · exact digits d mem
        · simp only [List.mem_singleton.mp mem, IsDigit, UInt8.le_iff_toNat_le, value, UInt8.reduceToNat]
          omega
      case spelt =>
        rw [← List.cons_append, ofDigits_append, spelt, value]
        omega

/-- The digits of any number are digits by the grammar, and spell the number. -/
lemma digits_eq (n : Nat) :
    IsWhole (encoded (Nat.toDigits 10 n)) ∧ ofDigits (encoded (Nat.toDigits 10 n)) = n := by
  rcases Nat.eq_zero_or_pos n with rfl | pos
  · exact ⟨.zero, rfl⟩
  · obtain ⟨b, rest, bytes, low, high, digits, spelt⟩ := digits_of_pos n pos
    rw [bytes]
    exact ⟨.positive low high digits, spelt⟩

/-- The digits of a number are read as a numeral without fraction and exponent. -/
lemma readUnsigned_digits {n : Nat} {rest : List UInt8} (negative : Bool) (stops : Stops rest) :
    readUnsigned negative (encoded (Nat.toDigits 10 n) ++ rest) =
      .ok (⟨negative, encoded (Nat.toDigits 10 n), [], none⟩, rest) := by
  simp only [readUnsigned, (digits_eq n).1.readWhole_eq stops.noDigit, stops.endsWhole.readFraction_eq,
    stops.readExponent_eq, bind, Except.bind, pure, Except.pure]

/-- A number by the grammar is the scalar that its numeral stands for. -/
lemma isLeaf_of_readNumeral {text : List UInt8} {numeral : Numeral} {value : Number}
    (number : IsNumber text)
    (reads : ∀ rest, Stops rest → readNumeral (text ++ rest) = .ok (numeral, rest))
    (same : numeral.number? = some value) : IsLeaf text (Scalar.toLeaf (.number value)) := by
  obtain ⟨b, body, rfl, other, scalar⟩ := number.lexScalar_eq
  intro rest stops
  have lex : lexScalar b (body ++ rest) = some (Scalar.toLeaf (.number value), some rest) := by
    rw [scalar, lexNumber, reads rest stops]
    simp only [same]
    rfl
  exact tokens_scalar (.inr other) lex

/-- A natural number of 64 bits is read back. -/
lemma isLeaf_natural {n : Nat} (h : n < 0x10000000000000000) :
    IsLeaf (encoded (Nat.toDigits 10 n)) (Scalar.toLeaf (.number (.integer n))) := by
  obtain ⟨whole, spelt⟩ := digits_eq n
  have number : IsNumber (encoded (Nat.toDigits 10 n)) := by
    simpa using IsNumber.mk (.inl rfl) whole .none .none
  have reads : ∀ rest, Stops rest → readNumeral (encoded (Nat.toDigits 10 n) ++ rest) =
      .ok (⟨false, encoded (Nat.toDigits 10 n), [], none⟩, rest) := by
    intro rest stops
    rw [← readUnsigned_digits false stops, readNumeral]
    exact fun rest => whole.ne_minus
  refine isLeaf_of_readNumeral number reads ?_
  simp [Numeral.number?, spelt, UInt64.size, h]

/-- A negative integer of 64 bits is read back. -/
lemma isLeaf_negative {n : Nat} (pos : 0 < n) (h : n ≤ 0x8000000000000000) :
    IsLeaf (0x2D :: encoded (Nat.toDigits 10 n)) (Scalar.toLeaf (.number (.integer (-n)))) := by
  obtain ⟨whole, spelt⟩ := digits_eq n
  have number : IsNumber (0x2D :: encoded (Nat.toDigits 10 n)) := by
    simpa using IsNumber.mk (.inr rfl) whole .none .none
  refine isLeaf_of_readNumeral number (fun rest stops => readUnsigned_digits true stops) ?_
  simp [Numeral.number?, spelt, pos, h]

/-- An integer of 64 bits is read back. -/
lemma isLeaf_integer {value : Int} (h : (Number.integer value).InRange) :
    IsLeaf (encoded (Number.integer value).print) (Scalar.toLeaf (.number (.integer value))) := by
  obtain ⟨low, high⟩ := h
  cases value with
  | ofNat n =>
    have print : (Number.integer (.ofNat n)).print = Nat.toDigits 10 n := Nat.toList_repr
    rw [Int.ofNat_eq_natCast] at high
    rw [print]
    exact isLeaf_natural (by omega)
  | negSucc n =>
    have print : (Number.integer (.negSucc n)).print = '-' :: Nat.toDigits 10 (n + 1) := by
      rw [← Nat.toList_repr]
      show ("-" ++ Nat.repr (n + 1)).toList = _
      rw [String.toList_append]
      rfl
    rw [print]
    exact isLeaf_negative (by omega) (by omega)

/-! ## Values -/

/-- Every number of the value is an integer of 64 bits, signed or unsigned. -/
inductive Integral : Json → Prop where
  | null : Integral .null
  | bool (value : Bool) : Integral (.bool value)
  | integer {value : Int} : (Number.integer value).InRange → Integral (.number (.integer value))
  | string (value : String) : Integral (.string value)
  | array {items : List Json} : (∀ item ∈ items, Integral item) → Integral (.array items)
  | object {members : List (String × Json)} :
    (∀ member ∈ members, Integral member.2) → Integral (.object members)

/-- Items are printed with commas between their texts. -/
lemma encoded_printItems (items : List Json) :
    encoded (printItems items) = [0x2C].intercalate (items.map toBytes) := by
  induction items with
  | nil => rfl
  | cons item items ih =>
    cases items with
    | nil => rw [printItems, List.map_singleton, List.intercalate_singleton, toBytes_eq]
    | cons next items =>
      simp only [List.map_cons] at ih ⊢
      rw [printItems, encoded_append, encoded_cons, ih, List.intercalate_cons_cons, toBytes_eq item,
        List.append_assoc]
      · rfl
      · nofun

/-- Members are printed with commas between their texts. -/
lemma encoded_printMembers (members : List (String × Json)) :
    encoded (printMembers members) = [0x2C].intercalate (members.map fun m => encoded (printMember m)) := by
  induction members with
  | nil => rfl
  | cons member members ih =>
    cases members with
    | nil => rw [printMembers, List.map_singleton, List.intercalate_singleton]
    | cons next members =>
      simp only [List.map_cons] at ih ⊢
      rw [printMembers, encoded_append, encoded_cons, ih, List.intercalate_cons_cons, List.append_assoc]
      · rfl
      · nofun

/-- A member is printed as its name and its value, and read back as both. -/
lemma spellsMember_print {member : String × Json} (h : Spells member.2.toBytes member.2.toNode) :
    SpellsMember (encoded (printMember member)) (memberNode member) := by
  obtain ⟨name, value⟩ := member
  have bytes : encoded (printMember (name, value)) =
      encoded (printString name) ++ 0x3A :: value.toBytes := by
    rw [printMember, encoded_append, encoded_cons, toBytes_eq]
    rfl
  rw [bytes]
  exact spellsMember (isLeaf_printString name) rfl h

/-- The text that a value is printed as is read as that value. -/
theorem Integral.spells {value : Json} (h : Integral value) : Spells value.toBytes value.toNode := by
  induction h with
  | null => exact isLeaf_null.spells
  | bool value =>
    cases value with
    | true => exact isLeaf_true.spells
    | false => exact isLeaf_false.spells
  | integer h =>
    rw [toBytes_eq]
    exact (isLeaf_integer h).spells
  | string value =>
    rw [toBytes_eq]
    exact (isLeaf_printString value).spells
  | @array items _ ih =>
    have bytes : (Json.array items).toBytes = 0x5B :: [0x2C].intercalate (items.map toBytes) ++ [0x5D] := by
      rw [toBytes_eq, printChars, encoded_append, encoded_cons, encoded_printItems]
      rfl
    rw [bytes, toNode, itemNodes_eq]
    refine spells_items ?_
    rw [List.forall₂_map_left_iff, List.forall₂_map_right_iff, List.forall₂_same]
    exact ih
  | @object members _ ih =>
    have bytes : (Json.object members).toBytes =
        objectText (members.map fun m => encoded (printMember m)) := by
      rw [toBytes_eq, printChars, encoded_append, encoded_cons, encoded_printMembers]
      rfl
    rw [bytes, toNode, memberNodes_eq]
    refine spells_objectText ?_
    rw [List.forall₂_map_left_iff, List.forall₂_map_right_iff, List.forall₂_same]
    exact fun member mem => spellsMember_print (ih member mem)

/-- The text that a plain value is printed as denotes that value. -/
theorem Integral.denotes {levels : Nat} {value : Json} (h : Integral value) (plain : Plain levels value) :
    Denotes value.toBytes value := by
  have parsed := h.spells.parse_eq
  constructor
  case isJson =>
    rw [parsed]
    exact skip_toNode value
  case ends => rw [parsed]
  case kept =>
    rw [parsed]
    exact ⟨levels + 1, Node.keep_toNode plain (Nat.lt_succ_self levels)⟩

/-! ## Codecs -/

/-- A codec decodes a text as it reads the node that the text spells. -/
lemma Spells.decode_eq {α : Type} {text : List UInt8} {node : Node} (h : Spells text node)
    (codec : Codec α) : codec.decode text = codec.read nestingLimit node := by
  rw [Codec.decode, h.parse_eq]
  cases codec.read nestingLimit node <;> rfl

namespace Codec

variable {α β σ : Type} {codec : Codec α} {levels : Nat}

/-- The codec writes no numbers but integers of 64 bits. -/
def WritesIntegral (codec : Codec α) : Prop := ∀ value, Integral (codec.write value)

/-- What the codec writes is read back from its text. -/
def RoundTrips (codec : Codec α) : Prop := ∀ value, codec.decode (codec.write value).toBytes = .ok value

/-- A codec that reads back its values from alike ones reads them back from their text, if they hold no
number that the text may change. -/
theorem Rereads.roundTrips (h : codec.Rereads levels) (shallow : levels < nestingLimit)
    (integral : codec.WritesIntegral) : codec.RoundTrips := by
  intro value
  rw [(integral value).spells.decode_eq]
  exact h.reads shallow (.refl _)

/-- A string is written without numbers. -/
@[simp]
lemma string_writesIntegral : string.WritesIntegral := fun _ => .string _

/-- Refining a codec does not change which numbers are written. -/
lemma WritesIntegral.refine {read? : α → Option β} {write : β → α} (h : codec.WritesIntegral) :
    (codec.refine read? write).WritesIntegral :=
  fun value => h (write value)

/-- An unsigned integer of 32 bits fits. -/
@[simp]
lemma uint32_writesIntegral : uint32.WritesIntegral := by
  intro value
  have high := value.toNat_lt
  have range : (Number.integer value.toNat).InRange := ⟨by omega, by omega⟩
  exact .integer range

/-- An unsigned integer of 64 bits fits. -/
@[simp]
lemma uint64_writesIntegral : uint64.WritesIntegral := by
  intro value
  have high := value.toNat_lt
  have range : (Number.integer value.toNat).InRange := ⟨by omega, by omega⟩
  exact .integer range

/-- A signed integer of 64 bits fits. -/
@[simp]
lemma int64_writesIntegral : int64.WritesIntegral := by
  intro value
  have low := value.le_toInt
  have high := value.toInt_lt
  have range : (Number.integer value.toInt).InRange := ⟨by omega, by omega⟩
  exact .integer range

/-- One of several values is written as its name, without numbers. -/
@[simp]
lemma choice_writesIntegral (name : α → String) (values : List α) :
    (choice name values).WritesIntegral :=
  fun _ => .string _

/-- What may be left out is written with the same numbers, or as null. -/
@[simp]
lemma WritesIntegral.optional (h : codec.WritesIntegral) : codec.optional.WritesIntegral := by
  intro value
  cases value with
  | none => exact .null
  | some value => exact h value

/-- A list is written with the numbers of its items. -/
@[simp]
lemma WritesIntegral.list (h : codec.WritesIntegral) : (Codec.list codec).WritesIntegral := by
  refine fun values => .array fun item mem => ?_
  obtain ⟨value, -, rfl⟩ := List.mem_map.mp mem
  exact h value

end Codec

namespace Form

variable {σ α β : Type} {name : String} {codec : Codec β}

/-- Every field writes no numbers but integers of 64 bits. -/
def WritesIntegral : {α : Type} → Form σ α → Prop
  | _, .make _ => True
  | _, .blank before field => before.WritesIntegral ∧ field.codec.WritesIntegral

/-- The members of a record are written with the numbers of its fields. -/
lemma WritesIntegral.members {form : Form σ α} (h : form.WritesIntegral) (record : σ) :
    ∀ member ∈ form.members record, Integral member.2 := by
  induction form with
  | make => nofun
  | blank before field ih =>
    intro member mem
    rcases List.mem_append.mp mem with earlier | own
    · exact ih h.1 member earlier
    · split at own
      · cases own
      · cases List.mem_singleton.mp own
        exact h.2 _

/-- A form without fields writes no numbers. -/
@[simp]
lemma writesIntegral_make (build : α) : (make build : Form σ α).WritesIntegral := trivial

/-- A form with one field more writes the numbers of that field too. -/
@[simp]
lemma writesIntegral_field {before : Form σ (β → α)} {get : σ → β} :
    (before.field name codec get).WritesIntegral ↔ before.WritesIntegral ∧ codec.WritesIntegral := .rfl

/-- So it does if the field has a default. -/
@[simp]
lemma writesIntegral_fieldOr {before : Form σ (β → α)} {get : σ → β} {default : β} :
    (before.fieldOr name codec default get).WritesIntegral ↔
      before.WritesIntegral ∧ codec.WritesIntegral := .rfl

/-- So it does if the field is left out when it has no value. -/
@[simp]
lemma writesIntegral_omittable {before : Form σ (Option β → α)} {get : σ → Option β} :
    (before.omittable name codec get).WritesIntegral ↔
      before.WritesIntegral ∧ codec.optional.WritesIntegral := .rfl

end Form

/-- A record is written with the numbers of its fields. -/
@[simp]
lemma Codec.record_writesIntegral {σ : Type} {form : Form σ σ} (h : form.WritesIntegral) :
    (Codec.record form).WritesIntegral :=
  fun record => .object (h.members record)

end Sidecar.Json
