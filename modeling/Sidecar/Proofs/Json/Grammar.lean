import Mathlib.Tactic.Lemma
import Sidecar.Json.Token

/-!
# The grammar of JSON text

Which bytes are JSON, said without a reader: `Derives` has a rule for each production of the grammar,
over the bytes of text in UTF-8. A value has no blanks around it, so that the items of an array are
the texts between its brackets and commas less the blanks beside them.

The lemmas tell the parts that the bytes of a production play outside strings (`ByteClass`): those of
numbers and literals play none, and inside a string only an escape has a backslash and only its end
a quote.
-/

namespace Sidecar.Json.Grammar

/-! ## Productions without parts -/

def IsBlank (b : UInt8) : Prop :=
  b = 0x20 ∨ b = 0x09 ∨ b = 0x0A ∨ b = 0x0D

def Blanks (text : List UInt8) : Prop :=
  ∀ b ∈ text, IsBlank b

def IsDigit (b : UInt8) : Prop :=
  0x30 ≤ b ∧ b ≤ 0x39

def IsHexDigit (b : UInt8) : Prop :=
  IsDigit b ∨ 0x41 ≤ b ∧ b ≤ 0x46 ∨ 0x61 ≤ b ∧ b ≤ 0x66

def Digits (text : List UInt8) : Prop :=
  text ≠ [] ∧ ∀ b ∈ text, IsDigit b

/-- The digits before the point: a zero alone, or digits that do not start with one. -/
inductive IsWhole : List UInt8 → Prop where
  | zero : IsWhole [0x30]
  | positive {b : UInt8} {rest : List UInt8} :
    0x31 ≤ b → b ≤ 0x39 →
    (∀ d ∈ rest, IsDigit d) →
    IsWhole (b :: rest)

inductive IsFraction : List UInt8 → Prop where
  | none : IsFraction []
  | some {digits : List UInt8} :
    Digits digits →
    IsFraction (0x2E :: digits)

inductive IsExponent : List UInt8 → Prop where
  | none : IsExponent []
  | some {mark : UInt8} {sign digits : List UInt8} :
    mark = 0x65 ∨ mark = 0x45 →
    sign = [] ∨ sign = [0x2B] ∨ sign = [0x2D] →
    Digits digits →
    IsExponent (mark :: sign ++ digits)

inductive IsNumber : List UInt8 → Prop where
  | mk {minus whole fraction exponent : List UInt8} :
    minus = [] ∨ minus = [0x2D] →
    IsWhole whole →
    IsFraction fraction →
    IsExponent exponent →
    IsNumber (minus ++ whole ++ fraction ++ exponent)

/-- A character of a string: one that stands for itself, written in UTF-8, or an escape. -/
inductive IsCharacter : List UInt8 → Prop where
  | plain {c : Char} :
    0x20 ≤ c.toNat → c ≠ '"' → c ≠ '\\' →
    IsCharacter (String.utf8EncodeChar c)
  | escape {b : UInt8} :
    b ∈ [0x22, 0x5C, 0x2F, 0x62, 0x66, 0x6E, 0x72, 0x74] →
    IsCharacter [0x5C, b]
  | codePoint {a b c d : UInt8} :
    IsHexDigit a → IsHexDigit b → IsHexDigit c → IsHexDigit d →
    IsCharacter [0x5C, 0x75, a, b, c, d]

inductive IsString : List UInt8 → Prop where
  | mk {characters : List (List UInt8)} :
    (∀ c ∈ characters, IsCharacter c) →
    IsString (0x22 :: characters.flatten ++ [0x22])

/-! ## Values -/

/-- What the rules are about. -/
inductive Symbol where
  | value
  /-- An array with the texts of its items. -/
  | array (items : List (List UInt8))
  /-- The items of an array, one at least, with the commas and blanks between its brackets. -/
  | items (texts : List (List UInt8))
  | member
  | members

/-- The texts that the grammar derives. -/
inductive Derives : Symbol → List UInt8 → Prop where
  | null : Derives .value [0x6E, 0x75, 0x6C, 0x6C]
  | true : Derives .value [0x74, 0x72, 0x75, 0x65]
  | false : Derives .value [0x66, 0x61, 0x6C, 0x73, 0x65]
  | number {text : List UInt8} :
    IsNumber text →
    Derives .value text
  | string {text : List UInt8} :
    IsString text →
    Derives .value text
  | arrayValue {items : List (List UInt8)} {text : List UInt8} :
    Derives (.array items) text →
    Derives .value text
  | emptyArray {v : List UInt8} :
    Blanks v →
    Derives (.array []) (0x5B :: v ++ [0x5D])
  | array {items : List (List UInt8)} {body : List UInt8} :
    Derives (.items items) body →
    Derives (.array items) (0x5B :: body ++ [0x5D])
  | lastItem {item v w : List UInt8} :
    Blanks v → Derives .value item → Blanks w →
    Derives (.items [item]) (v ++ item ++ w)
  | nextItem {item v w rest : List UInt8} {items : List (List UInt8)} :
    Blanks v → Derives .value item → Blanks w →
    Derives (.items items) rest →
    Derives (.items (item :: items)) (v ++ item ++ w ++ 0x2C :: rest)
  | emptyObject {v : List UInt8} :
    Blanks v →
    Derives .value (0x7B :: v ++ [0x7D])
  | object {body : List UInt8} :
    Derives .members body →
    Derives .value (0x7B :: body ++ [0x7D])
  | lastMember {text : List UInt8} :
    Derives .member text →
    Derives .members text
  | nextMember {text rest : List UInt8} :
    Derives .member text →
    Derives .members rest →
    Derives .members (text ++ 0x2C :: rest)
  | member {name value v w x y : List UInt8} :
    Blanks v → IsString name → Blanks w →
    Blanks x → Derives .value value → Blanks y →
    Derives .member (v ++ name ++ w ++ 0x3A :: x ++ value ++ y)

/-- The text of a value, without blanks around it. -/
abbrev IsValue (text : List UInt8) : Prop := Derives .value text

/-- The text of an array, with the texts of its items. -/
abbrev IsArray (items : List (List UInt8)) (text : List UInt8) : Prop := Derives (.array items) text

/-- A JSON text: a value with blanks around it. -/
def IsText (text : List UInt8) : Prop :=
  ∃ v value w, Blanks v ∧ IsValue value ∧ Blanks w ∧ text = v ++ value ++ w

/-- A value is a text by itself, with no blanks around it. -/
lemma Derives.isText {value : List UInt8} (h : IsValue value) : IsText value :=
  ⟨[], value, [], nofun, h, nofun, by simp⟩

/-- What stands between the commas of a list of items is a value each. -/
lemma isValue_of_mem_items {items : List (List UInt8)} {text : List UInt8}
    (h : Derives (.items items) text) : ∀ item ∈ items, IsValue item := by
  generalize e : Symbol.items items = symbol at h
  induction h generalizing items with
  | lastItem _ h _ =>
    cases e
    exact List.forall_mem_singleton.mpr h
  | nextItem _ h _ _ _ ih =>
    cases e
    exact List.forall_mem_cons.mpr ⟨h, ih rfl⟩
  | _ => cases e

/-- The items of an array are values. -/
lemma isValue_of_mem_array {items : List (List UInt8)} {text : List UInt8}
    (h : IsArray items text) : ∀ item ∈ items, IsValue item := by
  cases h with
  | emptyArray _ => nofun
  | array h => exact isValue_of_mem_items h

/-! ## The parts of bytes -/

/-- The blanks of the grammar are the bytes that the scanner takes for blanks. -/
lemma isBlank_iff {b : UInt8} : IsBlank b ↔ classify b = .blank := by
  unfold IsBlank classify
  grind

/-- The scanner takes just one byte for a quote. -/
lemma classify_eq_quote {b : UInt8} : classify b = .quote ↔ b = 0x22 := by
  unfold classify
  grind

/-- It takes just one byte for a backslash. -/
lemma classify_eq_backslash {b : UInt8} : classify b = .backslash ↔ b = 0x5C := by
  unfold classify
  grind

/-- It takes just one byte for the opening bracket of an array. -/
lemma classify_eq_openArray {b : UInt8} : classify b = .openArray ↔ b = 0x5B := by
  unfold classify
  grind

/-- It takes just one byte for the closing bracket of an array. -/
lemma classify_eq_closeArray {b : UInt8} : classify b = .closeArray ↔ b = 0x5D := by
  unfold classify
  grind

/-- It takes just one byte for a comma. -/
lemma classify_eq_comma {b : UInt8} : classify b = .comma ↔ b = 0x2C := by
  unfold classify
  grind

/-- The bytes of a character beyond ASCII mean nothing to the scanner. -/
lemma classify_of_high {b : UInt8} (h : 0x80 ≤ b) : classify b = .other := by
  have h := UInt8.le_iff_toNat_le.mp h
  unfold classify
  grind

/-- A digit means nothing to the scanner. -/
lemma classify_of_isDigit {b : UInt8} (h : IsDigit b) : classify b = .other := by
  obtain ⟨low, high⟩ := h
  have low' := UInt8.le_iff_toNat_le.mp low
  have high' := UInt8.le_iff_toNat_le.mp high
  unfold classify
  grind

/-- Nor does a hexadecimal digit, as it stands in an escape. -/
lemma classify_of_isHexDigit {b : UInt8} (h : IsHexDigit b) : classify b = .other := by
  rcases h with digit | ⟨low, high⟩ | ⟨low, high⟩
  · exact classify_of_isDigit digit
  all_goals
    have low' := UInt8.le_iff_toNat_le.mp low
    have high' := UInt8.le_iff_toNat_le.mp high
    unfold classify
    grind

/-- Bytes that play no part outside strings. -/
def Ordinary (text : List UInt8) : Prop :=
  ∀ b ∈ text, classify b = .other

/-- Two texts that mean nothing to the scanner mean nothing together. -/
lemma Ordinary.append {front back : List UInt8} (h : Ordinary front) (h' : Ordinary back) :
    Ordinary (front ++ back) := by
  intro b hb
  rcases List.mem_append.mp hb with hb | hb
  · exact h b hb
  · exact h' b hb

lemma Ordinary.cons {b : UInt8} {rest : List UInt8} (h : classify b = .other)
    (h' : Ordinary rest) : Ordinary (b :: rest) := by
  intro x hx
  cases hx with
  | head => exact h
  | tail _ hx => exact h' x hx

lemma Ordinary.nil : Ordinary [] := nofun

/-- Digits mean nothing to the scanner. -/
lemma ordinary_of_digits {text : List UInt8} (h : ∀ b ∈ text, IsDigit b) : Ordinary text :=
  fun b hb => classify_of_isDigit (h b hb)

/-- The digits in front of the point mean nothing to the scanner, and there are some. -/
lemma IsWhole.ordinary {text : List UInt8} (h : IsWhole text) : Ordinary text ∧ text ≠ [] := by
  cases h with
  | zero => exact ⟨.cons rfl .nil, nofun⟩
  | positive low high rest =>
    refine ⟨.cons (classify_of_isDigit ⟨?_, high⟩) (ordinary_of_digits rest), nofun⟩
    exact UInt8.le_trans (by decide) low

/-- The literal null means nothing to the scanner. -/
lemma ordinary_null : Ordinary [0x6E, 0x75, 0x6C, 0x6C] :=
  .cons rfl (.cons rfl (.cons rfl (.cons rfl .nil)))

/-- The literal true means nothing to the scanner. -/
lemma ordinary_true : Ordinary [0x74, 0x72, 0x75, 0x65] :=
  .cons rfl (.cons rfl (.cons rfl (.cons rfl .nil)))

/-- The literal false means nothing to the scanner. -/
lemma ordinary_false : Ordinary [0x66, 0x61, 0x6C, 0x73, 0x65] :=
  .cons rfl (.cons rfl (.cons rfl (.cons rfl (.cons rfl .nil))))

/-- A number means nothing to the scanner, and it is not empty. -/
lemma IsNumber.ordinary {text : List UInt8} (h : IsNumber text) : Ordinary text ∧ text ≠ [] := by
  cases h with
  | @mk minus whole fraction exponent hm hw hf he =>
    obtain ⟨whole, nonempty⟩ := hw.ordinary
    have minus : Ordinary minus := by
      rcases hm with rfl | rfl
      · exact .nil
      · exact .cons rfl .nil
    have fraction : Ordinary fraction := by
      cases hf with
      | none => exact .nil
      | some digits => exact .cons rfl (ordinary_of_digits digits.2)
    have exponent : Ordinary exponent := by
      cases he with
      | none => exact .nil
      | some mark sign digits =>
        refine .append (.cons ?_ ?_) (ordinary_of_digits digits.2)
        · rcases mark with rfl | rfl <;> rfl
        · rcases sign with rfl | rfl | rfl
          · exact .nil
          · exact .cons rfl .nil
          · exact .cons rfl .nil
    refine ⟨((minus.append whole).append fraction).append exponent, ?_⟩
    simp [nonempty]

/-- A byte of a character beyond ASCII is above the ASCII characters. -/
lemma high_of_mem_utf8EncodeChar {c : Char} (h : 0x7F < c.val.toNat) {b : UInt8}
    (hb : b ∈ String.utf8EncodeChar c) : 0x80 ≤ b := by
  -- every byte of the longer encodings has 0x80 or more added to it
  have tail {n : Nat} (low : 0x80 ≤ n) (high : n < 256) (e : b = UInt8.ofNat n) : 0x80 ≤ b := by
    rw [e, UInt8.le_iff_toNat_le, UInt8.toNat_ofNat', Nat.mod_eq_of_lt high]
    exact low
  rw [String.utf8EncodeChar, if_neg (by omega)] at hb
  split at hb
  · simp only [List.mem_cons, List.not_mem_nil, or_false] at hb
    rcases hb with e | e
    all_goals exact tail (by omega) (by omega) e
  split at hb
  · simp only [List.mem_cons, List.not_mem_nil, or_false] at hb
    rcases hb with e | e | e
    all_goals exact tail (by omega) (by omega) e
  · simp only [List.mem_cons, List.not_mem_nil, or_false] at hb
    rcases hb with e | e | e | e
    all_goals exact tail (by omega) (by omega) e

/-- The bytes of a character that stands for itself are neither quotes nor backslashes. -/
lemma classify_of_plain {c : Char} (hq : c ≠ '"') (hb : c ≠ '\\') {b : UInt8}
    (h : b ∈ String.utf8EncodeChar c) : classify b ≠ .quote ∧ classify b ≠ .backslash := by
  by_cases ascii : c.val.toNat ≤ 0x7F
  · have quote : c.val.toNat ≠ 0x22 := fun e => hq (Char.ext (UInt32.toNat_inj.mp e))
    have backslash : c.val.toNat ≠ 0x5C := fun e => hb (Char.ext (UInt32.toNat_inj.mp e))
    rw [String.utf8EncodeChar, if_pos ascii, List.mem_singleton] at h
    have value : b.toNat = c.val.toNat := by
      rw [h, UInt8.toNat_ofNat', Nat.mod_eq_of_lt (by omega)]
    refine ⟨fun e => quote ?_, fun e => backslash ?_⟩
    · rw [← value, classify_eq_quote.mp e]
      rfl
    · rw [← value, classify_eq_backslash.mp e]
      rfl
  · rw [classify_of_high (high_of_mem_utf8EncodeChar (by omega) h)]
    exact ⟨nofun, nofun⟩

end Sidecar.Json.Grammar
