import Sidecar.Proofs.Json.Grammar

/-!
# Strings and numbers of the grammar are read

A string of the grammar is passed over to its closing quote, and what keeping it gives does not depend
on the text behind that (`IsString.lexString_eq`). A number is read up to the first byte that cannot go
on with it (`IsNumber.lexNumber_eq`).
-/

namespace Sidecar.Json.Grammar

variable {b e : UInt8} {character text tail : List UInt8}

/-! ## Characters that stand for themselves -/

/-- A byte that stands for itself in a string. -/
structure IsVerbatim (b : UInt8) : Prop where
  quote : b ≠ 0x22
  backslash : b ≠ 0x5C
  visible : ¬b < 0x20

/-- A character that need not be escaped stands in a string as its bytes. -/
lemma isVerbatim_of_plain {c : Char} (visible : 0x20 ≤ c.toNat) (quote : c ≠ '"')
    (backslash : c ≠ '\\') : ∀ b ∈ String.utf8EncodeChar c, IsVerbatim b := by
  intro b mem
  obtain ⟨noQuote, noBackslash⟩ := classify_of_plain quote backslash mem
  refine ⟨fun e => noQuote (classify_eq_quote.mpr e),
    fun e => noBackslash (classify_eq_backslash.mpr e), fun low => ?_⟩
  have low := UInt8.lt_iff_toNat_lt.mp low
  by_cases ascii : c.val.toNat ≤ 0x7F
  · rw [String.utf8EncodeChar, if_pos ascii, List.mem_singleton] at mem
    rw [mem, UInt8.toNat_ofNat', Nat.mod_eq_of_lt (by omega)] at low
    exact absurd low (Nat.not_lt.mpr visible)
  · have high := UInt8.le_iff_toNat_le.mp (high_of_mem_utf8EncodeChar (by omega) mem)
    simp only [UInt8.reduceToNat] at low high
    omega

/-- Bytes that stand for themselves are passed over. -/
lemma skipString_verbatim (h : ∀ b ∈ text, IsVerbatim b) :
    skipString (text ++ tail) = skipString tail := by
  induction text with
  | nil => rfl
  | cons b text ih =>
    obtain ⟨first, later⟩ := List.forall_mem_cons.mp h
    rw [List.cons_append, skipString, if_neg first.quote, if_neg first.visible, ih later]
    exact first.backslash

/-- Bytes that stand for themselves are read as they are. -/
lemma stringBytes_verbatim (h : ∀ b ∈ text, IsVerbatim b) :
    stringBytes (text ++ tail) = (stringBytes tail).map (text ++ ·) := by
  induction text with
  | nil =>
    rw [List.nil_append]
    cases stringBytes tail <;> rfl
  | cons b text ih =>
    obtain ⟨first, later⟩ := List.forall_mem_cons.mp h
    rw [List.cons_append, stringBytes, if_neg first.quote, if_neg first.visible, ih later]
    · cases stringBytes tail <;> rfl
    · exact first.backslash

/-! ## Escapes -/

/-- What an escape of two characters has behind its backslash. -/
lemma shortEscape?_of_mem (h : b ∈ [0x22, 0x5C, 0x2F, 0x62, 0x66, 0x6E, 0x72, 0x74]) :
    b ≠ 0x75 ∧ ∃ e, shortEscape? b = some e := by
  simp only [List.mem_cons, List.not_mem_nil, or_false] at h
  rcases h with rfl | rfl | rfl | rfl | rfl | rfl | rfl | rfl
  all_goals exact ⟨by decide, _, rfl⟩

/-- An escape of two characters is passed over. -/
lemma skipString_escape (other : b ≠ 0x75) (escape : shortEscape? b = some e) :
    skipString (0x5C :: b :: tail) = skipString tail := by
  rw [skipString, escape, Option.isSome_some, if_pos rfl]
  · exact fun _ _ _ _ _ same _ => other same
  · exact other

/-- An escape of two characters is read as the byte that it stands for. -/
lemma stringBytes_escape (other : b ≠ 0x75) (escape : shortEscape? b = some e) :
    stringBytes (0x5C :: b :: tail) = (stringBytes tail).map (e :: ·) := by
  rw [stringBytes, escape]
  · exact fun _ _ _ _ _ same _ => other same
  · exact other

def IsLow (n : Nat) : Prop := 0xDC00 ≤ n ∧ n ≤ 0xDFFF

def IsHigh (n : Nat) : Prop := 0xD800 ≤ n ∧ n ≤ 0xDBFF

section

variable {a b c d a' b' c' d' : UInt8} {n m : Nat}

/-- Every hexadecimal digit has a value. -/
lemma hexDigit?_of_isHexDigit (h : IsHexDigit b) : ∃ n, hexDigit? b = some n := by
  rw [← Option.isSome_iff_exists]
  unfold IsHexDigit IsDigit at h
  unfold hexDigit?
  grind

/-- Four hexadecimal digits have a value. -/
lemma hexQuad?_of_isHexDigit (ha : IsHexDigit a) (hb : IsHexDigit b) (hc : IsHexDigit c)
    (hd : IsHexDigit d) : ∃ n, hexQuad? a b c d = some n := by
  obtain ⟨a', ha⟩ := hexDigit?_of_isHexDigit ha
  obtain ⟨b', hb⟩ := hexDigit?_of_isHexDigit hb
  obtain ⟨c', hc⟩ := hexDigit?_of_isHexDigit hc
  obtain ⟨d', hd⟩ := hexDigit?_of_isHexDigit hd
  exact ⟨((a' * 16 + b') * 16 + c') * 16 + d', by simp [hexQuad?, ha, hb, hc, hd]⟩

/-- An escape with a code is passed over, whatever the code is. -/
lemma skipString_codePoint (digits : hexQuad? a b c d = some n) :
    skipString (0x5C :: 0x75 :: a :: b :: c :: d :: tail) = skipString tail := by
  rw [skipString, digits, Option.isSome_some, if_pos rfl]

/-- A code that is no half of a pair is read as the bytes of its character. -/
lemma stringBytes_codePoint (digits : hexQuad? a b c d = some n) (low : ¬IsLow n) (high : ¬IsHigh n) :
    stringBytes (0x5C :: 0x75 :: a :: b :: c :: d :: tail) =
      (stringBytes tail).map (String.utf8EncodeChar (Char.ofNat n) ++ ·) := by
  unfold IsLow at low
  unfold IsHigh at high
  rw [stringBytes.eq_def]
  simp only [digits, Bool.and_eq_true, decide_eq_true_eq, if_neg low, if_neg high]

/-- The second half of a pair cannot come first. -/
lemma stringBytes_low (digits : hexQuad? a b c d = some n) (low : IsLow n) :
    stringBytes (0x5C :: 0x75 :: a :: b :: c :: d :: tail) = .error .malformed := by
  unfold IsLow at low
  rw [stringBytes.eq_def]
  simp only [digits, Bool.and_eq_true, decide_eq_true_eq, if_pos low]

/-- The two halves of a pair are read as the bytes of one character, if the second is one. -/
lemma stringBytes_pair (digits : hexQuad? a b c d = some n) (high : IsHigh n)
    (digits' : hexQuad? a' b' c' d' = some m) :
    stringBytes (0x5C :: 0x75 :: a :: b :: c :: d :: 0x5C :: 0x75 :: a' :: b' :: c' :: d' :: tail) =
      if 0xDC00 ≤ m ∧ m ≤ 0xDFFF then
        (stringBytes tail).map (String.utf8EncodeChar (Char.ofNat (joinSurrogates n m)) ++ ·)
      else .error .malformed := by
  unfold IsHigh at high
  have notLow : ¬(0xDC00 ≤ n ∧ n ≤ 0xDFFF) := by omega
  rw [stringBytes.eq_def]
  simp only [digits, digits', Bool.and_eq_true, decide_eq_true_eq, if_neg notLow, if_pos high]

/-- A high surrogate has to stand before an escape with four digits. -/
lemma stringBytes_high (digits : hexQuad? a b c d = some n) (high : IsHigh n)
    (other : e ≠ 0x5C ∨ ∃ b' tail', tail = b' :: tail' ∧ b' ≠ 0x75) :
    stringBytes (0x5C :: 0x75 :: a :: b :: c :: d :: e :: tail) = .error .malformed := by
  unfold IsHigh at high
  have notLow : ¬(0xDC00 ≤ n ∧ n ≤ 0xDFFF) := by omega
  rw [stringBytes.eq_def]
  simp only [digits, Bool.and_eq_true, decide_eq_true_eq, if_neg notLow, if_pos high]
  split
  · next h => cases h
  · next h => grind
  · next h => grind
  · next h => grind
  · rfl

end

/-! ## Strings -/

/-- Every character of a string by the grammar is passed over. -/
lemma skipString_isCharacter (h : IsCharacter character) :
    skipString (character ++ tail) = skipString tail := by
  cases h with
  | plain visible quote backslash =>
    exact skipString_verbatim (isVerbatim_of_plain visible quote backslash)
  | escape mem =>
    obtain ⟨other, e, escape⟩ := shortEscape?_of_mem mem
    exact skipString_escape other escape
  | codePoint ha hb hc hd =>
    obtain ⟨n, digits⟩ := hexQuad?_of_isHexDigit ha hb hc hd
    exact skipString_codePoint digits

/-- What keeping a string gives is settled by its closing quote. -/
def Settled (text : List UInt8) : Prop :=
  ∃ kept, ∀ rest, stringBytes (text ++ 0x22 :: rest) = kept

/-- What is settled stays so behind bytes that stand for themselves. -/
lemma settled_verbatim (verbatim : ∀ b ∈ text, IsVerbatim b) (h : Settled tail) :
    Settled (text ++ tail) := by
  obtain ⟨kept, settled⟩ := h
  refine ⟨kept.map (text ++ ·), fun rest => ?_⟩
  rw [List.append_assoc, stringBytes_verbatim verbatim, settled]

/-- It also stays so behind an escape of two characters. -/
lemma settled_escape (mem : b ∈ [0x22, 0x5C, 0x2F, 0x62, 0x66, 0x6E, 0x72, 0x74])
    (h : Settled tail) : Settled (0x5C :: b :: tail) := by
  obtain ⟨other, e, escape⟩ := shortEscape?_of_mem mem
  obtain ⟨kept, settled⟩ := h
  refine ⟨kept.map (e :: ·), fun rest => ?_⟩
  rw [List.cons_append, List.cons_append, stringBytes_escape other escape, settled]

/-- The character behind a high surrogate is its partner, or the string cannot be kept. -/
lemma settled_high {a b c d : UInt8} {n : Nat} (digits : hexQuad? a b c d = some n)
    (high : IsHigh n) (next : IsCharacter character) (h : Settled tail) :
    Settled ([0x5C, 0x75, a, b, c, d] ++ (character ++ tail)) := by
  cases next with
  | @plain c visible quote backslash =>
    have verbatim := isVerbatim_of_plain visible quote backslash
    cases bytes : String.utf8EncodeChar c with
    | nil => exact absurd bytes String.utf8EncodeChar_ne_nil
    | cons b more =>
      have first : b ∈ String.utf8EncodeChar c := bytes ▸ List.mem_cons_self ..
      refine ⟨.error .malformed, fun rest => ?_⟩
      exact stringBytes_high digits high (.inl (verbatim b first).backslash)
  | @escape e mem =>
    obtain ⟨other, -⟩ := shortEscape?_of_mem mem
    exact ⟨.error .malformed, fun rest => stringBytes_high digits high (.inr ⟨_, _, rfl, other⟩)⟩
  | codePoint ha hb hc hd =>
    obtain ⟨m, digits'⟩ := hexQuad?_of_isHexDigit ha hb hc hd
    obtain ⟨kept, settled⟩ := h
    refine ⟨if 0xDC00 ≤ m ∧ m ≤ 0xDFFF then
      kept.map (String.utf8EncodeChar (Char.ofNat (joinSurrogates n m)) ++ ·)
      else .error .malformed, fun rest => ?_⟩
    rw [← settled rest]
    exact stringBytes_pair digits high digits'

/-- What keeping a string by the grammar gives is settled. -/
lemma settled_flatten : ∀ {characters : List (List UInt8)},
    (∀ c ∈ characters, IsCharacter c) → Settled characters.flatten
  | [], _ => ⟨.ok [], fun rest => rfl⟩
  | character :: later, h => by
    -- a high surrogate decides together with the character behind it, so two are dropped there
    obtain ⟨first, others⟩ := List.forall_mem_cons.mp h
    have closed := settled_flatten others
    cases first with
    | plain visible quote backslash =>
      exact settled_verbatim (isVerbatim_of_plain visible quote backslash) closed
    | escape mem => exact settled_escape mem closed
    | codePoint ha hb hc hd =>
      obtain ⟨n, digits⟩ := hexQuad?_of_isHexDigit ha hb hc hd
      by_cases low : IsLow n
      · exact ⟨.error .malformed, fun rest => stringBytes_low digits low⟩
      by_cases high : IsHigh n
      · cases later with
        | nil =>
          exact ⟨.error .malformed, fun rest => stringBytes_high digits high (.inl (by decide))⟩
        | cons next later =>
          obtain ⟨second, others⟩ := List.forall_mem_cons.mp others
          rw [List.flatten_cons, List.flatten_cons]
          exact settled_high digits high second (settled_flatten others)
      · obtain ⟨kept, settled⟩ := closed
        refine ⟨kept.map (String.utf8EncodeChar (Char.ofNat n) ++ ·), fun rest => ?_⟩
        rw [← settled rest]
        exact stringBytes_codePoint digits low high

/-- All characters of a string by the grammar are passed over. -/
lemma skipString_flatten {characters : List (List UInt8)} (h : ∀ c ∈ characters, IsCharacter c) :
    skipString (characters.flatten ++ tail) = skipString tail := by
  induction characters with
  | nil => rfl
  | cons character later ih =>
    obtain ⟨first, later⟩ := List.forall_mem_cons.mp h
    rw [List.flatten_cons, List.append_assoc, skipString_isCharacter first, ih later]

/-- The same leaf is made of a string wherever it stands. -/
lemma IsString.lexString_eq (h : IsString text) :
    ∃ body leaf, text = 0x22 :: body ∧ leaf.kind = .string ∧
      ∀ rest, lexString (body ++ rest) = (leaf, some rest) := by
  cases h with
  | @mk characters h =>
    obtain ⟨bytes, settled⟩ := settled_flatten h
    have keeps : ∃ kept, ∀ rest, keepString (characters.flatten ++ 0x22 :: rest) = kept :=
      ⟨_, fun rest => by rw [keepString, settled]⟩
    obtain ⟨kept, keeps⟩ := keeps
    refine ⟨characters.flatten ++ [0x22], ⟨.string, kept.map .string, .ok ()⟩, rfl, rfl, fun rest => ?_⟩
    have skips : skipString (characters.flatten ++ 0x22 :: rest) = .ok rest := by
      rw [skipString_flatten h]
      rfl
    rw [List.append_assoc, List.singleton_append, lexString, skips, keeps]

/-! ## Numbers -/

/-- No digit comes first. -/
def NoDigit (text : List UInt8) : Prop := text.head?.any isDigit = false

/-- The digits of the reader are those of the grammar. -/
lemma isDigit_iff : isDigit b = true ↔ IsDigit b := by
  simp [isDigit, IsDigit]

/-- A run of digits ends where what follows is no digit. -/
lemma NoDigit.takeWhile_eq (h : NoDigit tail) (digits : ∀ b ∈ text, IsDigit b) :
    (text ++ tail).takeWhile isDigit = text := by
  have all : ∀ b ∈ text, isDigit b = true := fun b mem => isDigit_iff.mpr (digits b mem)
  rw [List.takeWhile_append_of_pos all]
  cases tail with
  | nil => simp
  | cons b tail => simp_all [NoDigit]

/-- Behind a run of digits is what follows it. -/
lemma NoDigit.dropWhile_eq (h : NoDigit tail) (digits : ∀ b ∈ text, IsDigit b) :
    (text ++ tail).dropWhile isDigit = tail := by
  have all : ∀ b ∈ text, isDigit b = true := fun b mem => isDigit_iff.mpr (digits b mem)
  rw [List.dropWhile_append_of_pos all]
  cases tail with
  | nil => rfl
  | cons b tail => simp_all [NoDigit]

/-- The digits in front of the point are read, up to what is no digit. -/
lemma IsWhole.readWhole_eq (h : IsWhole text) (stop : NoDigit tail) :
    readWhole (text ++ tail) = .ok (text, tail) := by
  cases h with
  | zero =>
    rw [List.singleton_append, readWhole, stop]
    rfl
  | @positive b rest low high digits =>
    have first : IsDigit b := ⟨UInt8.le_trans (by decide) low, high⟩
    have all := List.forall_mem_cons.mpr ⟨first, digits⟩
    have notZero : b ≠ 0x30 := by
      rintro rfl
      exact absurd low (by decide)
    rw [readWhole, if_pos, stop.takeWhile_eq all, stop.dropWhile_eq all]
    · simpa using isDigit_iff.mpr first
    · intro rest same
      exact notZero (List.cons.inj same).1

/-- The text cannot go on with a number: what comes first, if anything does, plays a part of its own. -/
def Stops (text : List UInt8) : Prop := ∀ b ∈ text.head?, classify b ≠ .other

/-- Before a byte that is more than part of a scalar a number stops. -/
lemma stops_cons (h : classify b ≠ .other) : Stops (b :: text) := by
  rintro _ ⟨⟩
  exact h

/-- A number also stops before blanks. -/
lemma Stops.blanks (h : Stops tail) (blanks : Blanks text) : Stops (text ++ tail) := by
  cases text with
  | nil => exact h
  | cons b text =>
    refine stops_cons ?_
    rw [isBlank_iff.mp (blanks b (List.mem_cons_self ..))]
    nofun

/-- Where a number stops there is no digit. -/
lemma Stops.noDigit (h : Stops tail) : NoDigit tail := by
  cases tail with
  | nil => rfl
  | cons b tail =>
    cases digit : isDigit b with
    | false => simpa [NoDigit] using digit
    | true => exact absurd (classify_of_isDigit (isDigit_iff.mp digit)) (h b rfl)

/-- Where a number stops there is neither a point nor the letter of an exponent. -/
lemma Stops.ne_of_head (h : Stops (b :: tail)) : b ≠ 0x2E ∧ b ≠ 0x65 ∧ b ≠ 0x45 := by
  refine ⟨?_, ?_, ?_⟩
  all_goals
    rintro rfl
    exact h _ rfl rfl

/-- Neither a digit nor a point comes first. -/
structure EndsWhole (text : List UInt8) : Prop where
  noDigit : NoDigit text
  noPoint : text.head? ≠ some 0x2E

/-- Where a number stops its digits and its fraction end. -/
lemma Stops.endsWhole (h : Stops tail) : EndsWhole tail := by
  refine ⟨h.noDigit, fun point => ?_⟩
  exact h _ point rfl

/-- Where there is no fraction none is read. -/
lemma EndsWhole.readFraction_eq (h : EndsWhole tail) : readFraction tail = .ok ([], tail) := by
  rw [readFraction]
  rintro rest rfl
  exact h.noPoint rfl

/-- Where a number stops no exponent is read. -/
lemma Stops.readExponent_eq (h : Stops tail) : readExponent tail = .ok (none, tail) := by
  rw [readExponent]
  · rintro rest rfl
    exact h.ne_of_head.2.1 rfl
  · rintro rest rfl
    exact h.ne_of_head.2.2 rfl

/-- Behind at least one digit the reader sees a digit first. -/
lemma Digits.head?_any (h : Digits text) : (text ++ tail).head?.any isDigit = true := by
  cases text with
  | nil => exact absurd rfl h.1
  | cons b text => simpa using isDigit_iff.mpr (h.2 b (List.mem_cons_self ..))

/-- The digits of an exponent are read, up to what is no digit. -/
lemma digitsAfter_eq (h : Digits text) (stop : NoDigit tail) (negative : Bool) :
    readSignedDigits.digitsAfter negative (text ++ tail) = .ok ((negative, text), tail) := by
  rw [readSignedDigits.digitsAfter, if_pos h.head?_any, stop.takeWhile_eq h.2, stop.dropWhile_eq h.2]

/-- Digits do not start with a sign. -/
lemma Digits.ne_sign (h : Digits text) {rest : List UInt8} (sign : ¬IsDigit b) :
    text ++ tail ≠ b :: rest := by
  obtain ⟨nonempty, digits⟩ := h
  cases text with
  | nil => exact absurd rfl nonempty
  | cons first text =>
    intro same
    cases same
    exact sign (digits b (List.mem_cons_self ..))

/-- An exponent is read as the same whatever follows, if the number stops there. -/
lemma IsExponent.readExponent_eq (h : IsExponent text) :
    ∃ exponent, ∀ tail, Stops tail → readExponent (text ++ tail) = .ok (exponent, tail) := by
  cases h with
  | none => exact ⟨.none, fun tail stops => stops.readExponent_eq⟩
  | @some mark sign digits mark_eq sign_eq h =>
    have signed : ∃ e, ∀ tail, NoDigit tail →
        readSignedDigits (sign ++ digits ++ tail) = .ok (e, tail) := by
      rcases sign_eq with rfl | rfl | rfl
      · refine ⟨(false, digits), fun tail stop => ?_⟩
        rw [List.nil_append, readSignedDigits, digitsAfter_eq h stop]
        · exact fun rest => h.ne_sign (by unfold IsDigit; decide)
        · exact fun rest => h.ne_sign (by unfold IsDigit; decide)
      · exact ⟨(false, digits), fun tail stop => digitsAfter_eq h stop false⟩
      · exact ⟨(true, digits), fun tail stop => digitsAfter_eq h stop true⟩
    obtain ⟨e, signed⟩ := signed
    refine ⟨.some e, fun tail stops => ?_⟩
    have read := signed tail stops.noDigit
    rcases mark_eq with rfl | rfl
    all_goals
      rw [List.cons_append, List.cons_append, readExponent, read]
      rfl

/-- A fraction is read as the same whatever follows, if no digit does. -/
lemma IsFraction.readFraction_eq (h : IsFraction text) :
    ∃ fraction, ∀ tail, EndsWhole tail → readFraction (text ++ tail) = .ok (fraction, tail) := by
  cases h with
  | none => exact ⟨[], fun tail ends => ends.readFraction_eq⟩
  | @some digits h =>
    refine ⟨digits, fun tail ends => ?_⟩
    rw [List.cons_append, readFraction, if_pos h.head?_any, ends.noDigit.takeWhile_eq h.2,
      ends.noDigit.dropWhile_eq h.2]

/-- In front of an exponent, or of nothing where the number stops, the fraction ends. -/
lemma IsExponent.endsWhole (h : IsExponent text) (stops : Stops tail) : EndsWhole (text ++ tail) := by
  cases h with
  | none => exact stops.endsWhole
  | some mark_eq _ _ =>
    rcases mark_eq with rfl | rfl
    all_goals exact ⟨rfl, by simp⟩

/-- In front of a fraction, or of nothing where no digit is, the digits before the point end. -/
lemma IsFraction.noDigit (h : IsFraction text) (stop : NoDigit tail) : NoDigit (text ++ tail) := by
  cases h with
  | none => exact stop
  | some _ => rfl

/-- The parts of a number behind its sign are read one after the other. -/
lemma readUnsigned_eq {whole fraction exponent : List UInt8} (hw : IsWhole whole)
    (hf : IsFraction fraction) (he : IsExponent exponent) (negative : Bool) :
    ∃ numeral, ∀ tail, Stops tail →
      readUnsigned negative (whole ++ fraction ++ exponent ++ tail) = .ok (numeral, tail) := by
  obtain ⟨digits, readsFraction⟩ := hf.readFraction_eq
  obtain ⟨e, readsExponent⟩ := he.readExponent_eq
  refine ⟨⟨negative, whole, digits, e⟩, fun tail stops => ?_⟩
  have ends := he.endsWhole stops
  simp only [List.append_assoc, readUnsigned, hw.readWhole_eq (hf.noDigit ends.noDigit),
    readsFraction _ ends, readsExponent _ stops, bind, Except.bind, pure, Except.pure]

/-- The digits in front of the point do not start with a minus sign. -/
lemma IsWhole.ne_minus (h : IsWhole text) {rest : List UInt8} : text ++ tail ≠ 0x2D :: rest := by
  cases h with
  | zero => nofun
  | positive low _ _ =>
    intro same
    cases same
    exact absurd low (by decide)

/-- The same leaf is made of a number wherever it stops. -/
lemma IsNumber.lexNumber_eq (h : IsNumber text) :
    ∃ leaf, ∀ tail, Stops tail → lexNumber (text ++ tail) = (leaf, some tail) := by
  cases h with
  | @mk minus whole fraction exponent hm hw hf he =>
    have read : ∃ numeral, ∀ tail, Stops tail →
        readNumeral (minus ++ whole ++ fraction ++ exponent ++ tail) = .ok (numeral, tail) := by
      rcases hm with rfl | rfl
      · obtain ⟨numeral, read⟩ := readUnsigned_eq hw hf he false
        refine ⟨numeral, fun tail stops => ?_⟩
        rw [← read tail stops, readNumeral]
        · rfl
        · simp only [List.nil_append, List.append_assoc]
          exact fun rest => hw.ne_minus
      · obtain ⟨numeral, read⟩ := readUnsigned_eq hw hf he true
        exact ⟨numeral, fun tail stops => read tail stops⟩
    obtain ⟨numeral, read⟩ := read
    refine ⟨(lexNumber (minus ++ whole ++ fraction ++ exponent)).1, fun tail stops => ?_⟩
    have alone := read [] nofun
    rw [List.append_nil] at alone
    simp only [lexNumber, alone, read tail stops]

/-- A number starts with a sign or a digit, and so it is told from other scalars. -/
lemma IsNumber.lexScalar_eq (h : IsNumber text) :
    ∃ b body, text = b :: body ∧ classify b = .other ∧
      ∀ rest, lexScalar b (body ++ rest) = some (lexNumber (text ++ rest)) := by
  have first : ∃ b body, text = b :: body ∧ (b = 0x2D ∨ IsDigit b) := by
    cases h with
    | mk hm hw _ _ =>
      rcases hm with rfl | rfl
      · cases hw with
        | zero => exact ⟨_, _, rfl, .inr (by unfold IsDigit; decide)⟩
        | positive low high _ => exact ⟨_, _, rfl, .inr ⟨UInt8.le_trans (by decide) low, high⟩⟩
      · exact ⟨_, _, rfl, .inl rfl⟩
  obtain ⟨b, body, rfl, first⟩ := first
  refine ⟨b, body, rfl, h.ordinary.1 b (List.mem_cons_self ..), fun rest => ?_⟩
  have noQuote : b ≠ 0x22 := by
    rintro rfl
    rcases first with other | digit
    · cases other
    · exact absurd digit.1 (by decide)
  rw [lexScalar, if_neg noQuote, if_pos (by simpa [isDigit_iff] using first)]
  rfl

end Sidecar.Json.Grammar
