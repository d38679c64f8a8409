import Sidecar.Proofs.Batch.Scanning
import Sidecar.Proofs.Json.Grammar

/-!
# Arrays of the grammar are read

A scanner counts brackets without telling them apart, and does not look into its elements. Given an
array of the grammar it nevertheless completes exactly the items (`reads_array`).

The proof follows the derivation of the array. Inside brackets every text of the grammar leaves the
scanner where it was (`passes_of_derives`), at any depth and with any bytes pending; so a value is
either complete at its end or cut off by what stands behind it (`reads_value`).
-/

namespace Sidecar.Scanner
open Json Json.Grammar

variable {s s' s'' : Scanner} {state : State} {b : UInt8} {text front back : List UInt8}

/-! ## Texts that are taken -/

/-- A text is taken whole: the elements that it completes and the scanner after it. -/
def Reads (s : Scanner) (text : List UInt8) (elements : List (List UInt8)) (s' : Scanner) : Prop :=
  s.push text = ⟨s', elements, none⟩

lemma Reads.nil : s.Reads [] [] s := rfl

/-- A byte that completes no element may come before a text that is taken. -/
lemma Reads.cons {elements : List (List UInt8)} (h : s.step b = .ok (s', none))
    (h' : s'.Reads text elements s'') : s.Reads (b :: text) elements s'' := by
  rw [Reads, push_cons_of_ok h, h']
  rfl

/-- So may a byte that completes one, which is then the first. -/
lemma Reads.complete {element : List UInt8} {elements : List (List UInt8)}
    (h : s.step b = .ok (s', some element)) (h' : s'.Reads text elements s'') :
    s.Reads (b :: text) (element :: elements) s'' := by
  rw [Reads, push_cons_of_ok h, h']
  rfl

/-- Texts that are taken one after the other are taken together. -/
lemma Reads.append {elements elements' : List (List UInt8)} (h : s.Reads front elements s')
    (h' : s'.Reads back elements' s'') : s.Reads (front ++ back) (elements ++ elements') s'' := by
  have clean : (s.push front).problem = none := by rw [h]
  rw [Reads, push_append_of_clean clean, h, h']

/-- A text that a scanner keeps as a part of its element, in a state that it comes back to. -/
def Keeps (state : State) (text : List UInt8) : Prop :=
  ∀ pending, Reads ⟨state, pending⟩ text [] ⟨state, text.reverse ++ pending⟩

lemma Keeps.nil : Keeps state [] := fun _ => .nil

/-- Texts that are kept one after the other are kept together. -/
lemma Keeps.append (h : Keeps state front) (h' : Keeps state back) :
    Keeps state (front ++ back) := by
  intro pending
  rw [List.reverse_append, List.append_assoc]
  exact (h pending).append (h' _)

/-- A byte that is kept may come before a text that is. -/
lemma Keeps.cons (h : ∀ pending, step ⟨state, pending⟩ b = .ok (stay state (b :: pending)))
    (h' : Keeps state text) : Keeps state (b :: text) := by
  intro pending
  rw [List.reverse_cons, List.append_assoc]
  exact .cons (h pending) (h' _)

/-- A text is kept if each of its bytes is. -/
lemma Keeps.of_forall
    (h : ∀ b ∈ text, ∀ pending, step ⟨state, pending⟩ b = .ok (stay state (b :: pending))) :
    Keeps state text := by
  induction text with
  | nil => exact .nil
  | cons b text ih =>
    obtain ⟨first, rest⟩ := List.forall_mem_cons.mp h
    exact .cons first (ih rest)

/-! ## Inside strings -/

/-- A text that can stand in a string, at any depth. -/
def Fills (text : List UInt8) : Prop :=
  ∀ depth, Keeps (.inside depth .quoted) text

/-- In a string every byte but the quote and the backslash is kept. -/
lemma step_quoted {depth : Nat} {pending : List UInt8} (quote : classify b ≠ .quote)
    (backslash : classify b ≠ .backslash) :
    step ⟨.inside depth .quoted, pending⟩ b = .ok (stay (.inside depth .quoted) (b :: pending)) := by
  simp only [step]
  unfold within
  cases hc : classify b <;> first | rfl | contradiction

/-- A text without quotes and backslashes can stand in a string. -/
lemma fills_of_forall (h : ∀ b ∈ text, classify b ≠ .quote ∧ classify b ≠ .backslash) :
    Fills text := by
  intro depth
  refine .of_forall fun b hb pending => ?_
  obtain ⟨quote, backslash⟩ := h b hb
  exact step_quoted quote backslash

/-- A text that means nothing to the scanner can stand in a string. -/
lemma fills_of_ordinary (h : Ordinary text) : Fills text := by
  refine fills_of_forall fun b hb => ?_
  rw [h b hb]
  exact ⟨nofun, nofun⟩

/-- An escape is two bytes, whatever the second one is. -/
lemma fills_escape (b : UInt8) : Fills [0x5C, b] :=
  fun _ _ => .cons rfl (.cons rfl .nil)

/-- A character of a string by the grammar can stand in one. -/
lemma fills_of_isCharacter (h : IsCharacter text) : Fills text := by
  cases h with
  | plain _ quote backslash =>
    exact fills_of_forall fun b hb => classify_of_plain quote backslash hb
  | escape _ => exact fills_escape _
  | codePoint ha hb hc hd =>
    intro depth
    refine (fills_escape 0x75 depth).append (fills_of_ordinary ?_ depth)
    exact .cons (classify_of_isHexDigit ha) (.cons (classify_of_isHexDigit hb)
      (.cons (classify_of_isHexDigit hc) (.cons (classify_of_isHexDigit hd) .nil)))

/-- A string is a text that fills it between two quotes. -/
lemma fills_of_isString (h : IsString text) :
    ∃ body, text = 0x22 :: body ++ [0x22] ∧ Fills body := by
  cases h with
  | @mk characters h =>
    refine ⟨characters.flatten, rfl, fun depth => ?_⟩
    induction characters with
    | nil => exact .nil
    | cons c characters ih =>
      obtain ⟨first, rest⟩ := List.forall_mem_cons.mp h
      exact (fills_of_isCharacter first depth).append (ih rest)

/-! ## Inside brackets -/

/-- A text that can stand between brackets: it leaves them as they are, at any depth. -/
def Passes (text : List UInt8) : Prop :=
  ∀ depth, Keeps (.inside (depth + 1) .plain) text

/-- Texts that can stand between brackets can do so one after the other. -/
lemma Passes.append (h : Passes front) (h' : Passes back) : Passes (front ++ back) :=
  fun depth => (h depth).append (h' depth)

/-- Blanks, commas, colons and what means nothing can stand between brackets. -/
lemma passes_of_forall
    (h : ∀ b ∈ text, classify b ∈ [.blank, .comma, .colon, .other]) : Passes text := by
  intro depth
  refine .of_forall fun b hb pending => ?_
  have part := h b hb
  simp only [step]
  unfold within
  cases hc : classify b <;> first | rfl | (rw [hc] at part; contradiction)

/-- Blanks can stand between brackets. -/
lemma passes_of_blanks (h : Blanks text) : Passes text := by
  refine passes_of_forall fun b hb => ?_
  rw [isBlank_iff.mp (h b hb)]
  decide

/-- So can a text that means nothing to the scanner. -/
lemma passes_of_ordinary (h : Ordinary text) : Passes text := by
  refine passes_of_forall fun b hb => ?_
  rw [h b hb]
  decide

/-- So can a comma or a colon. -/
lemma passes_singleton (h : classify b ∈ [.blank, .comma, .colon, .other]) : Passes [b] :=
  passes_of_forall fun x hx => by rw [List.mem_singleton.mp hx]; exact h

/-- So can a string, whatever is in it. -/
lemma passes_of_isString (h : IsString text) : Passes text := by
  obtain ⟨body, rfl, fills⟩ := fills_of_isString h
  intro depth pending
  have opened : step ⟨.inside (depth + 1) .plain, pending⟩ 0x22 =
      .ok (stay (.inside (depth + 1) .quoted) (0x22 :: pending)) := rfl
  have closed (p) : step ⟨.inside (depth + 1) .quoted, p⟩ 0x22 =
      .ok (stay (.inside (depth + 1) .plain) (0x22 :: p)) := rfl
  have reads := Reads.cons opened ((fills (depth + 1) (0x22 :: pending)).append
    (.cons (closed _) .nil))
  simpa using reads

/-- Inside an element an opening bracket leads one level down. -/
lemma step_opener {depth : Nat} {pending : List UInt8}
    (h : classify b = .openArray ∨ classify b = .openObject) :
    step ⟨.inside depth .plain, pending⟩ b =
      .ok (stay (.inside (depth + 1) .plain) (b :: pending)) := by
  rcases h with h | h <;> simp only [step, within, h]

/-- A closing bracket of either kind closes whatever bracket is open. -/
lemma step_closer {depth : Nat} {pending : List UInt8}
    (h : classify b = .closeArray ∨ classify b = .closeObject) :
    step ⟨.inside (depth + 2) .plain, pending⟩ b =
      .ok (stay (.inside (depth + 1) .plain) (b :: pending)) := by
  rcases h with h | h <;> simp [step, within, h]

/-- What can stand between brackets can also do so with brackets of its own. -/
lemma passes_bracketed {opener closer : UInt8}
    (ho : classify opener = .openArray ∨ classify opener = .openObject)
    (hc : classify closer = .closeArray ∨ classify closer = .closeObject) (h : Passes text) :
    Passes (opener :: text ++ [closer]) := by
  intro depth pending
  have reads := Reads.cons (step_opener ho) ((h (depth + 1) (opener :: pending)).append
    (.cons (step_closer hc) .nil))
  simpa using reads

/-- Every text of the grammar can stand between brackets. -/
lemma passes_of_derives {symbol : Symbol} (h : Derives symbol text) : Passes text := by
  induction h with
  | null => exact passes_of_ordinary ordinary_null
  | true => exact passes_of_ordinary ordinary_true
  | false => exact passes_of_ordinary ordinary_false
  | number h => exact passes_of_ordinary h.ordinary.1
  | string h => exact passes_of_isString h
  | arrayValue _ ih => exact ih
  | emptyArray hv => exact passes_bracketed (.inl rfl) (.inl rfl) (passes_of_blanks hv)
  | array _ ih => exact passes_bracketed (.inl rfl) (.inl rfl) ih
  | lastItem hv _ hw ih => exact ((passes_of_blanks hv).append ih).append (passes_of_blanks hw)
  | nextItem hv _ hw _ ih ihr =>
    have item := ((passes_of_blanks hv).append ih).append (passes_of_blanks hw)
    exact item.append ((passes_singleton (by decide)).append ihr)
  | emptyObject hv => exact passes_bracketed (.inr rfl) (.inr rfl) (passes_of_blanks hv)
  | object _ ih => exact passes_bracketed (.inr rfl) (.inr rfl) ih
  | lastMember _ ih => exact ih
  | nextMember _ _ ih ihr => exact ih.append ((passes_singleton (by decide)).append ihr)
  | member hv hn hw hx _ hy ih =>
    have name := ((passes_of_blanks hv).append (passes_of_isString hn)).append
      (passes_of_blanks hw)
    have colon := (passes_singleton (b := 0x3A) (by decide)).append (passes_of_blanks hx)
    have value := (colon.append ih).append (passes_of_blanks hy)
    simpa using name.append value

/-! ## Arrays are read -/

/-- Where blanks may stand outside elements. -/
def Skips (state : State) : Prop :=
  state ∈ [.opening, .first, .element, .separator]

/-- Where an element may start. -/
def Ready (state : State) : Prop :=
  state = .first ∨ state = .element

/-- Where an element may start a blank may stand. -/
lemma Ready.skips (h : Ready state) : Skips state := by
  rcases h with rfl | rfl <;> simp [Skips]

/-- A blank outside elements is taken and means nothing. -/
lemma step_blank (h : Skips state) (hb : classify b = .blank) :
    step ⟨state, []⟩ b = .ok (goto state) := by
  cases state with
  | opening => simp only [step, hb]
  | first => simp only [step, hb]
  | element => simp only [step, hb]
  | separator => simp only [step, separate, hb]; rfl
  | _ => simp [Skips] at h

/-- So are several. -/
lemma reads_blanks (hs : Skips state) (h : Blanks text) :
    Reads ⟨state, []⟩ text [] ⟨state, []⟩ := by
  induction text with
  | nil => exact .nil
  | cons b text ih =>
    obtain ⟨blank, rest⟩ := List.forall_mem_cons.mp h
    exact .cons (step_blank hs (isBlank_iff.mp blank)) (ih rest)

/-- Where an element may start a byte is looked at as its start. -/
lemma step_start {pending : List UInt8} (hs : Ready state) (blank : classify b ≠ .blank)
    (close : classify b ≠ .closeArray) : step ⟨state, pending⟩ b = start b := by
  rcases hs with rfl | rfl
  all_goals
    unfold step
    cases hc : classify b <;> first | rfl | contradiction

/-- A number or a literal is taken as an element that has not ended yet. -/
lemma reads_scalar (hs : Ready state) (h : Ordinary text) (nonempty : text ≠ []) :
    Reads ⟨state, []⟩ text [] ⟨.scalar, text.reverse⟩ := by
  cases text with
  | nil => contradiction
  | cons b text =>
    have part := h b (List.mem_cons_self ..)
    have rest : Keeps .scalar text := by
      refine .of_forall fun x hx pending => ?_
      simp only [step, h x (List.mem_cons_of_mem _ hx)]
    have first : step ⟨state, []⟩ b = .ok (stay .scalar [b]) := by
      rw [step_start hs (by simp [part]) (by simp [part])]
      simp only [start, part]
    rw [List.reverse_cons]
    exact .cons first (rest [b])

/-- A string is taken as an element that ends with its quote. -/
lemma reads_string (hs : Ready state) (h : IsString text) :
    Reads ⟨state, []⟩ text [text] ⟨.separator, []⟩ := by
  obtain ⟨body, rfl, fills⟩ := fills_of_isString h
  have opened : step ⟨state, []⟩ 0x22 = .ok (stay (.inside 0 .quoted) [0x22]) :=
    step_start hs (by decide) (by decide)
  have closed (p) : step ⟨.inside 0 .quoted, p⟩ 0x22 = .ok (complete (0x22 :: p) .separator) := rfl
  have reads := Reads.cons opened ((fills 0 [0x22]).append (.complete (closed _) .nil))
  simpa using reads

/-- An array or an object is taken as an element that ends with its bracket. -/
lemma reads_bracketed {opener closer : UInt8} (hs : Ready state)
    (ho : classify opener = .openArray ∨ classify opener = .openObject)
    (hc : classify closer = .closeArray ∨ classify closer = .closeObject) (h : Passes text) :
    Reads ⟨state, []⟩ (opener :: text ++ [closer]) [opener :: text ++ [closer]]
      ⟨.separator, []⟩ := by
  have opened : step ⟨state, []⟩ opener = .ok (stay (.inside 1 .plain) [opener]) := by
    rcases ho with ho | ho
    all_goals
      rw [step_start hs (by simp [ho]) (by simp [ho])]
      simp only [start, ho]
  have closed (p) :
      step ⟨.inside 1 .plain, p⟩ closer = .ok (complete (closer :: p) .separator) := by
    rcases hc with hc | hc <;> simp [step, within, hc]
  have reads := Reads.cons opened ((h 0 [opener]).append (.complete (closed _) .nil))
  simpa using reads

/-- A value with brackets or quotes is complete at its end; a number or a literal needs what comes
next. -/
lemma reads_value {value : List UInt8} (hs : Ready state) (h : IsValue value) :
    Reads ⟨state, []⟩ value [value] ⟨.separator, []⟩ ∨
      Reads ⟨state, []⟩ value [] ⟨.scalar, value.reverse⟩ := by
  cases h with
  | null => exact .inr (reads_scalar hs ordinary_null nofun)
  | true => exact .inr (reads_scalar hs ordinary_true nofun)
  | false => exact .inr (reads_scalar hs ordinary_false nofun)
  | number h => exact .inr (reads_scalar hs h.ordinary.1 h.ordinary.2)
  | string h => exact .inl (reads_string hs h)
  | arrayValue h =>
    cases h with
    | emptyArray hv => exact .inl (reads_bracketed hs (.inl rfl) (.inl rfl) (passes_of_blanks hv))
    | array h => exact .inl (reads_bracketed hs (.inl rfl) (.inl rfl) (passes_of_derives h))
  | emptyObject hv => exact .inl (reads_bracketed hs (.inr rfl) (.inr rfl) (passes_of_blanks hv))
  | object h => exact .inl (reads_bracketed hs (.inr rfl) (.inr rfl) (passes_of_derives h))

/-- A comma or the closing bracket, and where it leads. -/
def Delimits (d : UInt8) (next : State) : Prop :=
  d = 0x2C ∧ next = .element ∨ d = 0x5D ∧ next = .closed

/-- Behind an element that has ended a delimiter is taken, with blanks before it. -/
lemma reads_delimiter {w : List UInt8} {d : UInt8} {next : State} (hw : Blanks w)
    (hd : Delimits d next) : Reads ⟨.separator, []⟩ (w ++ [d]) [] ⟨next, []⟩ := by
  refine (reads_blanks (by simp [Skips]) hw).append (.cons ?_ .nil)
  rcases hd with ⟨rfl, rfl⟩ | ⟨rfl, rfl⟩ <;> rfl

/-- Behind a number or a literal it also completes the element. -/
lemma reads_delimiter_of_scalar (pending : List UInt8) {w : List UInt8} {d : UInt8} {next : State}
    (hw : Blanks w) (hd : Delimits d next) :
    Reads ⟨.scalar, pending⟩ (w ++ [d]) [pending.reverse] ⟨next, []⟩ := by
  cases w with
  | nil =>
    refine .complete ?_ .nil
    rcases hd with ⟨rfl, rfl⟩ | ⟨rfl, rfl⟩ <;> rfl
  | cons b w =>
    -- the first byte behind it completes the element, be it only a blank
    obtain ⟨blank, rest⟩ := List.forall_mem_cons.mp hw
    refine .complete ?_ (reads_delimiter rest hd)
    simp only [step, separate, isBlank_iff.mp blank]
    rfl

/-- An item of an array is taken with its blanks and its delimiter. -/
lemma reads_item {item v w : List UInt8} {d : UInt8} {next : State} (hs : Ready state)
    (hv : Blanks v) (h : IsValue item) (hw : Blanks w) (hd : Delimits d next) :
    Reads ⟨state, []⟩ (v ++ item ++ w ++ [d]) [item] ⟨next, []⟩ := by
  have front := reads_blanks hs.skips hv
  rw [List.append_assoc]
  rcases reads_value hs h with value | value
  · exact (front.append value).append (reads_delimiter hw hd)
  · have back := reads_delimiter_of_scalar item.reverse hw hd
    rw [List.reverse_reverse] at back
    exact (front.append value).append back

/-- All items of an array are taken, and the closing bracket behind them. -/
lemma reads_items {items : List (List UInt8)} {body : List UInt8} (hs : Ready state)
    (h : Derives (.items items) body) :
    Reads ⟨state, []⟩ (body ++ [0x5D]) items ⟨.closed, []⟩ := by
  -- only the two rules for items are left, the first item standing behind the bracket or a comma
  generalize e : Symbol.items items = symbol at h
  induction h generalizing items state with
  | lastItem hv h hw =>
    cases e
    exact reads_item hs hv h hw (.inr ⟨rfl, rfl⟩)
  | nextItem hv h hw _ _ ih =>
    cases e
    have item := reads_item hs hv h hw (.inl ⟨rfl, rfl⟩)
    simpa using item.append (ih (.inr rfl) rfl)
  | _ => cases e

/-- An array is read whole, and its items are the elements. -/
lemma reads_array {items : List (List UInt8)} {array : List UInt8} (h : IsArray items array) :
    Reads ⟨.opening, []⟩ array items ⟨.closed, []⟩ := by
  cases h with
  | emptyArray hv =>
    exact .cons rfl ((reads_blanks (Ready.skips (.inl rfl)) hv).append (.cons rfl .nil))
  | array h => exact .cons rfl (reads_items (.inl rfl) h)

end Sidecar.Scanner
