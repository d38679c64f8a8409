import Sidecar.Proofs.Batch.ArrayText

/-!
# What a scanner accepts

Together with a reader that takes JSON texts only, a scanner accepts exactly the arrays of the
grammar, and its elements are their items (`accepts_iff_isArray`).

What is new here goes along the bytes. `Takes` says once what a byte can do. From it follows that
elements have no blanks around them (`trimmed_of_push`), and that the bytes which close an array are
those that each state waits for (`awaits_of_push`).
-/

namespace Sidecar.Scanner
open Json Json.Grammar

variable {s s' : Scanner} {state : State} {b : UInt8} {completed : Option (List UInt8)}

/-! ## What a byte can do -/

/-- Where a scanner is inside an element. -/
def State.InElement : State → Prop
  | .inside _ _ | .scalar => True
  | _ => False

/-- What a byte that is taken does, but for the depth and the mode inside an element. -/
inductive Takes (b : UInt8) : Scanner → Scanner → Option (List UInt8) → Prop where
  | opened {pending : List UInt8} :
    b = 0x5B →
    Takes b ⟨.opening, pending⟩ ⟨.first, []⟩ none
  | skipped {state : State} {pending : List UInt8} :
    Skips state → IsBlank b →
    Takes b ⟨state, pending⟩ ⟨state, []⟩ none
  | closed {pending : List UInt8} :
    b = 0x5D →
    Takes b ⟨.first, pending⟩ ⟨.closed, []⟩ none
  | began {state state' : State} {pending : List UInt8} :
    Ready state → ¬IsBlank b → state'.InElement →
    Takes b ⟨state, pending⟩ ⟨state', [b]⟩ none
  | kept {depth depth' : Nat} {mode mode' : Mode} {pending : List UInt8} :
    Takes b ⟨.inside depth mode, pending⟩ ⟨.inside depth' mode', b :: pending⟩ none
  | keptScalar {pending : List UInt8} :
    ¬IsBlank b →
    Takes b ⟨.scalar, pending⟩ ⟨.scalar, b :: pending⟩ none
  | completed {depth : Nat} {mode : Mode} {pending : List UInt8} :
    ¬IsBlank b →
    Takes b ⟨.inside depth mode, pending⟩ ⟨.separator, []⟩ (some (b :: pending).reverse)
  | cut {next : State} {pending : List UInt8} :
    Delimits b next ∨ IsBlank b ∧ next = .separator →
    Takes b ⟨.scalar, pending⟩ ⟨next, []⟩ (some pending.reverse)
  | delimited {next : State} {pending : List UInt8} :
    Delimits b next →
    Takes b ⟨.separator, pending⟩ ⟨next, []⟩ none
  | ignored {pending : List UInt8} :
    Takes b ⟨.closed, pending⟩ ⟨.closed, []⟩ none

/-- A byte of another class is no blank. -/
lemma not_isBlank {part : ByteClass} (h : classify b = part) (other : part ≠ .blank) :
    ¬IsBlank b := by
  intro blank
  exact other (h.symm.trans (isBlank_iff.mp blank))

/-- Behind an element only a delimiter or a blank is taken. -/
lemma separate_eq_ok {next : State} (h : separate b = .ok next) :
    Delimits b next ∨ IsBlank b ∧ next = .separator := by
  unfold separate at h
  cases hc : classify b with
  | comma =>
    rw [hc] at h
    cases h
    exact .inl (.inl ⟨classify_eq_comma.mp hc, rfl⟩)
  | closeArray =>
    rw [hc] at h
    cases h
    exact .inl (.inr ⟨classify_eq_closeArray.mp hc, rfl⟩)
  | blank =>
    rw [hc] at h
    cases h
    exact .inr ⟨isBlank_iff.mpr hc, rfl⟩
  | _ =>
    rw [hc] at h
    cases h

/-- Where an element may start a byte that is no blank starts one, or closes the array. -/
lemma takes_of_start {pending : List UInt8} (hs : Ready state) (blank : ¬IsBlank b)
    (h : start b = .ok (s', completed)) : Takes b ⟨state, pending⟩ s' completed := by
  unfold start at h
  cases hc : classify b with
  | openArray | openObject | quote =>
    rw [hc] at h
    cases h
    exact .began hs blank trivial
  | closeArray | closeObject | comma | colon =>
    rw [hc] at h
    cases h
  | blank | backslash | other =>
    rw [hc] at h
    cases h
    exact .began hs blank trivial

/-- Inside an element a byte is kept, and may complete the element. -/
lemma takes_of_within (depth : Nat) (mode : Mode) (pending : List UInt8) :
    Takes b ⟨.inside depth mode, pending⟩ (within depth mode b (b :: pending)).1
      (within depth mode b (b :: pending)).2 := by
  unfold within
  split
  · exact .kept
  · exact .kept
  · rename_i quote
    split
    · exact .completed (not_isBlank quote (by decide))
    · exact .kept
  · exact .kept
  · exact .kept
  · exact .kept
  · exact .kept
  · rename_i close
    split
    · exact .completed (not_isBlank close (by decide))
    · exact .kept
  · rename_i close
    split
    · exact .completed (not_isBlank close (by decide))
    · exact .kept
  · exact .kept

/-- So every byte that is taken does one of a few things. -/
lemma takes_of_step (h : s.step b = .ok (s', completed)) : Takes b s s' completed := by
  obtain ⟨state, pending⟩ := s
  cases state with
  | opening =>
    simp only [step] at h
    cases hc : classify b with
    | openArray =>
      rw [hc] at h
      cases h
      exact .opened (classify_eq_openArray.mp hc)
    | blank =>
      rw [hc] at h
      cases h
      exact .skipped (by simp [Skips]) (isBlank_iff.mpr hc)
    | _ =>
      rw [hc] at h
      cases h
  | first =>
    by_cases blank : IsBlank b
    · simp only [step, isBlank_iff.mp blank] at h
      cases h
      exact .skipped (by simp [Skips]) blank
    · by_cases close : classify b = .closeArray
      · simp only [step, close] at h
        cases h
        exact .closed (classify_eq_closeArray.mp close)
      · rw [step_start (.inl rfl) (mt isBlank_iff.mpr blank) close] at h
        exact takes_of_start (.inl rfl) blank h
  | element =>
    by_cases blank : IsBlank b
    · simp only [step, isBlank_iff.mp blank] at h
      cases h
      exact .skipped (by simp [Skips]) blank
    · by_cases close : classify b = .closeArray
      · simp only [step, start, close] at h
        cases h
      · rw [step_start (.inr rfl) (mt isBlank_iff.mpr blank) close] at h
        exact takes_of_start (.inr rfl) blank h
  | inside depth mode =>
    have taken : within depth mode b (b :: pending) = (s', completed) := Except.ok.inj h
    have takes : Takes b _ _ _ := takes_of_within depth mode pending
    rw [taken] at takes
    exact takes
  | scalar =>
    simp only [step] at h
    cases hc : classify b with
    -- what may stand behind an element ends a number or a literal as well
    | blank | comma | closeArray =>
      simp only [hc] at h
      cases hs : separate b with
      | error problem =>
        rw [hs] at h
        cases h
      | ok next =>
        rw [hs] at h
        cases h
        exact .cut (separate_eq_ok hs)
    | _ =>
      simp only [hc] at h
      cases h
      exact .keptScalar (not_isBlank hc (by decide))
  | separator =>
    simp only [step] at h
    cases hs : separate b with
    | error problem =>
      rw [hs] at h
      cases h
    | ok next =>
      rw [hs] at h
      cases h
      rcases separate_eq_ok hs with delimits | ⟨blank, rfl⟩
      · exact .delimited delimits
      · exact .skipped (by simp [Skips]) blank
  | closed =>
    cases h
    exact .ignored

/-! ## Elements have no blanks around them -/

/-- A text that neither starts nor ends with a blank. -/
def Trimmed (text : List UInt8) : Prop :=
  (∀ b ∈ text.head?, ¬IsBlank b) ∧ (∀ b ∈ text.getLast?, ¬IsBlank b)

/-- A text without blanks around it is a value. -/
lemma isValue_of_isText {text : List UInt8} (h : IsText text) (trimmed : Trimmed text) :
    IsValue text := by
  obtain ⟨v, value, w, hv, isValue, hw, rfl⟩ := h
  obtain ⟨head, last⟩ := trimmed
  have front : v = [] := by
    cases v with
    | nil => rfl
    | cons b v => exact absurd (hv b (List.mem_cons_self ..)) (head b rfl)
  have back : w = [] := by
    cases hl : w.getLast? with
    | none => exact List.getLast?_eq_none_iff.mp hl
    | some b =>
      refine absurd (hw b (List.mem_of_getLast? hl)) (last b ?_)
      rw [List.getLast?_append, hl]
      rfl
  rw [front, back, List.nil_append, List.append_nil]
  exact isValue

/-- A text without blanks around it has none backwards either. -/
lemma Trimmed.reverse {text : List UInt8} (h : Trimmed text) : Trimmed text.reverse := by
  obtain ⟨head, last⟩ := h
  refine ⟨?_, ?_⟩
  · rw [List.head?_reverse]
    exact last
  · rw [List.getLast?_reverse]
    exact head

/-- The pending bytes of an element start with no blank, those of a number or a literal do not end
with one either. -/
def Begun (s : Scanner) : Prop :=
  (s.state.InElement → ∃ front first, s.pending = front ++ [first] ∧ ¬IsBlank first) ∧
    (s.state = .scalar → ∀ last ∈ s.pending.head?, ¬IsBlank last)

/-- Outside elements there is nothing to be said of their bytes. -/
lemma Begun.of_outside {s : Scanner} (h : ¬s.state.InElement) : s.Begun := by
  refine ⟨fun inElement => absurd inElement h, fun scalar => ?_⟩
  rw [scalar] at h
  exact absurd trivial h

/-- Behind an element that has ended the scanner is in none. -/
lemma not_inElement_of_delimits {next : State}
    (h : Delimits b next ∨ IsBlank b ∧ next = .separator) : ¬next.InElement := by
  rcases h with (⟨_, rfl⟩ | ⟨_, rfl⟩) | ⟨_, rfl⟩ <;> exact id

/-- Where blanks may stand the scanner is in no element. -/
lemma not_inElement_of_skips (h : Skips state) : ¬state.InElement := by
  intro inElement
  cases state <;> first | exact inElement | simp [Skips] at h

/-- A byte keeps the pending bytes that way, and an element that it completes is trimmed. -/
lemma Takes.begun (h : Takes b s s' completed) (begun : s.Begun) :
    s'.Begun ∧ ∀ element ∈ completed, Trimmed element := by
  obtain ⟨first, last⟩ := begun
  cases h with
  | opened _ => exact ⟨.of_outside id, nofun⟩
  | skipped skips _ => exact ⟨.of_outside (not_inElement_of_skips skips), nofun⟩
  | closed _ => exact ⟨.of_outside id, nofun⟩
  | began _ blank _ =>
    refine ⟨⟨fun _ => ⟨[], b, rfl, blank⟩, ?_⟩, nofun⟩
    rintro _ last ⟨⟩
    exact blank
  | kept =>
    obtain ⟨front, f, e, nonblank⟩ := first trivial
    exact ⟨⟨fun _ => ⟨b :: front, f, congrArg (b :: ·) e, nonblank⟩, nofun⟩, nofun⟩
  | keptScalar blank =>
    obtain ⟨front, f, e, nonblank⟩ := first trivial
    refine ⟨⟨fun _ => ⟨b :: front, f, congrArg (b :: ·) e, nonblank⟩, ?_⟩, nofun⟩
    rintro _ last ⟨⟩
    exact blank
  -- pending bytes are kept backwards: the first of the element is the last of them
  | completed blank =>
    obtain ⟨front, f, rfl, nonblank⟩ := first trivial
    refine ⟨.of_outside id, ?_⟩
    rintro element ⟨⟩
    refine Trimmed.reverse ⟨?_, ?_⟩
    · rintro x ⟨⟩
      exact blank
    · rw [← List.cons_append, List.getLast?_concat]
      rintro x ⟨⟩
      exact nonblank
  | cut hn =>
    obtain ⟨front, f, rfl, nonblank⟩ := first trivial
    refine ⟨.of_outside (not_inElement_of_delimits hn), ?_⟩
    rintro element ⟨⟩
    refine Trimmed.reverse ⟨last rfl, ?_⟩
    rw [List.getLast?_concat]
    rintro x ⟨⟩
    exact nonblank
  | delimited hd => exact ⟨.of_outside (not_inElement_of_delimits (.inl hd)), nofun⟩
  | ignored => exact ⟨.of_outside id, nofun⟩

/-- The elements that a scanner completes have no blanks around them. -/
lemma trimmed_of_push (begun : s.Begun) (bytes : List UInt8) :
    ∀ element ∈ (s.push bytes).elements, Trimmed element := by
  induction bytes generalizing s with
  | nil => nofun
  | cons b bytes ih =>
    cases hb : s.step b with
    | error problem =>
      rw [push_cons_of_error hb]
      nofun
    | ok stepped =>
      obtain ⟨s', completed⟩ := stepped
      obtain ⟨begun', trimmed⟩ := (takes_of_step hb).begun begun
      rw [push_cons_of_ok hb]
      intro element h
      rcases List.mem_append.mp h with h | h
      · exact trimmed element (Option.mem_toList.mp h)
      · exact ih begun' element h

/-! ## The bytes that close an array -/

/-- Bytes behind an element that close the array: with `items` yet to come, if any. -/
inductive Closes : List (List UInt8) → List UInt8 → Prop where
  | last {w after : List UInt8} :
    Blanks w →
    Closes [] (w ++ 0x5D :: after)
  | next {items : List (List UInt8)} {w body after : List UInt8} :
    Blanks w → Derives (.items items) body →
    Closes items (w ++ 0x2C :: body ++ 0x5D :: after)

/-- Bytes that close the array from where a scanner stands, and the elements that they complete. -/
def Awaits (s : Scanner) (elements : List (List UInt8)) (bytes : List UInt8) : Prop :=
  match s.state with
  | .opening =>
    ∃ before array after, Blanks before ∧ IsArray elements array ∧ bytes = before ++ array ++ after
  | .first =>
    ∃ body after, (elements = [] ∧ Blanks body ∨ Derives (.items elements) body) ∧
      bytes = body ++ 0x5D :: after
  | .element => ∃ body after, Derives (.items elements) body ∧ bytes = body ++ 0x5D :: after
  | .inside _ _ | .scalar =>
    ∃ more rest back, elements = (s.pending.reverse ++ more) :: rest ∧ bytes = more ++ back ∧
      Closes rest back
  | .separator => Closes elements bytes
  | .closed => elements = []

variable {items elements : List (List UInt8)} {bytes : List UInt8}

/-- One blank more is still nothing but blanks. -/
lemma Blanks.cons (hb : IsBlank b) {text : List UInt8} (h : Blanks text) : Blanks (b :: text) :=
  List.forall_mem_cons.mpr ⟨hb, h⟩

/-- Before bytes that close an array a blank may stand. -/
lemma Closes.cons_blank (hb : IsBlank b) (h : Closes items bytes) : Closes items (b :: bytes) := by
  cases h with
  | last hw => exact .last (Blanks.cons hb hw)
  | next hw body => exact .next (Blanks.cons hb hw) body

/-- Before the items of an array a blank may stand. -/
lemma items_cons_blank {body : List UInt8} (hb : IsBlank b) (h : Derives (.items items) body) :
    Derives (.items items) (b :: body) := by
  cases h with
  | lastItem hv h hw => exact .lastItem (Blanks.cons hb hv) h hw
  | nextItem hv h hw rest => exact .nextItem (Blanks.cons hb hv) h hw rest

/-- A comma or a closing bracket, or a blank in front of them, is behind an element. -/
lemma closes_of_awaits {next : State} (hd : Delimits b next ∨ IsBlank b ∧ next = .separator)
    (h : Awaits ⟨next, []⟩ elements bytes) : Closes elements (b :: bytes) := by
  rcases hd with (⟨rfl, rfl⟩ | ⟨rfl, rfl⟩) | ⟨blank, rfl⟩
  · obtain ⟨body, after, items, rfl⟩ := h
    exact .next (w := []) nofun items
  · cases h
    exact .last (w := []) nofun
  · exact Closes.cons_blank blank h

/-- An element and the bytes behind it that close the array make up its items. -/
lemma items_of_closes {item : List UInt8} (hi : IsValue item) (h : Closes items bytes) :
    ∃ body after, Derives (.items (item :: items)) body ∧ item ++ bytes = body ++ 0x5D :: after := by
  cases h with
  | @last w after hw =>
    refine ⟨_, after, .lastItem (v := []) nofun hi hw, ?_⟩
    rw [List.nil_append, List.append_assoc]
  | @next _ w body after hw items =>
    refine ⟨_, after, .nextItem (v := []) nofun hi hw items, ?_⟩
    simp

/-- What the scanner after a byte waits for, with that byte in front, is what the one before it
waits for. -/
lemma Takes.awaits (h : Takes b s s' completed) (awaits : s'.Awaits elements bytes)
    (values : ∀ element ∈ elements, IsValue element) :
    s.Awaits (completed.toList ++ elements) (b :: bytes) := by
  cases h with
  | opened e =>
    obtain ⟨body, after, items, rfl⟩ := awaits
    refine ⟨[], 0x5B :: body ++ [0x5D], after, nofun, ?_, ?_⟩
    · rcases items with ⟨rfl, blanks⟩ | items
      · exact .emptyArray blanks
      · exact .array items
    · simp [e]
  | @skipped state pending skips blank =>
    cases state with
    | opening =>
      obtain ⟨before, array, after, blanks, isArray, rfl⟩ := awaits
      exact ⟨b :: before, array, after, Blanks.cons blank blanks, isArray, rfl⟩
    | first =>
      obtain ⟨body, after, items, rfl⟩ := awaits
      refine ⟨b :: body, after, ?_, rfl⟩
      rcases items with ⟨rfl, blanks⟩ | items
      · exact .inl ⟨rfl, Blanks.cons blank blanks⟩
      · exact .inr (items_cons_blank blank items)
    | element =>
      obtain ⟨body, after, items, rfl⟩ := awaits
      exact ⟨b :: body, after, items_cons_blank blank items, rfl⟩
    | separator => exact Closes.cons_blank blank awaits
    | _ => simp [Skips] at skips
  | closed e =>
    cases awaits
    exact ⟨[], bytes, .inl ⟨rfl, nofun⟩, congrArg (· :: bytes) e⟩
  | @began state state' pending ready blank inElement =>
    -- the bytes up to `back` are the element, and it is known by now that they are a value
    have element : ∃ more rest back, elements = (b :: more) :: rest ∧ bytes = more ++ back ∧
        Closes rest back := by
      cases state' <;> first | exact awaits | exact absurd inElement id
    obtain ⟨more, rest, back, rfl, rfl, closes⟩ := element
    obtain ⟨body, after, items, e⟩ := items_of_closes (values _ (List.mem_cons_self ..)) closes
    rcases ready with rfl | rfl
    · exact ⟨body, after, .inr items, e⟩
    · exact ⟨body, after, items, e⟩
  | kept =>
    obtain ⟨more, rest, back, rfl, rfl, closes⟩ := awaits
    refine ⟨b :: more, rest, back, ?_, rfl, closes⟩
    simp
  | keptScalar _ =>
    obtain ⟨more, rest, back, rfl, rfl, closes⟩ := awaits
    refine ⟨b :: more, rest, back, ?_, rfl, closes⟩
    simp
  | completed _ =>
    refine ⟨[b], elements, bytes, ?_, rfl, awaits⟩
    simp
  | cut hd =>
    refine ⟨[], elements, b :: bytes, ?_, rfl, closes_of_awaits hd awaits⟩
    simp
  | delimited hd => exact closes_of_awaits (.inl hd) awaits
  | ignored => exact awaits

/-- Bytes that close the array are those that the scanner waits for, if their elements are values. -/
lemma awaits_of_push (clean : (s.push bytes).problem = none)
    (closed : (s.push bytes).scanner.state = .closed)
    (values : ∀ element ∈ (s.push bytes).elements, IsValue element) :
    s.Awaits (s.push bytes).elements bytes := by
  -- backwards from the closing bracket: what a byte belongs to shows only at the end of its element
  induction bytes generalizing s with
  | nil =>
    unfold Awaits
    rw [show s.state = .closed from closed]
    rfl
  | cons b bytes ih =>
    cases hb : s.step b with
    | error problem =>
      rw [push_cons_of_error hb] at clean
      cases clean
    | ok stepped =>
      obtain ⟨s', completed⟩ := stepped
      rw [push_cons_of_ok hb] at clean closed values ⊢
      have values' : ∀ element ∈ (s'.push bytes).elements, IsValue element :=
        fun element h => values element (List.mem_append_right _ h)
      exact (takes_of_step hb).awaits (ih clean closed values') values'

/-! ## Arrays and nothing else -/

/-- Chunks are taken without a problem, the closing bracket among them, and complete these
elements. -/
def Accepts (chunks elements : List (List UInt8)) : Prop :=
  (∀ pushed ∈ initial.pushAll chunks, pushed.problem = none) ∧
    (initial.afterAll chunks).finish = .ok () ∧
    (initial.pushAll chunks).flatMap (·.elements) = elements

/-- Chunks are accepted just if their bytes are read as one text, up to the closing bracket. -/
lemma accepts_iff {chunks : List (List UInt8)} :
    Accepts chunks elements ↔
      ∃ s, s.state = .closed ∧ initial.Reads chunks.flatten elements s := by
  constructor
  · rintro ⟨clean, finished, rfl⟩
    exact ⟨_, finish_eq_ok_iff.mp finished, pushAll_of_clean clean⟩
  · rintro ⟨s, closed, reads⟩
    have clean := pushAll_clean_iff.mpr (congrArg Pushed.problem reads)
    have pushed := (pushAll_of_clean clean).symm.trans reads
    have scanner : initial.afterAll chunks = s := congrArg Pushed.scanner pushed
    rw [← scanner] at closed
    exact ⟨clean, finish_eq_ok_iff.mpr closed, congrArg Pushed.elements pushed⟩

/-- Chunks are accepted with elements that are JSON texts, exactly if their bytes are an array with
these items, with blanks before it and anything after it. -/
theorem accepts_iff_isArray (chunks elements : List (List UInt8)) :
    (Accepts chunks elements ∧ ∀ element ∈ elements, IsText element) ↔
      ∃ before array after, Blanks before ∧ IsArray elements array ∧
        chunks.flatten = before ++ array ++ after := by
  rw [accepts_iff]
  constructor
  · -- the bytes are those that the scanner waits for at the start
    rintro ⟨⟨s, closed, reads⟩, texts⟩
    have trimmed := trimmed_of_push (s := initial) (.of_outside id) chunks.flatten
    have values : ∀ element ∈ (initial.push chunks.flatten).elements, IsValue element := by
      intro element h
      have text := trimmed element h
      rw [reads] at h
      exact isValue_of_isText (texts element h) text
    have awaits := awaits_of_push (by rw [reads]) (by rw [reads]; exact closed) values
    rw [reads] at awaits
    exact awaits
  · -- the array is read to its bracket, and what is behind that is ignored
    rintro ⟨before, array, after, blanks, isArray, e⟩
    have front : initial.Reads (before ++ array) elements ⟨.closed, []⟩ :=
      (reads_blanks (by simp [Skips]) blanks).append (reads_array isArray)
    have closed : (initial.push (before ++ array)).scanner.state = .closed := by rw [front]
    obtain ⟨closed', elements', problem'⟩ := push_append_of_closed closed after
    have completed : (initial.push (before ++ array ++ after)).elements = elements := by
      rw [elements', front]
    rw [e]
    refine ⟨⟨_, closed', ?_⟩, fun element h => ?_⟩
    · rw [Reads, ← completed, ← problem']
    · exact (isValue_of_mem_array isArray element h).isText

end Sidecar.Scanner
