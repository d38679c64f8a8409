import Mathlib.Data.List.Induction
import Sidecar.Proofs.Batch.Acceptance

/-!
# What a scanner has pending

Bytes are pending just while a scanner is inside an element, and brackets are open there, no more than bytes
are pending (`Sound`). A byte that is taken keeps this (`Sound.step`), and so does a chunk (`Sound.push`). The
pending bytes are the last that have been taken, all since the scanner was ready for the element
(`exists_isSince`).
-/

namespace Sidecar.Scanner
open Json

variable {s s' : Scanner} {state : State} {b : UInt8} {bytes pending : List UInt8}

/-! ## Sound scanners -/

/-- In a string that is an element by itself no bracket is open. -/
inductive Sound : Scanner → Prop where
  | outside {state : State} :
    ¬state.InElement →
    Sound ⟨state, []⟩
  | inside {depth : Nat} {mode : Mode} {pending : List UInt8} :
    pending ≠ [] → depth ≤ pending.length → (mode = .plain → 0 < depth) →
    Sound ⟨.inside depth mode, pending⟩
  | scalar {pending : List UInt8} :
    pending ≠ [] →
    Sound ⟨.scalar, pending⟩

/-- A scanner is sound at the start. -/
lemma sound_initial : initial.Sound := .outside id

/-- Bytes are pending just while the scanner is in an element. -/
lemma Sound.pending_iff (sound : s.Sound) : s.pending ≠ [] ↔ s.state.InElement := by
  cases sound with
  | outside notIn => exact iff_of_false (fun nonempty => nonempty rfl) notIn
  | inside nonempty => exact iff_of_true nonempty trivial
  | scalar nonempty => exact iff_of_true nonempty trivial

/-- No more brackets are open than bytes are pending, and outside strings there is at least one. -/
lemma Sound.depth {depth : Nat} {mode : Mode} (sound : s.Sound) (inside : s.state = .inside depth mode) :
    depth ≤ s.pending.length ∧ (mode = .plain → 0 < depth) := by
  cases sound with
  | outside notIn =>
    cases inside
    exact absurd trivial notIn
  | inside _ bound bracketed =>
    cases inside
    exact ⟨bound, bracketed⟩
  | scalar => cases inside

/-! ## A byte keeps a scanner sound -/

/-- The scanner after a byte is sound, and an element that the byte completes is not empty. -/
def Stepped.IsSound (stepped : Stepped) : Prop :=
  stepped.1.Sound ∧ ∀ element ∈ stepped.2, element ≠ []

/-- Leaving an element without completing it is sound. -/
lemma isSound_goto (notIn : ¬state.InElement) : (goto state).IsSound :=
  ⟨.outside notIn, nofun⟩

/-- So is keeping a byte of a number or a literal. -/
lemma isSound_scalar : (stay .scalar (b :: pending)).IsSound :=
  ⟨.scalar nofun, nofun⟩

/-- So is completing an element that has bytes. -/
lemma isSound_complete (nonempty : pending ≠ []) (notIn : ¬state.InElement) :
    (complete pending state).IsSound := by
  refine ⟨.outside notIn, ?_⟩
  rintro element ⟨⟩
  exact mt List.reverse_eq_nil_iff.mp nonempty

/-- So is starting one. -/
lemma isSound_start {stepped : Stepped} (h : start b = .ok stepped) : stepped.IsSound := by
  unfold start at h
  split at h
  case h_1 | h_2 =>
    cases h
    exact ⟨.inside nofun (Nat.le_refl 1) fun _ => Nat.one_pos, nofun⟩
  case h_3 =>
    cases h
    exact ⟨.inside nofun (Nat.zero_le 1) nofun, nofun⟩
  case h_8 | h_9 | h_10 =>
    cases h
    exact isSound_scalar
  all_goals cases h

/-- The byte is pending already, so that the depth may grow by one. -/
lemma isSound_within {depth : Nat} {mode : Mode} (bound : depth < pending.length)
    (bracketed : mode = .plain → 0 < depth) : (within depth mode b pending).IsSound := by
  have nonempty : pending ≠ [] := List.ne_nil_of_length_pos (Nat.zero_lt_of_lt bound)
  unfold within
  split
  case h_1 | h_2 | h_4 | h_5 => exact ⟨.inside nonempty (by omega) nofun, nofun⟩
  case h_6 | h_7 | h_10 => exact ⟨.inside nonempty (by omega) (by omega), nofun⟩
  case h_3 =>
    split
    · exact isSound_complete nonempty id
    · exact ⟨.inside nonempty (by omega) (by omega), nofun⟩
  case h_8 | h_9 =>
    have := bracketed rfl
    split
    · exact isSound_complete nonempty id
    · exact ⟨.inside nonempty (by omega) (by omega), nofun⟩

/-- So is what a delimiter does. -/
lemma isSound_separate {stepped : Stepped} {take : State → Stepped}
    (takes : ∀ {next : State}, ¬next.InElement → (take next).IsSound)
    (h : (separate b).map take = .ok stepped) : stepped.IsSound := by
  cases separated : separate b with
  | error problem =>
    rw [separated] at h
    cases h
  | ok next =>
    rw [separated] at h
    cases h
    exact takes (not_inElement_of_delimits (separate_eq_ok separated))

/-- Every byte keeps a scanner sound, whatever it does. -/
lemma Sound.step {stepped : Stepped} (sound : s.Sound) (h : s.step b = .ok stepped) :
    stepped.IsSound := by
  cases sound with
  | @outside state notIn =>
    cases state with
    | opening | first | element =>
      simp only [Scanner.step] at h
      split at h
      all_goals first | exact isSound_start h | cases h
      all_goals exact isSound_goto id
    | inside | scalar => exact absurd trivial notIn
    | separator => exact isSound_separate isSound_goto h
    | closed =>
      cases h
      exact isSound_goto id
  | inside _ bound bracketed =>
    cases h
    exact isSound_within (Nat.lt_succ_of_le bound) bracketed
  | scalar nonempty =>
    simp only [Scanner.step] at h
    split at h
    case h_4 =>
      cases h
      exact isSound_scalar
    all_goals exact isSound_separate (isSound_complete nonempty) h

/-- A chunk leaves a scanner sound, and none of the elements that it completes is empty. -/
lemma Sound.push (sound : s.Sound) (bytes : List UInt8) :
    (s.push bytes).scanner.Sound ∧ ∀ element ∈ (s.push bytes).elements, element ≠ [] := by
  induction bytes generalizing s with
  | nil => exact ⟨sound, nofun⟩
  | cons b bytes ih =>
    cases stepped : s.step b with
    | error problem =>
      rw [push_cons_of_error stepped]
      exact ⟨sound, nofun⟩
    | ok result =>
      obtain ⟨s', completed⟩ := result
      obtain ⟨sound', nonempty⟩ := sound.step stepped
      obtain ⟨later, rest⟩ := ih sound'
      rw [push_cons_of_ok stepped]
      refine ⟨later, fun element mem => ?_⟩
      rcases List.mem_append.mp mem with first | mem
      · exact nonempty element (Option.mem_toList.mp first)
      · exact rest element mem

/-! ## Pending bytes are the last that have been taken -/

/-- Since `front` the scanner has been in one element: it was ready for one then, and has kept every byte
from there on. -/
structure IsSince (s : Scanner) (front element : List UInt8) : Prop where
  ready : Ready (s.push front).scanner.state
  kept : ∀ part, part ≠ [] → part <+: element → (s.push (front ++ part)).scanner.pending = part.reverse

/-- Where an element may start there is nothing of it yet. -/
lemma IsSince.nil {front : List UInt8} (ready : Ready (s.push front).scanner.state) :
    s.IsSince front [] :=
  ⟨ready, fun _ nonempty isPart => absurd (List.prefix_nil.mp isPart) nonempty⟩

/-- A byte that is kept goes to the end of the element. -/
lemma IsSince.concat {front element : List UInt8} (since : s.IsSince front element)
    (next : (s.push (front ++ (element ++ [b]))).scanner.pending = b :: element.reverse) :
    s.IsSince front (element ++ [b]) := by
  refine ⟨since.ready, fun part nonempty isPart => ?_⟩
  rcases List.prefix_concat_iff.mp isPart with rfl | earlier
  · rw [next, List.reverse_concat]
  · exact since.kept part nonempty earlier

/-- The last byte of a text that is taken whole was taken by a step. -/
lemma exists_step_of_clean {front : List UInt8} (clean : (s.push (front ++ [b])).problem = none) :
    ∃ s' completed, (s.push front).scanner.step b = .ok (s', completed) ∧
      (s.push (front ++ [b])).scanner = s' := by
  have clean' := clean_of_append clean
  rw [push_append_of_clean clean'] at clean ⊢
  cases stepped : (s.push front).scanner.step b with
  | error problem =>
    rw [push_cons_of_error stepped] at clean
    cases clean
  | ok result =>
    obtain ⟨s', completed⟩ := result
    rw [push_cons_of_ok stepped]
    exact ⟨s', completed, rfl, rfl⟩

/-- In an element the pending bytes are the last ones taken, from the place where it started. -/
lemma exists_isSince {text : List UInt8} (outside : ¬s.state.InElement)
    (clean : (s.push text).problem = none) (inElement : (s.push text).scanner.state.InElement) :
    ∃ front, text = front ++ (s.push text).scanner.pending.reverse ∧
      s.IsSince front (s.push text).scanner.pending.reverse := by
  -- along the bytes from the last one: it begins the element, or goes on with it
  induction text using List.reverseRecOn with
  | nil => exact absurd inElement outside
  | append_singleton text b ih =>
    obtain ⟨s', completed, stepped, after⟩ := exists_step_of_clean clean
    have earlier : ∃ front element, text = front ++ element ∧ s.IsSince front element ∧
        s'.pending = b :: element.reverse := by
      rw [after] at inElement
      have later (inside : (s.push text).scanner.state.InElement)
          (kept : s'.pending = b :: (s.push text).scanner.pending) :
          ∃ front element, text = front ++ element ∧ s.IsSince front element ∧
            s'.pending = b :: element.reverse := by
        obtain ⟨front, split, since⟩ := ih (clean_of_append clean) inside
        exact ⟨front, _, split, since, by rw [kept, List.reverse_reverse]⟩
      generalize same : (s.push text).scanner = before at stepped later
      cases takes_of_step stepped with
      | began ready => exact ⟨text, [], (List.append_nil _).symm, .nil (same ▸ ready), rfl⟩
      | kept | keptScalar => exact later trivial rfl
      | skipped skips => exact absurd inElement (not_inElement_of_skips skips)
      | cut next => exact absurd inElement (not_inElement_of_delimits next)
      | delimited next => exact absurd inElement (not_inElement_of_delimits (.inl next))
      | opened | closed | completed | ignored => exact absurd inElement id
    obtain ⟨front, element, rfl, since, pending⟩ := earlier
    rw [after, pending, List.reverse_cons, List.reverse_reverse, List.append_assoc]
    refine ⟨front, rfl, since.concat ?_⟩
    rw [← List.append_assoc, after, pending]

end Sidecar.Scanner
