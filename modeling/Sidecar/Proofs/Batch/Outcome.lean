import Sidecar.Batch.Whole
import Sidecar.Proofs.Batch.Scanning

/-!
# The outcome of decoding

What decoding comes to if nobody interferes, from any point on: `decodeFrom` with a scanner that has
seen the front of the body, `decodePending` with elements that are still to be decoded. A chunk takes
the one to the other (`decodeFrom_chunk`), an element that is an event goes from what is pending to
what has been sent (`decodePending_of_ok`), and that is all there is to decoding in pieces.
-/

namespace Sidecar

/-- The events of a body, and the result of decoding it. -/
abbrev Outcome (ε : Type) := List ε × Except DecodeError Nat

variable {ε : Type} {decode : List UInt8 → Except DecodeError ε}

/-! ## Elements -/

/-- The first element that cannot be decoded ends decoding. -/
lemma decodeAll_cons_of_error {raw : List UInt8} {e : DecodeError} (h : decode raw = .error e)
    (rest : List (List UInt8)) : decodeAll decode (raw :: rest) = ([], some e) := by
  rw [decodeAll, h]

/-- An element that can be decoded is an event, and decoding goes on behind it. -/
lemma decodeAll_cons_of_ok {raw : List UInt8} {event : ε} (h : decode raw = .ok event)
    (rest : List (List UInt8)) :
    decodeAll decode (raw :: rest) =
      (event :: (decodeAll decode rest).1, (decodeAll decode rest).2) := by
  rw [decodeAll, h]

/-- Elements after others are decoded unless one of these is no event. -/
lemma decodeAll_append_of_none {front back : List (List UInt8)}
    (h : (decodeAll decode front).2 = none) :
    decodeAll decode (front ++ back) =
      ((decodeAll decode front).1 ++ (decodeAll decode back).1, (decodeAll decode back).2) := by
  induction front with
  | nil => rfl
  | cons raw front ih =>
    cases hr : decode raw with
    | error e =>
      rw [decodeAll_cons_of_error hr] at h
      cases h
    | ok event =>
      rw [decodeAll_cons_of_ok hr] at h
      rw [List.cons_append, decodeAll_cons_of_ok hr, decodeAll_cons_of_ok hr, ih h]
      rfl

/-- Behind an element that is no event none is decoded. -/
lemma decodeAll_append_of_some {front back : List (List UInt8)} {e : DecodeError}
    (h : (decodeAll decode front).2 = some e) :
    decodeAll decode (front ++ back) = decodeAll decode front := by
  induction front with
  | nil => cases h
  | cons raw front ih =>
    cases hr : decode raw with
    | error e' =>
      rw [List.cons_append, decodeAll_cons_of_error hr, decodeAll_cons_of_error hr]
    | ok event =>
      rw [decodeAll_cons_of_ok hr] at h
      rw [List.cons_append, decodeAll_cons_of_ok hr, decodeAll_cons_of_ok hr, ih h]

/-- The events are the decodings of the first elements, one for each. -/
lemma map_decode_take {elements : List (List UInt8)} {events : List ε}
    (h : events <+: (decodeAll decode elements).1) :
    events.length ≤ elements.length ∧
      (elements.take events.length).map decode = events.map .ok := by
  induction elements generalizing events with
  | nil =>
    have none : events = [] := List.prefix_nil.mp h
    rw [none]
    exact ⟨Nat.le_refl _, rfl⟩
  | cons raw elements ih =>
    cases events with
    | nil => exact ⟨Nat.zero_le _, rfl⟩
    | cons event events =>
      cases hr : decode raw with
      | error e =>
        rw [decodeAll_cons_of_error hr] at h
        cases List.prefix_nil.mp h
      | ok event' =>
        rw [decodeAll_cons_of_ok hr] at h
        obtain ⟨rfl, rest⟩ := List.cons_prefix_cons.mp h
        obtain ⟨length, first⟩ := ih rest
        refine ⟨Nat.succ_le_succ length, ?_⟩
        rw [List.length_cons, List.take_succ_cons, List.map_cons, List.map_cons, hr, first]

/-- If all elements can be decoded there is an event for each. -/
lemma length_of_decodeAll {elements : List (List UInt8)}
    (h : (decodeAll decode elements).2 = none) :
    (decodeAll decode elements).1.length = elements.length := by
  induction elements with
  | nil => rfl
  | cons raw elements ih =>
    cases hr : decode raw with
    | error e =>
      rw [decodeAll_cons_of_error hr] at h
      cases h
    | ok event =>
      rw [decodeAll_cons_of_ok hr] at h ⊢
      rw [List.length_cons, List.length_cons, ih h]

/-- The element that is no event is the one behind those of the events. -/
lemma getElem?_of_decodeAll {elements : List (List UInt8)} {e : DecodeError}
    (h : (decodeAll decode elements).2 = some e) :
    ∃ raw, elements[(decodeAll decode elements).1.length]? = some raw ∧ decode raw = .error e := by
  induction elements with
  | nil => cases h
  | cons raw elements ih =>
    cases hr : decode raw with
    | error e' =>
      rw [decodeAll_cons_of_error hr] at h ⊢
      cases h
      exact ⟨raw, rfl, hr⟩
    | ok event =>
      rw [decodeAll_cons_of_ok hr] at h ⊢
      exact ih h

/-! ## Outcomes from any point on -/

/-- The outcome of a body for a scanner that has seen what came before it, with some events sent. -/
def decodeFrom (decode : List UInt8 → Except DecodeError ε) (scanner : Scanner) (sent : Nat)
    (items : List Body.Item) : Outcome ε :=
  let pushed := scanner.push (Body.readable items)
  let (events, undecodable) := decodeAll decode pushed.elements
  let result : Except DecodeError Nat :=
    match undecodable, pushed.problem with
    | some e, _ => .error e
    | none, some problem => .error problem.error
    | none, none =>
      match pushed.scanner.finish, Body.failure? items with
      | .ok (), _ => .ok (sent + events.length)
      | .error _, some cause => .error (.body cause)
      | .error problem, none => .error problem.error
  (events, result)

/-- The outcome if some elements, and the problem behind them, come before the rest of the body. -/
def decodePending (decode : List UInt8 → Except DecodeError ε) (elements : List (List UInt8))
    (problem : Option Scanner.Problem) (scanner : Scanner) (sent : Nat)
    (items : List Body.Item) : Outcome ε :=
  let events := (decodeAll decode elements).1
  match (decodeAll decode elements).2, problem with
  | some e, _ => (events, .error e)
  | none, some problem => (events, .error problem.error)
  | none, none =>
    let outcome := decodeFrom decode scanner (sent + events.length) items
    (events ++ outcome.1, outcome.2)

/-- A whole body is decoded from the start of a scanner on, with nothing sent. -/
lemma decodeWhole_eq (items : List Body.Item) :
    decodeWhole decode items = decodeFrom decode .initial 0 items := by
  unfold decodeWhole decodeFrom
  dsimp only
  cases (decodeAll decode (Scanner.initial.push (Body.readable items)).elements).2 with
  | some e => rfl
  | none =>
    cases (Scanner.initial.push (Body.readable items)).problem with
    | some problem => rfl
    | none =>
      cases (Scanner.initial.push (Body.readable items)).scanner.finish with
      | error problem => cases Body.failure? items <;> rfl
      | ok _ => simp only [Nat.zero_add]

/-- A body scanned as one text. -/
def Body.scanned (items : List Body.Item) : Scanner.Pushed :=
  Scanner.initial.push (Body.readable items)

/-- Decoding succeeds if every element is an event and the closing bracket is there, and then the
result is the number of elements. -/
lemma decodeWhole_ok {items : List Body.Item} {n : Nat}
    (h : (decodeWhole decode items).2 = .ok n) :
    n = (decodeWhole decode items).1.length ∧ n = (Body.scanned items).elements.length ∧
      (Body.scanned items).scanner.state = .closed ∧
      (decodeAll decode (Body.scanned items).elements).2 = none := by
  have events : (decodeWhole decode items).1 = (decodeAll decode (Body.scanned items).elements).1 :=
    rfl
  rw [events]
  unfold decodeWhole at h
  dsimp only at h
  split at h
  · cases h
  · cases h
  · next undecodable _ =>
    split at h
    · next finish =>
      cases h
      have closed := Scanner.finish_eq_ok_iff.mp finish
      exact ⟨rfl, length_of_decodeAll undecodable, closed, undecodable⟩
    · cases h
    · cases h

/-- Decoding fails with the error of an element, with a problem of the array, or with the body. -/
lemma decodeWhole_error {items : List Body.Item} {e : DecodeError}
    (h : (decodeWhole decode items).2 = .error e) :
    (decodeAll decode (Body.scanned items).elements).2 = some e ∨
      (∃ problem : Scanner.Problem, e = problem.error) ∨ ∃ cause, e = .body cause := by
  unfold decodeWhole at h
  dsimp only at h
  split at h
  · next undecodable =>
    cases h
    exact .inl undecodable
  · cases h
    exact .inr (.inl ⟨_, rfl⟩)
  · split at h
    · cases h
    · cases h
      exact .inr (.inr ⟨_, rfl⟩)
    · cases h
      exact .inr (.inl ⟨_, rfl⟩)

/-- A chunk is scanned, and its elements are decoded before the rest of the body. -/
lemma decodeFrom_chunk (scanner : Scanner) (sent : Nat) (bytes : List UInt8)
    (items : List Body.Item) :
    decodeFrom decode scanner sent (.chunk bytes :: items) =
      decodePending decode (scanner.push bytes).elements (scanner.push bytes).problem
        (scanner.push bytes).scanner sent items := by
  have readable : Body.readable (.chunk bytes :: items) = bytes ++ Body.readable items := rfl
  have failure : Body.failure? (.chunk bytes :: items) = Body.failure? items := rfl
  cases problem : (scanner.push bytes).problem with
  | some p =>
    -- pushed at once, the bytes are not read beyond the problem either
    simp only [decodeFrom, decodePending, readable, Scanner.push_append_of_problem problem, problem]
    cases (decodeAll decode (scanner.push bytes).elements).2 <;> rfl
  | none =>
    simp only [decodeFrom, decodePending, readable, failure, Scanner.push_append_of_clean problem]
    cases undecodable : (decodeAll decode (scanner.push bytes).elements).2 with
    | some e => rw [decodeAll_append_of_some undecodable, undecodable]
    | none =>
      rw [decodeAll_append_of_none undecodable]
      simp only [List.length_append, Nat.add_assoc]

/-- At the end of a body decoding succeeds just if the text may end there. -/
lemma decodeFrom_nil (scanner : Scanner) (sent : Nat) :
    decodeFrom decode scanner sent [] =
      ([], match scanner.finish with
        | .ok () => .ok sent
        | .error problem => .error problem.error) := by
  cases h : scanner.finish <;>
    simp [decodeFrom, Body.readable, Body.failure?, Scanner.push, decodeAll, h]

/-- A failure of the body counts as long as the array is open. -/
lemma decodeFrom_failure {scanner : Scanner} (h : scanner.state ≠ .closed) (sent : Nat)
    (cause : Failure) (items : List Body.Item) :
    decodeFrom decode scanner sent (.failure cause :: items) = ([], .error (.body cause)) := by
  cases hf : scanner.finish with
  | ok => exact absurd (Scanner.finish_eq_ok_iff.mp hf) h
  | error problem =>
    simp [decodeFrom, Body.readable, Body.failure?, Scanner.push, decodeAll, hf]

/-- After the closing bracket nothing counts any more. -/
lemma decodeFrom_of_closed {scanner : Scanner} (h : scanner.state = .closed) (sent : Nat)
    (items : List Body.Item) : decodeFrom decode scanner sent items = ([], .ok sent) := by
  obtain ⟨closed, elements, problem⟩ := Scanner.push_of_closed h (Body.readable items)
  have finish := Scanner.finish_eq_ok_iff.mpr closed
  simp [decodeFrom, elements, problem, finish, decodeAll]

/-! ## Pending elements -/

/-- An element that cannot be decoded counts before the problem behind it. -/
lemma decodePending_of_undecodable {elements : List (List UInt8)} {events : List ε}
    {e : DecodeError} (h : decodeAll decode elements = (events, some e))
    (problem : Option Scanner.Problem) (scanner : Scanner) (sent : Nat) (items : List Body.Item) :
    decodePending decode elements problem scanner sent items = (events, .error e) := by
  simp only [decodePending, h]

/-- If all elements can be decoded the problem behind them counts. -/
lemma decodePending_of_problem {elements : List (List UInt8)} {events : List ε}
    (h : decodeAll decode elements = (events, none)) (problem : Scanner.Problem)
    (scanner : Scanner) (sent : Nat) (items : List Body.Item) :
    decodePending decode elements (some problem) scanner sent items =
      (events, .error problem.error) := by
  simp only [decodePending, h]

/-- If there is no problem either the rest of the body counts, behind the events. -/
lemma decodePending_of_events {elements : List (List UInt8)} {events : List ε}
    (h : decodeAll decode elements = (events, none)) (scanner : Scanner) (sent : Nat)
    (items : List Body.Item) :
    decodePending decode elements none scanner sent items =
      (events ++ (decodeFrom decode scanner (sent + elements.length) items).1,
        (decodeFrom decode scanner (sent + elements.length) items).2) := by
  have length : (decodeAll decode elements).1.length = elements.length :=
    length_of_decodeAll (by rw [h])
  rw [← length]
  simp only [decodePending, h]

/-- The first element decides if it cannot be decoded. -/
lemma decodePending_of_error {raw : List UInt8} {e : DecodeError} (h : decode raw = .error e)
    (elements : List (List UInt8)) (problem : Option Scanner.Problem) (scanner : Scanner)
    (sent : Nat) (items : List Body.Item) :
    decodePending decode (raw :: elements) problem scanner sent items = ([], .error e) := by
  simp only [decodePending, decodeAll_cons_of_error h]

/-- If it can be, its event comes before the outcome of the others. -/
lemma decodePending_of_ok {raw : List UInt8} {event : ε} (h : decode raw = .ok event)
    (elements : List (List UInt8)) (problem : Option Scanner.Problem) (scanner : Scanner)
    (sent : Nat) (items : List Body.Item) :
    decodePending decode (raw :: elements) problem scanner sent items =
      (event :: (decodePending decode elements problem scanner (sent + 1) items).1,
        (decodePending decode elements problem scanner (sent + 1) items).2) := by
  simp only [decodePending, decodeAll_cons_of_ok h]
  cases (decodeAll decode elements).2 with
  | some e => rfl
  | none =>
    cases problem with
    | some p => rfl
    | none => simp only [List.length_cons, List.cons_append, Nat.add_assoc, Nat.add_comm 1]

/-- Whatever comes after them, the events of the pending elements come first. -/
lemma decodeAll_prefix_decodePending (elements : List (List UInt8))
    (problem : Option Scanner.Problem) (scanner : Scanner) (sent : Nat)
    (items : List Body.Item) :
    (decodeAll decode elements).1 <+:
      (decodePending decode elements problem scanner sent items).1 := by
  unfold decodePending
  cases (decodeAll decode elements).2 with
  | some e => exact List.prefix_rfl
  | none =>
    cases problem with
    | some p => exact List.prefix_rfl
    | none => exact List.prefix_append _ _

/-- With no elements the rest of the body counts alone. -/
lemma decodePending_nil (scanner : Scanner) (sent : Nat) (items : List Body.Item) :
    decodePending decode [] none scanner sent items = decodeFrom decode scanner sent items :=
  rfl

end Sidecar
