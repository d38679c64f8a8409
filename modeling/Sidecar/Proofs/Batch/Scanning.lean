import Mathlib.Tactic.Lemma
import Sidecar.Batch.Scanner

/-!
# Scanning in pieces

How `Scanner.push` behaves on texts that are put together: a text after another (`push_append_of_clean`,
`push_append_of_problem`), and chunks pushed one by one against the same bytes pushed at once
(`pushAll_clean_iff`). After the closing bracket a scanner takes any bytes and completes nothing more
(`push_of_closed`), so a text that closes the array has no problem (`problem_of_closed`).
-/

namespace Sidecar.Scanner

/-! ## One byte at a time -/

/-- A byte that is taken comes before the rest of the chunk. -/
lemma push_cons_of_ok {s s' : Scanner} {b : UInt8} {rest : List UInt8}
    {completed : Option (List UInt8)} (h : s.step b = .ok (s', completed)) :
    s.push (b :: rest) =
      ⟨(s'.push rest).scanner, completed.toList ++ (s'.push rest).elements,
        (s'.push rest).problem⟩ := by
  rw [push, h]

/-- A byte that is refused ends the chunk, and the scanner stays as it was before it. -/
lemma push_cons_of_error {s : Scanner} {b : UInt8} {rest : List UInt8} {problem : Problem}
    (h : s.step b = .error problem) : s.push (b :: rest) = ⟨s, [], some problem⟩ := by
  rw [push, h]

/-! ## Texts put together -/

/-- A text after one without a problem goes on where that one ends. -/
lemma push_append_of_clean {s : Scanner} {front back : List UInt8}
    (h : (s.push front).problem = none) :
    s.push (front ++ back) =
      ⟨((s.push front).scanner.push back).scanner,
        (s.push front).elements ++ ((s.push front).scanner.push back).elements,
        ((s.push front).scanner.push back).problem⟩ := by
  induction front generalizing s with
  | nil => rfl
  | cons b front ih =>
    cases hb : s.step b with
    | error problem =>
      rw [push_cons_of_error hb] at h
      cases h
    | ok stepped =>
      obtain ⟨s', completed⟩ := stepped
      rw [push_cons_of_ok hb] at h
      rw [List.cons_append, push_cons_of_ok hb, push_cons_of_ok hb, ih h, List.append_assoc]

/-- Behind a problem nothing is read. -/
lemma push_append_of_problem {s : Scanner} {front back : List UInt8} {problem : Problem}
    (h : (s.push front).problem = some problem) : s.push (front ++ back) = s.push front := by
  induction front generalizing s with
  | nil => cases h
  | cons b front ih =>
    cases hb : s.step b with
    | error problem' => rw [List.cons_append, push_cons_of_error hb, push_cons_of_error hb]
    | ok stepped =>
      obtain ⟨s', completed⟩ := stepped
      rw [push_cons_of_ok hb] at h
      rw [List.cons_append, push_cons_of_ok hb, push_cons_of_ok hb, ih h]

/-- A text that is taken whole is taken up to anywhere. -/
lemma clean_of_append {s : Scanner} {front back : List UInt8}
    (h : (s.push (front ++ back)).problem = none) : (s.push front).problem = none := by
  cases hf : (s.push front).problem with
  | none => rfl
  | some problem =>
    rw [push_append_of_problem hf, hf] at h
    cases h

/-- More bytes complete more elements, behind those that are complete. -/
lemma elements_prefix_append (s : Scanner) (front back : List UInt8) :
    (s.push front).elements <+: (s.push (front ++ back)).elements := by
  cases h : (s.push front).problem with
  | none =>
    rw [push_append_of_clean h]
    exact List.prefix_append _ _
  | some problem =>
    exact ⟨[], by rw [push_append_of_problem h, List.append_nil]⟩

/-! ## After the closing bracket -/

/-- An array is closed just if its closing bracket has been taken. -/
lemma isClosed_iff {s : Scanner} : s.isClosed = true ↔ s.state = .closed := by
  simp [isClosed]

/-- A text may end just if the array is closed. -/
lemma finish_eq_ok_iff {s : Scanner} : s.finish = .ok () ↔ s.state = .closed := by
  unfold finish
  cases s.state <;> simp

/-- Behind the closing bracket every byte is taken and means nothing. -/
lemma step_of_closed {s : Scanner} (h : s.state = .closed) (b : UInt8) :
    s.step b = .ok (⟨.closed, []⟩, none) := by
  rw [step, h]
  rfl

/-- After the closing bracket any bytes may come, and none of them counts. -/
lemma push_of_closed {s : Scanner} (h : s.state = .closed) (bytes : List UInt8) :
    (s.push bytes).scanner.state = .closed ∧ (s.push bytes).elements = [] ∧
      (s.push bytes).problem = none := by
  induction bytes generalizing s with
  | nil => exact ⟨h, rfl, rfl⟩
  | cons b bytes ih =>
    rw [push_cons_of_ok (step_of_closed h b)]
    exact ih rfl

/-- A problem is found in front of the closing bracket only. -/
lemma problem_of_closed {s : Scanner} {bytes : List UInt8}
    (h : (s.push bytes).scanner.state = .closed) : (s.push bytes).problem = none := by
  induction bytes generalizing s with
  | nil => rfl
  | cons b bytes ih =>
    cases hb : s.step b with
    | error problem =>
      rw [push_cons_of_error hb] at h
      rw [step_of_closed h b] at hb
      cases hb
    | ok stepped =>
      obtain ⟨s', completed⟩ := stepped
      rw [push_cons_of_ok hb] at h ⊢
      exact ih h

/-- What follows the closing bracket changes nothing of what has been found. -/
lemma push_append_of_closed {s : Scanner} {front : List UInt8}
    (h : (s.push front).scanner.state = .closed) (back : List UInt8) :
    (s.push (front ++ back)).scanner.state = .closed ∧
      (s.push (front ++ back)).elements = (s.push front).elements ∧
      (s.push (front ++ back)).problem = none := by
  obtain ⟨closed, elements, problem⟩ := push_of_closed h back
  rw [push_append_of_clean (problem_of_closed h), elements, List.append_nil]
  exact ⟨closed, rfl, problem⟩

/-! ## Chunks -/

/-- What pushing chunks one after the other does, chunk by chunk. A chunk is pushed also after one
that had a problem. -/
def pushAll (s : Scanner) : List (List UInt8) → List Pushed
  | [] => []
  | chunk :: rest => s.push chunk :: (s.push chunk).scanner.pushAll rest

/-- The scanner after chunks. -/
def afterAll (s : Scanner) (chunks : List (List UInt8)) : Scanner :=
  chunks.foldl (fun s chunk => (s.push chunk).scanner) s

/-- Chunks without a problem come to the same as their bytes at once. -/
lemma pushAll_of_clean {s : Scanner} {chunks : List (List UInt8)}
    (h : ∀ pushed ∈ s.pushAll chunks, pushed.problem = none) :
    s.push chunks.flatten =
      ⟨s.afterAll chunks, (s.pushAll chunks).flatMap (·.elements), none⟩ := by
  induction chunks generalizing s with
  | nil => rfl
  | cons chunk chunks ih =>
    obtain ⟨clean, later⟩ := List.forall_mem_cons.mp h
    have rest := ih later
    rw [List.flatten_cons, push_append_of_clean clean, rest]
    rfl

/-- No chunk has a problem exactly if the bytes have none when they are pushed at once. -/
lemma pushAll_clean_iff {s : Scanner} {chunks : List (List UInt8)} :
    (∀ pushed ∈ s.pushAll chunks, pushed.problem = none) ↔
      (s.push chunks.flatten).problem = none := by
  constructor
  · intro h
    rw [pushAll_of_clean h]
  · intro h
    -- a problem of one chunk would be the problem of the whole text
    induction chunks generalizing s with
    | nil => exact fun _ hp => absurd hp List.not_mem_nil
    | cons chunk chunks ih =>
      rw [List.flatten_cons] at h
      have clean : (s.push chunk).problem = none := clean_of_append h
      rw [push_append_of_clean clean] at h
      intro pushed hp
      cases hp with
      | head => exact clean
      | tail _ hp => exact ih h pushed hp

end Sidecar.Scanner
