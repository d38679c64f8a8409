import Sidecar.Batch.InPlace
import Sidecar.Proofs.Batch.Pending

/-!
# Scanning in place comes to the same

A sound scanner does in place what `Scanner.step` says, byte by byte (`pushByte_inPlace`) and chunk by chunk
(`push_inPlace`). So the registers stay in order whatever chunks come: the buffer holds the bytes of the
element, the depth is never counted below zero, and a byte that is refused leaves no trace
(`pushes_keepInvariant`).
-/

namespace Sidecar.Scanner
open Json

variable {s s' : Scanner} {state next : State} {b : UInt8} {bytes pending : List UInt8}
  {out : List (List UInt8)} {problem : Problem}

/-! ## Registers -/

/-- The state and the flags that stand for a state. -/
def State.registers : State → InPlace.State
  | .opening => .opening
  | .first => .first
  | .element => .element
  | .inside depth .plain => .inside depth false false
  | .inside depth .quoted => .inside depth true false
  | .inside depth .escaped => .inside depth true true
  | .scalar => .scalar
  | .separator => .separator
  | .closed => .closed

/-- The scanner in place that stands as `s` does. -/
def inPlace (s : Scanner) (out : List (List UInt8)) : InPlace :=
  ⟨s.state.registers, s.pending.reverse, out⟩

/-- What becomes of a scanner in place by a byte, given what comes of the byte. -/
def becomes (s : Scanner) (out : List (List UInt8)) :
    Except Problem Stepped → InPlace × InPlace.Verdict
  | .ok (s', completed) => (s'.inPlace (out ++ completed.toList), .taken)
  | .error problem => (s.inPlace out, .refused problem)

/-- Another output does not change the registers. -/
@[simp]
lemma inPlace_given (s : Scanner) (out out' : List (List UInt8)) :
    (s.inPlace out).given out' = s.inPlace out' := rfl

/-- A byte that is stored is the last one pending. -/
@[simp]
lemma inPlace_store : (inPlace ⟨state, pending⟩ out).store b = inPlace ⟨state, b :: pending⟩ out := by
  simp [inPlace, InPlace.store]

/-- Completing puts the pending bytes out and leaves none. -/
@[simp]
lemma inPlace_complete : (inPlace ⟨state, pending⟩ out).complete =
    inPlace ⟨.separator, []⟩ (out ++ [pending.reverse]) := rfl

/-- A byte that is kept is stored. -/
@[simp]
lemma becomes_stay : s.becomes out (.ok (stay next pending)) = (inPlace ⟨next, pending⟩ out, .taken) := by
  simp [becomes, stay]

/-- A byte that leads somewhere leaves nothing pending. -/
@[simp]
lemma becomes_goto : s.becomes out (.ok (goto next)) = (inPlace ⟨next, []⟩ out, .taken) := by
  simp [becomes, goto]

/-- A byte that completes an element puts it out. -/
@[simp]
lemma becomes_complete : s.becomes out (.ok (complete pending next)) =
    (inPlace ⟨next, []⟩ (out ++ [pending.reverse]), .taken) := rfl

/-! ## One look at a byte -/

/-- A byte that no element may start with is put into the buffer, and the buffer is emptied again. -/
lemma start_inPlace (state : State) (b : UInt8) (out : List (List UInt8)) :
    (inPlace ⟨state, []⟩ out).start b = becomes ⟨state, []⟩ out (start b) := by
  unfold InPlace.start start
  cases classify b <;> simp only [inPlace_store, becomes_stay] <;> rfl

/-- Behind an element one look decides. -/
lemma look_separator (b : UInt8) (out : List (List UInt8)) :
    (inPlace ⟨.separator, []⟩ out).look b =
      .done (becomes ⟨.separator, []⟩ out ((separate b).map goto)) := by
  unfold InPlace.look separate
  cases classify b <;> simp only [Except.map, becomes_goto] <;> rfl

/-- Inside an element that is no scalar one look decides. -/
lemma InPlace.look_of_inside {m : InPlace} {depth : Nat} {inString escape : Bool}
    (inside : m.state = .inside depth inString escape) :
    m.look b = .done (m.within depth inString escape b) := by
  unfold look
  rw [inside]

/-- Outside strings some bracket is open, so that the depth can be counted down. -/
lemma look_inside {depth : Nat} {mode : Mode} (bracketed : mode = .plain → 0 < depth) :
    (inPlace ⟨.inside depth mode, pending⟩ out).look b =
      .done (becomes ⟨.inside depth mode, pending⟩ out (.ok (within depth mode b (b :: pending)))) := by
  match mode, depth, bracketed with
  | .plain, 0, bracketed => exact absurd (bracketed rfl) (Nat.lt_irrefl 0)
  | .plain, depth + 1, _ =>
    rw [InPlace.look_of_inside rfl]
    unfold InPlace.within within
    cases classify b <;> cases depth <;> simp <;> rfl
  | .quoted, depth, _ =>
    rw [InPlace.look_of_inside rfl]
    unfold InPlace.within within
    cases classify b <;> cases depth <;> simp <;> rfl
  | .escaped, depth, _ =>
    rw [InPlace.look_of_inside rfl]
    unfold InPlace.within within
    rw [inPlace_store, becomes_stay]
    rfl

/-! ## Bytes -/

namespace InPlace

variable {m m' : InPlace} {result : InPlace × Verdict}

/-- A byte that is done with after one look comes to what that look says. -/
lemma pushByte_of_done (h : m.look b = .done result) : m.pushByte b = result := by
  rw [pushByte]
  split
  · next h' => exact Looked.done.inj (h'.symm.trans h)
  · next h' => cases h'.symm.trans h

/-- A byte that is looked at again comes to what the second look says. -/
lemma pushByte_of_again (h : m.look b = .again m') : m.pushByte b = m'.pushByte b := by
  rw [pushByte]
  split
  · next h' => cases h'.symm.trans h
  · next h' => rw [Looked.again.inj (h'.symm.trans h)]

/-- The second look takes the byte. -/
lemma taken_of_again (h : m.look b = .again m') :
    m.state = .scalar ∧ ∃ m'', m'.look b = .done (m'', .taken) := by
  unfold look at h
  split at h
  case h_10 scalar part | h_11 scalar part | h_12 scalar part =>
    cases h
    refine ⟨scalar, ?_⟩
    unfold look
    rw [part]
    exact ⟨_, rfl⟩
  all_goals cases h

end InPlace

/-- What ends a number or a literal is looked at twice, and takes the way of a byte behind an element. -/
lemma pushByte_scalar (pending : List UInt8) (b : UInt8) (out : List (List UInt8)) :
    (inPlace ⟨.scalar, pending⟩ out).pushByte b =
      becomes ⟨.scalar, pending⟩ out (step ⟨.scalar, pending⟩ b) := by
  cases part : classify b with
  | blank | comma | closeArray =>
    have again : (inPlace ⟨.scalar, pending⟩ out).look b =
        .again (inPlace ⟨.separator, []⟩ (out ++ [pending.reverse])) := by
      unfold InPlace.look
      rw [part]
      rfl
    rw [InPlace.pushByte_of_again again, InPlace.pushByte_of_done (look_separator ..)]
    simp only [step, separate, part, Except.map, becomes_goto, becomes_complete]
  | _ =>
    have done : (inPlace ⟨.scalar, pending⟩ out).look b =
        .done ((inPlace ⟨.scalar, b :: pending⟩ out).goto .scalar) := by
      unfold InPlace.look
      rw [part, inPlace_store]
      rfl
    rw [InPlace.pushByte_of_done done]
    simp only [step, part, becomes_stay]
    rfl

/-- A byte comes to the same in place as by the step of the scanner. -/
lemma pushByte_inPlace (sound : s.Sound) (b : UInt8) (out : List (List UInt8)) :
    (s.inPlace out).pushByte b = s.becomes out (s.step b) := by
  cases sound with
  | @outside state notIn =>
    refine InPlace.pushByte_of_done ?_
    cases state with
    | opening =>
      unfold InPlace.look step
      cases classify b <;> simp only [becomes_goto] <;> rfl
    | first | element =>
      unfold InPlace.look step
      cases classify b <;> simp only [becomes_goto, ← start_inPlace] <;> rfl
    | inside | scalar => exact absurd trivial notIn
    | separator => exact look_separator ..
    | closed =>
      unfold InPlace.look
      rw [step, becomes_goto]
      rfl
  | inside _ _ bracketed => exact InPlace.pushByte_of_done (look_inside bracketed)
  | scalar => exact pushByte_scalar ..

/-! ## Chunks -/

/-- The verdict on a chunk, by the problem with its first byte that is refused. -/
def InPlace.Verdict.of : Option Problem → InPlace.Verdict
  | none => .taken
  | some problem => .refused problem

/-- A chunk that is taken has no problem. -/
lemma InPlace.Verdict.eq_none_of_taken {found : Option Problem} (h : Verdict.of found = .taken) :
    found = none := by
  cases found with
  | none => rfl
  | some => cases h

/-- A chunk that is refused has the problem that is told. -/
lemma InPlace.Verdict.eq_some_of_refused {found : Option Problem} (h : Verdict.of found = .refused problem) :
    found = some problem := by
  cases found with
  | none => cases h
  | some =>
    cases h
    rfl

/-- A chunk comes to the same in place as by the scanner. -/
lemma push_inPlace (sound : s.Sound) (bytes : List UInt8) (out : List (List UInt8)) :
    (s.inPlace out).push bytes =
      ((s.push bytes).scanner.inPlace (out ++ (s.push bytes).elements), .of (s.push bytes).problem) := by
  induction bytes generalizing s out with
  | nil =>
    rw [InPlace.push, push, List.append_nil]
    rfl
  | cons b bytes ih =>
    rw [InPlace.push, pushByte_inPlace sound]
    cases stepped : s.step b with
    | error problem =>
      rw [push_cons_of_error stepped, List.append_nil]
      rfl
    | ok result =>
      obtain ⟨s', completed⟩ := result
      rw [push_cons_of_ok stepped]
      simp only [becomes, ih (sound.step stepped).1, List.append_assoc]

namespace InPlace

/-- The first chunk comes before the others. -/
lemma afterAll_cons (m : InPlace) (p : Push) (pushes : List Push) :
    m.afterAll (p :: pushes) = ((m.given p.out).push p.bytes).1.afterAll pushes := rfl

/-- Chunks may be put together. -/
lemma afterAll_append (m : InPlace) (pushes later : List Push) :
    m.afterAll (pushes ++ later) = (m.afterAll pushes).afterAll later :=
  List.foldl_append ..

end InPlace

/-- Chunks leave a scanner sound, and in place they come to the same. -/
lemma afterAll_inPlace (sound : s.Sound) (pushes : List InPlace.Push) (out : List (List UInt8)) :
    (s.afterAll (pushes.map (·.bytes))).Sound ∧
      ∃ out', (s.inPlace out).afterAll pushes = (s.afterAll (pushes.map (·.bytes))).inPlace out' := by
  induction pushes generalizing s out with
  | nil => exact ⟨sound, out, rfl⟩
  | cons p pushes ih =>
    rw [InPlace.afterAll_cons, inPlace_given, push_inPlace sound]
    exact ih (sound.push p.bytes).1 _

/-! ## What has been taken -/

namespace InPlace

/-- The bytes of a chunk in front of the first that is not taken. -/
def accepted (m : InPlace) : List UInt8 → List UInt8
  | [] => []
  | b :: rest =>
    match m.pushByte b with
    | (m', .taken) => b :: m'.accepted rest
    | _ => []

/-- The bytes of all chunks that are taken. -/
def acceptedAll (m : InPlace) : List Push → List UInt8
  | [] => []
  | p :: pushes =>
    (m.given p.out).accepted p.bytes ++ ((m.given p.out).push p.bytes).1.acceptedAll pushes

end InPlace

/-- What is taken of a chunk does by itself what the chunk does, and what stands behind it is refused. -/
lemma push_accepted (sound : s.Sound) (bytes : List UInt8) (out : List (List UInt8)) :
    s.push ((s.inPlace out).accepted bytes) = { s.push bytes with problem := none } ∧
      match (s.push bytes).problem with
      | none => (s.inPlace out).accepted bytes = bytes
      | some problem => ∃ b back, bytes = (s.inPlace out).accepted bytes ++ b :: back ∧
          (s.push bytes).scanner.step b = .error problem := by
  induction bytes generalizing s out with
  | nil => exact ⟨rfl, rfl⟩
  | cons b bytes ih =>
    rw [InPlace.accepted, pushByte_inPlace sound]
    cases stepped : s.step b with
    | error problem =>
      rw [push_cons_of_error stepped]
      exact ⟨rfl, b, bytes, rfl, stepped⟩
    | ok result =>
      obtain ⟨s', completed⟩ := result
      obtain ⟨taken, behind⟩ := ih (sound.step stepped).1 (out ++ completed.toList)
      simp only [becomes]
      rw [push_cons_of_ok stepped, push_cons_of_ok stepped, taken]
      refine ⟨rfl, ?_⟩
      simp only
      split at behind
      · next clean =>
        simp only [clean, behind]
      · next problem refused =>
        obtain ⟨b', back, split, error⟩ := behind
        simp only [refused]
        exact ⟨b', back, congrArg (b :: ·) split, error⟩

/-- All that has been taken of chunks leads to the same scanner, without what was refused. -/
lemma push_acceptedAll (sound : s.Sound) (pushes : List InPlace.Push) (out : List (List UInt8)) :
    (s.push ((s.inPlace out).acceptedAll pushes)).problem = none ∧
      (s.push ((s.inPlace out).acceptedAll pushes)).scanner = s.afterAll (pushes.map (·.bytes)) := by
  induction pushes generalizing s out with
  | nil => exact ⟨rfl, rfl⟩
  | cons p pushes ih =>
    have first := (push_accepted sound p.bytes p.out).1
    have clean : (s.push ((s.inPlace p.out).accepted p.bytes)).problem = none := by rw [first]
    rw [InPlace.acceptedAll, inPlace_given, push_inPlace sound, push_append_of_clean clean, first]
    exact ih (sound.push p.bytes).1 _

/-! ## Registers stay in order -/

/-- Whether the scanner is in an element can be read off its registers. -/
lemma inElement_iff_registers : state.InElement ↔
    (∃ depth inString escape, state.registers = .inside depth inString escape) ∨
      state.registers = .scalar := by
  match state with
  | .inside depth .plain => exact iff_of_true trivial (.inl ⟨depth, false, false, rfl⟩)
  | .inside depth .quoted => exact iff_of_true trivial (.inl ⟨depth, true, false, rfl⟩)
  | .inside depth .escaped => exact iff_of_true trivial (.inl ⟨depth, true, true, rfl⟩)
  | .scalar => exact iff_of_true trivial (.inr rfl)
  | .opening | .first | .element | .separator | .closed =>
    refine iff_of_false id ?_
    rintro (⟨_, _, _, ⟨⟩⟩ | ⟨⟨⟩⟩)

/-- The flags come from the mode. -/
lemma exists_mode {depth : Nat} {inString escape : Bool}
    (h : state.registers = .inside depth inString escape) :
    ∃ mode, state = .inside depth mode ∧ (escape = true → inString = true) ∧
      (inString = true ∨ mode = .plain) := by
  match state with
  | .inside _ .plain =>
    cases h
    exact ⟨.plain, rfl, nofun, .inr rfl⟩
  | .inside _ .quoted =>
    cases h
    exact ⟨.quoted, rfl, nofun, .inl rfl⟩
  | .inside _ .escaped =>
    cases h
    exact ⟨.escaped, rfl, fun _ => rfl, .inl rfl⟩
  | .opening | .first | .element | .scalar | .separator | .closed => cases h

namespace InPlace

/-- The scanner is inside an element. -/
def InElement (m : InPlace) : Prop :=
  (∃ depth inString escape, m.state = .inside depth inString escape) ∨ m.state = .scalar

/-- What holds of a scanner that has taken these bytes, refused ones left out. -/
structure IsKept (text : List UInt8) (m : InPlace) : Prop where
  pending_iff : m.pending ≠ [] ↔ m.InElement
  /-- The buffer holds the last bytes that have been taken, one after the other since the first of the
  element, for which the scanner was ready. -/
  pending_since : m.InElement → ∃ front, text = front ++ m.pending ∧
    (initial.push front).2 = .taken ∧
    ((initial.push front).1.state = .first ∨ (initial.push front).1.state = .element) ∧
    ∀ part, part ≠ [] → part <+: m.pending → (initial.push (front ++ part)).1.pending = part
  escaped : ∀ {depth inString}, m.state = .inside depth inString true → inString = true
  unbracketed : ∀ {inString escape}, m.state = .inside 0 inString escape → inString = true
  depth_le : ∀ {depth inString escape}, m.state = .inside depth inString escape →
    depth ≤ m.pending.length ∧ depth < text.length

/-- What holds when a scanner is given a chunk. -/
structure IsAtomic (m : InPlace) (bytes : List UInt8) : Prop where
  counts : (m.push bytes).2 ≠ .underflow
  completes : ∃ elements, (m.push bytes).1.out = m.out ++ elements ∧ ∀ element ∈ elements, element ≠ []
  taken : (m.push bytes).2 = .taken → m.accepted bytes = bytes
  /-- The byte that is refused leaves no trace, and neither does what stands behind it. -/
  refused : ∀ {problem}, (m.push bytes).2 = .refused problem →
    ∃ b back, bytes = m.accepted bytes ++ b :: back ∧
      m.push (m.accepted bytes) = ((m.push bytes).1, .taken) ∧
      (m.push bytes).1.pushByte b = ((m.push bytes).1, .refused problem)

/-- From the start on, a text comes to the same in place as by the scanner. -/
lemma push_initial (text : List UInt8) :
    initial.push text = ((Scanner.initial.push text).scanner.inPlace (Scanner.initial.push text).elements,
      .of (Scanner.initial.push text).problem) :=
  push_inPlace sound_initial text []

/-- What holds of the scanner's state holds of the registers that stand for it. -/
lemma isKept_inPlace {s : Scanner} {text : List UInt8} (out : List (List UInt8))
    (clean : (Scanner.initial.push text).problem = none)
    (reached : (Scanner.initial.push text).scanner = s) : (s.inPlace out).IsKept text := by
  have sound : s.Sound := reached ▸ (sound_initial.push text).1
  have since (inElement : s.state.InElement) :
      ∃ front, text = front ++ s.pending.reverse ∧ Scanner.initial.IsSince front s.pending.reverse :=
    reached ▸ exists_isSince id clean (reached ▸ inElement)
  constructor
  case pending_iff =>
    rw [InElement, inPlace, ← inElement_iff_registers, ← sound.pending_iff]
    exact not_congr List.reverse_eq_nil_iff
  case pending_since =>
    intro inElement
    obtain ⟨front, split, isSince⟩ := since (inElement_iff_registers.mpr inElement)
    rw [split] at clean
    refine ⟨front, split, ?_, ?_, ?_⟩
    · rw [push_initial, clean_of_append clean]
      rfl
    · rw [push_initial]
      exact isSince.ready.imp (congrArg State.registers) (congrArg State.registers)
    · intro part nonempty isPart
      rw [push_initial, inPlace, isSince.kept part nonempty isPart, List.reverse_reverse]
  case escaped =>
    intro depth inString h
    obtain ⟨mode, -, flags, -⟩ := exists_mode h
    exact flags rfl
  case unbracketed =>
    intro inString escape h
    obtain ⟨mode, inside, -, plain⟩ := exists_mode h
    exact plain.resolve_right fun plain => Nat.lt_irrefl 0 ((sound.depth inside).2 plain)
  case depth_le =>
    intro depth inString escape h
    obtain ⟨mode, inside, -, -⟩ := exists_mode h
    obtain ⟨front, split, isSince⟩ := since (inside ▸ trivial)
    -- the opening bracket of the array stands in front of the element
    have opened : front ≠ [] := by
      rintro rfl
      exact isSince.ready.elim nofun nofun
    have bound := (sound.depth inside).1
    have length := List.length_pos_iff.mpr opened
    rw [split, inPlace, List.length_append, List.length_reverse]
    omega

/-- A scanner in place that stands for a sound one takes a chunk up to the byte that it refuses, and no
further. -/
lemma isAtomic_inPlace {s : Scanner} (sound : s.Sound) (bytes : List UInt8) (out : List (List UInt8)) :
    (s.inPlace out).IsAtomic bytes := by
  have pushed := push_inPlace sound bytes out
  obtain ⟨accepted, behind⟩ := push_accepted sound bytes out
  constructor
  case counts =>
    rw [pushed]
    cases (s.push bytes).problem <;> nofun
  case completes =>
    rw [pushed]
    exact ⟨_, rfl, (sound.push bytes).2⟩
  case taken =>
    intro taken
    rw [pushed] at taken
    rwa [Verdict.eq_none_of_taken taken] at behind
  case refused =>
    intro problem refused
    rw [pushed] at refused
    rw [Verdict.eq_some_of_refused refused] at behind
    obtain ⟨b, back, split, error⟩ := behind
    refine ⟨b, back, split, ?_, ?_⟩
    · rw [push_inPlace sound, accepted, pushed]
      rfl
    · rw [pushed, pushByte_inPlace (sound.push bytes).1, error]
      rfl

/-- What holds after any chunks, whether they were taken whole or not. -/
structure KeepsInvariant (pushes : List Push) : Prop where
  kept : (initial.afterAll pushes).IsKept (initial.acceptedAll pushes)
  atomic : ∀ p : Push, ((initial.afterAll pushes).given p.out).IsAtomic p.bytes
  /-- Scanning goes on as if a chunk had ended in front of the byte that was refused. -/
  continues : ∀ (p : Push) (later : List Push), initial.afterAll (pushes ++ p :: later) =
    initial.afterAll (pushes ++
      ⟨((initial.afterAll pushes).given p.out).accepted p.bytes, p.out⟩ :: later)
  /-- A byte is looked at again only at the end of a number or a literal, and the second look takes it. -/
  again : ∀ {m m' : InPlace} {b : UInt8}, m.look b = .again m' →
    m.state = .scalar ∧ ∃ m'', m'.look b = .done (m'', .taken)
  agrees : ∀ p : Push, ((initial.afterAll pushes).given p.out).push p.bytes =
    let pushed := (Scanner.initial.afterAll (pushes.map (·.bytes))).push p.bytes
    (pushed.scanner.inPlace (p.out ++ pushed.elements), .of pushed.problem)

/-- After any chunks the registers are in order, and the next chunk keeps them so. -/
theorem pushes_keepInvariant (pushes : List Push) : KeepsInvariant pushes := by
  obtain ⟨sound, out, reached⟩ := afterAll_inPlace sound_initial pushes []
  obtain ⟨clean, scanner⟩ := push_acceptedAll sound_initial pushes []
  change initial.afterAll pushes = _ at reached
  constructor
  case kept =>
    rw [reached]
    exact isKept_inPlace out clean scanner
  case atomic =>
    intro p
    rw [reached, inPlace_given]
    exact isAtomic_inPlace sound p.bytes p.out
  case continues =>
    intro p later
    rw [afterAll_append, afterAll_append, afterAll_cons, afterAll_cons, reached, inPlace_given,
      push_inPlace sound, push_inPlace sound, (push_accepted sound ..).1]
  case again => exact taken_of_again
  case agrees =>
    intro p
    rw [reached, inPlace_given]
    exact push_inPlace sound p.bytes p.out

end InPlace

end Sidecar.Scanner
