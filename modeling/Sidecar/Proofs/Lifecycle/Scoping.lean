import Sidecar.Proofs.Lifecycle.Outcome

/-!
# What a run cancels

A run makes scopes and cancels them, each after its own use. Of the scopes that there were before, it is
the one of its context alone that can be cancelled meanwhile (`Surroundings.Ages`, `LoopEnds.ages`). So a
context which is made inside that of the run stops when the run's does, or at its own deadline.
-/

namespace Sidecar

/-- From some surroundings later ones come about in a run: what is cancelled meanwhile is the context of
the run, or a scope that is made meanwhile. -/
structure Surroundings.Ages (parent : Context) (s s' : Surroundings) : Prop where
  next_le : s.scopes.next ≤ s'.scopes.next
  cancelled : ∀ number ∈ s'.scopes.cancelled, number ∈ s.scopes.cancelled ∨
    number = parent.scope.number ∨ s.scopes.next ≤ number ∧ number < s'.scopes.next

namespace Surroundings

variable {parent c : Context} {s s' s'' : Surroundings}

namespace Ages

/-- If nothing happens nothing has been cancelled. -/
lemma refl (parent : Context) (s : Surroundings) : s.Ages parent s :=
  ⟨Nat.le_refl _, fun _ mem => .inl mem⟩

/-- What has aged twice has aged. -/
lemma trans (h : s.Ages parent s') (h' : s'.Ages parent s'') : s.Ages parent s'' := by
  refine ⟨Nat.le_trans h.next_le h'.next_le, fun number mem => ?_⟩
  rcases h'.cancelled number mem with old | own | ⟨le, lt⟩
  · rcases h.cancelled number old with old | own | ⟨le, lt⟩
    · exact .inl old
    · exact .inr (.inl own)
    · exact .inr (.inr ⟨le, Nat.lt_of_lt_of_le lt h'.next_le⟩)
  · exact .inr (.inl own)
  · exact .inr (.inr ⟨Nat.le_trans h.next_le le, lt⟩)

/-- Nothing that happens around a run cancels any scope but that of the context of the run. -/
lemma after (parent : Context) (s : Surroundings) (occurrence : Occurrence) :
    s.Ages parent (s.after parent occurrence) := by
  cases occurrence with
  | cancel =>
    refine ⟨Nat.le_refl _, fun number mem => ?_⟩
    rcases List.mem_cons.mp mem with own | old
    · exact .inr (.inl own)
    · exact .inl old
  | report error => exact ⟨Nat.le_refl _, fun _ mem => .inl mem⟩
  | pass ms => exact ⟨Nat.le_refl _, fun _ mem => .inl mem⟩

/-- So it is whatever happens one after the other. -/
lemma afterAll (parent : Context) (s : Surroundings) (occurrences : List Occurrence) :
    s.Ages parent (s.afterAll parent occurrences) := by
  induction occurrences generalizing s with
  | nil => exact .refl parent s
  | cons occurrence rest ih => exact (after parent s occurrence).trans (ih _)

/-- Making a context takes a number that was not in use. -/
lemma derive_child (parent c : Context) (s : Surroundings) :
    s.Ages parent (s.derive c.child).2 :=
  ⟨Nat.le_succ _, fun _ mem => .inl mem⟩

/-- So does making one with a deadline. -/
lemma derive_childUntil (parent c : Context) (deadline : Int) (s : Surroundings) :
    s.Ages parent (s.derive (c.childUntil deadline)).2 :=
  ⟨Nat.le_succ _, fun _ mem => .inl mem⟩

/-- A scope that has been made meanwhile may be cancelled. -/
lemma cancel (h : s.Ages parent s') (made : s.scopes.next ≤ c.scope.number)
    (given : c.scope.number < s'.scopes.next) :
    s.Ages parent { s' with scopes := c.cancel s'.scopes } := by
  refine ⟨h.next_le, fun number mem => ?_⟩
  rcases List.mem_cons.mp mem with rfl | old
  · exact .inr (.inr ⟨made, given⟩)
  · exact h.cancelled number old

/-- Numbers are still given once. -/
lemma holds (h : s.Ages parent s') (holds : s.scopes.Holds parent) : s'.scopes.Holds parent := by
  refine ⟨fun number mem => ?_, fun number mem =>
    Nat.lt_of_lt_of_le (holds.numbers_lt number mem) h.next_le⟩
  rcases h.cancelled number mem with old | own | ⟨_, lt⟩
  · exact Nat.lt_of_lt_of_le (holds.cancelled_lt number old) h.next_le
  · subst own
    exact Nat.lt_of_lt_of_le (holds.numbers_lt _ (List.mem_cons_self ..)) h.next_le
  · exact lt

/-- The scope that is made next is not cancelled by what the run does beside it. -/
lemma next_not_cancelled (h : s'.Ages parent s'') (holds : s.scopes.Holds parent)
    (same : s'.scopes.cancelled = s.scopes.cancelled) (made : s.scopes.next < s'.scopes.next) :
    s.scopes.next ∉ s''.scopes.cancelled := by
  intro mem
  rcases h.cancelled _ mem with old | own | ⟨le, _⟩
  · rw [same] at old
    exact Nat.lt_irrefl _ (holds.cancelled_lt _ old)
  · have := holds.numbers_lt _ (List.mem_cons_self ..)
    exact absurd own (Nat.ne_of_gt this)
  · exact absurd made (Nat.not_lt.mpr le)

end Ages

/-- Two surroundings in which a context stops in the same way, whatever else there is. -/
structure Alike (c : Context) (s s' : Surroundings) : Prop where
  now_eq : s.now = s'.now
  cancelled_iff : ∀ number ∈ c.scope.numbers,
    number ∈ s.scopes.cancelled ↔ number ∈ s'.scopes.cancelled

lemma Alike.refl (c : Context) (s : Surroundings) : Alike c s s := ⟨rfl, fun _ _ => Iff.rfl⟩

lemma Alike.trans (h : Alike c s s') (h' : Alike c s' s'') : Alike c s s'' :=
  ⟨h.now_eq.trans h'.now_eq, fun number mem =>
    (h.cancelled_iff number mem).trans (h'.cancelled_iff number mem)⟩

/-- To give a name to a new context changes nothing for the others. -/
lemma Alike.derive {make : Scopes → Context × Scopes}
    (same : (make s.scopes).2.cancelled = s.scopes.cancelled) (c : Context) :
    Alike c (s.derive make).2 s := by
  refine ⟨rfl, fun number _ => ?_⟩
  rw [← same]
  exact Iff.rfl

/-- To cancel a scope changes nothing for a context that does not lie in it. -/
lemma Alike.cancel (h : Alike c s s') (apart : parent.scope.number ∉ c.scope.numbers) :
    Alike c { s with scopes := parent.cancel s.scopes } s' := by
  refine ⟨h.now_eq, fun number mem => ?_⟩
  simp only [Context.cancel, List.mem_cons]
  refine Iff.trans (or_iff_right fun own => ?_) (h.cancelled_iff number mem)
  subst own
  exact apart mem

/-- Surroundings that are alike stay so if the same happens in both. -/
lemma Alike.afterAll (h : Alike c s s') (parent : Context) (occurrences : List Occurrence) :
    Alike c (s.afterAll parent occurrences) (s'.afterAll parent occurrences) := by
  induction occurrences generalizing s s' with
  | nil => exact h
  | cons occurrence rest ih =>
    refine ih ?_
    cases occurrence with
    | report error => exact ⟨h.now_eq, h.cancelled_iff⟩
    | pass ms => exact ⟨congrArg (· + (ms : Int)) h.now_eq, h.cancelled_iff⟩
    | cancel =>
      refine ⟨h.now_eq, fun number mem => ?_⟩
      simp only [Surroundings.after, Context.cancel, List.mem_cons, h.cancelled_iff number mem]

/-- In surroundings that are alike a context stops in the same way. -/
lemma Alike.stop?_eq (h : Alike c s s') : s.stop? c = s'.stop? c := by
  have same : s.scopes.isCancelled c.scope = s'.scopes.isCancelled c.scope := by
    rw [Bool.eq_iff_iff, Scopes.isCancelled_iff, Scopes.isCancelled_iff]
    exact exists_congr fun number => and_congr_right (h.cancelled_iff number)
  rw [stop?, stop?, Context.stop?, Context.stop?, same, h.now_eq]

end Surroundings

/-! ## A whole run -/

namespace Run

variable {client : Client} {parent loopContext : Context} {watching : Bool}
  {s s' : Surroundings} {round : Round} {rounds : List Round} {invocations : List Invocation}
  {deeds : List Deed} {result : Except RunError Shutdown} {poll : Option PollEnd}
  {waits : List (List Occurrence)} {winner : Except RunError PollEnd} {event : Event}

/-- A race cancels nothing of its own. -/
lemma RaceEnds.ages (h : RaceEnds parent watching poll s waits winner s') : s.Ages parent s' := by
  obtain ⟨happened, -, rfl⟩ := h.exists_afterAll
  exact .afterAll parent s happened

/-- Nor does polling for an event. -/
lemma Gives.ages (h : Gives client parent watching s round event s') : s.Ages parent s' := by
  obtain ⟨ended, ends, _⟩ := h
  exact ends.ages

/-- The context of an invocation is made for it and cancelled after it. -/
lemma ages_handle (parent loopContext : Context) (s : Surroundings) (invocation : Invocation)
    (handler : Callback) : s.Ages parent (handle parent loopContext s invocation handler).2 := by
  have before := Surroundings.Ages.afterAll parent s handler.before
  have derived := Surroundings.Ages.derive_childUntil parent loopContext
    invocation.deadlineMs.toInt (s.afterAll parent handler.before)
  have meanwhile := Surroundings.Ages.afterAll parent
    ((s.afterAll parent handler.before).derive
      (loopContext.childUntil invocation.deadlineMs.toInt)).2 handler.meanwhile
  have given := Nat.lt_of_lt_of_le (Nat.lt_succ_self (s.afterAll parent handler.before).scopes.next)
    meanwhile.next_le
  exact before.trans ((derived.trans meanwhile).cancel (Nat.le_refl _) given)

/-- Handling rounds cancels only contexts that were made for them. -/
lemma Handles.ages (h : Handles client parent loopContext watching s rounds invocations deeds s') :
    s.Ages parent s' := by
  induction h with
  | nil => exact .refl ..
  | cons gives _ _ ih => exact gives.ages.trans ((ages_handle ..).trans ih)

/-- So does the round that ends the loop. -/
lemma RoundEnds.ages (h : RoundEnds client parent loopContext watching s round result deeds s') :
    s.Ages parent s' := by
  cases h with
  | alarm ends => exact ends.ages
  | unanswered ends _ => exact ends.ages
  | unhandled gives _ => exact gives.ages.trans (ages_handle ..)
  | shutdown gives => exact gives.ages

/-- So does the whole loop. -/
lemma LoopEnds.ages (h : LoopEnds client parent loopContext watching s rounds result deeds s') :
    s.Ages parent s' := by
  cases h with
  | after handles ends => exact handles.ages.trans ends.ages

end Run

end Sidecar
