import Mathlib.Data.List.Basic
import Mathlib.Tactic.Lemma
import Sidecar.Context

/-!
# When contexts stop

A context has stopped if one of the scopes that it lies in has been cancelled or its deadline has passed.
A scope is known by its number; as long as numbers are given once (`Scopes.Holds`), a new context stops
on its own account only when it is cancelled itself.
-/

namespace Sidecar

/-- The scope itself and those that it lies in, by their numbers. -/
def Scope.numbers (s : Scope) : List Nat := s.number :: s.around

namespace Scopes

variable {w w' : Scopes} {s : Scope}

/-- A scope is cancelled just if it has been, or one around it. -/
lemma isCancelled_iff : w.isCancelled s = true ↔ ∃ number ∈ s.numbers, number ∈ w.cancelled := by
  simp only [isCancelled, Scope.numbers, List.any_eq_true, List.contains_iff_mem]

/-- What is cancelled stays so. -/
lemma isCancelled_mono (grows : w.cancelled ⊆ w'.cancelled) (h : w.isCancelled s = true) :
    w'.isCancelled s = true := by
  obtain ⟨number, mem, cancelled⟩ := isCancelled_iff.mp h
  exact isCancelled_iff.mpr ⟨number, mem, grows cancelled⟩

/-- The numbers of a context and of the scopes that have been cancelled have been given. -/
structure Holds (w : Scopes) (c : Context) : Prop where
  cancelled_lt : ∀ number ∈ w.cancelled, number < w.next
  numbers_lt : ∀ number ∈ c.scope.numbers, number < w.next

end Scopes

namespace Context

variable {c : Context} {w w' : Scopes} {now now' : Int}

/-- Cancellation counts before the deadline. -/
lemma stop?_eq_cancelled_iff : c.stop? w now = some .cancelled ↔ w.isCancelled c.scope = true := by
  unfold stop?
  split
  · next cancelled => exact iff_of_true rfl cancelled
  · next goesOn =>
    refine iff_of_false ?_ goesOn
    split <;> nofun

/-- The deadline counts, from the moment at which it is reached, if nothing has been cancelled. -/
lemma stop?_eq_exceeded_iff :
    c.stop? w now = some .deadlineExceeded ↔
      w.isCancelled c.scope = false ∧ ∃ deadline, c.deadline = some deadline ∧ deadline ≤ now := by
  have late : c.deadline.any (· ≤ now) = true ↔
      ∃ deadline, c.deadline = some deadline ∧ deadline ≤ now := by
    simp only [Option.any_eq_true, decide_eq_true_eq]
  unfold stop?
  split
  · next cancelled => exact iff_of_false nofun fun h => by cases cancelled.symm.trans h.1
  · next goesOn =>
    rw [← late]
    have goesOn := Bool.eq_false_iff.mpr goesOn
    split
    · next isLate => exact iff_of_true rfl ⟨goesOn, isLate⟩
    · next inTime => exact iff_of_false nofun fun h => inTime h.2

/-- A context stops by cancellation or by its deadline. -/
lemma isSome_stop?_iff :
    (c.stop? w now).isSome = true ↔
      w.isCancelled c.scope = true ∨ ∃ deadline, c.deadline = some deadline ∧ deadline ≤ now := by
  constructor
  · intro stopped
    obtain ⟨stop, stopped⟩ := Option.isSome_iff_exists.mp stopped
    cases stop with
    | cancelled => exact .inl (stop?_eq_cancelled_iff.mp stopped)
    | deadlineExceeded => exact .inr (stop?_eq_exceeded_iff.mp stopped).2
  · intro reason
    cases cancelled : w.isCancelled c.scope with
    | true => rw [stop?_eq_cancelled_iff.mpr cancelled]; rfl
    | false =>
      have late := reason.resolve_left (by rw [cancelled]; nofun)
      rw [stop?_eq_exceeded_iff.mpr ⟨cancelled, late⟩]
      rfl

/-- A context goes on while it has not been cancelled and its deadline, if it has one, is still to come. -/
lemma stop?_eq_none_iff :
    c.stop? w now = none ↔
      w.isCancelled c.scope = false ∧ ∀ deadline, c.deadline = some deadline → now < deadline := by
  rw [← Option.not_isSome_iff_eq_none, isSome_stop?_iff, not_or, Bool.not_eq_true]
  refine and_congr_right fun _ => ?_
  constructor
  · intro inTime deadline ends
    by_contra late
    exact inTime ⟨deadline, ends, Int.not_lt.mp late⟩
  · rintro inTime ⟨deadline, ends, late⟩
    exact absurd late (Int.not_le.mpr (inTime deadline ends))

/-- A context that has stopped does not go on again. -/
lemma isSome_stop?_mono (grows : w.cancelled ⊆ w'.cancelled) (passes : now ≤ now')
    (h : (c.stop? w now).isSome = true) : (c.stop? w' now').isSome = true := by
  rcases isSome_stop?_iff.mp h with cancelled | ⟨deadline, ends, le⟩
  · exact isSome_stop?_iff.mpr (.inl (Scopes.isCancelled_mono grows cancelled))
  · exact isSome_stop?_iff.mpr (.inr ⟨deadline, ends, Int.le_trans le passes⟩)

/-! ## Contexts inside others -/

/-- A child is cancelled by itself or with what it is made from. -/
lemma isCancelled_child_iff :
    w'.isCancelled (c.child w).1.scope = true ↔
      w.next ∈ w'.cancelled ∨ w'.isCancelled c.scope = true := by
  rw [Scopes.isCancelled_iff, Scopes.isCancelled_iff]
  constructor
  · rintro ⟨number, mem, cancelled⟩
    rcases List.mem_cons.mp mem with rfl | around
    · exact .inl cancelled
    · exact .inr ⟨number, around, cancelled⟩
  · rintro (cancelled | ⟨number, mem, cancelled⟩)
    · exact ⟨w.next, List.mem_cons_self .., cancelled⟩
    · exact ⟨number, List.mem_cons_of_mem _ mem, cancelled⟩

/-- A context inside another one stops with it, as long as it is not cancelled itself. -/
lemma stop?_child_eq_none_iff (fresh : w.next ∉ w'.cancelled) :
    (c.child w).1.stop? w' now = none ↔ c.stop? w' now = none := by
  have same : w'.isCancelled (c.child w).1.scope = w'.isCancelled c.scope := by
    rw [Bool.eq_iff_iff, isCancelled_child_iff]
    exact or_iff_right fresh
  rw [stop?_eq_none_iff, stop?_eq_none_iff, same]
  exact Iff.rfl

/-- It is before the earlier of two deadlines just if it is before both. -/
lemma lt_earlier_iff {limit : Option Int} {deadline : Int} :
    now < earlier limit deadline ↔ (∀ ends, limit = some ends → now < ends) ∧ now < deadline := by
  cases limit with
  | none => exact ⟨fun inTime => ⟨nofun, inTime⟩, And.right⟩
  | some limit =>
    unfold earlier
    rw [Int.lt_min]
    refine and_congr_left fun _ => ⟨?_, fun inTime => inTime limit rfl⟩
    rintro inTime _ ⟨rfl⟩
    exact inTime

/-- A new context with a deadline goes on while its parent does and the deadline is still to come. -/
lemma stop?_childUntil_eq_none_iff {deadline : Int} (fresh : w.next ∉ w'.cancelled) :
    (c.childUntil deadline w).1.stop? w' now = none ↔ c.stop? w' now = none ∧ now < deadline := by
  have same : w'.isCancelled (c.childUntil deadline w).1.scope = w'.isCancelled c.scope := by
    rw [Bool.eq_iff_iff]
    exact isCancelled_child_iff.trans (or_iff_right fresh)
  have limit : (c.childUntil deadline w).1.deadline = some (earlier c.deadline deadline) := rfl
  rw [stop?_eq_none_iff, stop?_eq_none_iff, same, limit, and_assoc, ← lt_earlier_iff]
  refine and_congr_right fun _ => ⟨fun inTime => inTime _ rfl, ?_⟩
  rintro inTime _ ⟨rfl⟩
  exact inTime

/-! ## Waiting -/

/-- A wait ends at the first point in time at which the context has stopped. -/
lemma stop?_of_wait? {stop : Stop} {time : Int} (h : c.wait? w now = some (stop, time)) :
    now ≤ time ∧ c.stop? w time = some stop ∧
      ∀ earlier, now ≤ earlier → earlier < time → c.stop? w earlier = none := by
  unfold wait? at h
  split at h
  · next stop' stopped =>
    cases h
    exact ⟨Int.le_refl _, stopped, fun _ from_ before => absurd from_ (by omega)⟩
  · next goesOn =>
    obtain ⟨_, near, same⟩ := Option.map_eq_some_iff.mp h
    cases same
    have ends := (Option.filter_eq_some_iff.mp near).1
    obtain ⟨not_cancelled, inTime⟩ := stop?_eq_none_iff.mp goesOn
    refine ⟨Int.le_of_lt (inTime time ends), ?_, ?_⟩
    · exact stop?_eq_exceeded_iff.mpr ⟨not_cancelled, time, ends, Int.le_refl _⟩
    · intro earlier _ before
      refine stop?_eq_none_iff.mpr ⟨not_cancelled, fun deadline ends' => ?_⟩
      cases ends.symm.trans ends'
      exact before

/-- Whoever waits in a context that has stopped is told at once. -/
lemma wait?_of_stop? {stop : Stop} (h : c.stop? w now = some stop) :
    c.wait? w now = some (stop, now) := by
  rw [wait?, h]

end Context

end Sidecar
