import Mathlib.Order.Bounds.Basic
import Mathlib.Tactic.Lemma
import Sidecar.Proofs.Context.Forest

/-!
# Trees of contexts

However contexts have been made and cancelled, each of them stops when and why it should: it has been
cancelled if a cancellation reaches it, its deadline is the earliest of those given on the way to it, and
those made from it never go on for longer than it does (`stops_as_made`).
-/

namespace Sidecar

namespace Context

variable {operations : List Operation} {f f' : Forest} {link : Making → Option Nat}
  {made : List Making} {making : Making} {c d : Context} {context other ancestor parent number : Nat}
  {contexts : List Context}

/-! ## Scopes -/

/-- A context has the scope of the one that it shares it with. -/
lemma MadeFrom.scope_eq (h : MadeFrom contexts making c) (partner : making.partner? = some parent) :
    ∃ d, contexts[parent]? = some d ∧ d.scope = c.scope := by
  cases h with
  | sharing there | copy there =>
    obtain rfl := Option.some.inj partner
    exact ⟨_, there, rfl⟩
  | root | child | childUntil => cases partner

/-- What a context is made from lies around it. -/
lemma MadeFrom.numbers_subset (h : MadeFrom contexts making c) (from_ : making.parent? = some parent) :
    ∃ d, contexts[parent]? = some d ∧ d.scope.numbers ⊆ c.scope.numbers := by
  cases h with
  | root => cases from_
  | sharing there | copy there =>
    obtain rfl := Option.some.inj from_
    exact ⟨_, there, fun _ mem => mem⟩
  | child there | childUntil there =>
    obtain rfl := Option.some.inj from_
    exact ⟨_, there, fun _ mem => List.mem_cons_of_mem _ mem⟩

/-- Nothing lies around a context but what it is made from. -/
lemma MadeFrom.of_mem_numbers (h : MadeFrom contexts making c) (mem : number ∈ c.scope.numbers) :
    c.scope.number = number ∨
      ∃ parent d, making.parent? = some parent ∧ contexts[parent]? = some d ∧
        number ∈ d.scope.numbers := by
  cases h with
  | root => exact .inl (List.mem_singleton.mp mem).symm
  | sharing there | copy there => exact .inr ⟨_, _, rfl, there, mem⟩
  | child there | childUntil there =>
    rcases List.mem_cons.mp mem with own | around
    · exact .inl own.symm
    · exact .inr ⟨_, _, rfl, there, around⟩

namespace Grown

/-- Every context in a forest has been made. -/
lemma exists_making (h : Grown operations f) (there : f.contexts[context]? = some c) :
    ∃ making, (makings operations)[context]? = some making ∧ MadeFrom f.contexts making c := by
  have bound := (List.getElem?_eq_some_iff.mp there).1
  rw [h.length_eq] at bound
  have made := List.getElem?_eq_getElem bound
  obtain ⟨c', there', from_⟩ := h.makes context _ made
  obtain rfl := Option.some.inj (there.symm.trans there')
  exact ⟨_, made, from_⟩

/-- Contexts that share a scope by how they were made have the same. -/
lemma scope_of_shares (h : Grown operations f) (shares : Shares (makings operations) context other) :
    f.contexts[context]?.map Context.scope = f.contexts[other]?.map Context.scope := by
  induction shares with
  | refl => rfl
  | symm _ ih => exact ih.symm
  | trans _ _ ih ih' => exact ih.trans ih'
  | made made partner =>
    obtain ⟨c, there, from_⟩ := h.makes _ _ made
    obtain ⟨d, there', same⟩ := from_.scope_eq partner
    rw [there, there', Option.map_some, Option.map_some, same]

/-- The scopes around a context lie around all that were made from it. -/
lemma numbers_of_leads (h : Grown operations f)
    (leads : Leads Making.parent? (makings operations) context ancestor)
    (there : f.contexts[context]? = some c) :
    ∃ d, f.contexts[ancestor]? = some d ∧ d.scope.numbers ⊆ c.scope.numbers := by
  induction leads generalizing c with
  | refl => exact ⟨c, there, fun _ mem => mem⟩
  | step made parent_eq _ ih =>
    obtain ⟨c', there', from_⟩ := h.makes _ _ made
    obtain rfl := Option.some.inj (there.symm.trans there')
    obtain ⟨p, parent_there, inside⟩ := from_.numbers_subset parent_eq
    obtain ⟨d, ancestor_there, subset⟩ := ih parent_there
    exact ⟨d, ancestor_there, fun _ mem => inside (subset mem)⟩

/-- Each scope around a context is that of a context which it comes from. -/
lemma leads_of_mem_numbers (h : Grown operations f) (there : f.contexts[context]? = some c)
    (mem : number ∈ c.scope.numbers) :
    ∃ ancestor d, Leads Making.parent? (makings operations) context ancestor ∧
      f.contexts[ancestor]? = some d ∧ d.scope.number = number := by
  induction context using Nat.strong_induction_on generalizing c with
  | _ context ih =>
    obtain ⟨making, made, from_⟩ := h.exists_making there
    rcases from_.of_mem_numbers mem with own | ⟨parent, p, parent_eq, parent_there, parent_mem⟩
    · exact ⟨context, c, .refl context, there, own⟩
    · have before := h.parent_lt context parent making made parent_eq
      obtain ⟨ancestor, d, leads, ancestor_there, own⟩ := ih parent before parent_there parent_mem
      exact ⟨ancestor, d, .step made parent_eq leads, ancestor_there, own⟩

/-- A context is cancelled just if a cancellation reaches it. -/
lemma isCancelled_iff (h : Grown operations f) (there : f.contexts[context]? = some c) :
    f.scopes.isCancelled c.scope = true ↔ ∃ cancelled, .cancel cancelled ∈ operations ∧
      IsReached (makings operations) context cancelled := by
  rw [Scopes.isCancelled_iff]
  constructor
  · rintro ⟨number, mem, number_cancelled⟩
    obtain ⟨cancelled, e, cancels, cancelled_there, rfl⟩ := h.cancelled number number_cancelled
    obtain ⟨ancestor, d, leads, ancestor_there, own⟩ := h.leads_of_mem_numbers there mem
    have shares := h.shares cancelled ancestor e d cancelled_there ancestor_there own.symm
    exact ⟨cancelled, cancels, ancestor, leads, shares⟩
  · rintro ⟨cancelled, cancels, ancestor, leads, shares⟩
    obtain ⟨e, cancelled_there, number_cancelled⟩ := h.cancels cancelled cancels
    obtain ⟨d, ancestor_there, subset⟩ := h.numbers_of_leads leads there
    have same := h.scope_of_shares shares
    rw [cancelled_there, ancestor_there] at same
    have own : e.scope.number ∈ d.scope.numbers := Option.some.inj same ▸ List.mem_cons_self ..
    exact ⟨e.scope.number, subset own, number_cancelled⟩

end Grown

/-! ## Deadlines -/

/-- The earliest of some deadlines, if there are any. -/
def IsEarliest (deadlines : Set Int) : Option Int → Prop
  | none => deadlines = ∅
  | some deadline => IsLeast deadlines deadline

/-- The deadlines of a context are the one given for it and those of the context that limits it. -/
lemma mem_deadlines_iff (makes : made[context]? = some making) {deadline : Int} :
    deadline ∈ deadlines made context ↔ making.deadline? = some deadline ∨
      ∃ parent, making.limiter? = some parent ∧ deadline ∈ deadlines made parent := by
  constructor
  · rintro ⟨limiter, giver, leads, giver_makes, gives⟩
    cases leads with
    | refl =>
      cases makes.symm.trans giver_makes
      exact .inl gives
    | step makes' link leads =>
      cases makes.symm.trans makes'
      exact .inr ⟨_, link, limiter, giver, leads, giver_makes, gives⟩
  · rintro (gives | ⟨parent, link, limiter, giver, leads, giver_makes, gives⟩)
    · exact ⟨context, making, .refl context, makes, gives⟩
    · exact ⟨limiter, giver, .step makes link leads, giver_makes, gives⟩

/-- A context that takes over no deadlines and is given none has none. -/
lemma deadlines_eq_empty (makes : made[context]? = some making) (free : making.limiter? = none)
    (ungiven : making.deadline? = none) : deadlines made context = ∅ := by
  apply Set.eq_empty_of_forall_notMem
  intro deadline mem
  rcases (mem_deadlines_iff makes).mp mem with gives | ⟨parent, link, _⟩
  · cases ungiven.symm.trans gives
  · cases free.symm.trans link

/-- Without one of its own a context has the deadlines of the one that limits it. -/
lemma deadlines_eq_of_ungiven (makes : made[context]? = some making)
    (bound : making.limiter? = some parent) (ungiven : making.deadline? = none) :
    deadlines made context = deadlines made parent := by
  ext deadline
  rw [mem_deadlines_iff makes, ungiven, bound]
  constructor
  · rintro (gives | ⟨limiter, same, mem⟩)
    · cases gives
    · obtain rfl := Option.some.inj same
      exact mem
  · intro mem
    exact .inr ⟨parent, rfl, mem⟩

/-- With one of its own it has that as well. -/
lemma deadlines_eq_insert {given : Int} (makes : made[context]? = some making)
    (bound : making.limiter? = some parent) (gives : making.deadline? = some given) :
    deadlines made context = insert given (deadlines made parent) := by
  ext deadline
  rw [mem_deadlines_iff makes, gives, bound]
  constructor
  · rintro (same | ⟨limiter, same, mem⟩)
    · exact .inl (Option.some.inj same).symm
    · obtain rfl := Option.some.inj same
      exact .inr mem
  · rintro (rfl | mem)
    · exact .inl rfl
    · exact .inr ⟨parent, rfl, mem⟩

/-- The earlier of the earliest deadline and one more is the earliest of all. -/
lemma isEarliest_earlier {deadlines : Set Int} {limit : Option Int} (h : IsEarliest deadlines limit)
    (deadline : Int) : IsEarliest (insert deadline deadlines) (some (earlier limit deadline)) := by
  cases limit with
  | none =>
    have none_given : deadlines = ∅ := h
    rw [none_given]
    exact ⟨.inl rfl, fun _ mem => (mem.resolve_right nofun).ge⟩
  | some limit =>
    have least : IsLeast deadlines limit := h
    have := least.insert deadline
    rwa [min_comm] at this

/-- The deadline of a context is the earliest of those given on the way to it. -/
lemma Grown.isEarliest (h : Grown operations f) (there : f.contexts[context]? = some c) :
    IsEarliest (deadlines (makings operations) context) c.deadline := by
  induction context using Nat.strong_induction_on generalizing c with
  | _ context ih =>
    obtain ⟨making, made, from_⟩ := h.exists_making there
    have before {parent : Nat} := h.parent_lt context parent making made
    cases from_ with
    | root | sharing => exact deadlines_eq_empty made rfl rfl
    | copy parent_there | child parent_there =>
      rw [deadlines_eq_of_ungiven made rfl rfl]
      have limit := ih _ (before rfl) parent_there
      exact limit
    | childUntil parent_there =>
      rw [deadlines_eq_insert made rfl rfl]
      exact isEarliest_earlier (ih _ (before rfl) parent_there) _

/-- Deadlines are given in 64 bits. -/
lemma lt_of_mem_deadlines {deadline : Int} (mem : deadline ∈ deadlines made context) :
    deadline < 0x8000000000000000 := by
  obtain ⟨_, making, _, _, gives⟩ := mem
  cases making with
  | childUntil _ deadlineMs =>
    cases gives
    exact deadlineMs.toInt_lt
  | root | sharing | copy | child => cases gives

/-- What is shown of a deadline is the earliest one, unless that lies before the epoch. -/
lemma deadlineMs?_eq_some_iff (earliest : IsEarliest (deadlines made context) c.deadline) {ms : Int} :
    c.deadlineMs? = some ms ↔ IsLeast (deadlines made context) ms ∧ 0 ≤ ms := by
  unfold deadlineMs?
  cases given : c.deadline with
  | none =>
    rw [given] at earliest
    have none_given : deadlines made context = ∅ := earliest
    refine iff_of_false nofun ?_
    rintro ⟨⟨mem, _⟩, _⟩
    rw [none_given] at mem
    exact mem
  | some deadline =>
    rw [given] at earliest
    have least : IsLeast (deadlines made context) deadline := earliest
    have bound := lt_of_mem_deadlines least.1
    simp only [Option.filter_eq_some_iff, Option.some.injEq, Bool.and_eq_true, decide_eq_true_eq]
    constructor
    · rintro ⟨rfl, nonneg, _⟩
      exact ⟨least, nonneg⟩
    · rintro ⟨least', nonneg⟩
      obtain rfl := least.unique least'
      exact ⟨rfl, nonneg, bound⟩

/-! ## Contexts that take over deadlines -/

/-- What takes over the deadlines of a context comes from it. -/
lemma Leads.of_limiter (h : Leads Making.limiter? made context ancestor) :
    Leads Making.parent? made context ancestor := by
  induction h with
  | refl context => exact .refl context
  | @step _ _ _ making makes link _ ih =>
    refine .step makes ?_ ih
    cases making with
    | root | sharing => cases link
    | copy | child | childUntil => exact link

/-- Ways that lead back may be put together. -/
lemma Leads.trans (h : Leads link made context other) (h' : Leads link made other ancestor) :
    Leads link made context ancestor := by
  induction h with
  | refl => exact h'
  | step makes link _ ih => exact .step makes link (ih h')

/-- Deadlines are only ever added on the way to a context. -/
lemma deadlines_of_leads (h : Leads Making.limiter? made context ancestor) :
    deadlines made ancestor ⊆ deadlines made context := by
  rintro deadline ⟨limiter, giver, leads, makes, gives⟩
  exact ⟨limiter, giver, h.trans leads, makes, gives⟩

/-! ## Stopping -/

/-- When a context of a forest stops, and why. -/
structure StopsAsMade (operations : List Operation) (f : Forest) (context : Nat) (c : Context) :
    Prop where
  cancelled_iff : ∀ now, c.stop? f.scopes now = some .cancelled ↔
    ∃ cancelled, .cancel cancelled ∈ operations ∧ IsReached (makings operations) context cancelled
  exceeded_iff : ∀ now, c.stop? f.scopes now = some .deadlineExceeded ↔
    (¬ ∃ cancelled, .cancel cancelled ∈ operations ∧
      IsReached (makings operations) context cancelled) ∧
    ∃ deadline, c.deadline = some deadline ∧ deadline ≤ now
  isEarliest : IsEarliest (deadlines (makings operations) context) c.deadline
  deadlineMs?_iff : ∀ ms, c.deadlineMs? = some ms ↔
    IsLeast (deadlines (makings operations) context) ms ∧ 0 ≤ ms
  /-- Whatever is done later, a context that has stopped does not go on again. -/
  stays : ∀ later f' now now', f.doAll? later = some f' → now ≤ now' →
    (c.stop? f.scopes now).isSome = true →
    f'.contexts[context]? = some c ∧ (c.stop? f'.scopes now').isSome = true
  /-- What takes over the deadlines of the context stops with it. -/
  heirs : ∀ heir d now, Leads Making.limiter? (makings operations) heir context →
    f.contexts[heir]? = some d → (c.stop? f.scopes now).isSome = true →
    (d.stop? f.scopes now).isSome = true
  /-- Cancelling a context changes nothing for the context if it does not reach it. -/
  spares : ∀ cancelled f' now, f.act? (.cancel cancelled) = some f' →
    ¬ IsReached (makings operations) context cancelled →
    c.stop? f'.scopes now = c.stop? f.scopes now
  /-- Waiting for the context to stop ends as soon as it has stopped, and says why. -/
  waits : ∀ now stop time, c.wait? f.scopes now = some (stop, time) →
    now ≤ time ∧ c.stop? f.scopes time = some stop ∧
      ∀ earlier, now ≤ earlier → earlier < time → c.stop? f.scopes earlier = none
  waits_at_once : ∀ now stop, c.stop? f.scopes now = some stop →
    c.wait? f.scopes now = some (stop, now)
  /-- Work in the context comes to nothing once the context has stopped, and to its result before. -/
  outcome?_eq : ∀ (α : Type) (result : Option α) now, c.outcome? f.scopes now result =
    match c.stop? f.scopes now with
    | some stop => some (.error stop)
    | none => result.map .ok

namespace Grown

/-- A context that is limited by another one stops when that one does. -/
lemma heirs (h : Grown operations f) {heir : Nat} {now : Int}
    (leads : Leads Making.limiter? (makings operations) heir context)
    (there : f.contexts[context]? = some c) (heir_there : f.contexts[heir]? = some d)
    (stopped : (c.stop? f.scopes now).isSome = true) : (d.stop? f.scopes now).isSome = true := by
  rcases isSome_stop?_iff.mp stopped with cancelled | ⟨deadline, ends, le⟩
  · obtain ⟨c', there', subset⟩ := h.numbers_of_leads leads.of_limiter heir_there
    obtain rfl := Option.some.inj (there.symm.trans there')
    obtain ⟨number, mem, number_cancelled⟩ := Scopes.isCancelled_iff.mp cancelled
    have cancelled := Scopes.isCancelled_iff.mpr ⟨number, subset mem, number_cancelled⟩
    exact isSome_stop?_iff.mpr (.inl cancelled)
  · have earliest := h.isEarliest there
    rw [ends] at earliest
    have given : deadline ∈ deadlines (makings operations) heir :=
      deadlines_of_leads leads earliest.1
    have limit := h.isEarliest heir_there
    cases heir_ends : d.deadline with
    | none =>
      rw [heir_ends] at limit
      have none_given : deadlines (makings operations) heir = ∅ := limit
      rw [none_given] at given
      cases given
    | some deadline' =>
      rw [heir_ends] at limit
      have earlier : deadline' ≤ deadline := limit.2 given
      exact isSome_stop?_iff.mpr (.inr ⟨deadline', heir_ends, Int.le_trans earlier le⟩)

/-- A cancellation that does not reach a context changes nothing about when it stops. -/
lemma spares (h : Grown operations f) {cancelled : Nat} {now : Int}
    (there : f.contexts[context]? = some c) (cancels : f.act? (.cancel cancelled) = some f')
    (unreached : ¬ IsReached (makings operations) context cancelled) :
    c.stop? f'.scopes now = c.stop? f.scopes now := by
  have h' := h.act? cancels
  have there' := (Forest.extends_of_act? h cancels).stays context c there
  have same : f'.scopes.isCancelled c.scope = f.scopes.isCancelled c.scope := by
    rw [Bool.eq_iff_iff, h.isCancelled_iff there, h'.isCancelled_iff there', makings_append_cancel]
    constructor
    · rintro ⟨cancelled', mem, reached⟩
      rcases List.mem_append.mp mem with old | new
      · exact ⟨cancelled', old, reached⟩
      · cases List.mem_singleton.mp new
        exact absurd reached unreached
    · rintro ⟨cancelled', mem, reached⟩
      exact ⟨cancelled', List.mem_append_left _ mem, reached⟩
  rw [stop?, stop?, same]

end Grown

/-- Contexts stop when they should, in whatever order they are made and cancelled. -/
theorem stops_as_made (operations : List Operation) (f : Forest) (context : Nat) (c : Context)
    (done : Forest.empty.doAll? operations = some f) (there : f.contexts[context]? = some c) :
    StopsAsMade operations f context c := by
  have grown : Grown operations f := Grown.empty.doAll? done
  have earliest := grown.isEarliest there
  have cancelled_iff := grown.isCancelled_iff there
  constructor
  case cancelled_iff => intro now; exact stop?_eq_cancelled_iff.trans cancelled_iff
  case exceeded_iff =>
    intro now
    rw [stop?_eq_exceeded_iff, ← cancelled_iff, Bool.not_eq_true]
  case isEarliest => exact earliest
  case deadlineMs?_iff => intro ms; exact deadlineMs?_eq_some_iff earliest
  case stays =>
    intro later f' now now' goes_on passes stopped
    have ext := Forest.extends_of_doAll? grown goes_on
    exact ⟨ext.stays context c there, isSome_stop?_mono ext.cancelled passes stopped⟩
  case heirs =>
    intro heir d now leads heir_there stopped
    exact grown.heirs leads there heir_there stopped
  case spares =>
    intro cancelled f' now cancels unreached
    exact grown.spares there cancels unreached
  case waits => intro now stop time; exact stop?_of_wait?
  case waits_at_once => intro now stop; exact wait?_of_stop?
  case outcome?_eq => intros; rfl

/-- A context that is cancelled after others have been made from it, one of them with a deadline. -/
theorem stops_as_made_later :
    let operations : List Operation :=
      [.make .root, .make (.childUntil 0 500), .make (.sharing 1), .make (.childUntil 2 (-7)),
        .make (.child 0), .cancel 2, .make (.copy 3)]
    ∃ (f : Forest) (c : Context), Forest.empty.doAll? operations = some f ∧
      f.contexts[5]? = some c ∧ StopsAsMade operations f 5 c ∧ c.deadline = some (-7) ∧
      c.stop? f.scopes (-10) = some .cancelled := by
  exact ⟨_, _, rfl, rfl, stops_as_made _ _ _ _ rfl rfl, by decide, by decide⟩

end Context

end Sidecar
