import Mathlib.Data.List.Induction
import Mathlib.Data.Set.Basic
import Mathlib.Tactic.Lemma
import Sidecar.Proofs.Context.Stop

/-!
# Forests of contexts

Contexts are made from each other and cancelled, in any order. How they belong together follows from how
they were made alone: from the ways that lead from a context back to those it was made from (`Leads`), and
from which contexts have their scope in common (`Shares`). A forest keeps to this whatever is done
(`Grown`).
-/

namespace Sidecar

namespace Context

/-! ## Making and cancelling contexts -/

/-- How a context is made. A context that it is made from is given by its place in the order in which
the contexts were made. -/
inductive Making where
  | root
  | sharing (parent : Nat)
  | copy (parent : Nat)
  | child (parent : Nat)
  | childUntil (parent : Nat) (deadlineMs : Int64)
  deriving DecidableEq, Repr

namespace Making

/-- The context that another one is made from. -/
def parent? : Making → Option Nat
  | .root => none
  | .sharing parent => some parent
  | .copy parent => some parent
  | .child parent => some parent
  | .childUntil parent _ => some parent

/-- The context that has its scope in common with the new one. -/
def partner? : Making → Option Nat
  | .sharing parent => some parent
  | .copy parent => some parent
  | _ => none

/-- The context whose deadlines hold for the new one as well. -/
def limiter? : Making → Option Nat
  | .copy parent => some parent
  | .child parent => some parent
  | .childUntil parent _ => some parent
  | _ => none

/-- The deadline that is given for the new context. -/
def deadline? : Making → Option Int
  | .childUntil _ deadlineMs => some deadlineMs.toInt
  | _ => none

end Making

inductive Operation where
  | make (making : Making)
  | cancel (context : Nat)
  deriving DecidableEq, Repr

/-- Contexts in the order in which they were made. -/
structure Forest where
  contexts : List Context
  scopes : Scopes
  deriving DecidableEq, Repr

namespace Forest

def empty : Forest := ⟨[], .empty⟩

def make? (f : Forest) : Making → Option (Context × Scopes)
  | .root => some (root f.scopes)
  | .sharing parent => f.contexts[parent]?.map fun c => (c.sharing, f.scopes)
  | .copy parent => f.contexts[parent]?.map fun c => (c, f.scopes)
  | .child parent => f.contexts[parent]?.map fun c => c.child f.scopes
  | .childUntil parent deadlineMs =>
    f.contexts[parent]?.map fun c => c.childUntilMs deadlineMs f.scopes

/-- Does one thing, if the contexts that it needs are there. -/
def act? (f : Forest) : Operation → Option Forest
  | .make making => (f.make? making).map fun (c, scopes) => ⟨f.contexts ++ [c], scopes⟩
  | .cancel context => f.contexts[context]?.map fun c => { f with scopes := c.cancel f.scopes }

def doAll? (f : Forest) : List Operation → Option Forest
  | [] => some f
  | operation :: operations => (f.act? operation).bind (·.doAll? operations)

end Forest

/-! ## How contexts belong together -/

def makings (operations : List Operation) : List Making :=
  operations.filterMap fun
    | .make making => some making
    | .cancel _ => none

/-- Making a context adds to how the contexts were made. -/
lemma makings_append_make (operations : List Operation) (making : Making) :
    makings (operations ++ [.make making]) = makings operations ++ [making] :=
  List.filterMap_append ..

/-- Cancelling one does not. -/
lemma makings_append_cancel (operations : List Operation) (context : Nat) :
    makings (operations ++ [.cancel context]) = makings operations := by
  rw [makings, List.filterMap_append]
  exact List.append_nil _

section

variable (link : Making → Option Nat) (made : List Making)

/-- Links of a kind lead from a context back to an earlier one. -/
inductive Leads : Nat → Nat → Prop where
  | refl (context : Nat) : Leads context context
  | step {context parent earlier : Nat} {making : Making} :
    made[context]? = some making → link making = some parent → Leads parent earlier →
    Leads context earlier

/-- Contexts have their scope in common. -/
inductive Shares : Nat → Nat → Prop where
  | refl (context : Nat) : Shares context context
  | symm {context other : Nat} : Shares context other → Shares other context
  | trans {context other another : Nat} :
    Shares context other → Shares other another → Shares context another
  | made {context partner : Nat} {making : Making} :
    made[context]? = some making → making.partner? = some partner → Shares context partner

/-- A cancellation of a context reaches another one: one of the contexts that the other one comes from
has the cancelled scope. -/
def IsReached (context cancelled : Nat) : Prop :=
  ∃ ancestor, Leads Making.parent? made context ancestor ∧ Shares made cancelled ancestor

/-- The deadlines that have been given on the way to a context. -/
def deadlines (context : Nat) : Set Int :=
  { deadline | ∃ limiter making, Leads Making.limiter? made context limiter ∧
      made[limiter]? = some making ∧ making.deadline? = some deadline }

end

/-- What a context takes over from the one that it is made from. Its own number is left open. -/
inductive MadeFrom (contexts : List Context) : Making → Context → Prop where
  | root {number : Nat} : MadeFrom contexts .root ⟨⟨number, []⟩, none⟩
  | sharing {parent : Nat} {c : Context} :
    contexts[parent]? = some c → MadeFrom contexts (.sharing parent) c.sharing
  | copy {parent : Nat} {c : Context} :
    contexts[parent]? = some c → MadeFrom contexts (.copy parent) c
  | child {parent number : Nat} {c : Context} :
    contexts[parent]? = some c →
    MadeFrom contexts (.child parent) ⟨⟨number, c.scope.numbers⟩, c.deadline⟩
  | childUntil {parent number : Nat} {c : Context} {deadlineMs : Int64} :
    contexts[parent]? = some c →
    MadeFrom contexts (.childUntil parent deadlineMs)
      ⟨⟨number, c.scope.numbers⟩, some (earlier c.deadline deadlineMs.toInt)⟩

/-- A forest is what some operations make of an empty one. -/
structure Grown (operations : List Operation) (f : Forest) : Prop where
  length_eq : f.contexts.length = (makings operations).length
  makes : ∀ (context : Nat) (making : Making), (makings operations)[context]? = some making →
    ∃ c, f.contexts[context]? = some c ∧ MadeFrom f.contexts making c
  parent_lt : ∀ (context parent : Nat) (making : Making),
    (makings operations)[context]? = some making → making.parent? = some parent → parent < context
  /-- The numbers that have been given to scopes, and the next one. -/
  numbers_lt : ∀ c ∈ f.contexts, ∀ number ∈ c.scope.numbers, number < f.scopes.next
  /-- A scope is given its number once. -/
  shares : ∀ (context other : Nat) (c d : Context), f.contexts[context]? = some c →
    f.contexts[other]? = some d → c.scope.number = d.scope.number →
    Shares (makings operations) context other
  cancels : ∀ context : Nat, .cancel context ∈ operations →
    ∃ c, f.contexts[context]? = some c ∧ c.scope.number ∈ f.scopes.cancelled
  cancelled : ∀ number ∈ f.scopes.cancelled, ∃ (context : Nat) (c : Context),
    .cancel context ∈ operations ∧ f.contexts[context]? = some c ∧ c.scope.number = number

variable {operations : List Operation} {f f' : Forest} {link : Making → Option Nat}
  {made : List Making} {making : Making} {c d : Context} {scopes : Scopes} {context other : Nat}

/-! ## One operation -/

/-- What comes of making a context. -/
structure Forest.Makes (f : Forest) (making : Making) (c : Context) (scopes : Scopes) : Prop where
  madeFrom : MadeFrom f.contexts making c
  parent_some : ∀ parent, making.parent? = some parent → ∃ d, f.contexts[parent]? = some d
  cancelled_eq : scopes.cancelled = f.scopes.cancelled
  next_le : f.scopes.next ≤ scopes.next
  numbers_lt : ∀ number ∈ c.scope.numbers, number < scopes.next
  /-- The scope is a new one, or that of the partner. -/
  number_eq : c.scope.number = f.scopes.next ∨ ∃ partner d, making.partner? = some partner ∧
    f.contexts[partner]? = some d ∧ d.scope.number = c.scope.number

/-- Making a context comes to this, as long as every number given so far is below the next one. -/
lemma Forest.makes_of_make? (known : ∀ c ∈ f.contexts, ∀ number ∈ c.scope.numbers,
    number < f.scopes.next) (h : f.make? making = some (c, scopes)) : f.Makes making c scopes := by
  -- a child is numbered with the next number, in front of those of its parent
  have inside {d : Context} {parent : Nat} (there : f.contexts[parent]? = some d) :
      ∀ number ∈ f.scopes.next :: d.scope.numbers, number < f.scopes.next + 1 := by
    intro number mem
    rcases List.mem_cons.mp mem with rfl | old
    · exact Nat.lt_succ_self _
    · exact Nat.lt_succ_of_lt (known d (List.mem_of_getElem? there) number old)
  cases making with
  | root =>
    cases h
    refine ⟨.root, nofun, rfl, Nat.le_succ _, ?_, .inl rfl⟩
    intro number mem
    obtain rfl := List.mem_singleton.mp mem
    exact Nat.lt_succ_self _
  | sharing parent =>
    obtain ⟨d, there, same⟩ := Option.map_eq_some_iff.mp h
    cases same
    exact ⟨.sharing there, fun _ is => ⟨d, Option.some.inj is ▸ there⟩, rfl, Nat.le_refl _,
      known d (List.mem_of_getElem? there), .inr ⟨parent, d, rfl, there, rfl⟩⟩
  | copy parent =>
    obtain ⟨d, there, same⟩ := Option.map_eq_some_iff.mp h
    cases same
    exact ⟨.copy there, fun _ is => ⟨c, Option.some.inj is ▸ there⟩, rfl, Nat.le_refl _,
      known c (List.mem_of_getElem? there), .inr ⟨parent, c, rfl, there, rfl⟩⟩
  | child parent =>
    obtain ⟨d, there, same⟩ := Option.map_eq_some_iff.mp h
    cases same
    exact ⟨.child there, fun _ is => ⟨d, Option.some.inj is ▸ there⟩, rfl, Nat.le_succ _,
      inside there, .inl rfl⟩
  | childUntil parent deadlineMs =>
    obtain ⟨d, there, same⟩ := Option.map_eq_some_iff.mp h
    rw [childUntilMs_eq] at same
    cases same
    exact ⟨.childUntil there, fun _ is => ⟨d, Option.some.inj is ▸ there⟩, rfl, Nat.le_succ _,
      inside there, .inl rfl⟩

/-- What is at a place stays there when more is added behind. -/
lemma getElem?_append_of_some {α : Type} {items : List α} {place : Nat} {item : α}
    (h : items[place]? = some item) (later : List α) : (items ++ later)[place]? = some item := by
  rw [List.getElem?_append_left (List.getElem?_eq_some_iff.mp h).1, h]

/-- The item at a place of a list with one more item is one of the list, or that last one. -/
lemma getElem?_append_singleton {α : Type} {items : List α} {place : Nat} {item last : α}
    (h : (items ++ [last])[place]? = some item) :
    items[place]? = some item ∨ place = items.length ∧ item = last := by
  by_cases before : place < items.length
  · rw [List.getElem?_append_left before] at h
    exact .inl h
  · have here : place = items.length := by
      have := (List.getElem?_eq_some_iff.mp h).1
      rw [List.length_append, List.length_singleton] at this
      omega
    subst here
    rw [List.getElem?_append_right (Nat.le_refl _), Nat.sub_self] at h
    exact .inr ⟨rfl, (Option.some.inj h).symm⟩

/-- Contexts that share a scope do so however many are made later. -/
lemma Shares.append (h : Shares made context other) (later : List Making) :
    Shares (made ++ later) context other := by
  induction h with
  | refl context => exact .refl context
  | symm _ ih => exact ih.symm
  | trans _ _ ih ih' => exact ih.trans ih'
  | made makes partner => exact .made (getElem?_append_of_some makes later) partner

/-- What a context was made from stays so however many are made later. -/
lemma MadeFrom.append {contexts : List Context} (h : MadeFrom contexts making c)
    (later : List Context) : MadeFrom (contexts ++ later) making c := by
  cases h with
  | root => exact .root
  | sharing there => exact .sharing (getElem?_append_of_some there later)
  | copy there => exact .copy (getElem?_append_of_some there later)
  | child there => exact .child (getElem?_append_of_some there later)
  | childUntil there => exact .childUntil (getElem?_append_of_some there later)

namespace Grown

/-- A forest without contexts agrees with having done nothing. -/
lemma empty : Grown [] .empty where
  length_eq := rfl
  makes := nofun
  parent_lt := nofun
  numbers_lt := nofun
  shares := nofun
  cancels := nofun
  cancelled := nofun

/-- A new context has its number from its partner, or a number that no other one has. -/
lemma shares_of_makes (h : Grown operations f) (makes : f.Makes making c scopes)
    (there : f.contexts[other]? = some d) (same : c.scope.number = d.scope.number) :
    Shares (makings operations ++ [making]) f.contexts.length other := by
  rcases makes.number_eq with fresh | ⟨partner, p, partner_eq, partner_there, partner_same⟩
  · have := h.numbers_lt d (List.mem_of_getElem? there) d.scope.number (List.mem_cons_self ..)
    omega
  · have last : (makings operations ++ [making])[f.contexts.length]? = some making := by
      rw [h.length_eq]
      exact List.getElem?_concat_length
    have shared := h.shares partner other p d partner_there there (partner_same.trans same)
    exact (Shares.made last partner_eq).trans (shared.append _)

/-- Making a context keeps the forest in agreement with what was done. -/
lemma make (h : Grown operations f) (makes : f.Makes making c scopes) :
    Grown (operations ++ [.make making]) ⟨f.contexts ++ [c], scopes⟩ := by
  have more := makings_append_make operations making
  constructor
  case length_eq => rw [more, List.length_append, List.length_append, h.length_eq]; rfl
  case makes =>
    intro context making' made
    rw [more] at made
    rcases getElem?_append_singleton made with old | ⟨rfl, rfl⟩
    · obtain ⟨d, there, from_⟩ := h.makes context making' old
      exact ⟨d, getElem?_append_of_some there _, from_.append _⟩
    · refine ⟨c, ?_, makes.madeFrom.append _⟩
      rw [← h.length_eq]
      exact List.getElem?_concat_length
  case parent_lt =>
    intro context parent making' made parent_eq
    rw [more] at made
    rcases getElem?_append_singleton made with old | ⟨rfl, rfl⟩
    · exact h.parent_lt context parent making' old parent_eq
    · obtain ⟨d, there⟩ := makes.parent_some parent parent_eq
      rw [← h.length_eq]
      exact (List.getElem?_eq_some_iff.mp there).1
  case numbers_lt =>
    intro d mem number number_mem
    rcases List.mem_append.mp mem with old | new
    · exact Nat.lt_of_lt_of_le (h.numbers_lt d old number number_mem) makes.next_le
    · obtain rfl := List.mem_singleton.mp new
      exact makes.numbers_lt number number_mem
  -- a number that two contexts have is an old one of both, or one of the two is the new context
  case shares =>
    intro context other d e there there' same
    rw [more]
    rcases getElem?_append_singleton there with old | ⟨rfl, rfl⟩
    · rcases getElem?_append_singleton there' with old' | ⟨rfl, rfl⟩
      · exact (h.shares context other d e old old' same).append _
      · exact (h.shares_of_makes makes old same.symm).symm
    · rcases getElem?_append_singleton there' with old' | ⟨rfl, rfl⟩
      · exact h.shares_of_makes makes old' same
      · exact .refl _
  case cancels =>
    intro context mem
    rcases List.mem_append.mp mem with old | new
    · obtain ⟨d, there, cancelled⟩ := h.cancels context old
      exact ⟨d, getElem?_append_of_some there _, makes.cancelled_eq ▸ cancelled⟩
    · cases List.mem_singleton.mp new
  case cancelled =>
    intro number mem
    obtain ⟨context, d, cancels, there, number_eq⟩ :=
      h.cancelled number (makes.cancelled_eq ▸ mem)
    exact ⟨context, d, List.mem_append_left _ cancels, getElem?_append_of_some there _, number_eq⟩

/-- So does cancelling one that is there. -/
lemma cancel (h : Grown operations f) (there : f.contexts[context]? = some c) :
    Grown (operations ++ [.cancel context]) { f with scopes := c.cancel f.scopes } := by
  have same := makings_append_cancel operations context
  constructor
  case length_eq => rw [same]; exact h.length_eq
  case makes => rw [same]; exact h.makes
  case parent_lt => rw [same]; exact h.parent_lt
  case numbers_lt => exact h.numbers_lt
  case shares => rw [same]; exact h.shares
  case cancels =>
    intro context' mem
    rcases List.mem_append.mp mem with old | new
    · obtain ⟨d, there', cancelled⟩ := h.cancels context' old
      exact ⟨d, there', List.mem_cons_of_mem _ cancelled⟩
    · cases List.mem_singleton.mp new
      exact ⟨c, there, List.mem_cons_self ..⟩
  case cancelled =>
    intro number mem
    rcases List.mem_cons.mp mem with rfl | old
    · exact ⟨context, c, List.mem_append_right _ (List.mem_singleton_self _), there, rfl⟩
    · obtain ⟨context', d, cancels, there', number_eq⟩ := h.cancelled number old
      exact ⟨context', d, List.mem_append_left _ cancels, there', number_eq⟩

/-- So does anything that can be done. -/
lemma act? (h : Grown operations f) {operation : Operation}
    (applies : f.act? operation = some f') : Grown (operations ++ [operation]) f' := by
  cases operation with
  | make making =>
    obtain ⟨⟨c, scopes⟩, made, rfl⟩ := Option.map_eq_some_iff.mp applies
    exact h.make (Forest.makes_of_make? h.numbers_lt made)
  | cancel context =>
    obtain ⟨c, there, rfl⟩ := Option.map_eq_some_iff.mp applies
    exact h.cancel there

/-- So do several things, one after the other. -/
lemma doAll? (h : Grown operations f) {later : List Operation}
    (applies : f.doAll? later = some f') : Grown (operations ++ later) f' := by
  induction later generalizing operations f with
  | nil =>
    cases applies
    rw [List.append_nil]
    exact h
  | cons operation later ih =>
    obtain ⟨g, first, applies⟩ := Option.bind_eq_some_iff.mp applies
    have := ih (h.act? first) applies
    rwa [List.append_assoc] at this

end Grown

/-! ## What stays as it is -/

/-- The contexts of a forest stay as they are in another one, and so do the cancelled scopes. -/
structure Forest.Extends (f f' : Forest) : Prop where
  stays : ∀ (context : Nat) (c : Context), f.contexts[context]? = some c →
    f'.contexts[context]? = some c
  cancelled : f.scopes.cancelled ⊆ f'.scopes.cancelled

/-- Nothing that is done takes a context or a cancellation back. -/
lemma Forest.extends_of_act? (h : Grown operations f) {operation : Operation}
    (applies : f.act? operation = some f') : f.Extends f' := by
  cases operation with
  | make making =>
    obtain ⟨⟨c, scopes⟩, made, rfl⟩ := Option.map_eq_some_iff.mp applies
    have makes := makes_of_make? h.numbers_lt made
    exact ⟨fun _ _ there => getElem?_append_of_some there _,
      fun _ mem => makes.cancelled_eq ▸ mem⟩
  | cancel context =>
    obtain ⟨c, _, rfl⟩ := Option.map_eq_some_iff.mp applies
    exact ⟨fun _ _ there => there, fun _ mem => List.mem_cons_of_mem _ mem⟩

/-- Nor do several things. -/
lemma Forest.extends_of_doAll? (h : Grown operations f) {later : List Operation}
    (applies : f.doAll? later = some f') : f.Extends f' := by
  induction later generalizing operations f with
  | nil =>
    cases applies
    exact ⟨fun _ _ there => there, fun _ mem => mem⟩
  | cons operation later ih =>
    obtain ⟨g, first, applies⟩ := Option.bind_eq_some_iff.mp applies
    have first_extends := extends_of_act? h first
    have then_extends := ih (h.act? first) applies
    exact ⟨fun context c there => then_extends.stays context c (first_extends.stays context c there),
      fun _ mem => then_extends.cancelled (first_extends.cancelled mem)⟩

end Context

end Sidecar
