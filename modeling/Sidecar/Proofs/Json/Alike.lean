import Mathlib.Data.List.Induction
import Sidecar.Json.Node
import Sidecar.Proofs.Named

/-!
# Values that are alike

The order of the members of an object means nothing, so long as no name stands there twice. `Alike` is
sameness up to that order; `Plain` are the values of which it is true, with a bound for how deep they go.
Nothing of a plain value is lost when of the members of one name only the last one counts
(`Plain.withoutDuplicates_eq`).
-/

namespace Sidecar.Json

mutual

/-- Two values are alike if they differ at most in the order of the members of their objects. -/
inductive Alike : Json → Json → Prop where
  | refl (value : Json) : Alike value value
  | array {items items' : List Json} :
    AlikeItems items items' → Alike (.array items) (.array items')
  | object {members between members' : List (String × Json)} :
    AlikeMembers members between → between.Perm members' →
    Alike (.object members) (.object members')

inductive AlikeItems : List Json → List Json → Prop where
  | nil : AlikeItems [] []
  | cons {item item' : Json} {items items' : List Json} :
    Alike item item' → AlikeItems items items' → AlikeItems (item :: items) (item' :: items')

inductive AlikeMembers : List (String × Json) → List (String × Json) → Prop where
  | nil : AlikeMembers [] []
  | cons {name : String} {value value' : Json} {members members' : List (String × Json)} :
    Alike value value' → AlikeMembers members members' →
    AlikeMembers ((name, value) :: members) ((name, value') :: members')

end

/-- Items are alike to themselves, one by one. -/
lemma AlikeItems.refl (items : List Json) : AlikeItems items items := by
  induction items with
  | nil => exact .nil
  | cons item items ih => exact .cons (.refl item) ih

/-- Members are alike to themselves, one by one. -/
lemma AlikeMembers.refl (members : List (String × Json)) : AlikeMembers members members := by
  induction members with
  | nil => exact .nil
  | cons member members ih => exact .cons (.refl member.2) ih

/-- Members that are alike one by one have the same names in the same order. -/
lemma AlikeMembers.names_eq {members members' : List (String × Json)} :
    AlikeMembers members members' → members'.map Prod.fst = members.map Prod.fst
  | .nil => rfl
  | .cons _ rest => congrArg (_ :: ·) rest.names_eq

/-- Every member has a counterpart of the same name and an alike value. -/
lemma AlikeMembers.exists_alike {members members' : List (String × Json)} {name : String}
    {value' : Json} : AlikeMembers members members' → (name, value') ∈ members' →
    ∃ value, (name, value) ∈ members ∧ Alike value value'
  | .cons alike rest, mem => by
    rcases List.mem_cons.mp mem with first | later
    · cases first
      exact ⟨_, List.mem_cons_self .., alike⟩
    · obtain ⟨value, mem, alike⟩ := rest.exists_alike later
      exact ⟨value, List.mem_cons_of_mem _ mem, alike⟩

namespace Alike

variable {json : Json}

/-- Nothing else is alike to a string. -/
lemma eq_of_string {text : String} (h : Alike (.string text) json) : json = .string text := by
  cases h
  rfl

/-- Nothing else is alike to a number. -/
lemma eq_of_number {number : Number} (h : Alike (.number number) json) : json = .number number := by
  cases h
  rfl

/-- Nothing else is alike to null. -/
lemma eq_of_null (h : Alike .null json) : json = .null := by
  cases h
  rfl

/-- What is alike to another value than null is not null. -/
lemma ne_null {value : Json} (h : Alike value json) (ne : value ≠ .null) : json ≠ .null := by
  cases h with
  | refl => exact ne
  | array _ => nofun
  | object _ _ => nofun

/-- What is alike to an array is an array of alike items in the same order. -/
lemma of_array {items : List Json} (h : Alike (.array items) json) :
    ∃ items', json = .array items' ∧ AlikeItems items items' := by
  cases h with
  | refl => exact ⟨items, rfl, .refl items⟩
  | array alike => exact ⟨_, rfl, alike⟩

/-- What is alike to an object is an object: its members are put in another order, and their values are
alike. -/
lemma of_object {members : List (String × Json)} (h : Alike (.object members) json) :
    ∃ between members', json = .object members' ∧ between.Perm members' ∧
      AlikeMembers members between := by
  cases h with
  | refl => exact ⟨members, members, rfl, .refl _, .refl members⟩
  | object alike perm => exact ⟨_, _, rfl, perm, alike⟩

end Alike

/-! ## Plain values -/

/-- No object of the value has two members of one name, and so many of its brackets at most are open at
once. -/
inductive Plain : Nat → Json → Prop where
  | null {levels : Nat} : Plain levels .null
  | bool {levels : Nat} (value : Bool) : Plain levels (.bool value)
  | number {levels : Nat} (value : Number) : Plain levels (.number value)
  | string {levels : Nat} (value : String) : Plain levels (.string value)
  | array {levels : Nat} {items : List Json} :
    (∀ item ∈ items, Plain levels item) → Plain (levels + 1) (.array items)
  | object {levels : Nat} {members : List (String × Json)} :
    (members.map Prod.fst).Nodup → (∀ member ∈ members, Plain levels member.2) →
    Plain (levels + 1) (.object members)

mutual

/-- Values that are alike are as plain as each other. -/
lemma Alike.plain {value value' : Json} {levels : Nat} :
    Alike value value' → Plain levels value → Plain levels value'
  | .refl _, plain => plain
  | .array alike, .array plain => .array (alike.plain plain)
  | .object alike perm, .object once plain =>
    .object ((perm.map Prod.fst).nodup_iff.mp (alike.names_eq ▸ once))
      fun member mem => alike.plain plain member (perm.mem_iff.mpr mem)

/-- Items that are alike are as plain as each other. -/
lemma AlikeItems.plain {items items' : List Json} {levels : Nat} :
    AlikeItems items items' → (∀ item ∈ items, Plain levels item) →
    ∀ item ∈ items', Plain levels item
  | .nil, plain => plain
  | .cons first rest, plain =>
    List.forall_mem_cons.mpr ⟨first.plain (plain _ (List.mem_cons_self ..)),
      rest.plain fun item mem => plain item (List.mem_cons_of_mem _ mem)⟩

/-- Members that are alike have values as plain as each other. -/
lemma AlikeMembers.plain {members members' : List (String × Json)} {levels : Nat} :
    AlikeMembers members members' → (∀ member ∈ members, Plain levels member.2) →
    ∀ member ∈ members', Plain levels member.2
  | .nil, plain => plain
  | .cons first rest, plain =>
    List.forall_mem_cons.mpr ⟨first.plain (plain _ (List.mem_cons_self ..)),
      rest.plain fun member mem => plain member (List.mem_cons_of_mem _ mem)⟩

end

/-! ## Members that count -/

/-- If every name stands once, nothing is dropped. -/
lemma lastOfEach_eq {members : List (String × Json)} (once : (members.map Prod.fst).Nodup) :
    lastOfEach members = members := by
  induction members using List.reverseRecOn with
  | nil => rfl
  | append_singleton members member ih =>
    rw [List.map_append, List.nodup_append] at once
    obtain ⟨earlier, -, apart⟩ := once
    have new : member.1 ∉ members.map Prod.fst := fun mem =>
      apart _ mem _ (List.mem_singleton_self _) rfl
    rw [lastOfEach, List.foldl_append, ← lastOfEach, ih earlier]
    exact Named.put_of_not_mem new

/-- Items that have nothing to drop stay as they are. -/
lemma itemsWithoutDuplicates_eq {items : List Json}
    (h : ∀ item ∈ items, item.withoutDuplicates = item) : itemsWithoutDuplicates items = items := by
  induction items with
  | nil => rfl
  | cons item items ih =>
    rw [List.forall_mem_cons] at h
    rw [itemsWithoutDuplicates, h.1, ih h.2]

/-- Members whose values have nothing to drop stay as they are. -/
lemma membersWithoutDuplicates_eq {members : List (String × Json)}
    (h : ∀ member ∈ members, member.2.withoutDuplicates = member.2) :
    membersWithoutDuplicates members = members := by
  induction members with
  | nil => rfl
  | cons member members ih =>
    rw [List.forall_mem_cons] at h
    rw [membersWithoutDuplicates, memberWithoutDuplicates, h.1, ih h.2]

/-- In a plain value no name stands twice in an object, so nothing is dropped from it. -/
lemma Plain.withoutDuplicates_eq {levels : Nat} {value : Json} (h : Plain levels value) :
    value.withoutDuplicates = value := by
  induction h with
  | null | bool | number | string => rfl
  | array _ ih => rw [withoutDuplicates, itemsWithoutDuplicates_eq ih]
  | object once _ ih => rw [withoutDuplicates, membersWithoutDuplicates_eq ih, lastOfEach_eq once]

end Sidecar.Json
