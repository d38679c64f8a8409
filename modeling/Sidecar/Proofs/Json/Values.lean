import Mathlib.Data.List.Induction
import Sidecar.Proofs.Json.Fields
import Sidecar.Proofs.Named

/-!
# Records that are read from values

A value that is kept from a text is read later, with only the last member of each name in its objects
(`asRead`). A record is read from such an object just if its fields get their values from the members that
count (`Codec.record_read_asRead_iff`); nothing in a value is at fault, so nothing else matters.
-/

namespace Sidecar.Json

variable {σ α : Type} {room : Nat} {name : String} {value : Json} {members : List (String × Json)}

/-! ## Nodes of values -/

/-- The members of a value with their nodes. -/
def withNodes (members : List (String × Json)) : List (String × Node) :=
  members.map (Prod.map id toNode)

/-- Nothing is at fault in the members of a value. -/
lemma skip_withNodes : ∀ member ∈ withNodes members, member.2.skip = .ok () := by
  intro member mem
  obtain ⟨⟨name, value⟩, -, rfl⟩ := List.mem_map.mp mem
  exact skip_toNode value

/-- The nodes of members have the names of those members, and no others. -/
lemma named_memberNodes_iff {nodes : List (String × Node)} :
    Named nodes (memberNodes members) ↔ nodes = withNodes members := by
  unfold Named withNodes
  rw [memberNodes_eq, List.forall₂_map_right_iff]
  constructor
  · intro h
    induction h with
    | nil => rfl
    | @cons node member nodes members same _ ih =>
      obtain ⟨name, node⟩ := node
      obtain ⟨other, value⟩ := member
      obtain ⟨named, rfl⟩ := same
      obtain rfl : other = name := Except.ok.inj named
      rw [List.map_cons, ← ih]
      rfl
  · rintro rfl
    rw [List.forall₂_map_left_iff, List.forall₂_same]
    exact fun (_, _) _ => ⟨rfl, rfl⟩

/-- If every name stands once, the values of a name are what is looked up under it. -/
lemma valuesOf_withNodes (once : (members.map Prod.fst).Nodup) :
    valuesOf name (withNodes members) = ((members.lookup name).map toNode).toList := by
  induction members with
  | nil => rfl
  | cons member members ih =>
    obtain ⟨other, value⟩ := member
    obtain ⟨new, once⟩ := List.nodup_cons.mp once
    have cons : withNodes ((other, value) :: members) = (other, value.toNode) :: withNodes members := rfl
    by_cases same : other = name
    · subst same
      rw [cons, valuesOf_cons_own, ih once, Named.lookup_of_not_mem new, List.lookup_cons_self]
      rfl
    · rw [cons, valuesOf_cons_other same, ih once, List.lookup_cons,
        beq_false_of_ne fun here => same here.symm]

/-- A record is read from an object if its fields are. -/
lemma Codec.record_read_toNode_iff {form : Form σ σ} (once : form.names.Nodup) {record : σ} :
    (Codec.record form).read room (Json.object members).toNode = .ok record ↔
      1 < room ∧ form.Gathers (room - 1) (withNodes members) record := by
  rw [toNode, record_read_object_iff once]
  simp only [named_memberNodes_iff, true_and, exists_eq_left]
  exact and_congr_right' ⟨fun ⟨_, gathers⟩ => gathers,
    fun gathers => ⟨fun member mem _ => skip_withNodes member mem, gathers⟩⟩

/-- Another value than null is read as if it could not be left out. -/
lemma Codec.optional_read_toNode {codec : Codec α} (ne : value ≠ .null) :
    codec.optional.read room value.toNode = (codec.read room value.toNode).map some := by
  cases value with
  | null => exact absurd rfl ne
  | bool | number | string | array | object => rfl

/-! ## Members that count -/

/-- In an array repeated names are dropped item by item. -/
lemma itemsWithoutDuplicates_eq_map (items : List Json) :
    itemsWithoutDuplicates items = items.map withoutDuplicates := by
  induction items with
  | nil => rfl
  | cons item items ih => rw [itemsWithoutDuplicates, ih, List.map_cons]

/-- In the values of members repeated names are dropped one by one. -/
lemma membersWithoutDuplicates_eq_map (members : List (String × Json)) :
    membersWithoutDuplicates members = members.map (Prod.map id withoutDuplicates) := by
  induction members with
  | nil => rfl
  | cons member members ih =>
    obtain ⟨name, value⟩ := member
    rw [membersWithoutDuplicates, ih, List.map_cons]
    rfl

/-- Of the members that count no two have the same name. -/
lemma nodup_lastOfEach : ((lastOfEach members).map Prod.fst).Nodup := by
  induction members using List.reverseRecOn with
  | nil => exact .nil
  | append_singleton members member ih =>
    rw [lastOfEach, List.foldl_append, ← lastOfEach]
    exact Named.nodup_put ih

/-- The member that counts is the last one of its name. -/
lemma lookup_lastOfEach : (lastOfEach members).lookup name = members.reverse.lookup name := by
  induction members using List.reverseRecOn with
  | nil => rfl
  | append_singleton members member ih =>
    obtain ⟨other, value⟩ := member
    rw [lastOfEach, List.foldl_append, ← lastOfEach, List.reverse_append, List.reverse_singleton,
      List.singleton_append, List.lookup_cons, ← ih]
    show (Named.put other value (lastOfEach members)).lookup name = _
    rw [Named.lookup_put]
    by_cases same : name = other
    · simp [same]
    · simp [same, beq_false_of_ne same]

/-! ## Values that have been kept -/

/-- A value that has been kept, as it is read. -/
def asRead (value : Json) : Node := value.withoutDuplicates.toNode

/-- Dropping members makes no value null. -/
lemma withoutDuplicates_ne_null (ne : value ≠ .null) : value.withoutDuplicates ≠ .null := by
  cases value with
  | null => exact absurd rfl ne
  | bool | number | string | array | object => nofun

/-- The members of an object that has been kept, as they are read. -/
def membersAsRead (members : List (String × Json)) : List (String × Node) :=
  withNodes (lastOfEach (membersWithoutDuplicates members))

/-- The last member of each name is read. -/
lemma valuesOf_membersAsRead :
    valuesOf name (membersAsRead members) = ((members.reverse.lookup name).map asRead).toList := by
  rw [membersAsRead, valuesOf_withNodes nodup_lastOfEach, lookup_lastOfEach,
    membersWithoutDuplicates_eq_map, ← List.map_reverse, Named.lookup_map, Option.map_map]
  rfl

/-- An array is read later item by item. -/
lemma asRead_array (items : List Json) : asRead (.array items) = .array (items.map asRead) none := by
  rw [asRead, withoutDuplicates, toNode, itemNodes_eq, itemsWithoutDuplicates_eq_map, List.map_map]
  rfl

/-- A record is read from an object that has been kept just if its fields get their values from the members
that count. -/
lemma Codec.record_read_asRead_iff {form : Form σ σ} (once : form.names.Nodup) {record : σ} :
    (Codec.record form).read room (asRead (.object members)) = .ok record ↔
      1 < room ∧ form.Gathers (room - 1) (membersAsRead members) record :=
  record_read_toNode_iff once

end Sidecar.Json
