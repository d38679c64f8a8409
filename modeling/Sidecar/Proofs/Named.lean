import Mathlib.Data.List.Nodup
import Mathlib.Tactic.Lemma
import Sidecar.Named

/-!
# What stands under a name

The pairs of a list by name: which value `List.lookup` finds, and what `Named.put` changes.
-/

namespace Sidecar.Named

variable {α : Type} {name : String} {value : α} {members : List (String × α)}

/-! ## Looking up -/

/-- What is found under a name stands in the list with it. -/
lemma mem_of_lookup (found : members.lookup name = some value) : (name, value) ∈ members := by
  obtain ⟨before, after, rfl, -⟩ := List.lookup_eq_some_iff.mp found
  exact List.mem_append_right _ (List.mem_cons_self ..)

/-- Something is found just under the names that the list has. -/
lemma isSome_lookup_iff : (members.lookup name).isSome ↔ name ∈ members.map Prod.fst := by
  rw [List.lookup_isSome_iff, List.mem_map]
  exact exists_congr fun _ => and_congr_right' (beq_iff_eq.trans eq_comm)

/-- Nothing is found under a name that the list does not have. -/
lemma lookup_of_not_mem (h : name ∉ members.map Prod.fst) : members.lookup name = none := by
  rwa [← Option.not_isSome_iff_eq_none, isSome_lookup_iff]

/-- Values may be changed before they are looked up or after. -/
lemma lookup_map {β : Type} (f : α → β) :
    (members.map (Prod.map id f)).lookup name = (members.lookup name).map f := by
  induction members with
  | nil => rfl
  | cons member members ih =>
    obtain ⟨other, value⟩ := member
    rw [List.map_cons, Prod.map_apply, id, List.lookup_cons, List.lookup_cons, ih]
    cases name == other <;> rfl

/-! ## Putting -/

/-- A new name goes to the end of the list. -/
lemma put_of_not_mem (h : name ∉ members.map Prod.fst) :
    put name value members = members ++ [(name, value)] := by
  induction members with
  | nil => rfl
  | cons member members ih =>
    rw [List.map_cons, List.mem_cons, not_or] at h
    rw [put, if_neg fun same => h.1 same.symm, ih h.2]
    rfl

/-- After a change of one name the list has nothing but the new pair that it did not have. -/
lemma mem_put {member : String × α} (mem : member ∈ put name value members) :
    member = (name, value) ∨ member ∈ members := by
  induction members with
  | nil => exact .inl (List.mem_singleton.mp mem)
  | cons first rest ih =>
    obtain ⟨n, v⟩ := first
    by_cases same : n = name
    · rw [put, if_pos same, same] at mem
      rcases List.mem_cons.mp mem with rfl | mem
      · exact .inl rfl
      · exact .inr (List.mem_cons_of_mem _ mem)
    · rw [put, if_neg same] at mem
      rcases List.mem_cons.mp mem with rfl | mem
      · exact .inr (List.mem_cons_self ..)
      · exact (ih mem).imp_right (List.mem_cons_of_mem _)

/-- A name still stands once. -/
lemma nodup_put (once : (members.map Prod.fst).Nodup) :
    ((put name value members).map Prod.fst).Nodup := by
  induction members with
  | nil => exact List.nodup_singleton name
  | cons first rest ih =>
    obtain ⟨n, v⟩ := first
    obtain ⟨new, once⟩ := List.nodup_cons.mp once
    by_cases same : n = name
    · rw [put, if_pos same]
      exact List.nodup_cons.mpr ⟨new, once⟩
    · rw [put, if_neg same]
      refine List.nodup_cons.mpr ⟨fun mem => ?_, ih once⟩
      obtain ⟨member, mem, here⟩ := List.mem_map.mp mem
      rcases mem_put mem with rfl | mem
      · exact same here.symm
      · exact new (List.mem_map.mpr ⟨member, mem, here⟩)

end Sidecar.Named
