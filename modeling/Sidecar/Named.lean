/-!
# Values by name

Lists of pairs in which a name stands once, in the order in which the names came. A value is looked
up with `List.lookup`; `Named.put` changes it in its place.
-/

namespace Sidecar.Named

/-- Puts a value in the place of its name, or behind the others if the name is new. -/
def put (name : String) (value : α) : List (String × α) → List (String × α)
  | [] => [(name, value)]
  | (n, v) :: rest => if n = name then (n, value) :: rest else (n, v) :: put name value rest

/-- After a change of one name, that name has the new value and every other name has the one it had. -/
theorem lookup_put (name other : String) (value : α) (members : List (String × α)) :
    (put name value members).lookup other =
      if other = name then some value else members.lookup other := by
  induction members with
  | nil =>
    by_cases h : other = name
    · simp [put, h]
    · simp [put, List.lookup_cons, h, beq_false_of_ne h]
  | cons member rest ih =>
    obtain ⟨n, v⟩ := member
    by_cases hn : n = name
    · subst hn
      by_cases h : other = n
      · simp [put, h]
      · simp [put, List.lookup_cons, h, beq_false_of_ne h]
    · by_cases h : other = n
      · subst h
        simp [put, hn]
      · rw [put, if_neg hn, List.lookup_cons, List.lookup_cons, beq_false_of_ne h, ih]

end Sidecar.Named
