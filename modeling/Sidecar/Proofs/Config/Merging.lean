import Sidecar.Config.Value
import Sidecar.Proofs.Named

/-!
# What merging does along a path

Laid over another one, a value decides what it settles: the places that it gives a value, and those that
cannot be there beside it. All other places stay as they were (`Value.outline?_merge`).
-/

namespace Sidecar

namespace Config

/-! ## Paths -/

/-- What stands at the end of a path, without what is inside a table. -/
inductive Outline where
  | leaf (value : Value)
  | table

namespace Value

def outline? : List String → Value → Option Outline
  | [], .table _ => some .table
  | [], value => some (.leaf value)
  | name :: path, .table members => (members.lookup name).bind (outline? path)
  | _ :: _, _ => none

/-- The value leaves nothing open about a path: it has something there, or something in the way that is no
table. -/
def settles : List String → Value → Bool
  | [], _ => true
  | name :: path, .table members => (members.lookup name).any (settles path)
  | _ :: _, _ => true

/-- The value is no table, and says something. -/
def IsLeaf : Value → Prop
  | .nothing | .table _ => False
  | _ => True

/-- Names stand once in the tables of the value, and nothing in them is left open. Values in lists do not
matter, as lists are not merged. -/
inductive IsProper : Value → Prop where
  | leaf {value : Value} : value.IsLeaf → IsProper value
  | table {members : Members} :
    (members.map Prod.fst).Nodup →
    (∀ member ∈ members, member.2.IsProper) →
    IsProper (.table members)

variable {value lower upper : Value} {path : List String} {name : String} {members : Members}

/-- In a proper table names stand once. -/
lemma IsProper.names (h : IsProper (.table members)) : (members.map Prod.fst).Nodup := by
  cases h with
  | leaf isLeaf => exact isLeaf.elim
  | table once _ => exact once

/-- In a proper table all values are proper. -/
lemma IsProper.values (h : IsProper (.table members)) : ∀ member ∈ members, member.2.IsProper := by
  cases h with
  | leaf isLeaf => exact isLeaf.elim
  | table _ proper => exact proper

/-- The empty table is proper. -/
lemma isProper_empty : IsProper (.table []) :=
  .table List.nodup_nil fun _ mem => nomatch mem

/-- A proper table stays so when a proper value is put into it. -/
lemma IsProper.put (h : IsProper (.table members)) (proper : value.IsProper) :
    IsProper (.table (Named.put name value members)) := by
  refine .table (Named.nodup_put h.names) fun member mem => ?_
  rcases Named.mem_put mem with rfl | mem
  · exact proper
  · exact h.values member mem

end Value

/-- A value in the place of what may be there already. -/
def overlaid (lower : Option Value) (upper : Value) : Value :=
  match lower with
  | some value => value.merge upper
  | none => upper

section Members

variable {lower upper : Members} {name : String}

/-- A member that is laid over a table replaces the one of its name, or is merged with it. -/
lemma mergeMember_eq (member : String × Value) :
    mergeMember lower member = Named.put member.1 (overlaid (lower.lookup member.1) member.2) lower := by
  obtain ⟨name, value⟩ := member
  rw [mergeMember]
  cases lower.lookup name <;> rfl

/-- Under each name merged tables have what is merged there, or what one of them has alone. -/
lemma lookup_mergeMembers (once : (upper.map Prod.fst).Nodup) :
    (mergeMembers lower upper).lookup name =
      ((upper.lookup name).map (overlaid (lower.lookup name))).or (lower.lookup name) := by
  induction upper generalizing lower with
  | nil => rfl
  | cons first rest ih =>
    obtain ⟨n, value⟩ := first
    obtain ⟨new, once⟩ := List.nodup_cons.mp once
    rw [mergeMembers, ih once, mergeMember_eq, Named.lookup_put]
    by_cases same : name = n
    · subst same
      rw [if_pos rfl, Named.lookup_of_not_mem new, List.lookup_cons_self]
      rfl
    · rw [if_neg same, List.lookup_cons, beq_false_of_ne same]

end Members

namespace Value

variable {value lower upper : Value} {path : List String} {name : String} {members : Members}

/-- What is no table replaces everything below. -/
lemma IsLeaf.merge_eq (h : upper.IsLeaf) : lower.merge upper = upper := by
  cases upper with
  | nothing | table => exact h.elim
  | _ => simp only [merge]

/-- A table replaces what is no table. -/
lemma merge_of_table (h : ∀ members, lower ≠ .table members) :
    lower.merge (.table members) = .table members := by
  cases lower with
  | table members => exact absurd rfl (h members)
  | _ => simp only [merge]

/-- Over anything a table gives a table. -/
lemma exists_merge_table (lower : Value) (members : Members) :
    ∃ merged, lower.merge (.table members) = .table merged := by
  cases lower with
  | table lower => exact ⟨mergeMembers lower members, by rw [merge]⟩
  | _ => exact ⟨members, merge_of_table fun _ => Value.noConfusion⟩

/-- At its own place a table is seen as a table. -/
lemma outline?_nil_eq_table_iff : outline? [] value = some .table ↔ ∃ members, value = .table members := by
  cases value <;> simp [outline?]

/-- A value has nothing at a path that it leaves open. -/
lemma outline?_of_not_settles (h : value.settles path = false) : outline? path value = none := by
  induction path generalizing value with
  | nil => cases h
  | cons name path ih =>
    cases value with
    | table members =>
      rw [settles] at h
      rw [outline?]
      cases found : members.lookup name with
      | none => rfl
      | some inner =>
        rw [found] at h
        exact ih h
    | _ => cases h

/-- So one may ask first whether it leaves the path open. -/
lemma outline?_eq_ite (path : List String) (value : Value) :
    outline? path value = if value.settles path then outline? path value else none := by
  cases h : value.settles path with
  | true => rfl
  | false => exact outline?_of_not_settles h

/-- What stands at a path after merging is what the upper value has there, if this settles the path, and
otherwise what the lower one has there. -/
lemma outline?_merge (proper : upper.IsProper) (path : List String) (lower : Value) :
    outline? path (lower.merge upper) =
      if upper.settles path then outline? path upper else outline? path lower := by
  -- Merging goes down both tables as far as the names are the same, so the induction is on the path.
  induction path generalizing lower upper with
  | nil =>
    rw [settles, if_pos rfl]
    cases proper with
    | leaf isLeaf => rw [isLeaf.merge_eq]
    | table => cases lower <;> simp only [merge, outline?]
  | cons name path ih =>
    cases proper with
    | leaf isLeaf =>
      rw [isLeaf.merge_eq]
      cases upper with
      | nothing | table => exact isLeaf.elim
      | _ => rfl
    | @table members once proper =>
      cases lower with
      | table lower =>
        rw [merge, outline?, outline?, outline?, settles, lookup_mergeMembers once]
        cases found : members.lookup name with
        | none => rfl
        | some value =>
          cases lower.lookup name with
          | none => exact (outline?_eq_ite path value).trans rfl
          | some inner => exact ih (proper _ (Named.mem_of_lookup found)) inner
      | _ =>
        rw [merge_of_table (fun _ => Value.noConfusion)]
        exact outline?_eq_ite (name :: path) _

/-- The end of a path is no leaf if it is a table. -/
lemma outline?_ne_leaf_table : outline? path value ≠ some (.leaf (.table members)) := by
  induction path generalizing value with
  | nil => cases value <;> rintro ⟨⟩
  | cons name path ih =>
    cases value with
    | table outer =>
      intro found
      obtain ⟨inner, -, found⟩ := Option.bind_eq_some_iff.mp found
      exact ih found
    | _ => rintro ⟨⟩

/-- A value that says something everywhere leaves nothing open. -/
lemma IsProper.outline?_ne_nothing (h : value.IsProper) : outline? path value ≠ some (.leaf .nothing) := by
  induction path generalizing value with
  | nil =>
    cases h with
    | leaf isLeaf =>
      cases value with
      | nothing | table => exact isLeaf.elim
      | _ => rintro ⟨⟩
    | table => rintro ⟨⟩
  | cons name path ih =>
    cases value with
    | table members =>
      intro found
      obtain ⟨inner, mem, found⟩ := Option.bind_eq_some_iff.mp found
      exact ih (h.values _ (Named.mem_of_lookup mem)) found
    | _ => rintro ⟨⟩

/-! ## Merging many -/

/-- Proper members that are merged into a proper table leave it proper. -/
lemma isProper_mergeMembers {lower members : Members} (lower_proper : (table lower).IsProper)
    (merges : ∀ member ∈ members, member.2.IsProper ∧
      ∀ {lower : Value}, lower.IsProper → (lower.merge member.2).IsProper) :
    (table (mergeMembers lower members)).IsProper := by
  induction members generalizing lower with
  | nil => exact lower_proper
  | cons first rest ih =>
    obtain ⟨⟨first_proper, first_merges⟩, merges⟩ := List.forall_mem_cons.mp merges
    rw [mergeMembers, mergeMember_eq]
    refine ih (lower_proper.put ?_) merges
    cases found : lower.lookup first.1 with
    | none => exact first_proper
    | some value => exact first_merges (lower_proper.values _ (Named.mem_of_lookup found))

/-- Proper values are merged to a proper one. -/
lemma IsProper.merge (upper_proper : upper.IsProper) (lower_proper : lower.IsProper) :
    (lower.merge upper).IsProper := by
  induction upper_proper generalizing lower with
  | leaf isLeaf =>
    rw [isLeaf.merge_eq]
    exact .leaf isLeaf
  | table once proper ih =>
    cases lower with
    | table lower =>
      rw [Value.merge]
      exact isProper_mergeMembers lower_proper fun member mem => ⟨proper member mem, ih member mem⟩
    | _ =>
      rw [merge_of_table fun _ => Value.noConfusion]
      exact .table once proper

section Fold

variable {uppers : List Value} (proper : ∀ upper ∈ uppers, upper.IsProper)
include proper

/-- So are any number of them. -/
lemma isProper_foldl (lower_proper : lower.IsProper) : (uppers.foldl Value.merge lower).IsProper := by
  induction uppers generalizing lower with
  | nil => exact lower_proper
  | cons first rest ih =>
    obtain ⟨first_proper, proper⟩ := List.forall_mem_cons.mp proper
    exact ih proper (first_proper.merge lower_proper)

/-- Layers that leave a path open do not change what is there. -/
lemma outline?_foldl_of_unsettled (unsettled : ∀ upper ∈ uppers, upper.settles path = false) :
    outline? path (uppers.foldl Value.merge lower) = outline? path lower := by
  induction uppers generalizing lower with
  | nil => rfl
  | cons first rest ih =>
    obtain ⟨first_proper, proper⟩ := List.forall_mem_cons.mp proper
    obtain ⟨first_unsettled, unsettled⟩ := List.forall_mem_cons.mp unsettled
    rw [List.foldl_cons, ih proper unsettled, outline?_merge first_proper, first_unsettled]
    rfl

/-- Values that agree about a path, and one of which settles it, decide together what stands there. -/
lemma outline?_foldl_of_settled {outline : Option Outline}
    (agree : ∀ upper ∈ uppers, upper.settles path → outline? path upper = outline)
    (settled : ∃ upper ∈ uppers, upper.settles path) :
    outline? path (uppers.foldl Value.merge lower) = outline := by
  induction uppers generalizing lower with
  | nil =>
    obtain ⟨_, mem, -⟩ := settled
    cases mem
  | cons first rest ih =>
    obtain ⟨first_proper, proper⟩ := List.forall_mem_cons.mp proper
    obtain ⟨first_agrees, agree⟩ := List.forall_mem_cons.mp agree
    -- The last value that settles the path has its way there, so it matters whether a later one does.
    by_cases later : ∃ upper ∈ rest, upper.settles path
    · exact ih proper agree later
    · have unsettled : ∀ upper ∈ rest, upper.settles path = false := by simpa using later
      have first_settles : first.settles path := by
        obtain ⟨upper, mem, settles⟩ := settled
        rcases List.mem_cons.mp mem with rfl | mem
        · exact settles
        · exact absurd ⟨upper, mem, settles⟩ later
      rw [List.foldl_cons, outline?_foldl_of_unsettled proper unsettled, outline?_merge first_proper,
        if_pos first_settles, first_agrees first_settles]

end Fold

/-- A value settles a path if it has something at its end, or a leaf on the way. -/
lemma settles_iff : value.settles path ↔
    (outline? path value).isSome ∨
      ∃ start leaf, start <+: path ∧ outline? start value = some (.leaf leaf) := by
  induction path generalizing value with
  | nil =>
    have something : (outline? [] value).isSome := by cases value <;> rfl
    exact iff_of_true rfl (.inl something)
  | cons name path ih =>
    cases value with
    | table members =>
      rw [settles, outline?]
      constructor
      · intro settled
        obtain ⟨inner, found, settled⟩ := (Option.any_eq_true ..).mp settled
        rcases ih.mp settled with here | ⟨start, leaf, inside, blocks⟩
        · exact .inl (by rwa [found])
        · exact .inr ⟨name :: start, leaf, List.cons_prefix_cons.mpr ⟨rfl, inside⟩,
            Option.bind_eq_some_iff.mpr ⟨inner, found, blocks⟩⟩
      · rintro (here | ⟨_ | ⟨first, start⟩, leaf, inside, blocks⟩)
        · obtain ⟨outline, here⟩ := Option.isSome_iff_exists.mp here
          obtain ⟨inner, found, here⟩ := Option.bind_eq_some_iff.mp here
          exact (Option.any_eq_true ..).mpr ⟨inner, found, ih.mpr (.inl (Option.isSome_of_eq_some here))⟩
        · cases blocks
        · obtain ⟨rfl, within⟩ := List.cons_prefix_cons.mp inside
          obtain ⟨inner, found, blocks⟩ := Option.bind_eq_some_iff.mp blocks
          exact (Option.any_eq_true ..).mpr ⟨inner, found, ih.mpr (.inr ⟨start, leaf, within, blocks⟩)⟩
    | _ => exact iff_of_true rfl (.inr ⟨[], _, List.nil_prefix, rfl⟩)

/-- Merged values settle what one of them settles, if they agree about it. -/
lemma settles_foldl_iff {uppers : List Value} (proper : ∀ upper ∈ uppers, upper.IsProper)
    (agree : ∀ path, ∀ upper ∈ uppers, ∀ upper' ∈ uppers, upper.settles path → upper'.settles path →
      outline? path upper = outline? path upper') :
    (uppers.foldl Value.merge (.table [])).settles (name :: path) ↔
      ∃ upper ∈ uppers, upper.settles (name :: path) := by
  have decided {start : List String} {upper : Value} (mem : upper ∈ uppers)
      (settles : upper.settles start) :
      outline? start (uppers.foldl Value.merge (.table [])) = outline? start upper :=
    outline?_foldl_of_settled proper
      (fun other mem' settles' => agree start other mem' upper mem settles' settles)
      ⟨upper, mem, settles⟩
  -- A leaf on the way stands at the end of a shorter path, about which the values agree as well.
  have source {start : List String} {outline : Outline}
      (found : outline? start (uppers.foldl Value.merge (.table [])) = some outline) :
      (∃ upper ∈ uppers, outline? start upper = some outline) ∨ start = [] ∧ outline = .table := by
    by_cases settled : ∃ upper ∈ uppers, upper.settles start
    · obtain ⟨upper, mem, settles⟩ := settled
      exact .inl ⟨upper, mem, (decided mem settles).symm.trans found⟩
    · rw [outline?_foldl_of_unsettled proper (by simpa using settled)] at found
      cases start with
      | nil => exact .inr ⟨rfl, (Option.some.inj found).symm⟩
      | cons => cases found
  constructor
  · intro settles
    rcases settles_iff.mp settles with here | ⟨start, leaf, inside, blocks⟩
    · obtain ⟨outline, here⟩ := Option.isSome_iff_exists.mp here
      rcases source here with ⟨upper, mem, here⟩ | ⟨empty, -⟩
      · exact ⟨upper, mem, settles_iff.mpr (.inl (Option.isSome_of_eq_some here))⟩
      · cases empty
    · rcases source blocks with ⟨upper, mem, blocks⟩ | ⟨-, ⟨⟩⟩
      exact ⟨upper, mem, settles_iff.mpr (.inr ⟨start, leaf, inside, blocks⟩)⟩
  · rintro ⟨upper, mem, settles⟩
    rcases settles_iff.mp settles with here | ⟨start, leaf, inside, blocks⟩
    · exact settles_iff.mpr (.inl (decided mem settles ▸ here))
    · have here : upper.settles start := settles_iff.mpr (.inl (Option.isSome_of_eq_some blocks))
      exact settles_iff.mpr (.inr ⟨start, leaf, inside, (decided mem here).trans blocks⟩)

end Value

/-! ## Values at a path -/

open Value

variable {value : Value} {path place : List String}

/-- A proper value is proper inside tables too. -/
lemma isProper_nest (proper : value.IsProper) : (nest path value).IsProper := by
  induction path with
  | nil => exact proper
  | cons name path ih => exact .table (List.nodup_singleton name) (List.forall_mem_singleton.mpr ih)

/-- Along its path a nested value has what it has by itself. -/
lemma outline?_nest_append : outline? (place ++ path) (nest place value) = outline? path value := by
  induction place with
  | nil => rfl
  | cons name place ih =>
    change ([(name, nest place value)].lookup name).bind _ = _
    rw [List.lookup_cons_self]
    exact ih

/-- Above a nested value there are only tables. -/
lemma outline?_nest_above (inside : path <+: place) (other : path ≠ place) :
    outline? path (nest place value) = some .table := by
  obtain ⟨rest, rfl⟩ := inside
  cases rest with
  | nil => exact absurd (List.append_nil path).symm other
  | cons name rest =>
    have nested : nest (path ++ name :: rest) value = nest path (nest (name :: rest) value) :=
      List.foldr_append
    have here : outline? (path ++ []) (nest path (nest (name :: rest) value)) =
        outline? [] (nest (name :: rest) value) := outline?_nest_append
    rw [List.append_nil] at here
    rw [nested, here]
    rfl

/-- A nested value settles the paths to it, and those inside it that it settles by itself. -/
lemma settles_nest_iff : (nest place value).settles path ↔
    path <+: place ∨ ∃ rest, path = place ++ rest ∧ value.settles rest := by
  induction place generalizing path with
  | nil =>
    constructor
    · exact fun settled => .inr ⟨path, rfl, settled⟩
    · rintro (inside | ⟨_, rfl, settled⟩)
      · obtain rfl := List.prefix_nil.mp inside
        rfl
      · exact settled
  | cons name place ih =>
    cases path with
    | nil => exact iff_of_true rfl (.inl List.nil_prefix)
    | cons first path =>
      by_cases same : first = name
      · subst same
        have step : (nest (first :: place) value).settles (first :: path) =
            (nest place value).settles path := by
          change ([(first, nest place value)].lookup first).any _ = _
          rw [List.lookup_cons_self]
          rfl
        simp only [step, ih, List.cons_prefix_cons, List.cons_append, List.cons.injEq, true_and]
      · have step : (nest (name :: place) value).settles (first :: path) = false := by
          change ([(name, nest place value)].lookup first).any _ = _
          rw [List.lookup_cons, beq_false_of_ne same]
          rfl
        simp [step, List.cons_prefix_cons, same]

/-- It leaves open what starts with another name. -/
lemma head_eq_of_settles_nest {first name : String}
    (settles : (nest (first :: place) value).settles (name :: path)) : first = name := by
  rcases settles_nest_iff.mp settles with above | ⟨rest, same, -⟩
  · exact (List.cons_prefix_cons.mp above).1.symm
  · exact (List.cons.inj same).1.symm

end Config

end Sidecar
