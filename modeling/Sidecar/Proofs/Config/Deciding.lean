import Mathlib.Data.List.Pairwise
import Sidecar.Config.Layers
import Sidecar.Proofs.Config.Sources

/-!
# Which layer decides

At every path one layer decides: a variable that settles it, or else the address that the platform has put
into the environment, the file, or what holds when nothing is configured (`Decides`). In the table that all
layers make up, what stands at a path is what the deciding layer has there (`outline?_layers`).
-/

namespace Sidecar.Config

open Value

/-! ## Variables -/

namespace Variable

variable {env : Environment} {name : String} {path place : List String} {value : Value}

/-- What the variables set: the values with the paths that they are at. -/
def assignments (env : Environment) : List (List String × Value) :=
  env.filterMap fun (name, bytes) =>
    (path? name).map fun place => (place, Literal.parse (Utf8.lossy bytes).toList)

/-- No two variables set one path, and none sets a path that leads to what another one sets. -/
def Apart (env : Environment) : Prop :=
  (env.filterMap fun (name, _) => path? name).Pairwise fun place other =>
    ¬place <+: other ∧ ¬other <+: place

/-- Splitting gives at least one part. -/
lemma splitAtDots_ne_nil (cs : List Char) : splitAtDots cs ≠ [] := by
  cases cs with
  | nil => exact List.cons_ne_nil _ _
  | cons c cs =>
    rw [splitAtDots]
    split
    · exact List.cons_ne_nil _ _
    · split <;> exact List.cons_ne_nil _ _

/-- A variable that configures leads somewhere. -/
lemma ne_nil_of_path? (found : path? name = some place) : place ≠ [] := by
  unfold path? at found
  dsimp only at found
  split at found
  · split at found
    · cases found
    · obtain rfl := Option.some.inj found
      simpa using splitAtDots_ne_nil _
  · cases found

/-- Each variable that configures is an assignment, and nothing else is. -/
lemma mem_assignments_iff : (place, value) ∈ assignments env ↔
    ∃ name bytes, (name, bytes) ∈ env ∧ path? name = some place ∧
      value = Literal.parse (Utf8.lossy bytes).toList := by
  simp only [assignments, List.mem_filterMap, Option.map_eq_some_iff, Prod.mk.injEq, Prod.exists]
  constructor
  · rintro ⟨name, bytes, mem, _, found, rfl, rfl⟩
    exact ⟨name, bytes, mem, found, rfl⟩
  · rintro ⟨name, bytes, mem, found, rfl⟩
    exact ⟨name, bytes, mem, place, found, rfl, rfl⟩

/-- The layers of the variables. -/
def layersOf (env : Environment) : List Value :=
  (assignments env).map fun (place, value) => nest place value

/-- Each variable that configures makes a layer of its own. -/
lemma mem_layersOf_iff {layer : Value} : layer ∈ layersOf env ↔
    ∃ name bytes place, (name, bytes) ∈ env ∧ path? name = some place ∧
      layer = nest place (Literal.parse (Utf8.lossy bytes).toList) := by
  simp only [layersOf, List.mem_map, Prod.exists, mem_assignments_iff]
  constructor
  · rintro ⟨place, _, ⟨name, bytes, mem, found, rfl⟩, rfl⟩
    exact ⟨name, bytes, place, mem, found, rfl⟩
  · rintro ⟨name, bytes, place, mem, found, rfl⟩
    exact ⟨place, _, ⟨name, bytes, mem, found, rfl⟩, rfl⟩

/-- The variables are merged one after the other, over an empty table. -/
lemma layer_eq (env : Environment) : layer env = (layersOf env).foldl Value.merge (.table []) := by
  have same : (env.filterMap fun (name, value) => layer? name value) = layersOf env := by
    rw [layersOf, assignments, List.map_filterMap]
    congr 1
    funext ⟨name, bytes⟩
    simp only [layer?, Option.map_map]
    rfl
  rw [layer, same]

/-- Each of these layers is proper. -/
lemma isProper_layersOf (env : Environment) : ∀ layer ∈ layersOf env, layer.IsProper := by
  intro layer mem
  obtain ⟨_, _, _, -, -, rfl⟩ := mem_layersOf_iff.mp mem
  exact isProper_nest (Literal.isProper_parse _)

/-- Each of these layers is a table. -/
lemma exists_eq_of_mem_layersOf {env : Environment} {layer : Value} (mem : layer ∈ layersOf env) :
    ∃ members, layer = .table members := by
  obtain ⟨_, _, _, -, found, rfl⟩ := mem_layersOf_iff.mp mem
  exact outline?_nil_eq_table_iff.mp (outline?_nest_above List.nil_prefix (ne_nil_of_path? found).symm)

/-- So is what all variables make up. -/
lemma isProper_layer (env : Environment) : (layer env).IsProper := by
  rw [layer_eq]
  exact isProper_foldl (isProper_layersOf env) isProper_empty

/-- All variables together make up a table. -/
lemma exists_layer_eq (env : Environment) : ∃ members, layer env = .table members := by
  rw [← outline?_nil_eq_table_iff, layer_eq]
  by_cases some_set : ∃ layer ∈ layersOf env, layer.settles []
  · exact outline?_foldl_of_settled (isProper_layersOf env)
      (fun layer mem _ => outline?_nil_eq_table_iff.mpr (exists_eq_of_mem_layersOf mem)) some_set
  · exact outline?_foldl_of_unsettled (isProper_layersOf env) (by simpa using some_set)

/-- Variables that are apart assign to places of which none is inside another. -/
lemma Apart.assignments (apart : Apart env) :
    (assignments env).Pairwise fun first second => ¬first.1 <+: second.1 ∧ ¬second.1 <+: first.1 := by
  have places : (Variable.assignments env).map Prod.fst = env.filterMap fun (name, _) => path? name := by
    rw [Variable.assignments, List.map_filterMap]
    congr 1
    funext ⟨name, bytes⟩
    rw [Option.map_map]
    exact Option.map_id'
  rwa [Apart, ← places, List.pairwise_map] at apart

/-- Two variables that both settle a path agree about it: it leads to what both of them set. -/
lemma Apart.agree (apart : Apart env) {place' : List String} {value' : Value}
    (mem : (place, value) ∈ Variable.assignments env) (mem' : (place', value') ∈ Variable.assignments env)
    (settles : (nest place value).settles path) (settles' : (nest place' value').settles path) :
    outline? path (nest place value) = outline? path (nest place' value') := by
  by_cases same : (place, value) = (place', value')
  · obtain ⟨rfl, rfl⟩ := Prod.mk.inj same
    rfl
  have symmetric : Std.Symm fun first second : List String × Value =>
      ¬first.1 <+: second.1 ∧ ¬second.1 <+: first.1 := ⟨fun _ _ h => ⟨h.2, h.1⟩⟩
  obtain ⟨not_below, not_below'⟩ := apart.assignments.forall mem mem' same
  -- Unless the path leads to both places, one of these is the start of the other.
  rcases settles_nest_iff.mp settles with above | ⟨rest, rfl, -⟩ <;>
    rcases settles_nest_iff.mp settles' with above' | ⟨rest', there, -⟩
  · rw [outline?_nest_above above (fun here => not_below (here ▸ above')),
      outline?_nest_above above' (fun here => not_below' (here ▸ above))]
  · exact absurd ((List.prefix_append ..).trans (there ▸ above)) not_below'
  · exact absurd ((List.prefix_append ..).trans above') not_below
  · rcases List.prefix_or_prefix_of_prefix (List.prefix_append place rest)
      (there ▸ List.prefix_append place' rest') with h | h
    · exact absurd h not_below
    · exact absurd h not_below'

/-- Variables that are apart do not contradict each other. -/
lemma Apart.agree_layersOf (apart : Apart env) : ∀ path, ∀ layer ∈ layersOf env, ∀ layer' ∈ layersOf env,
    layer.settles path → layer'.settles path → outline? path layer = outline? path layer' := by
  intro path layer mem layer' mem' settles settles'
  obtain ⟨_, here, rfl⟩ := List.mem_map.mp mem
  obtain ⟨_, here', rfl⟩ := List.mem_map.mp mem'
  exact apart.agree here here' settles settles'

/-- Variables that are apart settle together what each of them settles. -/
lemma Apart.settles_layer_iff (apart : Apart env) :
    (layer env).settles (name :: path) ↔ ∃ layer ∈ layersOf env, layer.settles (name :: path) := by
  rw [layer_eq]
  exact settles_foldl_iff (isProper_layersOf env) apart.agree_layersOf

/-- What one of them says about a path is what all of them say. -/
lemma Apart.outline?_layer (apart : Apart env) {layer : Value} (mem : layer ∈ layersOf env)
    (settles : layer.settles path) : outline? path (Variable.layer env) = outline? path layer := by
  rw [layer_eq]
  exact outline?_foldl_of_settled (isProper_layersOf env)
    (fun other mem' settles' => apart.agree_layersOf path other mem' layer mem settles' settles)
    ⟨layer, mem, settles⟩

end Variable

/-! ## The layer that decides -/

section Decides

variable {document : Value} {env : Environment} {name : String} {path : List String} {layer : Value}

/-- The layer decides what is configured at the path, as no higher one settles it. -/
inductive Decides (document : Value) (env : Environment) (path : List String) : Value → Prop where
  | assigned {layer : Value} :
    layer ∈ Variable.layersOf env →
    layer.settles path →
    Decides document env path layer
  | platform :
    (∀ layer ∈ Variable.layersOf env, layer.settles path = false) →
    (platformLayer env).settles path →
    Decides document env path (platformLayer env)
  | file :
    (∀ layer ∈ Variable.layersOf env, layer.settles path = false) →
    (platformLayer env).settles path = false →
    document.settles path →
    Decides document env path document
  | standard :
    (∀ layer ∈ Variable.layersOf env, layer.settles path = false) →
    (platformLayer env).settles path = false →
    document.settles path = false →
    Decides document env path standardLayer

/-- About every path some layer decides. -/
lemma exists_decides (document : Value) (env : Environment) (path : List String) :
    ∃ layer, Decides document env path layer := by
  by_cases assigned : ∃ layer ∈ Variable.layersOf env, layer.settles path
  · obtain ⟨_, mem, settles⟩ := assigned
    exact ⟨_, .assigned mem settles⟩
  have unset : ∀ layer ∈ Variable.layersOf env, layer.settles path = false := by simpa using assigned
  cases platform : (platformLayer env).settles path with
  | true => exact ⟨_, .platform unset platform⟩
  | false =>
    cases file : document.settles path with
    | true => exact ⟨_, .file unset platform file⟩
    | false => exact ⟨_, .standard unset platform file⟩

/-- The address that the platform gives is a proper layer. -/
lemma isProper_platformLayer (env : Environment) : (platformLayer env).IsProper := by
  unfold platformLayer
  split
  · exact .table (List.nodup_singleton _) (List.forall_mem_singleton.mpr (.leaf trivial))
  · exact isProper_empty

/-- What all layers have at a path is what the topmost layer that settles it has there. -/
lemma outline?_layers_eq (proper : document.IsProper) (path : List String) (env : Environment) :
    outline? path (layers document env) =
      if (Variable.layer env).settles path then outline? path (Variable.layer env)
      else if (platformLayer env).settles path then outline? path (platformLayer env)
      else if document.settles path then outline? path document
      else outline? path standardLayer := by
  change outline? path (((standardLayer.merge document).merge (platformLayer env)).merge
    (Variable.layer env)) = _
  rw [outline?_merge (Variable.isProper_layer env), outline?_merge (isProper_platformLayer env),
    outline?_merge proper]

/-- What is configured at a path is what the layer that decides has there. -/
lemma outline?_layers (apart : Variable.Apart env) (proper : document.IsProper)
    (decides : Decides document env (name :: path) layer) :
    outline? (name :: path) (layers document env) = outline? (name :: path) layer := by
  have unset (h : ∀ layer ∈ Variable.layersOf env, layer.settles (name :: path) = false) :
      (Variable.layer env).settles (name :: path) = false := by
    rw [← Bool.not_eq_true, apart.settles_layer_iff]
    rintro ⟨layer, mem, settles⟩
    rw [h layer mem] at settles
    cases settles
  rw [outline?_layers_eq proper]
  cases decides with
  | assigned mem settles =>
    rw [if_pos (apart.settles_layer_iff.mpr ⟨_, mem, settles⟩), apart.outline?_layer mem settles]
  | platform unsettled settles => rw [unset unsettled, settles]; rfl
  | file unsettled platform settles => rw [unset unsettled, platform, settles]; rfl
  | standard unsettled platform file => rw [unset unsettled, platform, file]; rfl

/-- Layers that decide about the same path agree. -/
lemma Decides.agree {layer' : Value} (apart : Variable.Apart env) (proper : document.IsProper)
    (decides : Decides document env (name :: path) layer)
    (decides' : Decides document env (name :: path) layer') :
    outline? (name :: path) layer = outline? (name :: path) layer' :=
  (outline?_layers apart proper decides).symm.trans (outline?_layers apart proper decides')

/-- What decides depends on nothing but the variables that settle the path, and the address that the
platform has put into the environment. -/
lemma Decides.congr {env' : Environment} (platform : platformLayer env' = platformLayer env)
    (variables_iff : ∀ layer, layer.settles path →
      (layer ∈ Variable.layersOf env ↔ layer ∈ Variable.layersOf env'))
    (decides : Decides document env path layer) : Decides document env' path layer := by
  have unset (h : ∀ layer ∈ Variable.layersOf env, layer.settles path = false) :
      ∀ layer ∈ Variable.layersOf env', layer.settles path = false := fun layer mem => by
    by_contra settles
    rw [Bool.not_eq_false] at settles
    rw [h layer ((variables_iff layer settles).mpr mem)] at settles
    cases settles
  cases decides with
  | assigned mem settles => exact .assigned ((variables_iff layer settles).mp mem) settles
  | platform unsettled settles => exact platform ▸ .platform (unset unsettled) (platform ▸ settles)
  | file unsettled below settles => exact .file (unset unsettled) (platform ▸ below) settles
  | standard unsettled below file => exact .standard (unset unsettled) (platform ▸ below) file

/-- All other layers than the standard one say something wherever they have something. -/
lemma Decides.says (decides : Decides document env [name] layer) (proper : document.IsProper)
    (isTable : ∃ members, document = .table members) :
    layer = standardLayer ∨ ∃ outline, outline? [name] layer = some outline ∧ outline ≠ .leaf .nothing := by
  have said (layer : Value) (proper : layer.IsProper) (isTable : ∃ members, layer = .table members)
      (settles : layer.settles [name]) :
      ∃ outline, outline? [name] layer = some outline ∧ outline ≠ .leaf .nothing := by
    obtain ⟨members, rfl⟩ := isTable
    obtain ⟨value, found, -⟩ := (Option.any_eq_true ..).mp settles
    have here : (outline? [name] (.table members)).isSome := by
      rw [outline?, found]
      cases value <;> rfl
    obtain ⟨outline, here⟩ := Option.isSome_iff_exists.mp here
    exact ⟨outline, here, fun nothing => proper.outline?_ne_nothing (nothing ▸ here)⟩
  cases decides with
  | assigned mem settles =>
    exact .inr (said layer (Variable.isProper_layersOf env layer mem)
      (Variable.exists_eq_of_mem_layersOf mem) settles)
  | platform _ settles =>
    refine .inr (said _ (isProper_platformLayer env) ?_ settles)
    unfold platformLayer
    split <;> exact ⟨_, rfl⟩
  | file _ _ settles => exact .inr (said document proper isTable settles)
  | standard => exact .inl rfl

/-- The table of a file, or an empty one. -/
lemma isProper_of_fileLayer {file : Option (List UInt8)} (read : fileLayer file = .ok document) :
    document.IsProper ∧ ∃ members, document = .table members := by
  unfold fileLayer at read
  split at read
  · cases read
    exact ⟨isProper_empty, [], rfl⟩
  · split at read
    · next parsed =>
      cases read
      obtain ⟨_, -, parsed⟩ := Option.bind_eq_some_iff.mp parsed
      exact ⟨Toml.isProper_parse? parsed, _, rfl⟩
    · cases read

/-- All layers together are a table. -/
lemma exists_layers_eq (document : Value) (env : Environment) :
    ∃ members, layers document env = .table members := by
  obtain ⟨upper, set⟩ := Variable.exists_layer_eq env
  change ∃ members, ((standardLayer.merge document).merge (platformLayer env)).merge
    (Variable.layer env) = .table members
  rw [set]
  exact exists_merge_table _ upper

end Decides

end Sidecar.Config
