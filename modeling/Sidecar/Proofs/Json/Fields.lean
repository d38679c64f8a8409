import Sidecar.Proofs.Json.Order

/-!
# What it takes to read a record

A record is read from an object just if each of its fields gets a value from the members and all other
members can be passed over (`Codec.record_read_object_iff`). A field gets the value of the one member of its
name; without such a member it gets what counts if it is left out, and with more than one it gets nothing.
-/

namespace Sidecar.Json

variable {σ α β : Type} {room : Nat} {name : String} {node : Node} {members : List (String × Node)}

/-- A string is read from a node that is that string. -/
lemma Codec.string_read_iff {text : String} :
    Codec.string.read room node = .ok text ↔ node.scalar = .ok (.string text) := by
  simp only [Codec.string, bind_eq_ok_iff]
  constructor
  · rintro ⟨scalar, found, read⟩
    cases scalar with
    | string => rwa [Except.ok.inj read] at found
    | null | bool | number => cases read
  · intro found
    exact ⟨.string text, found, rfl⟩

/-- The values of the members of a name. -/
def valuesOf (name : String) (members : List (String × Node)) : List Node :=
  (members.filter (·.1 = name)).map Prod.snd

/-- The value of a member in front is the first of the values of its name. -/
lemma valuesOf_cons_own : valuesOf name ((name, node) :: members) = node :: valuesOf name members := by
  rw [valuesOf, List.filter_cons_of_pos (by simp)]
  rfl

/-- A member in front has no part in the values of other names. -/
lemma valuesOf_cons_other {other : String} (h : name ≠ other) :
    valuesOf other ((name, node) :: members) = valuesOf other members := by
  rw [valuesOf, List.filter_cons_of_neg (by simpa using h)]
  rfl

/-- The values of a name are those in the first members, then those in the others. -/
lemma valuesOf_append {members' : List (String × Node)} :
    valuesOf name (members ++ members') = valuesOf name members ++ valuesOf name members' := by
  rw [valuesOf, List.filter_append, List.map_append, valuesOf, valuesOf]

/-- A name that no member has has no values. -/
lemma valuesOf_of_not_mem (h : ∀ member ∈ members, member.1 ≠ name) : valuesOf name members = [] := by
  rw [valuesOf, List.map_eq_nil_iff, List.filter_eq_nil_iff]
  intro member mem
  simpa using h member mem

/-- In another order of the members a name has the same values, perhaps in another order. -/
lemma valuesOf_perm {members' : List (String × Node)} (perm : members.Perm members') :
    (valuesOf name members).Perm (valuesOf name members') :=
  (perm.filter _).map _

/-- The members of an object with their names. -/
def Named : List (String × Node) → List (Node × Node) → Prop :=
  List.Forall₂ fun member node => node.1.name = .ok member.1 ∧ node.2 = member.2

/-- The nodes have one name each. -/
lemma Named.unique {members' : List (String × Node)} {nodes : List (Node × Node)}
    (h : Named members nodes) (h' : Named members' nodes) : members = members' := by
  refine List.left_unique_forall₂' ?_ h h'
  rintro ⟨name, node⟩ ⟨name', node'⟩ ⟨key, value⟩ ⟨named, rfl⟩ ⟨named', rfl⟩
  obtain rfl : name = name' := Except.ok.inj (named.symm.trans named')
  rfl

/-- The field gets a value out of those that stand under its name. -/
def Blank.Gets (room : Nat) (field : Blank σ β) (value : β) : List Node → Prop
  | [] => (field.met <|> field.default <|> field.codec.missing) = some value
  | [node] => field.met = none ∧ field.codec.read room node = .ok value
  | _ => False

/-- A field that takes a value has met it from then on. -/
lemma Blank.gets_cons_iff {field : Blank σ β} {value : β} {nodes : List Node} :
    field.Gets room value (node :: nodes) ↔ field.met = none ∧
      ∃ taken, field.codec.read room node = .ok taken ∧
        Blank.Gets room { field with met := some taken } value nodes := by
  cases nodes with
  | nil =>
    constructor
    · rintro ⟨unmet, read⟩
      exact ⟨unmet, value, read, rfl⟩
    · rintro ⟨unmet, taken, read, same⟩
      cases same
      exact ⟨unmet, read⟩
  | cons second others =>
    refine ⟨False.elim, ?_⟩
    rintro ⟨-, taken, -, again⟩
    cases others with
    | nil => cases again.1
    | cons => exact again

/-- A field that must not be left out gets its value out of one node. -/
lemma Blank.gets_required_iff (field : Blank σ β) {value : β} {nodes : List Node}
    (unmet : field.met = none) (required : (field.default <|> field.codec.missing) = none) :
    field.Gets room value nodes ↔ ∃ node, nodes = [node] ∧ field.codec.read room node = .ok value := by
  match nodes with
  | [] => simp [Gets, unmet, required]
  | [node] => simp [Gets, unmet]
  | _ :: _ :: _ => simp [Gets]

/-- A field with a default gets it if it is left out. -/
lemma Blank.gets_default_iff (field : Blank σ β) {value default : β} {nodes : List Node}
    (unmet : field.met = none) (fallback : (field.default <|> field.codec.missing) = some default) :
    field.Gets room value nodes ↔ nodes = [] ∧ value = default ∨
      ∃ node, nodes = [node] ∧ field.codec.read room node = .ok value := by
  match nodes with
  | [] => simp [Gets, unmet, fallback, eq_comm]
  | [node] => simp [Gets, unmet]
  | _ :: _ :: _ => simp [Gets]

namespace Form

/-- The fields of the form get values out of the members of an object, and this is what the form makes of
them. -/
def Gathers (room : Nat) (members : List (String × Node)) : {α : Type} → Form σ α → α → Prop
  | _, .make build, made => made = build
  | _, .blank before field, made => ∃ build value, before.Gathers room members build ∧
      field.Gets room value (valuesOf field.name members) ∧ made = build value

/-- A form without fields makes what it makes, whatever the members are. -/
lemma gathers_make {build made : α} :
    (make build : Form σ α).Gathers room members made ↔ made = build := Iff.rfl

/-- A field that must be there gets its value from the one member of its name. -/
lemma gathers_field {before : Form σ (β → α)} (codec : Codec β) {get : σ → β} {made : α}
    (required : codec.missing = none) :
    (before.field name codec get).Gathers room members made ↔
      ∃ build value, before.Gathers room members build ∧
        (∃ node, valuesOf name members = [node] ∧ codec.read room node = .ok value) ∧
        made = build value :=
  exists₂_congr fun _ _ => and_congr_right' (and_congr_left'
    (Blank.gets_required_iff { name, codec, get } rfl required))

/-- A field with a default gets that if it has no member, or its value from the only one. -/
lemma gathers_fieldOr {before : Form σ (β → α)} {codec : Codec β} {default : β} {get : σ → β}
    {made : α} :
    (before.fieldOr name codec default get).Gathers room members made ↔
      ∃ build value, before.Gathers room members build ∧
        (valuesOf name members = [] ∧ value = default ∨
          ∃ node, valuesOf name members = [node] ∧ codec.read room node = .ok value) ∧
        made = build value :=
  exists₂_congr fun _ _ => and_congr_right' (and_congr_left'
    (Blank.gets_default_iff { name, codec, get, default := some default } rfl rfl))

/-- A member that no field has the name of makes no difference. -/
lemma gathers_cons_of_not_mem {form : Form σ α} (unknown : name ∉ form.names) {made : α} :
    form.Gathers room ((name, node) :: members) made ↔ form.Gathers room members made := by
  induction form with
  | make => exact Iff.rfl
  | blank before field ih =>
    rw [names, List.mem_append, List.mem_singleton, not_or] at unknown
    simp only [Gathers, ih unknown.1, valuesOf_cons_other unknown.2]

/-- Taking a member does not change the names of a form. -/
lemma names_of_take? {form form' : Form σ α} (taken : form.take? room name node = some form') :
    form'.names = form.names := by
  induction form with
  | make build =>
    rw [take?_make] at taken
    obtain ⟨_, -, rfl⟩ := Option.map_eq_some_iff.mp taken
    rfl
  | blank before field ih =>
    by_cases own : field.name = name
    · by_cases met : field.met.isSome
      · rw [take?_again own met] at taken
        cases taken
      · rw [take?_own own met] at taken
        obtain ⟨value, -, rfl⟩ := Option.map_eq_some_iff.mp taken
        rfl
    · rw [take?_other own] at taken
      obtain ⟨before', takes, rfl⟩ := Option.map_eq_some_iff.mp taken
      rw [names, names, ih takes]

/-- The first member goes to the field of its name, or is passed over. -/
lemma gathers_cons_iff {form : Form σ α} (once : form.names.Nodup) {made : α} :
    (name ∉ form.names → node.skip = .ok ()) ∧ form.Gathers room ((name, node) :: members) made ↔
      ∃ form', form.take? room name node = some form' ∧ form'.Gathers room members made := by
  induction form with
  | make build =>
    rw [take?_make]
    cases skips : node.skip with
    | error => simp [names, Except.toOption]
    | ok => simp [names, Except.toOption, Gathers]
  | blank before field ih =>
    rw [names, List.nodup_append] at once
    obtain ⟨once, -, apart⟩ := once
    -- A form tries its last field first, and no other field has that name.
    have unnamed : field.name ∉ before.names := fun mem =>
      apart _ mem _ (List.mem_singleton_self _) rfl
    by_cases own : field.name = name
    · subst own
      have known : field.name ∈ (before.blank field).names :=
        List.mem_append_right _ (List.mem_singleton_self _)
      simp only [known, not_true_eq_false, false_imp_iff, true_and, Gathers,
        gathers_cons_of_not_mem unnamed, valuesOf_cons_own, Blank.gets_cons_iff]
      by_cases met : field.met.isSome
      · simp [take?_again rfl met, Option.isSome_iff_ne_none.mp met]
      · have unmet : field.met = none := by simpa using met
        rw [take?_own rfl met]
        cases read : field.codec.read room node with
        | error => simp [Except.toOption]
        | ok taken => simp [Except.toOption, Gathers, unmet]
    · have other : name ≠ field.name := fun same => own same.symm
      have names_iff : name ∉ (before.blank field).names ↔ name ∉ before.names := by
        simp [names, other]
      rw [take?_other own, names_iff]
      simp only [Gathers, valuesOf_cons_other other]
      constructor
      · rintro ⟨skips, build, value, gathers, gets, rfl⟩
        obtain ⟨before', taken, gathers⟩ := (ih once).mp ⟨skips, gathers⟩
        exact ⟨_, congrArg _ taken, build, value, gathers, gets, rfl⟩
      · rintro ⟨form', taken, gathers⟩
        obtain ⟨before', takes, rfl⟩ := Option.map_eq_some_iff.mp taken
        obtain ⟨build, value, gathers, gets, rfl⟩ := gathers
        obtain ⟨skips, gathers⟩ := (ih once).mpr ⟨before', takes, gathers⟩
        exact ⟨skips, build, value, gathers, gets, rfl⟩

/-- At the end of the members a form makes what it would gather if there were none. -/
lemma result_eq_ok_iff (room : Nat) {form : Form σ α} {made : α} :
    form.result = .ok made ↔ form.Gathers room [] made := by
  induction form with
  | make build => exact ⟨fun h => (Except.ok.inj h).symm, fun h => congrArg _ h.symm⟩
  | blank before field ih =>
    simp only [result, Gathers, bind_eq_ok_iff, ih]
    refine exists_congr fun build => ?_
    have gets (value) : field.Gets room value (valuesOf field.name []) ↔
        (field.met <|> field.default <|> field.codec.missing) = some value := Iff.rfl
    simp only [gets]
    cases (field.met <|> field.default <|> field.codec.missing) with
    | none => simp
    | some value => simp [eq_comm]

/-- All members go to the fields of their names or are passed over, and what the form makes then is what it
gathers. -/
lemma readMembers_result_iff {form : Form σ α} (once : form.names.Nodup) {nodes : List (Node × Node)}
    {made : α} :
    (∃ form', form.readMembers room nodes = .ok form' ∧ form'.result = .ok made) ↔
      ∃ members, Named members nodes ∧
        (∀ member ∈ members, member.1 ∉ form.names → member.2.skip = .ok ()) ∧
        form.Gathers room members made := by
  unfold Named
  -- A form that has taken a member is another form with the same names.
  induction nodes generalizing form with
  | nil =>
    simp only [readMembers, Except.ok.injEq, exists_eq_left', result_eq_ok_iff room,
      List.forall₂_nil_right_iff, exists_eq_left, List.not_mem_nil, false_imp_iff, implies_true, true_and]
  | cons member nodes ih =>
    obtain ⟨key, node⟩ := member
    have step (form' : Form σ α) : form.readMembers room ((key, node) :: nodes) = .ok form' ↔
        ∃ name, key.name = .ok name ∧ ∃ next, form.take? room name node = some next ∧
          next.readMembers room nodes = .ok form' := by
      rw [← toOption_eq_some_iff, readMembers_cons]
      simp only [Option.bind_eq_some_iff, toOption_eq_some_iff]
    simp only [step, List.forall₂_cons_right_iff]
    constructor
    · rintro ⟨form', ⟨name, named, next, taken, read⟩, result⟩
      have same := names_of_take? taken
      obtain ⟨members, all, skips, gathers⟩ := (ih (same ▸ once)).mp ⟨form', read, result⟩
      obtain ⟨skip, gathers⟩ := (gathers_cons_iff once).mpr ⟨next, taken, gathers⟩
      rw [same] at skips
      exact ⟨_, ⟨(name, node), members, ⟨named, rfl⟩, all, rfl⟩,
        List.forall_mem_cons.mpr ⟨skip, skips⟩, gathers⟩
    · rintro ⟨_, ⟨⟨name, _⟩, members, ⟨named, rfl⟩, all, rfl⟩, skips, gathers⟩
      rw [List.forall_mem_cons] at skips
      obtain ⟨next, taken, gathers⟩ := (gathers_cons_iff once).mp ⟨skips.1, gathers⟩
      have same := names_of_take? taken
      obtain ⟨form', read, result⟩ := (ih (same ▸ once)).mpr ⟨members, all, same ▸ skips.2, gathers⟩
      exact ⟨form', ⟨name, named, next, taken, read⟩, result⟩

end Form

/-- What it takes to read a record from an object. -/
theorem Codec.record_read_object_iff {form : Form σ σ} (once : form.names.Nodup)
    {nodes : List (Node × Node)} {problem : Option Fault} {record : σ} :
    (Codec.record form).read room (.object nodes problem) = .ok record ↔
      1 < room ∧ problem = none ∧ ∃ members, Named members nodes ∧
        (∀ member ∈ members, member.1 ∉ form.names → member.2.skip = .ok ()) ∧
        form.Gathers (room - 1) members record := by
  rw [← Form.readMembers_result_iff once]
  simp only [Codec.record, bind_eq_ok_iff, deeper_eq_ok_iff]
  constructor
  · rintro ⟨_, ⟨deep, rfl⟩, read⟩
    cases all : form.readMembers (room - 1) nodes with
    | error => simp [all] at read
    | ok form' =>
      simp only [all, bind_eq_ok_iff, ending_eq_ok_iff] at read
      obtain ⟨_, ends, result⟩ := read
      exact ⟨deep, ends, form', rfl, result⟩
  · rintro ⟨deep, rfl, form', all, result⟩
    refine ⟨_, ⟨deep, rfl⟩, ?_⟩
    simp only [all, bind_eq_ok_iff, ending_eq_ok_iff]
    exact ⟨(), trivial, result⟩

/-! ## Arrays -/

namespace Form

variable {items rest : List Node} {problem : Option Fault}

/-- A form without fields takes no item of an array. -/
lemma readItems_make_iff {build made : α} :
    (make build : Form σ α).readItems room items problem = .ok (made, rest) ↔
      made = build ∧ rest = items := by
  simp only [readItems, Except.ok.injEq, Prod.mk.injEq, eq_comm]

/-- A field takes the next item, or its default if there is none. -/
lemma readItems_blank_iff {before : Form σ (β → α)} {field : Blank σ β} {made : α} :
    (before.blank field).readItems room items problem = .ok (made, rest) ↔
      ∃ build left, before.readItems room items problem = .ok (build, left) ∧
        ((∃ node value, left = node :: rest ∧ field.codec.read room node = .ok value ∧
            made = build value) ∨
          left = [] ∧ problem = none ∧ rest = [] ∧
            ∃ value, field.default = some value ∧ made = build value) := by
  simp only [readItems, bind_eq_ok_iff, Prod.exists]
  refine exists₂_congr fun build left => and_congr_right fun _ => ?_
  cases left with
  | nil =>
    simp only [bind_eq_ok_iff, ending_eq_ok_iff]
    constructor
    · rintro ⟨_, rfl, here⟩
      cases default : field.default with
      | none => simp [default] at here
      | some value =>
        rw [default] at here
        cases here
        exact .inr ⟨trivial, rfl, rfl, value, rfl, rfl⟩
    · rintro (⟨_, _, ⟨⟩, -⟩ | ⟨-, rfl, rfl, value, default, rfl⟩)
      exact ⟨(), rfl, by rw [default]⟩
  | cons node left =>
    simp only [bind_eq_ok_iff]
    constructor
    · rintro ⟨value, read, ⟨⟩⟩
      exact .inl ⟨node, value, rfl, read, rfl⟩
    · rintro (⟨_, value, ⟨⟩, read, rfl⟩ | ⟨⟨⟩, -⟩)
      exact ⟨value, read, rfl⟩

/-- A field that must not be left out takes the next item. -/
lemma readItems_field_iff {before : Form σ (β → α)} {codec : Codec β} {get : σ → β} {made : α} :
    (before.field name codec get).readItems room items problem = .ok (made, rest) ↔
      ∃ build node value, before.readItems room items problem = .ok (build, node :: rest) ∧
        codec.read room node = .ok value ∧ made = build value := by
  rw [field, readItems_blank_iff]
  constructor
  · rintro ⟨build, _, earlier, ⟨node, value, rfl, read, rfl⟩ | ⟨-, -, -, _, ⟨⟩, -⟩⟩
    exact ⟨build, node, value, earlier, read, rfl⟩
  · rintro ⟨build, node, value, earlier, read, rfl⟩
    exact ⟨build, _, earlier, .inl ⟨node, value, rfl, read, rfl⟩⟩

/-- A field with a default takes the next item, or its default if there is none. -/
lemma readItems_fieldOr_iff {before : Form σ (β → α)} {codec : Codec β} {default : β} {get : σ → β}
    {made : α} :
    (before.fieldOr name codec default get).readItems room items problem = .ok (made, rest) ↔
      ∃ build value, ((∃ node, before.readItems room items problem = .ok (build, node :: rest) ∧
          codec.read room node = .ok value) ∨
        before.readItems room items problem = .ok (build, []) ∧ problem = none ∧ rest = [] ∧
          value = default) ∧ made = build value := by
  rw [fieldOr, readItems_blank_iff]
  constructor
  · rintro ⟨build, _, earlier, ⟨node, value, rfl, read, rfl⟩ | ⟨rfl, ends, rfl, _, ⟨⟩, rfl⟩⟩
    · exact ⟨build, value, .inl ⟨node, earlier, read⟩, rfl⟩
    · exact ⟨build, default, .inr ⟨earlier, ends, rfl, rfl⟩, rfl⟩
  · rintro ⟨build, value, ⟨node, earlier, read⟩ | ⟨earlier, ends, rfl, rfl⟩, rfl⟩
    · exact ⟨build, _, earlier, .inl ⟨node, value, rfl, read, rfl⟩⟩
    · exact ⟨build, _, earlier, .inr ⟨rfl, ends, rfl, _, rfl, rfl⟩⟩

end Form

/-- What it takes to read a record from an array: the fields take all of the items. -/
theorem Codec.record_read_array_iff {form : Form σ σ} {items : List Node} {problem : Option Fault}
    {record : σ} :
    (Codec.record form).read room (.array items problem) = .ok record ↔
      1 < room ∧ problem = none ∧ form.readItems (room - 1) items problem = .ok (record, []) := by
  simp only [Codec.record, bind_eq_ok_iff, deeper_eq_ok_iff, Prod.exists]
  constructor
  · rintro ⟨_, ⟨deep, rfl⟩, value, rest, read, here⟩
    cases rest with
    | nil =>
      obtain ⟨_, ends, ⟨⟩⟩ := bind_eq_ok_iff.mp here
      exact ⟨deep, ending_eq_ok_iff.mp ends, read⟩
    | cons => cases here
  · rintro ⟨deep, rfl, read⟩
    exact ⟨_, ⟨deep, rfl⟩, record, [], read, rfl⟩

/-! ## Texts -/

/-- What it takes for a text to read as a record: it is an object or an array, and nothing else. -/
theorem Codec.record_decode_iff {form : Form σ σ} (once : form.names.Nodup) {raw : List UInt8}
    {record : σ} :
    (Codec.record form).decode raw = .ok record ↔
      (∃ nodes members, Text.parse raw = ⟨.object nodes none, .ok ()⟩ ∧ Named members nodes ∧
        (∀ member ∈ members, member.1 ∉ form.names → member.2.skip = .ok ()) ∧
        form.Gathers (nestingLimit - 1) members record) ∨
      ∃ items, Text.parse raw = ⟨.array items none, .ok ()⟩ ∧
        form.readItems (nestingLimit - 1) items none = .ok (record, []) := by
  rw [decode]
  simp only [bind_eq_ok_iff]
  constructor
  · rintro ⟨_, read, _, ends, ⟨⟩⟩
    -- of the texts that are read whole only objects and arrays are read as records
    cases parsed : Text.parse raw with
    | mk root trailing =>
    rw [parsed] at read ends
    cases root with
    | leaf l =>
      simp only [Codec.record, bind_eq_ok_iff] at read
      obtain ⟨_, -, ⟨⟩⟩ := read
    | array items problem =>
      obtain ⟨-, rfl, read⟩ := record_read_array_iff.mp read
      exact .inr ⟨items, congrArg _ ends, read⟩
    | object nodes problem =>
      obtain ⟨-, rfl, members, named, skips, gathers⟩ := (record_read_object_iff once).mp read
      exact .inl ⟨nodes, members, congrArg _ ends, named, skips, gathers⟩
    | broken => cases read
  · rintro (⟨nodes, members, parsed, named, skips, gathers⟩ | ⟨items, parsed, read⟩)
    · refine ⟨record, ?_, (), congrArg _ parsed, rfl⟩
      rw [parsed]
      exact (record_read_object_iff once).mpr ⟨by decide, rfl, members, named, skips, gathers⟩
    · refine ⟨record, ?_, (), congrArg _ parsed, rfl⟩
      rw [parsed]
      exact record_read_array_iff.mpr ⟨by decide, rfl, read⟩

end Sidecar.Json
