import Sidecar.Proofs.Json.Values

/-!
# Values that grow

Who writes a value may add members to its objects that a reader does not know yet. A `Layout` says which
parts of a value are read as records, and so which names are known there; `Layout.Extends` is a value with
more members of other names in those parts. A codec follows a layout if it reads all of these values alike
(`Codec.Follows`). A record does so if its fields do, each by the layout of its part
(`Codec.follows_record`).
-/

namespace Sidecar.Json

variable {σ α β : Type} {room : Nat} {name : String}

/-! ## Layouts -/

/-- What the parts of a value are read as. -/
inductive Layout where
  /-- Nothing in it is read as a record. -/
  | whole
  | list (item : Layout)
  /-- Read as a record with fields of these names, and each field by a layout of its own. -/
  | record (names : List String) (part : String → Layout)

/-- A record in which no field is read as a record. -/
def Layout.flat (form : Form σ σ) : Layout := .record form.names fun _ => .whole

/-- The values of fields, in their order, have changed one by one. -/
inductive Fieldwise (changes : String → Json → Json → Prop) :
    List String → List Json → List Json → Prop where
  | nil {names : List String} : Fieldwise changes names [] []
  | cons {name : String} {names : List String} {value value' : Json} {values values' : List Json} :
    changes name value value' → Fieldwise changes names values values' →
    Fieldwise changes (name :: names) (value :: values) (value' :: values')

/-- The values of members have changed one by one, and members of names that are not known have been put
in anywhere. -/
inductive Inserts (names : List String) (changes : String → Json → Json → Prop) :
    List (String × Json) → List (String × Json) → Prop where
  | nil : Inserts names changes [] []
  | keep {name : String} {value value' : Json} {members members' : List (String × Json)} :
    changes name value value' → Inserts names changes members members' →
    Inserts names changes ((name, value) :: members) ((name, value') :: members')
  | insert {name : String} {value : Json} {members members' : List (String × Json)} :
    name ∉ names → Inserts names changes members members' →
    Inserts names changes members ((name, value) :: members')

/-- The second value is the first one with more members in the objects that are read as records, where the
names of these members are not known. -/
def Layout.Extends : Layout → Json → Json → Prop
  | .whole => fun value value' => value = value'
  | .list item => fun value value' => value = value' ∨
    ∃ values values', value = .array values ∧ value' = .array values' ∧
      List.Forall₂ item.Extends values values'
  | .record names part => fun value value' => value = value' ∨
    (∃ values values', value = .array values ∧ value' = .array values' ∧
      Fieldwise (fun name => (part name).Extends) names values values') ∨
    ∃ members members', value = .object members ∧ value' = .object members' ∧
      Inserts names (fun name => (part name).Extends) members members'

/-- Every value extends itself. -/
lemma Layout.Extends.refl (layout : Layout) (value : Json) : layout.Extends value value := by
  cases layout with
  | whole => rfl
  | list | record => exact .inl rfl

/-- Null stays what it is, and nothing becomes null. -/
lemma Layout.Extends.eq_or_ne_null {layout : Layout} {value value' : Json}
    (extended : layout.Extends value value') :
    value = value' ∨ value ≠ .null ∧ value' ≠ .null := by
  cases layout with
  | whole => exact .inl extended
  | list =>
    rcases extended with same | ⟨_, _, rfl, rfl, -⟩
    · exact .inl same
    · exact .inr ⟨nofun, nofun⟩
  | record =>
    rcases extended with same | ⟨_, _, rfl, rfl, -⟩ | ⟨_, _, rfl, rfl, -⟩
    · exact .inl same
    · exact .inr ⟨nofun, nofun⟩
    · exact .inr ⟨nofun, nofun⟩

/-- Of a known name the members that count belong together. -/
lemma Inserts.lookup {names : List String} {changes : String → Json → Json → Prop}
    {members members' : List (String × Json)} (inserts : Inserts names changes members members')
    (known : name ∈ names) :
    Option.Rel (changes name) (members.reverse.lookup name) (members'.reverse.lookup name) := by
  induction inserts with
  | nil => exact .none
  | @keep other value value' members members' changed _ ih =>
    rw [List.reverse_cons, List.reverse_cons, List.lookup_append, List.lookup_append]
    generalize members.reverse.lookup name = later, members'.reverse.lookup name = later' at ih ⊢
    cases ih with
    | some later => exact .some later
    | none =>
      by_cases own : name = other
      · subst own
        simp [Option.Rel.some changed]
      · simp [List.lookup_cons, beq_false_of_ne own]
  | @insert other value members members' unknown _ ih =>
    have other' : name ≠ other := by
      rintro rfl
      exact unknown known
    rw [List.reverse_cons, List.lookup_append]
    simpa [List.lookup_cons, beq_false_of_ne other'] using ih

/-! ## Codecs -/

/-- What the codec reads from a value it reads from all values with more members. -/
def Codec.Follows (codec : Codec α) (layout : Layout) : Prop :=
  ∀ ⦃room value value' read⦄, layout.Extends value value' →
    codec.read room (asRead value) = .ok read → codec.read room (asRead value') = .ok read

/-- The codec of each field follows the layout of its part. -/
def Form.Follows (part : String → Layout) : {α : Type} → Form σ α → Prop
  | _, .make _ => True
  | _, .blank before field => before.Follows part ∧ field.codec.Follows (part field.name)

namespace Codec

variable {codec : Codec α} {layout : Layout}

/-- Any codec minds nothing where nothing may be added. -/
@[simp]
lemma follows_whole : codec.Follows .whole := by
  rintro room value _ read rfl reads
  exact reads

/-- A codec that minds no growth does not mind it where its value may be left out. -/
@[simp]
lemma Follows.optional (follows : codec.Follows layout) : codec.optional.Follows layout := by
  intro room value value' read extended reads
  rcases extended.eq_or_ne_null with rfl | ⟨ne, ne'⟩
  · exact reads
  rw [asRead, optional_read_toNode (withoutDuplicates_ne_null ne)] at reads
  rw [asRead, optional_read_toNode (withoutDuplicates_ne_null ne')]
  cases own : codec.read room value.withoutDuplicates.toNode with
  | error => simp [own, Except.map] at reads
  | ok inner =>
    have own' : codec.read room value'.withoutDuplicates.toNode = .ok inner := follows extended own
    rw [own] at reads
    rwa [own']

/-- A list of values that grow is read as before, one by one. -/
lemma Follows.mapM (follows : codec.Follows layout) {values values' : List Json} {reads : List α}
    (extended : List.Forall₂ layout.Extends values values')
    (read : (values.map asRead).mapM (codec.read room) = .ok reads) :
    (values'.map asRead).mapM (codec.read room) = .ok reads := by
  induction extended generalizing reads with
  | nil => exact read
  | cons first _ ih =>
    simp only [List.map_cons, List.mapM_cons, bind_eq_ok_iff] at read ⊢
    obtain ⟨item, readItem, items, readItems, made⟩ := read
    exact ⟨item, follows first readItem, items, ih readItems, made⟩

/-- A codec for lists minds no growth in the items if that of the items does not. -/
@[simp]
lemma Follows.list (follows : codec.Follows layout) : codec.list.Follows (.list layout) := by
  intro room value value' read extended reads
  rcases extended with rfl | ⟨values, values', rfl, rfl, extended⟩
  · exact reads
  rw [asRead_array] at reads ⊢
  simp only [Codec.list, bind_eq_ok_iff] at reads ⊢
  obtain ⟨inner, deep, items, readItems, rest⟩ := reads
  exact ⟨inner, deep, items, follows.mapM extended readItems, rest⟩

end Codec

namespace Form

variable {part : String → Layout} {form : Form σ α}

/-! ## Records -/

/-- The fields take as many items as before, each its own. -/
lemma Follows.readItems (follows : form.Follows part) {more : List String} {values values' : List Json}
    {rest : List Node} {made : α}
    (extended : Fieldwise (fun name => (part name).Extends) (form.names ++ more) values values')
    (read : form.readItems room (values.map asRead) none = .ok (made, rest)) :
    ∃ left left', rest = left.map asRead ∧
      form.readItems room (values'.map asRead) none = .ok (made, left'.map asRead) ∧
      Fieldwise (fun name => (part name).Extends) more left left' := by
  -- `more` are the names of the fields behind this form, which take the items that it leaves
  induction form generalizing more rest with
  | make build =>
    rw [readItems_make_iff] at read
    obtain ⟨rfl, rfl⟩ := read
    exact ⟨values, values', rfl, rfl, extended⟩
  | blank before field ih =>
    obtain ⟨earlier, own⟩ := follows
    rw [names, List.append_assoc, List.singleton_append] at extended
    obtain ⟨build, rest', first, here⟩ := readItems_blank_iff.mp read
    obtain ⟨left, left', rfl, first', extended⟩ := ih earlier extended first
    cases extended with
    | nil =>
      rcases here with ⟨_, _, ⟨⟩, -⟩ | ⟨-, -, rfl, default⟩
      exact ⟨[], [], rfl, readItems_blank_iff.mpr ⟨build, [], first', .inr ⟨rfl, rfl, rfl, default⟩⟩, .nil⟩
    | @cons _ _ value value' left left' changed extended =>
      rcases here with ⟨_, taken, ⟨⟩, reads, rfl⟩ | ⟨⟨⟩, -⟩
      exact ⟨left, left', rfl, readItems_blank_iff.mpr
        ⟨build, _, first', .inl ⟨_, taken, rfl, own changed reads, rfl⟩⟩, extended⟩

/-- The fields get their values from the members that count, as before. -/
lemma Follows.gathers (follows : form.Follows part) {names : List String}
    {members members' : List (String × Json)} {made : α} (known : ∀ name ∈ form.names, name ∈ names)
    (inserts : Inserts names (fun name => (part name).Extends) members members')
    (gathers : form.Gathers room (membersAsRead members) made) :
    form.Gathers room (membersAsRead members') made := by
  induction form with
  | make => exact gathers
  | blank before field ih =>
    obtain ⟨earlier, own⟩ := follows
    obtain ⟨build, value, gathers, gets, rfl⟩ := gathers
    rw [Form.names, List.forall_mem_append, List.forall_mem_singleton] at known
    refine ⟨build, value, ih earlier known.1 gathers, ?_, rfl⟩
    rw [valuesOf_membersAsRead] at gets ⊢
    have counts := inserts.lookup known.2
    generalize members.reverse.lookup field.name = found, members'.reverse.lookup field.name = found' at *
    cases counts with
    | none => exact gets
    | some changed => exact ⟨gets.1, own changed gets.2⟩

end Form

/-- A record is read from its fields alone. -/
theorem Codec.follows_record {part : String → Layout} {form : Form σ σ} (once : form.names.Nodup)
    (follows : form.Follows part) : (Codec.record form).Follows (.record form.names part) := by
  intro room value value' record extended reads
  -- the same value, an array of the fields, or an object with their names
  rcases extended with rfl | ⟨values, values', rfl, rfl, extended⟩ | ⟨members, members', rfl, rfl, inserts⟩
  · exact reads
  · rw [asRead_array, record_read_array_iff] at reads ⊢
    obtain ⟨deep, -, read⟩ := reads
    rw [← List.append_nil form.names] at extended
    obtain ⟨left, left', empty, read', extended⟩ := follows.readItems extended read
    obtain rfl : left = [] := List.map_eq_nil_iff.mp empty.symm
    cases extended
    exact ⟨deep, rfl, read'⟩
  · rw [record_read_asRead_iff once] at reads ⊢
    exact ⟨reads.1, follows.gathers (fun _ known => known) inserts reads.2⟩

/-- From a value that has grown a codec reads what it has read before. -/
lemma Codec.Follows.ofJson? {codec : Codec α} {layout : Layout} (follows : codec.Follows layout)
    {value value' : Json} {read : α} (extended : layout.Extends value value')
    (reads : codec.ofJson? value.withoutDuplicates = some read) :
    codec.ofJson? value'.withoutDuplicates = some read :=
  toOption_eq_some_iff.mpr (follows extended (toOption_eq_some_iff.mp reads))

/-! ## Describing records -/

namespace Form

variable {part : String → Layout} {codec : Codec β}

/-- A form minds nothing if nothing may be added to the values of its fields. -/
lemma follows_allWhole (form : Form σ α) : form.Follows fun _ => .whole := by
  induction form with
  | make => trivial
  | blank before field ih => exact ⟨ih, Codec.follows_whole⟩

/-- A form without fields minds no growth. -/
@[simp]
lemma follows_make (build : α) : (make build : Form σ α).Follows part := trivial

/-- A form with one field more minds no growth if that field does not. -/
@[simp]
lemma follows_field {before : Form σ (β → α)} {get : σ → β} :
    (before.field name codec get).Follows part ↔ before.Follows part ∧ codec.Follows (part name) :=
  Iff.rfl

/-- So it is with a field that has a default. -/
@[simp]
lemma follows_fieldOr {before : Form σ (β → α)} {default : β} {get : σ → β} :
    (before.fieldOr name codec default get).Follows part ↔
      before.Follows part ∧ codec.Follows (part name) :=
  Iff.rfl

/-- So it is with a field that may be null or left out. -/
@[simp]
lemma follows_optional {before : Form σ (Option β → α)} {get : σ → Option β} :
    (before.optional name codec get).Follows part ↔
      before.Follows part ∧ codec.optional.Follows (part name) :=
  Iff.rfl

end Form

/-- A record minds no members more, as long as the values of its own members stay as they are. -/
lemma Codec.follows_flat {form : Form σ σ} (once : form.names.Nodup) :
    (Codec.record form).Follows (.flat form) :=
  follows_record once form.follows_allWhole

end Sidecar.Json
