import Sidecar.Proofs.Json.Form

/-!
# What is written is read back

A codec reads back what it writes, from any value that is alike: the members of objects may stand in
another order (`Codec.Rereads`). This is shown of each way in which codecs are made, and of a record from
its form alone (`Codec.Rereads.record`).
-/

namespace Sidecar.Json

namespace Codec

variable {α β : Type} {codec : Codec α} {levels : Nat}

/-- The codec writes plain values of so many levels, and reads each back from all that is alike to what it
writes. -/
structure Rereads (codec : Codec α) (levels : Nat) : Prop where
  plain : ∀ value, Plain levels (codec.write value)
  reads : ∀ {room value json}, levels < room → Alike (codec.write value) json →
    codec.read room json.toNode = .ok value

/-- What a codec has written is read back from an alike value, if there is room for its levels. -/
lemma Rereads.ofJson? {value : α} {json : Json} (h : codec.Rereads levels)
    (shallow : levels < nestingLimit) (alike : Alike (codec.write value) json) :
    codec.ofJson? json = some value := by
  rw [Codec.ofJson?, h.reads shallow alike]
  rfl

/-! ## Scalars -/

/-- Strings are read back. -/
@[simp]
lemma string_rereads : string.Rereads levels := by
  refine ⟨.string, fun {room value json} _ alike => ?_⟩
  rw [alike.eq_of_string]
  rfl

/-- Integers are read back. -/
@[simp]
lemma integer_rereads : integer.Rereads levels := by
  refine ⟨fun value => .number _, fun {room value json} _ alike => ?_⟩
  rw [alike.eq_of_number]
  rfl

/-- Doubles are read back. -/
@[simp]
lemma double_rereads : double.Rereads levels := by
  refine ⟨fun value => .number _, fun {room value json} _ alike => ?_⟩
  rw [alike.eq_of_number]
  rfl

/-- What is found of a value in the whole is what is read, even if it is another value. -/
lemma Rereads.refine_read {read? : α → Option β} {write : β → α} (h : codec.Rereads levels)
    {room : Nat} {value value' : β} {json : Json} (shallow : levels < room)
    (alike : Alike ((codec.refine read? write).write value) json)
    (finds : read? (write value) = some value') :
    (codec.refine read? write).read room json.toNode = .ok value' := by
  have read := h.reads shallow alike
  simp only [Codec.refine, read, finds, bind, Except.bind]

/-- A part of a type is read back if it is found again in the whole. -/
lemma Rereads.refine {read? : α → Option β} {write : β → α} (h : codec.Rereads levels)
    (finds : ∀ value, read? (write value) = some value) :
    (codec.refine read? write).Rereads levels :=
  ⟨fun value => h.plain (write value), fun shallow alike => h.refine_read shallow alike (finds _)⟩

/-- Unsigned integers of 64 bits are read back. -/
@[simp]
lemma uint64_rereads : uint64.Rereads levels := by
  refine integer_rereads.refine fun value => ?_
  have bound : (0 : Int) ≤ value.toNat ∧ (value.toNat : Int) < 0x10000000000000000 := by
    have := value.toNat_lt
    omega
  rw [if_pos bound, Int.toNat_natCast, UInt64.ofNat_toNat]

/-- Unsigned integers of 32 bits are read back. -/
@[simp]
lemma uint32_rereads : uint32.Rereads levels := by
  refine integer_rereads.refine fun value => ?_
  have bound : (0 : Int) ≤ value.toNat ∧ (value.toNat : Int) < 0x100000000 := by
    have := value.toNat_lt
    omega
  rw [if_pos bound, Int.toNat_natCast, UInt32.ofNat_toNat]

/-- Signed integers of 64 bits are read back. -/
@[simp]
lemma int64_rereads : int64.Rereads levels := by
  refine integer_rereads.refine fun value => ?_
  have bound : -0x8000000000000000 ≤ value.toInt ∧ value.toInt < 0x8000000000000000 :=
    ⟨value.le_toInt, value.toInt_lt⟩
  rw [if_pos bound, Int64.ofInt_toInt]

/-- One of several values is read back from its name if no earlier one has that name. -/
lemma choice_rereads {name : α → String} {values : List α}
    (finds : ∀ value, values.find? (name · = name value) = some value) :
    (choice name values).Rereads levels := by
  refine ⟨fun value => .string _, fun {room value json} _ alike => ?_⟩
  rw [alike.eq_of_string]
  have read : string.read room (toNode (.string (name value))) = .ok (name value) := rfl
  simp only [choice, toNode, Scalar.toLeaf, Scalar.kind, if_true] at read ⊢
  simp only [read, finds, bind, Except.bind]

/-! ## Values that may be null, and lists -/

/-- What a codec writes is never null. -/
def NeverNull (codec : Codec α) : Prop := ∀ value, codec.write value ≠ .null

/-- What may be left out is read back if what is written for a value is never null. -/
@[simp]
lemma Rereads.optional (h : codec.Rereads levels) (neverNull : codec.NeverNull) :
    codec.optional.Rereads levels := by
  constructor
  · intro value
    cases value with
    | none => exact .null
    | some value => exact h.plain value
  intro room value json shallow alike
  cases value with
  | none =>
    rw [alike.eq_of_null]
    rfl
  | some value =>
    have read := h.reads shallow alike
    have notNull := alike.ne_null (neverNull value)
    have same : codec.optional.read room json.toNode = (codec.read room json.toNode).map some := by
      cases json with
      | null => exact absurd rfl notNull
      | bool | number | string | array | object => rfl
    rw [same, read]
    rfl

/-- A list of values is read back one by one from alike items. -/
lemma Rereads.mapM (h : codec.Rereads levels) {room : Nat} (shallow : levels < room)
    {values : List α} {items : List Json} (alike : AlikeItems (values.map codec.write) items) :
    (itemNodes items).mapM (codec.read room) = .ok values := by
  induction values generalizing items with
  | nil =>
    cases alike
    rfl
  | cons value values ih =>
    cases alike with
    | cons first rest =>
      rw [itemNodes, List.mapM_cons, h.reads shallow first, ih rest]
      rfl

/-- A list is read back, with one level more. -/
@[simp]
lemma Rereads.list (h : codec.Rereads levels) : (Codec.list codec).Rereads (levels + 1) := by
  constructor
  · intro values
    refine .array fun item mem => ?_
    obtain ⟨value, -, rfl⟩ := List.mem_map.mp mem
    exact h.plain value
  intro room values json shallow alike
  obtain ⟨items, rfl, same⟩ := alike.of_array
  have deep : deeper room = .ok (room - 1) := deeper_eq_ok_iff.mpr ⟨by omega, rfl⟩
  have inside : levels < room - 1 := by omega
  have read := h.mapM inside same
  simp only [Codec.list, toNode, deep, read, ending, bind, Except.bind, pure, Except.pure]

end Codec

/-! ## Records -/

namespace Form

variable {σ α β : Type} {levels : Nat} {record : σ}

/-- Each field of the form is read back, and one that is left out when a record is written has its value by
default. No name stands in the form twice. -/
inductive IsSound (levels : Nat) : {α : Type} → Form σ α → Prop where
  | make {α : Type} (build : α) : IsSound levels (.make build)
  | blank {α β : Type} {before : Form σ (β → α)} {field : Blank σ β} :
    IsSound levels before → field.name ∉ before.names → field.met = none →
    field.codec.Rereads levels →
    (∀ value, field.leaveOut value = true →
      (field.default <|> field.codec.missing) = some value) →
    IsSound levels (before.blank field)

/-- The fields of a sound form have names of their own, and none has been met. -/
lemma IsSound.isNew {form : Form σ α} (h : form.IsSound levels) : form.IsNew := by
  induction h with
  | make build => exact .make build
  | blank _ unnamed unmet _ _ ih => exact .blank ih unnamed unmet

/-- A record is written with names of its form in the order of the fields, some perhaps left out. -/
lemma members_sublist (record : σ) (form : Form σ α) :
    ((form.members record).map Prod.fst).Sublist form.names := by
  induction form with
  | make => exact List.nil_sublist _
  | blank before field ih =>
    rw [members, names, List.map_append]
    refine ih.append ?_
    split
    · exact List.nil_sublist _
    · exact .refl _

/-- A record is written with plain values in its members. -/
lemma IsSound.plain {form : Form σ α} (h : form.IsSound levels) :
    ∀ member ∈ form.members record, Plain levels member.2 := by
  induction h with
  | make => nofun
  | @blank _ _ before field _ _ _ rereads _ ih =>
    intro member mem
    rcases List.mem_append.mp mem with earlier | own
    · exact ih member earlier
    · split at own
      · cases own
      · cases List.mem_singleton.mp own
        exact rereads.plain _

/-- A value that is alike to a written one is read by its field. -/
lemma IsSound.reads {form : Form σ α} (h : form.IsSound levels) {room : Nat} (shallow : levels < room)
    {name : String} {value json : Json} (mem : (name, value) ∈ form.members record)
    (alike : Alike value json) : form.Reads room record name json.toNode := by
  induction h with
  | make => cases mem
  | @blank _ _ before field _ unnamed _ rereads _ ih =>
    rcases List.mem_append.mp mem with earlier | own
    · have named : name ∈ before.names :=
        (members_sublist record before).subset (List.mem_map_of_mem earlier)
      have other : field.name ≠ name := by
        rintro rfl
        exact unnamed named
      rw [Reads, if_neg other]
      exact ih earlier
    · split at own
      · cases own
      · cases List.mem_singleton.mp own
        rw [Reads, if_pos rfl]
        exact rereads.reads shallow alike

/-- The fields that are left out of what is written have a default that means the same. -/
lemma IsSound.completes {form : Form σ α} (h : form.IsSound levels) {seen : List String}
    (written : ∀ name ∈ (form.members record).map Prod.fst, name ∈ seen) :
    form.Completes record seen := by
  induction h with
  | make => trivial
  | @blank _ _ before field _ _ _ _ default ih =>
    rw [members, List.map_append] at written
    refine ⟨ih fun name mem => written name (List.mem_append_left _ mem), ?_⟩
    by_cases out : field.leaveOut (field.get record) = true
    · exact .inr (default _ out)
    · refine .inl (written field.name (List.mem_append_right _ ?_))
      rw [if_neg out]
      exact List.mem_singleton_self _

end Form

/-- The members of an object that is alike to a written record are taken in by its form. -/
lemma Form.IsSound.takes {σ : Type} {form : Form σ σ} {levels room : Nat} {record : σ}
    (h : form.IsSound levels) (shallow : levels < room)
    {members : List (String × Json)}
    (alike : ∀ member ∈ members, ∃ value, (member.1, value) ∈ form.members record ∧
      Alike value member.2) :
    List.Forall₂ (form.Takes room record) (members.map Prod.fst) (memberNodes members) := by
  induction members with
  | nil => exact .nil
  | cons member members ih =>
    obtain ⟨name, json⟩ := member
    obtain ⟨value, written, same⟩ := alike (name, json) (List.mem_cons_self ..)
    refine .cons ⟨rfl, .inl (h.reads shallow written same)⟩ ?_
    exact ih fun other mem => alike other (List.mem_cons_of_mem _ mem)

/-- A record is read back if its fields are, and if its form makes it of their values. -/
theorem Codec.Rereads.record {σ : Type} {form : Form σ σ} {levels : Nat} (h : form.IsSound levels)
    (remakes : ∀ record, form.remake record = record) :
    (Codec.record form).Rereads (levels + 1) := by
  have distinct (record : σ) : ((form.members record).map Prod.fst).Nodup :=
    h.isNew.nodup.sublist (form.members_sublist record)
  refine ⟨fun record => .object (distinct record) h.plain, ?_⟩
  intro room record json shallow alike
  obtain ⟨between, members, rfl, perm, same⟩ := alike.of_object
  have names := same.names_eq
  have inside : levels < room - 1 := by omega
  have takes : List.Forall₂ (form.Takes (room - 1) record) (members.map Prod.fst)
      (memberNodes members) := by
    refine h.takes inside fun member mem => ?_
    exact same.exists_alike (perm.mem_iff.mpr mem)
  have once : (members.map Prod.fst).Nodup := by
    refine (perm.map Prod.fst).nodup_iff.mp ?_
    rw [names]
    exact distinct record
  refine read_record h.isNew (remakes record) (by omega) takes (once.sublist List.filter_sublist) ?_
  intro seen all
  refine h.completes fun name mem => all name ?_
  refine (perm.map Prod.fst).mem_iff.mp ?_
  rw [names]
  exact mem

/-! ## Describing records

What has to be shown of a form follows from how it is written down, field by field. -/

namespace Form

variable {σ α β : Type} {levels : Nat} {name : String} {codec : Codec β}

/-- A form without fields has no names. -/
@[simp]
lemma names_make (build : α) : (make build : Form σ α).names = [] := rfl

/-- A field adds its name to those before. -/
@[simp]
lemma names_field (before : Form σ (β → α)) (get : σ → β) :
    (before.field name codec get).names = before.names ++ [name] := rfl

/-- So does a field with a default. -/
@[simp]
lemma names_fieldOr (before : Form σ (β → α)) (default : β) (get : σ → β) :
    (before.fieldOr name codec default get).names = before.names ++ [name] := rfl

/-- So does a field that may be null or left out. -/
@[simp]
lemma names_optional (before : Form σ (Option β → α)) (get : σ → Option β) :
    (before.optional name codec get).names = before.names ++ [name] := rfl

/-- So does a field that is left out when it has no value. -/
@[simp]
lemma names_omittable (before : Form σ (Option β → α)) (get : σ → Option β) :
    (before.omittable name codec get).names = before.names ++ [name] := rfl

/-- A form without fields is sound. -/
@[simp]
lemma isSound_make (build : α) : (make build : Form σ α).IsSound levels := .make build

/-- What one field more takes to be sound: a new name, a codec that reads back, and a default that means
what is left out. -/
lemma isSound_blank {before : Form σ (β → α)} {field : Blank σ β} :
    (before.blank field).IsSound levels ↔
      before.IsSound levels ∧ field.name ∉ before.names ∧ field.met = none ∧
        field.codec.Rereads levels ∧
        ∀ value, field.leaveOut value = true →
          (field.default <|> field.codec.missing) = some value := by
  constructor
  · intro h
    cases h with
    | blank before unnamed unmet rereads default =>
      exact ⟨before, unnamed, unmet, rereads, default⟩
  · rintro ⟨before, unnamed, unmet, rereads, default⟩
    exact .blank before unnamed unmet rereads default

/-- A field that is always written needs a new name and a codec that reads back. -/
@[simp]
lemma isSound_field {before : Form σ (β → α)} {get : σ → β} :
    (before.field name codec get).IsSound levels ↔
      before.IsSound levels ∧ name ∉ before.names ∧ codec.Rereads levels := by
  simp [field, isSound_blank]

/-- So does one with a default, since it is always written too. -/
@[simp]
lemma isSound_fieldOr {before : Form σ (β → α)} {get : σ → β} {default : β} :
    (before.fieldOr name codec default get).IsSound levels ↔
      before.IsSound levels ∧ name ∉ before.names ∧ codec.Rereads levels := by
  simp [fieldOr, isSound_blank]

/-- A field that may be null needs a new name and a codec that reads back null too. -/
@[simp]
lemma isSound_optional {before : Form σ (Option β → α)} {get : σ → Option β} :
    (before.optional name codec get).IsSound levels ↔
      before.IsSound levels ∧ name ∉ before.names ∧ codec.optional.Rereads levels := by
  simp [optional, isSound_blank]

/-- A field that is left out when it has no value needs the same. -/
@[simp]
lemma isSound_omittable {before : Form σ (Option β → α)} {get : σ → Option β} :
    (before.omittable name codec get).IsSound levels ↔
      before.IsSound levels ∧ name ∉ before.names ∧ codec.optional.Rereads levels := by
  simp [omittable, isSound_blank]

end Form

namespace Codec

/-- No string is written as null. -/
@[simp]
lemma string_neverNull : string.NeverNull := nofun

/-- No integer is written as null. -/
@[simp]
lemma uint64_neverNull : uint64.NeverNull := nofun

/-- A double is written as a number; only the text of one that is not finite is null. -/
@[simp]
lemma double_neverNull : double.NeverNull := nofun

/-- No record is written as null. -/
@[simp]
lemma record_neverNull {σ : Type} (form : Form σ σ) : (record form).NeverNull := nofun

end Codec

end Sidecar.Json
