import Sidecar.Json.Codec
import Sidecar.Proofs.Json.Keeping

/-!
# Filling in forms

A form is filled in member by member, in whatever order the members come. What matters is that each
field is met once, with its value, and that the fields which are not met have that value by default: then
the form makes the record again (`Codec.read_record`, and of a whole text `Codec.decode_record`). Members
that the form does not know are passed over.
-/

namespace Sidecar.Json

namespace Form

variable {σ α β : Type} {room : Nat} {record : σ} {name : String} {node : Node} {seen : List String}

/-! ## Fields that have been met -/

/-- The form in which the fields of some names have been met, with their values in a record. -/
def meet (record : σ) (seen : List String) : {α : Type} → Form σ α → Form σ α
  | _, .make build => .make build
  | _, .blank before field =>
    (before.meet record seen).blank
      (if field.name ∈ seen then { field with met := some (field.get record) } else field)

/-- What the form makes of the values of a record. -/
def remake (record : σ) : {α : Type} → Form σ α → α
  | _, .make build => build
  | _, .blank before field => before.remake record (field.get record)

/-- No name stands in the form twice, and no field has been met. -/
inductive IsNew : {α : Type} → Form σ α → Prop where
  | make {α : Type} (build : α) : IsNew (.make build)
  | blank {α β : Type} {before : Form σ (β → α)} {field : Blank σ β} :
    IsNew before → field.name ∉ before.names → field.met = none → IsNew (before.blank field)

/-- The field of a name reads a node as its value in a record. -/
def Reads (room : Nat) (record : σ) (name : String) (node : Node) : {α : Type} → Form σ α → Prop
  | _, .make _ => False
  | _, .blank before field =>
    if field.name = name then field.codec.read room node = .ok (field.get record)
    else before.Reads room record name node

/-- The fields that have not been met have their values by default. -/
def Completes (record : σ) (seen : List String) : {α : Type} → Form σ α → Prop
  | _, .make _ => True
  | _, .blank before field =>
    before.Completes record seen ∧
      (field.name ∈ seen ∨ (field.default <|> field.codec.missing) = some (field.get record))

/-- A form with one field more has one name more. -/
lemma mem_names_blank {before : Form σ (β → α)} {field : Blank σ β} :
    name ∈ (before.blank field).names ↔ name ∈ before.names ∨ name = field.name := by
  rw [names, List.mem_append, List.mem_singleton]

/-- The fields of a form have names of their own. -/
lemma IsNew.nodup {form : Form σ α} (h : form.IsNew) : form.names.Nodup := by
  induction h with
  | make => exact .nil
  | blank _ unnamed _ ih =>
    refine List.nodup_append.mpr ⟨ih, List.pairwise_singleton .., ?_⟩
    rintro name mem _ last rfl
    rw [List.mem_singleton.mp last] at mem
    exact unnamed mem

/-- Only a member that has the name of a field is read by the form. -/
lemma Reads.mem_names {form : Form σ α} (h : form.Reads room record name node) :
    name ∈ form.names := by
  induction form with
  | make => cases h
  | blank before field ih =>
    rw [mem_names_blank]
    unfold Reads at h
    split at h
    · next same => exact .inr same.symm
    · exact .inl (ih h)

/-- Having seen a name that is none of its own does not change a form. -/
lemma meet_cons_of_not_mem {form : Form σ α} (h : name ∉ form.names) (seen : List String) :
    form.meet record (name :: seen) = form.meet record seen := by
  induction form with
  | make => rfl
  | blank before field ih =>
    rw [mem_names_blank, not_or] at h
    have other : field.name ∈ name :: seen ↔ field.name ∈ seen :=
      ⟨fun mem => (List.mem_cons.mp mem).resolve_left fun same => h.2 same.symm,
        List.mem_cons_of_mem _⟩
    rw [meet, meet, ih h.1]
    simp only [other]

/-- A form that has seen nothing is as it was. -/
lemma meet_nil (record : σ) (form : Form σ α) : form.meet record [] = form := by
  induction form with
  | make => rfl
  | blank before field ih =>
    rw [meet, ih, if_neg List.not_mem_nil]

/-! ## Members are taken in -/

/-- A member whose name is none of the form's fills none of its fields. -/
lemma fill?_of_not_mem {form : Form σ α} (h : name ∉ form.names) (room : Nat) (node : Node) :
    (form.meet record seen).fill? room name node = none := by
  induction form with
  | make => rfl
  | blank before field ih =>
    rw [mem_names_blank, not_or] at h
    have same : (if field.name ∈ seen then { field with met := some (field.get record) }
        else field).name = field.name := by
      split <;> rfl
    rw [meet, fill?, if_neg (by rw [same]; exact fun own => h.2 own.symm), ih h.1]
    rfl

/-- A member that the form reads fills its field, as if the form had seen its name. -/
lemma fill?_meet {form : Form σ α} (new : form.IsNew) (unseen : name ∉ seen)
    (reads : form.Reads room record name node) :
    (form.meet record seen).fill? room name node =
      some (.ok (form.meet record (name :: seen))) := by
  induction new with
  | make => cases reads
  | @blank _ _ before field _ unnamed unmet ih =>
    by_cases own : field.name = name
    · subst own
      rw [Reads, if_pos rfl] at reads
      rw [meet, if_neg unseen, fill?, if_pos rfl, unmet]
      rw [meet, meet_cons_of_not_mem unnamed, if_pos (List.mem_cons_self ..)]
      simp only [Option.isSome_none, Bool.false_eq_true, if_false, reads]
    · rw [Reads, if_neg own] at reads
      have same : (if field.name ∈ seen then { field with met := some (field.get record) }
          else field).name = field.name := by
        split <;> rfl
      have other : field.name ∈ name :: seen ↔ field.name ∈ seen :=
        ⟨fun mem => (List.mem_cons.mp mem).resolve_left own, List.mem_cons_of_mem _⟩
      rw [meet, fill?, if_neg (by rw [same]; exact own), ih reads]
      simp only [meet, other]
      rfl

/-- A member that the form takes: its field reads it, or the form does not know it and it can be passed
over. -/
def Takes (form : Form σ α) (room : Nat) (record : σ) (name : String) (member : Node × Node) : Prop :=
  member.1.name = .ok name ∧ (form.Reads room record name member.2 ∨
    name ∉ form.names ∧ member.2.skip = .ok ())

/-- A member that the form reads, or that it does not know, is seen and nothing else. -/
lemma readMember_meet {form : Form σ α} (new : form.IsNew)
    (unseen : name ∈ form.names → name ∉ seen)
    (takes : form.Reads room record name node ∨ name ∉ form.names ∧ node.skip = .ok ()) :
    (form.meet record seen).readMember room name node =
      .ok (form.meet record (name :: seen)) := by
  rcases takes with reads | ⟨unknown, skips⟩
  · rw [readMember, fill?_meet new (unseen reads.mem_names) reads]
  · rw [readMember, fill?_of_not_mem unknown, skips, meet_cons_of_not_mem unknown]

/-- The members of an object are taken in, in any order, if no field is met twice. -/
lemma readMembers_meet {form : Form σ α} (new : form.IsNew) {names : List String}
    {members : List (Node × Node)} (takes : List.Forall₂ (form.Takes room record) names members)
    (once : (names.filter (· ∈ form.names)).Nodup)
    (unseen : ∀ name ∈ names, name ∈ form.names → name ∉ seen) :
    ∃ seen', (form.meet record seen).readMembers room members = .ok (form.meet record seen') ∧
      ∀ name, name ∈ seen' ↔ name ∈ names ∨ name ∈ seen := by
  induction takes generalizing seen with
  | nil => exact ⟨seen, rfl, fun name => (or_iff_right List.not_mem_nil).symm⟩
  | @cons name member names members first _ ih =>
    obtain ⟨key, node⟩ := member
    obtain ⟨named, first⟩ := first
    have unseen_first := unseen name (List.mem_cons_self ..)
    have later : ∀ other ∈ names, other ∈ form.names → other ∉ name :: seen := by
      intro other mem known mem_seen
      rcases List.mem_cons.mp mem_seen with rfl | mem_seen
      · rw [List.filter_cons_of_pos (by simpa using known), List.nodup_cons] at once
        exact once.1 (List.mem_filter.mpr ⟨mem, by simpa using known⟩)
      · exact unseen other (List.mem_cons_of_mem _ mem) known mem_seen
    have once_later : (names.filter (· ∈ form.names)).Nodup :=
      once.sublist ((List.sublist_cons_self name names).filter _)
    obtain ⟨seen', read, all⟩ := ih once_later later
    refine ⟨seen', ?_, fun other => ?_⟩
    · simp only [readMembers, named, readMember_meet new unseen_first first, read]
    · rw [all, List.mem_cons, List.mem_cons]
      tauto

/-- A form that has met what it needs makes the record again. -/
lemma result_meet {form : Form σ α} (new : form.IsNew) (completes : form.Completes record seen) :
    (form.meet record seen).result = .ok (form.remake record) := by
  induction new with
  | make => rfl
  | @blank _ _ before field _ _ unmet ih =>
    obtain ⟨earlier, own⟩ := completes
    rw [meet, result, ih earlier]
    by_cases mem : field.name ∈ seen
    · rw [if_pos mem]
      rfl
    · rw [if_neg mem, unmet]
      have default : (none <|> field.default <|> field.codec.missing) = some (field.get record) :=
        own.resolve_left mem
      rw [default]
      rfl

end Form

/-- A record is read from the members of an object in any order, if no field stands there twice and those
that are missing have their values by default. -/
theorem Codec.read_record {σ : Type} {form : Form σ σ} {room : Nat} {record : σ} {names : List String}
    {members : List (Node × Node)} (new : form.IsNew) (remakes : form.remake record = record)
    (deep : 1 < room) (takes : List.Forall₂ (form.Takes (room - 1) record) names members)
    (once : (names.filter (· ∈ form.names)).Nodup)
    (completes : ∀ seen, (∀ name ∈ names, name ∈ seen) → form.Completes record seen) :
    (Codec.record form).read room (.object members none) = .ok record := by
  have enters : deeper room = .ok (room - 1) := deeper_eq_ok_iff.mpr ⟨deep, rfl⟩
  obtain ⟨seen, read, all⟩ := Form.readMembers_meet new takes once fun _ _ _ => List.not_mem_nil
  rw [Form.meet_nil] at read
  have made := Form.result_meet new (completes seen fun name mem => (all name).mpr (.inl mem))
  rw [remakes] at made
  simp only [Codec.record, enters, read, ending, made, bind, Except.bind]

/-! ## Texts -/

/-- The members of an object are taken in by a form, if each is read by its field or unknown. -/
lemma Form.takes_of_keepsMembers {σ : Type} {form : Form σ σ} {room room' : Nat} {record : σ}
    {members : List (String × Json)} {nodes : List (Node × Node)}
    (kept : Node.KeepsMembers room members nodes) (skips : ∀ node ∈ nodes, node.2.skip = .ok ())
    (reads : ∀ member ∈ members, member.1 ∈ form.names → ∀ node : Node,
      node.keep room = .ok member.2 → form.Reads room' record member.1 node) :
    List.Forall₂ (form.Takes room' record) (members.map Prod.fst) nodes := by
  induction kept with
  | nil => exact .nil
  | @cons member node members nodes first _ ih =>
    rw [List.forall_mem_cons] at skips reads
    refine .cons ⟨first.1, ?_⟩ (ih skips.2 reads.2)
    by_cases known : member.1 ∈ form.names
    · exact .inl (reads.1 known node.2 first.2)
    · exact .inr ⟨known, skips.1⟩

/-- A text that denotes an object is read as a record, if the values of its fields are read and those that
are missing have theirs by default. Members that the form does not know mean nothing. -/
theorem Codec.decode_record {σ : Type} {form : Form σ σ} {record : σ} {raw : List UInt8}
    {members : List (String × Json)} (denotes : Denotes raw (.object members)) (new : form.IsNew)
    (remakes : form.remake record = record)
    (reads : ∀ member ∈ members, member.1 ∈ form.names → ∀ (room : Nat) (node : Node),
      node.keep room = .ok member.2 → form.Reads (nestingLimit - 1) record member.1 node)
    (once : ((members.map Prod.fst).filter (· ∈ form.names)).Nodup)
    (completes : ∀ seen, (∀ name ∈ members.map Prod.fst, name ∈ seen) →
      form.Completes record seen) :
    (Codec.record form).decode raw = .ok record := by
  obtain ⟨isJson, ends, room, kept⟩ := denotes
  rw [Codec.decode]
  generalize Text.parse raw = text at *
  obtain ⟨root, trailing⟩ := text
  cases Node.keep_eq_ok_iff.mp kept with
  | @leaf _ scalar _ _ same => cases scalar <;> cases same
  | @object nodes _ _ kept =>
    simp only [Node.skip, bind_eq_ok_iff] at isJson
    obtain ⟨_, skips, _⟩ := isJson
    have takes := Form.takes_of_keepsMembers kept (Node.skip_of_mem skips)
      fun member mem known node => reads member mem known (room - 1) node
    have read := read_record new remakes (by decide) takes once completes
    simp only at ends
    simp only [read, ends, bind, Except.bind, pure, Except.pure]

end Sidecar.Json
