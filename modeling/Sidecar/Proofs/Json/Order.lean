import Sidecar.Proofs.Json.Keeping
import Sidecar.Json.Codec

/-!
# The order of members means nothing

A record is read to the same value in whatever order the members of its object come
(`Codec.record_read_perm`), and so is one of several records that a member tells apart
(`Codec.tagged_read_perm`). Only which problem is met first may differ.
-/

namespace Sidecar.Json

variable {σ α β : Type} {room : Nat} {nodes nodes' : List (Node × Node)}

/-- Only the error is forgotten when an outcome is read as an option. -/
lemma toOption_eq_some_iff {ε : Type} {α : Type*} {x : Except ε α} {a : α} :
    x.toOption = some a ↔ x = .ok a := by
  cases x with
  | error => exact ⟨nofun, nofun⟩
  | ok b => exact ⟨fun h => congrArg Except.ok (Option.some.inj h), fun h => congrArg _ h⟩

/-! ## Records -/

namespace Form

/-- Takes a member into the form or passes it over, whatever the problem is if that fails. -/
def take? (room : Nat) (form : Form σ α) (name : String) (node : Node) : Option (Form σ α) :=
  (form.readMember room name node).toOption

section

variable {before : Form σ (β → α)} {field : Blank σ β} {name name' : String} {node node' : Node}

/-- A form without fields takes any member that can be passed over, and is not changed by it. -/
lemma take?_make (build : α) :
    (make build : Form σ α).take? room name node = node.skip.toOption.map fun _ => .make build := by
  rw [take?, readMember, fill?]
  cases node.skip <;> rfl

/-- A form does not take a second member for a field that it has met. -/
lemma take?_again (own : field.name = name) (met : field.met.isSome) :
    (before.blank field).take? room name node = none := by
  rw [take?, readMember, fill?, if_pos own, if_pos met]
  rfl

/-- The member of a field that has not been met fills that field, if it can be read. -/
lemma take?_own (own : field.name = name) (unmet : ¬field.met.isSome) :
    (before.blank field).take? room name node =
      (field.codec.read room node).toOption.map fun value =>
        before.blank { field with met := some value } := by
  rw [take?, readMember, fill?, if_pos own, if_neg unmet]
  cases field.codec.read room node <;> rfl

/-- A member of another name is left to the fields before. -/
lemma take?_other (other : field.name ≠ name) :
    (before.blank field).take? room name node = (before.take? room name node).map (·.blank field) := by
  rw [take?, readMember, fill?, if_neg other, take?, readMember]
  cases before.fill? room name node with
  | none => cases node.skip <;> rfl
  | some filled => cases filled <;> rfl

/-- A field takes one member at most. -/
lemma take?_own_twice (own : field.name = name) :
    ((before.blank field).take? room name node).bind (·.take? room name node') = none := by
  by_cases met : field.met.isSome
  · rw [take?_again own met]
    rfl
  · rw [take?_own own met]
    cases field.codec.read room node with
    | error => rfl
    | ok value => exact take?_again own rfl

/-- The member of a field is taken before or after that of another one. -/
lemma take?_own_comm (own : field.name = name) (other : field.name ≠ name') :
    ((before.blank field).take? room name node).bind (·.take? room name' node') =
      ((before.blank field).take? room name' node').bind (·.take? room name node) := by
  rw [take?_other other]
  by_cases met : field.met.isSome
  · rw [take?_again own met]
    cases before.take? room name' node' with
    | none => rfl
    | some taken => exact (take?_again own met).symm
  · rw [take?_own own met]
    cases read : field.codec.read room node with
    | error =>
      cases before.take? room name' node' with
      | none => rfl
      | some taken =>
        show none = (taken.blank field).take? room name node
        rw [take?_own own met, read]
        rfl
    | ok value =>
      have other' : { field with met := some value }.name ≠ name' := other
      show (before.blank { field with met := some value }).take? room name' node' = _
      rw [take?_other other']
      cases before.take? room name' node' with
      | none => rfl
      | some taken =>
        show _ = (taken.blank field).take? room name node
        rw [take?_own own met, read]
        rfl

/-- Two members of other names are left to the fields before, one after the other. -/
lemma take?_other_bind (other : field.name ≠ name) (other' : field.name ≠ name') :
    ((before.blank field).take? room name node).bind (·.take? room name' node') =
      ((before.take? room name node).bind (·.take? room name' node')).map (·.blank field) := by
  rw [take?_other other]
  cases before.take? room name node with
  | none => rfl
  | some taken => exact take?_other other'

end

/-- Two members are taken in either order: they belong to one field, which takes one of them at most, or
they do not touch each other. -/
lemma take?_comm (form : Form σ α) (name name' : String) (node node' : Node) :
    (form.take? room name node).bind (·.take? room name' node') =
      (form.take? room name' node').bind (·.take? room name node) := by
  -- from the last field on: it takes both members, one of them or none
  induction form with
  | make build =>
    rw [take?_make, take?_make]
    cases skips : node.skip <;> cases skips' : node'.skip <;>
      simp [take?_make, skips, skips', Except.toOption]
  | blank before field ih =>
    by_cases own : field.name = name
    · by_cases own' : field.name = name'
      · rw [← own', own, take?_own_twice own, take?_own_twice own]
      · exact take?_own_comm own own'
    · by_cases own' : field.name = name'
      · exact (take?_own_comm own' own).symm
      · rw [take?_other_bind own own', take?_other_bind own' own, ih]

/-- Members are read by taking the first one and going on with what the form has become. -/
lemma readMembers_cons (form : Form σ α) (key node : Node) :
    (form.readMembers room ((key, node) :: nodes)).toOption =
      key.name.toOption.bind fun name =>
        (form.take? room name node).bind fun form => (form.readMembers room nodes).toOption := by
  rw [readMembers]
  cases key.name with
  | error => rfl
  | ok name =>
    show _ = (form.take? room name node).bind _
    rw [take?]
    cases read : form.readMember room name node <;> simp only [read] <;> rfl

/-- The members of an object are taken in whatever order they come. -/
lemma readMembers_perm (perm : nodes.Perm nodes') (form : Form σ α) :
    (form.readMembers room nodes).toOption = (form.readMembers room nodes').toOption := by
  induction perm generalizing form with
  | nil => rfl
  | cons member _ ih =>
    obtain ⟨key, node⟩ := member
    simp only [readMembers_cons, ih]
  | swap member member' nodes =>
    obtain ⟨key, node⟩ := member
    obtain ⟨key', node'⟩ := member'
    simp only [readMembers_cons]
    cases key.name with
    | error =>
      cases key'.name with
      | error => rfl
      | ok name' => exact Option.bind_fun_none _
    | ok name =>
      cases key'.name with
      | error => exact (Option.bind_fun_none _).symm
      | ok name' =>
        have comm : (form.take? room name' node').bind (·.take? room name node) =
            (form.take? room name node).bind (·.take? room name' node') :=
          form.take?_comm name' name node' node
        have later := congrArg (·.bind fun form => (form.readMembers room nodes).toOption) comm
        simp only [Option.bind_assoc] at later
        exact later
  | trans _ _ ih ih' => rw [ih, ih']

end Form

/-- A record is read from the members of its object, whatever order they are in. -/
theorem Codec.record_read_perm {form : Form σ σ} {problem : Option Fault} (perm : nodes.Perm nodes') :
    ((Codec.record form).read room (.object nodes problem)).toOption =
      ((Codec.record form).read room (.object nodes' problem)).toOption := by
  have read : ∀ nodes, ((Codec.record form).read room (.object nodes problem)).toOption =
      (deeper room).toOption.bind fun inner => (form.readMembers inner nodes).toOption.bind fun form =>
        (ending problem).toOption.bind fun _ => form.result.toOption := by
    intro nodes
    simp only [Codec.record]
    cases deeper room with
    | error => rfl
    | ok inner =>
      show _ = (form.readMembers inner nodes).toOption.bind _
      simp only [bind, Except.bind]
      cases form.readMembers inner nodes with
      | error => rfl
      | ok form => cases problem <;> rfl
  simp only [read, Form.readMembers_perm perm]

/-- A record is read alike from the members of a value in any order. -/
lemma Codec.record_ofJson?_perm {form : Form σ σ} {members members' : List (String × Json)}
    (perm : members.Perm members') :
    (Codec.record form).ofJson? (.object members) = (Codec.record form).ofJson? (.object members') := by
  refine record_read_perm ?_
  rw [memberNodes_eq, memberNodes_eq]
  exact perm.map _

/-! ## Records told apart by a member -/

namespace Codec

variable {tagName : String} {known : String → Bool} {tag tag' : Option String} {key node : Node}
  {others : List (String × Json)} {cases : String → Option (Json → Option α)} {write : α → Json}

/-- What becomes of the first member of an object: it is the tag, or it is put beside the others. -/
lemma takeTag_cons_eq_ok_iff :
    takeTag room tagName known tag ((key, node) :: nodes) = .ok (tag', others) ↔
      (key.name = .ok tagName ∧ tag = none ∧ ∃ found, string.read room node = .ok found ∧
        known found = true ∧ takeTag room tagName known (some found) nodes = .ok (tag', others)) ∨
      ∃ name value later, key.name = .ok name ∧ name ≠ tagName ∧ node.keep room = .ok value ∧
        takeTag room tagName known tag nodes = .ok (tag', later) ∧ others = (name, value) :: later := by
  rw [takeTag, bind_eq_ok_iff]
  constructor
  · rintro ⟨name, named, h⟩
    -- the tag may stand anywhere, but only once
    by_cases own : name = tagName
    · subst own
      rw [if_pos rfl] at h
      cases tag with
      | some => cases h
      | none =>
        obtain ⟨found, read, h⟩ := bind_eq_ok_iff.mp h
        by_cases isKnown : known found = true
        · rw [if_pos isKnown] at h
          exact .inl ⟨named, rfl, found, read, isKnown, h⟩
        · rw [if_neg isKnown] at h
          cases h
    · rw [if_neg own] at h
      simp only [bind_eq_ok_iff] at h
      obtain ⟨value, kept, ⟨t, later⟩, taken, same⟩ := h
      cases same
      exact .inr ⟨name, value, later, named, own, kept, taken, rfl⟩
  · rintro (⟨named, rfl, found, read, isKnown, taken⟩ |
      ⟨name, value, later, named, other, kept, taken, rfl⟩)
    · refine ⟨tagName, named, ?_⟩
      rw [if_pos rfl]
      exact bind_eq_ok_iff.mpr ⟨found, read, by rw [if_pos isKnown, taken]⟩
    · refine ⟨name, named, ?_⟩
      rw [if_neg other, kept]
      simp only [taken, bind, Except.bind, pure, Except.pure]

/-- The tag is found wherever it stands, and the other members with it in their order. -/
lemma takeTag_perm (perm : nodes.Perm nodes')
    (h : takeTag room tagName known tag nodes = .ok (tag', others)) :
    ∃ others', others.Perm others' ∧ takeTag room tagName known tag nodes' = .ok (tag', others') := by
  induction perm generalizing tag others with
  | nil => exact ⟨others, .refl _, h⟩
  | cons member _ ih =>
    obtain ⟨key, node⟩ := member
    rcases takeTag_cons_eq_ok_iff.mp h with
      ⟨named, rfl, found, read, isKnown, taken⟩ |
        ⟨name, value, later, named, other, kept, taken, rfl⟩
    · obtain ⟨others', same, taken⟩ := ih taken
      exact ⟨others', same, takeTag_cons_eq_ok_iff.mpr (.inl ⟨named, rfl, found, read, isKnown, taken⟩)⟩
    · obtain ⟨later', same, taken⟩ := ih taken
      refine ⟨(name, value) :: later', same.cons _, takeTag_cons_eq_ok_iff.mpr (.inr ?_)⟩
      exact ⟨name, value, later', named, other, kept, taken, rfl⟩
  | swap member member' nodes =>
    -- of the two members one at most is the tag, since a second tag is refused
    obtain ⟨key, node⟩ := member
    obtain ⟨key', node'⟩ := member'
    rcases takeTag_cons_eq_ok_iff.mp h with
      ⟨named', rfl, found, read, isKnown, rest⟩ |
        ⟨name', value', later, named', other', kept', rest, rfl⟩
    · rcases takeTag_cons_eq_ok_iff.mp rest with
        ⟨_, none, _⟩ | ⟨name, value, later, named, other, kept, taken, rfl⟩
      · cases none
      · refine ⟨_, .refl _, takeTag_cons_eq_ok_iff.mpr (.inr ?_)⟩
        refine ⟨name, value, later, named, other, kept, takeTag_cons_eq_ok_iff.mpr (.inl ?_), rfl⟩
        exact ⟨named', rfl, found, read, isKnown, taken⟩
    · rcases takeTag_cons_eq_ok_iff.mp rest with
        ⟨named, rfl, found, read, isKnown, taken⟩ |
        ⟨name, value, later, named, other, kept, taken, rfl⟩
      · refine ⟨_, .refl _, takeTag_cons_eq_ok_iff.mpr (.inl ?_)⟩
        refine ⟨named, rfl, found, read, isKnown, takeTag_cons_eq_ok_iff.mpr (.inr ?_)⟩
        exact ⟨name', value', later, named', other', kept', taken, rfl⟩
      · refine ⟨_, .swap .., takeTag_cons_eq_ok_iff.mpr (.inr ?_)⟩
        refine ⟨name, value, _, named, other, kept, takeTag_cons_eq_ok_iff.mpr (.inr ?_), rfl⟩
        exact ⟨name', value', later, named', other', kept', taken, rfl⟩
  | trans _ _ ih ih' =>
    obtain ⟨between, same, taken⟩ := ih h
    obtain ⟨others', same', taken⟩ := ih' taken
    exact ⟨others', same.trans same', taken⟩

/-- What is read by a tag is read from an object: the tag is taken out of its members wherever it stands,
and it decides how the others are read. -/
lemma tagged_read_object_iff {value : α} {problem : Option Fault} :
    (tagged tagName cases write).read room (.object nodes problem) = .ok value ↔
      1 < room ∧ problem = none ∧ ∃ tag others,
        takeTag (room - 1) tagName (fun tag => (cases tag).isSome) none nodes = .ok (some tag, others) ∧
          readTagged cases tag (.object others) = .ok value := by
  simp only [tagged, bind_eq_ok_iff, deeper_eq_ok_iff, ending_eq_ok_iff]
  constructor
  · rintro ⟨_, ⟨deep, rfl⟩, ⟨tag, others⟩, taken, _, ends, read⟩
    cases tag with
    | none => cases read
    | some tag => exact ⟨deep, ends, tag, others, taken, read⟩
  · rintro ⟨deep, ends, tag, others, taken, read⟩
    exact ⟨_, ⟨deep, rfl⟩, _, taken, (), ends, read⟩

/-- One of several records is read from the members of its object, whatever order they are in, if each
of the records is. -/
theorem tagged_read_perm {problem : Option Fault} (perm : nodes.Perm nodes')
    (free : ∀ tag content, cases tag = some content → ∀ others others' : List (String × Json),
      others.Perm others' → content (.object others) = content (.object others')) :
    ((tagged tagName cases write).read room (.object nodes problem)).toOption =
      ((tagged tagName cases write).read room (.object nodes' problem)).toOption := by
  have oneWay : ∀ {nodes nodes' : List (Node × Node)}, nodes.Perm nodes' → ∀ {value},
      (tagged tagName cases write).read room (.object nodes problem) = .ok value →
      (tagged tagName cases write).read room (.object nodes' problem) = .ok value := by
    intro nodes nodes' perm value h
    obtain ⟨deep, ends, tag, others, taken, read⟩ := tagged_read_object_iff.mp h
    obtain ⟨others', same, taken⟩ := takeTag_perm perm taken
    refine tagged_read_object_iff.mpr ⟨deep, ends, tag, others', taken, ?_⟩
    rw [← read, readTagged, readTagged]
    cases known : cases tag with
    | none => rfl
    | some content => simp only [Option.bind_some, free tag content known _ _ same]
  ext value
  rw [toOption_eq_some_iff, toOption_eq_some_iff]
  exact ⟨oneWay perm, oneWay perm.symm⟩

/-- Without a tag among them, the members of an object are kept beside it. -/
lemma takeTag_memberNodes {levels : Nat} {members : List (String × Json)} (shallow : levels < room)
    (untagged : ∀ member ∈ members, member.1 ≠ tagName)
    (plain : ∀ member ∈ members, Plain levels member.2) :
    takeTag room tagName known tag (memberNodes members) = .ok (tag, members) := by
  induction members with
  | nil => rfl
  | cons member members ih =>
    obtain ⟨name, value⟩ := member
    rw [List.forall_mem_cons] at untagged plain
    refine takeTag_cons_eq_ok_iff.mpr (.inr ?_)
    exact ⟨name, value, members, rfl, untagged.1, Node.keep_toNode plain.1 shallow,
      ih untagged.2 plain.2, rfl⟩

end Codec

end Sidecar.Json
