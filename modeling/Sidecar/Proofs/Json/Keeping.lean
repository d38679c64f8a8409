import Mathlib.Data.List.Forall2
import Sidecar.Proofs.Json.Alike

/-!
# Nodes that are kept

What it takes for a node to be kept as a value is said without the order in which it is walked
(`Node.keep_eq_ok_iff`). A text denotes a value if all of it is JSON and it is kept as that value, however
deep it goes (`Denotes`); a plain value inside it is then kept wherever there is room (`Node.keep_of_plain`).
-/

namespace Sidecar.Json

/-! ## Steps of reading -/

/-- Two steps after each other succeed just if the first does and the second does with what it gave. -/
lemma bind_eq_ok_iff {ε α β : Type} {x : Except ε α} {f : α → Except ε β} {b : β} :
    (x >>= f) = .ok b ↔ ∃ a, x = .ok a ∧ f a = .ok b := by
  cases x with
  | error => exact ⟨nofun, nofun⟩
  | ok a => exact ⟨fun h => ⟨a, rfl, h⟩, fun ⟨_, same, h⟩ => by cases same; exact h⟩

/-- A level down there must be room for one level more, and then there is one level less. -/
lemma deeper_eq_ok_iff {room inner : Nat} :
    deeper room = .ok inner ↔ 1 < room ∧ inner = room - 1 := by
  unfold deeper
  split
  · exact ⟨nofun, fun ⟨deep, _⟩ => absurd deep (by omega)⟩
  · next shallow =>
    exact ⟨fun h => ⟨by omega, (Except.ok.inj h).symm⟩, fun ⟨_, same⟩ => same ▸ rfl⟩

/-- The end of a bracket is reached if nothing was wrong before it. -/
lemma ending_eq_ok_iff {problem : Option Fault} {u : Unit} :
    ending problem = .ok u ↔ problem = none := by
  cases problem with
  | none => exact ⟨fun _ => rfl, fun _ => rfl⟩
  | some => exact ⟨nofun, nofun⟩

/-- The items of an array become nodes one by one. -/
lemma itemNodes_eq (items : List Json) : itemNodes items = items.map toNode := by
  induction items with
  | nil => rfl
  | cons item items ih => rw [itemNodes, ih, List.map_cons]

/-- The members of an object become pairs of nodes one by one. -/
lemma memberNodes_eq (members : List (String × Json)) : memberNodes members = members.map memberNode := by
  induction members with
  | nil => rfl
  | cons member members ih => rw [memberNodes, ih, List.map_cons]

namespace Node

variable {room : Nat}

/-! ## Nodes that are kept -/

/-- The items of an array are kept one by one. -/
def KeepsItems (room : Nat) : List Json → List Node → Prop :=
  List.Forall₂ fun item node => keep room node = .ok item

/-- The members of an object are kept one by one, with their names. -/
def KeepsMembers (room : Nat) : List (String × Json) → List (Node × Node) → Prop :=
  List.Forall₂ fun member node => node.1.name = .ok member.1 ∧ keep room node.2 = .ok member.2

/-- What it takes for a node to be kept as a value. -/
inductive Keeps (room : Nat) : Node → Json → Prop where
  | leaf {leaf : Leaf} {scalar : Scalar} {value : Json} :
    leaf.kept = .ok scalar → scalar.toJson = value → Keeps room (.leaf leaf) value
  | array {nodes : List Node} {items : List Json} :
    1 < room → KeepsItems (room - 1) items nodes → Keeps room (.array nodes none) (.array items)
  | object {nodes : List (Node × Node)} {members : List (String × Json)} :
    1 < room → KeepsMembers (room - 1) members nodes →
    Keeps room (.object nodes none) (.object members)

/-- Items are kept just if each of them is, whatever the order in which they are walked. -/
lemma keepItems_eq_ok_iff {nodes : List Node} {items : List Json} :
    keepItems room nodes = .ok items ↔ KeepsItems room items nodes := by
  unfold KeepsItems
  induction nodes generalizing items with
  | nil => rw [keepItems, List.forall₂_nil_right_iff, Except.ok.injEq, eq_comm]
  | cons node nodes ih =>
    simp only [keepItems, List.forall₂_cons_right_iff, bind_eq_ok_iff, ih, pure, Except.pure,
      Except.ok.injEq]
    constructor
    · rintro ⟨item, kept, items, rest, rfl⟩
      exact ⟨item, items, kept, rest, rfl⟩
    · rintro ⟨item, items, kept, rest, rfl⟩
      exact ⟨item, kept, items, rest, rfl⟩

/-- Members are kept just if the name and the value of each are. -/
lemma keepMembers_eq_ok_iff {nodes : List (Node × Node)} {members : List (String × Json)} :
    keepMembers room nodes = .ok members ↔ KeepsMembers room members nodes := by
  unfold KeepsMembers
  induction nodes generalizing members with
  | nil => rw [keepMembers, List.forall₂_nil_right_iff, Except.ok.injEq, eq_comm]
  | cons node nodes ih =>
    obtain ⟨key, node⟩ := node
    simp only [keepMembers, keepMember, List.forall₂_cons_right_iff, bind_eq_ok_iff, ih, pure,
      Except.pure, Except.ok.injEq]
    constructor
    · rintro ⟨_, ⟨name, named, value, kept, rfl⟩, members, rest, rfl⟩
      exact ⟨(name, value), members, ⟨named, kept⟩, rest, rfl⟩
    · rintro ⟨⟨name, value⟩, members, ⟨named, kept⟩, rest, rfl⟩
      exact ⟨_, ⟨name, named, value, kept, rfl⟩, members, rest, rfl⟩

/-- A node is kept as a value just if it does what it takes. -/
lemma keep_eq_ok_iff {node : Node} {value : Json} :
    node.keep room = .ok value ↔ node.Keeps room value := by
  constructor
  · intro h
    cases node with
    | leaf leaf =>
      cases kept : leaf.kept with
      | error => rw [keep, kept] at h; cases h
      | ok scalar => exact .leaf kept (by rw [keep, kept] at h; exact Except.ok.inj h)
    | array nodes problem =>
      simp only [keep, bind_eq_ok_iff, deeper_eq_ok_iff, ending_eq_ok_iff, keepItems_eq_ok_iff] at h
      obtain ⟨_, ⟨deep, rfl⟩, items, kept, _, rfl, ⟨⟩⟩ := h
      exact .array deep kept
    | object nodes problem =>
      simp only [keep, bind_eq_ok_iff, deeper_eq_ok_iff, ending_eq_ok_iff,
        keepMembers_eq_ok_iff] at h
      obtain ⟨_, ⟨deep, rfl⟩, members, kept, _, rfl, ⟨⟩⟩ := h
      exact .object deep kept
    | broken => cases h
  · intro h
    cases h with
    | leaf kept same =>
      rw [keep, kept, ← same]
      rfl
    | array deep kept =>
      simp only [keep, bind_eq_ok_iff, deeper_eq_ok_iff, keepItems_eq_ok_iff]
      exact ⟨_, ⟨deep, rfl⟩, _, kept, (), rfl, rfl⟩
    | object deep kept =>
      simp only [keep, bind_eq_ok_iff, deeper_eq_ok_iff, keepMembers_eq_ok_iff]
      exact ⟨_, ⟨deep, rfl⟩, _, kept, (), rfl, rfl⟩

/-- A node that is kept as a scalar is read as that scalar. -/
lemma scalar_of_keep {node : Node} {scalar : Scalar} (kept : node.keep room = .ok scalar.toJson) :
    node.scalar = .ok scalar := by
  cases node with
  | leaf leaf =>
    cases keep_eq_ok_iff.mp kept with
    | @leaf _ scalar' _ kept same =>
      have : scalar' = scalar := by cases scalar <;> cases scalar' <;> cases same <;> rfl
      rw [Node.scalar, kept, this]
  | array | object => cases scalar <;> cases keep_eq_ok_iff.mp kept
  | broken => cases kept

/-- A plain value is kept wherever there is room for it. -/
lemma keep_of_plain {levels room' : Nat} {node : Node} {value : Json} (plain : Plain levels value)
    (kept : node.keep room = .ok value) (shallow : levels < room') :
    node.keep room' = .ok value := by
  induction plain generalizing node room room' with
  | null | bool | number | string =>
    cases keep_eq_ok_iff.mp kept with
    | leaf => exact kept
  | array _ ih =>
    cases keep_eq_ok_iff.mp kept with
    | @leaf _ scalar _ _ same => cases scalar <;> cases same
    | array _ kept =>
      refine keep_eq_ok_iff.mpr (.array (by omega) ?_)
      exact ((List.forall₂_and_left ..).mpr ⟨ih, kept⟩).imp fun item node ⟨ih, kept⟩ =>
        ih kept (by omega)
  | object _ _ ih =>
    cases keep_eq_ok_iff.mp kept with
    | @leaf _ scalar _ _ same => cases scalar <;> cases same
    | object _ kept =>
      refine keep_eq_ok_iff.mpr (.object (by omega) ?_)
      exact ((List.forall₂_and_left ..).mpr ⟨ih, kept⟩).imp fun member node ⟨ih, named, kept⟩ =>
        ⟨named, ih kept (by omega)⟩

/-- The node of a plain value is kept as that value, if there is room for its levels. -/
lemma keep_toNode {levels : Nat} {value : Json} (plain : Plain levels value) (shallow : levels < room) :
    value.toNode.keep room = .ok value := by
  induction plain generalizing room with
  | null | bool | number | string => rfl
  | @array levels _ _ ih =>
    have inside : levels < room - 1 := by omega
    refine keep_eq_ok_iff.mpr (.array (by omega) ?_)
    rw [itemNodes_eq, KeepsItems, List.forall₂_map_right_iff, List.forall₂_same]
    exact fun item mem => ih item mem inside
  | @object levels _ _ _ ih =>
    have inside : levels < room - 1 := by omega
    refine keep_eq_ok_iff.mpr (.object (by omega) ?_)
    rw [memberNodes_eq, KeepsMembers, List.forall₂_map_right_iff, List.forall₂_same]
    exact fun (name, value) mem => ⟨rfl, ih (name, value) mem inside⟩

/-- Members are passed over only if each of their values can be. -/
lemma skip_of_mem {nodes : List (Node × Node)} (skips : skipMembers nodes = .ok ()) :
    ∀ node ∈ nodes, node.2.skip = .ok () := by
  induction nodes with
  | nil => nofun
  | cons node nodes ih =>
    obtain ⟨key, node⟩ := node
    simp only [skipMembers, skipMember, bind_eq_ok_iff] at skips
    obtain ⟨_, ⟨_, _, skip⟩, rest⟩ := skips
    exact List.forall_mem_cons.mpr ⟨skip, ih rest⟩

end Node

mutual

/-- Nothing is at fault in the node of a value. -/
lemma skip_toNode : (value : Json) → value.toNode.skip = .ok ()
  | .null | .bool _ | .number _ | .string _ => rfl
  | .array items => by
    rw [toNode, Node.skip, skipItems_itemNodes items]
    rfl
  | .object members => by
    rw [toNode, Node.skip, skipMembers_memberNodes members]
    rfl

/-- Nothing is at fault in the nodes of items. -/
lemma skipItems_itemNodes : (items : List Json) → Node.skipItems (itemNodes items) = .ok ()
  | [] => rfl
  | item :: items => by
    rw [itemNodes, Node.skipItems, skip_toNode item]
    exact skipItems_itemNodes items

/-- Nothing is at fault in the nodes of members. -/
lemma skipMembers_memberNodes :
    (members : List (String × Json)) → Node.skipMembers (memberNodes members) = .ok ()
  | [] => rfl
  | (name, value) :: members => by
    have own : Node.skipMember (memberNode (name, value)) = .ok () := skip_toNode value
    rw [memberNodes, Node.skipMembers, own]
    exact skipMembers_memberNodes members

end

/-! ## Texts of values -/

/-- The text is JSON, and this is its value. -/
structure Denotes (raw : List UInt8) (value : Json) : Prop where
  isJson : (Text.parse raw).root.skip = .ok ()
  ends : (Text.parse raw).trailing = .ok ()
  kept : ∃ room, (Text.parse raw).root.keep room = .ok value

end Sidecar.Json
