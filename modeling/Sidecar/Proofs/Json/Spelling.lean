import Mathlib.Data.List.Forall2
import Sidecar.Json.Node
import Sidecar.Proofs.Json.Scalars

/-!
# Texts of the grammar are read

A text spells a node if it is read as that node wherever it stands (`Spells`). Every value of the grammar
spells one (`spellsSome`), and an object spells what its members do, in their order (`IsObject.spells`).
-/

namespace Sidecar.Json

open Grammar

variable {b : UInt8} {text rest v w : List UInt8} {leaf : Leaf} {node : Node} {stack : List Frame}

/-! ## Tokens -/

/-- A blank between tokens makes no difference. -/
lemma tokens_blank (h : classify b = .blank) : tokens (b :: rest) = tokens rest := by
  rw [tokens, h]

/-- Nor do several. -/
lemma tokens_blanks (h : Blanks v) : tokens (v ++ rest) = tokens rest := by
  induction v with
  | nil => rfl
  | cons b v ih =>
    obtain ⟨first, later⟩ := List.forall_mem_cons.mp h
    rw [List.cons_append, tokens_blank (isBlank_iff.mp first), ih later]

/-- The bracket that opens an array is a token. -/
lemma tokens_openArray : tokens (0x5B :: rest) = .openArray :: tokens rest := by
  rw [tokens, show classify 0x5B = .openArray from rfl]

/-- So is the one that closes it. -/
lemma tokens_closeArray : tokens (0x5D :: rest) = .closeArray :: tokens rest := by
  rw [tokens, show classify 0x5D = .closeArray from rfl]

/-- The brace that opens an object is a token. -/
lemma tokens_openObject : tokens (0x7B :: rest) = .openObject :: tokens rest := by
  rw [tokens, show classify 0x7B = .openObject from rfl]

/-- So is the one that closes it. -/
lemma tokens_closeObject : tokens (0x7D :: rest) = .closeObject :: tokens rest := by
  rw [tokens, show classify 0x7D = .closeObject from rfl]

/-- The comma is a token. -/
lemma tokens_comma : tokens (0x2C :: rest) = .comma :: tokens rest := by
  rw [tokens, show classify 0x2C = .comma from rfl]

/-- The colon is a token. -/
lemma tokens_colon : tokens (0x3A :: rest) = .colon :: tokens rest := by
  rw [tokens, show classify 0x3A = .colon from rfl]

/-- A scalar is one token, and the tokens go on behind it. -/
lemma tokens_scalar {body after : List UInt8} (h : classify b = .quote ∨ classify b = .other)
    (lex : lexScalar b body = some (leaf, some after)) :
    tokens (b :: body) = .leaf leaf :: tokens after := by
  rw [tokens]
  rcases h with h | h
  all_goals
    simp only [h]
    split
    · next none => rw [lex] at none; cases none
    · next none => rw [lex] at none; cases none
    · next same =>
      rw [lex] at same
      cases same
      rfl

/-! ## Scalars -/

/-- The text is read as a leaf, if it stops there. -/
def IsLeaf (text : List UInt8) (leaf : Leaf) : Prop :=
  ∀ rest, Stops rest → tokens (text ++ rest) = .leaf leaf :: tokens rest

/-- A scalar with blanks behind it is the same scalar. -/
lemma IsLeaf.blanks (h : IsLeaf text leaf) (blanks : Blanks v) : IsLeaf (text ++ v) leaf := by
  intro rest stops
  rw [List.append_assoc, h _ (stops.blanks blanks), tokens_blanks blanks]

/-- Every string of the grammar is the text of a scalar, and known to be a string even where it cannot be
kept. -/
lemma isLeaf_of_isString (h : IsString text) : ∃ leaf, leaf.kind = .string ∧ IsLeaf text leaf := by
  obtain ⟨body, leaf, rfl, kind, lex⟩ := h.lexString_eq
  refine ⟨leaf, kind, fun rest _ => ?_⟩
  refine tokens_scalar (.inl rfl) ?_
  rw [← lex rest]
  rfl

/-- Every number of the grammar is the text of a scalar. -/
lemma isLeaf_of_isNumber (h : IsNumber text) : ∃ leaf, IsLeaf text leaf := by
  obtain ⟨leaf, lex⟩ := h.lexNumber_eq
  obtain ⟨b, body, rfl, other, scalar⟩ := h.lexScalar_eq
  refine ⟨leaf, fun rest stops => ?_⟩
  have lexed : lexScalar b (body ++ rest) = some (leaf, some rest) := by
    rw [scalar, lex rest stops]
  exact tokens_scalar (.inr other) lexed

/-- The literal null is the text of a scalar. -/
lemma isLeaf_null : IsLeaf [0x6E, 0x75, 0x6C, 0x6C] (Scalar.toLeaf .null) :=
  fun _ _ => tokens_scalar (.inr rfl) rfl

/-- The literal true is the text of a scalar. -/
lemma isLeaf_true : IsLeaf [0x74, 0x72, 0x75, 0x65] (Scalar.toLeaf (.bool true)) :=
  fun _ _ => tokens_scalar (.inr rfl) rfl

/-- The literal false is the text of a scalar. -/
lemma isLeaf_false : IsLeaf [0x66, 0x61, 0x6C, 0x73, 0x65] (Scalar.toLeaf (.bool false)) :=
  fun _ _ => tokens_scalar (.inr rfl) rfl

/-! ## Values and what stands between brackets -/

/-- Blanks apart, the text does not start with a closing bracket, and it is not empty. -/
def Opens (text : List UInt8) : Prop :=
  ∀ rest, Stops rest → ∃ token later, tokens (text ++ rest) = token :: later ∧
    token ≠ .closeArray ∧ token ≠ .closeObject

/-- The text is read as the node, wherever it stands, if it stops there. -/
structure Spells (text : List UInt8) (node : Node) : Prop where
  opens : Opens text
  reads : ∀ stack rest, Stops rest →
    (Expecting.value stack).read (tokens (text ++ rest)) =
      (Expecting.after node stack).read (tokens rest)

/-- What has to come next behind an opened bracket, if it is not closed, and behind a comma in it. -/
def Frame.entry (stack : List Frame) : Frame → Expecting
  | .array items => .value (.array items :: stack)
  | .object members name => .name (.object members name) stack

/-- Between brackets the text adds to what has been read inside them, if it stops there. -/
structure Fills (text : List UInt8) (top top' : Frame) : Prop where
  opens : Opens text
  reads : ∀ stack rest, Stops rest →
    (top.entry stack).read (tokens (text ++ rest)) =
      (Expecting.separator top' stack).read (tokens rest)

/-- What opens as a value still does with more behind it. -/
lemma Opens.append (h : Opens text) {more : List UInt8} (stops : Stops more) : Opens (text ++ more) := by
  intro rest stops'
  rw [List.append_assoc]
  refine h _ ?_
  cases more with
  | nil => exact stops'
  | cons b more => exact stops

/-- So it does with blanks before it. -/
lemma Opens.blanks (h : Opens text) (blanks : Blanks v) : Opens (v ++ text) := by
  intro rest stops
  rw [List.append_assoc, tokens_blanks blanks]
  exact h rest stops

/-- The text of a scalar opens as a value. -/
lemma IsLeaf.opens (h : IsLeaf text leaf) : Opens text :=
  fun rest stops => ⟨_, _, h rest stops, nofun, nofun⟩

/-- The text of a scalar spells the leaf. -/
lemma IsLeaf.spells (h : IsLeaf text leaf) : Spells text (.leaf leaf) := by
  refine ⟨h.opens, fun stack rest stops => ?_⟩
  rw [h rest stops]
  rfl

/-- Blanks around a value make no difference. -/
lemma Spells.blanks (h : Spells text node) (hv : Blanks v) (hw : Blanks w) :
    Spells (v ++ text ++ w) node := by
  have stops_w : Stops w := by
    have stops : Stops (w ++ []) := Stops.blanks nofun hw
    rwa [List.append_nil] at stops
  refine ⟨(h.opens.blanks hv).append stops_w, fun stack rest stops => ?_⟩
  rw [List.append_assoc, List.append_assoc, tokens_blanks hv, h.reads stack _ (stops.blanks hw),
    tokens_blanks hw]

/-- A bracket that is not closed at once. -/
lemma Fills.read_first {top top' : Frame} (h : Fills text top top') (stops : Stops rest) :
    (Expecting.first top stack).read (tokens (text ++ rest)) =
      (Expecting.separator top' stack).read (tokens rest) := by
  obtain ⟨token, later, same, noArray, noObject⟩ := h.opens rest stops
  rw [← h.reads stack rest stops, same]
  -- only a closing bracket would be read in another way than behind a comma
  cases top with
  | array items => cases token <;> first | rfl | exact absurd rfl noArray
  | object members name => cases token <;> first | rfl | exact absurd rfl noObject

/-- What fills a bracket may be cut at a comma. -/
lemma Fills.comma {more : List UInt8} {top top' top'' : Frame} (h : Fills text top top')
    (h' : Fills more top' top'') : Fills (text ++ 0x2C :: more) top top'' := by
  refine ⟨h.opens.append (stops_cons (by decide)), fun stack rest stops => ?_⟩
  have comma : Stops (0x2C :: (more ++ rest)) := stops_cons (by decide)
  rw [List.append_assoc, List.cons_append, h.reads stack _ comma, ← h'.reads stack rest stops,
    tokens_comma]
  cases top' <;> rfl

/-- Inside an array the text of a value adds one item. -/
lemma Spells.fills (h : Spells text node) (before : List Node) :
    Fills text (.array before) (.array (node :: before)) :=
  ⟨h.opens, fun stack rest stops => h.reads (.array before :: stack) rest stops⟩

/-- The text of an array spells the items that fill it. -/
lemma Fills.spells_array {nodes : List Node} (h : Fills text (.array []) (.array nodes)) :
    Spells (0x5B :: text ++ [0x5D]) (.array nodes.reverse none) := by
  constructor
  · exact fun rest _ => ⟨_, _, tokens_openArray, nofun, nofun⟩
  · intro stack rest _
    have close : Stops (0x5D :: rest) := stops_cons (by decide)
    rw [List.cons_append, List.cons_append, List.append_assoc, List.singleton_append, tokens_openArray]
    show (Expecting.first (.array []) stack).read _ = _
    rw [h.read_first close, tokens_closeArray]
    rfl

/-- An array with nothing but blanks in it spells no items. -/
lemma spells_emptyArray (h : Blanks v) : Spells (0x5B :: v ++ [0x5D]) (.array [] none) := by
  constructor
  · exact fun rest _ => ⟨_, _, tokens_openArray, nofun, nofun⟩
  · intro stack rest _
    rw [List.cons_append, List.cons_append, List.append_assoc, tokens_openArray, tokens_blanks h,
      List.singleton_append, tokens_closeArray]
    rfl

/-- The text of an object spells the members that fill it. -/
lemma Fills.spells_object {members : List (Node × Node)}
    (h : Fills text (.object [] none) (.object members none)) :
    Spells (0x7B :: text ++ [0x7D]) (.object members.reverse none) := by
  constructor
  · exact fun rest _ => ⟨_, _, tokens_openObject, nofun, nofun⟩
  · intro stack rest _
    have close : Stops (0x7D :: rest) := stops_cons (by decide)
    rw [List.cons_append, List.cons_append, List.append_assoc, List.singleton_append, tokens_openObject]
    show (Expecting.first (.object [] none) stack).read _ = _
    rw [h.read_first close, tokens_closeObject]
    rfl

/-- An object with nothing but blanks in it spells no members. -/
lemma spells_emptyObject (h : Blanks v) : Spells (0x7B :: v ++ [0x7D]) (.object [] none) := by
  constructor
  · exact fun rest _ => ⟨_, _, tokens_openObject, nofun, nofun⟩
  · intro stack rest _
    rw [List.cons_append, List.cons_append, List.append_assoc, tokens_openObject, tokens_blanks h,
      List.singleton_append, tokens_closeObject]
    rfl

/-- The text is read as a member of an object, behind any others. -/
def SpellsMember (text : List UInt8) (member : Node × Node) : Prop :=
  ∀ before, Fills text (.object before none) (.object (member :: before) none)

/-- A member is its name, a colon and its value. -/
lemma spellsMember {name value : List UInt8} (named : IsLeaf name leaf) (kind : leaf.kind = .string)
    (h : Spells value node) : SpellsMember (name ++ 0x3A :: value) (.leaf leaf, node) := by
  refine fun before => ⟨named.opens.append (stops_cons (by decide)), fun stack rest stops => ?_⟩
  have colon : Stops (0x3A :: (value ++ rest)) := stops_cons (by decide)
  have reads := h.reads (.object before (some (.leaf leaf)) :: stack) rest stops
  rw [List.append_assoc, List.cons_append, named _ colon, tokens_colon]
  show (Expecting.name (.object before none) stack).read _ = _
  rw [Expecting.read, Expecting.next, startName, if_pos kind]
  exact reads

/-- Blanks before a member make no difference. -/
lemma SpellsMember.blanks {member : Node × Node} (h : SpellsMember text member) (hv : Blanks v) :
    SpellsMember (v ++ text) member := by
  intro before
  refine ⟨(h before).opens.blanks hv, fun stack rest stops => ?_⟩
  rw [List.append_assoc, tokens_blanks hv, (h before).reads stack rest stops]

/-! ## Texts of the grammar -/

/-- What a text of the grammar is read as. -/
def SpellsSome : Symbol → List UInt8 → Prop
  | .value, text | .array _, text => ∃ node, Spells text node
  | .items _, text => ∃ nodes, ∀ before, Fills text (.array before) (.array (nodes ++ before))
  | .member, text => ∃ member, SpellsMember text member
  | .members, text =>
    ∃ members, ∀ before, Fills text (.object before none) (.object (members ++ before) none)

/-- Every text that the grammar derives is read: a value as a node, items and members as what fills a
bracket. -/
theorem spellsSome {symbol : Symbol} (h : Derives symbol text) : SpellsSome symbol text := by
  -- items and members are read behind any that came before, since the reader collects them in reverse
  induction h with
  | null => exact ⟨_, isLeaf_null.spells⟩
  | true => exact ⟨_, isLeaf_true.spells⟩
  | false => exact ⟨_, isLeaf_false.spells⟩
  | number h =>
    obtain ⟨leaf, h⟩ := isLeaf_of_isNumber h
    exact ⟨_, h.spells⟩
  | string h =>
    obtain ⟨leaf, -, h⟩ := isLeaf_of_isString h
    exact ⟨_, h.spells⟩
  | arrayValue _ ih => exact ih
  | emptyArray blanks => exact ⟨_, spells_emptyArray blanks⟩
  | array _ ih =>
    obtain ⟨nodes, ih⟩ := ih
    exact ⟨_, (ih []).spells_array⟩
  | lastItem hv _ hw ih =>
    obtain ⟨node, ih⟩ := ih
    exact ⟨[node], (ih.blanks hv hw).fills⟩
  | nextItem hv _ hw _ ih ih' =>
    obtain ⟨node, ih⟩ := ih
    obtain ⟨nodes, ih'⟩ := ih'
    refine ⟨nodes ++ [node], fun before => ?_⟩
    rw [List.append_assoc nodes]
    exact ((ih.blanks hv hw).fills before).comma (ih' _)
  | emptyObject blanks => exact ⟨_, spells_emptyObject blanks⟩
  | object _ ih =>
    obtain ⟨members, ih⟩ := ih
    exact ⟨_, (ih []).spells_object⟩
  | lastMember _ ih =>
    obtain ⟨member, ih⟩ := ih
    exact ⟨[member], ih⟩
  | nextMember _ _ ih ih' =>
    obtain ⟨member, ih⟩ := ih
    obtain ⟨members, ih'⟩ := ih'
    refine ⟨members ++ [member], fun before => ?_⟩
    rw [List.append_assoc members]
    exact (ih before).comma (ih' _)
  | @member name value v w x y hv named hw hx _ hy ih =>
    obtain ⟨leaf, kind, named⟩ := isLeaf_of_isString named
    obtain ⟨node, ih⟩ := ih
    have bare := spellsMember (named.blanks hw) kind (ih.blanks hx hy)
    have text_eq : v ++ name ++ w ++ 0x3A :: x ++ value ++ y =
        v ++ (name ++ w ++ 0x3A :: (x ++ value ++ y)) := by
      simp only [List.append_assoc, List.cons_append]
    exact ⟨_, text_eq ▸ bare.blanks hv⟩

/-! ## Whole texts -/

/-- Members of an object between its brackets, with commas. -/
def objectText (members : List (List UInt8)) : List UInt8 :=
  0x7B :: [0x2C].intercalate members ++ [0x7D]

/-- Texts with commas between them are read one by one. -/
lemma fills_intercalate {α : Type} {texts : List (List UInt8)} {parts : List α}
    (frame : List α → Frame) (nonempty : texts ≠ [])
    (h : List.Forall₂ (fun text part => ∀ before, Fills text (frame before) (frame (part :: before)))
      texts parts) (before : List α) :
    Fills ([0x2C].intercalate texts) (frame before) (frame (parts.reverse ++ before)) := by
  induction h generalizing before with
  | nil => exact absurd rfl nonempty
  | @cons text part texts parts first later ih =>
    rw [List.reverse_cons, List.append_assoc, List.singleton_append]
    cases texts with
    | nil =>
      cases later
      rw [List.intercalate_singleton]
      exact first before
    | cons next texts =>
      rw [List.intercalate_cons_cons, List.append_assoc, List.singleton_append]
      exact (first before).comma (ih nofun (part :: before))

/-- An array is read as its items, in their order. -/
lemma spells_items {texts : List (List UInt8)} {nodes : List Node} (h : List.Forall₂ Spells texts nodes) :
    Spells (0x5B :: [0x2C].intercalate texts ++ [0x5D]) (.array nodes none) := by
  cases texts with
  | nil =>
    cases h
    exact spells_emptyArray nofun
  | cons text texts =>
    have items := h.imp fun _ _ => Spells.fills
    have fills := (fills_intercalate .array (List.cons_ne_nil _ _) items []).spells_array
    rwa [List.append_nil, List.reverse_reverse] at fills

/-- An object is read as its members, in their order. -/
lemma spells_objectText {texts : List (List UInt8)} {members : List (Node × Node)}
    (h : List.Forall₂ SpellsMember texts members) : Spells (objectText texts) (.object members none) := by
  cases texts with
  | nil =>
    cases h
    exact spells_emptyObject nofun
  | cons text texts =>
    have fills := (fills_intercalate (.object · none) (List.cons_ne_nil _ _) h []).spells_object
    rwa [List.append_nil, List.reverse_reverse] at fills

/-- The text of an object, with the texts of its members in their order. -/
inductive IsObject (members : List (List UInt8)) : List UInt8 → Prop where
  | mk {v w : List UInt8} :
    (∀ member ∈ members, Derives .member member) →
    Blanks v → Blanks w →
    IsObject members (v ++ objectText members ++ w)

/-- Each member by the grammar spells a name and a node. -/
lemma exists_spellsMembers {texts : List (List UInt8)} (h : ∀ text ∈ texts, Derives .member text) :
    ∃ members, List.Forall₂ SpellsMember texts members := by
  induction texts with
  | nil => exact ⟨[], .nil⟩
  | cons text texts ih =>
    obtain ⟨first, later⟩ := List.forall_mem_cons.mp h
    obtain ⟨member, first⟩ := spellsSome first
    obtain ⟨members, later⟩ := ih later
    exact ⟨member :: members, .cons first later⟩

/-- Each member of an object by the grammar spells a name and a node. -/
lemma IsObject.exists_spellsMembers {texts : List (List UInt8)} (h : IsObject texts text) :
    ∃ members, List.Forall₂ SpellsMember texts members := by
  cases h with
  | mk derives _ _ => exact Json.exists_spellsMembers derives

/-- An object by the grammar spells what its members do. -/
lemma IsObject.spells {texts : List (List UInt8)} {members : List (Node × Node)}
    (h : IsObject texts text) (spells : List.Forall₂ SpellsMember texts members) :
    Spells text (.object members none) := by
  cases h with
  | mk _ hv hw => exact (spells_objectText spells).blanks hv hw

/-- A text that spells a node is parsed as that node, to its end. -/
theorem Spells.parse_eq (h : Spells text node) : Text.parse text = ⟨node, .ok ()⟩ := by
  have reads := h.reads [] [] nofun
  rw [List.append_nil] at reads
  rw [Text.parse, reads, tokens]
  rfl

end Sidecar.Json
