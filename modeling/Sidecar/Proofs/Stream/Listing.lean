import Sidecar.Proofs.Json.Printing
import Sidecar.Proofs.Stream.Classification

/-!
# Elements that are arrays

An envelope is read from an object with its fields, and also from an array that lists them in their order.
So an element that is no object may be an event all the same: it is decoded like the object in which its
items have the names of the fields (`elements_takeLists`). Nothing else is decoded that is no object.
-/

namespace Sidecar

open Json Json.Grammar

/-! ## Texts that are no objects -/

namespace Json

/-- A JSON text that is an object. -/
inductive IsObjectText : List UInt8 → Prop where
  | empty {v u w : List UInt8} :
    Blanks v → Blanks u → Blanks w →
    IsObjectText (v ++ (0x7B :: u ++ [0x7D]) ++ w)
  | members {v body w : List UInt8} :
    Blanks v → Derives .members body → Blanks w →
    IsObjectText (v ++ (0x7B :: body ++ [0x7D]) ++ w)

/-- A JSON text that is an array, with the texts of its items. -/
inductive IsList (items : List (List UInt8)) : List UInt8 → Prop where
  | mk {v w text : List UInt8} :
    Blanks v → IsArray items text → Blanks w →
    IsList items (v ++ text ++ w)

variable {raw body : List UInt8} {items : List (List UInt8)} {nodes : List Node}

/-- The text of an object is read as an object, to its end. -/
lemma IsObjectText.exists_spells (h : IsObjectText raw) :
    ∃ members, Spells raw (.object members none) := by
  cases h with
  | empty hv hu hw => exact ⟨_, (spells_emptyObject hu).blanks hv hw⟩
  | members hv derives hw =>
    obtain ⟨members, fills⟩ := spellsSome derives
    exact ⟨_, ((fills []).spells_object).blanks hv hw⟩

/-- A JSON text that is no object is a scalar or an array. -/
lemma Grammar.IsText.isLeaf_or_isList (isText : IsText raw) (other : ¬IsObjectText raw) :
    (∃ leaf, Spells raw (.leaf leaf)) ∨ ∃ items, IsList items raw := by
  obtain ⟨v, value, w, hv, isValue, hw, rfl⟩ := isText
  have scalar {leaf : Leaf} (isLeaf : IsLeaf value leaf) :
      ∃ leaf, Spells (v ++ value ++ w) (.leaf leaf) := ⟨leaf, isLeaf.spells.blanks hv hw⟩
  cases isValue with
  | null => exact .inl (scalar isLeaf_null)
  | true => exact .inl (scalar isLeaf_true)
  | false => exact .inl (scalar isLeaf_false)
  | number isNumber =>
    obtain ⟨_, isLeaf⟩ := isLeaf_of_isNumber isNumber
    exact .inl (scalar isLeaf)
  | string isString =>
    obtain ⟨_, -, isLeaf⟩ := isLeaf_of_isString isString
    exact .inl (scalar isLeaf)
  | arrayValue isArray => exact .inr ⟨_, .mk hv isArray hw⟩
  | emptyObject blanks => exact absurd (.empty hv blanks hw) other
  | object derives => exact absurd (.members hv derives hw) other

/-- Between the brackets of an array its items are read one by one. -/
lemma fills_items (h : Derives (.items items) body) (spells : List.Forall₂ Spells items nodes) :
    ∀ before, Fills body (.array before) (.array (nodes.reverse ++ before)) := by
  generalize same : Symbol.items items = symbol at h
  induction h generalizing items nodes with
  | lastItem hv _ hw =>
    cases same
    obtain ⟨node, _, first, ⟨⟩, rfl⟩ := List.forall₂_cons_left_iff.mp spells
    exact (first.blanks hv hw).fills
  | nextItem hv _ hw _ _ ih =>
    cases same
    obtain ⟨node, later, first, others, rfl⟩ := List.forall₂_cons_left_iff.mp spells
    intro before
    rw [List.reverse_cons, List.append_assoc later.reverse]
    exact ((first.blanks hv hw).fills before).comma (ih others rfl _)
  | _ => cases same

/-- The text of an array is read as an array of what its items are read as. -/
lemma IsList.spells (h : IsList items raw) (spells : List.Forall₂ Spells items nodes) :
    Spells raw (.array nodes none) := by
  cases h with
  | mk hv isArray hw =>
    refine Spells.blanks ?_ hv hw
    cases isArray with
    | emptyArray blanks =>
      cases spells
      exact spells_emptyArray blanks
    | array derives =>
      have array := (fills_items derives spells []).spells_array
      rwa [List.append_nil, List.reverse_reverse] at array

/-- Each item of an array is read as a node. -/
lemma IsList.exists_nodes (h : IsList items raw) : ∃ nodes, List.Forall₂ Spells items nodes := by
  cases h with
  | mk _ isArray _ =>
    have all := isValue_of_mem_array isArray
    clear isArray
    induction items with
    | nil => exact ⟨[], .nil⟩
    | cons item items ih =>
      obtain ⟨isValue, later⟩ := List.forall_mem_cons.mp all
      obtain ⟨node, first⟩ := spellsSome isValue
      obtain ⟨nodes, others⟩ := ih later
      exact ⟨node :: nodes, .cons first others⟩

end Json

/-! ## Envelopes -/

namespace Envelope

variable {raw : List UInt8} {envelope : Envelope} {items : List (List UInt8)} {nodes : List Node}

/-- The text is an array of the type, the time and, at most, the record of the envelope. -/
def Lists (raw : List UInt8) (envelope : Envelope) : Prop :=
  ∃ type time record, Text.parse raw = ⟨.array (type ++ time ++ record) none, .ok ()⟩ ∧
    Fields type time record envelope

/-- The text is read as an object, to its end. Of JSON texts only the objects are (`readsAsObject_iff`). -/
def ReadsAsObject (raw : List UInt8) : Prop :=
  ∃ members, Text.parse raw = ⟨.object members none, .ok ()⟩

/-- Of JSON texts the objects are read as such. -/
lemma readsAsObject_iff (isText : IsText raw) : ReadsAsObject raw ↔ IsObjectText raw := by
  constructor
  · rintro ⟨members, parsed⟩
    by_contra other
    rcases isText.isLeaf_or_isList other with ⟨leaf, spells⟩ | ⟨items, isList⟩
    · cases parsed.symm.trans spells.parse_eq
    · obtain ⟨nodes, spells⟩ := isList.exists_nodes
      cases parsed.symm.trans (isList.spells spells).parse_eq
  · intro isObject
    obtain ⟨members, spells⟩ := isObject.exists_spells
    exact ⟨members, spells.parse_eq⟩

/-- The items of an array as members with the names of the fields, in their order. -/
def members (items : List Node) : List (Node × Node) :=
  List.zipWith (fun name item => (.leaf (Scalar.toLeaf (.string name)), item)) form.names items

/-- The texts of the items of an array as those of members with the names of the fields. -/
def memberTexts (items : List (List UInt8)) : List (List UInt8) :=
  List.zipWith (fun name item => encoded (printString name) ++ 0x3A :: item) form.names items

/-- Of the texts that are not read as objects only lists of the fields spell an envelope. -/
lemma spells_iff_lists (other : ¬ReadsAsObject raw) : Spells raw envelope ↔ Lists raw envelope := by
  constructor
  · intro spells
    cases spells with
    | object parsed => exact absurd ⟨_, parsed⟩ other
    | array parsed fields => exact ⟨_, _, _, parsed, fields⟩
  · rintro ⟨_, _, _, parsed, fields⟩
    exact .array parsed fields

/-- There are no more items in such a list than fields. -/
lemma Lists.length_le (lists : Lists raw envelope) (parsed : Text.parse raw = ⟨.array nodes none, .ok ()⟩) :
    nodes.length ≤ 3 := by
  obtain ⟨_, _, record, listed, ⟨_, rfl, -⟩, ⟨_, rfl, -⟩, isRecord⟩ := lists
  cases parsed.symm.trans listed
  rcases isRecord with ⟨rfl, -⟩ | ⟨_, rfl, -⟩
  · exact Nat.le_succ 2
  · exact Nat.le_refl 3

/-- An envelope is read alike, with any outcome, from items and from members with the names of its fields. -/
lemma read_array_eq {room : Nat} (short : nodes.length ≤ 3) :
    codec.read room (.array nodes none) = codec.read room (.object (members nodes) none) := by
  have named (name : String) : (Node.leaf (Scalar.toLeaf (.string name))).name = .ok name := rfl
  have names : form.names = ["type", "time", "record"] := rfl
  simp only [codec, Codec.record, members, names]
  cases deeper room with
  | error => rfl
  | ok room =>
  simp only [bind, Except.bind, form, Form.field, Form.fieldOr, Form.readItems]
  -- Either way the fields are read one by one in the same order, until one cannot be.
  rcases nodes with _ | ⟨type, _ | ⟨time, _ | ⟨record, _ | ⟨_, _⟩⟩⟩⟩
  · rfl
  · cases first : Codec.string.read room type <;>
      simp [first, named, Form.readMembers, Form.readMember, Form.fill?, Form.result, ending, Except.map,
        bind, Except.bind]
    rfl
  · cases first : Codec.string.read room type <;> cases second : Instant.codec.read room time <;>
      simp [first, second, named, Form.readMembers, Form.readMember, Form.fill?, Form.result, ending,
        Except.map, bind, Except.bind, pure, Except.pure]
  · cases first : Codec.string.read room type <;> cases second : Instant.codec.read room time <;>
      cases third : Codec.anything.read room record <;>
      simp [first, second, third, named, Form.readMembers, Form.readMember, Form.fill?, Form.result, ending,
        Except.map, bind, Except.bind, pure, Except.pure]
  · simp only [List.length_cons] at short
    omega

/-- The texts with names before the items spell the nodes with names before them. -/
lemma spellsMembers {items : List (List UInt8)} (spells : List.Forall₂ Json.Spells items nodes) :
    List.Forall₂ SpellsMember (memberTexts items) (members nodes) := by
  unfold memberTexts members
  generalize form.names = names
  induction spells generalizing names with
  | nil => simp
  | cons first _ ih =>
    cases names with
    | nil => exact .nil
    | cons name names => exact .cons (spellsMember (isLeaf_printString name) rfl first) (ih names)

/-- An array with three items at most is decoded like the object that names them. -/
lemma decode_list_eq (isList : IsList items raw) (short : items.length ≤ 3) :
    codec.decode raw = codec.decode (objectText (memberTexts items)) := by
  obtain ⟨nodes, spells⟩ := isList.exists_nodes
  have array := (isList.spells spells).parse_eq
  have object := (spells_objectText (spellsMembers spells)).parse_eq
  have read : codec.read nestingLimit (.array nodes none) =
      codec.read nestingLimit (.object (members nodes) none) :=
    read_array_eq (spells.length_eq ▸ short)
  simp only [Codec.decode, array, object, read]

end Envelope

/-! ## Elements -/

namespace RecordFamily

variable {ρ : Type}

/-- What becomes of an element that is no object. -/
structure TakesLists (family : RecordFamily ρ) (raw : List UInt8) : Prop where
  /-- A JSON text that is no object is refused, unless it lists the fields of an envelope. -/
  json_iff : IsText raw → ¬IsObjectText raw →
    ((∃ fault, family.decode raw = .error (.element fault)) ↔
      ∀ envelope, ¬Envelope.Lists raw envelope)
  /-- So is any text that is not read as an object. -/
  text_iff : ¬Envelope.ReadsAsObject raw →
    ((∃ fault, family.decode raw = .error (.element fault)) ↔
      ∀ envelope, ¬Envelope.Lists raw envelope)
  /-- An array is decoded like the object in which its items have the names of the fields. -/
  list_eq : ∀ items, IsList items raw → items.length ≤ 3 →
    family.decode raw = family.decode (objectText (Envelope.memberTexts items))
  /-- An array that has more items than there are fields is refused. -/
  long : ∀ items, IsList items raw → 3 < items.length →
    ∃ fault, family.decode raw = .error (.element fault)

/-- A family whose types decide how its records are read takes lists as objects. -/
lemma IsSorted.takesLists {family : RecordFamily ρ} {types : List String} {readFrom : Json → ρ → Prop}
    (sorted : family.IsSorted types readFrom) (raw : List UInt8) : family.TakesLists raw := by
  have element_iff := (classifies_of_isSorted sorted).element_iff raw
  have text_iff (other : ¬Envelope.ReadsAsObject raw) :
      (∃ fault, family.decode raw = .error (.element fault)) ↔
        ∀ envelope, ¬Envelope.Lists raw envelope := by
    simp only [element_iff, Envelope.spells_iff_lists other]
  constructor
  case json_iff =>
    intro isText other
    exact text_iff (mt (Envelope.readsAsObject_iff isText).mp other)
  case text_iff => exact text_iff
  case list_eq =>
    intro items isList short
    simp only [decode, Envelope.decode_list_eq isList short]
  case long =>
    intro items isList long
    obtain ⟨nodes, spells⟩ := isList.exists_nodes
    have parsed := (isList.spells spells).parse_eq
    have other : ¬Envelope.ReadsAsObject raw := by
      rintro ⟨members, parsed'⟩
      cases parsed.symm.trans parsed'
    refine (text_iff other).mpr fun envelope lists => ?_
    have short := lists.length_le parsed
    rw [← spells.length_eq] at short
    omega

end RecordFamily

/-- Both streams take lists as objects. -/
theorem elements_takeLists (raw : List UInt8) :
    Telemetry.family.TakesLists raw ∧ Logs.family.TakesLists raw :=
  ⟨Telemetry.isSorted.takesLists raw, Logs.isSorted.takesLists raw⟩

/-- A line that the function wrote, as an array. -/
def listingText : List UInt8 :=
  Utf8.encode "[\"function\",\"2022-10-12T00:00:00.000Z\",\"a\"]"

def listing : Envelope where
  type := "function"
  time := ⟨1665532800, 0, by decide⟩
  record := .string "a"

/-- The array of which `listingText` is the text. -/
def listingValue : Json :=
  .array (["function", "2022-10-12T00:00:00.000Z", "a"].map .string)

/-- The text is `listingValue` as it is printed. -/
lemma listingText_spelt : Json.Spells listingText listingValue.toNode := by
  have integral : Integral listingValue := by
    refine .array (List.forall_mem_map.mpr ?_)
    exact fun text _ => .string text
  have printed : listingValue.toBytes = listingText := by decide +kernel
  rw [← printed]
  exact integral.spells

/-- The text spells an envelope, though it is no object. -/
lemma listingText_spells : listing.Spells listingText := by
  have time : Instant.parse? "2022-10-12T00:00:00.000Z" = some listing.time := by decide
  exact @Envelope.Spells.array _ _ [_] [_] [_] listingText_spelt.parse_eq
    ⟨⟨_, rfl, rfl⟩, ⟨_, rfl, _, rfl, time⟩, .inr ⟨_, rfl, _, rfl, rfl⟩⟩

/-- The text is no object, and an event of both streams. -/
theorem listing_isEvent : ¬IsObjectText listingText ∧
    Telemetry.family.decode listingText = .ok ⟨listing.time, .functionLine "a"⟩ ∧
    Logs.family.decode listingText = .ok ⟨listing.time, .functionLine "a"⟩ := by
  have read := Envelope.decode_eq_ok_iff.mpr listingText_spells
  refine ⟨?noObject, ?telemetry, ?logs⟩
  case noObject =>
    intro isObject
    obtain ⟨members, spells⟩ := isObject.exists_spells
    cases listingText_spelt.parse_eq.symm.trans spells.parse_eq
  case telemetry =>
    rw [RecordFamily.decode, read]
    rfl
  case logs =>
    rw [RecordFamily.decode, read]
    rfl

end Sidecar
