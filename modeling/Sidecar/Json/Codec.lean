import Sidecar.Json.Node

/-!
# Codecs between JSON and the types of the library

A `Codec α` says how a value of type `α` is written in JSON and read back. Reading starts from a
`Node`, so the first problem of a text decides how reading fails, and a value that has been parsed
already is read through its own node.

A record is described once, by a `Form`: its fields in order, each with a name, a codec and what
counts when it is left out. A form is filled in as members are met. In JSON a record may also be an
array of its fields.
-/

namespace Sidecar.Json

/-- How values of a type are written in JSON and read back. -/
structure Codec (α : Type) where
  /-- Reads a value; `room` counts the levels of brackets that may still be opened, and one. -/
  read : (room : Nat) → Node → Except Fault α
  write : α → Json
  /-- What a field of this type is if its record has no such member. -/
  missing : Option α := none

namespace Codec

/-- Reads the value that makes up a whole text. -/
def decode (codec : Codec α) (bytes : List UInt8) : Except Fault α := do
  let text := Text.parse bytes
  let value ← codec.read nestingLimit text.root
  text.trailing
  return value

/-- Reads a value that has been parsed already. -/
def ofJson? (codec : Codec α) (value : Json) : Option α :=
  (codec.read nestingLimit value.toNode).toOption

/-- A codec for the part of a type that `read?` accepts. -/
def refine (codec : Codec α) (read? : α → Option β) (write : β → α) : Codec β where
  read room node := do
    match read? (← codec.read room node) with
    | some value => .ok value
    | none => .error .mismatched
  write value := codec.write (write value)

def string : Codec String where
  read _ node := do
    match ← node.scalar with
    | .string value => .ok value
    | _ => .error .mismatched
  write value := .string value

/-- A number written as an integer. -/
def integer : Codec Int where
  read _ node := do
    match ← node.scalar with
    | .number (.integer value) => .ok value
    | _ => .error .mismatched
  write value := .ofInt value

def uint32 : Codec UInt32 :=
  integer.refine
    (fun n => if 0 ≤ n ∧ n < 0x100000000 then some (UInt32.ofNat n.toNat) else none)
    (fun n => n.toNat)

def uint64 : Codec UInt64 :=
  integer.refine
    (fun n => if 0 ≤ n ∧ n < 0x10000000000000000 then some (UInt64.ofNat n.toNat) else none)
    (fun n => n.toNat)

def int64 : Codec Int64 :=
  integer.refine
    (fun n =>
      if -0x8000000000000000 ≤ n ∧ n < 0x8000000000000000 then some (Int64.ofInt n) else none)
    (fun n => n.toInt)

/-- A double; an integer is read as the nearest one. -/
def double : Codec Binary64 where
  read _ node := do
    match ← node.scalar with
    | .number (.real value) => .ok value
    | .number (.integer value) => .ok (.ofInt value)
    | _ => .error .mismatched
  write value := .number (.real value)

/-- Any value; of the members of one name in an object the last one counts. No name of a member means anything
here: the private name that marks an object as raw text, for readers that keep values so, is left out. -/
def anything : Codec Json where
  read room node := (node.keep room).map withoutDuplicates
  write value := value

/-- A value that may be null, and whose field may be left out. What starts like null is read as
null. -/
def optional (codec : Codec α) : Codec (Option α) where
  read room node :=
    match node with
    | .leaf ⟨.null, kept, _⟩ => kept.map fun _ => none
    | node => (codec.read room node).map some
  write
    | none => .null
    | some value => codec.write value
  missing := some none

def list (codec : Codec α) : Codec (List α) where
  read room node :=
    match node with
    | .array items problem => do
      let room ← deeper room
      let values ← items.mapM (codec.read room)
      ending problem
      return values
    | node => do
      let _ ← node.scalar
      .error .mismatched
  write values := .array (values.map codec.write)

/-- One of several names, as a string or as the only member, null, of an object. Another kind of
value is not looked at at all. -/
def choice (name : α → String) (values : List α) : Codec α where
  read room node :=
    let find (text : String) : Except Fault α :=
      match values.find? (name · = text) with
      | some value => .ok value
      | none => .error .mismatched
    match node with
    | .leaf l =>
      if l.kind = .string then do find (← string.read room node) else .error .malformed
    | .array _ _ => .error .malformed
    | .object members problem => do
      let _ ← deeper room
      match members with
      | [] =>
        ending problem
        .error .malformed
      | (key, content) :: others =>
        let value ← find (← key.name)
        -- the name alone says which it is: what stands behind it must say nothing
        match ← content.scalar with
        | .null => pure ()
        | _ => .error .mismatched
        if others.isEmpty then ending problem else .error .malformed
        return value
    | .broken fault => .error fault
  write value := .string (name value)

end Codec

/-- A field of a record `σ`, and its value once it has been met. -/
structure Blank (σ α : Type) where
  name : String
  codec : Codec α
  get : σ → α
  /-- What counts if the field is left out, in an object or at the end of an array. -/
  default : Option α := none
  /-- Whether a value is left out when the record is written. -/
  leaveOut : α → Bool := fun _ => false
  met : Option α := none

/-- The fields of a record `σ`, in order, and the function that makes `α` of their values. -/
inductive Form (σ : Type) : Type → Type 1 where
  | make (build : α) : Form σ α
  | blank (before : Form σ (β → α)) (field : Blank σ β) : Form σ α

namespace Form

/-- Adds a field that must not be left out, unless its type says so. -/
def field (before : Form σ (β → α)) (name : String) (codec : Codec β) (get : σ → β) : Form σ α :=
  before.blank { name, codec, get }

/-- Adds a field with a default. -/
def fieldOr (before : Form σ (β → α)) (name : String) (codec : Codec β) (default : β)
    (get : σ → β) : Form σ α :=
  before.blank { name, codec, get, default := some default }

/-- Adds a field that may be null or, at any place, left out. -/
def optional (before : Form σ (Option β → α)) (name : String) (codec : Codec β)
    (get : σ → Option β) : Form σ α :=
  before.blank { name, codec := codec.optional, get, default := some none }

/-- Adds a field that may be null or left out, and that is not written when it is absent. -/
def omittable (before : Form σ (Option β → α)) (name : String) (codec : Codec β)
    (get : σ → Option β) : Form σ α :=
  before.blank
    { name, codec := codec.optional, get, default := some none, leaveOut := Option.isNone }

/-- Fills in the field of a name, if the form has one. A field that has been met cannot be met
again. -/
def fill? (room : Nat) (name : String) (node : Node) :
    {α : Type} → Form σ α → Option (Except Fault (Form σ α))
  | _, .make _ => none
  | _, .blank before field =>
    if field.name = name then
      if field.met.isSome then some (.error .mismatched)
      else match field.codec.read room node with
        | .ok value => some (.ok (before.blank { field with met := some value }))
        | .error fault => some (.error fault)
    else (before.fill? room name node).map fun filled => filled.map (·.blank field)

/-- Passes over a member, or takes its value into the form. -/
def readMember (room : Nat) (form : Form σ α) (name : String) (node : Node) :
    Except Fault (Form σ α) :=
  match form.fill? room name node with
  | some filled => filled
  | none =>
    match node.skip with
    | .ok () => .ok form
    | .error fault => .error fault

/-- Fills in the members of an object; other names are passed over. -/
def readMembers (room : Nat) (form : Form σ α) : List (Node × Node) → Except Fault (Form σ α)
  | [] => .ok form
  | (key, node) :: rest =>
    match key.name with
    | .error fault => .error fault
    | .ok name =>
      match form.readMember room name node with
      | .error fault => .error fault
      | .ok form => form.readMembers room rest

/-- What the form makes once all members have been met. -/
def result : {α : Type} → Form σ α → Except Fault α
  | _, .make build => .ok build
  | _, .blank before field => do
    let build ← before.result
    match field.met <|> field.default <|> field.codec.missing with
    | some value => .ok (build value)
    | none => .error .mismatched

/-- Reads the fields from the items of an array and gives the items left over. -/
def readItems (room : Nat) (items : List Node) (problem : Option Fault) :
    {α : Type} → Form σ α → Except Fault (α × List Node)
  | _, .make build => .ok (build, items)
  | _, .blank before field => do
    let (build, rest) ← before.readItems room items problem
    match rest with
    | node :: rest =>
      let value ← field.codec.read room node
      return (build value, rest)
    | [] =>
      ending problem
      match field.default with
      | some value => .ok (build value, [])
      | none => .error .mismatched

/-- The members that a record is written with. -/
def members (record : σ) : {α : Type} → Form σ α → List (String × Json)
  | _, .make _ => []
  | _, .blank before field =>
    let value := field.get record
    before.members record ++
      if field.leaveOut value then [] else [(field.name, field.codec.write value)]

def names : {α : Type} → Form σ α → List String
  | _, .make _ => []
  | _, .blank before field => before.names ++ [field.name]

end Form

namespace Codec

/-- A record that a form describes. -/
def record (form : Form σ σ) : Codec σ where
  read room node :=
    match node with
    | .array items problem => do
      let room ← deeper room
      let (value, rest) ← form.readItems room items problem
      -- an array that is too long is no array of fields
      if rest.isEmpty then ending problem else .error .malformed
      return value
    | .object members problem => do
      let room ← deeper room
      match form.readMembers room members with
      | .error fault => .error fault
      | .ok form =>
        ending problem
        form.result
    | node => do
      let _ ← node.scalar
      .error .mismatched
  write value := .object (form.members value)

/-- The reader that a tag selects, applied to what stands beside the tag. By then the whole object
has been read, so every problem is one of types. -/
def readTagged (cases : String → Option (Json → Option α)) (tag : String) (content : Json) :
    Except Fault α :=
  match (cases tag).bind (· content) with
  | some value => .ok value
  | none => .error .mismatched

/-- Takes the tag out of the members of an object. It may stand anywhere, but only once. -/
def takeTag (room : Nat) (tagName : String) (known : String → Bool) :
    (tag : Option String) → List (Node × Node) →
      Except Fault (Option String × List (String × Json))
  | tag, [] => .ok (tag, [])
  | tag, (key, node) :: rest => do
    let name ← key.name
    if name = tagName then
      if tag.isSome then .error .mismatched
      let found ← string.read room node
      if known found then takeTag room tagName known (some found) rest else .error .mismatched
    else
      let value ← node.keep room
      let (tag, others) ← takeTag room tagName known tag rest
      return (tag, (name, value) :: others)

/-- One of several records, told apart by a member of the record itself, or by the first item of
an array. -/
def tagged (tagName : String) (cases : String → Option (Json → Option α)) (write : α → Json) :
    Codec α where
  read room node :=
    match node with
    | .array [] problem => do
      let _ ← deeper room
      ending problem
      .error .mismatched
    | .array (first :: rest) problem => do
      let room ← deeper room
      let tag ← string.read room first
      if (cases tag).isNone then .error .mismatched
      let items ← Node.keepItems room rest
      ending problem
      readTagged cases tag (.array items)
    | .object members problem => do
      let room ← deeper room
      let (tag, others) ← takeTag room tagName (fun tag => (cases tag).isSome) none members
      ending problem
      match tag with
      | some tag => readTagged cases tag (.object others)
      | none => .error .mismatched
    | node => do
      let _ ← node.scalar
      .error .mismatched
  write := write

end Codec

end Sidecar.Json
