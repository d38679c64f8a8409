import Sidecar.Json.Token

/-!
# JSON nodes

A `Node` is a value as it stands in a text, together with the place at which the text breaks off or
goes wrong. A reader walks it from left to right, and the first problem that it meets decides: so a
reading of the whole text has the outcome of a single pass that checks types as it goes.

`Text.parse` makes the node of a text, `Json.toNode` the node of a value. `Node.skip` passes over a
node that nobody asked for, `Node.keep` reads it as a value of any kind.
-/

namespace Sidecar.Json

/-- A value as it stands in a text. The ending of an array or object is the problem in the place of
its closing bracket, if there is one. -/
inductive Node where
  | leaf (leaf : Leaf)
  | array (items : List Node) (ending : Option Fault)
  /-- What stands before a colon is a string, or the place where the text goes wrong. -/
  | object (members : List (Node × Node)) (ending : Option Fault)
  /-- The text goes wrong where a value should start. -/
  | broken (fault : Fault)
  deriving Inhabited, Repr

/-- A bracket that has been opened and not yet closed, with what has been read inside it, the last
first. In an object a name may be waiting for its value. -/
inductive Frame where
  | array (items : List Node)
  | object (members : List (Node × Node)) (name : Option Node)

/-- Puts the next node behind the opened bracket: an item, a name, or the value of a name. -/
def Frame.put (node : Node) : Frame → Frame
  | .array items => .array (node :: items)
  | .object members none => .object members (some node)
  | .object members (some name) => .object ((name, node) :: members) none

/-- The node of a bracket that is closed, or at which the text goes wrong. -/
def Frame.close (ending : Option Fault) : Frame → Node
  | .array items => .array items.reverse ending
  | .object members none => .object members.reverse ending
  | .object members (some name) =>
    .object ((name, .broken (ending.getD .malformed)) :: members).reverse ending

/-- What has to come next. Behind `value`, `name` and `colon` stands the innermost bracket last
opened, if any, on top of the stack. -/
inductive Expecting where
  | value (stack : List Frame)
  /-- The first item or name after an opening bracket, or the closing one. -/
  | first (top : Frame) (stack : List Frame)
  | name (top : Frame) (stack : List Frame)
  | colon (top : Frame) (stack : List Frame)
  /-- A comma or the closing bracket. -/
  | separator (top : Frame) (stack : List Frame)
  | nothing (root : Node)

/-- A text that has been read: its value, and the problem behind it, if there is one. -/
structure Text where
  root : Node
  trailing : Except Fault Unit

/-- After a complete value. -/
def Expecting.after (node : Node) : List Frame → Expecting
  | [] => .nothing node
  | top :: stack => .separator (top.put node) stack

/-- The text goes wrong inside all the brackets of the stack. -/
def abandon (fault : Fault) (node : Node) (stack : List Frame) : Text :=
  ⟨stack.foldl (fun node frame => (frame.put node).close (some fault)) node, .ok ()⟩

/-- The text goes wrong, or ends, at this point. -/
def Expecting.stop (fault : Fault) : Expecting → Text
  | .value stack => abandon fault (.broken fault) stack
  | .first top stack | .name top stack =>
    abandon fault ((top.put (.broken fault)).close (some fault)) stack
  | .colon top stack | .separator top stack => abandon fault (top.close (some fault)) stack
  | .nothing root => ⟨root, .ok ()⟩

/-- A token where a value has to start. -/
def startValue (stack : List Frame) : Token → Except Text Expecting
  | .leaf leaf => .ok (.after (.leaf leaf) stack)
  | .openArray => .ok (.first (.array []) stack)
  | .openObject => .ok (.first (.object [] none) stack)
  | _ => .error (abandon .malformed (.broken .malformed) stack)

/-- A token where a name has to stand. Only a string is a name. -/
def startName (top : Frame) (stack : List Frame) : Token → Except Text Expecting
  | .leaf leaf =>
    if leaf.kind = .string then .ok (.colon (top.put (.leaf leaf)) stack)
    else .error ((Expecting.name top stack).stop .malformed)
  | _ => .error ((Expecting.name top stack).stop .malformed)

/-- What the next token leads to: other expectations, or the end of the reading. -/
def Expecting.next (token : Token) : Expecting → Except Text Expecting
  | .value stack => startValue stack token
  | .first (.array items) stack =>
    match token with
    | .closeArray => .ok (.after ((Frame.array items).close none) stack)
    | token => startValue (.array items :: stack) token
  | .first top stack =>
    match token with
    | .closeObject => .ok (.after (top.close none) stack)
    | token => startName top stack token
  | .name top stack => startName top stack token
  | .colon top stack =>
    match token with
    | .colon => .ok (.value (top :: stack))
    | _ => .error ((Expecting.colon top stack).stop .malformed)
  | .separator (.array items) stack =>
    match token with
    | .comma => .ok (.value (.array items :: stack))
    | .closeArray => .ok (.after ((Frame.array items).close none) stack)
    | _ => .error ((Expecting.separator (.array items) stack).stop .malformed)
  | .separator top stack =>
    match token with
    | .comma => .ok (.name top stack)
    | .closeObject => .ok (.after (top.close none) stack)
    | _ => .error ((Expecting.separator top stack).stop .malformed)
  | .nothing root => .error ⟨root, .error .malformed⟩

/-- Reads tokens from a point on. -/
def Expecting.read : List Token → Expecting → Text
  | [], expecting => expecting.stop .truncated
  | token :: tokens, expecting =>
    match expecting.next token with
    | .ok expecting => expecting.read tokens
    | .error text => text

/-- Reads a text. -/
def Text.parse (bytes : List UInt8) : Text :=
  (Expecting.value []).read (tokens bytes)

/-- The levels of brackets that a kept value may open, and one more. -/
def nestingLimit : Nat := 128

/-- Goes one level deeper; the last level cannot be entered. -/
def deeper (room : Nat) : Except Fault Nat :=
  if room ≤ 1 then .error .malformed else .ok (room - 1)

/-- No problem, or the given one. -/
def ending : Option Fault → Except Fault Unit
  | none => .ok ()
  | some fault => .error fault

/-- The scalar as a value. -/
def Scalar.toJson : Scalar → Json
  | .null => .null
  | .bool value => .bool value
  | .number value => .number value
  | .string value => .string value

namespace Node

/-- The node as a scalar that is kept. An opening bracket is enough to know that it is none. -/
def scalar : Node → Except Fault Scalar
  | .leaf l => l.kept
  | .array _ _ | .object _ _ => .error .mismatched
  | .broken fault => .error fault

/-- The node as the name of a member. -/
def name : Node → Except Fault String
  | .leaf l =>
    if l.kind = .string then
      match l.kept with
      | .ok (.string name) => .ok name
      | .ok _ => .error .malformed
      | .error fault => .error fault
    else .error .malformed
  | .broken fault => .error fault
  | _ => .error .malformed

/-- The node as the name of a member that is passed over. -/
def skipName : Node → Except Fault Unit
  | .leaf l => if l.kind = .string then l.skipped else .error .malformed
  | .broken fault => .error fault
  | _ => .error .malformed

mutual

/-- Passes over a value that nobody asked for. It has to be JSON, of any depth. -/
def skip : Node → Except Fault Unit
  | .leaf l => l.skipped
  | .array items problem => do skipItems items; ending problem
  | .object members problem => do skipMembers members; ending problem
  | .broken fault => .error fault

def skipItems : List Node → Except Fault Unit
  | [] => .ok ()
  | item :: rest => do skip item; skipItems rest

def skipMembers : List (Node × Node) → Except Fault Unit
  | [] => .ok ()
  | member :: rest => do skipMember member; skipMembers rest

def skipMember : Node × Node → Except Fault Unit
  | (name, value) => do skipName name; skip value

end

mutual

/-- Reads any value, every member of an object included. -/
def keep (room : Nat) : Node → Except Fault Json
  | .leaf l => l.kept.map Scalar.toJson
  | .array items problem => do
    let room ← deeper room
    let items ← keepItems room items
    ending problem
    return .array items
  | .object members problem => do
    let room ← deeper room
    let members ← keepMembers room members
    ending problem
    return .object members
  | .broken fault => .error fault

def keepItems (room : Nat) : List Node → Except Fault (List Json)
  | [] => .ok []
  | item :: rest => do
    let item ← keep room item
    let rest ← keepItems room rest
    return item :: rest

def keepMembers (room : Nat) : List (Node × Node) → Except Fault (List (String × Json))
  | [] => .ok []
  | member :: rest => do
    let member ← keepMember room member
    let rest ← keepMembers room rest
    return member :: rest

def keepMember (room : Nat) : Node × Node → Except Fault (String × Json)
  | (name, value) => do
    let name ← name.name
    let value ← keep room value
    return (name, value)

end

end Node

/-- The leaf of a scalar that stands in no text. -/
def Scalar.toLeaf (scalar : Scalar) : Leaf :=
  ⟨scalar.kind, .ok scalar, .ok ()⟩

mutual

/-- The node of a value, as if it stood in a text. -/
def toNode : Json → Node
  | .null => .leaf (Scalar.toLeaf .null)
  | .bool value => .leaf (Scalar.toLeaf (.bool value))
  | .number value => .leaf (Scalar.toLeaf (.number value))
  | .string value => .leaf (Scalar.toLeaf (.string value))
  | .array items => .array (itemNodes items) none
  | .object members => .object (memberNodes members) none

def itemNodes : List Json → List Node
  | [] => []
  | item :: rest => toNode item :: itemNodes rest

def memberNodes : List (String × Json) → List (Node × Node)
  | [] => []
  | member :: rest => memberNode member :: memberNodes rest

def memberNode : String × Json → Node × Node
  | (name, value) => (.leaf (Scalar.toLeaf (.string name)), toNode value)

end

end Sidecar.Json
