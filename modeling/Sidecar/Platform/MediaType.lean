/-!
# Media types

What a request says that its body is: a type and a subtype, which may end in a suffix behind a plus sign,
and parameters, each behind a semicolon. Parameters mean nothing here, but one that is malformed spoils
the whole.
-/

namespace Sidecar

/-- A media type without its parameters, in small letters. -/
structure MediaType where
  type : List Char
  subtype : List Char
  suffix : Option (List Char)
  deriving DecidableEq, Repr

namespace MediaType

/-- The characters of names, and of values that stand without quotes. -/
def isTokenChar (c : Char) : Bool :=
  c.isAlphanum || "!#$%&'*+-.^_`|~".toList.contains c

/-- The characters that may stand between quotes. -/
def isQuotable (c : Char) : Bool :=
  0x20 ≤ c.toNat && c.toNat ≠ 0x7F

/-! ## Parameters -/

/-- Where in the parameters of a media type a text may be. -/
inductive Place where
  /-- Behind a semicolon, perhaps with spaces. -/
  | between
  | name
  /-- Behind the equals sign. -/
  | equals
  | value
  /-- Behind the opening quote. What stands there is never the closing one. -/
  | opened
  | quoted
  /-- Behind the closing quote, perhaps with spaces. -/
  | closed
  deriving DecidableEq, Repr

namespace Place

/-- The place behind a character that may stand here. -/
def next? : Place → Char → Option Place
  | .between, ' ' => some .between
  | .between, c => if isTokenChar c then some .name else none
  | .name, '=' => some .equals
  | .name, c => if isTokenChar c then some .name else none
  | .equals, '"' => some .opened
  | .equals, c => if isTokenChar c then some .value else none
  | .value, ';' => some .between
  | .value, c => if isTokenChar c then some .value else none
  | .opened, c => if isQuotable c then some .quoted else none
  | .quoted, '"' => some .closed
  | .quoted, c => if isQuotable c then some .quoted else none
  | .closed, ' ' => some .closed
  | .closed, ';' => some .between
  | .closed, _ => none

/-- Whether the parameters may end here. -/
def isEnd : Place → Bool
  | .between | .equals | .value | .closed => true
  | .name | .opened | .quoted => false

end Place

/-- Whether the text behind the first semicolon is well formed. -/
def areParameters (text : List Char) : Bool :=
  (text.foldlM Place.next? .between).any Place.isEnd

/-! ## Types -/

/-- Takes the suffix off a subtype: what stands behind its last plus sign, unless the subtype starts with
that. -/
def splitSuffix (subtype : List Char) : List Char × Option (List Char) :=
  let backwards := subtype.reverse
  match backwards.dropWhile (· ≠ '+') with
  | _ :: c :: front => ((c :: front).reverse, some (backwards.takeWhile (· ≠ '+')).reverse)
  | _ => (subtype, none)

def make (type subtype : List Char) : MediaType :=
  let (subtype, suffix) := splitSuffix (subtype.map Char.toLower)
  ⟨type.map Char.toLower, subtype, suffix⟩

def parse? (text : List Char) : Option MediaType :=
  let type := text.takeWhile isTokenChar
  match text.dropWhile isTokenChar with
  | '/' :: rest =>
    let subtype := rest.takeWhile isTokenChar
    if type.isEmpty then none
    else match rest.dropWhile isTokenChar with
      | [] => some (make type subtype)
      | ';' :: parameters =>
        if !subtype.isEmpty && areParameters parameters then some (make type subtype) else none
      | _ => none
  | _ => none

/-- Whether it is JSON, or a format that is written in JSON. -/
def isJson (m : MediaType) : Bool :=
  m.type = "application".toList &&
    (m.subtype = "json".toList || m.suffix = some "json".toList)

/-- Parameters that are well formed make no difference, and others spoil the type. -/
theorem parse?_append {type subtype : List Char} (named : type ≠ [] ∧ subtype ≠ [])
    (tokens : ∀ c ∈ type ++ subtype, isTokenChar c = true) (parameters : List Char) :
    parse? (type ++ '/' :: (subtype ++ ';' :: parameters)) =
      if areParameters parameters then parse? (type ++ '/' :: subtype) else none := by
  obtain ⟨tokens, tokens'⟩ := List.forall_mem_append.mp tokens
  have slash : ¬isTokenChar '/' = true := by decide
  have semicolon : ¬isTokenChar ';' = true := by decide
  have whole : subtype.takeWhile isTokenChar = subtype ∧ subtype.dropWhile isTokenChar = [] := by
    constructor
    · simpa using @List.takeWhile_append_of_pos _ isTokenChar subtype [] tokens'
    · simpa using @List.dropWhile_append_of_pos _ isTokenChar subtype [] tokens'
  simp only [parse?, List.takeWhile_append_of_pos tokens, List.dropWhile_append_of_pos tokens,
    List.takeWhile_append_of_pos tokens', List.dropWhile_append_of_pos tokens',
    List.takeWhile_cons_of_neg slash, List.dropWhile_cons_of_neg slash,
    List.takeWhile_cons_of_neg semicolon, List.dropWhile_cons_of_neg semicolon, whole, List.append_nil]
  simp [named]

end MediaType

end Sidecar
