import Sidecar.Config.Literal
import Sidecar.Config.Toml.Document
import Sidecar.Proofs.Config.Merging

/-!
# What the layers are made of

Of two members of one name a literal keeps the last one, and a document does not have them at all. So names
stand once in the tables of every layer.
-/

namespace Sidecar.Config

open Value

/-! ## Literals -/

namespace Literal

variable {fuel : Nat} {cs rest : List Char} {value : Value} {members before : Members}

/-- A text without quotes is proper, whatever it is read as. -/
lemma isProper_plain : (plain cs).IsProper := by
  unfold plain
  split
  · exact .leaf trivial
  · split <;> exact .leaf trivial

/-- A scalar of a literal is proper. -/
lemma isProper_scalar? (read : scalar? cs = some (value, rest)) : value.IsProper := by
  unfold scalar? at read
  split at read
  · cases read
    exact .leaf trivial
  · cases read
    exact .leaf trivial
  · obtain ⟨_, _, ⟨⟩⟩ := Option.map_eq_some_iff.mp read
    exact .leaf trivial
  · cases read
    exact .leaf trivial
  · cases read
  · cases read
    exact isProper_plain

/-- Reading one value more, or one member more, takes a unit of fuel. -/
lemma isProper_read (fuel : Nat) :
    (∀ cs value rest, value? fuel cs = some (value, rest) → value.IsProper) ∧
      ∀ before cs members rest, (table before).IsProper →
        members? fuel before cs = some (members, rest) → (table members).IsProper := by
  -- values and tables read each other, so both are shown at once
  induction fuel with
  | zero => exact ⟨fun _ _ _ read => (nomatch read), fun _ _ _ _ _ read => nomatch read⟩
  | succ fuel ih =>
    obtain ⟨values, tables⟩ := ih
    constructor
    · intro cs value rest read
      unfold value? at read
      split at read
      · obtain ⟨_, inner, ⟨⟩⟩ := Option.bind_eq_some_iff.mp read
        obtain ⟨_, _, rfl⟩ := Option.map_eq_some_iff.mp inner
        exact .leaf trivial
      · obtain ⟨_, inner, ⟨⟩⟩ := Option.bind_eq_some_iff.mp read
        obtain ⟨_, filled, rfl⟩ := Option.map_eq_some_iff.mp inner
        exact tables [] _ _ _ isProper_empty filled
      · obtain ⟨_, inner, ⟨⟩⟩ := Option.bind_eq_some_iff.mp read
        exact isProper_scalar? inner
    · intro before cs members rest proper read
      by_cases closes : ∃ others, cs = '\x7d' :: others
      · obtain ⟨_, rfl⟩ := closes
        cases read
        exact proper
      · rw [members?] at read
        rotate_left
        · exact fun others ends => closes ⟨others, ends⟩
        obtain ⟨⟨name, _⟩, _, read⟩ := Option.bind_eq_some_iff.mp read
        obtain ⟨⟨value, _⟩, inner, read⟩ := Option.bind_eq_some_iff.mp read
        have grown : (table (Named.put name value before)).IsProper :=
          proper.put (values _ _ _ inner)
        dsimp only at read
        split at read
        · exact tables _ _ _ _ grown read
        · cases read
          exact grown
        · cases read

/-- The value of a variable is proper. -/
lemma isProper_parse (text : List Char) : (parse text).IsProper := by
  unfold parse
  split
  · next read => exact (isProper_read _).1 _ _ _ read
  · exact .leaf trivial

end Literal

/-! ## Documents -/

namespace Toml

/-- Names stand once in the tables of the entry; what is in an array of tables does not matter. -/
inductive Entry.IsProper : Entry → Prop where
  | leaf {value : Value} : value.IsProper → IsProper (.leaf value)
  | table {origin : Origin} {entries : Entries} :
    (entries.map Prod.fst).Nodup →
    (∀ entry ∈ entries, entry.2.IsProper) →
    IsProper (.table origin entries)
  | tables {items : List Entries} : IsProper (.tables items)

/-- The entries of a table name no key twice, and are proper themselves. -/
structure AreProper (entries : Entries) : Prop where
  names : (entries.map Prod.fst).Nodup
  entries : ∀ entry ∈ entries, entry.2.IsProper

variable {entries entries' : Entries} {key : String} {path : List String}

/-- A document without statements is proper. -/
lemma AreProper.empty : AreProper [] := ⟨List.nodup_nil, fun _ mem => nomatch mem⟩

/-- Entries stay proper when a proper one is put in. -/
lemma AreProper.put {entry : Entry} (h : AreProper entries) (proper : entry.IsProper) :
    AreProper (Named.put key entry entries) := by
  refine ⟨Named.nodup_put h.names, fun other mem => ?_⟩
  rcases Named.mem_put mem with rfl | mem
  · exact proper
  · exact h.entries other mem

/-- Proper entries are a proper table, however it came about. -/
lemma AreProper.table (h : AreProper entries) (origin : Origin) : (Entry.table origin entries).IsProper :=
  .table h.names h.entries

/-- What stands under a name is proper. -/
lemma AreProper.inner {origin : Origin} {inner : Entries} (h : AreProper entries)
    (found : entries.lookup key = some (.table origin inner)) : AreProper inner := by
  cases h.entries _ (Named.mem_of_lookup found) with
  | table names entries => exact ⟨names, entries⟩

/-- The members of a table are the values of its entries. -/
lemma membersOf_eq : membersOf entries = entries.map fun (name, entry) => (name, entry.value) := by
  induction entries with
  | nil => rfl
  | cons entry entries ih => rw [membersOf, memberOf, ih, List.map_cons]

/-- A proper entry has a proper value. -/
lemma Entry.IsProper.value {entry : Entry} (h : entry.IsProper) : entry.value.IsProper := by
  induction h with
  | leaf proper => exact proper
  | table names _ ih =>
    rw [Entry.value, membersOf_eq]
    refine .table ?_ fun member mem => ?_
    · rwa [List.map_map]
    · obtain ⟨entry, here, rfl⟩ := List.mem_map.mp mem
      exact ih entry here
  | tables => exact .leaf trivial

/-- Proper entries make up a proper value. -/
lemma AreProper.members (h : AreProper entries) : (Value.table (membersOf entries)).IsProper :=
  (h.table .header).value

/-! ### Changing tables -/

/-- The change leaves tables proper. -/
def Keeps (change : Origin → Entries → Option Entries) : Prop :=
  ∀ origin entries entries', AreProper entries → change origin entries = some entries' → AreProper entries'

/-- A change that keeps entries proper may be made below a path. -/
lemma Keeps.descend {isDotted : Bool} {change : Origin → Entries → Option Entries} (keeps : Keeps change)
    (path : List String) : Keeps (descend isDotted change path) := by
  induction path with
  | nil => exact keeps
  | cons key path ih =>
    intro origin entries entries' proper changed
    unfold Toml.descend at changed
    split at changed
    · obtain ⟨inner, made, ⟨⟩⟩ := Option.bind_eq_some_iff.mp changed
      exact proper.put ((ih _ _ _ .empty made).table _)
    · next found =>
      dsimp only at changed
      split at changed
      · cases changed
      · obtain ⟨inner, made, ⟨⟩⟩ := Option.bind_eq_some_iff.mp changed
        exact proper.put ((ih _ _ _ (proper.inner found) made).table _)
    · obtain ⟨newest, made, ⟨⟩⟩ := Option.bind_eq_some_iff.mp changed
      exact proper.put .tables
    · cases changed

/-- An assignment keeps entries proper. -/
lemma keeps_assign {value : Value} (value_proper : value.IsProper) :
    Keeps fun _ => assign path key value := by
  refine fun _ => Keeps.descend (fun _ entries _ proper changed => ?_) path .header
  split at changed
  · cases changed
  · split at changed
    · cases changed
    · cases changed
      exact proper.put (.leaf value_proper)

/-- So does a header. -/
lemma keeps_openTable : Keeps fun _ => openTable path key := by
  refine fun _ => Keeps.descend (fun _ entries _ proper changed => ?_) path .header
  split at changed
  · cases changed
    exact proper.put (AreProper.empty.table _)
  · next found =>
    cases changed
    exact proper.put ((proper.inner found).table _)
  · cases changed

/-- So does the header of one more table in an array. -/
lemma keeps_openItem : Keeps fun _ => openItem path key := by
  refine fun _ => Keeps.descend (fun _ entries _ proper changed => ?_) path .header
  split at changed
  · cases changed
    exact proper.put .tables
  · cases changed
    exact proper.put .tables
  · cases changed

/-! ### Reading lines -/

/-- The value of a piece that has one is proper. -/
def Piece.IsProper (piece : Piece) : Prop :=
  ∀ value, piece = .value value → value.IsProper

/-- A scalar of a document is proper. -/
lemma isProper_scalar? {cs : List Char} {value : Value} (read : scalar? cs = some value) :
    value.IsProper := by
  unfold scalar? at read
  split at read
  · cases read
    exact .leaf trivial
  split at read
  · cases read
    exact .leaf trivial
  split at read
  · cases read
    exact .leaf trivial
  split at read
  · cases read
    exact .leaf trivial
  split at read
  · cases read
    exact .table (List.nodup_singleton _)
      (List.forall_mem_singleton.mpr (.leaf trivial))
  · cases read

variable {pieces : List Piece}

/-- What is between an equals sign and the end of the line is proper if its pieces are. -/
lemma isProper_value? {value : Value} (proper : ∀ piece ∈ pieces, piece.IsProper)
    (read : value? pieces = some value) : value.IsProper := by
  unfold value? at read
  split at read
  · cases read
    exact proper _ (List.mem_cons_self ..) _ rfl
  · cases read
    exact .leaf trivial
  · obtain ⟨_, _, read⟩ := Option.bind_eq_some_iff.mp read
    exact isProper_scalar? read

/-- Stripping adds nothing. -/
lemma mem_of_mem_stripped {α : Type} {isSpace : α → Bool} {x : α} {xs : List α}
    (mem : x ∈ stripped isSpace xs) : x ∈ xs := by
  have inner := (List.dropWhile_sublist isSpace).subset (List.mem_reverse.mp mem)
  exact (List.dropWhile_sublist isSpace).subset (List.mem_reverse.mp inner)

/-- Nor does splitting. -/
lemma mem_of_mem_splitAtEach {α : Type} {isSplit : α → Bool} {x : α} {xs part : List α}
    (part_mem : part ∈ splitAtEach isSplit xs) (mem : x ∈ part) : x ∈ xs := by
  induction xs generalizing part with
  | nil =>
    obtain rfl := List.mem_singleton.mp part_mem
    cases mem
  | cons first xs ih =>
    rw [splitAtEach] at part_mem
    split at part_mem
    · obtain rfl := List.mem_singleton.mp part_mem
      obtain rfl := List.mem_singleton.mp mem
      exact List.mem_cons_self ..
    · next next_part parts found =>
      rw [found] at ih
      split at part_mem
      · rcases List.mem_cons.mp part_mem with rfl | part_mem
        · cases mem
        · exact List.mem_cons_of_mem _ (ih part_mem mem)
      · rcases List.mem_cons.mp part_mem with rfl | part_mem
        · rcases List.mem_cons.mp mem with rfl | mem
          · exact List.mem_cons_self ..
          · exact List.mem_cons_of_mem _ (ih (List.mem_cons_self ..) mem)
        · exact List.mem_cons_of_mem _ (ih (List.mem_cons_of_mem _ part_mem) mem)

/-- The value of a pair is proper if its pieces are. -/
lemma isProper_pair? {name : List String × String} {value : Value}
    (proper : ∀ piece ∈ pieces, piece.IsProper) (read : pair? pieces = some (name, value)) :
    value.IsProper := by
  unfold pair? at read
  obtain ⟨_, _, read⟩ := Option.bind_eq_some_iff.mp read
  obtain ⟨_, _, read⟩ := Option.bind_eq_some_iff.mp read
  obtain ⟨_, read, ⟨⟩⟩ := Option.bind_eq_some_iff.mp read
  refine isProper_value? (fun piece mem => proper piece ?_) read
  exact (List.dropWhile_sublist _).subset (List.mem_of_mem_drop (mem_of_mem_stripped mem))

/-- Each result of a traversal comes from one of its arguments. -/
lemma exists_of_mem_mapM {α β : Type} {f : α → Option β} {xs : List α} {ys : List β} {y : β}
    (read : xs.mapM f = some ys) (mem : y ∈ ys) : ∃ x ∈ xs, f x = some y := by
  induction xs generalizing ys with
  | nil =>
    cases read
    cases mem
  | cons x xs ih =>
    rw [List.mapM_cons] at read
    obtain ⟨first, first_read, read⟩ := Option.bind_eq_some_iff.mp read
    obtain ⟨others, others_read, ⟨⟩⟩ := Option.bind_eq_some_iff.mp read
    rcases List.mem_cons.mp mem with rfl | mem
    · exact ⟨x, List.mem_cons_self .., first_read⟩
    · obtain ⟨x, x_mem, found⟩ := ih others_read mem
      exact ⟨x, List.mem_cons_of_mem _ x_mem, found⟩

/-- What each step keeps is kept by all of them. -/
lemma foldlM_keeps {α β : Type} {P : β → Prop} {step : β → α → Option β} {items : List α}
    (keeps : ∀ item ∈ items, ∀ start next, P start → step start item = some next → P next)
    {start final : β} (h : P start) (run : items.foldlM step start = some final) : P final := by
  induction items generalizing start with
  | nil =>
    cases run
    exact h
  | cons item items ih =>
    obtain ⟨keeps, later⟩ := List.forall_mem_cons.mp keeps
    obtain ⟨next, stepped, run⟩ := Option.bind_eq_some_iff.mp run
    exact ih later (keeps _ _ h stepped) run

/-- An inline table is proper if its pieces are. -/
lemma isProper_inlineTable? {value : Value} (proper : ∀ piece ∈ pieces, piece.IsProper)
    (read : inlineTable? pieces = some value) : value.IsProper := by
  unfold inlineTable? at read
  dsimp only at read
  split at read
  · cases read
  split at read
  · cases read
    exact isProper_empty
  obtain ⟨pairs, pairs_read, read⟩ := Option.bind_eq_some_iff.mp read
  obtain ⟨entries, entries_read, ⟨⟩⟩ := Option.bind_eq_some_iff.mp read
  refine (foldlM_keeps (fun pair mem start next h stepped => ?_) AreProper.empty entries_read).members
  obtain ⟨part, part_mem, part_read⟩ := exists_of_mem_mapM pairs_read mem
  have value_proper := isProper_pair?
    (fun piece mem => proper piece (mem_of_mem_splitAtEach part_mem mem)) part_read
  exact keeps_assign value_proper .header _ _ h stepped

mutual

/-- Every piece of a line is proper, by the depth of its brackets. -/
lemma isProper_piece? {room : Nat} {piece : Piece} :
    (tree : Tree) → tree.piece? room = some piece → piece.IsProper
  | .leaf _, read => by
    cases read
    exact fun _ other => nomatch other
  | .group isSquare items, read => by
    rw [Tree.piece?] at read
    split at read
    · cases read
    obtain ⟨inner, inner_read, read⟩ := Option.bind_eq_some_iff.mp read
    have inner_proper := isProper_pieces? items inner_read
    split at read
    · obtain ⟨value, value_read, ⟨⟩⟩ := Option.bind_eq_some_iff.mp read
      obtain ⟨_, _, ⟨⟩⟩ := Option.bind_eq_some_iff.mp value_read
      rintro _ ⟨⟩
      exact .leaf trivial
    · obtain ⟨value, value_read, ⟨⟩⟩ := Option.bind_eq_some_iff.mp read
      rintro _ ⟨⟩
      exact isProper_inlineTable? inner_proper value_read

/-- So are all pieces between two brackets. -/
lemma isProper_pieces? {room : Nat} {pieces : List Piece} :
    (trees : List Tree) → pieces? room trees = some pieces → ∀ piece ∈ pieces, piece.IsProper
  | [], read => by
    cases read
    exact fun _ mem => nomatch mem
  | tree :: rest, read => by
    obtain ⟨piece, first, read⟩ := Option.bind_eq_some_iff.mp read
    obtain ⟨pieces, others, ⟨⟩⟩ := Option.bind_eq_some_iff.mp read
    exact List.forall_mem_cons.mpr ⟨isProper_piece? tree first, isProper_pieces? rest others⟩

end

/-- A line that is read leaves the entries proper. -/
lemma read_keeps {line : List Tree} {progress next : Progress} (h : AreProper progress.entries)
    (read : progress.read line = some next) : AreProper next.entries := by
  unfold Progress.read at read
  split at read
  · cases read
    exact h
  · obtain ⟨_, _, read⟩ := Option.bind_eq_some_iff.mp read
    obtain ⟨_, _, read⟩ := Option.bind_eq_some_iff.mp read
    obtain ⟨_, opened, ⟨⟩⟩ := Option.bind_eq_some_iff.mp read
    exact keeps_openItem .header _ _ h opened
  · obtain ⟨_, _, read⟩ := Option.bind_eq_some_iff.mp read
    obtain ⟨_, _, read⟩ := Option.bind_eq_some_iff.mp read
    obtain ⟨_, opened, ⟨⟩⟩ := Option.bind_eq_some_iff.mp read
    exact keeps_openTable .header _ _ h opened
  · obtain ⟨pieces, pieces_read, read⟩ := Option.bind_eq_some_iff.mp read
    obtain ⟨⟨⟨path, key⟩, value⟩, pair, read⟩ := Option.bind_eq_some_iff.mp read
    obtain ⟨_, assigned, ⟨⟩⟩ := Option.bind_eq_some_iff.mp read
    have value_proper := isProper_pair? (isProper_pieces? _ pieces_read) pair
    exact Keeps.descend (fun _ => keeps_assign value_proper .header) _ _ _ _ h assigned

/-- In the table of a document a name stands once. -/
lemma isProper_parse? {document : String} {members : Members} (read : parse? document = some members) :
    (Value.table members).IsProper := by
  unfold parse? at read
  obtain ⟨_, _, read⟩ := Option.bind_eq_some_iff.mp read
  obtain ⟨_, _, read⟩ := Option.bind_eq_some_iff.mp read
  obtain ⟨progress, run, ⟨⟩⟩ := Option.bind_eq_some_iff.mp read
  have proper : AreProper progress.entries :=
    foldlM_keeps (P := fun p => AreProper p.entries) (fun _ _ _ _ h => read_keeps h) .empty run
  exact proper.members

end Toml

end Sidecar.Config
