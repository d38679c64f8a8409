import Sidecar.Proofs.Config.Deciding
import Sidecar.Proofs.Json.Keeping

/-!
# Settings from layers

What is read of the table that all layers make up is what stands at the paths of the settings. So each
setting, and each threshold, is what the layer says that decides about it; nothing else matters
(`load_isLayered`).
-/

namespace Sidecar.Config

open Value

/-! ## Reading what the layers decide -/

/-- Reads what stands at the end of a path. What is not there has a default, and no table will do. -/
def readOutline (name : String) (default : α) (read : Value → Reading α) : Option Outline → Reading α
  | none => .ok default
  | some (.leaf value) => Reading.under name (read value)
  | some .table => Reading.under name (Reading.fail .invalidType)

/-- Reads the thresholds one by one. -/
def readThresholds (at? : List String → Option Outline) : Reading BufferSettings := do
  let standard := BufferSettings.standard
  let maxBytes ← readOutline "max_bytes" standard.maxBytes readUInt32 (at? ["buffering", "max_bytes"])
  let maxItems ← readOutline "max_items" standard.maxItems readUInt32 (at? ["buffering", "max_items"])
  let timeout ← readOutline "timeout" standard.timeout readTimeout (at? ["buffering", "timeout"])
  return ⟨maxItems, maxBytes, timeout⟩

def readBuffering (at? : List String → Option Outline) : Reading (Option BufferSettings) :=
  match at? ["buffering"] with
  | none => .ok none
  | some (.leaf value) => Reading.under "buffering" (readOptional readBuffer value)
  | some .table => Reading.under "buffering" ((readThresholds at?).map some)

/-- Reads each setting from what stands at its path. -/
def readAt (at? : List String → Option Outline) : Reading Settings := do
  let standard := Settings.standard
  let buffering ← readBuffering at?
  let destination ← readOutline "destination_addr" standard.destination readText (at? ["destination_addr"])
  let extensionName ← readOutline "extension_name" standard.extensionName (readOptional readText)
    (at? ["extension_name"])
  let logClasses ← readOutline "log_types" standard.logClasses readClasses (at? ["log_types"])
  let runtimeApi ← readOutline "runtime_api" standard.runtimeApi (readOptional readText)
    (at? ["runtime_api"])
  let telemetryClasses ← readOutline "telemetry_types" standard.telemetryClasses readClasses
    (at? ["telemetry_types"])
  return ⟨extensionName, runtimeApi, destination, buffering, telemetryClasses, logClasses⟩

section ReadAt

variable {members : Members} {name : String} {α : Type} {default : α} {read : Value → Reading α}

/-- A member that is no table is read from what is at its place. -/
lemma readMember_eq (noTable : ∀ inner, read (.table inner) = Reading.fail .invalidType) :
    readMember members name default read =
      readOutline name default read (outline? [name] (.table members)) := by
  rw [readMember, outline?]
  cases members.lookup name with
  | none => rfl
  | some value =>
    cases value with
    | table inner => exact congrArg (Reading.under name) (noTable inner)
    | _ => rfl

/-- The thresholds in a table are read from what is at the places below it. -/
lemma readBuffer_eq (inner : Members) (found : members.lookup "buffering" = some (.table inner)) :
    readBuffer (.table inner) = readThresholds fun path => outline? path (.table members) := by
  have at_inner (name : String) :
      outline? ["buffering", name] (.table members) = outline? [name] (.table inner) := by
    rw [outline?, found]
    rfl
  simp only [readBuffer, readThresholds, at_inner]
  rw [readMember_eq fun _ => rfl, readMember_eq fun _ => rfl, readMember_eq fun _ => rfl]

/-- The buffering is read from what is at its place and below it. -/
lemma readMember_buffering :
    readMember members "buffering" none (readOptional readBuffer) =
      readBuffering fun path => outline? path (.table members) := by
  rw [readMember, readBuffering]
  cases found : members.lookup "buffering" with
  | none =>
    rw [outline?, found]
    rfl
  | some value =>
    cases value with
    | table inner =>
      simp only [outline?, found, ← readBuffer_eq inner found]
      rfl
    | _ =>
      simp only [outline?, found]
      rfl

/-- Nothing but the ends of the paths of the settings matters. -/
lemma readSettings_eq (members : Members) :
    readSettings members = readAt fun path => outline? path (.table members) := by
  simp only [readSettings, readAt, Settings.standard, readMember_buffering]
  rw [readMember_eq fun _ => rfl, readMember_eq fun _ => rfl, readMember_eq fun _ => rfl,
    readMember_eq fun _ => rfl, readMember_eq fun _ => rfl]

/-- The names of the settings, and those of the thresholds. -/
def settingNames : List String :=
  ["buffering", "destination_addr", "extension_name", "log_types", "runtime_api", "telemetry_types"]

def thresholdNames : List String :=
  ["max_bytes", "max_items", "timeout"]

def settingPaths : List (List String) :=
  settingNames.map ([·]) ++ thresholdNames.map (["buffering", ·])

/-- Settings are read from what is at the places of settings alone. -/
lemma readAt_congr {first second : List String → Option Outline}
    (same : ∀ path ∈ settingPaths, first path = second path) : readAt first = readAt second := by
  simp only [settingPaths, settingNames, thresholdNames, List.map_cons, List.map_nil, List.cons_append,
    List.nil_append, List.forall_mem_cons] at same
  obtain ⟨buffering, destination, extensionName, logClasses, runtimeApi, telemetryClasses, maxBytes,
    maxItems, timeout, -⟩ := same
  simp only [readAt, readBuffering, readThresholds, buffering, destination, extensionName, logClasses,
    runtimeApi, telemetryClasses, maxBytes, maxItems, timeout]

end ReadAt

/-! ## Settings -/

section Settings

variable {file : Option (List UInt8)} {document : Value} {env : Environment} {settings : Settings}

/-- The value is read from what stands at a path, or is the default if nothing does. -/
def IsReadFrom {α : Type} (default : α) (read : Value → Reading α) (value : α) : Option Outline → Prop
  | none => value = default
  | some (.leaf leaf) => read leaf = .ok value
  | some .table => False

/-- What the layer that decides has at the path has a property. -/
def Decided (document : Value) (env : Environment) (path : List String) (holds : Option Outline → Prop) :
    Prop :=
  ∀ layer, Decides document env path layer → holds (outline? path layer)

/-- Each threshold is decided by itself, and is that of the platform if no layer has it. -/
structure ThresholdsDecided (document : Value) (env : Environment) (b : BufferSettings) : Prop where
  maxItems : Decided document env ["buffering", "max_items"]
    (IsReadFrom BufferSettings.standard.maxItems readUInt32 b.maxItems)
  maxBytes : Decided document env ["buffering", "max_bytes"]
    (IsReadFrom BufferSettings.standard.maxBytes readUInt32 b.maxBytes)
  timeout : Decided document env ["buffering", "timeout"]
    (IsReadFrom BufferSettings.standard.timeout readTimeout b.timeout)

/-- Each setting is decided by itself. -/
structure SettingsDecided (document : Value) (env : Environment) (settings : Settings) : Prop where
  extensionName : Decided document env ["extension_name"]
    (IsReadFrom none (readOptional readText) settings.extensionName)
  runtimeApi : Decided document env ["runtime_api"]
    (IsReadFrom none (readOptional readText) settings.runtimeApi)
  destination : Decided document env ["destination_addr"]
    (IsReadFrom Settings.standardDestination readText settings.destination)
  telemetryClasses : Decided document env ["telemetry_types"]
    (IsReadFrom [] readClasses settings.telemetryClasses)
  logClasses : Decided document env ["log_types"] (IsReadFrom [] readClasses settings.logClasses)
  /-- There are no thresholds just if no layer sets them. -/
  unbuffered_iff : settings.buffering = none ↔ Decides document env ["buffering"] standardLayer
  buffering : ∀ b, settings.buffering = some b → Decided document env ["buffering"] fun outline =>
    outline = some .table ∧ ThresholdsDecided document env b ∨
      ∃ items, outline = some (.leaf (.list items)) ∧ readBuffer (.list items) = .ok b

/-- The path of an error makes no difference to what is read. -/
lemma under_eq_ok_iff {α : Type} {name : String} {r : Reading α} {value : α} :
    Reading.under name r = .ok value ↔ r = .ok value := by
  cases r <;> simp [Reading.under]

/-- What is made of what is read is read just if that is. -/
lemma map_eq_ok_iff {α β : Type} {f : α → β} {r : Reading α} {value : β} :
    r.map f = .ok value ↔ ∃ a, r = .ok a ∧ f a = value := by
  cases r <;> simp [Except.map]

/-- What is read from an outline is the default, or read from the value that is there. -/
lemma isReadFrom_of_readOutline {α : Type} {name : String} {default value : α} {read : Value → Reading α}
    {outline : Option Outline} (h : readOutline name default read outline = .ok value) :
    IsReadFrom default read value outline := by
  match outline with
  | none => exact (Except.ok.inj h).symm
  | some (.leaf leaf) =>
    exact under_eq_ok_iff.mp h
  | some .table => cases h

/-- What is read is the table in which the layers lie over one another. -/
lemma load_eq (read : fileLayer file = .ok document) :
    load file env = readAt fun path => outline? path (layers document env) := by
  obtain ⟨members, made⟩ := exists_layers_eq document env
  rw [load, read]
  dsimp only [bind, Except.bind]
  rw [made]
  exact readSettings_eq members

/-- At each path stands what the layer that decides has there. -/
def IsDecided (document : Value) (env : Environment) (at? : List String → Option Outline) : Prop :=
  ∀ name path, Decided document env (name :: path) (at? (name :: path) = ·)

variable {at? : List String → Option Outline}

/-- A setting is what the layer that decides about its place says. -/
lemma IsDecided.of_readOutline {α : Type} {label name : String} {path : List String} {default value : α}
    {read : Value → Reading α} (decided : IsDecided document env at?)
    (h : readOutline label default read (at? (name :: path)) = .ok value) :
    Decided document env (name :: path) (IsReadFrom default read value) := by
  intro layer decides
  rw [decided name path layer decides] at h
  exact isReadFrom_of_readOutline h

/-- Each threshold is what the layer that decides about its place says. -/
lemma ThresholdsDecided.of_read {b : BufferSettings} (decided : IsDecided document env at?)
    (h : readThresholds at? = .ok b) : ThresholdsDecided document env b := by
  simp only [readThresholds, Json.bind_eq_ok_iff] at h
  obtain ⟨maxBytes, readBytes, maxItems, readItems, timeout, readTimeout, ⟨⟩⟩ := h
  exact ⟨decided.of_readOutline readItems, decided.of_readOutline readBytes,
    decided.of_readOutline readTimeout⟩

/-- Thresholds are read from the members of a table or from the items of a list. There are none if nothing
is said of them. -/
lemma readBuffering_eq_ok {buffering : Option BufferSettings}
    (noLeaf : ∀ members, at? ["buffering"] ≠ some (.leaf (.table members)))
    (h : readBuffering at? = .ok buffering) :
    buffering = none ∧ (at? ["buffering"] = none ∨ at? ["buffering"] = some (.leaf .nothing)) ∨
    ∃ b, buffering = some b ∧
      (at? ["buffering"] = some .table ∧ readThresholds at? = .ok b ∨
        ∃ items, at? ["buffering"] = some (.leaf (.list items)) ∧ readBuffer (.list items) = .ok b) := by
  rw [readBuffering] at h
  cases here : at? ["buffering"] with
  | none =>
    rw [here] at h
    exact .inl ⟨(Except.ok.inj h).symm, .inl rfl⟩
  | some outline =>
    rw [here] at h
    cases outline with
    | table =>
      obtain ⟨b, read, rfl⟩ := map_eq_ok_iff.mp (under_eq_ok_iff.mp h)
      exact .inr ⟨b, rfl, .inl ⟨rfl, read⟩⟩
    | leaf value =>
      have read := under_eq_ok_iff.mp h
      cases value with
      | nothing => exact .inl ⟨(Except.ok.inj read).symm, .inr rfl⟩
      | list items =>
        obtain ⟨b, made, rfl⟩ := map_eq_ok_iff.mp read
        exact .inr ⟨b, rfl, .inr ⟨items, rfl, made⟩⟩
      | table members => exact absurd here (noLeaf members)
      | _ => cases read

/-- A table is never what is left at the end of a path. -/
lemma IsDecided.ne_leaf_table (decided : IsDecided document env at?) (members : Members) :
    at? ["buffering"] ≠ some (.leaf (.table members)) := by
  obtain ⟨layer, decides⟩ := exists_decides document env ["buffering"]
  rw [decided _ _ layer decides]
  exact outline?_ne_leaf_table

/-- There is no buffering just if no layer but the standard one says anything about it. -/
lemma unbuffered_iff_of_read {buffering : Option BufferSettings} (decided : IsDecided document env at?)
    (proper : document.IsProper) (isTable : ∃ members, document = .table members)
    (h : readBuffering at? = .ok buffering) :
    buffering = none ↔ Decides document env ["buffering"] standardLayer := by
  constructor
  · rintro rfl
    obtain ⟨layer, decides⟩ := exists_decides document env ["buffering"]
    rcases decides.says proper isTable with rfl | ⟨outline, here, something⟩
    · exact decides
    rcases readBuffering_eq_ok decided.ne_leaf_table h with ⟨-, unsaid⟩ | ⟨_, ⟨⟩, -⟩
    rw [decided _ _ layer decides, here] at unsaid
    exact absurd (Option.some.inj (unsaid.resolve_left nofun)) something
  · intro decides
    rw [readBuffering, decided _ _ standardLayer decides] at h
    exact (Except.ok.inj h).symm

/-- Buffering that there is is a table of thresholds, or a list in the order of the fields. -/
lemma buffered_of_read {b : BufferSettings} (decided : IsDecided document env at?)
    (h : readBuffering at? = .ok (some b)) :
    Decided document env ["buffering"] fun outline =>
      outline = some .table ∧ ThresholdsDecided document env b ∨
        ∃ items, outline = some (.leaf (.list items)) ∧ readBuffer (.list items) = .ok b := by
  intro layer decides
  rw [← decided _ _ layer decides]
  rcases readBuffering_eq_ok decided.ne_leaf_table h with ⟨⟨⟩, -⟩ | ⟨_, ⟨⟩, ⟨table, read⟩ | listed⟩
  · exact .inl ⟨table, .of_read decided read⟩
  · exact .inr listed

/-- Each setting is what the layer that decides about its place says. -/
lemma SettingsDecided.of_read (decided : IsDecided document env at?) (proper : document.IsProper)
    (isTable : ∃ members, document = .table members) (h : readAt at? = .ok settings) :
    SettingsDecided document env settings := by
  simp only [readAt, Json.bind_eq_ok_iff] at h
  obtain ⟨buffering, buffers, destination, readDestination, extensionName, readName, logClasses, readLogs,
    runtimeApi, readApi, telemetryClasses, readTelemetry, ⟨⟩⟩ := h
  constructor
  case extensionName => exact decided.of_readOutline readName
  case runtimeApi => exact decided.of_readOutline readApi
  case destination => exact decided.of_readOutline readDestination
  case telemetryClasses => exact decided.of_readOutline readTelemetry
  case logClasses => exact decided.of_readOutline readLogs
  case unbuffered_iff => exact unbuffered_iff_of_read decided proper isTable buffers
  case buffering =>
    rintro b rfl
    exact buffered_of_read decided buffers

end Settings

/-! ## Loading -/

section Load

variable {file file' : Option (List UInt8)} {document document' : Value} {env env' : Environment}

/-- A name that is kept is looked up as before. -/
lemma lookup_filter {α : Type} {p : String × α → Bool} {name : String} {xs : List (String × α)}
    (kept : ∀ value, p (name, value)) : (xs.filter p).lookup name = xs.lookup name := by
  induction xs with
  | nil => rfl
  | cons x xs ih =>
    obtain ⟨n, value⟩ := x
    by_cases same : name = n
    · subst same
      rw [List.filter_cons_of_pos (kept value), List.lookup_cons_self, List.lookup_cons_self]
    · rw [List.lookup_cons, beq_false_of_ne same, ← ih]
      by_cases h : p (n, value)
      · rw [List.filter_cons_of_pos h, List.lookup_cons, beq_false_of_ne same]
      · rw [List.filter_cons_of_neg h]

/-- The variable says something about a setting. -/
def Variable.concerns : String × List UInt8 → Bool
  | (name, _) => name = Environment.runtimeApiName ||
    (Variable.path? name).any fun place => place.head?.any settingNames.contains

/-- The settings that are loaded are those that the layers decide about. -/
structure IsLayered (file : Option (List UInt8)) (env : Environment) : Prop where
  unreadable : ∀ error, fileLayer file = .error error → load file env = .error error
  /-- What is read is a table, in which the layer that decides about a path has its way there. -/
  table : ∀ document, fileLayer file = .ok document →
    ∃ members, load file env = readSettings members ∧ ∀ name path,
      Decided document env (name :: path) (outline? (name :: path) (.table members) = ·)
  decides : ∀ document path, ∃ layer, Decides document env path layer
  settings : ∀ document settings, fileLayer file = .ok document → load file env = .ok settings →
    SettingsDecided document env settings
  /-- What layers have at other paths than those of the settings changes nothing. -/
  determined : ∀ file' env' document document', Variable.Apart env' →
    fileLayer file = .ok document → fileLayer file' = .ok document' →
    (∀ path ∈ settingPaths, ∀ layer, Decides document env path layer →
      Decided document' env' path (outline? path layer = ·)) →
    load file env = load file' env'
  unconcerned : load file (env.filter Variable.concerns) = load file env
  unknown : ∀ file' members members', fileLayer file = .ok (.table members) →
    fileLayer file' = .ok (.table members') →
    (∀ name ∈ settingNames, members.lookup name = members'.lookup name) →
    load file env = load file' env
  /-- A threshold that there is not makes a table of the thresholds, and decides about nothing else. -/
  inner : ∀ name bytes key rest document, Variable.path? name = some ("buffering" :: key :: rest) →
    key ∉ thresholdNames → Variable.Apart ((name, bytes) :: env) → fileLayer file = .ok document →
    Decided document ((name, bytes) :: env) ["buffering"] (· = some .table) ∧
      ∀ path ∈ settingPaths, path ≠ ["buffering"] → ∀ layer, Decides document env path layer →
        Decides document ((name, bytes) :: env) path layer

/-- No setting is at the empty path. -/
lemma ne_nil_of_mem_settingPaths : ∀ path ∈ settingPaths, path ≠ [] := by
  decide

/-- Sources that decide alike about the places of settings give the same settings. -/
lemma load_of_outlines (apart : Variable.Apart env) (apart' : Variable.Apart env')
    (read : fileLayer file = .ok document) (read' : fileLayer file' = .ok document')
    (same : ∀ path ∈ settingPaths, ∀ layer, Decides document env path layer →
      Decided document' env' path (outline? path layer = ·)) :
    load file env = load file' env' := by
  rw [load_eq read, load_eq read']
  refine readAt_congr fun path mem => ?_
  obtain ⟨layer, decides⟩ := exists_decides document env path
  obtain ⟨layer', decides'⟩ := exists_decides document' env' path
  have same := same path mem layer decides layer' decides'
  obtain ⟨name, rest, rfl⟩ := List.exists_cons_of_ne_nil (ne_nil_of_mem_settingPaths path mem)
  rw [outline?_layers apart (isProper_of_fileLayer read).1 decides,
    outline?_layers apart' (isProper_of_fileLayer read').1 decides', same]

/-- The place of a setting starts with the name of a setting. -/
lemma mem_settingNames_of_mem_settingPaths :
    ∀ path ∈ settingPaths, ∀ name ∈ path.head?, name ∈ settingNames := by
  decide

/-- The address that the platform gives is in a variable of concern. -/
lemma platformLayer_filter (env : Environment) :
    platformLayer (env.filter Variable.concerns) = platformLayer env := by
  have kept (value : List UInt8) : Variable.concerns (Environment.runtimeApiName, value) = true := rfl
  rw [platformLayer, platformLayer, Environment.runtimeApi, Environment.runtimeApi, Environment.get?,
    Environment.get?, lookup_filter kept]

/-- It is not in a variable that configures. -/
lemma platformLayer_cons {name : String} {bytes : List UInt8} {place : List String}
    (found : Variable.path? name = some place) (env : Environment) :
    platformLayer ((name, bytes) :: env) = platformLayer env := by
  have other : Environment.runtimeApiName ≠ name := by
    rintro rfl
    cases found
  rw [platformLayer, platformLayer, Environment.runtimeApi, Environment.runtimeApi, Environment.get?,
    Environment.get?, List.lookup_cons, beq_false_of_ne other]

/-- Only variables that concern a setting can settle its path. -/
lemma mem_layersOf_filter {layer : Value} {path : List String} (mem : path ∈ settingPaths)
    (settles : layer.settles path) :
    layer ∈ Variable.layersOf (env.filter Variable.concerns) ↔ layer ∈ Variable.layersOf env := by
  simp only [Variable.mem_layersOf_iff, List.mem_filter]
  constructor
  -- What settles a path begins with the same name, and that of a setting concerns it.
  · rintro ⟨name, bytes, place, ⟨here, -⟩, found, rfl⟩
    exact ⟨name, bytes, place, here, found, rfl⟩
  · rintro ⟨name, bytes, place, here, found, rfl⟩
    obtain ⟨first, rest, rfl⟩ := List.exists_cons_of_ne_nil (Variable.ne_nil_of_path? found)
    obtain ⟨_, path, rfl⟩ := List.exists_cons_of_ne_nil (ne_nil_of_mem_settingPaths path mem)
    obtain rfl := head_eq_of_settles_nest settles
    have known := mem_settingNames_of_mem_settingPaths _ mem first rfl
    refine ⟨name, bytes, _, ⟨here, ?_⟩, found, rfl⟩
    simp [Variable.concerns, found, known]

/-- What is said of a threshold that there is not settles nothing but that there are thresholds. -/
lemma not_settles_inner {path rest : List String} {key : String} {value : Value}
    (mem : path ∈ settingPaths) (other : path ≠ ["buffering"]) (unknown : key ∉ thresholdNames) :
    ¬(nest ("buffering" :: key :: rest) value).settles path := by
  intro settles
  have thresholds : ∀ path ∈ settingPaths, path ≠ ["buffering"] → path.head? = some "buffering" →
      ∃ key ∈ thresholdNames, path = ["buffering", key] := by decide
  obtain ⟨name, rest', rfl⟩ := List.exists_cons_of_ne_nil (ne_nil_of_mem_settingPaths path mem)
  have first := head_eq_of_settles_nest settles
  obtain ⟨key', known, same⟩ := thresholds _ mem other (congrArg some first.symm)
  rw [same] at settles
  have keys : key = key' := by
    rcases settles_nest_iff.mp settles with above | ⟨_, below, -⟩
    · simpa [List.cons_prefix_cons, eq_comm] using above
    · exact (List.cons.inj (List.cons.inj below).2).1.symm
  exact unknown (keys ▸ known)

/-- Variables of no concern may be left out. -/
lemma load_filter (apart : Variable.Apart env) :
    load file (env.filter Variable.concerns) = load file env := by
  cases read : fileLayer file with
  | error e =>
    rw [load, load, read]
    rfl
  | ok document =>
    have apart' : Variable.Apart (env.filter Variable.concerns) :=
      apart.sublist (List.filter_sublist.filterMap _)
    refine load_of_outlines apart' apart read read fun path mem layer decides layer' decides' => ?_
    have decides := decides.congr (platformLayer_filter env).symm
      fun _ settles => mem_layersOf_filter mem settles
    obtain ⟨name, rest, rfl⟩ := List.exists_cons_of_ne_nil (ne_nil_of_mem_settingPaths path mem)
    exact decides.agree apart (isProper_of_fileLayer read).1 decides'

/-- Of a document only the members with the names of settings matter. -/
lemma load_of_members {members members' : Members} (read : fileLayer file = .ok (.table members))
    (read' : fileLayer file' = .ok (.table members'))
    (same : ∀ name ∈ settingNames, members.lookup name = members'.lookup name) :
    load file env = load file' env := by
  rw [load_eq read, load_eq read']
  refine readAt_congr fun path mem => ?_
  rw [outline?_layers_eq (isProper_of_fileLayer read).1,
    outline?_layers_eq (isProper_of_fileLayer read').1]
  obtain ⟨name, rest, rfl⟩ := List.exists_cons_of_ne_nil (ne_nil_of_mem_settingPaths path mem)
  have known := mem_settingNames_of_mem_settingPaths _ mem name rfl
  rw [outline?, outline?, settles, settles, same name known]

/-- A variable with the name of something inside the thresholds makes them a table. -/
lemma inner_decides {name key : String} {bytes : List UInt8} {rest : List String}
    (apart : Variable.Apart ((name, bytes) :: env))
    (found : Variable.path? name = some ("buffering" :: key :: rest)) (proper : document.IsProper) :
    Decided document ((name, bytes) :: env) ["buffering"] (· = some .table) := by
  intro layer decides
  have above : ["buffering"] <+: "buffering" :: key :: rest := List.prefix_append ["buffering"] _
  have new : nest ("buffering" :: key :: rest) (Literal.parse (Utf8.lossy bytes).toList) ∈
      Variable.layersOf ((name, bytes) :: env) :=
    Variable.mem_layersOf_iff.mpr ⟨name, bytes, _, List.mem_cons_self .., found, rfl⟩
  have decides' : Decides document ((name, bytes) :: env) _ _ :=
    .assigned new (settles_nest_iff.mpr (.inl above))
  rw [decides.agree apart proper decides']
  exact outline?_nest_above above (by simp)

/-- What is said of a threshold that there is not changes no other decision. -/
lemma Decides.cons_inner {name key : String} {bytes : List UInt8} {path rest : List String} {layer : Value}
    (decides : Decides document env path layer)
    (found : Variable.path? name = some ("buffering" :: key :: rest)) (mem : path ∈ settingPaths)
    (other : path ≠ ["buffering"]) (unknown : key ∉ thresholdNames) :
    Decides document ((name, bytes) :: env) path layer := by
  refine decides.congr (platformLayer_cons found env) fun layer settles => ?_
  simp only [Variable.mem_layersOf_iff]
  constructor
  · rintro ⟨name', bytes', place, here, found', rfl⟩
    exact ⟨name', bytes', place, List.mem_cons_of_mem _ here, found', rfl⟩
  · rintro ⟨name', bytes', place, here, found', rfl⟩
    rcases List.mem_cons.mp here with same | here
    · obtain ⟨rfl, rfl⟩ := Prod.mk.inj same
      obtain rfl := Option.some.inj (found.symm.trans found')
      exact absurd settles (not_settles_inner mem other unknown)
    · exact ⟨name', bytes', place, here, found', rfl⟩

/-- Settings are what their layers decide, for every file and every environment whose variables are
apart. -/
theorem load_isLayered (file : Option (List UInt8)) (env : Environment) (apart : Variable.Apart env) :
    IsLayered file env where
  unreadable error unread := by
    rw [load, unread]
    rfl
  table document read := by
    obtain ⟨members, made⟩ := exists_layers_eq document env
    refine ⟨members, ?_, fun name path layer decides => ?_⟩
    · rw [load_eq read, made, readSettings_eq]
    · rw [← made]
      exact outline?_layers apart (isProper_of_fileLayer read).1 decides
  decides document path := exists_decides document env path
  settings document settings read loaded := by
    obtain ⟨proper, isTable⟩ := isProper_of_fileLayer read
    rw [load_eq read] at loaded
    exact .of_read (fun _ _ _ decides => outline?_layers apart proper decides) proper isTable loaded
  determined file' env' document document' apart' read read' same :=
    load_of_outlines apart apart' read read' same
  unconcerned := load_filter apart
  unknown file' members members' read read' same := load_of_members read read' same
  inner name bytes key rest document found unknown apart' read :=
    ⟨inner_decides apart' found (isProper_of_fileLayer read).1,
      fun _ mem other _ decides => decides.cons_inner found mem other unknown⟩

/-- A file and two variables, each of which decides about something. -/
theorem load_isLayered_mixed :
    let file := some (Utf8.encode "[buffering]\nmax_bytes = 7\nmax_items = 9\n")
    let env := [("LAMBDA_EXTENSION_BUFFERING__MAX_ITEMS", Utf8.encode "5"),
      ("lambda_extension_Extension_Name", Utf8.encode "probe")]
    Variable.Apart env ∧ IsLayered file env ∧
      load file env = .ok { Settings.standard with
        extensionName := some "probe"
        buffering := some { BufferSettings.standard with maxItems := 5, maxBytes := 7 } } := by
  have apart : Variable.Apart [("LAMBDA_EXTENSION_BUFFERING__MAX_ITEMS", Utf8.encode "5"),
      ("lambda_extension_Extension_Name", Utf8.encode "probe")] := by
    unfold Variable.Apart
    decide +kernel
  exact ⟨apart, load_isLayered _ _ apart, by decide +kernel⟩

/-- A threshold that there is not makes all the others count. -/
theorem unknown_threshold_counts :
    Variable.path? "LAMBDA_EXTENSION_BUFFERING__FOO" = some ["buffering", "foo"] ∧
      load none [] = .ok Settings.standard ∧
      load none [("LAMBDA_EXTENSION_BUFFERING__FOO", Utf8.encode "1")] =
        .ok { Settings.standard with buffering := some BufferSettings.standard } ∧
      load none [("LAMBDA_EXTENSION_BUFFERING__FOO", Utf8.encode "1")] ≠ load none [] := by
  decide +kernel

end Load

end Sidecar.Config
