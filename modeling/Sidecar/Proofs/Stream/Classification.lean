import Sidecar.Proofs.Json.Fields
import Sidecar.Proofs.Named
import Sidecar.Stream.Logs
import Sidecar.Stream.Telemetry

/-!
# What becomes of an element

An element is told apart step by step: whether its text spells an envelope, whether the stream knows its
type, whether its record fits that type. At each step there is one error, and without one the event has the
time, the type and the record of the element (`elements_areClassified`).
-/

namespace Sidecar

open Json

/-! ## Envelopes -/

namespace Envelope

/-- What stands for the type, the time and the record spells an envelope: one string, one string that is a
point in time, and at most one value. -/
structure Fields (type time record : List Node) (envelope : Envelope) : Prop where
  type : ∃ node, type = [node] ∧ node.scalar = .ok (.string envelope.type)
  time : ∃ node, time = [node] ∧ ∃ text, node.scalar = .ok (.string text) ∧
    Instant.parse? text = some envelope.time
  record : record = [] ∧ envelope.record = .null ∨
    ∃ node, record = [node] ∧ ∃ value, node.keep (nestingLimit - 1) = .ok value ∧
      value.withoutDuplicates = envelope.record

/-- The text spells an envelope: it is an object with the three fields, whatever else can be passed over in
it, or an array of them in this order. -/
inductive Spells (raw : List UInt8) (envelope : Envelope) : Prop where
  | object {nodes : List (Node × Node)} {members : List (String × Node)} :
    Text.parse raw = ⟨.object nodes none, .ok ()⟩ →
    Named members nodes →
    (∀ member ∈ members, member.1 ∉ ["type", "time", "record"] → member.2.skip = .ok ()) →
    Fields (valuesOf "type" members) (valuesOf "time" members) (valuesOf "record" members) envelope →
    Spells raw envelope
  | array {type time record : List Node} :
    Text.parse raw = ⟨.array (type ++ time ++ record) none, .ok ()⟩ →
    Fields type time record envelope →
    Spells raw envelope

variable {room : Nat} {node : Node} {envelope : Envelope}

/-- An instant is read from a string that is the text of one. -/
lemma instant_read_iff {time : Instant} : Instant.codec.read room node = .ok time ↔
    ∃ text, node.scalar = .ok (.string text) ∧ Instant.parse? text = some time := by
  simp only [Instant.codec, Codec.refine, bind_eq_ok_iff, Codec.string_read_iff]
  refine exists_congr fun text => and_congr_right fun _ => ?_
  cases Instant.parse? text <;> simp

/-- Any value is read from a node that is kept, with the last member of each name. -/
lemma anything_read_iff {value : Json} : Codec.anything.read room node = .ok value ↔
    ∃ kept, node.keep room = .ok kept ∧ kept.withoutDuplicates = value := by
  simp only [Codec.anything]
  cases node.keep room <;> simp [Except.map]

/-- An envelope is gathered from the values under its three names. -/
lemma gathers_form_iff {members : List (String × Node)} :
    form.Gathers (nestingLimit - 1) members envelope ↔
      Fields (valuesOf "type" members) (valuesOf "time" members) (valuesOf "record" members)
        envelope := by
  rw [form, Form.gathers_fieldOr]
  simp only [Form.gathers_field Instant.codec rfl, Form.gathers_field Codec.string rfl,
    Form.gathers_make, Codec.string_read_iff, instant_read_iff, anything_read_iff]
  constructor
  · rintro ⟨_, record, ⟨_, time, ⟨_, type, rfl, isType, rfl⟩, isTime, rfl⟩, isRecord, rfl⟩
    exact ⟨isType, isTime, isRecord⟩
  · rintro ⟨isType, isTime, isRecord⟩
    exact ⟨_, envelope.record, ⟨_, envelope.time, ⟨_, envelope.type, rfl, isType, rfl⟩, isTime, rfl⟩,
      isRecord, rfl⟩

/-- An envelope is read from a list of its type, its time and, at most, its record. -/
lemma readItems_form_iff {items : List Node} :
    form.readItems (nestingLimit - 1) items none = .ok (envelope, []) ↔
      ∃ type time record, items = type ++ time ++ record ∧ Fields type time record envelope := by
  rw [form, Form.readItems_fieldOr_iff]
  simp only [Form.readItems_field_iff, Form.readItems_make_iff, Codec.string_read_iff, instant_read_iff,
    anything_read_iff, true_and]
  constructor
  · rintro ⟨_, record, ⟨last, ⟨_, second, time, ⟨_, first, type, ⟨rfl, rfl⟩, isType, rfl⟩, isTime,
      rfl⟩, isRecord⟩ | ⟨⟨_, second, time, ⟨_, first, type, ⟨rfl, rfl⟩, isType, rfl⟩, isTime, rfl⟩,
      rfl⟩, rfl⟩
    · exact ⟨[first], [second], [last], rfl, ⟨first, rfl, isType⟩, ⟨second, rfl, isTime⟩,
        .inr ⟨last, rfl, isRecord⟩⟩
    · exact ⟨[first], [second], [], rfl, ⟨first, rfl, isType⟩, ⟨second, rfl, isTime⟩, .inl ⟨rfl, rfl⟩⟩
  · rintro ⟨_, _, record, rfl, ⟨first, rfl, isType⟩, ⟨second, rfl, isTime⟩, isRecord⟩
    refine ⟨.mk envelope.type envelope.time, envelope.record, ?_, rfl⟩
    rcases isRecord with ⟨rfl, isNull⟩ | ⟨last, rfl, isRecord⟩
    · exact .inr ⟨⟨.mk envelope.type, second, _, ⟨.mk, first, _, ⟨rfl, rfl⟩, isType, rfl⟩, isTime, rfl⟩,
        isNull⟩
    · exact .inl ⟨last, ⟨.mk envelope.type, second, _, ⟨.mk, first, _, ⟨rfl, rfl⟩, isType, rfl⟩, isTime,
        rfl⟩, isRecord⟩

/-- An envelope is read from the texts that spell it, and from no others. -/
lemma decode_eq_ok_iff {raw : List UInt8} : codec.decode raw = .ok envelope ↔ Spells raw envelope := by
  rw [codec, Codec.record_decode_iff (by decide)]
  constructor
  · rintro (⟨nodes, members, parsed, named, skips, gathers⟩ | ⟨items, parsed, read⟩)
    · exact .object parsed named skips (gathers_form_iff.mp gathers)
    · obtain ⟨type, time, record, rfl, fields⟩ := readItems_form_iff.mp read
      exact .array parsed fields
  · rintro (⟨parsed, named, skips, fields⟩ | ⟨parsed, fields⟩)
    · exact .inl ⟨_, _, parsed, named, skips, gathers_form_iff.mpr fields⟩
    · exact .inr ⟨_, parsed, readItems_form_iff.mpr ⟨_, _, _, rfl, fields⟩⟩

end Envelope

/-! ## Types and shapes -/

namespace Telemetry

/-- The types of the stream. -/
def types : List String :=
  ["platform.initStart", "platform.initRuntimeDone", "platform.initReport", "platform.start",
    "platform.runtimeDone", "platform.report", "platform.extension", "platform.telemetrySubscription",
    "platform.logsDropped", "function", "extension"]

/-- The value has the shape of the record, and tells this. -/
def Record.ReadFrom (json : Json) : Record → Prop
  | .initStart content => (Codec.record InitStart.form).ofJson? json = some content
  | .initRuntimeDone content => (Codec.record InitRuntimeDone.form).ofJson? json = some content
  | .initReport content => (Codec.record InitReport.form).ofJson? json = some content
  | .start content => (Codec.record Start.form).ofJson? json = some content
  | .runtimeDone content => (Codec.record RuntimeDone.form).ofJson? json = some content
  | .report content => (Codec.record Report.form).ofJson? json = some content
  | .extension content => (Codec.record ExtensionRecord.form).ofJson? json = some content
  | .telemetrySubscription content => (Codec.record SubscriptionRecord.form).ofJson? json = some content
  | .logsDropped content => (Codec.record DroppedRecord.form).ofJson? json = some content
  | .functionLine line => Codec.string.ofJson? json = some line
  | .extensionLine line => Codec.string.ofJson? json = some line

end Telemetry

namespace Logs

/-- The types of the stream. -/
def types : List String :=
  ["platform.start", "platform.end", "platform.report", "platform.extension",
    "platform.logsSubscription", "platform.logsDropped", "platform.fault", "platform.runtimeDone",
    "function", "extension"]

/-- The value has the shape of the record, and tells this. -/
def Record.ReadFrom (json : Json) : Record → Prop
  | .start content => (Codec.record Start.form).ofJson? json = some content
  | .finish content => (Codec.record End.form).ofJson? json = some content
  | .report content => (Codec.record Report.form).ofJson? json = some content
  | .extension content => (Codec.record ExtensionRecord.form).ofJson? json = some content
  | .logsSubscription content => (Codec.record SubscriptionRecord.form).ofJson? json = some content
  | .logsDropped content => (Codec.record DroppedRecord.form).ofJson? json = some content
  | .fault text => Codec.string.ofJson? json = some text
  | .runtimeDone content => (Codec.record RuntimeDone.form).ofJson? json = some content
  | .functionLine line => Codec.string.ofJson? json = some line
  | .extensionLine line => Codec.string.ofJson? json = some line

end Logs

namespace RecordFamily

variable {ρ : Type} {family : RecordFamily ρ} {types : List String} {readFrom : Json → ρ → Prop}

/-- The family has a reader for each of its types and for no others, and the reader of a type reads the
records of this type from the values of their shape. -/
structure IsSorted (family : RecordFamily ρ) (types : List String) (readFrom : Json → ρ → Prop) :
    Prop where
  knows : ∀ {type}, (family.reader type).isSome ↔ type ∈ types
  kinds : ∀ record, family.kind record ∈ types
  reads : ∀ {type read json record}, family.reader type = some read →
    (read json = some record ↔ family.kind record = type ∧ readFrom json record)

end RecordFamily

/-- The types of the Telemetry API decide how its records are read. -/
lemma Telemetry.isSorted : Telemetry.family.IsSorted Telemetry.types Record.ReadFrom := by
  refine ⟨Named.isSome_lookup_iff, fun record => ?_, fun {_ _ _ record} found => ⟨?_, ?_⟩⟩
  · have known : (Record.readers.lookup record.kind).isSome := by cases record <;> rfl
    exact Named.isSome_lookup_iff.mp known
  · intro h
    have mem := Named.mem_of_lookup found
    simp only [Record.readers, List.mem_cons, Prod.mk.injEq, List.not_mem_nil, or_false] at mem
    rcases mem with ⟨rfl, rfl⟩ | ⟨rfl, rfl⟩ | ⟨rfl, rfl⟩ | ⟨rfl, rfl⟩ | ⟨rfl, rfl⟩ | ⟨rfl, rfl⟩ |
      ⟨rfl, rfl⟩ | ⟨rfl, rfl⟩ | ⟨rfl, rfl⟩ | ⟨rfl, rfl⟩ | ⟨rfl, rfl⟩
    all_goals
      obtain ⟨content, read, rfl⟩ := Option.map_eq_some_iff.mp h
      exact ⟨rfl, read⟩
  · rintro ⟨rfl, reads⟩
    cases record
    all_goals
      cases found
      exact Option.map_eq_some_iff.mpr ⟨_, reads, rfl⟩

/-- The types of the Logs API decide how its records are read. -/
lemma Logs.isSorted : Logs.family.IsSorted Logs.types Record.ReadFrom := by
  refine ⟨Named.isSome_lookup_iff, fun record => ?_, fun {_ _ _ record} found => ⟨?_, ?_⟩⟩
  · have known : (Record.readers.lookup record.kind).isSome := by cases record <;> rfl
    exact Named.isSome_lookup_iff.mp known
  · intro h
    have mem := Named.mem_of_lookup found
    simp only [Record.readers, List.mem_cons, Prod.mk.injEq, List.not_mem_nil, or_false] at mem
    rcases mem with ⟨rfl, rfl⟩ | ⟨rfl, rfl⟩ | ⟨rfl, rfl⟩ | ⟨rfl, rfl⟩ | ⟨rfl, rfl⟩ | ⟨rfl, rfl⟩ |
      ⟨rfl, rfl⟩ | ⟨rfl, rfl⟩ | ⟨rfl, rfl⟩ | ⟨rfl, rfl⟩
    all_goals
      obtain ⟨content, read, rfl⟩ := Option.map_eq_some_iff.mp h
      exact ⟨rfl, read⟩
  · rintro ⟨rfl, reads⟩
    cases record
    all_goals
      cases found
      exact Option.map_eq_some_iff.mpr ⟨_, reads, rfl⟩

/-! ## Elements -/

namespace RecordFamily

variable {ρ : Type} {family : RecordFamily ρ} {types : List String} {readFrom : Json → ρ → Prop}
  {raw : List UInt8} {envelope : Envelope}

/-- What an element of an envelope is decoded to: the first of three errors that applies, or an event. -/
inductive Verdict (family : RecordFamily ρ) (types : List String) (readFrom : Json → ρ → Prop)
    (envelope : Envelope) : Except DecodeError (Stamped ρ) → Prop where
  | unknownType :
    envelope.type ∉ types →
    Verdict family types readFrom envelope (.error (.unknownType envelope.type))
  | record :
    envelope.type ∈ types →
    (∀ record, family.kind record = envelope.type → ¬readFrom envelope.record record) →
    Verdict family types readFrom envelope (.error (.record envelope.type .mismatched))
  | event {record : ρ} :
    envelope.type ∈ types →
    family.kind record = envelope.type →
    readFrom envelope.record record →
    Verdict family types readFrom envelope (.ok ⟨envelope.time, record⟩)

/-- A value tells of one record of a type at most. -/
lemma IsSorted.unique (sorted : family.IsSorted types readFrom) {json : Json} {record record' : ρ}
    (kind : family.kind record = family.kind record') (fits : readFrom json record)
    (fits' : readFrom json record') : record = record' := by
  obtain ⟨read, found⟩ := Option.isSome_iff_exists.mp (sorted.knows.mpr (sorted.kinds record))
  have reads := (sorted.reads found).mpr ⟨rfl, fits⟩
  have reads' := (sorted.reads found).mpr ⟨kind.symm, fits'⟩
  exact Option.some.inj (reads.symm.trans reads')

/-- If an envelope is spelt, its type and its record decide between the other outcomes. -/
lemma decode_of_spells (sorted : family.IsSorted types readFrom) (spells : envelope.Spells raw) :
    family.Verdict types readFrom envelope (family.decode raw) := by
  rw [decode, Envelope.decode_eq_ok_iff.mpr spells]
  cases found : family.reader envelope.type with
  | none =>
    have unknown : envelope.type ∉ types := by
      rw [← sorted.knows, found]
      exact Bool.false_ne_true
    simp only [readRecord, found]
    exact .unknownType unknown
  | some read =>
    have known : envelope.type ∈ types := by
      rw [← sorted.knows, found]
      rfl
    cases reads : read envelope.record with
    | none =>
      simp only [readRecord, found, reads]
      refine .record known fun record kind fits => ?_
      rw [(sorted.reads found).mpr ⟨kind, fits⟩] at reads
      cases reads
    | some record =>
      simp only [readRecord, found, reads]
      obtain ⟨kind, fits⟩ := (sorted.reads found).mp reads
      exact .event known kind fits

/-- A text that spells no envelope is an element at fault, whatever type it may have in it. -/
lemma decode_of_not_spells (h : ∀ envelope : Envelope, ¬envelope.Spells raw) :
    ∃ fault, family.decode raw = .error (.element fault) := by
  rw [decode]
  cases read : Envelope.codec.decode raw with
  | error fault => exact ⟨fault, rfl⟩
  | ok envelope => exact absurd (Envelope.decode_eq_ok_iff.mp read) (h envelope)

/-- Every element has a verdict, unless its text spells no envelope. -/
lemma decode_cases (sorted : family.IsSorted types readFrom) (raw : List UInt8) :
    (∃ envelope : Envelope, envelope.Spells raw ∧
      family.Verdict types readFrom envelope (family.decode raw)) ∨
    (∀ envelope : Envelope, ¬envelope.Spells raw) ∧
      ∃ fault, family.decode raw = .error (.element fault) := by
  by_cases h : ∃ envelope : Envelope, envelope.Spells raw
  · obtain ⟨envelope, spells⟩ := h
    exact .inl ⟨envelope, spells, decode_of_spells sorted spells⟩
  · rw [not_exists] at h
    exact .inr ⟨h, decode_of_not_spells h⟩

/-- How elements are told apart: each outcome of decoding with what it takes. -/
structure Classifies (family : RecordFamily ρ) (types : List String) (readFrom : Json → ρ → Prop) :
    Prop where
  element_iff : ∀ raw, (∃ fault, family.decode raw = .error (.element fault)) ↔
    ∀ envelope : Envelope, ¬envelope.Spells raw
  /-- The type is looked at before the record. -/
  unknownType_iff : ∀ raw type, family.decode raw = .error (.unknownType type) ↔
    ∃ envelope : Envelope, envelope.Spells raw ∧ envelope.type = type ∧ type ∉ types
  record_iff : ∀ raw type, (∃ fault, family.decode raw = .error (.record type fault)) ↔
    ∃ envelope : Envelope, envelope.Spells raw ∧ envelope.type = type ∧ type ∈ types ∧
      ∀ record, family.kind record = type → ¬readFrom envelope.record record
  ok_iff : ∀ raw event, family.decode raw = .ok event ↔
    ∃ envelope : Envelope, envelope.Spells raw ∧ event.time = envelope.time ∧
      family.kind event.record = envelope.type ∧ readFrom envelope.record event.record
  /-- There are no other errors. -/
  error_cases : ∀ raw error, family.decode raw = .error error →
    (∃ fault, error = .element fault) ∨ (∃ type, error = .unknownType type) ∨
      ∃ type fault, error = .record type fault

/-- A family whose types decide how its records are read tells the outcomes apart. -/
lemma classifies_of_isSorted (sorted : family.IsSorted types readFrom) :
    family.Classifies types readFrom := by
  constructor
  case element_iff =>
    intro raw
    refine ⟨fun ⟨fault, decoded⟩ => ?_, decode_of_not_spells⟩
    rcases decode_cases sorted raw with ⟨envelope, -, verdict⟩ | ⟨none, -⟩
    · rw [decoded] at verdict
      cases verdict
    · exact none
  case unknownType_iff =>
    intro raw type
    constructor
    · intro decoded
      rcases decode_cases sorted raw with ⟨envelope, spells, verdict⟩ | ⟨-, fault, other⟩
      · rw [decoded] at verdict
        cases verdict with
        | unknownType unknown => exact ⟨envelope, spells, rfl, unknown⟩
      · rw [decoded] at other
        cases other
    · rintro ⟨envelope, spells, rfl, unknown⟩
      have verdict := decode_of_spells sorted spells
      generalize family.decode raw = result at verdict
      cases verdict with
      | unknownType => rfl
      | record known | event known => exact absurd known unknown
  case record_iff =>
    intro raw type
    constructor
    · rintro ⟨fault, decoded⟩
      rcases decode_cases sorted raw with ⟨envelope, spells, verdict⟩ | ⟨-, fault, other⟩
      · rw [decoded] at verdict
        cases verdict with
        | record known misfit => exact ⟨envelope, spells, rfl, known, misfit⟩
      · rw [decoded] at other
        cases other
    · rintro ⟨envelope, spells, rfl, known, misfit⟩
      have verdict := decode_of_spells sorted spells
      generalize family.decode raw = result at verdict
      cases verdict with
      | unknownType unknown => exact absurd known unknown
      | record => exact ⟨_, rfl⟩
      | event _ kind fits => exact absurd fits (misfit _ kind)
  case ok_iff =>
    intro raw event
    constructor
    · intro decoded
      rcases decode_cases sorted raw with ⟨envelope, spells, verdict⟩ | ⟨-, fault, other⟩
      · rw [decoded] at verdict
        cases verdict with
        | event _ kind fits => exact ⟨envelope, spells, rfl, kind, fits⟩
      · rw [decoded] at other
        cases other
    · rintro ⟨envelope, spells, time, kind, fits⟩
      have known : envelope.type ∈ types := kind ▸ sorted.kinds event.record
      have verdict := decode_of_spells sorted spells
      generalize family.decode raw = result at verdict
      cases verdict with
      | unknownType unknown => exact absurd known unknown
      | record _ misfit => exact absurd fits (misfit _ kind)
      | event _ kind' fits' =>
        -- The record that was read is the one that there is, as the two tell of the same kind.
        obtain ⟨_, record⟩ := event
        obtain rfl := sorted.unique (kind'.trans kind.symm) fits' fits
        rw [← time]
  case error_cases =>
    intro raw error decoded
    rcases decode_cases sorted raw with ⟨envelope, spells, verdict⟩ | ⟨-, fault, other⟩
    · rw [decoded] at verdict
      cases verdict with
      | unknownType => exact .inr (.inl ⟨_, rfl⟩)
      | record => exact .inr (.inr ⟨_, _, rfl⟩)
    · rw [decoded] at other
      cases other
      exact .inl ⟨fault, rfl⟩

end RecordFamily

/-- Both streams tell the outcomes apart, for every text. -/
theorem elements_areClassified :
    Telemetry.family.Classifies Telemetry.types Telemetry.Record.ReadFrom ∧
      Logs.family.Classifies Logs.types Logs.Record.ReadFrom :=
  ⟨RecordFamily.classifies_of_isSorted Telemetry.isSorted,
    RecordFamily.classifies_of_isSorted Logs.isSorted⟩

end Sidecar
