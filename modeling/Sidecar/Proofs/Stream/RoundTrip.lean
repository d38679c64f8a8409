import Sidecar.Proofs.Json.Printing
import Sidecar.Proofs.Stream.Records

/-!
# Events are read back

An element of a batch that tells of an event, with the time, the type and the record as they are written,
is decoded to that event (`events_roundTrip`). The envelope takes in its three members wherever they stand,
and the record is read from all that is alike to what it is written as.
-/

namespace Sidecar

open Json

/-- A text that tells of an event: a JSON object with its type, its time and its record as they are written.
Members may stand in any order, those of the record too, and there may be others of other names. -/
inductive RecordFamily.Tells {ρ : Type} (family : RecordFamily ρ) (event : Stamped ρ)
    (raw : List UInt8) : Prop where
  | mk {value : Json} {others : List (String × Json)} :
    Denotes raw value →
    Alike (.object (("type", .string (family.kind event.record)) ::
      ("time", .string event.time.text) :: ("record", family.write event.record) :: others)) value →
    (∀ name ∈ others.map Prod.fst, name ∉ Envelope.form.names) →
    family.Tells event raw

namespace Envelope

variable {room room' levels : Nat} {node : Node} {envelope : Envelope}

/-! ## The envelope -/

/-- The three fields of an envelope have names of their own. -/
lemma form_isNew : form.IsNew :=
  .blank (.blank (.blank (.make _) (by simp) rfl) (by simp) rfl) (by simp) rfl

/-- What is kept as a string is read as that string. -/
lemma read_string {text : String} (kept : node.keep room = .ok (.string text)) :
    Codec.string.read room' node = .ok text := by
  have scalar : node.scalar = .ok (.string text) := Node.scalar_of_keep kept
  simp only [Codec.string, scalar, bind, Except.bind]

/-- The type of an envelope is read from the string that it is. -/
lemma reads_type (kept : node.keep room = .ok (.string envelope.type)) :
    form.Reads room' envelope "type" node :=
  read_string kept

/-- The time of an envelope is read from its text. -/
lemma reads_time (kept : node.keep room = .ok (.string envelope.time.text)) :
    form.Reads room' envelope "time" node := by
  have read : Codec.string.read room' node = .ok envelope.time.text := read_string kept
  change Instant.codec.read room' node = .ok envelope.time
  simp only [Instant.codec, Codec.refine, read, Instant.parse?_text, bind, Except.bind]

/-- The record of an envelope is any plain value, as it stands. -/
lemma reads_record (plain : Plain levels envelope.record) (shallow : levels < room')
    (kept : node.keep room = .ok envelope.record) : form.Reads room' envelope "record" node := by
  have kept' := Node.keep_of_plain plain kept shallow
  change Codec.anything.read room' node = .ok envelope.record
  simp only [Codec.anything, kept', Except.map, plain.withoutDuplicates_eq]

/-- An envelope is read from the members of an object in any order. Others mean nothing. -/
lemma decode_of_perm {raw : List UInt8} {members others : List (String × Json)}
    (denotes : Denotes raw (.object members))
    (perm : (("type", .string envelope.type) :: ("time", .string envelope.time.text) ::
      ("record", envelope.record) :: others).Perm members)
    (unknown : ∀ name ∈ others.map Prod.fst, name ∉ form.names)
    (plain : Plain levels envelope.record) (shallow : levels + 1 < nestingLimit) :
    codec.decode raw = .ok envelope := by
  have names := perm.map Prod.fst
  refine Codec.decode_record denotes form_isNew rfl ?reads ?once ?completes
  case reads =>
    intro member mem known room node kept
    simp only [← perm.mem_iff, List.mem_cons] at mem
    obtain rfl | rfl | rfl | other := mem
    · exact reads_type kept
    · exact reads_time kept
    · exact reads_record plain (by omega) kept
    · exact absurd known (unknown _ (List.mem_map_of_mem other))
  case once =>
    have none : (others.map Prod.fst).filter (· ∈ form.names) = [] := by
      simpa only [List.filter_eq_nil_iff, decide_eq_true_eq] using unknown
    refine (names.filter _).nodup_iff.mp ?_
    simp only [List.map_cons]
    rw [List.filter_cons_of_pos (by decide), List.filter_cons_of_pos (by decide),
      List.filter_cons_of_pos (by decide), none]
    decide
  case completes =>
    intro seen all
    have met (name : String) (mem : name ∈ ["type", "time", "record"]) : name ∈ seen :=
      all name (names.subset (List.mem_append_left (others.map Prod.fst) mem))
    exact ⟨⟨⟨trivial, .inl (met _ (by decide))⟩, .inl (met _ (by decide))⟩,
      .inl (met _ (by decide))⟩

end Envelope

/-! ## Events -/

namespace RecordFamily

variable {ρ : Type} {family : RecordFamily ρ}

/-- An event whose record is read back is decoded from all that tells of it. -/
lemma decode_of_tells {event : Stamped ρ} {raw : List UInt8}
    (record : family.ReadsBack event.record) (tells : family.Tells event raw) :
    family.decode raw = .ok event := by
  obtain ⟨denotes, alike, unknown⟩ := tells
  obtain ⟨between, members, rfl, perm, same⟩ := alike.of_object
  cases same with
  | @cons _ _ type _ _ sameType same =>
  cases same with
  | @cons _ _ time _ _ sameTime same =>
  cases same with
  | @cons _ _ content _ others' sameRecord same =>
    obtain rfl := sameType.eq_of_string
    obtain rfl := sameTime.eq_of_string
    have envelope : Envelope.codec.decode raw =
        .ok ⟨family.kind event.record, event.time, content⟩ :=
      Envelope.decode_of_perm denotes perm (same.names_eq ▸ unknown) (sameRecord.plain record.plain)
        (by decide)
    rw [decode, envelope]
    simp only [record.reads sameRecord, Except.map]

/-- Every event is decoded again from all that tells of it, and it is written with the type by which its
record is read. -/
structure RoundTrips (family : RecordFamily ρ) : Prop where
  decodes : ∀ event raw, family.Tells event raw → family.decode raw = .ok event
  tagged : ∀ record, family.writeTagged record =
    .object [("type", .string (family.kind record)), ("record", family.write record)]

end RecordFamily

/-- All events of both streams are decoded again from what tells of them. -/
theorem events_roundTrip : Telemetry.family.RoundTrips ∧ Logs.family.RoundTrips := by
  refine ⟨⟨?_, ?_⟩, ⟨?_, ?_⟩⟩
  · intro event raw tells
    exact RecordFamily.decode_of_tells (Telemetry.readsBack event.record) tells
  · intro record
    rw [RecordFamily.writeTagged, Telemetry.tag_eq_kind]
  · intro event raw tells
    exact RecordFamily.decode_of_tells (Logs.readsBack event.record) tells
  · intro record
    rw [RecordFamily.writeTagged, Logs.tag_eq_kind]

/-- The start of an invocation of a function without versions. -/
def startEvent : Stamped Logs.Record where
  time := ⟨0, 0, by decide⟩
  record := .start ⟨"7", none⟩

/-- A text that tells of `startEvent` in an order of its own, with a member that means nothing. -/
def startText : List UInt8 :=
  Utf8.encode ("\x7b\"record\":\x7b\"version\":null,\"requestId\":\"7\"\x7d,\"more\":0," ++
    "\"type\":\"platform.start\",\"time\":\"1970-01-01T00:00:00Z\"\x7d")

/-- The value of `startText`. -/
def startValue : Json :=
  .object [("record", .object [("version", .null), ("requestId", .string "7")]), ("more", .ofInt 0),
    ("type", .string "platform.start"), ("time", .string "1970-01-01T00:00:00Z")]

lemma integral_startValue : Integral startValue := by
  refine .object ?_
  simp only [List.forall_mem_cons]
  refine ⟨.object ?_, .integer ⟨by decide, by decide⟩, .string _, .string _, nofun⟩
  simp only [List.forall_mem_cons]
  exact ⟨.null, .string _, nofun⟩

lemma plain_startValue : Plain 2 startValue := by
  refine .object (by decide) ?_
  simp only [List.forall_mem_cons]
  refine ⟨.object (by decide) ?_, .number _, .string _, .string _, nofun⟩
  simp only [List.forall_mem_cons]
  exact ⟨.null, .string _, nofun⟩

/-- The text is `startValue` as it is printed. -/
lemma startText_denotes : Denotes startText startValue := by
  have printed : startValue.toBytes = startText := by decide +kernel
  rw [← printed]
  exact integral_startValue.denotes plain_startValue

/-- The text tells of `startEvent`: its record and its members are in another order, and one is not
known. -/
lemma tells_startText : Logs.family.Tells startEvent startText := by
  have record : Alike (Logs.family.write startEvent.record) (.object _) :=
    .object (.refl _) (.swap _ _ [])
  refine @RecordFamily.Tells.mk _ _ _ _ _ [("more", .ofInt 0)] startText_denotes ?_ (by decide)
  refine .object (.cons (.refl _) (.cons (.refl _) (.cons record (.refl _)))) ?_
  exact @List.perm_append_comm _ [_, _] [_, _]

/-- So `startEvent` is decoded from the text. -/
theorem events_roundTrip_start : Logs.family.decode startText = .ok startEvent :=
  events_roundTrip.2.decodes startEvent startText tells_startText

end Sidecar
