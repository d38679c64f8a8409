import Mathlib.Data.List.Perm.Basic
import Sidecar.Api.Answer
import Sidecar.Api.Event
import Sidecar.Api.Subscription
import Sidecar.Proofs.Json.Order
import Sidecar.Proofs.Json.Printing
import Sidecar.Proofs.Stream.Records

/-!
# Types of the wire are read back from their text

What the platform and an extension tell each other, apart from the records of a stream, is read back from
the text that it is written as: any strings, every deadline and threshold, with or without what may be left
out (`wire_roundTrips`). An event is read from the members of its object in any order, wherever its type
stands.
-/

namespace Sidecar

open Json

variable {levels : Nat}

/-! ## Answers -/

namespace Registration

/-- The answer to registering is read back, in one level. -/
lemma codec_rereads : codec.Rereads (levels + 1) :=
  .record (by simp [form]) fun _ => rfl

/-- The answer to registering is written without numbers. -/
lemma codec_writesIntegral : codec.WritesIntegral :=
  Codec.record_writesIntegral (by simp [form])

end Registration

namespace Acknowledgement

/-- The answer to a report is read back, in one level. -/
lemma codec_rereads : codec.Rereads (levels + 1) :=
  .record (by simp [form]) fun _ => rfl

/-- The answer to a report is written without numbers. -/
lemma codec_writesIntegral : codec.WritesIntegral :=
  Codec.record_writesIntegral (by simp [form])

end Acknowledgement

/-! ## Events -/

/-- A trace header is written without numbers. -/
@[simp]
lemma TraceHeader.codec_writesIntegral : TraceHeader.codec.WritesIntegral :=
  Codec.record_writesIntegral (by simp [form])

namespace ShutdownReason

/-- A reason is written in the letters in which it is looked for. -/
lemma toLower_name (reason : ShutdownReason) : reason.name.toLower = reason.name := by
  have mapped : (String.map Char.toLower reason.name).toList = reason.name.toList := by
    rw [String.toList_map]
    cases reason <;> rfl
  exact String.toList_inj.mp mapped

/-- A reason is found by the name that it is written with. -/
lemma ofName?_name (reason : ShutdownReason) : ofName? reason.name = some reason := by
  rw [ofName?, toLower_name]
  cases reason <;> rfl

/-- A reason is read back from its name. -/
@[simp]
lemma codec_rereads : codec.Rereads levels :=
  Codec.string_rereads.refine ofName?_name

/-- A reason is written without numbers. -/
@[simp]
lemma codec_writesIntegral : codec.WritesIntegral :=
  Codec.string_writesIntegral.refine

end ShutdownReason

namespace Invocation

/-- The fields of an invocation have names of their own, and each is read back. -/
lemma form_isSound : form.IsSound (levels + 1) := by
  simp [form]

/-- The deadline of an invocation is an integer of 64 bits, and its only number. -/
lemma form_writesIntegral : form.WritesIntegral := by
  simp [form]

/-- An invocation is read back, with a second level for its trace header. -/
lemma codec_rereads : codec.Rereads (levels + 2) :=
  .record form_isSound fun _ => rfl

/-- An invocation is written with no numbers but integers of 64 bits. -/
lemma codec_writesIntegral : codec.WritesIntegral :=
  Codec.record_writesIntegral form_writesIntegral

end Invocation

namespace Shutdown

/-- The fields of a shutdown have names of their own, and each is read back. -/
lemma form_isSound : form.IsSound levels := by
  simp [form]

/-- The deadline of a shutdown is an integer of 64 bits, and its only number. -/
lemma form_writesIntegral : form.WritesIntegral := by
  simp [form]

/-- A shutdown is read back, in one level. -/
lemma codec_rereads : codec.Rereads (levels + 1) :=
  .record form_isSound fun _ => rfl

/-- A shutdown is written with no numbers but integers of 64 bits. -/
lemma codec_writesIntegral : codec.WritesIntegral :=
  Codec.record_writesIntegral form_writesIntegral

end Shutdown

namespace Event

/-- The members of an event beside its type, which none of them is. -/
structure IsContent (members : List (String × Json)) : Prop where
  untyped : ∀ member ∈ members, member.1 ≠ "eventType"
  plain : ∀ member ∈ members, Plain 1 member.2
  integral : ∀ member ∈ members, Integral member.2

/-- The members of a record may stand beside the type of an event if none of them has its name. -/
lemma isContent {σ : Type} {form : Form σ σ} (sound : form.IsSound 1) (integral : form.WritesIntegral)
    (untyped : "eventType" ∉ form.names) (record : σ) : IsContent (form.members record) := by
  refine ⟨fun member mem same => untyped ?_, sound.plain, integral.members record⟩
  rw [← same]
  exact (form.members_sublist record).subset (List.mem_map_of_mem mem)

/-- The members of an invocation and of a shutdown may stand beside the type. -/
lemma members_isContent (event : Event) : IsContent event.members := by
  cases event with
  | invoke invocation =>
    exact isContent Invocation.form_isSound Invocation.form_writesIntegral (by simp [Invocation.form]) _
  | shutdown details =>
    exact isContent Shutdown.form_isSound Shutdown.form_writesIntegral (by simp [Shutdown.form]) _

/-- The type of an event leads to the reader of its other members. -/
lemma readTagged_members (event : Event) :
    Codec.readTagged readers event.kind.name (.object event.members) = .ok event := by
  cases event with
  | invoke invocation =>
    have rereads : Invocation.codec.Rereads 2 := Invocation.codec_rereads
    have read : Invocation.codec.ofJson? (.object (Invocation.form.members invocation)) = some invocation :=
      rereads.ofJson? (by decide) (.refl _)
    have known : readers EventKind.invoke.name =
      some fun json => (Invocation.codec.ofJson? json).map .invoke := rfl
    simp only [Codec.readTagged, kind, members, known, Option.bind_some, read, Option.map_some]
  | shutdown details =>
    have rereads : Shutdown.codec.Rereads 1 := Shutdown.codec_rereads
    have read : Shutdown.codec.ofJson? (.object (Shutdown.form.members details)) = some details :=
      rereads.ofJson? (by decide) (.refl _)
    have known : readers EventKind.shutdown.name =
      some fun json => (Shutdown.codec.ofJson? json).map .shutdown := rfl
    simp only [Codec.readTagged, kind, members, known, Option.bind_some, read, Option.map_some]

/-- The members of an event, the one that tells its type first. -/
def written (event : Event) : List (String × Json) :=
  ("eventType", .string event.kind.name) :: event.members

/-- An event is read back from its members when the type comes first. -/
lemma read_written (event : Event) :
    codec.read nestingLimit (.object (memberNodes event.written) none) = .ok event := by
  obtain ⟨untyped, plain, -⟩ := event.members_isContent
  have taken : Codec.takeTag (nestingLimit - 1) "eventType" (fun tag => (readers tag).isSome) none
      (memberNodes event.written) = .ok (some event.kind.name, event.members) := by
    refine Codec.takeTag_cons_eq_ok_iff.mpr (.inl ⟨rfl, rfl, event.kind.name, rfl, ?_, ?_⟩)
    · cases event <;> rfl
    · exact Codec.takeTag_memberNodes (by decide) untyped plain
  exact Codec.tagged_read_object_iff.mpr ⟨by decide, rfl, _, _, taken, event.readTagged_members⟩

/-- Which of its members are known to the reader of an event does not depend on their order. -/
lemma readers_free {tag : String} {content : Json → Option Event} (known : readers tag = some content)
    {others others' : List (String × Json)} (perm : others.Perm others') :
    content (.object others) = content (.object others') := by
  unfold readers at known
  split at known
  · cases known
    exact congrArg (Option.map Event.invoke) (Codec.record_ofJson?_perm perm)
  · split at known
    · cases known
      exact congrArg (Option.map Event.shutdown) (Codec.record_ofJson?_perm perm)
    · cases known

/-- Which event is read, if any, does not depend on the order of the members. -/
lemma read_perm {nodes nodes' : List (Node × Node)} (perm : nodes.Perm nodes') :
    (codec.read nestingLimit (.object nodes none)).toOption =
      (codec.read nestingLimit (.object nodes' none)).toOption :=
  Codec.tagged_read_perm perm fun _ _ known _ _ => readers_free known

/-- An event is read from its members in any order. -/
lemma decode_written (event : Event) {members : List (String × Json)}
    (perm : members.Perm event.written) : codec.decode (Json.object members).toBytes = .ok event := by
  have integral : ∀ member ∈ members, Integral member.2 := by
    intro member mem
    rcases List.mem_cons.mp (perm.mem_iff.mp mem) with rfl | mem
    · exact .string _
    · exact event.members_isContent.integral member mem
  have same : (memberNodes members).Perm (memberNodes event.written) := by
    rw [memberNodes_eq, memberNodes_eq]
    exact perm.map _
  rw [(Integral.object integral).spells.decode_eq, ← toOption_eq_some_iff]
  refine (read_perm same).trans ?_
  rw [read_written]
  rfl

/-- An event is read back from its text. -/
lemma codec_roundTrips : codec.RoundTrips :=
  fun event => event.decode_written (.refl _)

end Event

/-! ## Subscriptions -/

/-- A class of records is written without numbers. -/
@[simp]
lemma RecordClass.codec_writesIntegral : RecordClass.codec.WritesIntegral :=
  Codec.choice_writesIntegral _ _

/-- A transport is read back from its name. -/
@[simp]
lemma Transport.codec_rereads : Transport.codec.Rereads levels :=
  Codec.choice_rereads fun value => by cases value; rfl

/-- A transport is written without numbers. -/
@[simp]
lemma Transport.codec_writesIntegral : Transport.codec.WritesIntegral :=
  Codec.choice_writesIntegral _ _

/-- A method of pushing is read back from its name. -/
@[simp]
lemma PushMethod.codec_rereads : PushMethod.codec.Rereads levels :=
  Codec.choice_rereads fun value => by cases value <;> rfl

/-- A method of pushing is never written as null, so it may be left out. -/
@[simp]
lemma PushMethod.codec_neverNull : PushMethod.codec.NeverNull := nofun

/-- A method of pushing is written without numbers. -/
@[simp]
lemma PushMethod.codec_writesIntegral : PushMethod.codec.WritesIntegral :=
  Codec.choice_writesIntegral _ _

/-- An encoding is read back from its name. -/
@[simp]
lemma PushEncoding.codec_rereads : PushEncoding.codec.Rereads levels :=
  Codec.choice_rereads fun value => by cases value; rfl

/-- An encoding is never written as null, so it may be left out. -/
@[simp]
lemma PushEncoding.codec_neverNull : PushEncoding.codec.NeverNull := nofun

/-- An encoding is written without numbers. -/
@[simp]
lemma PushEncoding.codec_writesIntegral : PushEncoding.codec.WritesIntegral :=
  Codec.choice_writesIntegral _ _

/-- Thresholds are read back, whichever of them are given. -/
@[simp]
lemma Buffering.codec_rereads : Buffering.codec.Rereads (levels + 1) :=
  .record (by simp [form]) fun _ => rfl

/-- Thresholds are never written as null, so they may be left out as a whole. -/
@[simp]
lemma Buffering.codec_neverNull : Buffering.codec.NeverNull := nofun

/-- Thresholds are integers of 32 bits. -/
@[simp]
lemma Buffering.codec_writesIntegral : Buffering.codec.WritesIntegral :=
  Codec.record_writesIntegral (by simp [form])

/-- The destination of a logs subscription is read back. -/
@[simp]
lemma LogsDestination.codec_rereads : LogsDestination.codec.Rereads (levels + 1) :=
  .record (by simp [form]) fun _ => rfl

/-- The destination of a logs subscription is written without numbers. -/
@[simp]
lemma LogsDestination.codec_writesIntegral : LogsDestination.codec.WritesIntegral :=
  Codec.record_writesIntegral (by simp [form])

/-- The destination of a telemetry subscription is read back. -/
@[simp]
lemma TelemetryDestination.codec_rereads : TelemetryDestination.codec.Rereads (levels + 1) :=
  .record (by simp [form]) fun _ => rfl

/-- The destination of a telemetry subscription is written without numbers. -/
@[simp]
lemma TelemetryDestination.codec_writesIntegral : TelemetryDestination.codec.WritesIntegral :=
  Codec.record_writesIntegral (by simp [form])

/-- A logs subscription is read back, with a second level for its parts. -/
lemma LogsSubscription.codec_rereads : LogsSubscription.codec.Rereads (levels + 2) :=
  .record (by simp [form]) fun _ => rfl

/-- A logs subscription is written with no numbers but its thresholds. -/
lemma LogsSubscription.codec_writesIntegral : LogsSubscription.codec.WritesIntegral :=
  Codec.record_writesIntegral (by simp [form])

/-- A telemetry subscription is read back, with a second level for its parts. -/
lemma TelemetrySubscription.codec_rereads : TelemetrySubscription.codec.Rereads (levels + 2) :=
  .record (by simp [form]) fun _ => rfl

/-- A telemetry subscription is written with no numbers but its thresholds. -/
lemma TelemetrySubscription.codec_writesIntegral : TelemetrySubscription.codec.WritesIntegral :=
  Codec.record_writesIntegral (by simp [form])

/-! ## The wire -/

/-- What holds of the types of the wire: the text that a value is written as is read as that value. -/
structure WireRoundTrips : Prop where
  event : Event.codec.RoundTrips
  invocation : Invocation.codec.RoundTrips
  shutdown : Shutdown.codec.RoundTrips
  registration : Registration.codec.RoundTrips
  trace : TraceHeader.codec.RoundTrips
  acknowledgement : Acknowledgement.codec.RoundTrips
  buffering : Buffering.codec.RoundTrips
  logsDestination : LogsDestination.codec.RoundTrips
  logsSubscription : LogsSubscription.codec.RoundTrips
  telemetryDestination : TelemetryDestination.codec.RoundTrips
  telemetrySubscription : TelemetrySubscription.codec.RoundTrips
  /-- An event is read wherever its type stands among its other members. -/
  typeAnywhere : ∀ (event : Event) {front back : List (String × Json)},
    front ++ back = event.members →
    Event.codec.decode
      (Json.object (front ++ ("eventType", .string event.kind.name) :: back)).toBytes = .ok event
  /-- Any text of an object is read to the same event, if to any, in whatever order its members come. -/
  anyOrder : ∀ {members members' : List (List UInt8)} {text text' : List UInt8},
    IsObject members text → IsObject members' text' → members.Perm members' →
    (Event.codec.decode text).toOption = (Event.codec.decode text').toOption

/-- No type of the wire opens more than two brackets. -/
lemma roundTrips_of_rereads {α : Type} {codec : Codec α} (h : codec.Rereads 2)
    (integral : codec.WritesIntegral) : codec.RoundTrips :=
  h.roundTrips (by decide) integral

/-- Every type of the wire is read back from its text, and an event wherever its type stands. -/
theorem wire_roundTrips : WireRoundTrips where
  event := Event.codec_roundTrips
  invocation := roundTrips_of_rereads Invocation.codec_rereads Invocation.codec_writesIntegral
  shutdown := roundTrips_of_rereads Shutdown.codec_rereads Shutdown.codec_writesIntegral
  registration := roundTrips_of_rereads Registration.codec_rereads Registration.codec_writesIntegral
  trace := roundTrips_of_rereads TraceHeader.codec_rereads TraceHeader.codec_writesIntegral
  acknowledgement :=
    roundTrips_of_rereads Acknowledgement.codec_rereads Acknowledgement.codec_writesIntegral
  buffering := roundTrips_of_rereads Buffering.codec_rereads Buffering.codec_writesIntegral
  logsDestination :=
    roundTrips_of_rereads LogsDestination.codec_rereads LogsDestination.codec_writesIntegral
  logsSubscription :=
    roundTrips_of_rereads LogsSubscription.codec_rereads LogsSubscription.codec_writesIntegral
  telemetryDestination :=
    roundTrips_of_rereads TelemetryDestination.codec_rereads TelemetryDestination.codec_writesIntegral
  telemetrySubscription :=
    roundTrips_of_rereads TelemetrySubscription.codec_rereads TelemetrySubscription.codec_writesIntegral
  typeAnywhere := by
    intro event front back beside
    refine event.decode_written ?_
    rw [Event.written, ← beside]
    exact List.perm_middle
  anyOrder := by
    intro members members' text text' object object' perm
    obtain ⟨nodes', spells'⟩ := object'.exists_spellsMembers
    obtain ⟨nodes, spells, same⟩ := List.perm_comp_forall₂ perm spells'
    rw [(object.spells spells).decode_eq, (object'.spells spells').decode_eq]
    exact Event.read_perm same

end Sidecar
