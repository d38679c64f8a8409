import Sidecar.Proofs.Json.Rereading
import Sidecar.Proofs.Time.Reading
import Sidecar.Stream.Logs
import Sidecar.Stream.Telemetry

/-!
# Records are read back

A record of either stream is read back, by the type that it has, from what it is written as
(`Telemetry.readsBack`, `Logs.readsBack`). What there is to show of a kind of record follows from its form;
that its name leads to its own reader is looked up in the table of the stream.
-/

namespace Sidecar

open Json

variable {levels : Nat}

/-! ## Parts of records -/

/-- An instant is read back from its text. -/
@[simp]
lemma Instant.codec_rereads : Instant.codec.Rereads levels :=
  Codec.string_rereads.refine Instant.parse?_text

/-- A kind of event is read back from its name. -/
@[simp]
lemma EventKind.codec_rereads : EventKind.codec.Rereads levels :=
  Codec.choice_rereads fun value => by cases value <;> rfl

/-- A class of records is read back from its name. -/
@[simp]
lemma RecordClass.codec_rereads : RecordClass.codec.Rereads levels :=
  Codec.choice_rereads fun value => by cases value <;> rfl

/-- A trace header is read back, in one level. -/
@[simp]
lemma TraceHeader.codec_rereads : TraceHeader.codec.Rereads (levels + 1) :=
  .record (by simp [form]) fun _ => rfl

/-- A trace header is never written as null, so it may be left out. -/
@[simp]
lemma TraceHeader.codec_neverNull : TraceHeader.codec.NeverNull := nofun

/-! ## Records that both streams have -/

/-- The record of an extension is read back, with a level for the list of its events. -/
@[simp]
lemma ExtensionRecord.rereads : (Codec.record ExtensionRecord.form).Rereads (levels + 2) :=
  .record (by simp [form]) fun _ => rfl

/-- The record of a subscription is read back, with a level for the list of its types. -/
@[simp]
lemma SubscriptionRecord.rereads : (Codec.record SubscriptionRecord.form).Rereads (levels + 2) :=
  .record (by simp [form]) fun _ => rfl

/-- The record of what was dropped is read back. -/
@[simp]
lemma DroppedRecord.rereads : (Codec.record DroppedRecord.form).Rereads (levels + 1) :=
  .record (by simp [form]) fun _ => rfl

/-! ## Records of the Telemetry API -/

namespace Telemetry

/-- A span is read back. -/
@[simp]
lemma Span.rereads : (Codec.record Span.form).Rereads (levels + 1) :=
  .record (by simp [form]) fun _ => rfl

/-- The tracing of an invocation is read back, whichever of its parts are known. -/
@[simp]
lemma TraceContext.rereads : (Codec.record TraceContext.form).Rereads (levels + 1) :=
  .record (by simp [form]) fun _ => rfl

/-- The record of a start of initialisation is read back. -/
@[simp]
lemma InitStart.rereads : (Codec.record InitStart.form).Rereads (levels + 1) :=
  .record (by simp [form]) fun _ => rfl

/-- The record of an initialised runtime is read back, with levels for the list of its spans. -/
@[simp]
lemma InitRuntimeDone.rereads : (Codec.record InitRuntimeDone.form).Rereads (levels + 3) :=
  .record (by simp [form, spansField]) fun _ => rfl

/-- The metrics of an initialisation are read back. -/
@[simp]
lemma InitMetrics.rereads : (Codec.record InitMetrics.form).Rereads (levels + 1) :=
  .record (by simp [form]) fun _ => rfl

/-- The report of an initialisation is read back, with levels for its spans. -/
@[simp]
lemma InitReport.rereads : (Codec.record InitReport.form).Rereads (levels + 3) :=
  .record (by simp [form, spansField]) fun _ => rfl

/-- The record of the start of an invocation is read back, with a level for its tracing. -/
@[simp]
lemma Start.rereads : (Codec.record Start.form).Rereads (levels + 2) :=
  .record (by simp [form]) fun _ => rfl

/-- The metrics of a runtime are read back. -/
@[simp]
lemma RuntimeMetrics.rereads : (Codec.record RuntimeMetrics.form).Rereads (levels + 1) :=
  .record (by simp [form]) fun _ => rfl

/-- The record of a runtime that is done is read back, with levels for its spans. -/
@[simp]
lemma RuntimeDone.rereads : (Codec.record RuntimeDone.form).Rereads (levels + 3) :=
  .record (by simp [form, spansField]) fun _ => rfl

/-- The metrics of an invocation are read back, whichever of them are known. -/
@[simp]
lemma ReportMetrics.rereads : (Codec.record ReportMetrics.form).Rereads (levels + 1) :=
  .record (by simp [form]) fun _ => rfl

/-- The report of an invocation is read back, with levels for its spans. -/
@[simp]
lemma Report.rereads : (Codec.record Report.form).Rereads (levels + 3) :=
  .record (by simp [form, spansField]) fun _ => rfl

end Telemetry

/-! ## Records of the Logs API -/

namespace Logs

/-- In the Logs API the start of an invocation is read back, in one level. -/
@[simp]
lemma Start.rereads : (Codec.record Start.form).Rereads (levels + 1) :=
  .record (by simp [form]) fun _ => rfl

/-- In the Logs API the end of an invocation is read back. -/
@[simp]
lemma End.rereads : (Codec.record End.form).Rereads (levels + 1) :=
  .record (by simp [form]) fun _ => rfl

/-- In the Logs API the metrics of an invocation are read back. -/
@[simp]
lemma ReportMetrics.rereads : (Codec.record ReportMetrics.form).Rereads (levels + 1) :=
  .record (by simp [form]) fun _ => rfl

/-- In the Logs API the report of an invocation is read back, with a level for its metrics. -/
@[simp]
lemma Report.rereads : (Codec.record Report.form).Rereads (levels + 2) :=
  .record (by simp [form]) fun _ => rfl

/-- In the Logs API the record of a runtime that is done is read back, in one level. -/
@[simp]
lemma RuntimeDone.rereads : (Codec.record RuntimeDone.form).Rereads (levels + 1) :=
  .record (by simp [form]) fun _ => rfl

end Logs

/-! ## Streams -/

/-- The levels of brackets that a record of either stream opens at most. -/
def recordLevels : Nat := 3

namespace RecordFamily

variable {ρ σ : Type} {family : RecordFamily ρ}

/-- The record is written as a plain value, and read back by its type from all that is alike. -/
structure ReadsBack (family : RecordFamily ρ) (record : ρ) : Prop where
  plain : Plain recordLevels (family.write record)
  reads : ∀ {content}, Alike (family.write record) content →
    family.readRecord (family.kind record) content = .ok record

/-- A record is read back if its type leads to the reader of its content. -/
lemma readsBack_of_reader {codec : Codec σ} {make : σ → ρ} {content : σ}
    (h : codec.Rereads recordLevels)
    (found : family.reader (family.kind (make content)) =
      some fun json => (codec.ofJson? json).map make)
    (written : family.write (make content) = codec.write content) :
    family.ReadsBack (make content) := by
  constructor
  · rw [written]
    exact h.plain content
  · intro json alike
    rw [written] at alike
    have read := h.ofJson? (by decide) alike
    simp only [readRecord, found, read, Option.map_some]

end RecordFamily

/-- Every record of the Telemetry API is read back by the type that it is of. -/
lemma Telemetry.readsBack (record : Telemetry.Record) : Telemetry.family.ReadsBack record := by
  cases record with
  | initStart => exact RecordFamily.readsBack_of_reader InitStart.rereads rfl rfl
  | initRuntimeDone => exact RecordFamily.readsBack_of_reader InitRuntimeDone.rereads rfl rfl
  | initReport => exact RecordFamily.readsBack_of_reader InitReport.rereads rfl rfl
  | start => exact RecordFamily.readsBack_of_reader Start.rereads rfl rfl
  | runtimeDone => exact RecordFamily.readsBack_of_reader RuntimeDone.rereads rfl rfl
  | report => exact RecordFamily.readsBack_of_reader Report.rereads rfl rfl
  | extension => exact RecordFamily.readsBack_of_reader ExtensionRecord.rereads rfl rfl
  | telemetrySubscription => exact RecordFamily.readsBack_of_reader SubscriptionRecord.rereads rfl rfl
  | logsDropped => exact RecordFamily.readsBack_of_reader DroppedRecord.rereads rfl rfl
  | functionLine => exact RecordFamily.readsBack_of_reader Codec.string_rereads rfl rfl
  | extensionLine => exact RecordFamily.readsBack_of_reader Codec.string_rereads rfl rfl

/-- Every record of the Telemetry API is written with the type that it is of. -/
lemma Telemetry.tag_eq_kind (record : Telemetry.Record) :
    Telemetry.family.tag record = Telemetry.family.kind record := by
  cases record <;> rfl

/-- Every record of the Logs API is read back by the type that it is of. -/
lemma Logs.readsBack (record : Logs.Record) : Logs.family.ReadsBack record := by
  cases record with
  | start => exact RecordFamily.readsBack_of_reader Start.rereads rfl rfl
  | finish => exact RecordFamily.readsBack_of_reader End.rereads rfl rfl
  | report => exact RecordFamily.readsBack_of_reader Report.rereads rfl rfl
  | extension => exact RecordFamily.readsBack_of_reader ExtensionRecord.rereads rfl rfl
  | logsSubscription => exact RecordFamily.readsBack_of_reader SubscriptionRecord.rereads rfl rfl
  | logsDropped => exact RecordFamily.readsBack_of_reader DroppedRecord.rereads rfl rfl
  | fault => exact RecordFamily.readsBack_of_reader Codec.string_rereads rfl rfl
  | runtimeDone => exact RecordFamily.readsBack_of_reader RuntimeDone.rereads rfl rfl
  | functionLine => exact RecordFamily.readsBack_of_reader Codec.string_rereads rfl rfl
  | extensionLine => exact RecordFamily.readsBack_of_reader Codec.string_rereads rfl rfl

/-- Every record of the Logs API is written with the type that it is of. -/
lemma Logs.tag_eq_kind (record : Logs.Record) :
    Logs.family.tag record = Logs.family.kind record := by
  cases record <;> rfl

end Sidecar
