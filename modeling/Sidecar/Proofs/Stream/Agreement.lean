import Sidecar.Proofs.Stream.Growth

/-!
# The streams agree

The Telemetry API and the Logs API have seven types in common, and the records of the Logs API say less. An
element of such a type that is decoded in the one stream is decoded in the other one too, to what it says
there (`Telemetry.Record.log?`), if its records are written as objects (`streams_agree`).

The two forms of a record are compared field by field (`Form.Covers`). Objects are needed for it: in an array
the place of an item says which field it belongs to, and the forms do not have the same places.
-/

namespace Sidecar

open Json

/-! ## Records that are written as objects -/

namespace Json

variable {σ σ' α β : Type} {room : Nat} {name : String} {layout : Layout}
  {members : List (String × Json)}

/-- Where the layout has records, the value has objects and no arrays. -/
def Layout.SpelledOut : Layout → Json → Prop
  | .list item, .array values => ∀ value ∈ values, item.SpelledOut value
  | .record _ _, .array _ => False
  | .record _ part, .object members => ∀ member ∈ members, (part member.1).SpelledOut member.2
  | _, _ => True

/-- What the first codec reads from a value with the layout, the second one reads with less to it. -/
def Layout.Agrees (layout : Layout) (codec : Codec α) (codec' : Codec β) (less : α → β) : Prop :=
  ∀ ⦃room value read⦄, layout.SpelledOut value → codec.read room value.toNode = .ok read →
    codec'.read room value.toNode = .ok (less read)

/-- A codec agrees with itself, whatever is spelled out. -/
lemma Layout.Agrees.refl (codec : Codec α) : layout.Agrees codec codec id := fun _ _ _ _ reads => reads

/-- Codecs that agree also do where their values may be left out. -/
lemma Layout.Agrees.optional {codec : Codec α} {codec' : Codec β} {less : α → β}
    (agrees : layout.Agrees codec codec' less) :
    layout.Agrees codec.optional codec'.optional (Option.map less) := by
  intro room value read spelled reads
  by_cases null : value = .null
  · subst null
    cases reads
    rfl
  · rw [Codec.optional_read_toNode null] at reads ⊢
    cases own : codec.read room value.toNode with
    | error => simp [own, Except.map] at reads
    | ok inner =>
      rw [own] at reads
      cases reads
      rw [agrees spelled own]
      rfl

/-- What one of two codecs that agree has read the other reads too, with less in it. -/
lemma Layout.Agrees.ofJson? {codec : Codec α} {codec' : Codec β} {less : α → β}
    (agrees : layout.Agrees codec codec' less) {value : Json} {read : α} (spelled : layout.SpelledOut value)
    (reads : codec.ofJson? value = some read) : codec'.ofJson? value = some (less read) :=
  toOption_eq_some_iff.mpr (agrees spelled (toOption_eq_some_iff.mp reads))

/-- Where a field gets a value, the field that shares its name gets less. -/
lemma Blank.Gets.agrees {field : Blank σ α} {field' : Blank σ' β} {less : α → β} {value : α}
    (gets : field.Gets room value (valuesOf name (withNodes members)))
    (spelled : ∀ member ∈ members, member.1 = name → layout.SpelledOut member.2)
    (agrees : layout.Agrees field.codec field'.codec less)
    (unmet : field'.met = none)
    (fallback : (field'.default <|> field'.codec.missing) =
      (field.met <|> field.default <|> field.codec.missing).map less) :
    field'.Gets room (less value) (valuesOf name (withNodes members)) := by
  have values : ∀ node ∈ valuesOf name (withNodes members), ∃ inner, layout.SpelledOut inner ∧
      node = inner.toNode := by
    intro node mem
    obtain ⟨⟨key, _⟩, found, rfl⟩ := List.mem_map.mp mem
    obtain ⟨found, own⟩ := List.mem_filter.mp found
    obtain ⟨member, here, same⟩ := List.mem_map.mp found
    cases same
    exact ⟨member.2, spelled member here (by simpa using own), rfl⟩
  generalize valuesOf name (withNodes members) = nodes at gets values ⊢
  match nodes with
  | [] =>
    show (field'.met <|> field'.default <|> field'.codec.missing) = _
    have read : (field.met <|> field.default <|> field.codec.missing) = some value := gets
    rw [unmet, fallback, read]
    rfl
  | [node] =>
    obtain ⟨inner, spelled, rfl⟩ := values node (List.mem_singleton_self node)
    exact ⟨unmet, agrees spelled gets.2⟩
  | _ :: _ :: _ => exact gets.elim

/-- The first form has all fields of the second one, in the same order, with values that say as much or more,
and what the two make of these values is related. -/
inductive Form.Covers (part : String → Layout) :
    {α β : Type} → Form σ α → Form σ' β → (α → β → Prop) → Prop where
  | make {α β : Type} {build : α} {build' : β} {rel : α → β → Prop} :
    rel build build' →
    Covers part (.make build) (.make build') rel
  /-- A field that only the first form has. -/
  | extra {α β γ : Type} {before : Form σ (γ → α)} {field : Blank σ γ} {form' : Form σ' β}
      {rel : α → β → Prop} :
    Covers part before form' (fun build made => ∀ value, rel (build value) made) →
    Covers part (before.blank field) form' rel
  /-- A field of the same name, with less to its value in the second form. -/
  | shared {α β γ δ : Type} {before : Form σ (γ → α)} {before' : Form σ' (δ → β)} {field : Blank σ γ}
      {field' : Blank σ' δ} {rel : α → β → Prop} {less : γ → δ} :
    Covers part before before' (fun build build' => ∀ value, rel (build value) (build' (less value))) →
    field.name = field'.name →
    (part field.name).Agrees field.codec field'.codec less →
    field'.met = none →
    (field'.default <|> field'.codec.missing) =
      (field.met <|> field.default <|> field.codec.missing).map less →
    Covers part (before.blank field) (before'.blank field') rel

namespace Form.Covers

variable {part : String → Layout} {form : Form σ α} {form' : Form σ' β} {rel : α → β → Prop}

/-- What a form gathers from members that are spelled out the form that it covers gathers from them too. -/
lemma gathers (covers : form.Covers part form' rel)
    (spelled : ∀ member ∈ members, (part member.1).SpelledOut member.2) {made : α}
    (gathers : form.Gathers room (withNodes members) made) :
    ∃ made', form'.Gathers room (withNodes members) made' ∧ rel made made' := by
  induction covers with
  | make related =>
    cases gathers
    exact ⟨_, rfl, related⟩
  | extra _ ih =>
    obtain ⟨build, value, first, -, rfl⟩ := gathers
    obtain ⟨made', first', related⟩ := ih first
    exact ⟨made', first', related value⟩
  | @shared _ _ _ _ _ _ field _ _ less _ name agrees unmet fallback ih =>
    obtain ⟨build, value, first, gets, rfl⟩ := gathers
    obtain ⟨build', first', related⟩ := ih first
    have spelled' : ∀ member ∈ members, member.1 = field.name →
        (part field.name).SpelledOut member.2 := fun member mem own => own ▸ spelled member mem
    have gets' := gets.agrees spelled' agrees unmet fallback
    exact ⟨build' (less value), ⟨build', less value, first', name ▸ gets', rfl⟩, related value⟩

/-! ### Fields that both forms have -/

section Fields

variable {γ δ : Type} {codec : Codec γ} {codec' : Codec δ} {less : γ → δ}

/-- A field covers one of the same name if their codecs agree. -/
lemma field_of_agrees {before : Form σ (γ → α)} {before' : Form σ' (δ → β)} {get : σ → γ} {get' : σ' → δ}
    (covers : before.Covers part before' fun build build' =>
      ∀ value, rel (build value) (build' (less value)))
    (agrees : (part name).Agrees codec codec' less) (missing : codec'.missing = codec.missing.map less) :
    (before.field name codec get).Covers part (before'.field name codec' get') rel :=
  .shared covers rfl agrees rfl missing

/-- A field covers the same field. -/
lemma field {before : Form σ (γ → α)} {before' : Form σ' (γ → β)} {get : σ → γ} {get' : σ' → γ}
    (covers : before.Covers part before' fun build build' =>
      ∀ value, rel (build value) (build' value)) :
    (before.field name codec get).Covers part (before'.field name codec get') rel :=
  field_of_agrees covers (.refl codec) (congrFun Option.map_id _).symm

/-- A field that may be left out covers one of the same name if their codecs agree. -/
lemma optional_of_agrees {before : Form σ (Option γ → α)} {before' : Form σ' (Option δ → β)}
    {get : σ → Option γ} {get' : σ' → Option δ}
    (covers : before.Covers part before' fun build build' =>
      ∀ value, rel (build value) (build' (value.map less)))
    (agrees : (part name).Agrees codec codec' less) :
    (before.optional name codec get).Covers part (before'.optional name codec' get') rel :=
  .shared covers rfl agrees.optional rfl rfl

/-- A field that may be left out covers the same field. -/
lemma optional {before : Form σ (Option γ → α)} {before' : Form σ' (Option γ → β)}
    {get : σ → Option γ} {get' : σ' → Option γ}
    (covers : before.Covers part before' fun build build' =>
      ∀ value, rel (build value) (build' value)) :
    (before.optional name codec get).Covers part (before'.optional name codec get') rel :=
  .shared covers rfl (.refl codec.optional) rfl rfl

end Fields

end Form.Covers

/-- The codecs of two records agree if the form of one covers that of the other. -/
lemma Form.Covers.record {part : String → Layout} {names : List String} {form : Form σ σ}
    {form' : Form σ' σ'} {less : σ → σ'}
    (covers : form.Covers part form' fun made made' => made' = less made)
    (once : form.names.Nodup) (once' : form'.names.Nodup) :
    (Layout.record names part).Agrees (.record form) (.record form') less := by
  intro room value record spelled reads
  cases value with
  | null | bool | number | string => cases reads
  | array => exact spelled.elim
  | object members =>
    rw [Codec.record_read_toNode_iff once] at reads
    rw [Codec.record_read_toNode_iff once']
    obtain ⟨_, gathers, rfl⟩ := covers.gathers spelled reads.2
    exact ⟨reads.1, gathers⟩

end Json

/-- A text spells one envelope at most. -/
lemma Envelope.Spells.unique {raw : List UInt8} {envelope envelope' : Envelope}
    (spells : envelope.Spells raw) (spells' : envelope'.Spells raw) : envelope = envelope' :=
  Except.ok.inj ((decode_eq_ok_iff.mpr spells).symm.trans (decode_eq_ok_iff.mpr spells'))

namespace Telemetry

/-- The trace as the Logs API has it. -/
def TraceContext.header (trace : TraceContext) : TraceHeader := ⟨trace.kind, trace.value⟩

/-- The metrics as the Logs API has them. -/
def ReportMetrics.log (metrics : ReportMetrics) : Logs.ReportMetrics where
  durationMs := metrics.durationMs
  billedDurationMs := metrics.billedDurationMs
  memorySizeMB := metrics.memorySizeMB
  maxMemoryUsedMB := metrics.maxMemoryUsedMB
  initDurationMs := metrics.initDurationMs

def Start.log (start : Start) : Logs.Start := ⟨start.requestId, start.version⟩

def RuntimeDone.log (done : RuntimeDone) : Logs.RuntimeDone := ⟨done.requestId, done.status⟩

def Report.log (report : Report) : Logs.Report where
  requestId := report.requestId
  metrics := report.metrics.log
  trace := report.trace.map TraceContext.header

/-- The record as the Logs API has it, if it has records of this type. -/
def Record.log? : Record → Option Logs.Record
  | .start content => some (.start content.log)
  | .runtimeDone content => some (.runtimeDone content.log)
  | .report content => some (.report content.log)
  | .extension content => some (.extension content)
  | .logsDropped content => some (.logsDropped content)
  | .functionLine line => some (.functionLine line)
  | .extensionLine line => some (.extensionLine line)
  | .initStart _ | .initRuntimeDone _ | .initReport _ | .telemetrySubscription _ => none

/-! ## Forms -/

variable {part : String → Layout}

/-- The start of an invocation says all that its namesake says. -/
lemma Start.covers : Start.form.Covers part Logs.Start.form fun made made' => made' = made.log :=
  .extra (.optional (.field (.make fun _ _ _ => rfl)))

/-- So does the record of a runtime that is done. -/
lemma RuntimeDone.covers :
    RuntimeDone.form.Covers part Logs.RuntimeDone.form fun made made' => made' = made.log :=
  .extra (.extra (.extra (.field (.field (.make fun _ _ _ _ _ => rfl)))))

/-- The tracing of an invocation says all that a trace header says. -/
lemma TraceContext.covers :
    TraceContext.form.Covers part TraceHeader.form fun made made' => made' = made.header :=
  .field (.field (.extra (.make fun _ _ _ => rfl)))

/-- The metrics of an invocation say all that their namesake says. -/
lemma ReportMetrics.covers :
    ReportMetrics.form.Covers part Logs.ReportMetrics.form fun made made' => made' = made.log :=
  .extra (.optional (.field (.field (.field (.field (.make fun _ _ _ _ _ _ => rfl))))))

/-- So does the report of an invocation. -/
lemma Report.covers : Report.form.Covers (Telemetry.part (.flat ReportMetrics.form)) Logs.Report.form
    fun made made' => made' = made.log := by
  have metricsAgree : (Layout.flat ReportMetrics.form).Agrees (.record ReportMetrics.form)
      (.record Logs.ReportMetrics.form) ReportMetrics.log :=
    ReportMetrics.covers.record (by decide) (by decide)
  have traceAgrees : (Layout.flat TraceContext.form).Agrees (.record TraceContext.form)
      TraceHeader.codec TraceContext.header :=
    TraceContext.covers.record (by decide) (by decide)
  exact .extra (.optional_of_agrees (.field_of_agrees (.extra (.field (.make fun _ _ _ _ _ => rfl)))
    metricsAgree rfl) traceAgrees)

/-! ## Records -/

/-- A record has a namesake in the Logs API just if that API has its type. -/
lemma Record.isSome_log?_iff {record : Record} : record.log?.isSome ↔ record.kind ∈ Logs.types := by
  cases record <;> simp [log?, kind, Logs.types]

/-- The namesake of a record has the same type. -/
lemma Record.kind_of_log? {record : Record} {log : Logs.Record} (less : record.log? = some log) :
    log.kind = record.kind := by
  cases record <;> cases less <;> rfl

/-- From a value that is spelled out the namesake of a record is read with what both say. -/
lemma Record.readFrom_log {record : Record} {log : Logs.Record} {value : Json}
    (less : record.log? = some log) (spelled : record.layout.SpelledOut value)
    (reads : ReadFrom value record) : Logs.Record.ReadFrom value log := by
  cases record with
  | start =>
    cases less
    exact (Start.covers.record (by decide) (by decide)).ofJson? spelled reads
  | runtimeDone =>
    cases less
    exact (RuntimeDone.covers.record (by decide) (by decide)).ofJson? spelled reads
  | report =>
    cases less
    exact (Report.covers.record (by decide) (by decide)).ofJson? spelled reads
  | extension | logsDropped | functionLine | extensionLine =>
    cases less
    exact reads
  | initStart | initRuntimeDone | initReport | telemetrySubscription => cases less

end Telemetry

/-- An element of a type that both streams have is decoded by the Logs API to the namesake of the event that
the Telemetry API decodes it to. -/
theorem streams_agree {raw : List UInt8} {envelope : Envelope} {event : Stamped Telemetry.Record}
    (spells : envelope.Spells raw) (spelled : event.record.layout.SpelledOut envelope.record)
    (decoded : Telemetry.family.decode raw = .ok event) (shared : event.record.kind ∈ Logs.types) :
    ∃ record, event.record.log? = some record ∧ record.kind = event.record.kind ∧
      Logs.family.decode raw = .ok ⟨event.time, record⟩ := by
  obtain ⟨record, less⟩ := Option.isSome_iff_exists.mp (Telemetry.Record.isSome_log?_iff.mpr shared)
  have kind_eq := Telemetry.Record.kind_of_log? less
  refine ⟨record, less, kind_eq, ?_⟩
  have ok_iff := (RecordFamily.classifies_of_isSorted Telemetry.isSorted).ok_iff
  have logs_ok_iff := (RecordFamily.classifies_of_isSorted Logs.isSorted).ok_iff
  obtain ⟨envelope', spells', time, kind, reads⟩ := (ok_iff raw event).mp decoded
  obtain rfl : envelope = envelope' := spells.unique spells'
  have logReads := Telemetry.Record.readFrom_log less spelled reads
  exact (logs_ok_iff raw _).mpr ⟨envelope, spells, time, kind_eq.trans kind, logReads⟩

/-- A report with what only the Telemetry API has: a status, a restore and a span of the trace. -/
def fullReport : Json :=
  .object [("requestId", .string "7"), ("status", .string "success"),
    ("metrics", .object [("durationMs", .ofInt 5), ("billedDurationMs", .ofInt 6),
      ("memorySizeMB", .ofInt 128), ("maxMemoryUsedMB", .ofInt 64), ("restoreDurationMs", .ofInt 1)]),
    ("tracing", .object [("spanId", .string "8"), ("type", .string "X-Amzn-Trace-Id"),
      ("value", .string "Root=1")])]

def reportElement : Json :=
  .object [("time", .string "1970-01-01T00:00:01Z"), ("type", .string "platform.report"),
    ("record", fullReport)]

def reportEnvelope : Envelope := ⟨"platform.report", firstSecond, fullReport⟩

def reportEvent : Stamped Telemetry.Record where
  time := firstSecond
  record := .report
    { requestId := "7"
      status := "success"
      metrics := ⟨.ofInt 5, .ofInt 6, 128, 64, none, some (.ofInt 1)⟩
      trace := some ⟨some "8", "X-Amzn-Trace-Id", "Root=1"⟩
      spans := [] }

lemma integral_reportElement : Integral reportElement := by
  have small (n : Fin 200) : Integral (.ofInt n) := .integer ⟨by omega, by omega⟩
  refine .object ?_
  simp only [List.forall_mem_cons]
  refine ⟨.string _, .string _, .object ?_, nofun⟩
  simp only [List.forall_mem_cons]
  refine ⟨.string _, .string _, .object ?_, .object ?_, nofun⟩
  · simp only [List.forall_mem_cons]
    exact ⟨small 5, small 6, small 128, small 64, small 1, nofun⟩
  · simp only [List.forall_mem_cons]
    exact ⟨.string _, .string _, .string _, nofun⟩

/-- The element spells the envelope of a report. -/
lemma reportElement_spells : reportEnvelope.Spells reportElement.toBytes :=
  .of_integral integral_reportElement
    ⟨⟨_, rfl, rfl⟩, ⟨_, rfl, _, rfl, by decide⟩, .inr ⟨_, rfl, _, rfl, rfl⟩⟩

/-- So the Logs API decodes it to the namesake of the report. -/
theorem streams_agree_report : ∃ record, reportEvent.record.log? = some record ∧
    record.kind = reportEvent.record.kind ∧
    Logs.family.decode reportElement.toBytes = .ok ⟨reportEvent.time, record⟩ := by
  refine streams_agree reportElement_spells ?spelled ?decoded (by decide)
  case spelled =>
    show ∀ member ∈ _, _
    simp only [List.forall_mem_cons]
    exact ⟨trivial, trivial, fun _ _ => trivial, fun _ _ => trivial, nofun⟩
  case decoded =>
    rw [RecordFamily.decode, Envelope.decode_eq_ok_iff.mpr reportElement_spells]
    rfl

end Sidecar
