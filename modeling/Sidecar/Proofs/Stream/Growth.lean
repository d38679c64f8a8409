import Sidecar.Proofs.Json.Growth
import Sidecar.Proofs.Json.Printing
import Sidecar.Proofs.Stream.Classification

/-!
# Elements that grow

The platform may add members to its elements, and to the objects inside their records that are read as
records. An element that has been decoded is then decoded to the same event (`elements_ignoreGrowth`).
-/

namespace Sidecar

open Json

/-! ## Envelopes -/

namespace Envelope

variable {layout : Layout} {raw raw' : List UInt8} {envelope : Envelope} {name : String}
  {members grown added members' : List (String × Node)} {nodes : List Node}

/-- A member of an element is the same as before, or the record with more members in it. -/
inductive Grows (layout : Layout) : String × Node → String × Node → Prop where
  | same (member : String × Node) : Grows layout member member
  | record {node node' : Node} {value value' : Json} :
    node.keep (nestingLimit - 1) = .ok value →
    node'.keep (nestingLimit - 1) = .ok value' →
    layout.Extends value value' →
    Grows layout ("record", node) ("record", node')

/-- The second text is an object with the members of the first one, in whatever order, and with others that
an envelope does not have. In the record there may be more members wherever the layout has records. -/
inductive Extends (layout : Layout) (raw raw' : List UInt8) : Prop where
  | mk {nodes nodes' : List (Node × Node)} {members grown added members' : List (String × Node)} :
    Text.parse raw = ⟨.object nodes none, .ok ()⟩ → Named members nodes →
    Text.parse raw' = ⟨.object nodes' none, .ok ()⟩ → Named members' nodes' →
    List.Forall₂ (Grows layout) members grown →
    (grown ++ added).Perm members' →
    (∀ member ∈ added, member.1 ∉ form.names ∧ member.2.skip = .ok ()) →
    Extends layout raw raw'

/-- A member keeps its name. -/
lemma Grows.name_eq {member member' : String × Node} (grows : Grows layout member member') :
    member.1 = member'.1 := by
  cases grows <;> rfl

/-- Only the record grows. -/
lemma Grows.eq_of_ne {member member' : String × Node} (grows : Grows layout member member')
    (other : member.1 ≠ "record") : member = member' := by
  cases grows with
  | same => rfl
  | record => exact absurd rfl other

/-- Of each name the values have grown one by one. -/
lemma grows_valuesOf (grows : List.Forall₂ (Grows layout) members grown) (name : String) :
    List.Forall₂ (fun node node' => Grows layout (name, node) (name, node')) (valuesOf name members)
      (valuesOf name grown) := by
  induction grows with
  | nil => exact .nil
  | @cons member member' members grown first _ ih =>
    obtain ⟨key, node⟩ := member
    obtain ⟨key', node'⟩ := member'
    obtain rfl : key = key' := first.name_eq
    by_cases own : key = name
    · subst own
      rw [valuesOf_cons_own, valuesOf_cons_own]
      exact .cons first ih
    · rwa [valuesOf_cons_other own, valuesOf_cons_other own]

/-- Under another name than that of the record nothing has changed. -/
lemma valuesOf_grown (grows : List.Forall₂ (Grows layout) members grown) (other : name ≠ "record") :
    valuesOf name grown = valuesOf name members := by
  have same := (grows_valuesOf grows name).imp fun node node' grows =>
    congrArg Prod.snd (grows.eq_of_ne other)
  exact (List.forall₂_eq_eq_eq ▸ same : valuesOf name members = valuesOf name grown).symm

/-- A member that stands once of its name does so still, wherever it stands and whatever comes with it. -/
lemma valuesOf_of_perm (perm : (grown ++ added).Perm members') (known : name ∈ form.names)
    (unknown : ∀ member ∈ added, member.1 ∉ form.names) (values : valuesOf name grown = nodes)
    (short : nodes.length ≤ 1) : valuesOf name members' = nodes := by
  have none : valuesOf name added = [] := valuesOf_of_not_mem fun member mem same =>
    unknown member mem (same ▸ known)
  have same : (valuesOf name (grown ++ added)).Perm (valuesOf name members') := valuesOf_perm perm
  rw [valuesOf_append, none, List.append_nil, values] at same
  match nodes with
  | [] => exact List.nil_perm.mp same
  | [node] => exact (List.singleton_perm.mp same).symm
  | _ :: _ :: _ => exact absurd short (by simp)

/-- Other members than the record were there before. -/
lemma mem_of_mem_grown (grows : List.Forall₂ (Grows layout) members grown) {member : String × Node}
    (mem : member ∈ grown) (other : member.1 ≠ "record") : member ∈ members := by
  induction grows with
  | nil => cases mem
  | cons first _ ih =>
    rcases List.mem_cons.mp mem with rfl | mem
    · rw [← first.eq_of_ne (first.name_eq ▸ other)]
      exact List.mem_cons_self ..
    · exact List.mem_cons_of_mem _ (ih mem)

/-- The text that an object is printed as spells what its members do. -/
lemma Spells.of_integral {members : List (String × Json)} (integral : Integral (.object members))
    (fields : Fields (valuesOf "type" (withNodes members)) (valuesOf "time" (withNodes members))
      (valuesOf "record" (withNodes members)) envelope) :
    Spells (Json.object members).toBytes envelope :=
  .object integral.spells.parse_eq (named_memberNodes_iff.mpr rfl)
    (fun member mem _ => skip_withNodes member mem) fields

/-- An element that has grown spells the same envelope, but for what the record has been given. -/
lemma Spells.extends (spells : Spells raw envelope) (extended : Extends layout raw raw') :
    ∃ value value', layout.Extends value value' ∧ value.withoutDuplicates = envelope.record ∧
      Spells raw' { envelope with record := value'.withoutDuplicates } := by
  cases extended with
  | @mk _ _ members grown added members' parsed named parsed' named' grows perm more =>
  cases spells with
  | array listed => cases parsed.symm.trans listed
  | object read names skips fields =>
    cases parsed.symm.trans read
    obtain rfl := named.unique names
    have unknown := fun member mem => (more member mem).1
    have skips' : ∀ member ∈ members', member.1 ∉ form.names → member.2.skip = .ok () := by
      intro member mem other
      rcases List.mem_append.mp (perm.mem_iff.mpr mem) with earlier | later
      · have ne : member.1 ≠ "record" := fun same => other (by rw [same]; decide)
        exact skips member (mem_of_mem_grown grows earlier ne) other
      · exact (more member later).2
    obtain ⟨⟨type, typed, isType⟩, ⟨time, timed, isTime⟩, isRecord⟩ := fields
    have typed' : valuesOf "type" members' = [type] :=
      valuesOf_of_perm perm (by decide) unknown
        ((valuesOf_grown grows (by decide)).trans typed) (Nat.le_refl 1)
    have timed' : valuesOf "time" members' = [time] :=
      valuesOf_of_perm perm (by decide) unknown
        ((valuesOf_grown grows (by decide)).trans timed) (Nat.le_refl 1)
    have spells' (value' : Json) : (valuesOf "record" members' = [] ∧ value'.withoutDuplicates = .null ∨
        ∃ node, valuesOf "record" members' = [node] ∧ ∃ value, node.keep (nestingLimit - 1) = .ok value ∧
          value.withoutDuplicates = value'.withoutDuplicates) →
        Spells raw' { envelope with record := value'.withoutDuplicates } := fun record' =>
      .object parsed' named' skips' ⟨⟨type, typed', isType⟩, ⟨time, timed', isTime⟩, record'⟩
    -- without a record, or with the same one, nothing has been put into it
    have records := grows_valuesOf grows "record"
    rcases isRecord with ⟨absent, isNull⟩ | ⟨node, recorded, value, kept, isRecord⟩
    · rw [absent, List.forall₂_nil_left_iff] at records
      have absent' := valuesOf_of_perm perm (by decide) unknown records (Nat.zero_le 1)
      exact ⟨.null, .null, .refl layout .null, isNull.symm, spells' .null (.inl ⟨absent', rfl⟩)⟩
    · rw [recorded, List.forall₂_cons_left_iff] at records
      obtain ⟨node', _, grown, last, recorded'⟩ := records
      cases last
      have recorded' := valuesOf_of_perm perm (by decide) unknown recorded' (Nat.le_refl 1)
      cases grown with
      | same => exact ⟨value, value, .refl layout value, isRecord,
          spells' value (.inr ⟨node, recorded', value, kept, rfl⟩)⟩
      | @record _ _ earlier value' kept₁ kept' extended =>
        cases kept.symm.trans kept₁
        exact ⟨value, value', extended, isRecord,
          spells' value' (.inr ⟨node', recorded', value', kept', rfl⟩)⟩

end Envelope

namespace RecordFamily

variable {ρ : Type} {family : RecordFamily ρ} {types : List String} {readFrom : Json → ρ → Prop}
  {layout : ρ → Layout}

/-- An element that has been decoded is decoded to the same event after it has grown. -/
def IgnoresGrowth (family : RecordFamily ρ) (layout : ρ → Layout) : Prop :=
  ∀ raw raw' event, family.decode raw = .ok event →
    Envelope.Extends (layout event.record) raw raw' → family.decode raw' = .ok event

/-- A family whose records mind no growth decodes elements that have grown as before. -/
lemma IsSorted.ignoresGrowth (sorted : family.IsSorted types readFrom)
    (follows : ∀ {record value value'}, (layout record).Extends value value' →
      readFrom value.withoutDuplicates record → readFrom value'.withoutDuplicates record) :
    family.IgnoresGrowth layout := by
  intro raw raw' event decoded extended
  have ok_iff := (classifies_of_isSorted sorted).ok_iff
  obtain ⟨envelope, spells, time, kind, fits⟩ := (ok_iff raw event).mp decoded
  obtain ⟨value, value', grown, same, spells'⟩ := spells.extends extended
  rw [← same] at fits
  exact (ok_iff raw' event).mpr ⟨_, spells', time, kind, follows grown fits⟩

end RecordFamily

/-! ## Records -/

namespace Telemetry

/-- The parts of a record that are read as records: its metrics, its trace and its spans. -/
def part (metrics : Layout) : String → Layout
  | "metrics" => metrics
  | "tracing" => .flat TraceContext.form
  | "spans" => .list (.flat Span.form)
  | _ => .whole

/-- What the value of a record is read as. -/
def Record.layout : Record → Layout
  | .initStart _ => .flat InitStart.form
  | .initRuntimeDone _ => .record InitRuntimeDone.form.names (part .whole)
  | .initReport _ => .record InitReport.form.names (part (.flat InitMetrics.form))
  | .start _ => .record Start.form.names (part .whole)
  | .runtimeDone _ => .record RuntimeDone.form.names (part (.flat RuntimeMetrics.form))
  | .report _ => .record Report.form.names (part (.flat ReportMetrics.form))
  | .extension _ => .flat ExtensionRecord.form
  | .telemetrySubscription _ => .flat SubscriptionRecord.form
  | .logsDropped _ => .flat DroppedRecord.form
  | .functionLine _ | .extensionLine _ => .whole

/-- A span minds no members more. -/
@[simp]
lemma Span.follows : (Codec.record Span.form).Follows (.flat Span.form) :=
  Codec.follows_flat (by decide)

/-- The tracing of an invocation minds no members more. -/
@[simp]
lemma TraceContext.follows : (Codec.record TraceContext.form).Follows (.flat TraceContext.form) :=
  Codec.follows_flat (by decide)

/-- The metrics of an initialisation mind no members more. -/
@[simp]
lemma InitMetrics.follows : (Codec.record InitMetrics.form).Follows (.flat InitMetrics.form) :=
  Codec.follows_flat (by decide)

/-- The metrics of a runtime mind no members more. -/
@[simp]
lemma RuntimeMetrics.follows : (Codec.record RuntimeMetrics.form).Follows (.flat RuntimeMetrics.form) :=
  Codec.follows_flat (by decide)

/-- The metrics of an invocation mind no members more. -/
@[simp]
lemma ReportMetrics.follows : (Codec.record ReportMetrics.form).Follows (.flat ReportMetrics.form) :=
  Codec.follows_flat (by decide)

/-- Every record of the Telemetry API is read from a value that has grown as before. -/
lemma Record.readFrom_extends {record : Record} {value value' : Json}
    (extended : record.layout.Extends value value') (reads : ReadFrom value.withoutDuplicates record) :
    ReadFrom value'.withoutDuplicates record := by
  cases record with
  | initStart => exact (Codec.follows_flat (by decide)).ofJson? extended reads
  | initRuntimeDone =>
    have follows : InitRuntimeDone.form.Follows (part .whole) := by
      simp [InitRuntimeDone.form, spansField, part]
    exact (Codec.follows_record (by decide) follows).ofJson? extended reads
  | initReport =>
    have follows : InitReport.form.Follows (part (.flat InitMetrics.form)) := by
      simp [InitReport.form, spansField, part]
    exact (Codec.follows_record (by decide) follows).ofJson? extended reads
  | start =>
    have follows : Start.form.Follows (part .whole) := by simp [Start.form, part]
    exact (Codec.follows_record (by decide) follows).ofJson? extended reads
  | runtimeDone =>
    have follows : RuntimeDone.form.Follows (part (.flat RuntimeMetrics.form)) := by
      simp [RuntimeDone.form, spansField, part]
    exact (Codec.follows_record (by decide) follows).ofJson? extended reads
  | report =>
    have follows : Report.form.Follows (part (.flat ReportMetrics.form)) := by
      simp [Report.form, spansField, part]
    exact (Codec.follows_record (by decide) follows).ofJson? extended reads
  | extension => exact (Codec.follows_flat (by decide)).ofJson? extended reads
  | telemetrySubscription => exact (Codec.follows_flat (by decide)).ofJson? extended reads
  | logsDropped => exact (Codec.follows_flat (by decide)).ofJson? extended reads
  | functionLine | extensionLine => exact Codec.follows_whole.ofJson? extended reads

end Telemetry

namespace Logs

/-- The parts of a record that are read as records: its metrics and its trace. -/
def part : String → Layout
  | "metrics" => .flat ReportMetrics.form
  | "tracing" => .flat TraceHeader.form
  | _ => .whole

/-- What the value of a record is read as. -/
def Record.layout : Record → Layout
  | .start _ => .flat Start.form
  | .finish _ => .flat End.form
  | .report _ => .record Report.form.names part
  | .extension _ => .flat ExtensionRecord.form
  | .logsSubscription _ => .flat SubscriptionRecord.form
  | .logsDropped _ => .flat DroppedRecord.form
  | .runtimeDone _ => .flat RuntimeDone.form
  | .fault _ | .functionLine _ | .extensionLine _ => .whole

/-- In the Logs API the metrics of an invocation mind no members more. -/
@[simp]
lemma ReportMetrics.follows : (Codec.record ReportMetrics.form).Follows (.flat ReportMetrics.form) :=
  Codec.follows_flat (by decide)

/-- A trace header minds no members more. -/
@[simp]
lemma TraceHeader.follows : TraceHeader.codec.Follows (.flat TraceHeader.form) :=
  Codec.follows_flat (by decide)

/-- Every record of the Logs API is read from a value that has grown as before. -/
lemma Record.readFrom_extends {record : Record} {value value' : Json}
    (extended : record.layout.Extends value value') (reads : ReadFrom value.withoutDuplicates record) :
    ReadFrom value'.withoutDuplicates record := by
  cases record with
  | report =>
    have follows : Report.form.Follows part := by simp [Report.form, part]
    exact (Codec.follows_record (by decide) follows).ofJson? extended reads
  | start => exact (Codec.follows_flat (by decide)).ofJson? extended reads
  | finish => exact (Codec.follows_flat (by decide)).ofJson? extended reads
  | extension => exact (Codec.follows_flat (by decide)).ofJson? extended reads
  | logsSubscription => exact (Codec.follows_flat (by decide)).ofJson? extended reads
  | logsDropped => exact (Codec.follows_flat (by decide)).ofJson? extended reads
  | runtimeDone => exact (Codec.follows_flat (by decide)).ofJson? extended reads
  | fault | functionLine | extensionLine => exact Codec.follows_whole.ofJson? extended reads

end Logs

/-- Both streams decode elements that have grown as before. -/
theorem elements_ignoreGrowth : Telemetry.family.IgnoresGrowth Telemetry.Record.layout ∧
    Logs.family.IgnoresGrowth Logs.Record.layout :=
  ⟨Telemetry.isSorted.ignoresGrowth Telemetry.Record.readFrom_extends,
    Logs.isSorted.ignoresGrowth Logs.Record.readFrom_extends⟩

/-! ## A start with more to it -/

/-- A second after the start of 1970. -/
def firstSecond : Instant := ⟨1, 0, by decide⟩

/-- The start of an invocation. -/
def traceStart : Stamped Telemetry.Record where
  time := firstSecond
  record := .start ⟨"7", none, some ⟨none, "X-Amzn-Trace-Id", "Root=1"⟩⟩

def traceRecord : Json :=
  .object [("requestId", .string "7"),
    ("tracing", .object [("type", .string "X-Amzn-Trace-Id"), ("value", .string "Root=1")])]

/-- The start as the platform tells of it. -/
def traceElement : Json :=
  .object [("time", .string "1970-01-01T00:00:01Z"), ("type", .string "platform.start"),
    ("record", traceRecord)]

/-- The record with a member more, and one more in its trace. -/
def grownRecord : Json :=
  .object [("requestId", .string "7"), ("attempt", .ofInt 2),
    ("tracing", .object [("sampled", .array [.null]), ("type", .string "X-Amzn-Trace-Id"),
      ("value", .string "Root=1")])]

/-- The same start, told of in another order and with a member more. -/
def grownElement : Json :=
  .object [("region", .null), ("record", grownRecord), ("type", .string "platform.start"),
    ("time", .string "1970-01-01T00:00:01Z")]

lemma integral_traceElement : Integral traceElement := by
  refine .object ?_
  simp only [List.forall_mem_cons]
  refine ⟨.string _, .string _, .object ?_, nofun⟩
  simp only [List.forall_mem_cons]
  refine ⟨.string _, .object ?_, nofun⟩
  simp only [List.forall_mem_cons]
  exact ⟨.string _, .string _, nofun⟩

lemma integral_grownElement : Integral grownElement := by
  refine .object ?_
  simp only [List.forall_mem_cons]
  refine ⟨.null, .object ?_, .string _, .string _, nofun⟩
  simp only [List.forall_mem_cons]
  refine ⟨.string _, .integer ⟨by decide, by decide⟩, .object ?_, nofun⟩
  simp only [List.forall_mem_cons]
  exact ⟨.array (by simp [Integral.null]), .string _, .string _, nofun⟩

/-- The first element is decoded to the start that it tells of. -/
lemma decode_traceElement : Telemetry.family.decode traceElement.toBytes = .ok traceStart := by
  have spells : Envelope.Spells traceElement.toBytes ⟨"platform.start", traceStart.time, traceRecord⟩ :=
    .of_integral integral_traceElement
      ⟨⟨_, rfl, rfl⟩, ⟨_, rfl, _, rfl, by decide⟩, .inr ⟨_, rfl, _, rfl, rfl⟩⟩
  rw [RecordFamily.decode, Envelope.decode_eq_ok_iff.mpr spells]
  rfl

/-- The record has grown, and so has the tracing in it. -/
lemma grownRecord_extends : traceStart.record.layout.Extends traceRecord grownRecord := by
  have trace : (Layout.flat Telemetry.TraceContext.form).Extends
      (.object [("type", .string "X-Amzn-Trace-Id"), ("value", .string "Root=1")])
      (.object [("sampled", .array [.null]), ("type", .string "X-Amzn-Trace-Id"),
        ("value", .string "Root=1")]) :=
    .inr (.inr ⟨_, _, rfl, rfl, .insert (by decide) (.keep rfl (.keep rfl .nil))⟩)
  exact .inr (.inr ⟨_, _, rfl, rfl, .keep rfl (.insert (by decide) (.keep trace .nil))⟩)

/-- The second element has grown from the first one. -/
lemma grownElement_extends :
    Envelope.Extends traceStart.record.layout traceElement.toBytes grownElement.toBytes := by
  have grows : Envelope.Grows traceStart.record.layout ("record", traceRecord.toNode)
      ("record", grownRecord.toNode) := .record rfl rfl grownRecord_extends
  refine @Envelope.Extends.mk _ _ _ _ _ _ _ [("region", toNode .null)] _
    integral_traceElement.spells.parse_eq (named_memberNodes_iff.mpr rfl)
    integral_grownElement.spells.parse_eq (named_memberNodes_iff.mpr rfl)
    (.cons (.same _) (.cons (.same _) (.cons grows .nil))) ?perm ?added
  case perm => exact (List.reverse_perm _).symm
  case added => simp [skip_toNode, Envelope.form]

/-- So the second element is decoded to the same start. -/
theorem elements_ignoreGrowth_start :
    Telemetry.family.decode grownElement.toBytes = .ok traceStart :=
  elements_ignoreGrowth.1 _ _ traceStart decode_traceElement grownElement_extends

end Sidecar
