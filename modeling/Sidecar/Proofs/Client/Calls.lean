import Sidecar.Client.Basic
import Sidecar.Proofs.Json.Fields

/-!
# What comes of a call

A call succeeds just if a response comes to it, with the expected status, that can be read. All other ways
that it ends are listed in `Call.Fails`; the error is the one of the list that applies (`Call.Outcomes`).
-/

namespace Sidecar

/-! ## Headers -/

/-- Two texts have the same bytes only if they are the same. -/
lemma Utf8.encode_injective : Function.Injective Utf8.encode := by
  intro text text' same
  have read := decode?_encode text
  rw [same, decode?_encode] at read
  exact (Option.some.inj read).symm

/-- Bytes below 128 are the characters of their numbers. -/
lemma Utf8.encode_ofList_ascii {bytes : List UInt8} (ascii : ∀ b ∈ bytes, b < 0x80) :
    encode (String.ofList (bytes.map fun b => Char.ofNat b.toNat)) = bytes := by
  have single : ∀ n < 0x80, String.utf8EncodeChar (Char.ofNat n) = [UInt8.ofNat n] := by decide
  rw [encode, String.toList_ofList]
  induction bytes with
  | nil => rfl
  | cons b bytes ih =>
    obtain ⟨first, others⟩ := List.forall_mem_cons.mp ascii
    rw [List.map_cons, List.flatMap_cons, ih others, single b.toNat first, UInt8.ofNat_toNat]
    rfl

namespace Response

variable {r : Response} {name value : String}

/-- A header of the response says a text: its bytes are those of the text, and all of them can be printed. -/
structure Says (r : Response) (name value : String) : Prop where
  given : r.headers.lookup name = some (Utf8.encode value)
  printable : ∀ b ∈ Utf8.encode value, b = 9 ∨ 0x20 ≤ b ∧ b < 0x7F

/-- The value of a header is what the response says under its name. -/
lemma header?_eq_some_iff : r.header? name = some value ↔ r.Says name value := by
  rw [header?, Option.map_eq_some_iff]
  have ascii {bytes : List UInt8} (printable : ∀ b ∈ bytes, b = 9 ∨ 0x20 ≤ b ∧ b < 0x7F) :
      ∀ b ∈ bytes, b < 0x80 := fun b mem => by
    rcases printable b mem with rfl | ⟨-, low⟩
    · decide
    · exact UInt8.lt_trans low (by decide)
  constructor
  · rintro ⟨bytes, found, rfl⟩
    obtain ⟨given, all⟩ := Option.filter_eq_some_iff.mp found
    have printable : ∀ b ∈ bytes, b = 9 ∨ 0x20 ≤ b ∧ b < 0x7F := by
      simpa only [List.all_eq_true, Bool.or_eq_true, Bool.and_eq_true, decide_eq_true_eq] using all
    have same := Utf8.encode_ofList_ascii (ascii printable)
    exact ⟨given.trans (congrArg some same.symm), same.symm ▸ printable⟩
  · rintro ⟨given, printable⟩
    refine ⟨Utf8.encode value, Option.filter_eq_some_iff.mpr ⟨given, ?_⟩,
      Utf8.encode_injective (Utf8.encode_ofList_ascii (ascii printable))⟩
    simpa only [List.all_eq_true, Bool.or_eq_true, Bool.and_eq_true, decide_eq_true_eq] using printable

/-- What a header says may be sent back in one. -/
lemma isHeaderChar_of_header? (h : r.header? name = some value) :
    value.toList.all Request.isHeaderChar = true := by
  have printable : ∀ n < 0x7F, n = 9 ∨ 0x20 ≤ n →
      Request.isHeaderChar (Char.ofNat n) = true := by decide
  obtain ⟨bytes, found, rfl⟩ := Option.map_eq_some_iff.mp h
  have all := List.all_eq_true.mp (Option.filter_eq_some_iff.mp found).2
  rw [String.toList_ofList, List.all_map, List.all_eq_true]
  intro b mem
  have := all b mem
  simp only [Bool.or_eq_true, Bool.and_eq_true, decide_eq_true_eq] at this
  refine printable b.toNat ?_ ?_
  · rcases this with rfl | ⟨_, lt⟩
    · decide
    · exact lt
  · rcases this with rfl | ⟨le, _⟩
    · exact .inl rfl
    · exact .inr le

end Response

/-! ## Rejections -/

namespace Rejection

/-- What stands for the type and the message tells why a call is turned down: two strings. -/
structure Fields (type details : List Json.Node) (rejection : Rejection) : Prop where
  type : ∃ node, type = [node] ∧ node.scalar = .ok (.string rejection.type)
  details : ∃ node, details = [node] ∧ node.scalar = .ok (.string rejection.details)

/-- The text spells a rejection: it is an object with the two fields, whatever else can be passed over in
it, or an array of them in this order. -/
inductive Spells (raw : List UInt8) (rejection : Rejection) : Prop where
  | object {nodes : List (Json.Node × Json.Node)} {members : List (String × Json.Node)} :
    Json.Text.parse raw = ⟨.object nodes none, .ok ()⟩ →
    Json.Named members nodes →
    (∀ member ∈ members, member.1 ∉ ["errorType", "errorMessage"] → member.2.skip = .ok ()) →
    Fields (Json.valuesOf "errorType" members) (Json.valuesOf "errorMessage" members) rejection →
    Spells raw rejection
  | array {type details : List Json.Node} :
    Json.Text.parse raw = ⟨.array (type ++ details) none, .ok ()⟩ →
    Fields type details rejection →
    Spells raw rejection

/-- A rejection is gathered from the values under its two names; its status is that of the response. -/
lemma gathers_form_iff {room : Nat} {status : UInt16} {members : List (String × Json.Node)}
    {rejection : Rejection} :
    (form status).Gathers room members rejection ↔ rejection.status = status ∧
      Fields (Json.valuesOf "errorType" members) (Json.valuesOf "errorMessage" members) rejection := by
  simp only [form, Json.Form.gathers_field Json.Codec.string rfl, Json.Form.gathers_make,
    Json.Codec.string_read_iff]
  constructor
  · rintro ⟨_, details, ⟨_, type, rfl, isType, rfl⟩, isDetails, rfl⟩
    exact ⟨rfl, isType, isDetails⟩
  · rintro ⟨rfl, isType, isDetails⟩
    exact ⟨_, rejection.details, ⟨_, rejection.type, rfl, isType, rfl⟩, isDetails, rfl⟩

/-- A rejection is also read from a list of its type and its message, the last perhaps left out. -/
lemma readItems_form_iff {room : Nat} {status : UInt16} {items : List Json.Node}
    {rejection : Rejection} :
    (form status).readItems room items none = .ok (rejection, []) ↔ rejection.status = status ∧
      ∃ type details, items = type ++ details ∧ Fields type details rejection := by
  simp only [form, Json.Form.readItems_field_iff, Json.Form.readItems_make_iff, Json.Codec.string_read_iff]
  constructor
  · rintro ⟨_, last, details, ⟨_, first, type, ⟨rfl, rfl⟩, isType, rfl⟩, isDetails, rfl⟩
    exact ⟨rfl, [first], [last], rfl, ⟨first, rfl, isType⟩, ⟨last, rfl, isDetails⟩⟩
  · rintro ⟨rfl, _, _, rfl, ⟨first, rfl, isType⟩, ⟨last, rfl, isDetails⟩⟩
    exact ⟨.mk rejection.status rejection.type, last, _, ⟨.mk rejection.status, first, _, ⟨rfl, rfl⟩,
      isType, rfl⟩, isDetails, rfl⟩

/-- The status is no part of the text. -/
lemma Spells.withStatus {raw : List UInt8} {rejection : Rejection} (h : rejection.Spells raw)
    (status : UInt16) : Spells raw { rejection with status } := by
  cases h with
  | object parsed named skips fields => exact .object parsed named skips ⟨fields.type, fields.details⟩
  | array parsed fields => exact .array parsed ⟨fields.type, fields.details⟩

/-- A rejection is read from the texts that spell it, with the status that the response has. -/
lemma decode_eq_ok_iff {status : UInt16} {raw : List UInt8} {rejection : Rejection} :
    (codec status).decode raw = .ok rejection ↔
      rejection.status = status ∧ rejection.Spells raw := by
  have once : (form status).names.Nodup := show ["errorType", "errorMessage"].Nodup by decide
  rw [codec, Json.Codec.record_decode_iff once]
  constructor
  · rintro (⟨nodes, members, parsed, named, skips, gathers⟩ | ⟨items, parsed, read⟩)
    · obtain ⟨same, fields⟩ := gathers_form_iff.mp gathers
      exact ⟨same, .object parsed named skips fields⟩
    · obtain ⟨same, type, details, rfl, fields⟩ := readItems_form_iff.mp read
      exact ⟨same, .array parsed fields⟩
  · rintro ⟨same, ⟨parsed, named, skips, fields⟩ | ⟨parsed, fields⟩⟩
    · exact .inl ⟨_, _, parsed, named, skips, gathers_form_iff.mpr ⟨same, fields⟩⟩
    · exact .inr ⟨_, parsed, readItems_form_iff.mpr ⟨same, _, _, rfl, fields⟩⟩

end Rejection

/-! ## Calls -/

namespace Call

variable {α : Type} {call : Call α} {stopped : Option Stop} {exchange : Exchange} {response : Response}
  {accepts : Response → α → Prop} {misreads : Response → CallError → Prop}

/-- Nothing is sent but the request of the call. -/
lemma sent_perform (call : Call α) (stopped : Option Stop) (exchange : Exchange) :
    (call.perform stopped exchange).2 = none ∨
      (call.perform stopped exchange).2 = some call.request := by
  unfold perform
  split
  · exact .inl rfl
  · split
    · exact .inr rfl
    · exact .inl rfl

/-- A call that succeeds has been sent. -/
lemma sent_of_ok {value : α} (h : (call.perform stopped exchange).1 = .ok value) :
    (call.perform stopped exchange).2 = some call.request := by
  unfold perform at h ⊢
  split at h
  · cases h
  · split at h
    · next sendable => simp [sendable]
    · cases h

/-- The request of the call is sent: its context goes on, and its headers can be written. -/
structure IsSent (call : Call α) (stopped : Option Stop) : Prop where
  goesOn : stopped = none
  sendable : call.request.isSendable = true

/-- A response comes to the call. -/
structure Receives (call : Call α) (stopped : Option Stop) (exchange : Exchange)
    (response : Response) : Prop extends call.IsSent stopped where
  answered : exchange = .answered response

/-- How a call fails. What is wrong with an expected answer depends on the call. -/
inductive Fails (call : Call α) (expected : UInt16) (misreads : Response → CallError → Prop)
    (stopped : Option Stop) (exchange : Exchange) : CallError → Prop where
  | stopped {stop : Stop} :
    stopped = some stop →
    Fails call expected misreads stopped exchange (.interrupted stop)
  | unwritable :
    stopped = none →
    call.request.isSendable = false →
    Fails call expected misreads stopped exchange .transport
  | lost :
    call.IsSent stopped →
    exchange = .lost →
    Fails call expected misreads stopped exchange .transport
  | abandoned {stop : Stop} :
    call.IsSent stopped →
    exchange = .abandoned stop →
    Fails call expected misreads stopped exchange (.interrupted stop)
  | rejected {response : Response} {rejection : Rejection} :
    call.Receives stopped exchange response →
    response.status ≠ expected →
    rejection.status = response.status →
    rejection.Spells (Utf8.encode (Utf8.lossy response.body)) →
    Fails call expected misreads stopped exchange (.rejected rejection)
  | unexpectedStatus {response : Response} :
    call.Receives stopped exchange response →
    response.status ≠ expected →
    (∀ rejection : Rejection, ¬rejection.Spells (Utf8.encode (Utf8.lossy response.body))) →
    Fails call expected misreads stopped exchange
      (.unexpectedStatus response.status (Utf8.lossy response.body))
  | misread {response : Response} {error : CallError} :
    call.Receives stopped exchange response →
    response.status = expected →
    misreads response error →
    Fails call expected misreads stopped exchange error

/-- Which result a call has, and whether its request is sent. -/
structure Outcomes (call : Call α) (expected : UInt16) (accepts : Response → α → Prop)
    (misreads : Response → CallError → Prop) (stopped : Option Stop) (exchange : Exchange) : Prop where
  ok_iff : ∀ value, (call.perform stopped exchange).1 = .ok value ↔
    ∃ response, call.Receives stopped exchange response ∧ response.status = expected ∧
      accepts response value
  error_iff : ∀ error, (call.perform stopped exchange).1 = .error error ↔
    call.Fails expected misreads stopped exchange error
  sent_iff : ∀ request, (call.perform stopped exchange).2 = some request ↔
    call.IsSent stopped ∧ request = call.request

/-- In a context that has stopped nothing is sent. -/
lemma perform_stopped (stop : Stop) :
    call.perform (some stop) exchange = (.error (.interrupted stop), none) := rfl

/-- A request that cannot be written is not sent. -/
lemma perform_unwritable (h : call.request.isSendable = false) :
    call.perform none exchange = (.error .transport, none) := by
  simp [perform, h]

/-- A call that is sent has the outcome of the exchange. -/
lemma perform_sent (sent : call.IsSent stopped) :
    call.perform stopped exchange = (call.result exchange, some call.request) := by
  simp [perform, sent.goesOn, sent.sendable]

/-- A refusal is the rejection that the body spells, or else tells the status and the body. -/
lemma refusal_eq_iff {error : CallError} : refusal response = error ↔
    (∃ rejection : Rejection, rejection.status = response.status ∧
      rejection.Spells (Utf8.encode (Utf8.lossy response.body)) ∧ error = .rejected rejection) ∨
    (∀ rejection : Rejection, ¬rejection.Spells (Utf8.encode (Utf8.lossy response.body))) ∧
      error = .unexpectedStatus response.status (Utf8.lossy response.body) := by
  rw [refusal]
  cases read : (Rejection.codec response.status).decode (Utf8.encode (Utf8.lossy response.body)) with
  | ok rejection =>
    obtain ⟨same, spells⟩ := Rejection.decode_eq_ok_iff.mp read
    constructor
    · rintro rfl
      exact .inl ⟨rejection, same, spells, rfl⟩
    · rintro (⟨rejection', same', spells', rfl⟩ | ⟨unspelt, -⟩)
      · rw [Rejection.decode_eq_ok_iff.mpr ⟨same', spells'⟩] at read
        exact congrArg _ (Except.ok.inj read).symm
      · exact absurd spells (unspelt rejection)
  | error fault =>
    -- The text does not spell the status, so a rejection with another one would do as well.
    have unspelt (rejection : Rejection) :
        ¬rejection.Spells (Utf8.encode (Utf8.lossy response.body)) := fun spells => by
      rw [Rejection.decode_eq_ok_iff.mpr ⟨rfl, spells.withStatus response.status⟩] at read
      cases read
    constructor
    · rintro rfl
      exact .inr ⟨unspelt, rfl⟩
    · rintro (⟨rejection, -, spells, -⟩ | ⟨-, rfl⟩)
      · exact absurd spells (unspelt rejection)
      · rfl

/-- A call succeeds just if its response has the expected status and can be read. -/
lemma result_answered_eq_ok_iff {value : α} :
    call.result (.answered response) = .ok value ↔
      response.status = call.expected ∧ call.read response = .ok value := by
  rw [result]
  split
  next expected => simp [expected]
  next other => simp [other]

/-- An answered call fails by what it cannot read of the expected response, or by another status. -/
lemma result_answered_eq_error_iff {error : CallError} :
    call.result (.answered response) = .error error ↔
      response.status = call.expected ∧ call.read response = .error error ∨
        response.status ≠ call.expected ∧ refusal response = error := by
  rw [result]
  split
  next expected => simp [expected]
  next other => simp [other]

/-- The errors of a call are the ones that are listed. -/
lemma error_iff (reads : ∀ response error, call.read response = .error error ↔ misreads response error)
    (error : CallError) :
    (call.perform stopped exchange).1 = .error error ↔
      call.Fails call.expected misreads stopped exchange error := by
  constructor
  · intro failed
    cases stopped with
    | some stop =>
      cases failed
      exact .stopped rfl
    | none =>
      cases sendable : call.request.isSendable with
      | false =>
        rw [perform_unwritable sendable] at failed
        cases failed
        exact .unwritable rfl sendable
      | true =>
        -- from here on the request is on its way, and the exchange decides
        have sent : call.IsSent none := ⟨rfl, sendable⟩
        rw [perform_sent sent] at failed
        cases exchange with
        | lost =>
          cases failed
          exact .lost sent rfl
        | abandoned stop =>
          cases failed
          exact .abandoned sent rfl
        | answered response =>
          have received : call.Receives none (.answered response) response := ⟨sent, rfl⟩
          rcases result_answered_eq_error_iff.mp failed with ⟨expected, misread⟩ | ⟨other, refused⟩
          · exact .misread received expected ((reads ..).mp misread)
          · rcases refusal_eq_iff.mp refused with ⟨rejection, same, spells, rfl⟩ | ⟨unspelt, rfl⟩
            · exact .rejected received other same spells
            · exact .unexpectedStatus received other unspelt
  · intro fails
    cases fails with
    | stopped isStopped => rw [isStopped, perform_stopped]
    | unwritable goesOn unsendable => rw [goesOn, perform_unwritable unsendable]
    | lost sent isLost => rw [perform_sent sent, isLost]; rfl
    | abandoned sent isAbandoned => rw [perform_sent sent, isAbandoned]; rfl
    | rejected received other same spells =>
      rw [perform_sent received.toIsSent, received.answered]
      exact result_answered_eq_error_iff.mpr
        (.inr ⟨other, refusal_eq_iff.mpr (.inl ⟨_, same, spells, rfl⟩)⟩)
    | unexpectedStatus received other unspelt =>
      rw [perform_sent received.toIsSent, received.answered]
      exact result_answered_eq_error_iff.mpr (.inr ⟨other, refusal_eq_iff.mpr (.inr ⟨unspelt, rfl⟩)⟩)
    | misread received expected misreads =>
      rw [perform_sent received.toIsSent, received.answered]
      exact result_answered_eq_error_iff.mpr (.inl ⟨expected, (reads ..).mpr misreads⟩)

/-- The request of a call is sent just if its context has not stopped and it can be written. -/
lemma sent_iff {request : Request} :
    (call.perform stopped exchange).2 = some request ↔ call.IsSent stopped ∧ request = call.request := by
  constructor
  · intro sent
    cases stopped with
    | some stop => cases sent
    | none =>
      cases sendable : call.request.isSendable with
      | false =>
        rw [perform_unwritable sendable] at sent
        cases sent
      | true =>
        rw [perform_sent ⟨rfl, sendable⟩] at sent
        exact ⟨⟨rfl, sendable⟩, (Option.some.inj sent).symm⟩
  · rintro ⟨sent, rfl⟩
    rw [perform_sent sent]

/-- A call succeeds on a response alone. -/
lemma ok_iff {value : α} : (call.perform stopped exchange).1 = .ok value ↔
    ∃ response, call.Receives stopped exchange response ∧ response.status = call.expected ∧
      call.read response = .ok value := by
  constructor
  · intro succeeded
    have sent := (sent_iff.mp (sent_of_ok succeeded)).1
    rw [perform_sent sent] at succeeded
    cases exchange with
    | answered response => exact ⟨response, ⟨sent, rfl⟩, result_answered_eq_ok_iff.mp succeeded⟩
    | lost | abandoned => cases succeeded
  · rintro ⟨response, ⟨sent, rfl⟩, reads⟩
    rw [perform_sent sent]
    exact result_answered_eq_ok_iff.mpr reads

/-- How a call ends follows from how it reads an expected answer. -/
lemma outcomes (reads : ∀ response value, call.read response = .ok value ↔ accepts response value)
    (fails : ∀ response error, call.read response = .error error ↔ misreads response error)
    (stopped : Option Stop) (exchange : Exchange) :
    call.Outcomes call.expected accepts misreads stopped exchange where
  ok_iff _ := by simp only [ok_iff, reads]
  error_iff := error_iff fails
  sent_iff _ := sent_iff

end Call

end Sidecar
