import Sidecar.Proofs.Batch.Outcome
import Sidecar.Receiver.System

/-!
# Pushes and their handlers

What a request that is pushed to a receiver comes to, said without its parts: the events of a `Push`
and the reply to it. A handler that is not cancelled gets there by its own steps and the pieces of
the body: `Handler.outcome` says at each point what is still to come, and every step keeps it
(`Moves.outcome`, `outcome_chunk`, `outcome_end`).
-/

namespace Sidecar

variable {ε : Type} {decode : List UInt8 → Except DecodeError ε}

/-! ## Pushes -/

/-- A request with the chunks of its body. -/
structure Push where
  method : String
  chunks : List (List UInt8)

/-- The status and the text of the answer to a batch. -/
def replyOf : Except DecodeError Nat → UInt16 × String
  | .ok _ => (200, "")
  | .error e => (500, e.message)

namespace Push

/-- The moves of the platform. The body of a request that is no batch is not asked for. -/
def moves (push : Push) : List (Receiver.Move ε) :=
  .request push.method ::
    if push.method = "POST" then
      push.chunks.map (fun bytes => .body (some (.chunk bytes))) ++ [.body none]
    else []

/-- The body scanned as one text. -/
def scanned (push : Push) : Scanner.Pushed :=
  Scanner.initial.push push.chunks.flatten

/-- The events of the elements in front of the first that is no event, and of the first byte that
cannot stand in an array. -/
def events (decode : List UInt8 → Except DecodeError ε) (push : Push) : List ε :=
  if push.method = "POST" then (decodeAll decode push.scanned.elements).1 else []

/-- The answer to a push. -/
def reply (decode : List UInt8 → Except DecodeError ε) (push : Push) : UInt16 × String :=
  if push.method = "POST" then replyOf (decodeWhole decode (push.chunks.map .chunk)).2
  else (400, (ReceiverError.methodNotAllowed push.method).message)

/-- The push is a batch, all of whose elements are events, up to the closing bracket. -/
structure IsWhole (decode : List UInt8 → Except DecodeError ε) (push : Push) : Prop where
  isPost : push.method = "POST"
  isArray : push.scanned.problem = none
  isClosed : push.scanned.scanner.isClosed = true
  decodes : ∀ raw ∈ push.scanned.elements, ∃ event, decode raw = .ok event

end Push

/-- The bytes of a body that comes in chunks are those of the chunks. -/
lemma readable_chunks (chunks : List (List UInt8)) :
    Body.readable (chunks.map .chunk) = chunks.flatten := by
  induction chunks with
  | nil => rfl
  | cons bytes chunks ih =>
    rw [List.map_cons, Body.readable, ih]
    rfl

/-- All elements can be decoded just if each of them is an event. -/
lemma decodeAll_eq_none_iff {elements : List (List UInt8)} :
    (decodeAll decode elements).2 = none ↔ ∀ raw ∈ elements, ∃ event, decode raw = .ok event := by
  induction elements with
  | nil => exact ⟨fun _ => nofun, fun _ => rfl⟩
  | cons raw elements ih =>
    rw [List.forall_mem_cons, ← ih]
    cases hr : decode raw with
    | error e =>
      rw [decodeAll_cons_of_error hr]
      exact ⟨nofun, fun ⟨⟨_, h⟩, _⟩ => nomatch h⟩
    | ok event =>
      rw [decodeAll_cons_of_ok hr]
      exact ⟨fun h => ⟨⟨event, rfl⟩, h⟩, fun h => h.2⟩

namespace Push

/-- The events of a batch are those that decoding its whole body gives. -/
lemma events_eq (push : Push) (h : push.method = "POST") :
    push.events decode = (decodeWhole decode (push.chunks.map .chunk)).1 := by
  simp only [events, h, if_true, decodeWhole, readable_chunks]
  rfl

/-- The answer is 200 for a whole batch and for nothing else. -/
lemma reply_ok_iff (push : Push) : (push.reply decode).1 = 200 ↔ push.IsWhole decode := by
  have whole : Body.scanned (push.chunks.map .chunk) = push.scanned := by
    rw [Body.scanned, readable_chunks]
    rfl
  constructor
  · intro h
    unfold reply at h
    split at h
    · next isPost =>
      cases hd : (decodeWhole decode (push.chunks.map .chunk)).2 with
      | error e =>
        rw [hd] at h
        cases h
      | ok n =>
        obtain ⟨_, _, closed, decodes⟩ := decodeWhole_ok hd
        rw [whole] at closed decodes
        exact ⟨isPost, Scanner.problem_of_closed closed, Scanner.isClosed_iff.mpr closed,
          decodeAll_eq_none_iff.mp decodes⟩
    · cases h
  · rintro ⟨isPost, isArray, isClosed, decodes⟩
    have undecodable := decodeAll_eq_none_iff.mpr decodes
    have finish := Scanner.finish_eq_ok_iff.mpr (Scanner.isClosed_iff.mp isClosed)
    unfold Push.scanned at undecodable isArray finish
    simp only [reply, isPost, if_true, decodeWhole, readable_chunks, undecodable, isArray, finish]
    rfl

end Push

/-! ## Handlers -/

namespace Handler

/-- What a handler that is not cancelled still comes to, with these chunks of the body ahead. -/
def outcome (decode : List UInt8 → Except DecodeError ε) (chunks : List (List UInt8)) :
    Handler ε → Outcome ε
  | .decoding d =>
    decodePending decode d.elements d.problem d.scanner d.sent (chunks.map .chunk)
  | .sending d event =>
    let later :=
      decodePending decode d.elements d.problem d.scanner (d.sent + 1) (chunks.map .chunk)
    (event :: later.1, later.2)
  | .draining result => ([], result)
  | .finished result => ([], result)

/-- A handler that has not answered its batch. -/
def IsBusy : Handler ε → Prop
  | .finished _ => False
  | _ => True

/-- A handler at its start comes to what decoding the whole body gives. -/
lemma outcome_initial (chunks : List (List UInt8)) :
    (initial : Handler ε).outcome decode chunks = decodeWhole decode (chunks.map .chunk) := by
  rw [decodeWhole_eq]
  exact decodePending_nil _ _ _

/-- What a handler that is not cancelled does by itself while somebody receives, and the event that it
sends. -/
inductive Moves (decode : List UInt8 → Except DecodeError ε) :
    Handler ε → Handler ε → Option ε → Prop where
  | undecodable {scanner : Scanner} {raw : List UInt8} {rest : List (List UInt8)}
    {problem : Option Scanner.Problem} {sent : Nat} {e : DecodeError} :
    decode raw = .error e →
    Moves decode (.decoding ⟨scanner, raw :: rest, problem, sent⟩) (.draining (.error e)) none
  | decoded {scanner : Scanner} {raw : List UInt8} {rest : List (List UInt8)}
    {problem : Option Scanner.Problem} {sent : Nat} {event : ε} :
    decode raw = .ok event →
    Moves decode (.decoding ⟨scanner, raw :: rest, problem, sent⟩)
      (.sending ⟨scanner, rest, problem, sent⟩ event) none
  | malformed {scanner : Scanner} {problem : Scanner.Problem} {sent : Nat} :
    Moves decode (.decoding ⟨scanner, [], some problem, sent⟩) (.draining (.error problem.error)) none
  | closed {scanner : Scanner} {sent : Nat} :
    scanner.isClosed = true →
    Moves decode (.decoding ⟨scanner, [], none, sent⟩) (.draining (.ok sent)) none
  | sent {scanner : Scanner} {rest : List (List UInt8)} {problem : Option Scanner.Problem}
    {sent : Nat} {event : ε} :
    Moves decode (.sending ⟨scanner, rest, problem, sent⟩ event)
      (.decoding ⟨scanner, rest, problem, sent + 1⟩) (some event)

/-- An event is sent only if there is room for it. -/
lemma moves_of_move? {handler handler' : Handler ε} {outlet : Outlet} {event : Option ε}
    (h : handler.move? decode false outlet = some (handler', event)) (receives : outlet ≠ .closed) :
    Moves decode handler handler' event ∧ (event.isSome → outlet = .free) := by
  cases handler with
  | decoding d =>
    obtain ⟨scanner, elements, problem, sent⟩ := d
    cases elements with
    | cons raw rest =>
      cases hr : decode raw with
      | error e =>
        simp only [move?, hr] at h
        cases h
        exact ⟨.undecodable hr, nofun⟩
      | ok event =>
        simp only [move?, hr] at h
        cases h
        exact ⟨.decoded hr, nofun⟩
    | nil =>
      cases problem with
      | some problem =>
        cases h
        exact ⟨.malformed, nofun⟩
      | none =>
        cases closed : scanner.isClosed with
        | true =>
          simp only [move?, closed, if_true] at h
          cases h
          exact ⟨.closed closed, nofun⟩
        | false =>
          simp only [move?, closed] at h
          cases h
  | sending d event =>
    cases outlet with
    | free =>
      cases h
      exact ⟨.sent, fun _ => rfl⟩
    | full => cases h
    | closed => contradiction
  | draining result => cases h
  | finished result => cases h

/-- The event that a step sends is the first of the outcome. -/
lemma Moves.outcome {handler handler' : Handler ε} {event : Option ε}
    (h : Moves decode handler handler' event) (chunks : List (List UInt8)) :
    handler.outcome decode chunks =
      (event.toList ++ (handler'.outcome decode chunks).1,
        (handler'.outcome decode chunks).2) := by
  cases h with
  | undecodable hr => exact decodePending_of_error hr ..
  | decoded hr => exact decodePending_of_ok hr ..
  | malformed => rfl
  | closed closed => exact decodeFrom_of_closed (Scanner.isClosed_iff.mp closed) ..
  | sent => rfl

/-- A handler that moves by itself has not answered yet. -/
lemma Moves.isBusy {handler handler' : Handler ε} {event : Option ε}
    (h : Moves decode handler handler' event) : handler'.IsBusy := by
  cases h <;> trivial

/-- A decoder waits for the body when it has dealt with all that it has of it. -/
lemma awaitsBody_iff {d : Decoder} :
    d.awaitsBody = true ↔ d.elements = [] ∧ d.problem = none ∧ d.scanner.isClosed = false := by
  simp [Decoder.awaitsBody, and_assoc]

/-- Only then does it take a piece of the body. -/
lemma accept_decoding {d : Decoder} {piece : Option Body.Item} {handler : Handler ε}
    (h : accept? false piece (.decoding d) = some handler) : d.elements = [] ∧ d.problem = none := by
  simp only [accept?, Bool.not_false, Bool.and_true] at h
  split at h
  · next awaits =>
    obtain ⟨elements, problem, _⟩ := awaitsBody_iff.mp awaits
    exact ⟨elements, problem⟩
  · cases h

/-- A chunk that is taken is no longer ahead, and changes nothing about what the handler comes to. -/
lemma outcome_chunk {handler handler' : Handler ε} {bytes : List UInt8}
    (h : handler.accept? false (some (.chunk bytes)) = some handler')
    (decode : List UInt8 → Except DecodeError ε) (chunks : List (List UInt8)) :
    handler.outcome decode (bytes :: chunks) = handler'.outcome decode chunks ∧
      handler'.IsBusy := by
  cases handler with
  | decoding d =>
    obtain ⟨elements, problem⟩ := accept_decoding h
    simp only [accept?] at h
    split at h
    · cases h
      refine ⟨?_, trivial⟩
      simp only [outcome, elements, problem, decodePending_nil, List.map_cons, decodeFrom_chunk]
    · cases h
  | sending d event => cases h
  | draining result =>
    cases h
    exact ⟨rfl, trivial⟩
  | finished result => cases h

/-- At the end of the body the handler has come to its result. -/
lemma outcome_end {handler handler' : Handler ε} (h : handler.accept? false none = some handler')
    (decode : List UInt8 → Except DecodeError ε) :
    ∃ result, handler' = .finished result ∧ handler.outcome decode [] = ([], result) := by
  cases handler with
  | decoding d =>
    obtain ⟨elements, problem⟩ := accept_decoding h
    simp only [accept?] at h
    split at h
    · simp only [outcome, elements, problem, decodePending_nil, List.map_nil, decodeFrom_nil]
      cases finish : d.scanner.finish with
      | ok _ =>
        rw [finish] at h
        cases h
        exact ⟨_, rfl, rfl⟩
      | error problem =>
        rw [finish] at h
        cases h
        exact ⟨_, rfl, rfl⟩
    · cases h
  | sending d event => cases h
  | draining result =>
    cases h
    exact ⟨result, rfl, rfl⟩
  | finished result => cases h

end Handler

end Sidecar
