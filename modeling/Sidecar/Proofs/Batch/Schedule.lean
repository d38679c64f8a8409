import Sidecar.Proofs.Batch.Channel
import Sidecar.Proofs.Batch.Outcome

/-!
# Decoding under a schedule

Under every schedule, decoding is a run of changes of the channel, and there are two ways in which it
ends. Either it comes to its own end, with the outcome that the body has if nobody interferes, or the
channel refuses an event (`Channel.Refuses`), and then what has been sent is the beginning of what
would have been. `decodeBatch_outcome` says so of a batch, and the lemmas in front of it of every
part of decoding.
-/

namespace Sidecar

namespace Body

/-- The items that turns deliver. -/
def items : List Turn → List Item
  | [] => []
  | .deliver item _ :: turns => item :: items turns
  | .wait _ :: turns => items turns

end Body

namespace Channel

/-- A channel takes no event, and the error that its sender gets. -/
inductive Refuses (c : Channel ε) : DecodeError → Prop where
  | cancelled : c.cancelled = true → Refuses c .interrupted
  | closed : c.closed = true → c.cancelled = false → Refuses c .channelClosed

/-- An attempt to send has put the event on the channel, or the channel refuses it. -/
def SendEnds (c : Channel ε) (event : ε) (result : Except DecodeError Unit) (c' : Channel ε) : Prop :=
  ∃ marks, c.Changes marks c' ∧
    (result = .ok () ∧ sentIn marks = [event] ∨
      ∃ e, result = .error e ∧ c'.Refuses e ∧ sentIn marks = [])

/-- A channel that answers an offer at once has put the event on it, or refuses it. -/
lemma sendEnds_of_offer {c c' : Channel ε} {event : ε} {result : Except DecodeError Unit}
    (h : c.offer? event = some (result, c')) : c.SendEnds event result c' := by
  unfold offer? at h
  split at h
  · next cancelled =>
    cases h
    exact ⟨[], .refl, .inr ⟨_, rfl, .cancelled cancelled, rfl⟩⟩
  split at h
  · next cancelled closed =>
    cases h
    exact ⟨[], .refl, .inr ⟨_, rfl, .closed closed (Bool.not_eq_true _ ▸ cancelled), rfl⟩⟩
  split at h
  · next cancelled closed room =>
    cases h
    refine ⟨[.sent event], .put ?_ ?_ room .refl, .inl ⟨rfl, rfl⟩⟩
    · exact Bool.not_eq_true _ ▸ cancelled
    · exact Bool.not_eq_true _ ▸ closed
  · cases h

/-- What happens before an attempt to send does not count as sending. -/
lemma SendEnds.of_idles {c c₁ c' : Channel ε} {event : ε} {result : Except DecodeError Unit}
    (idles : c.Idles c₁) (h : c₁.SendEnds event result c') : c.SendEnds event result c' := by
  obtain ⟨marks, waiting, none⟩ := idles
  obtain ⟨marks', sending, ends⟩ := h
  refine ⟨marks ++ marks', waiting.trans sending, ?_⟩
  rw [sentIn_append, none]
  exact ends

/-- However long sending is blocked, it ends in one of the two ways. -/
lemma send_ends (c : Channel ε) (event : ε) (blockings : Blockings) :
    c.SendEnds event (c.send event blockings).1 (c.send event blockings).2.1 := by
  induction blockings generalizing c with
  | nil =>
    unfold send
    split
    · next answer => exact sendEnds_of_offer answer
    · -- nobody will ever make room: the attempt lasts until the cancellation
      exact ⟨[.cancelled], .cancel .refl, .inr ⟨_, rfl, .cancelled rfl, rfl⟩⟩
  | cons meanwhile blockings ih =>
    unfold send
    split
    · next answer => exact sendEnds_of_offer answer
    · exact .of_idles (afterAll_idles c meanwhile) (ih _)

/-- So has the attempt to send the event of an element, whatever happens before. -/
lemma post_ends (c : Channel ε) (event : ε) (interludes : Interludes) :
    c.SendEnds event (c.post event interludes).1 (c.post event interludes).2.1 :=
  .of_idles (afterAll_idles c _) (send_ends ..)

end Channel

open Channel

variable {ε : Type} {decode : List UInt8 → Except DecodeError ε} {c c₁ : Channel ε}
  {interludes interludes₁ : Interludes} {elements : List (List UInt8)} {scanner : Scanner}
  {sent consumed : Nat} {turns : List Body.Turn} {meanwhile : List Happening} {bytes : List UInt8}

/-! ## The steps of decoding -/

/-- An event that is sent leaves the other elements to be sent. -/
lemma sendElements_of_sent {raw : List UInt8} {event : ε} (hr : decode raw = .ok event)
    (hs : c.post event interludes = (.ok (), c₁, interludes₁)) :
    sendElements decode c interludes (raw :: elements) =
      sendElements decode c₁ interludes₁ elements := by
  simp only [sendElements, hr, hs]

/-- An event that is refused ends sending. -/
lemma sendElements_of_refused {raw : List UInt8} {event : ε} {e : DecodeError}
    (hr : decode raw = .ok event) (hs : c.post event interludes = (.error e, c₁, interludes₁)) :
    sendElements decode c interludes (raw :: elements) = (.error e, c₁, interludes₁) := by
  simp only [sendElements, hr, hs]

/-- Once cancelled, decoding takes no more of the body. -/
lemma decodeElements_of_cancelled (h : c.cancelled = true) :
    decodeElements decode scanner sent consumed c interludes turns =
      ⟨.error .interrupted, c, turns, consumed⟩ := by
  unfold decodeElements
  rw [if_pos h]

/-- Without a turn the body has ended. -/
lemma decodeElements_nil (h : c.cancelled = false) :
    decodeElements decode scanner sent consumed c interludes [] =
      ⟨match scanner.finish with
        | .ok () => .ok sent
        | .error problem => .error problem.error, c, [], consumed⟩ := by
  cases finish : scanner.finish <;> simp [decodeElements, h, finish]

/-- While the body is waited for, what happens happens to the channel alone. -/
lemma decodeElements_wait (h : c.cancelled = false) :
    decodeElements decode scanner sent consumed c interludes (.wait meanwhile :: turns) =
      decodeElements decode scanner sent consumed (c.afterAll meanwhile) interludes turns := by
  simp only [decodeElements, h, Bool.false_eq_true, if_false]

/-- A body that fails ends decoding. -/
lemma decodeElements_failure (h : c.cancelled = false) (cause : Failure) :
    decodeElements decode scanner sent consumed c interludes
        (.deliver (.failure cause) meanwhile :: turns) =
      ⟨.error (.body cause), c.afterAll meanwhile, turns, consumed + 1⟩ := by
  simp only [decodeElements, h, Bool.false_eq_true, if_false]

/-- A chunk whose elements cannot all be sent ends decoding with the reason. -/
lemma decodeElements_of_error {e : DecodeError} (h : c.cancelled = false)
    (hs : sendElements decode (c.afterAll meanwhile) interludes (scanner.push bytes).elements =
      (.error e, c₁, interludes₁)) :
    decodeElements decode scanner sent consumed c interludes
        (.deliver (.chunk bytes) meanwhile :: turns) = ⟨.error e, c₁, turns, consumed + 1⟩ := by
  simp only [decodeElements, h, hs, Bool.false_eq_true, if_false]

/-- A chunk that the scanner does not take whole ends decoding when its elements have been sent. -/
lemma decodeElements_of_problem {problem : Scanner.Problem} (h : c.cancelled = false)
    (hs : sendElements decode (c.afterAll meanwhile) interludes (scanner.push bytes).elements =
      (.ok (), c₁, interludes₁)) (hp : (scanner.push bytes).problem = some problem) :
    decodeElements decode scanner sent consumed c interludes
        (.deliver (.chunk bytes) meanwhile :: turns) =
      ⟨.error problem.error, c₁, turns, consumed + 1⟩ := by
  simp only [decodeElements, h, hs, hp, Bool.false_eq_true, if_false]

/-- A chunk with the closing bracket ends decoding well. -/
lemma decodeElements_of_closed (h : c.cancelled = false)
    (hs : sendElements decode (c.afterAll meanwhile) interludes (scanner.push bytes).elements =
      (.ok (), c₁, interludes₁)) (hc : (scanner.push bytes).scanner.state = .closed) :
    decodeElements decode scanner sent consumed c interludes
        (.deliver (.chunk bytes) meanwhile :: turns) =
      ⟨.ok (sent + (scanner.push bytes).elements.length), c₁, turns, consumed + 1⟩ := by
  simp only [decodeElements, h, hs, Scanner.problem_of_closed hc, Scanner.isClosed_iff.mpr hc,
    Bool.false_eq_true, if_false, if_true]

/-- After any other chunk decoding goes on, with what it has counted. -/
lemma decodeElements_of_open (h : c.cancelled = false)
    (hs : sendElements decode (c.afterAll meanwhile) interludes (scanner.push bytes).elements =
      (.ok (), c₁, interludes₁)) (hp : (scanner.push bytes).problem = none)
    (hc : (scanner.push bytes).scanner.state ≠ .closed) :
    decodeElements decode scanner sent consumed c interludes
        (.deliver (.chunk bytes) meanwhile :: turns) =
      decodeElements decode (scanner.push bytes).scanner
        (sent + (scanner.push bytes).elements.length) (consumed + 1) c₁ interludes₁ turns := by
  have notClosed : ¬ (scanner.push bytes).scanner.isClosed = true :=
    fun h => hc (Scanner.isClosed_iff.mp h)
  simp only [decodeElements, h, hs, hp, notClosed, Bool.false_eq_true, if_false]

/-! ## How decoding ends -/

/-- The elements of a chunk are sent up to the first that is no event or that the channel refuses. -/
lemma sendElements_outcome (decode : List UInt8 → Except DecodeError ε) (c : Channel ε)
    (interludes : Interludes) (elements : List (List UInt8)) :
    ∃ marks, c.Changes marks (sendElements decode c interludes elements).2.1 ∧
      ((sendElements decode c interludes elements).1 = .ok () ∧
          decodeAll decode elements = (sentIn marks, none) ∨
        (∃ e, (sendElements decode c interludes elements).1 = .error e ∧
          decodeAll decode elements = (sentIn marks, some e)) ∨
        ∃ e, (sendElements decode c interludes elements).1 = .error e ∧
          (sendElements decode c interludes elements).2.1.Refuses e ∧
          sentIn marks <+: (decodeAll decode elements).1) := by
  induction elements generalizing c interludes with
  | nil => exact ⟨[], .refl, .inl ⟨rfl, rfl⟩⟩
  | cons raw elements ih =>
    cases hr : decode raw with
    | error e =>
      have stops : sendElements decode c interludes (raw :: elements) = (.error e, c, interludes) := by
        simp only [sendElements, hr]
      rw [stops]
      exact ⟨[], .refl, .inr (.inl ⟨e, rfl, decodeAll_cons_of_error hr elements⟩)⟩
    | ok event =>
      obtain ⟨marks, sending, result⟩ := c.post_ends event interludes
      rcases hs : c.post event interludes with ⟨answer, c₁, interludes₁⟩
      rw [hs] at sending result
      dsimp only at sending result
      rw [decodeAll_cons_of_ok hr]
      rcases result with ⟨rfl, sent⟩ | ⟨e, rfl, refused, none⟩
      · -- the event is sent, and how the elements behind it end is how all end
        obtain ⟨marks', others, result'⟩ := ih c₁ interludes₁
        rw [sendElements_of_sent hr hs]
        refine ⟨marks ++ marks', sending.trans others, ?_⟩
        rw [sentIn_append, sent, List.singleton_append]
        rcases result' with ⟨done, all⟩ | ⟨e, failed, some⟩ | ⟨e, failed, refused, front⟩
        · exact .inl ⟨done, by rw [all]⟩
        · exact .inr (.inl ⟨e, failed, by rw [some]⟩)
        · exact .inr (.inr ⟨e, failed, refused, List.cons_prefix_cons.mpr ⟨rfl, front⟩⟩)
      · -- no other element is tried
        rw [sendElements_of_refused hr hs]
        exact ⟨marks, sending, .inr (.inr ⟨e, rfl, refused, none ▸ List.nil_prefix⟩)⟩

/-- How decoding ends that has sent some events: with an outcome that was to be expected, or because
the channel refuses an event. -/
def Decoded.Ends (d : Decoded ε) (events : List ε) (expected : Outcome ε) : Prop :=
  (events, d.result) = expected ∨
    ∃ e, d.result = .error e ∧ d.channel.Refuses e ∧ events <+: expected.1

namespace Decoded.Ends

variable {d : Decoded ε} {events : List ε} {expected : Outcome ε}

/-- In either case what has been sent is the beginning of what was to be expected. -/
lemma events_prefix (h : d.Ends events expected) : events <+: expected.1 := by
  rcases h with rfl | ⟨e, _, _, front⟩
  · exact List.prefix_rfl
  · exact front

/-- Success is never for want of a channel. -/
lemma of_ok {n : Nat} (h : d.Ends events expected) (ok : d.result = .ok n) :
    expected = (events, .ok n) := by
  rcases h with rfl | ⟨e, failed, _, _⟩
  · rw [ok]
  · rw [ok] at failed
    cases failed

/-- An error was to be expected, or it is the refusal of the channel. -/
lemma of_error {e : DecodeError} (h : d.Ends events expected) (error : d.result = .error e) :
    expected = (events, .error e) ∨ d.channel.Refuses e := by
  rcases h with rfl | ⟨e', failed, refused, _⟩
  · exact .inl (by rw [error])
  · rw [error] at failed
    cases failed
    exact .inr refused

end Decoded.Ends

/-- Decoding that started on the channel `c` has ended in one of these ways, by changes of it. -/
def Decoded.EndsFrom (c : Channel ε) (d : Decoded ε) (expected : Outcome ε) : Prop :=
  ∃ marks, c.Changes marks d.channel ∧ d.Ends (sentIn marks) expected

/-- What happens before decoding goes on does not count as decoding. -/
lemma Decoded.EndsFrom.of_idles {d : Decoded ε} {expected : Outcome ε} (idles : c.Idles c₁)
    (h : Decoded.EndsFrom c₁ d expected) : Decoded.EndsFrom c d expected := by
  obtain ⟨marks, waiting, none⟩ := idles
  obtain ⟨marks', decoding, ends⟩ := h
  refine ⟨marks ++ marks', waiting.trans decoding, ?_⟩
  rw [sentIn_append, none]
  exact ends

/-- Behind the events of a chunk the rest of the body has its own end. -/
lemma Decoded.EndsFrom.of_changes {d : Decoded ε} {expected : Outcome ε} {marks : List (Mark ε)}
    (sending : c.Changes marks c₁) (h : Decoded.EndsFrom c₁ d expected) :
    Decoded.EndsFrom c d (sentIn marks ++ expected.1, expected.2) := by
  obtain ⟨marks', decoding, ends⟩ := h
  refine ⟨marks ++ marks', sending.trans decoding, ?_⟩
  rw [sentIn_append]
  rcases ends with rfl | ⟨e, failed, refused, front⟩
  · exact .inl rfl
  · exact .inr ⟨e, failed, refused, (List.prefix_append_right_inj _).mpr front⟩

/-- On a channel that has been cancelled decoding may end as it does, whatever was to be expected. -/
lemma endsFrom_of_cancelled (h : c.cancelled = true) (expected : Outcome ε) :
    Decoded.EndsFrom c (decodeElements decode scanner sent consumed c interludes turns) expected := by
  rw [decodeElements_of_cancelled h]
  exact ⟨[], .refl, .inr ⟨_, rfl, .cancelled h, List.nil_prefix⟩⟩

/-- A chunk is decoded to the outcome of the body from there on, if the turns behind it are. -/
lemma decodeElements_chunk_ends (hn : c.cancelled = false)
    (rest : (scanner.push bytes).scanner.state ≠ .closed → ∀ sent consumed c interludes,
      Decoded.EndsFrom c
        (decodeElements decode (scanner.push bytes).scanner sent consumed c interludes turns)
        (decodeFrom decode (scanner.push bytes).scanner sent (Body.items turns)))
    (sent consumed : Nat) (interludes : Interludes) (meanwhile : List Happening) :
    Decoded.EndsFrom c
      (decodeElements decode scanner sent consumed c interludes
        (.deliver (.chunk bytes) meanwhile :: turns))
      (decodeFrom decode scanner sent (.chunk bytes :: Body.items turns)) := by
  refine .of_idles (afterAll_idles c meanwhile) ?_
  obtain ⟨marks, sending, result⟩ := sendElements_outcome decode (c.afterAll meanwhile)
    interludes (scanner.push bytes).elements
  rcases hs : sendElements decode (c.afterAll meanwhile) interludes
    (scanner.push bytes).elements with ⟨answer, c₁, interludes₁⟩
  rw [hs] at sending result
  dsimp only at sending result
  rw [decodeFrom_chunk]
  rcases result with ⟨rfl, all⟩ | ⟨e, rfl, some⟩ | ⟨e, rfl, refused, front⟩
  · -- all elements are sent, and what is behind them decides
    cases hp : (scanner.push bytes).problem with
    | some problem =>
      rw [decodeElements_of_problem hn hs hp, decodePending_of_problem all]
      exact ⟨marks, sending, .inl rfl⟩
    | none =>
      rw [decodePending_of_events all]
      by_cases hc : (scanner.push bytes).scanner.state = .closed
      · rw [decodeElements_of_closed hn hs hc, decodeFrom_of_closed hc, List.append_nil]
        exact ⟨marks, sending, .inl rfl⟩
      · rw [decodeElements_of_open hn hs hp hc]
        exact (rest hc _ _ c₁ interludes₁).of_changes sending
  · rw [decodeElements_of_error hn hs, decodePending_of_undecodable some]
    exact ⟨marks, sending, .inl rfl⟩
  · rw [decodeElements_of_error hn hs]
    exact ⟨marks, sending, .inr ⟨e, rfl, refused, front.trans (decodeAll_prefix_decodePending ..)⟩⟩

/-- Decoding the rest of a body has its outcome, unless the channel refuses an event. -/
lemma decodeElements_ends (decode : List UInt8 → Except DecodeError ε)
    (hopen : scanner.state ≠ .closed) (sent consumed : Nat) (c : Channel ε) (interludes : Interludes)
    (turns : List Body.Turn) :
    Decoded.EndsFrom c (decodeElements decode scanner sent consumed c interludes turns)
      (decodeFrom decode scanner sent (Body.items turns)) := by
  -- cancellation is looked at before each turn, and before the end of the body
  induction turns generalizing scanner sent consumed c interludes with
  | nil =>
    cases hn : c.cancelled with
    | true => exact endsFrom_of_cancelled hn _
    | false =>
      rw [decodeElements_nil hn, Body.items, decodeFrom_nil]
      exact ⟨[], .refl, .inl rfl⟩
  | cons turn turns ih =>
    cases hn : c.cancelled with
    | true => exact endsFrom_of_cancelled hn _
    | false =>
      cases turn with
      | wait meanwhile =>
        rw [decodeElements_wait hn]
        exact .of_idles (afterAll_idles c meanwhile) (ih hopen ..)
      | deliver item meanwhile =>
        cases item with
        | failure cause =>
          rw [decodeElements_failure hn, Body.items, decodeFrom_failure hopen]
          exact .of_idles (afterAll_idles c meanwhile) ⟨[], .refl, .inl rfl⟩
        | chunk bytes =>
          exact decodeElements_chunk_ends hn (fun hc sent consumed c interludes =>
            ih hc sent consumed c interludes) sent consumed interludes meanwhile

/-- Taking what is left of the body sends nothing and does not touch the result. -/
lemma drain_idles (d : Decoded ε) (turns : List Body.Turn) :
    (drain d turns).result = d.result ∧ d.channel.Idles (drain d turns).channel := by
  induction turns generalizing d with
  | nil => exact ⟨rfl, .refl⟩
  | cons turn turns ih =>
    cases turn with
    | wait meanwhile =>
      have waits := afterAll_idles d.channel meanwhile
      unfold drain
      dsimp only
      split
      · exact ⟨rfl, waits⟩
      · obtain ⟨result, drains⟩ := ih { d with channel := d.channel.afterAll meanwhile }
        exact ⟨result, waits.trans drains⟩
    | deliver item meanwhile =>
      have waits := afterAll_idles d.channel meanwhile
      cases item with
      | failure cause => exact ⟨rfl, waits⟩
      | chunk bytes =>
        obtain ⟨result, drains⟩ :=
          ih { d with channel := d.channel.afterAll meanwhile, consumed := d.consumed + 1 }
        exact ⟨result, waits.trans drains⟩

/-- Under every schedule a batch has the outcome of its body as a whole, or the channel refuses an
event; what is done to the channel after decoding has ended sends nothing. -/
lemma decodeBatch_outcome (decode : List UInt8 → Except DecodeError ε) (c : Channel ε)
    (interludes : Interludes) (turns : List Body.Turn) :
    ∃ (decoded : Decoded ε) (decoding draining : List (Mark ε)),
      c.Changes decoding decoded.channel ∧
      decoded.channel.Changes draining (decodeBatch decode c interludes turns).channel ∧
      sentIn draining = [] ∧
      (decodeBatch decode c interludes turns).result = decoded.result ∧
      decoded.Ends (sentIn decoding) (decodeWhole decode (Body.items turns)) := by
  have hopen : Scanner.initial.state ≠ .closed := Scanner.State.noConfusion
  obtain ⟨decoding, changes, ends⟩ := decodeElements_ends decode hopen 0 0 c interludes turns
  rw [← decodeWhole_eq] at ends
  unfold decodeBatch
  generalize decodeElements decode .initial 0 0 c interludes turns = decoded at changes ends
  refine ⟨decoded, decoding, ?_⟩
  dsimp only
  split
  · exact ⟨[], changes, .refl, rfl, rfl, ends⟩
  split
  · exact ⟨[], changes, .refl, rfl, rfl, ends⟩
  · obtain ⟨result, draining, changes', none⟩ := drain_idles decoded decoded.rest
    exact ⟨draining, changes, changes', none, result, ends⟩

end Sidecar
