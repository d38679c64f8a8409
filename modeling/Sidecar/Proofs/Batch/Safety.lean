import Sidecar.Proofs.Batch.Schedule

/-!
# Safety of decoding

Whatever happens around it, decoding a batch sends the events of the first elements and no others,
tells the truth about how it ended, and stays quiet after a cancellation. `Decoded.IsSafe` says what
this means, and `decodeBatch_isSafe` that it holds under every schedule. A decoder may itself answer that
it was interrupted or that the channel is closed. Those of the two streams never do, so for them these results
mean what they say (`Decoded.IsSafe.cancelledBetween`, `Decoded.IsSafe.closedFirst`).
-/

namespace Sidecar

open Channel

variable {ε : Type} {decode : List UInt8 → Except DecodeError ε} {c : Channel ε}

/-- The element behind those of the events is one to which the decoder itself gives this error. -/
def ElementFails (decode : List UInt8 → Except DecodeError ε) (elements : List (List UInt8))
    (events : List ε) (e : DecodeError) : Prop :=
  ∃ raw, elements[events.length]? = some raw ∧ decode raw = .error e

/-- What decoding a body promises, by the marks that it has left on the channel. -/
structure Decoded.IsSafe (d : Decoded ε) (decode : List UInt8 → Except DecodeError ε)
    (c : Channel ε) (items : List Body.Item) (marks : List (Mark ε)) : Prop where
  /-- Nothing that was sent is taken back: the marks come after those of before. -/
  history_eq : d.channel.history = c.history ++ marks
  /-- As long as nobody closes the channel, an event that was sent is on it until it is taken. -/
  buffer_eq : d.channel.closed = false →
    c.buffer ++ sentIn marks = takenIn marks ++ d.channel.buffer
  /-- The events sent are the decodings of the first elements, in their order. -/
  events_eq : ∃ k ≤ (Body.scanned items).elements.length,
    ((Body.scanned items).elements.take k).map decode = (sentIn marks).map .ok
  /-- Success means that all elements were sent and the closing bracket was seen. -/
  of_ok : ∀ n, d.result = .ok n →
    n = (sentIn marks).length ∧ n = (Body.scanned items).elements.length ∧
      (Body.scanned items).scanner.isClosed = true
  /-- After a cancellation nothing is sent. -/
  quiet : ∀ front back, c.CancelledBetween marks front back → sentIn back = []
  /-- Decoding is interrupted only by a cancellation, or if the decoder of an element says so. -/
  of_interrupted : d.result = .error .interrupted →
    (∃ front back, c.CancelledBetween marks front back) ∨
      ElementFails decode (Body.scanned items).elements (sentIn marks) .interrupted
  /-- The channel is found closed only if it was closed before any cancellation, or if the decoder of an
  element says so. -/
  of_channelClosed : d.result = .error .channelClosed →
    c.ClosedFirst marks ∨
      ElementFails decode (Body.scanned items).elements (sentIn marks) .channelClosed
  /-- A cancellation that comes before the last element is sent makes decoding fail. -/
  of_cancelled : ∀ front back, c.CancelledBetween marks front back →
    (sentIn front).length < (Body.scanned items).elements.length → ∃ e, d.result = .error e

/-- An error of the whole body that is not one of the array or the body is the decoder's own. -/
lemma elementFails_of_decodeWhole {items : List Body.Item} {events : List ε} {e : DecodeError}
    (h : decodeWhole decode items = (events, .error e))
    (array : ∀ finding, e ≠ .malformedArray finding) (body : ∀ cause, e ≠ .body cause) :
    ElementFails decode (Body.scanned items).elements events e := by
  have result : (decodeWhole decode items).2 = .error e := by rw [h]
  have sent : (decodeAll decode (Body.scanned items).elements).1 = events := congrArg Prod.fst h
  rcases decodeWhole_error result with undecodable | ⟨problem, rfl⟩ | ⟨cause, rfl⟩
  · rw [← sent]
    exact getElem?_of_decodeAll undecodable
  · exact absurd rfl (array _)
  · exact absurd rfl (body cause)

/-- Decoding a batch is safe under every schedule. -/
theorem decodeBatch_isSafe (decode : List UInt8 → Except DecodeError ε) (c : Channel ε)
    (interludes : Interludes) (turns : List Body.Turn) :
    ∃ marks, (decodeBatch decode c interludes turns).IsSafe decode c (Body.items turns) marks := by
  obtain ⟨decoded, decoding, draining, changes, changes', none, result, ends⟩ :=
    decodeBatch_outcome decode c interludes turns
  have all := changes.trans changes'
  have sent_eq : sentIn (decoding ++ draining) = sentIn decoding := by
    rw [sentIn_append, none, List.append_nil]
  refine ⟨decoding ++ draining, ?_⟩
  constructor
  case history_eq => exact all.history_eq
  case buffer_eq => exact all.buffer_eq
  case quiet => exact fun front back fired => all.quiet fired
  case events_eq =>
    obtain ⟨length, first⟩ := map_decode_take ends.events_prefix
    rw [sent_eq]
    exact ⟨_, length, first⟩
  case of_ok =>
    intro n ok
    rw [result] at ok
    have whole := ends.of_ok ok
    obtain ⟨events, elements, closed, _⟩ := decodeWhole_ok (congrArg Prod.snd whole)
    rw [whole] at events
    rw [sent_eq]
    exact ⟨events, elements, Scanner.isClosed_iff.mpr closed⟩
  case of_interrupted =>
    intro interrupted
    rw [result] at interrupted
    rcases ends.of_error interrupted with whole | refused
    · rw [sent_eq]
      exact .inr (elementFails_of_decodeWhole whole nofun nofun)
    · cases refused with
      | cancelled h =>
        obtain ⟨front, back, fired⟩ := changes.cancelledBetween h
        exact .inl ⟨front, back ++ draining, fired.append draining⟩
  case of_channelClosed =>
    intro channelClosed
    rw [result] at channelClosed
    rcases ends.of_error channelClosed with whole | refused
    · rw [sent_eq]
      exact .inr (elementFails_of_decodeWhole whole nofun nofun)
    · cases refused with
      | closed hc hn => exact .inl ((changes.closedFirst hc hn).append draining)
  case of_cancelled =>
    intro front back fired short
    rw [result]
    cases h : decoded.result with
    | error e => exact ⟨e, rfl⟩
    | ok n =>
      -- all elements have been sent, and all that is sent is sent before the cancellation
      have whole := ends.of_ok h
      obtain ⟨events, elements, _, _⟩ := decodeWhole_ok (congrArg Prod.snd whole)
      rw [whole] at events
      rw [← all.sentIn_eq_front fired, sent_eq, ← events, ← elements] at short
      exact absurd short (Nat.lt_irrefl n)

/-! ## Decoders that speak of elements only -/

/-- A decoder never says of an element that decoding was given up, or that nobody receives events. -/
structure SpeaksOfElements (decode : List UInt8 → Except DecodeError ε) : Prop where
  notInterrupted : ∀ raw, decode raw ≠ .error .interrupted
  notClosed : ∀ raw, decode raw ≠ .error .channelClosed

/-- The records of a stream are decoded by such a decoder. -/
lemma RecordFamily.speaksOfElements {ρ : Type} (family : RecordFamily ρ) :
    SpeaksOfElements family.decode := by
  have fails (raw : List UInt8) (e : DecodeError) (h : family.decode raw = .error e) :
      (∃ fault, e = .element fault) ∨ (∃ type, e = .unknownType type) ∨
        ∃ type fault, e = .record type fault := by
    unfold decode readRecord at h
    split at h
    · cases h
      exact .inl ⟨_, rfl⟩
    split at h
    · cases h
      exact .inr (.inl ⟨_, rfl⟩)
    split at h
    · cases h
    · cases h
      exact .inr (.inr ⟨_, _, rfl⟩)
  constructor
  · intro raw h
    rcases fails raw _ h with ⟨_, ⟨⟩⟩ | ⟨_, ⟨⟩⟩ | ⟨_, _, ⟨⟩⟩
  · intro raw h
    rcases fails raw _ h with ⟨_, ⟨⟩⟩ | ⟨_, ⟨⟩⟩ | ⟨_, _, ⟨⟩⟩

variable {d : Decoded ε} {items : List Body.Item} {marks : List (Mark ε)}

/-- With such a decoder, decoding is interrupted by a cancellation and by nothing else. -/
theorem Decoded.IsSafe.cancelledBetween (h : d.IsSafe decode c items marks)
    (speaks : SpeaksOfElements decode) (interrupted : d.result = .error .interrupted) :
    ∃ front back, c.CancelledBetween marks front back :=
  (h.of_interrupted interrupted).resolve_right fun ⟨raw, _, fails⟩ => speaks.notInterrupted raw fails

/-- With such a decoder, the channel is found closed only if it was closed before any cancellation. -/
theorem Decoded.IsSafe.closedFirst (h : d.IsSafe decode c items marks)
    (speaks : SpeaksOfElements decode) (closed : d.result = .error .channelClosed) :
    c.ClosedFirst marks :=
  (h.of_channelClosed closed).resolve_right fun ⟨raw, _, fails⟩ => speaks.notClosed raw fails

end Sidecar
