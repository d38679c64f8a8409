import Sidecar.Batch.Decoding
import Sidecar.Receiver.Error

/-!
# Handlers of batches

A handler decodes one batch, step by step. Between its steps other parts of the receiver take
theirs: the body of the batch arrives piece by piece, the channel is emptied or closed, decoding is
cancelled. `Handler.move?` is what a handler does by itself, `Handler.accept?` what it does with a
piece of the body.
-/

namespace Sidecar

/-- How far decoding a batch has come. -/
structure Decoder where
  scanner : Scanner
  /-- The elements of the last chunk that have not been decoded. -/
  elements : List (List UInt8)
  /-- The problem behind these elements. -/
  problem : Option Scanner.Problem
  sent : Nat

def Decoder.initial : Decoder := ⟨.initial, [], none, 0⟩

/-- Whether there is nothing to decode before the next piece of the body. -/
def Decoder.awaitsBody (d : Decoder) : Bool :=
  d.elements.isEmpty && d.problem.isNone && !d.scanner.isClosed

inductive Handler (ε : Type) where
  | decoding (decoder : Decoder)
  /-- Has decoded an event and sends it. -/
  | sending (decoder : Decoder) (event : ε)
  /-- Knows the result and takes what is left of the body. -/
  | draining (result : Except DecodeError Nat)
  | finished (result : Except DecodeError Nat)

/-- What a handler sees of the channel. -/
inductive Outlet where
  | free
  | full
  /-- Nobody receives any more. -/
  | closed
  deriving DecidableEq, Repr

namespace Handler

/-- A handler that has taken nothing of its batch. -/
def initial : Handler ε := .decoding .initial

/-- What a handler does by itself, and the event that it puts on the channel. Nothing while it waits
for the body or for room. -/
def move? (decode : List UInt8 → Except DecodeError ε) (isCancelled : Bool) (outlet : Outlet) :
    Handler ε → Option (Handler ε × Option ε)
  | .decoding d =>
    match d.elements with
    | raw :: rest =>
      match decode raw with
      | .error e => some (.draining (.error e), none)
      | .ok event => some (.sending { d with elements := rest } event, none)
    | [] =>
      match d.problem with
      | some problem => some (.draining (.error problem.error), none)
      | none =>
        if d.scanner.isClosed then some (.draining (.ok d.sent), none)
        else if isCancelled then some (.finished (.error .interrupted), none)
        else none
  | .sending d event =>
    if isCancelled then some (.finished (.error .interrupted), none)
    else match outlet with
      | .closed => some (.draining (.error .channelClosed), none)
      | .free => some (.decoding { d with sent := d.sent + 1 }, some event)
      | .full => none
  | .draining result => if isCancelled then some (.finished result, none) else none
  | .finished _ => none

/-- What a handler does with a piece of the body, or with its end. -/
def accept? (isCancelled : Bool) (piece : Option Body.Item) : Handler ε → Option (Handler ε)
  | .decoding d =>
    if d.awaitsBody && !isCancelled then
      match piece with
      | some (.chunk bytes) =>
        let pushed := d.scanner.push bytes
        some (.decoding ⟨pushed.scanner, pushed.elements, pushed.problem, d.sent⟩)
      | some (.failure cause) => some (.draining (.error (.body cause)))
      | none =>
        match d.scanner.finish with
        | .ok () => some (.finished (.ok d.sent))
        | .error problem => some (.finished (.error problem.error))
    else none
  | .draining result =>
    match piece with
    | some (.chunk _) => some (.draining result)
    | _ => some (.finished result)
  | _ => none

end Handler

end Sidecar
