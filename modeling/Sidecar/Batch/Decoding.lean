import Sidecar.Batch.Scanner
import Sidecar.Stream.Element

/-!
# Decoding a batch

A batch arrives in chunks and is decoded element by element; each event goes onto a bounded channel,
from which a consumer takes it. All this while decoding may be cancelled, the channel closed and the
events read. What happens around the decoder is given as a schedule: the turns of the body, and what
happens from the decoding of an element until its event is sent. `decodeBatch` says for every schedule
how decoding ends, what is on the channel then, and how much of the body has been taken.
-/

namespace Sidecar

inductive Body.Item where
  | chunk (bytes : List UInt8)
  | failure (cause : Failure)
  deriving DecidableEq, Repr

/-- Something that happens beside the decoder. -/
inductive Happening where
  | read
  /-- The consumer goes away, with all events that it has not taken. -/
  | close
  | cancel
  deriving DecidableEq, Repr

/-- What the body does when the decoder asks for the next piece. -/
inductive Body.Turn where
  /-- A piece is there; as it is handed over, things happen. -/
  | deliver (item : Body.Item) (meanwhile : List Happening)
  /-- The decoder has to wait, and things happen. -/
  | wait (meanwhile : List Happening)
  deriving DecidableEq, Repr

/-- What has happened on a channel. -/
inductive Channel.Mark (ε : Type) where
  | sent (event : ε)
  | taken (event : ε)
  | closed
  | cancelled
  deriving DecidableEq, Repr

/-- A bounded channel and the cancellation of those who send on it. -/
structure Channel (ε : Type) where
  capacity : Nat
  /-- The events sent and not yet taken, the oldest first. -/
  buffer : List ε
  closed : Bool
  cancelled : Bool
  /-- All that has happened, the oldest first. -/
  history : List (Channel.Mark ε)

namespace Channel

def empty (capacity : Nat) : Channel ε := ⟨capacity, [], false, false, []⟩

def sent (c : Channel ε) : List ε :=
  c.history.filterMap fun
    | .sent event => some event
    | _ => none

def taken (c : Channel ε) : List ε :=
  c.history.filterMap fun
    | .taken event => some event
    | _ => none

def note (c : Channel ε) (m : Mark ε) : Channel ε :=
  { c with history := c.history ++ [m] }

def after (c : Channel ε) : Happening → Channel ε
  | .read =>
    match c.buffer with
    | [] => c
    | event :: rest => { c with buffer := rest }.note (.taken event)
  | .close => { c with buffer := [], closed := true }.note .closed
  | .cancel => { c with cancelled := true }.note .cancelled

def afterAll (c : Channel ε) (happenings : List Happening) : Channel ε :=
  happenings.foldl after c

def put (c : Channel ε) (event : ε) : Channel ε :=
  { c with buffer := c.buffer ++ [event] }.note (.sent event)

end Channel

/-- What happens while the decoder is blocked on a full channel, each time that it is. When the list
is at its end, decoding is cancelled. -/
abbrev Blockings := List (List Happening)

/-- Tries to send an event. There is no answer while the channel is full. -/
def Channel.offer? (c : Channel ε) (event : ε) : Option (Except DecodeError Unit × Channel ε) :=
  if c.cancelled then some (.error .interrupted, c)
  else if c.closed then some (.error .channelClosed, c)
  else if c.buffer.length < c.capacity then some (.ok (), c.put event)
  else none

/-- Sends an event: waits for room, until decoding is cancelled or the channel closed. -/
def Channel.send (c : Channel ε) (event : ε) :
    Blockings → Except DecodeError Unit × Channel ε × Blockings
  | [] =>
    match c.offer? event with
    | some (result, c) => (result, c, [])
    -- nobody makes room any more, so the decoder can only be cancelled
    | none => (.error .interrupted, c.after .cancel, [])
  | meanwhile :: blockings =>
    match c.offer? event with
    | some (result, c) => (result, c, meanwhile :: blockings)
    | none => (c.afterAll meanwhile).send event blockings

/-- What happens while events are sent. -/
structure Interludes where
  /-- What happens between the decoding of an element and the sending of its event, element by element.
  Behind the end of the list nothing happens. -/
  pauses : List (List Happening) := []
  blockings : Blockings

instance : Coe Blockings Interludes where
  coe blockings := { blockings }

/-- Sends the event of an element that has been decoded. What happens before is noticed, as cancellation
and the channel are looked at only now. -/
def Channel.post (c : Channel ε) (event : ε) (interludes : Interludes) :
    Except DecodeError Unit × Channel ε × Interludes :=
  let (result, c, blockings) :=
    (c.afterAll (interludes.pauses.headD [])).send event interludes.blockings
  (result, c, ⟨interludes.pauses.tail, blockings⟩)

/-- Decodes the elements of a chunk one after the other and sends the events. An element decoded
after cancellation is dropped. -/
def sendElements (decode : List UInt8 → Except DecodeError ε) (c : Channel ε)
    (interludes : Interludes) :
    List (List UInt8) → Except DecodeError Unit × Channel ε × Interludes
  | [] => (.ok (), c, interludes)
  | raw :: rest =>
    match decode raw with
    | .error e => (.error e, c, interludes)
    | .ok event =>
      match c.post event interludes with
      | (.ok (), c, interludes) => sendElements decode c interludes rest
      | stopped => stopped

structure Decoded (ε : Type) where
  /-- The number of events sent, or what went wrong. -/
  result : Except DecodeError Nat
  channel : Channel ε
  /-- The turns of the body that have not been reached. -/
  rest : List Body.Turn
  /-- The number of pieces taken from the body. -/
  consumed : Nat

def Scanner.Problem.error (p : Scanner.Problem) : DecodeError := .malformedArray p.text

/-- Decodes the body up to the closing bracket or the first problem. Before each piece cancellation
is looked at. The elements in front of a problem in a chunk are decoded before it counts. -/
def decodeElements (decode : List UInt8 → Except DecodeError ε) (scanner : Scanner)
    (sent consumed : Nat) (c : Channel ε) (interludes : Interludes) (turns : List Body.Turn) :
    Decoded ε :=
  if c.cancelled then ⟨.error .interrupted, c, turns, consumed⟩
  else match turns with
    | [] =>
      let result := match scanner.finish with
        | .ok () => .ok sent
        | .error problem => .error problem.error
      ⟨result, c, [], consumed⟩
    | .wait meanwhile :: turns =>
      decodeElements decode scanner sent consumed (c.afterAll meanwhile) interludes turns
    | .deliver (.failure cause) meanwhile :: turns =>
      ⟨.error (.body cause), c.afterAll meanwhile, turns, consumed + 1⟩
    | .deliver (.chunk bytes) meanwhile :: turns =>
      let pushed := scanner.push bytes
      match sendElements decode (c.afterAll meanwhile) interludes pushed.elements with
      | (.error e, c, _) => ⟨.error e, c, turns, consumed + 1⟩
      | (.ok (), c, interludes) =>
        match pushed.problem with
        | some problem => ⟨.error problem.error, c, turns, consumed + 1⟩
        | none =>
          let sent := sent + pushed.elements.length
          if pushed.scanner.isClosed then ⟨.ok sent, c, turns, consumed + 1⟩
          else decodeElements decode pushed.scanner sent (consumed + 1) c interludes turns

/-- Takes the pieces that are left, up to the end of the body or the first failure. Cancellation is
looked at only where the body has to be waited for. -/
def drain (d : Decoded ε) : List Body.Turn → Decoded ε
  | [] => { d with rest := [] }
  | .wait meanwhile :: turns =>
    let c := d.channel.afterAll meanwhile
    if c.cancelled then { d with channel := c, rest := turns }
    else drain { d with channel := c } turns
  | .deliver item meanwhile :: turns =>
    let taken :=
      { d with channel := d.channel.afterAll meanwhile, consumed := d.consumed + 1 }
    match item with
    | .failure _ => { taken with rest := turns }
    | .chunk _ => drain taken turns

/-- Decodes a batch and sends its events on the channel. Unless decoding was interrupted, the rest
of the body is drained, so that the connection can be used again. -/
def decodeBatch (decode : List UInt8 → Except DecodeError ε) (c : Channel ε)
    (interludes : Interludes) (turns : List Body.Turn) : Decoded ε :=
  let decoded := decodeElements decode .initial 0 0 c interludes turns
  match decoded.result with
  | .error .interrupted => decoded
  | _ => if decoded.channel.cancelled then decoded else drain decoded decoded.rest

end Sidecar
