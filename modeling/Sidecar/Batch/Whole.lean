import Sidecar.Batch.Decoding

/-!
# A batch as a whole

What decoding a batch comes to when nobody interferes: no matter how the body is cut into chunks,
its bytes are scanned as one text and its elements are decoded one after the other.
-/

namespace Sidecar

namespace Body

/-- The bytes in front of the first failure. -/
def readable : List Item → List UInt8
  | .chunk bytes :: rest => bytes ++ readable rest
  | _ => []

def failure? : List Item → Option Failure
  | [] => none
  | .chunk _ :: rest => failure? rest
  | .failure cause :: _ => some cause

end Body

/-- Decodes elements up to the first that is no event. -/
def decodeAll (decode : List UInt8 → Except DecodeError ε) :
    List (List UInt8) → List ε × Option DecodeError
  | [] => ([], none)
  | raw :: rest =>
    match decode raw with
    | .error e => ([], some e)
    | .ok event =>
      let (events, problem) := decodeAll decode rest
      (event :: events, problem)

/-- The events of a body, and the result of decoding it: an element that is no event counts first,
then a problem of the array, and a body that breaks off only where the array has not been closed. -/
def decodeWhole (decode : List UInt8 → Except DecodeError ε) (items : List Body.Item) :
    List ε × Except DecodeError Nat :=
  let pushed := Scanner.initial.push (Body.readable items)
  let (events, undecodable) := decodeAll decode pushed.elements
  let result : Except DecodeError Nat :=
    match undecodable, pushed.problem with
    | some e, _ => .error e
    | none, some problem => .error problem.error
    | none, none =>
      match pushed.scanner.finish, Body.failure? items with
      | .ok (), _ => .ok events.length
      | .error _, some cause => .error (.body cause)
      | .error problem, none => .error problem.error
  (events, result)

end Sidecar
