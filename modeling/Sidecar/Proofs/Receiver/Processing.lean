import Mathlib.Tactic.Lemma
import Sidecar.Receiver.System

/-!
# Events and their processor

A processor is given events one at a time until it fails on one, and none after that
(`Processor.untilFailure`). `Worked` says for the worker of a receiver which of the events that it has
taken off the channel the processor has been given; taking an event and having it dealt with both
keep that (`Worked.take`, `Worked.processed`).
-/

namespace Sidecar

variable {ε : Type}

/-- What a processor says to the last of the events that it has been given. -/
abbrev Processor (ε : Type) := List ε → Except Failure Unit

namespace Processor

/-- The events that a processor which has been given some before is given of more: those up to the
first that it fails on. -/
def untilFailure (processor : Processor ε) (before : List ε) : List ε → List ε
  | [] => []
  | event :: rest =>
    event ::
      match processor (before ++ [event]) with
      | .ok _ => untilFailure processor (before ++ [event]) rest
      | .error _ => []

/-- The processor has not failed on any of the events, and is given what comes after them. -/
def GoesOn (processor : Processor ε) (taken : List ε) : Prop :=
  ∀ later, processor.untilFailure [] (taken ++ later) =
    taken ++ processor.untilFailure taken later

/-- The processor has failed on the last of the `given` events, and is given no other. -/
def Stopped (processor : Processor ε) (given taken : List ε) : Prop :=
  ∀ later, processor.untilFailure [] (taken ++ later) = given

variable {processor : Processor ε} {given taken before : List ε} {event : ε}

/-- A processor that has been given nothing goes on. -/
lemma GoesOn.nil : processor.GoesOn [] := fun _ => rfl

/-- A processor goes on after an event that it has not failed on. -/
lemma GoesOn.ok (h : processor.GoesOn before) (ok : processor (before ++ [event]) = .ok ()) :
    processor.GoesOn (before ++ [event]) := by
  intro later
  rw [List.append_assoc, h, List.append_assoc, List.singleton_append, untilFailure, ok]
  rfl

/-- A processor that fails on an event has stopped with it. -/
lemma GoesOn.error {cause : Failure} (h : processor.GoesOn before)
    (error : processor (before ++ [event]) = .error cause) :
    processor.Stopped (before ++ [event]) (before ++ [event]) := by
  intro later
  rw [List.append_assoc, h, List.singleton_append, untilFailure, error]

/-- A processor that has stopped is given nothing that comes later. -/
lemma Stopped.append (h : processor.Stopped given taken) :
    processor.Stopped given (taken ++ [event]) := by
  intro later
  rw [List.append_assoc]
  exact h _

end Processor

/-- Which events the processor has been given, once the worker has taken some. -/
inductive Worked (processor : Processor ε) :
    (worker : Worker ε) → (hasFailed : Bool) → (given taken : List ε) → Prop where
  | waiting {taken : List ε} :
    processor.GoesOn taken →
    Worked processor .waiting false taken taken
  | busy {before : List ε} {event : ε} :
    processor.GoesOn before →
    Worked processor (.busy event) false (before ++ [event]) (before ++ [event])
  | failed {given taken : List ε} :
    processor.Stopped given taken →
    Worked processor .waiting true given taken

namespace Worked

variable {processor : Processor ε} {worker : Worker ε} {hasFailed : Bool} {given taken : List ε}
  {event : ε}

/-- The worker gives the processor the event that it takes. -/
lemma take (h : Worked processor .waiting false given taken) :
    Worked processor (.busy event) false (given ++ [event]) (taken ++ [event]) := by
  cases h with
  | waiting goes => exact .busy goes

/-- Once the processor has failed the worker drops the event that it takes. -/
lemma drop (h : Worked processor .waiting true given taken) :
    Worked processor .waiting true given (taken ++ [event]) := by
  cases h with
  | failed stopped => exact .failed stopped.append

/-- The worker waits again when the processor has dealt with its event. -/
lemma processed_ok (h : Worked processor (.busy event) hasFailed given taken)
    (ok : processor given = .ok ()) : Worked processor .waiting hasFailed given taken := by
  cases h with
  | busy goes => exact .waiting (goes.ok ok)

/-- It also does when the processor has failed, and the processor has stopped then. -/
lemma processed_error {cause : Failure} (h : Worked processor (.busy event) hasFailed given taken)
    (error : processor given = .error cause) : Worked processor .waiting true given taken := by
  cases h with
  | busy goes => exact .failed (goes.error error)

/-- What the processor has been given is the front of what it will be given. -/
lemma given_prefix (h : Worked processor worker hasFailed given taken) (later : List ε) :
    given <+: processor.untilFailure [] (taken ++ later) := by
  cases h with
  | waiting goes =>
    rw [goes]
    exact List.prefix_append _ _
  | @busy before event goes =>
    rw [List.append_assoc, goes, List.singleton_append, Processor.untilFailure]
    refine (List.prefix_append_right_inj before).mpr ?_
    exact List.cons_prefix_cons.mpr ⟨rfl, List.nil_prefix⟩
  | failed stopped => exact ⟨[], by rw [stopped, List.append_nil]⟩

/-- A worker that waits has had the processor deal with all that it has taken. -/
lemma given_eq (h : Worked processor .waiting hasFailed given taken) :
    given = processor.untilFailure [] taken := by
  rw [← List.append_nil taken]
  cases h with
  | waiting goes =>
    rw [goes, Processor.untilFailure, List.append_nil]
  | failed stopped => rw [stopped]

/-- A worker whose processor is in order goes on receiving. -/
lemma receives (h : Worked processor worker hasFailed given taken) :
    worker = .waiting ∨ ∃ event, worker = .busy event := by
  cases h with
  | waiting _ => exact .inl rfl
  | busy _ => exact .inr ⟨_, rfl⟩
  | failed _ => exact .inl rfl

end Worked

end Sidecar
