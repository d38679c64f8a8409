import Sidecar.Proofs.Receiver.Pushing
import Sidecar.Receiver.Run

/-!
# What can be seen of a receiver

The marks of a receiver say which events its processor has been given, how it has answered, and what
it has reported. Each move adds a few marks, and what these change is said here once. An answer other
than 200 stands right behind the report of its error, and the signal has had all reports (`Noted`).
-/

namespace Sidecar.Receiver

variable {ε : Type}

/-! ## Events and answers -/

/-- The event that a mark says the processor was given. -/
def Mark.process? : Mark ε → Option ε
  | .process event => some event
  | _ => none

/-- The status and the text of the answer that a mark tells of. -/
def Mark.answer? : Mark ε → Option (UInt16 × String)
  | .answer status text => some (status, text)
  | _ => none

/-- The events that the processor has been given. -/
def processed (r : Receiver ε) : List ε := r.marks.filterMap Mark.process?

def answers (r : Receiver ε) : List (UInt16 × String) := r.marks.filterMap Mark.answer?

def reports (r : Receiver ε) : List Failure := r.marks.filterMap Mark.report?

/-- The events that have been processed can be read off the marks. -/
lemma processed_mark (r : Receiver ε) (mark : Mark ε) :
    (r.mark mark).processed = r.processed ++ mark.process?.toList := by
  cases h : mark.process? <;> simp [processed, Receiver.mark, h]

/-- So can the answers to batches. -/
lemma answers_mark (r : Receiver ε) (mark : Mark ε) :
    (r.mark mark).answers = r.answers ++ mark.answer?.toList := by
  cases h : mark.answer? <;> simp [answers, Receiver.mark, h]

/-- A mark of something else changes nothing about what was processed. -/
lemma processed_mark_of_none (r : Receiver ε) {mark : Mark ε} (h : mark.process? = none) :
    (r.mark mark).processed = r.processed := by
  rw [processed_mark, h, Option.toList_none, List.append_nil]

/-- Nor about the answers. -/
lemma answers_mark_of_none (r : Receiver ε) {mark : Mark ε} (h : mark.answer? = none) :
    (r.mark mark).answers = r.answers := by
  rw [answers_mark, h, Option.toList_none, List.append_nil]

/-- Reporting an error processes nothing. -/
lemma processed_report (r : Receiver ε) (e : ReceiverError) :
    (r.report e).processed = r.processed :=
  processed_mark_of_none _ rfl

/-- Nor does it answer anything. -/
lemma answers_report (r : Receiver ε) (e : ReceiverError) : (r.report e).answers = r.answers :=
  answers_mark_of_none _ rfl

/-- Turning a batch down processes nothing. -/
lemma processed_told (r : Receiver ε) (e : ReceiverError) (status : UInt16) (text : String) :
    ((r.report e).mark (.answer status text)).processed = r.processed :=
  (processed_mark_of_none _ rfl).trans (processed_report r e)

/-- It is answered with the status and the text of the error. -/
lemma answers_told (r : Receiver ε) (e : ReceiverError) (status : UInt16) (text : String) :
    ((r.report e).mark (.answer status text)).answers = r.answers ++ [(status, text)] := by
  rw [answers_mark, answers_report]
  rfl

/-- Answering a batch processes nothing. -/
lemma processed_answer (r : Receiver ε) (result : Except DecodeError Nat) :
    (r.answer result).processed = r.processed := by
  cases result with
  | ok n => exact processed_mark_of_none _ rfl
  | error e => exact processed_told ..

/-- A batch is answered by what decoding has come to. -/
lemma answers_answer (r : Receiver ε) (result : Except DecodeError Nat) :
    (r.answer result).answers = r.answers ++ [replyOf result] := by
  cases result with
  | ok n => exact answers_mark _ _
  | error e => exact answers_told ..

/-! ## Reports -/

/-- The report that goes with an answer, and says what the answer says. -/
inductive Tells : Failure → UInt16 → String → Prop where
  | methodNotAllowed (method : String) :
    Tells (ReceiverError.methodNotAllowed method).failure 400
      (ReceiverError.methodNotAllowed method).message
  | decode (e : DecodeError) :
    Tells (ReceiverError.decode e).failure 500 e.message

/-- Right before each answer but 200 stands the report that goes with it. -/
inductive Announced : List (Mark ε) → Prop where
  | nil : Announced []
  | other {marks : List (Mark ε)} {mark : Mark ε} :
    Announced marks → mark.answer? = none →
    Announced (marks ++ [mark])
  | ok {marks : List (Mark ε)} {text : String} :
    Announced marks →
    Announced (marks ++ [.answer 200 text])
  | told {marks : List (Mark ε)} {error : Failure} {status : UInt16} {text : String} :
    Announced marks → Tells error status text →
    Announced (marks ++ [.report error, .answer status text])

/-- The signal after all reports. -/
def signalOf (marks : List (Mark ε)) : Signal Failure :=
  (marks.filterMap Mark.report?).foldl (fun signal error => signal.report error) .silent

/-- Every answer but 200 has been announced, and the signal has had every report. -/
structure Noted (signal : Signal Failure) (marks : List (Mark ε)) : Prop where
  announced : Announced marks
  signalled : signal = signalOf marks

namespace Noted

variable {r : Receiver ε}

/-- A mark that is no report leaves the signal as it was. -/
lemma signalOf_mark (marks : List (Mark ε)) (mark : Mark ε) (h : mark.report? = none) :
    signalOf (marks ++ [mark]) = signalOf marks := by
  simp [signalOf, h]

/-- What is noted stays in agreement with the signal by a mark that is neither an answer nor a report. -/
lemma mark (h : Noted r.signal r.marks) {mark : Mark ε} (answer : mark.answer? = none)
    (report : mark.report? = none) : Noted (r.mark mark).signal (r.mark mark).marks :=
  ⟨.other h.announced answer, h.signalled.trans (signalOf_mark _ _ report).symm⟩

/-- It stays so by a report. -/
lemma report (h : Noted r.signal r.marks) (e : ReceiverError) :
    Noted (r.report e).signal (r.report e).marks := by
  have more : signalOf (r.report e).marks = (signalOf r.marks).report e.failure := by
    simp [signalOf, Receiver.report, Receiver.mark, Mark.report?]
  refine ⟨.other h.announced rfl, ?_⟩
  rw [more, ← h.signalled]
  rfl

/-- It stays so when an error is reported and told to the sender. -/
lemma told (h : Noted r.signal r.marks) {e : ReceiverError} {status : UInt16} {text : String}
    (tells : Tells e.failure status text) :
    Noted ((r.report e).mark (.answer status text)).signal
      ((r.report e).mark (.answer status text)).marks := by
  have marks : ((r.report e).mark (.answer status text)).marks =
      r.marks ++ [.report e.failure, .answer status text] :=
    List.append_assoc ..
  refine ⟨?_, (h.report e).signalled.trans (signalOf_mark _ _ rfl).symm⟩
  rw [marks]
  exact .told h.announced tells

/-- It stays so by an answer to a batch. -/
lemma answer (h : Noted r.signal r.marks) (result : Except DecodeError Nat) :
    Noted (r.answer result).signal (r.answer result).marks := by
  cases result with
  | error e => exact h.told (.decode e)
  | ok n => exact ⟨.ok h.announced, h.signalled.trans (signalOf_mark _ _ rfl).symm⟩

end Noted

end Sidecar.Receiver
