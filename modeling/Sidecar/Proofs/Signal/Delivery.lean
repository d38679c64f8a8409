import Mathlib.Data.List.Induction
import Mathlib.Tactic.Lemma
import Sidecar.Signal

/-!
# The first report wins

A history of a signal is what has been done with its ends, with the replies. Of the errors that are
offered while the receiver is there, the first one is taken and no other; it is delivered once, by the
first look after it (`FirstWins`). A signal is always in one of five phases (`Phase`): silent, reported,
received, deserted by all reporters, or dropped by the receiver.
-/

namespace Sidecar.Signal

open Ends (Action Reply)

variable {ε : Type}

/-- Something that is done with the ends of a signal, and the reply. -/
structure Step (ε : Type) where
  action : Action ε
  reply : Reply ε

namespace Step

/-- The error that a reporter offers, whether or not it is taken. -/
def offered? : Step ε → Option ε
  | ⟨.report _ error, .truth _⟩ => some error
  | _ => none

/-- The error of a report that succeeds. -/
def taken? : Step ε → Option ε
  | ⟨.report _ error, .truth true⟩ => some error
  | _ => none

/-- The error that the receiver gets. -/
def delivered? : Step ε → Option ε
  | ⟨_, .received error⟩ => error
  | _ => none

/-- Whether the receiver is dropped. -/
def isDrop : Step ε → Bool
  | ⟨.dropReceiver, _⟩ => true
  | _ => false

/-- A step that neither offers nor delivers an error, and does not drop the receiver. -/
structure IsQuiet (step : Step ε) : Prop where
  offered : step.offered? = none
  taken : step.taken? = none
  delivered : step.delivered? = none
  stays : step.isDrop = false

end Step

/-! ## Accounts -/

section

variable (history : List (Step ε))

/-- The errors that are offered while the receiver is there. -/
def offered : List ε := (history.takeWhile (!·.isDrop)).filterMap Step.offered?

def taken : List ε := history.filterMap Step.taken?

def delivered : List ε := history.filterMap Step.delivered?

/-- Whether the receiver has been dropped. -/
def isDropped : Bool := history.any Step.isDrop

end

/-- What a history comes to. -/
structure Account (ε : Type) where
  offered : List ε
  taken : List ε
  delivered : List ε
  isDropped : Bool

/-- What a history comes to. -/
def account (history : List (Step ε)) : Account ε :=
  ⟨offered history, taken history, delivered history, isDropped history⟩

/-- The account after one more step. What is offered after the receiver has been dropped does not
count. -/
def Account.note (a : Account ε) (step : Step ε) : Account ε where
  offered := a.offered ++ if a.isDropped || step.isDrop then [] else step.offered?.toList
  taken := a.taken ++ step.taken?.toList
  delivered := a.delivered ++ step.delivered?.toList
  isDropped := a.isDropped || step.isDrop

section

variable {history : List (Step ε)} {step : Step ε} {a : Account ε}

/-- One step more may offer one error more, unless the receiver has been dropped. -/
lemma offered_append_singleton :
    offered (history ++ [step]) =
      offered history ++ if isDropped history || step.isDrop then [] else step.offered?.toList := by
  induction history with
  | nil =>
    cases drops : step.isDrop <;> cases h : step.offered? <;> simp [offered, isDropped, drops, h]
  | cons first rest ih =>
    cases drops : first.isDrop with
    | true => simp [offered, isDropped, drops]
    | false =>
      have one_more (tail : List (Step ε)) :
          offered (first :: tail) = first.offered?.toList ++ offered tail := by
        cases h : first.offered? <;> simp [offered, drops, h]
      rw [List.cons_append, one_more, one_more, ih, List.append_assoc, isDropped, isDropped,
        List.any_cons, drops, Bool.false_or]

/-- The account of a history is kept step by step. -/
lemma account_append_singleton : account (history ++ [step]) = (account history).note step := by
  have taken_eq : taken (history ++ [step]) = taken history ++ step.taken?.toList := by
    rw [taken, List.filterMap_append]
    cases h : step.taken? <;> simp [h, taken]
  have delivered_eq :
      delivered (history ++ [step]) = delivered history ++ step.delivered?.toList := by
    rw [delivered, List.filterMap_append]
    cases h : step.delivered? <;> simp [h, delivered]
  have dropped_eq : isDropped (history ++ [step]) = (isDropped history || step.isDrop) := by
    simp [isDropped]
  rw [account, offered_append_singleton, taken_eq, delivered_eq, dropped_eq]
  rfl

/-- A quiet step leaves the account as it is. -/
lemma Step.IsQuiet.note_eq (h : step.IsQuiet) : a.note step = a := by
  simp [Account.note, h.offered, h.taken, h.delivered, h.stays]

/-- A delivery is noted, and nothing else with it. -/
lemma note_received {action : Action ε} (unheard : Step.IsQuiet ⟨action, .noReceiver⟩) (error : ε) :
    a.note ⟨action, .received (some error)⟩ =
      { a with delivered := a.delivered ++ [error] } := by
  have stays : Step.isDrop ⟨action, .received (some error)⟩ = false := by
    cases action with
    | dropReceiver => cases unheard.stays
    | _ => rfl
  simp [Account.note, Step.offered?, Step.taken?, Step.delivered?, stays]

/-- After the receiver has been dropped only a success would count. -/
lemma note_of_isDropped (dropped : a.isDropped = true) (taken : step.taken? = none)
    (delivered : step.delivered? = none) : a.note step = a := by
  obtain ⟨_, _, _, _⟩ := a
  cases dropped
  simp [Account.note, taken, delivered]

end

namespace Ends

/-- The ends after some actions. -/
def afterAll (ends : Ends ε) (actions : List (Action ε)) : Ends ε :=
  actions.foldl (fun ends action => (ends.act action).2) ends

/-- The step that an action is. -/
def step (ends : Ends ε) (action : Action ε) : Step ε := ⟨action, (ends.act action).1⟩

/-- What is done with the ends, with the replies. -/
def history (ends : Ends ε) : List (Action ε) → List (Step ε)
  | [] => []
  | action :: actions => ends.step action :: (ends.act action).2.history actions

/-- The history of actions goes on from the ends that the first of them leave. -/
lemma history_append (ends : Ends ε) (actions later : List (Action ε)) :
    ends.history (actions ++ later) =
      ends.history actions ++ (ends.afterAll actions).history later := by
  induction actions generalizing ends with
  | nil => rfl
  | cons action actions ih =>
    rw [List.cons_append, history, history, ih, List.cons_append]
    rfl

/-! ## Phases -/

/-- How far a signal has come, given what its history comes to. -/
inductive Phase : Ends ε → Account ε → Prop where
  | silent {reporters : List String} :
    Phase ⟨none, reporters, .listening⟩ ⟨[], [], [], false⟩
  /-- The first error waits. -/
  | reported {error : ε} {reporters : List String} {late : List ε} :
    Phase ⟨some error, reporters, .listening⟩ ⟨error :: late, [error], [], false⟩
  | received {error : ε} {reporters : List String} {late : List ε} :
    Phase ⟨none, reporters, .finished⟩ ⟨error :: late, [error], [error], false⟩
  /-- The receiver has seen that no reporter is left. -/
  | deserted : Phase ⟨none, [], .finished⟩ ⟨[], [], [], false⟩
  | dropped {reporters : List String} {offered delivered : List ε} :
    delivered <+: offered.take 1 →
    Phase ⟨none, reporters, .dropped⟩ ⟨offered, offered.take 1, delivered, true⟩

namespace Phase

variable {ends : Ends ε} {a : Account ε}

/-- Ends that differ in their reporters alone are in the same phase, as long as none come back. -/
lemma withReporters (h : Phase ends a) {reporters : List String}
    (none_left : ends.reporters = [] → reporters = []) : Phase { ends with reporters } a := by
  cases h with
  | silent => exact .silent
  | reported => exact .reported
  | received => exact .received
  | deserted =>
    obtain rfl := none_left rfl
    exact .deserted
  | dropped delivered => exact .dropped delivered

/-- A report fills the place, unless an error has been taken or nobody listens. -/
lemma report (h : Phase ends a) (reporter : String) (error : ε)
    (exists_reporter : ends.reporters ≠ []) :
    Phase (ends.report error).2 (a.note ⟨.report reporter error, .truth (ends.report error).1⟩) := by
  cases h with
  | silent => exact .reported
  | reported => exact .reported
  | received => exact .received
  | deserted => exact absurd rfl exists_reporter
  | dropped delivered =>
    rw [note_of_isDropped rfl rfl rfl]
    exact .dropped delivered

/-- A look delivers the error that waits, and nothing otherwise. -/
lemma lookAt (h : Phase ends a) {action : Action ε} {otherwise : Reply ε}
    (quiet : Step.IsQuiet ⟨action, otherwise⟩) (unheard : Step.IsQuiet ⟨action, .noReceiver⟩) :
    Phase (ends.lookAt otherwise).2 (a.note ⟨action, (ends.lookAt otherwise).1⟩) := by
  cases h with
  | @silent reporters =>
    simp only [Ends.lookAt, quiet.note_eq]
    cases reporters with
    | nil => exact .deserted
    | cons reporter reporters => exact .silent
  | @reported error =>
    simp only [Ends.lookAt, note_received unheard]
    exact .received
  | received =>
    simp only [Ends.lookAt, quiet.note_eq]
    exact .received
  | deserted =>
    simp only [Ends.lookAt, quiet.note_eq]
    exact .deserted
  | dropped delivered =>
    simp only [Ends.lookAt, unheard.note_eq]
    exact .dropped delivered

/-- Dropping the receiver ends all phases alike. -/
lemma dropReceiver (h : Phase ends a) :
    Phase (ends.act .dropReceiver).2 (a.note (ends.step .dropReceiver)) := by
  cases h with
  | silent => exact @Phase.dropped _ _ [] _ List.nil_prefix
  | reported => exact @Phase.dropped _ _ (_ :: _) _ List.nil_prefix
  | received => exact @Phase.dropped _ _ (_ :: _) _ (List.prefix_refl _)
  | deserted => exact @Phase.dropped _ _ [] _ List.nil_prefix
  | dropped delivered =>
    rw [note_of_isDropped rfl rfl rfl]
    exact .dropped delivered

/-- The phase after an action. -/
lemma act (h : Phase ends a) (action : Action ε) :
    Phase (ends.act action).2 (a.note (ends.step action)) := by
  cases action with
  | report reporter error =>
    by_cases live : reporter ∈ ends.reporters
    · simp only [step, Ends.act, if_pos live]
      exact h.report reporter error (List.ne_nil_of_mem live)
    · simp only [step, Ends.act, if_neg live]
      rwa [Step.IsQuiet.note_eq ⟨rfl, rfl, rfl, rfl⟩]
  | isReported reporter =>
    simp only [step, Ends.act]
    split <;> rwa [Step.IsQuiet.note_eq ⟨rfl, rfl, rfl, rfl⟩]
  | clone reporter copy =>
    by_cases live : reporter ∈ ends.reporters
    · simp only [step, Ends.act, if_pos live]
      rw [Step.IsQuiet.note_eq ⟨rfl, rfl, rfl, rfl⟩]
      exact h.withReporters fun gone => absurd gone (List.ne_nil_of_mem live)
    · simp only [step, Ends.act, if_neg live]
      rwa [Step.IsQuiet.note_eq ⟨rfl, rfl, rfl, rfl⟩]
  | dropReporter reporter =>
    rw [Step.IsQuiet.note_eq ⟨rfl, rfl, rfl, rfl⟩]
    exact h.withReporters fun gone => by rw [gone]; rfl
  | tryReceive => exact h.lookAt ⟨rfl, rfl, rfl, rfl⟩ ⟨rfl, rfl, rfl, rfl⟩
  | receive => exact h.lookAt ⟨rfl, rfl, rfl, rfl⟩ ⟨rfl, rfl, rfl, rfl⟩
  | dropReceiver => exact h.dropReceiver

/-- The phase after any history. -/
lemma afterAll (reporter : String) (actions : List (Action ε)) :
    Phase ((make reporter).afterAll actions) (account ((make reporter).history actions)) := by
  -- on the actions from the last one back: a history grows at its end
  induction actions using List.reverseRecOn with
  | nil => exact .silent
  | append_singleton actions action ih =>
    rw [history_append, Ends.afterAll, List.foldl_append]
    exact account_append_singleton ▸ ih.act action

end Phase

/-! ## What follows from the phase -/

namespace Phase

variable {ends : Ends ε} {a : Account ε} {name : String}

/-- Of what is offered the first error is taken. -/
lemma taken_eq (h : Phase ends a) : a.taken = a.offered.take 1 := by
  cases h <;> rfl

/-- Nothing is delivered that has not been taken. -/
lemma delivered_prefix (h : Phase ends a) : a.delivered <+: a.taken := by
  cases h with
  | dropped delivered => exact delivered
  | received => exact List.prefix_refl _
  | _ => exact List.nil_prefix

/-- A reporter sees the signal as reported just if an error has been taken or the receiver dropped. -/
lemma isReported_eq (h : Phase ends a) (live : name ∈ ends.reporters) :
    ends.isReported = (!a.taken.isEmpty || a.isDropped) := by
  cases h with
  | deserted => cases live
  | dropped _ => exact (Bool.or_true _).symm
  | _ => rfl

/-- A report succeeds just if no error has been taken and the receiver is there. -/
lemma report_eq (h : Phase ends a) (live : name ∈ ends.reporters) (error : ε) :
    (ends.report error).1 = !(!a.taken.isEmpty || a.isDropped) := by
  cases h with
  | deserted => cases live
  | @dropped _ offered =>
    rw [Bool.or_true]
    rfl
  | _ => rfl

/-- A look delivers the error that has been taken and waits. -/
lemma lookAt_eq (h : Phase ends a) {error : ε} (taken : a.taken = [error])
    (waits : a.delivered = []) (stays : a.isDropped = false) (otherwise : Reply ε) :
    (ends.lookAt otherwise).1 = .received (some error) := by
  cases h with
  | reported =>
    cases taken
    rfl
  | received => cases waits
  | dropped _ => cases stays
  | _ => cases taken

end Phase

end Ends

/-! ## The first report wins -/

/-- A report has succeeded, or the receiver has been dropped. -/
def isOver (history : List (Step ε)) : Bool := !(taken history).isEmpty || isDropped history

/-- What is over stays so. -/
lemma isOver_append {history : List (Step ε)} (h : isOver history = true) (later : List (Step ε)) :
    isOver (history ++ later) = true := by
  rcases Bool.or_eq_true_iff.mp h with taken_some | dropped
  · have more : taken (history ++ later) = taken history ++ taken later := List.filterMap_append ..
    rw [isOver, more]
    cases found : taken history with
    | nil => simp [found] at taken_some
    | cons => rfl
  · rw [isOver, isDropped, List.any_append, ← isDropped, dropped, Bool.true_or, Bool.or_true]

/-- How a signal behaves after some actions, whatever they are: what their replies were, and what is
replied next. -/
structure FirstWins (first : String) (actions : List (Action ε)) (ends : Ends ε)
    (history : List (Step ε)) : Prop where
  /-- Of the errors that were offered while the receiver was there the first was taken, and no other. -/
  taken_eq : taken history = (offered history).take 1
  /-- Nothing else was delivered than the error that was taken, and this at most once. -/
  delivered_prefix : delivered history <+: taken history
  /-- An error that was taken waits for the next look. -/
  look_eq : ∀ error, taken history = [error] → delivered history = [] → isDropped history = false →
    (ends.act .receive).1 = .received (some error) ∧
    (ends.act .tryReceive).1 = .received (some error)
  /-- Another report succeeds only if none has and the receiver is there. -/
  report_eq : ∀ reporter ∈ ends.reporters, ∀ error,
    (ends.act (.report reporter error)).1 = .truth (!isOver history)
  /-- All reporters know alike whether a report would be too late. -/
  isReported_eq : ∀ reporter ∈ ends.reporters,
    (ends.act (.isReported reporter)).1 = .truth (isOver history)
  /-- This does not change back. -/
  stays : ∀ before, before <+: actions →
    isOver ((Ends.make first).history before) = true → isOver history = true

/-- Whatever is done with the ends of a signal, the first report wins. -/
theorem first_report_wins (first : String) (actions : List (Action ε)) :
    FirstWins first actions ((Ends.make first).afterAll actions)
      ((Ends.make first).history actions) := by
  have phase := Ends.Phase.afterAll first actions
  constructor
  case taken_eq => exact phase.taken_eq
  case delivered_prefix => exact phase.delivered_prefix
  case look_eq =>
    intro error taken waits stays
    exact ⟨phase.lookAt_eq taken waits stays _, phase.lookAt_eq taken waits stays _⟩
  case report_eq =>
    intro reporter live error
    simp only [Ends.act, if_pos live, phase.report_eq live error]
    rfl
  case isReported_eq =>
    intro reporter live
    simp only [Ends.act, if_pos live, phase.isReported_eq live]
    rfl
  case stays =>
    rintro before ⟨later, rfl⟩ finished
    rw [Ends.history_append]
    exact isOver_append finished _

/-- A report after a look that was given up is delivered, although its reporter is gone by then. -/
example : ((Ends.make "worker").history
      [.receive, .report "worker" 1, .dropReporter "worker", .receive]).map Step.reply =
    [.pending, .truth true, .truth true, .received (some 1)] := by
  decide

end Sidecar.Signal
