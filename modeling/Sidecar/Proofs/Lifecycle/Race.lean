import Sidecar.Lifecycle.Run
import Sidecar.Proofs.Context.Stop

/-!
# Races

While a poll waits, the loop looks at what has happened, again and again. The first look that shows an
alarm ends the race, and of two alarms at one look the stop of the context counts; the poll decides only
if no look has shown any (`RaceEnds`, `race_eq_some_iff`). What a look shows no later one takes back
(`Surroundings.Leads`), so that something which has happened before a race, or during it, ends it.
-/

namespace Sidecar

/-! ## What has happened stays -/

/-- From some surroundings later ones can come about: time does not go back, no cancellation is taken
back, and the first report stays. -/
structure Surroundings.Leads (s s' : Surroundings) : Prop where
  now_le : s.now ≤ s'.now
  cancelled : s.scopes.cancelled ⊆ s'.scopes.cancelled
  signal : s'.signal = s.signal ∨ s.signal = .silent ∧ ∃ error, s'.signal = .reported error

namespace Surroundings

variable {parent : Context} {s s' s'' : Surroundings}

/-- What happens in two parts happens one after the other. -/
lemma afterAll_append (parent : Context) (s : Surroundings) (occurrences later : List Occurrence) :
    s.afterAll parent (occurrences ++ later) =
      (s.afterAll parent occurrences).afterAll parent later :=
  List.foldl_append ..

namespace Leads

/-- If nothing happens nothing has changed. -/
lemma refl (s : Surroundings) : s.Leads s := ⟨Int.le_refl _, fun _ h => h, .inl rfl⟩

/-- What leads on twice leads on. -/
lemma trans (h : s.Leads s') (h' : s'.Leads s'') : s.Leads s'' := by
  refine ⟨Int.le_trans h.now_le h'.now_le, fun _ hm => h'.cancelled (h.cancelled hm), ?_⟩
  rcases h.signal with same | ⟨silent, error, reported⟩
  · rw [← same]
    exact h'.signal
  · rcases h'.signal with same' | ⟨silent', _⟩
    · exact .inr ⟨silent, error, same'.trans reported⟩
    · cases reported.symm.trans silent'

/-- Whatever happens, time goes on, what is cancelled stays so, and the first report stays. -/
lemma after (parent : Context) (s : Surroundings) (occurrence : Occurrence) :
    s.Leads (s.after parent occurrence) := by
  cases occurrence with
  | report error =>
    refine ⟨Int.le_refl _, fun _ h => h, ?_⟩
    cases hs : s.signal with
    | silent => exact .inr ⟨rfl, error, by simp [Surroundings.after, Signal.report, hs]⟩
    | reported first => exact .inl (by simp [Surroundings.after, Signal.report, hs])
    | closed => exact .inl (by simp [Surroundings.after, Signal.report, hs])
  | cancel => exact ⟨Int.le_refl _, fun _ h => List.mem_cons_of_mem _ h, .inl rfl⟩
  | pass ms => exact ⟨Int.le_add_of_nonneg_right (Int.natCast_nonneg ms), fun _ h => h, .inl rfl⟩

/-- So it is whatever happens one after the other. -/
lemma afterAll (parent : Context) (s : Surroundings) (occurrences : List Occurrence) :
    s.Leads (s.afterAll parent occurrences) := by
  induction occurrences generalizing s with
  | nil => exact .refl s
  | cons occurrence rest ih => exact (Leads.after parent s occurrence).trans (ih _)

/-- Cancelling a context leads on. -/
lemma cancel (c : Context) (s : Surroundings) :
    s.Leads { s with scopes := c.cancel s.scopes } :=
  ⟨Int.le_refl _, fun _ h => List.mem_cons_of_mem _ h, .inl rfl⟩

/-- A context that is derived gets a scope of its own; no other one changes. -/
lemma derive_child (c : Context) (s : Surroundings) : s.Leads (s.derive c.child).2 :=
  ⟨Int.le_refl _, fun _ h => h, .inl rfl⟩

/-- Making a context with a deadline leads on. -/
lemma derive_childUntil (c : Context) (deadline : Int) (s : Surroundings) :
    s.Leads (s.derive (c.childUntil deadline)).2 :=
  ⟨Int.le_refl _, fun _ h => h, .inl rfl⟩

/-- A context that has stopped does not go on again. -/
lemma stop? (h : s.Leads s') (c : Context) (stopped : (s.stop? c).isSome) :
    (s'.stop? c).isSome :=
  Context.isSome_stop?_mono h.cancelled h.now_le stopped

/-- The first report stays whatever happens. -/
lemma reported (h : s.Leads s') {error : Failure} (reported : s.signal = .reported error) :
    s'.signal = .reported error := by
  rcases h.signal with same | ⟨silent, _⟩
  · exact same.trans reported
  · cases silent.symm.trans reported

/-- A signal that is open is not closed by what happens. -/
lemma not_closed (h : s.Leads s') (notClosed : s.signal ≠ .closed) : s'.signal ≠ .closed := by
  rcases h.signal with same | ⟨_, error, reported⟩
  · rw [same]
    exact notClosed
  · rw [reported]
    nofun

end Leads

/-- Something that has happened shows: the context has stopped, or the signal is silent no more. Time
shows nowhere by itself. -/
def Shows (parent : Context) (s : Surroundings) : Occurrence → Prop
  | .cancel => (s.stop? parent).isSome
  | .report _ => s.signal ≠ .silent
  | .pass _ => True

/-- What has happened once goes on showing. -/
lemma Leads.shows (h : s.Leads s') {occurrence : Occurrence} (shows_ : s.Shows parent occurrence) :
    s'.Shows parent occurrence := by
  cases occurrence with
  | report error =>
    intro silent
    rcases h.signal with same | ⟨_, first, reported⟩
    · exact shows_ (same.symm.trans silent)
    · cases reported.symm.trans silent
  | cancel => exact h.stop? parent shows_
  | pass ms => trivial

/-- What has just happened shows. -/
lemma shows_after (parent : Context) (s : Surroundings) (occurrence : Occurrence) :
    (s.after parent occurrence).Shows parent occurrence := by
  cases occurrence with
  | report error =>
    cases hs : s.signal <;> simp [Shows, after, Signal.report, hs]
  | cancel => simp [Shows, stop?, Context.stop?, after, Context.cancel, Scopes.isCancelled]
  | pass ms => trivial

/-- Each of several things that have happened shows. -/
lemma shows_afterAll {occurrences : List Occurrence} {occurrence : Occurrence}
    (h : occurrence ∈ occurrences) (parent : Context) (s : Surroundings) :
    (s.afterAll parent occurrences).Shows parent occurrence := by
  obtain ⟨before, later, rfl⟩ := List.append_of_mem h
  rw [afterAll_append, afterAll, List.foldl_cons]
  exact (Leads.afterAll parent _ later).shows (shows_after parent _ occurrence)

lemma reported_of_shows {error : Failure} (shows_ : s.Shows parent (.report error))
    (notClosed : s.signal ≠ .closed) : ∃ first, s.signal = .reported first := by
  cases hs : s.signal with
  | silent => exact absurd hs shows_
  | reported first => exact ⟨first, rfl⟩
  | closed => exact absurd hs notClosed

end Surroundings

/-! ## Alarms -/

namespace Run

variable {parent : Context} {watching : Bool} {s s' : Surroundings} {e : RunError}

/-- What a look shows that ends the loop. A signalled error does so only while the context of the run
goes on. -/
inductive Alarms (parent : Context) (watching : Bool) (s : Surroundings) : RunError → Prop where
  | stopped {stop : Stop} :
    s.stop? parent = some stop →
    Alarms parent watching s (.stopped stop)
  | signaled {error : Failure} :
    s.stop? parent = none → watching = true → s.signal = .reported error →
    Alarms parent watching s (.signaled error)

/-- A look shows nothing that ends the loop. -/
def IsCalm (parent : Context) (watching : Bool) (s : Surroundings) : Prop :=
  ∀ e, ¬Alarms parent watching s e

/-- A look shows an alarm just if the context of the run has stopped, or else an error waits in a watched
signal. -/
lemma alarm?_eq_some_iff : alarm? parent watching s = some e ↔ Alarms parent watching s e := by
  constructor
  · intro h
    unfold alarm? at h
    split at h
    · next stop stopped =>
      cases h
      exact .stopped stopped
    · next goesOn =>
      split at h
      · next watches =>
        obtain ⟨error, reported, rfl⟩ := Option.map_eq_some_iff.mp h
        refine .signaled goesOn watches ?_
        cases hs : s.signal with
        | reported first =>
          rw [hs] at reported
          cases reported
          rfl
        | _ =>
          rw [hs] at reported
          cases reported
      · cases h
  · intro h
    cases h with
    | stopped stopped => simp [alarm?, stopped]
    | signaled goesOn watches reported => simp [alarm?, goesOn, watches, reported, Signal.error?]

/-- A look shows nothing just if it is calm. -/
lemma alarm?_eq_none_iff : alarm? parent watching s = none ↔ IsCalm parent watching s := by
  constructor
  · intro h e alarms
    cases (alarm?_eq_some_iff.mpr alarms).symm.trans h
  · intro calm
    cases h : alarm? parent watching s with
    | none => rfl
    | some e => exact absurd (alarm?_eq_some_iff.mp h) (calm e)

/-- A context that has stopped is an alarm. -/
lemma Alarms.of_stopped (stopped : (s.stop? parent).isSome) : ∃ e, Alarms parent watching s e := by
  obtain ⟨stop, stopped⟩ := Option.isSome_iff_exists.mp stopped
  exact ⟨_, .stopped stopped⟩

/-- An error that waits in a watched signal leads to an alarm, though a stop may come before it. -/
lemma Alarms.of_reported {error : Failure} (watches : watching = true)
    (reported : s.signal = .reported error) : ∃ e, Alarms parent watching s e := by
  cases h : s.stop? parent with
  | some stop => exact ⟨_, .stopped h⟩
  | none => exact ⟨_, .signaled h watches reported⟩

/-! ## How a race ends -/

/-- What the loop sees each time that it looks while a poll waits. -/
def looks (parent : Context) (s : Surroundings) : List (List Occurrence) → List Surroundings
  | [] => [s]
  | group :: waits => s :: looks parent (s.afterAll parent group) waits

/-- How a race ends. -/
inductive RaceEnds (parent : Context) (watching : Bool) (poll : Option PollEnd) (s : Surroundings)
    (waits : List (List Occurrence)) : Except RunError PollEnd → Surroundings → Prop where
  /-- The first look at which there is an alarm ends the race. -/
  | alarm {seen later : List Surroundings} {look : Surroundings} {e : RunError} :
    looks parent s waits = seen ++ look :: later →
    (∀ earlier ∈ seen, IsCalm parent watching earlier) → Alarms parent watching look e →
    RaceEnds parent watching poll s waits (.error e) look
  /-- If there is none at any look, the poll decides. -/
  | poll {seen : List Surroundings} {last : Surroundings} {ended : PollEnd} :
    looks parent s waits = seen ++ [last] →
    (∀ look ∈ seen ++ [last], IsCalm parent watching look) → poll = some ended →
    RaceEnds parent watching poll s waits (.ok ended) last

variable {poll : Option PollEnd} {waits : List (List Occurrence)} {group : List Occurrence}
  {winner : Except RunError PollEnd}

/-- The loop looks at once, before it waits for anything. -/
lemma looks_eq_cons (parent : Context) (s : Surroundings) (waits : List (List Occurrence)) :
    ∃ later, looks parent s waits = s :: later := by
  cases waits <;> exact ⟨_, rfl⟩

namespace RaceEnds

/-- An alarm at the first look ends the race. -/
lemma at_once (alarms : Alarms parent watching s e) :
    RaceEnds parent watching poll s waits (.error e) s := by
  obtain ⟨later, looked⟩ := looks_eq_cons parent s waits
  have first : looks parent s waits = [] ++ s :: later := looked
  exact .alarm first nofun alarms

/-- If the first look is calm and the poll has ended, the race ends with the poll. -/
lemma decided {ended : PollEnd} (calm : IsCalm parent watching s) (decides : poll = some ended) :
    RaceEnds parent watching poll s [] (.ok ended) s :=
  have only : looks parent s [] = [] ++ [s] := rfl
  .poll only (List.forall_mem_singleton.mpr calm) decides

/-- If the first look is calm and the poll still waits, the race goes on with the next look. -/
lemma wait (calm : IsCalm parent watching s)
    (h : RaceEnds parent watching poll (s.afterAll parent group) waits winner s') :
    RaceEnds parent watching poll s (group :: waits) winner s' := by
  cases h with
  | @alarm seen later _ _ looked before alarms =>
    have more : looks parent s (group :: waits) = (s :: seen) ++ s' :: later := by
      rw [looks, looked, List.cons_append]
    exact .alarm more (List.forall_mem_cons.mpr ⟨calm, before⟩) alarms
  | @poll seen _ _ looked all decides =>
    have more : looks parent s (group :: waits) = (s :: seen) ++ [s'] := by
      rw [looks, looked, List.cons_append]
    exact .poll more (List.forall_mem_cons.mpr ⟨calm, all⟩) decides

end RaceEnds

/-- The race that is run ends as the relation says. -/
lemma raceEnds_of_race (h : race parent watching poll s waits = some (winner, s')) :
    RaceEnds parent watching poll s waits winner s' := by
  induction waits generalizing s with
  | nil =>
    unfold race at h
    split at h
    · next e alarms =>
      cases h
      exact .at_once (alarm?_eq_some_iff.mp alarms)
    · next calm =>
      obtain ⟨ended, decides, same⟩ := Option.map_eq_some_iff.mp h
      cases same
      exact .decided (alarm?_eq_none_iff.mp calm) decides
  | cons group waits ih =>
    unfold race at h
    split at h
    · next e alarms =>
      cases h
      exact .at_once (alarm?_eq_some_iff.mp alarms)
    · next calm => exact (ih h).wait (alarm?_eq_none_iff.mp calm)

/-- The race that is run ends at once if there is an alarm. -/
lemma race_of_alarms (h : Alarms parent watching s e) (poll : Option PollEnd)
    (waits : List (List Occurrence)) : race parent watching poll s waits = some (.error e, s) := by
  have alarms := alarm?_eq_some_iff.mpr h
  cases waits <;> simp [race, alarms]

/-- What the relation says comes of the race that is run. -/
lemma race_of_raceEnds (h : RaceEnds parent watching poll s waits winner s') :
    race parent watching poll s waits = some (winner, s') := by
  induction waits generalizing s with
  | nil =>
    cases h with
    | @alarm seen _ _ _ looked _ alarms =>
      obtain ⟨rfl, same⟩ | ⟨_, none⟩ := List.singleton_eq_append_iff.mp looked
      · cases same
        exact race_of_alarms alarms ..
      · cases none
    | @poll seen _ _ looked all decides =>
      obtain ⟨rfl, same⟩ | ⟨_, none⟩ := List.singleton_eq_append_iff.mp looked
      · cases same
        have calm := alarm?_eq_none_iff.mpr (all _ (List.mem_singleton_self _))
        simp [race, calm, decides]
      · cases none
  | cons group waits ih =>
    cases h with
    | @alarm seen _ _ _ looked before alarms =>
      cases seen with
      | nil =>
        cases looked
        exact race_of_alarms alarms ..
      | cons first seen =>
        obtain ⟨rfl, rest⟩ := List.cons.inj looked
        obtain ⟨calm, before⟩ := List.forall_mem_cons.mp before
        simp only [race, alarm?_eq_none_iff.mpr calm]
        exact ih (.alarm rest before alarms)
    | @poll seen _ _ looked all decides =>
      cases seen with
      | nil =>
        -- a race that has waited looks at least twice
        obtain ⟨_, rest⟩ := List.cons.inj looked
        obtain ⟨later, first⟩ := looks_eq_cons parent (s.afterAll parent group) waits
        cases first.symm.trans rest
      | cons first seen =>
        obtain ⟨rfl, rest⟩ := List.cons.inj looked
        obtain ⟨calm, all⟩ := List.forall_mem_cons.mp all
        simp only [race, alarm?_eq_none_iff.mpr calm]
        exact ih (.poll rest all decides)

/-- The race that is run and the relation agree. -/
theorem race_eq_some_iff :
    race parent watching poll s waits = some (winner, s') ↔
      RaceEnds parent watching poll s waits winner s' :=
  ⟨raceEnds_of_race, race_of_raceEnds⟩

/-- What a look sees has come about by what has happened until then. -/
lemma exists_of_mem_looks {look : Surroundings} (h : look ∈ looks parent s waits) :
    ∃ happened, happened <+: waits.flatten ∧ look = s.afterAll parent happened := by
  induction waits generalizing s with
  | nil =>
    obtain rfl := List.mem_singleton.mp h
    exact ⟨[], List.nil_prefix, rfl⟩
  | cons group waits ih =>
    rcases List.mem_cons.mp h with rfl | h
    · exact ⟨[], List.nil_prefix, rfl⟩
    · obtain ⟨happened, early, rfl⟩ := ih h
      refine ⟨group ++ happened, ?_, (Surroundings.afterAll_append ..).symm⟩
      rw [List.flatten_cons]
      exact (List.prefix_append_right_inj group).mpr early

/-- At the last look all has happened that does while the poll waits. -/
lemma getLast?_looks (parent : Context) (s : Surroundings) (waits : List (List Occurrence)) :
    (looks parent s waits).getLast? = some (s.afterAll parent waits.flatten) := by
  induction waits generalizing s with
  | nil => rfl
  | cons group waits ih =>
    obtain ⟨later, first⟩ := looks_eq_cons parent (s.afterAll parent group) waits
    rw [List.flatten_cons, Surroundings.afterAll_append, looks, first, List.getLast?_cons_cons,
      ← first]
    exact ih _

/-- When a race ends, some of what happens while the poll waits has happened, from its start on. -/
lemma RaceEnds.exists_afterAll (h : RaceEnds parent watching poll s waits winner s') :
    ∃ happened, happened <+: waits.flatten ∧ s' = s.afterAll parent happened := by
  have mem : s' ∈ looks parent s waits := by
    cases h with
    | alarm looked _ _ =>
      rw [looked]
      exact List.mem_append_right _ (List.mem_cons_self ..)
    | poll looked _ _ =>
      rw [looked]
      exact List.mem_append_right _ (List.mem_singleton_self _)
  exact exists_of_mem_looks mem

/-- What comes of a race has come about in its surroundings. -/
lemma RaceEnds.leads (h : RaceEnds parent watching poll s waits winner s') : s.Leads s' := by
  obtain ⟨happened, -, rfl⟩ := h.exists_afterAll
  exact .afterAll parent s happened

/-- A race that the poll has decided has seen all that happened. -/
lemma RaceEnds.eq_afterAll {ended : PollEnd}
    (h : RaceEnds parent watching poll s waits (.ok ended) s') :
    s' = s.afterAll parent waits.flatten := by
  cases h with
  | poll looked _ _ =>
    have last := getLast?_looks parent s waits
    rw [looked, List.getLast?_concat] at last
    exact Option.some.inj last

/-- If all that happens during a race has an alarm at its end, one of its looks shows it. -/
lemma exists_alarm (h : Alarms parent watching (s.afterAll parent waits.flatten) e)
    (poll : Option PollEnd) :
    ∃ e' look, RaceEnds parent watching poll s waits (.error e') look := by
  induction waits generalizing s with
  | nil => exact ⟨e, s, .at_once h⟩
  | cons group waits ih =>
    cases first : alarm? parent watching s with
    | some e' => exact ⟨e', s, .at_once (alarm?_eq_some_iff.mp first)⟩
    | none =>
      rw [List.flatten_cons, Surroundings.afterAll_append] at h
      obtain ⟨e', look, ends⟩ := ih h
      exact ⟨e', look, ends.wait (alarm?_eq_none_iff.mp first)⟩

end Run

end Sidecar
