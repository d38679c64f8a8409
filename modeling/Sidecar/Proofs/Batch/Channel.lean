import Mathlib.Tactic.Lemma
import Sidecar.Batch.Decoding

/-!
# What becomes of a channel

`Channel.Changes c marks c'` says that the channel `c` becomes `c'` by the happenings that `marks`
tell of, each of them possible where it stands: events are put only on a channel that is neither
cancelled nor closed and has room. Whatever is done with a channel is a run of such changes, so what
holds of all runs is proved here once: the history only grows (`Changes.history_eq`), after a
cancellation nothing is sent (`Changes.quiet`), and as long as the channel is open
every event sent has been taken or is still on it, in order (`Changes.buffer_eq`).
-/

namespace Sidecar.Channel

/-- The events that marks tell to have been sent. -/
def sentIn (marks : List (Mark ε)) : List ε :=
  marks.filterMap fun
    | .sent event => some event
    | _ => none

/-- The events that marks tell to have been taken. -/
def takenIn (marks : List (Mark ε)) : List ε :=
  marks.filterMap fun
    | .taken event => some event
    | _ => none

/-- What is sent is sent in the order of the marks. -/
lemma sentIn_append (front back : List (Mark ε)) :
    sentIn (front ++ back) = sentIn front ++ sentIn back :=
  List.filterMap_append

/-- A channel becomes another one by what marks tell of. -/
inductive Changes : Channel ε → List (Mark ε) → Channel ε → Prop where
  | refl {c : Channel ε} : Changes c [] c
  | read {c c' : Channel ε} {event : ε} {rest : List ε} {marks : List (Mark ε)} :
    c.buffer = event :: rest →
    Changes ({ c with buffer := rest }.note (.taken event)) marks c' →
    Changes c (.taken event :: marks) c'
  | close {c c' : Channel ε} {marks : List (Mark ε)} :
    Changes (c.after .close) marks c' →
    Changes c (.closed :: marks) c'
  | cancel {c c' : Channel ε} {marks : List (Mark ε)} :
    Changes (c.after .cancel) marks c' →
    Changes c (.cancelled :: marks) c'
  | put {c c' : Channel ε} {event : ε} {marks : List (Mark ε)} :
    c.cancelled = false →
    c.closed = false →
    c.buffer.length < c.capacity →
    Changes (c.put event) marks c' →
    Changes c (.sent event :: marks) c'

/-- Cancellation has fired between the marks `front` and the marks `back`. Before `front` is the
start, where the channel may have been cancelled already. -/
def CancelledBetween (c : Channel ε) (marks front back : List (Mark ε)) : Prop :=
  marks = front ++ .cancelled :: back ∨ c.cancelled = true ∧ front = [] ∧ marks = back

/-- The channel was closed, at the start or by one of the marks, before any cancellation. -/
def ClosedFirst (c : Channel ε) (marks : List (Mark ε)) : Prop :=
  c.cancelled = false ∧
    (c.closed = true ∨ ∃ front back, marks = front ++ .closed :: back ∧ .cancelled ∉ front)

/-- Marks behind a cancellation do not change when it has fired. -/
lemma CancelledBetween.append {c : Channel ε} {marks front back : List (Mark ε)}
    (h : c.CancelledBetween marks front back) (more : List (Mark ε)) :
    c.CancelledBetween (marks ++ more) front (back ++ more) := by
  rcases h with rfl | ⟨start, rfl, rfl⟩
  · exact .inl (by rw [List.append_assoc, List.cons_append])
  · exact .inr ⟨start, rfl, rfl⟩

/-- Nor do marks behind a closing change what came first. -/
lemma ClosedFirst.append {c : Channel ε} {marks : List (Mark ε)} (h : c.ClosedFirst marks)
    (more : List (Mark ε)) : c.ClosedFirst (marks ++ more) := by
  obtain ⟨hn, start | ⟨front, back, rfl, before⟩⟩ := h
  · exact ⟨hn, .inl start⟩
  · refine ⟨hn, .inr ⟨front, back ++ more, ?_, before⟩⟩
    rw [List.append_assoc, List.cons_append]

namespace Changes

variable {c c' c'' : Channel ε} {marks marks' : List (Mark ε)}

/-! ## Runs of changes -/

/-- Changes may be put together, and so may their marks. -/
lemma trans (h : Changes c marks c') (h' : Changes c' marks' c'') :
    Changes c (marks ++ marks') c'' := by
  induction h with
  | refl => exact h'
  | read hb _ ih => exact .read hb (ih h')
  | close _ ih => exact .close (ih h')
  | cancel _ ih => exact .cancel (ih h')
  | put hn hc hr _ ih => exact .put hn hc hr (ih h')

/-- Between any two marks there was a channel. -/
lemma split (h : Changes c (marks ++ marks') c'') :
    ∃ c', Changes c marks c' ∧ Changes c' marks' c'' := by
  induction marks generalizing c with
  | nil => exact ⟨c, .refl, h⟩
  | cons m marks ih =>
    cases h with
    | read hb h =>
      obtain ⟨c', front, back⟩ := ih h
      exact ⟨c', .read hb front, back⟩
    | close h =>
      obtain ⟨c', front, back⟩ := ih h
      exact ⟨c', .close front, back⟩
    | cancel h =>
      obtain ⟨c', front, back⟩ := ih h
      exact ⟨c', .cancel front, back⟩
    | put hn hc hr h =>
      obtain ⟨c', front, back⟩ := ih h
      exact ⟨c', .put hn hc hr front, back⟩

/-- Nothing that has happened is taken back. -/
lemma history_eq (h : Changes c marks c') : c'.history = c.history ++ marks := by
  induction h with
  | refl => rw [List.append_nil]
  | read _ _ ih => rw [ih]; simp [note]
  | close _ ih => rw [ih]; simp [after, note]
  | cancel _ ih => rw [ih]; simp [after, note]
  | put _ _ _ _ ih => rw [ih]; simp [Channel.put, note]

/-- What has been sent is what had been, and what the marks tell of. -/
lemma sent_eq (h : Changes c marks c') : c'.sent = c.sent ++ sentIn marks := by
  unfold sent
  rw [h.history_eq, List.filterMap_append]
  rfl

/-- A channel is cancelled just if it was before, or by one of the marks. -/
lemma cancelled_iff (h : Changes c marks c') :
    c'.cancelled = true ↔ c.cancelled = true ∨ .cancelled ∈ marks := by
  induction h with
  | refl => simp
  | read _ _ ih => rw [ih]; simp [note]
  | close _ ih => rw [ih]; simp [after, note]
  | cancel _ ih => rw [ih]; simp [after, note]
  | put _ _ _ _ ih => rw [ih]; simp [Channel.put, note]

/-- A channel is closed just if it was before, or by one of the marks. -/
lemma closed_iff (h : Changes c marks c') :
    c'.closed = true ↔ c.closed = true ∨ .closed ∈ marks := by
  induction h with
  | refl => simp
  | read _ _ ih => rw [ih]; simp [note]
  | close _ ih => rw [ih]; simp [after, note]
  | cancel _ ih => rw [ih]; simp [after, note]
  | put _ _ _ _ ih => rw [ih]; simp [Channel.put, note]

/-- A channel that is not cancelled was not cancelled before. -/
lemma not_cancelled (h : Changes c marks c') (hc : c'.cancelled = false) : c.cancelled = false := by
  cases e : c.cancelled with
  | false => rfl
  | true =>
    rw [h.cancelled_iff.mpr (.inl e)] at hc
    cases hc

/-- A channel that is not closed was not closed before. -/
lemma not_closed (h : Changes c marks c') (hc : c'.closed = false) : c.closed = false := by
  cases e : c.closed with
  | false => rfl
  | true =>
    rw [h.closed_iff.mpr (.inl e)] at hc
    cases hc

/-! ## Cancelling and closing -/

/-- If a channel is cancelled, that has fired somewhere between the marks. -/
lemma cancelledBetween (h : Changes c marks c') (hc : c'.cancelled = true) :
    ∃ front back, c.CancelledBetween marks front back := by
  rcases h.cancelled_iff.mp hc with start | mark
  · exact ⟨[], marks, .inr ⟨start, rfl, rfl⟩⟩
  · obtain ⟨front, back, split⟩ := List.append_of_mem mark
    exact ⟨front, back, .inl split⟩

/-- A channel that is closed but not cancelled was closed before any cancellation. -/
lemma closedFirst (h : Changes c marks c') (hc : c'.closed = true) (hn : c'.cancelled = false) :
    c.ClosedFirst marks := by
  refine ⟨h.not_cancelled hn, ?_⟩
  rcases h.closed_iff.mp hc with start | mark
  · exact .inl start
  · obtain ⟨front, back, rfl⟩ := List.append_of_mem mark
    refine .inr ⟨front, back, rfl, ?_⟩
    intro fired
    rw [h.cancelled_iff.mpr (.inr (List.mem_append_left _ fired))] at hn
    cases hn

/-! ## What is sent -/

/-- Nothing is sent once a channel has been cancelled. -/
lemma sentIn_eq_nil (h : Changes c marks c') (hc : c.cancelled = true) : sentIn marks = [] := by
  induction h with
  | refl => rfl
  | read _ _ ih => exact ih hc
  | close _ ih => exact ih hc
  | cancel _ ih => exact ih rfl
  | put hn => rw [hc] at hn; cases hn

/-- After a cancellation nothing is sent. -/
lemma quiet {front back : List (Mark ε)} (h : Changes c marks c')
    (fired : c.CancelledBetween marks front back) : sentIn back = [] := by
  rcases fired with rfl | ⟨start, rfl, rfl⟩
  · -- the marks in `back` start from a cancelled channel
    obtain ⟨c₁, _, h₁⟩ := h.split
    cases h₁ with
    | cancel h₁ => exact h₁.sentIn_eq_nil rfl
  · exact h.sentIn_eq_nil start

/-- So all that is sent is sent before the cancellation. -/
lemma sentIn_eq_front {front back : List (Mark ε)} (h : Changes c marks c')
    (fired : c.CancelledBetween marks front back) : sentIn marks = sentIn front := by
  have after := h.quiet fired
  rcases fired with rfl | ⟨_, rfl, rfl⟩
  · have tail : sentIn (.cancelled :: back) = sentIn back := rfl
    rw [sentIn_append, tail, after, List.append_nil]
  · exact after

/-- As long as a channel is open, the events on it are those sent and not yet taken, in the order in
which they were sent. -/
lemma buffer_eq (h : Changes c marks c') (hc : c'.closed = false) :
    c.buffer ++ sentIn marks = takenIn marks ++ c'.buffer := by
  induction h with
  | refl => rw [sentIn, takenIn]; simp
  | @read c c' event rest marks hb _ ih =>
    have taken : takenIn (.taken event :: marks) = event :: takenIn marks := rfl
    have sent : sentIn (.taken event :: marks) = sentIn marks := rfl
    rw [hb, taken, sent, List.cons_append, List.cons_append, ← ih hc]
    rfl
  | close h =>
    -- a channel once closed stays closed
    have closed := h.not_closed hc
    cases closed
  | cancel _ ih => exact ih hc
  | @put c c' event marks _ _ _ _ ih =>
    have sent : sentIn (.sent event :: marks) = event :: sentIn marks := rfl
    rw [sent, List.append_cons]
    exact ih hc

end Changes

/-! ## Happenings -/

/-- A channel becomes another one, and nothing is sent meanwhile. -/
def Idles (c c' : Channel ε) : Prop :=
  ∃ marks, Changes c marks c' ∧ sentIn marks = []

namespace Idles

variable {c c' c'' : Channel ε}

/-- A channel that does not change has not been sent anything. -/
lemma refl : Idles c c := ⟨[], .refl, rfl⟩

/-- Changes in which nothing is sent may be put together. -/
lemma trans (h : Idles c c') (h' : Idles c' c'') : Idles c c'' := by
  obtain ⟨marks, first, none⟩ := h
  obtain ⟨marks', second, none'⟩ := h'
  refine ⟨marks ++ marks', first.trans second, ?_⟩
  rw [sentIn_append, none, none', List.append_nil]

end Idles

/-- What happens beside the decoder sends nothing. -/
lemma after_idles (c : Channel ε) (happening : Happening) : Idles c (c.after happening) := by
  cases happening with
  | read =>
    cases hb : c.buffer with
    | nil =>
      have same : c.after .read = c := by rw [after, hb]
      rw [same]
      exact .refl
    | cons event rest =>
      have next : c.after .read = { c with buffer := rest }.note (.taken event) := by rw [after, hb]
      rw [next]
      exact ⟨[.taken event], .read hb .refl, rfl⟩
  | close => exact ⟨[.closed], .close .refl, rfl⟩
  | cancel => exact ⟨[.cancelled], .cancel .refl, rfl⟩

/-- Nothing that happens around a channel sends an event. -/
lemma afterAll_idles (c : Channel ε) (happenings : List Happening) :
    Idles c (c.afterAll happenings) := by
  induction happenings generalizing c with
  | nil => exact .refl
  | cons happening happenings ih => exact (after_idles c happening).trans (ih _)

end Sidecar.Channel
