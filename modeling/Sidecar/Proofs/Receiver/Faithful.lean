import Sidecar.Proofs.Receiver.Serving

/-!
# A receiver is faithful to what is pushed

A receiver that has started and is not shut down gives its processor exactly the events of the pushes,
in their order, up to the first failure, and answers every push, however its parts take their turns
(`serves_faithfully`).

A run can always be carried on to its end: as long as a part can move by itself there is less and less
to do (`Serving.work_lt`), and a receiver at rest takes what is pushed next (`Serving.accepts`).
-/

namespace Sidecar

variable {ε : Type} {decode : List UInt8 → Except DecodeError ε} {processor : Processor ε}

/-! ## What is left to do -/

/-- A bound on the steps of a handler before it waits for the body, with twice the events among them
that it sends. -/
def Handler.work : Handler ε → Nat
  | .decoding d => 4 * d.elements.length + 1
  | .sending d _ => 4 * d.elements.length + 4
  | .draining _ => 0
  | .finished _ => 0

/-- A move of the handler leaves it less to do, the event that it sends included. -/
lemma Handler.Moves.work_lt {handler handler' : Handler ε} {event : Option ε}
    (h : Moves decode handler handler' event) :
    handler'.work + 2 * event.toList.length < handler.work := by
  cases h with
  | undecodable _ => simp [work]
  | decoded _ =>
    simp only [work, List.length_cons, Option.toList_none, List.length_nil]
    omega
  | malformed => simp [work]
  | closed _ => simp [work]
  | sent => simp [work]

/-- A handler that can do nothing by itself, though there is room on the channel, takes the next piece
of the body. -/
lemma Handler.accepts_of_stuck {handler : Handler ε} (isBusy : handler.IsBusy)
    (stuck : handler.move? decode false .free = none) (piece : Option Body.Item) :
    ∃ handler', handler.accept? false piece = some handler' := by
  cases handler with
  | decoding d =>
    obtain ⟨scanner, elements, problem, sent⟩ := d
    cases elements with
    | cons raw rest => cases hr : decode raw <;> simp [move?, hr] at stuck
    | nil =>
      cases problem with
      | some problem => cases stuck
      | none =>
        cases closed : scanner.isClosed with
        | true => simp [move?, closed] at stuck
        | false =>
          have awaits : Decoder.awaitsBody ⟨scanner, [], none, sent⟩ = true :=
            awaitsBody_iff.mpr ⟨rfl, rfl, closed⟩
          simp only [accept?, awaits, Bool.not_false, Bool.and_self, if_true]
          split
          · exact ⟨_, rfl⟩
          · exact ⟨_, rfl⟩
          · split <;> exact ⟨_, rfl⟩
  | sending d event => cases stuck
  | draining result =>
    rcases piece with _ | ⟨bytes⟩ | ⟨cause⟩ <;> exact ⟨_, rfl⟩
  | finished result => exact absurd isBusy id

namespace Receiver

def workerWork : Worker ε → Nat
  | .busy _ => 1
  | _ => 0

/-- A bound on the moves that a receiver can make by itself. -/
def work (r : Receiver ε) : Nat :=
  (r.handler.map Handler.work).getD 0 + 2 * r.slot.toList.length + workerWork r.worker

namespace Serving

variable {pushes : List Push} {r r' : Receiver ε} {ahead : List (Move ε)} {move : Move ε}

/-- Every move that the receiver makes by itself leaves less to do. -/
lemma work_lt (h : Serving decode processor pushes r ahead) (own : move.isOwn = true)
    (hs : r.step? decode move = some r') : r'.work < r.work := by
  cases steps_of_step? hs with
  | @handle handler handler' event busy moves =>
    obtain ⟨moves, free⟩ := h.moves_of_move? moves
    have less := moves.work_lt
    rw [withHandler_of_isBusy moves.isBusy]
    have slots : (event <|> r.slot).toList.length = event.toList.length + r.slot.toList.length := by
      cases event with
      | none => simp
      | some event => simp [free rfl]
    simp only [work, busy, Option.map_some, Option.getD_some]
    omega
  | give waiting slot _ => simp [work, Receiver.mark, waiting, slot, workerWork]
  | drop waiting slot _ => simp [work, waiting, slot, workerWork]
  | succeed busy => simp [work, busy, workerWork]
  | fail busy => simp [work, Receiver.report, Receiver.mark, busy, workerWork]
  | serverEnds stage _ _ => cases stage.symm.trans h.isIdle
  | _ => cases own

/-- At rest the worker waits, the channel is empty, and the handler waits for the body. -/
lemma of_atRest (h : Serving decode processor pushes r ahead) (rest : r.AtRest decode) :
    r.worker = .waiting ∧ r.slot = none ∧
      ∀ handler, r.handler = some handler → handler.move? decode false .free = none := by
  obtain ⟨taken, yet, replies, worked, _⟩ := h.flow
  -- what the processor is busy with it can finish, with any result
  have waiting : r.worker = .waiting := by
    rcases worked.receives with waiting | ⟨event, busy⟩
    · exact waiting
    · have finished : Steps decode r (.processed (.ok ())) _ := .succeed busy
      cases (rest _ rfl).symm.trans finished.step?_eq
  have empty : r.slot = none := by
    cases slot : r.slot with
    | none => rfl
    | some event =>
      cases failed : r.hasFailed with
      | true =>
        have dropped : Steps decode r .take _ := .drop waiting slot failed
        cases (rest _ rfl).symm.trans dropped.step?_eq
      | false =>
        have given : Steps decode r .take _ := .give waiting slot failed
        cases (rest _ rfl).symm.trans given.step?_eq
  refine ⟨waiting, empty, fun handler busy => ?_⟩
  have stuck := rest .handle rfl
  have outlet := h.outlet_eq
  rw [empty] at outlet
  cases moves : handler.move? decode false .free with
  | none => rfl
  | some moved =>
    simp [step?, busy, h.goesOn, outlet, moves] at stuck

/-- A receiver at rest takes what is pushed next. -/
lemma accepts (h : Serving decode processor pushes r (move :: ahead)) (rest : r.AtRest decode) :
    move.isPush = true ∧ ∃ r', r.step? decode move = some r' := by
  obtain ⟨_, _, stuck⟩ := h.of_atRest rest
  obtain ⟨taken, yet, replies, _, handling, _⟩ := h.flow
  cases busy : r.handler with
  | none =>
    rw [busy] at handling
    obtain ⟨later, pushed, _⟩ := handling
    cases later with
    | nil => cases pushed
    | cons push later =>
      cases pushed
      exact ⟨rfl, _, by simp [step?, h.hasServed, busy]; rfl⟩
  | some handler =>
    rw [busy] at handling
    obtain ⟨isBusy, chunks, later, pushed, _⟩ := handling
    have accepted (piece : Option Body.Item) : ∃ r', r.step? decode (.body piece) = some r' := by
      obtain ⟨handler', accepts⟩ := Handler.accepts_of_stuck isBusy (stuck handler busy) piece
      exact ⟨r.withHandler handler', by simp [step?, busy, h.goesOn, accepts]⟩
    cases chunks with
    | nil =>
      cases pushed
      exact ⟨rfl, accepted none⟩
    | cons bytes chunks =>
      cases pushed
      exact ⟨rfl, accepted (some (.chunk bytes))⟩

/-! ## Runs to the end -/

/-- What a receiver does by itself is no move of the platform. -/
lemma not_isPush_of_isOwn (own : move.isOwn = true) : ¬move.isPush = true := by
  cases move <;> first | exact Bool.false_ne_true | cases own

/-- A receiver goes on serving when it moves by itself. -/
lemma step_own (h : Serving decode processor pushes r ahead) (own : move.isOwn = true)
    (served : move.IsServed processor r) (hs : r.step? decode move = some r') :
    Serving decode processor pushes r' ahead := by
  refine Serving.step ?_ served hs
  rw [List.filter_cons_of_neg (not_isPush_of_isOwn own)]
  exact h

/-- What a receiver does by itself does not end the server. -/
lemma serverEnd?_of_isOwn (own : move.isOwn = true) : move.serverEnd? = none := by
  cases move <;> first | rfl | cases own

/-- A receiver that is not at rest can make a move by itself, whatever the processor says. -/
lemma exists_own (processor : Processor ε) (h : ¬r.AtRest decode) :
    ∃ (move : Move ε) (r' : Receiver ε), move.isOwn = true ∧ move.IsServed processor r ∧
      r.step? decode move = some r' := by
  simp only [AtRest, Classical.not_forall] at h
  obtain ⟨move, own, enabled⟩ := h
  cases hs : r.step? decode move with
  | none => exact absurd hs enabled
  | some r' =>
    -- what the processor is busy with it can finish, with the result that it says
    have finishes : ∀ {event}, r.worker = .busy event →
        ∃ r', r.step? decode (.processed (processor r.processed)) = some r' := by
      intro event busy
      cases processor r.processed with
      | ok _ => exact ⟨_, (Steps.succeed busy).step?_eq⟩
      | error cause => exact ⟨_, (Steps.fail busy).step?_eq⟩
    cases steps_of_step? hs with
    | handle _ _ => exact ⟨.handle, _, rfl, trivial, hs⟩
    | give _ _ _ => exact ⟨.take, _, rfl, trivial, hs⟩
    | drop _ _ _ => exact ⟨.take, _, rfl, trivial, hs⟩
    | succeed busy =>
      obtain ⟨r', finished⟩ := finishes busy
      exact ⟨.processed (processor r.processed), r', rfl, rfl, finished⟩
    | fail busy =>
      obtain ⟨r', finished⟩ := finishes busy
      exact ⟨.processed (processor r.processed), r', rfl, rfl, finished⟩
    | serverEnds _ ends _ => cases (serverEnd?_of_isOwn own).symm.trans ends
    | _ => cases own

end Serving

/-- Runs may be put together. -/
lemma Serves.append {r r' r'' : Receiver ε} {moves more : List (Move ε)}
    (h : Serves decode processor r moves r') (h' : Serves decode processor r' more r'') :
    Serves decode processor r (moves ++ more) r'' := by
  induction h' with
  | nil =>
    rw [List.append_nil]
    exact h
  | snoc _ served hs ih =>
    rw [← List.append_assoc]
    exact .snoc ih served hs

/-- A move may be put in front of a run. -/
lemma Serves.cons {r r' r'' : Receiver ε} {move : Move ε} {more : List (Move ε)}
    (served : move.IsServed processor r) (hs : r.step? decode move = some r')
    (h : Serves decode processor r' more r'') : Serves decode processor r (move :: more) r'' :=
  Serves.append (.snoc .nil served hs) h

namespace Serving

variable {pushes : List Push} {r : Receiver ε} {ahead : List (Move ε)}

/-- By itself a receiver makes only so many moves. -/
lemma length_le_work {r' : Receiver ε} {more : List (Move ε)}
    (h : Serving decode processor pushes r ahead) (serves : Serves decode processor r more r')
    (own : ∀ move ∈ more, move.isOwn = true) :
    Serving decode processor pushes r' ahead ∧ more.length + r'.work ≤ r.work := by
  induction serves with
  | nil => exact ⟨h, Nat.le_of_eq (Nat.zero_add _)⟩
  | snoc _ served hs ih =>
    obtain ⟨h', before⟩ := ih fun move hm => own move (List.mem_append_left _ hm)
    have last := own _ (List.mem_append_right _ (List.mem_singleton_self _))
    have less := h'.work_lt last hs
    refine ⟨h'.step_own last served hs, ?_⟩
    rw [List.length_append, List.length_singleton]
    omega

/-- By itself a receiver comes to rest. -/
lemma settles (h : Serving decode processor pushes r ahead) :
    ∃ more r', Serves decode processor r more r' ∧ more.filter Move.isPush = [] ∧
      Serving decode processor pushes r' ahead ∧ r'.AtRest decode := by
  -- on what there is left to do
  generalize left : r.work = n
  induction n using Nat.strongRecOn generalizing r with
  | _ n ih =>
    by_cases rest : r.AtRest decode
    · exact ⟨[], r, .nil, rfl, h, rest⟩
    · obtain ⟨move, r', own, served, hs⟩ := exists_own processor rest
      have h' := h.step_own own served hs
      have less : r'.work < n := left ▸ h.work_lt own hs
      obtain ⟨more, r'', serves, noPushes, h'', rest'⟩ := ih _ less h' rfl
      refine ⟨move :: more, r'', .cons served hs serves, ?_, h'', rest'⟩
      rw [List.filter_cons_of_neg (not_isPush_of_isOwn own), noPushes]

/-- Whatever has happened, a run can be carried on until all is pushed and nothing is left to do. -/
lemma completes (h : Serving decode processor pushes r ahead) :
    ∃ more r', Serves decode processor r more r' ∧ more.filter Move.isPush = ahead ∧
      r'.AtRest decode := by
  induction ahead generalizing r with
  | nil =>
    obtain ⟨more, r', serves, noPushes, _, rest⟩ := h.settles
    exact ⟨more, r', serves, noPushes, rest⟩
  | cons move ahead ih =>
    -- the receiver comes to rest before it takes the next push
    obtain ⟨more, settled, serves, noPushes, h', rest⟩ := h.settles
    obtain ⟨isPush, r', hs⟩ := h'.accepts rest
    have served : move.IsServed processor settled := by
      cases move <;> trivial
    have pushed : [move].filter Move.isPush = [move] := by
      rw [List.filter_cons_of_pos isPush, List.filter_nil]
    have h'' := Serving.step (by rw [pushed]; exact h') served hs
    obtain ⟨later, r'', serves', pushes', rest'⟩ := ih h''
    refine ⟨more ++ move :: later, r'', serves.append (.cons served hs serves'), ?_, rest'⟩
    rw [List.filter_append, noPushes, List.filter_cons_of_pos isPush, pushes']
    rfl

end Serving

/-! ## Faithfulness -/

/-- A receiver has served pushes, some of which may still be under way. -/
structure IsFaithful (decode : List UInt8 → Except DecodeError ε) (processor : Processor ε)
    (pushes : List Push) (moves : List (Move ε)) (r : Receiver ε) : Prop where
  /-- The processor has been given the events of the pushes, none left out, doubled or moved, and none
  after one that it has failed on. -/
  processed : r.processed <+: processor.untilFailure [] (pushes.flatMap (Push.events decode))
  /-- The pushes have been answered one after the other. -/
  answers : r.answers <+: pushes.map (Push.reply decode)
  /-- Once all is pushed and the receiver is at rest, nothing is missing. -/
  complete : moves.filter Move.isPush = pushes.flatMap Push.moves → r.AtRest decode →
    r.processed = processor.untilFailure [] (pushes.flatMap (Push.events decode)) ∧
      r.answers = pushes.map (Push.reply decode)
  /-- The answer is 200 for whole batches and for nothing else. -/
  whole : ∀ push : Push, (push.reply decode).1 = 200 ↔ push.IsWhole decode
  /-- Every other answer has been reported right before it was given. -/
  announced : Announced r.marks
  /-- The first report is the one that the signal carries. -/
  signalled : r.signal.error? = r.reports.head?
  /-- By itself the receiver comes to rest. -/
  settles : ∀ more r', Serves decode processor r more r' → (∀ move ∈ more, move.isOwn = true) →
    more.length ≤ r.work
  /-- The receiver never gets stuck on the way. -/
  completes : ∃ more r', Serves decode processor r more r' ∧
    (moves ++ more).filter Move.isPush = pushes.flatMap Push.moves ∧ r'.AtRest decode

/-- The signal holds the first error that was reported. -/
lemma error?_signalOf (marks : List (Mark ε)) :
    (signalOf marks).error? = (marks.filterMap Mark.report?).head? := by
  have kept (error : Failure) (reports : List Failure) :
      reports.foldl (fun (signal : Signal Failure) e => signal.report e) (.reported error) =
        .reported error := by
    induction reports with
    | nil => rfl
    | cons e reports ih => exact ih
  unfold signalOf
  cases marks.filterMap Mark.report? with
  | nil => rfl
  | cons error reports =>
    rw [List.foldl_cons, Signal.report, kept]
    rfl

/-- At rest with nothing ahead all events have been given to the processor, and all pushes answered. -/
lemma Serving.complete {pushes : List Push} {r : Receiver ε}
    (h : Serving decode processor pushes r []) (rest : r.AtRest decode) :
    r.processed = processor.untilFailure [] (pushes.flatMap (Push.events decode)) ∧
      r.answers = pushes.map (Push.reply decode) := by
  obtain ⟨waiting, empty, _⟩ := h.of_atRest rest
  obtain ⟨taken, yet, replies, worked, handling, events, answers⟩ := h.flow
  -- a handler that is still busy would have moves of the platform ahead
  have idle : yet = [] ∧ replies = [] := by
    cases busy : r.handler with
    | some handler =>
      rw [busy] at handling
      obtain ⟨_, chunks, later, pushed, _⟩ := handling
      cases chunks <;> cases pushed
    | none =>
      rw [busy] at handling
      obtain ⟨later, pushed, rfl, rfl⟩ := handling
      cases later with
      | nil => exact ⟨rfl, rfl⟩
      | cons push later => cases pushed
  obtain ⟨rfl, rfl⟩ := idle
  rw [waiting] at worked
  rw [empty, Option.toList_none, List.append_nil, List.append_nil] at events
  rw [List.append_nil] at answers
  rw [events, answers]
  exact ⟨worked.given_eq, rfl⟩

/-- A receiver that has started and is not shut down gives its processor the events of the pushes in
their order, up to the first failure, and answers each push as it deserves, in whatever order its
parts make their moves. -/
theorem serves_faithfully {pushes : List Push} {moves : List (Move ε)} {r r' : Receiver ε}
    (started : r.IsStarted) (serves : Serves decode processor r moves r')
    (pushed : moves.filter Move.isPush <+: pushes.flatMap Push.moves) :
    IsFaithful decode processor pushes moves r' := by
  obtain ⟨ahead, all⟩ := pushed
  have h := Serving.run started serves all
  obtain ⟨taken, yet, replies, worked, handling, events, answers⟩ := h.flow
  obtain ⟨more, r'', serves', pushes', rest⟩ := h.completes
  refine ⟨?_, ?_, fun complete rest => ?_, Push.reply_ok_iff, h.noted.announced, ?_,
    fun own settled serves all => ?_, more, r'', serves', ?_, rest⟩
  · rw [events, List.append_assoc]
    exact worked.given_prefix _
  · rw [answers]
    exact List.prefix_append _ _
  · rw [complete] at all
    obtain rfl := List.append_right_eq_self.mp all
    exact h.complete rest
  · rw [h.noted.signalled]
    exact error?_signalOf _
  · exact Nat.le_trans (Nat.le_add_right _ _) (h.length_le_work serves all).2
  · rw [List.filter_append, pushes', all]

/-- A request that is no batch, and a batch in two chunks, on whose first event the processor fails. -/
theorem serves_faithfully_mixed :
    ∃ (r r' : Receiver (List UInt8)) (moves : List (Move (List UInt8))),
      r.IsStarted ∧ Serves .ok (fun _ => .error (.plain "full")) r moves r' ∧
      IsFaithful .ok (fun _ => .error (.plain "full"))
        [⟨"GET", []⟩, ⟨"POST", [[0x5B, 0x31], [0x5D]]⟩] moves r' := by
  let r : Receiver (List UInt8) :=
    ({ address := "host:0" } : Receiver (List UInt8)).init ⟨.ok (), some 8080, .ok ()⟩
  have started : r.IsStarted := ⟨_, _, rfl, rfl⟩
  let moves : List (Move (List UInt8)) :=
    [.request "GET", .request "POST", .body (some (.chunk [0x5B, 0x31])),
      .body (some (.chunk [0x5D])), .handle, .handle, .handle, .take, .body none,
      .processed (.error (.plain "full"))]
  obtain ⟨r', serves⟩ : ∃ r', Serves .ok (fun _ => .error (.plain "full")) r moves r' :=
    ⟨_, .cons trivial rfl <| .cons trivial rfl <| .cons trivial rfl <| .cons trivial rfl <|
      .cons trivial rfl <| .cons trivial rfl <| .cons trivial rfl <| .cons trivial rfl <|
      .cons trivial rfl <| .cons rfl rfl .nil⟩
  exact ⟨r, r', moves, started, serves, serves_faithfully started serves ⟨[], rfl⟩⟩

end Receiver

end Sidecar
