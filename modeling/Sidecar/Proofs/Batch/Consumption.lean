import Sidecar.Proofs.Batch.Turns

/-!
# How much of a body is taken

A body is taken piece by piece: by decoding, up to the item that holds the reason why it ends
(`Body.Stops`), and then by draining, up to the end of the body or the next failure (`Body.Drains`).
`decodeBatch_accounts` puts the two parts together: which items are decoded, which are drained, and that
draining makes no difference.
-/

namespace Sidecar

open Channel

variable {ε : Type} {decode decode' : List UInt8 → Except DecodeError ε} {c c₁ : Channel ε}
  {interludes interludes₁ : Interludes} {scanner : Scanner} {sent consumed : Nat}
  {turns : List Body.Turn} {taken : List Body.Item} {bytes : List UInt8} {decoded d : Decoded ε}

/-! ## The piece that ends decoding -/

namespace Body

/-- Chunks in which nothing ends decoding: they hold the front of an array, and all elements that they
complete are events. -/
structure Passes (decode : List UInt8 → Except DecodeError ε) (scanner : Scanner)
    (front : List Item) : Prop where
  chunks : failure? front = none
  clean : (scanner.push (readable front)).problem = none
  isOpen : (scanner.push (readable front)).scanner.isClosed = false
  events : ∀ raw ∈ (scanner.push (readable front)).elements, ∃ event, decode raw = .ok event

/-- What the item holds that ends decoding with this result. -/
inductive Holds (decode : List UInt8 → Except DecodeError ε) (scanner : Scanner) :
    Item → Except DecodeError Nat → Prop where
  | closingBracket {bytes : List UInt8} {n : Nat} :
    (scanner.push bytes).scanner.isClosed = true →
    Holds decode scanner (.chunk bytes) (.ok n)
  | malformedByte {bytes : List UInt8} {problem : Scanner.Problem} :
    (scanner.push bytes).problem = some problem →
    Holds decode scanner (.chunk bytes) (.error problem.error)
  | undecodable {bytes raw : List UInt8} {e : DecodeError} :
    raw ∈ (scanner.push bytes).elements → decode raw = .error e →
    Holds decode scanner (.chunk bytes) (.error e)
  | unsendable {bytes raw : List UInt8} {event : ε} :
    raw ∈ (scanner.push bytes).elements → decode raw = .ok event →
    Holds decode scanner (.chunk bytes) (.error .channelClosed)
  | failure {cause : Failure} :
    Holds decode scanner (.failure cause) (.error (.body cause))

/-- Decoding ends after these items of the body: the last one holds what ends it, or there are no more and
the array is open. -/
inductive Stops (decode : List UInt8 → Except DecodeError ε) (scanner : Scanner) :
    List Item → List Item → Except DecodeError Nat → Prop where
  | last {front behind : List Item} {item : Item} {result : Except DecodeError Nat} :
    Passes decode scanner front →
    Holds decode (scanner.push (readable front)).scanner item result →
    Stops decode scanner (front ++ [item]) behind result
  | ended {taken : List Item} {problem : Scanner.Problem} :
    Passes decode scanner taken →
    (scanner.push (readable taken)).scanner.finish = .error problem →
    Stops decode scanner taken [] (.error problem.error)

variable {front behind : List Item} {item : Item} {result : Except DecodeError Nat}

/-- Nothing ends decoding where there is no chunk. -/
lemma passes_nil (hopen : scanner.state ≠ .closed) : Passes decode scanner [] := by
  refine ⟨rfl, rfl, ?_, nofun⟩
  exact Bool.eq_false_iff.mpr fun closed => hopen (Scanner.isClosed_iff.mp closed)

/-- A chunk that does not end decoding may come before others that do not. -/
lemma Passes.cons (clean : (scanner.push bytes).problem = none)
    (events : ∀ raw ∈ (scanner.push bytes).elements, ∃ event, decode raw = .ok event)
    (h : Passes decode (scanner.push bytes).scanner front) :
    Passes decode scanner (.chunk bytes :: front) := by
  have push := push_readable_cons clean front
  refine ⟨h.chunks, ?_, ?_, ?_⟩
  · rw [push]
    exact h.clean
  · rw [push]
    exact h.isOpen
  · rw [push]
    exact List.forall_mem_append.mpr ⟨events, h.events⟩

/-- A chunk that does not end decoding may come before what does. -/
lemma Stops.cons (clean : (scanner.push bytes).problem = none)
    (events : ∀ raw ∈ (scanner.push bytes).elements, ∃ event, decode raw = .ok event)
    (h : Stops decode (scanner.push bytes).scanner taken behind result) :
    Stops decode scanner (.chunk bytes :: taken) behind result := by
  cases h with
  | @last front _ item _ passes holds =>
    refine .last (passes.cons clean events) ?_
    rw [push_readable_cons clean]
    exact holds
  | ended passes finish =>
    refine .ended (passes.cons clean events) ?_
    rw [push_readable_cons clean]
    exact finish

/-- An item that ends decoding may be the first. -/
lemma Stops.single (hopen : scanner.state ≠ .closed) (holds : Holds decode scanner item result) :
    Stops decode scanner [item] behind result :=
  @Stops.last _ decode scanner [] behind item result (passes_nil hopen) holds

end Body

/-! ## Why decoding ends -/

/-- Elements that have all been sent are events. -/
lemma exists_event_of_sent {elements : List (List UInt8)}
    (h : sendElements decode c interludes elements = (.ok (), c₁, interludes₁)) :
    ∀ raw ∈ elements, ∃ event, decode raw = .ok event := by
  induction elements generalizing c interludes with
  | nil => nofun
  | cons raw elements ih =>
    cases hr : decode raw with
    | error e => simp only [sendElements, hr, Prod.mk.injEq, reduceCtorEq, false_and] at h
    | ok event =>
      rcases hs : c.post event interludes with ⟨_ | ⟨⟨⟩⟩, c₂, interludes₂⟩
      · rw [sendElements_of_refused hr hs] at h
        cases h
      · rw [sendElements_of_sent hr hs] at h
        exact List.forall_mem_cons.mpr ⟨⟨event, hr⟩, ih h⟩

/-- An element to which sending gives an error is no event, or it is one that the channel refuses. -/
lemma exists_element_of_error {elements : List (List UInt8)} {e : DecodeError}
    (h : sendElements decode c interludes elements = (.error e, c₁, interludes₁)) :
    ∃ raw ∈ elements, decode raw = .error e ∨ (∃ event, decode raw = .ok event) ∧ c₁.Refuses e := by
  induction elements generalizing c interludes with
  | nil => cases h
  | cons raw elements ih =>
    cases hr : decode raw with
    | error e' =>
      simp only [sendElements, hr, Prod.mk.injEq, Except.error.injEq] at h
      exact ⟨raw, List.mem_cons_self .., .inl (h.1 ▸ hr)⟩
    | ok event =>
      obtain ⟨marks, -, result⟩ := c.post_ends event interludes
      rcases hs : c.post event interludes with ⟨_ | ⟨⟨⟩⟩, c₂, interludes₂⟩
      · rw [sendElements_of_refused hr hs] at h
        cases h
        rw [hs] at result
        obtain ⟨ok, -⟩ | ⟨_, same, refuses, -⟩ := result
        · cases ok
        · cases same
          exact ⟨raw, List.mem_cons_self .., .inr ⟨⟨event, hr⟩, refuses⟩⟩
      · rw [sendElements_of_sent hr hs] at h
        obtain ⟨raw', mem, fails⟩ := ih h
        exact ⟨raw', List.mem_cons_of_mem _ mem, fails⟩

/-- A chunk whose elements cannot all be sent holds the reason, unless that is a cancellation. -/
lemma Body.holds_of_stopped {e : DecodeError} (wanted : e ≠ .interrupted)
    (h : sendElements decode c interludes (scanner.push bytes).elements =
      (.error e, c₁, interludes₁)) : Body.Holds decode scanner (.chunk bytes) (.error e) := by
  obtain ⟨raw, mem, fails | ⟨⟨event, decodes⟩, refuses⟩⟩ := exists_element_of_error h
  · exact .undecodable mem fails
  · cases refuses with
    | cancelled => exact absurd rfl wanted
    | closed => exact .unsendable mem decodes

/-- Decoding that is not interrupted ends with the item that holds the reason, or with the body. -/
lemma Decodes.stops (h : Decodes decode scanner sent consumed c interludes turns taken d)
    (hopen : scanner.state ≠ .closed) (wanted : d.result ≠ .error .interrupted) :
    Body.Stops decode scanner taken (Body.items d.rest) d.result := by
  induction h with
  | cancelled => exact absurd rfl wanted
  | ended _ finish => exact .ended (Body.passes_nil hopen) finish
  | wait _ _ ih => exact ih hopen wanted
  | failure => exact .single hopen .failure
  | stopped _ hs =>
    exact .single hopen (Body.holds_of_stopped (fun same => wanted (congrArg _ same)) hs)
  | malformed _ _ hp => exact .single hopen (.malformedByte hp)
  | closed _ _ hc => exact .single hopen (.closingBracket (Scanner.isClosed_iff.mpr hc))
  | chunk _ hs hp hc _ ih => exact (ih hc wanted).cons hp (exists_event_of_sent hs)

/-! ## Draining -/

/-- These items are drained, and those behind them are left: either there are none, or the last item drained
is the first failure. -/
inductive Body.Drains : List Body.Item → List Body.Item → Prop where
  | all {drained : List Body.Item} :
    Body.failure? drained = none →
    Drains drained []
  | failure {front behind : List Body.Item} {cause : Failure} :
    Body.failure? front = none →
    Drains (front ++ [.failure cause]) behind

/-- One chunk more is drained with the others. -/
lemma Body.Drains.cons {drained behind : List Body.Item} (h : Body.Drains drained behind)
    (bytes : List UInt8) : Body.Drains (.chunk bytes :: drained) behind := by
  cases h with
  | all chunks => exact .all chunks
  | @failure front _ cause chunks => exact @Drains.failure (.chunk bytes :: front) behind cause chunks

/-- Draining takes the first items. If nobody cancels, there is one end to it. -/
lemma exists_drained (d : Decoded ε) (turns : List Body.Turn) :
    ∃ drained, Body.items turns = drained ++ Body.items (drain d turns).rest ∧
      (drain d turns).consumed = d.consumed + drained.length ∧
      ((drain d turns).channel.cancelled = false →
        Body.Drains drained (Body.items (drain d turns).rest)) := by
  induction turns generalizing d with
  | nil => exact ⟨[], rfl, rfl, fun _ => .all rfl⟩
  | cons turn turns ih =>
    cases turn with
    | wait meanwhile =>
      cases hn : (d.channel.afterAll meanwhile).cancelled with
      | true =>
        have stops : drain d (.wait meanwhile :: turns) =
            { d with channel := d.channel.afterAll meanwhile, rest := turns } := by
          simp only [drain, hn, if_true]
        rw [stops]
        -- draining stops in the middle of the body, as somebody has cancelled
        refine ⟨[], rfl, rfl, fun uncancelled => ?_⟩
        rw [hn] at uncancelled
        cases uncancelled
      | false =>
        have goesOn : drain d (.wait meanwhile :: turns) =
            drain { d with channel := d.channel.afterAll meanwhile } turns := by
          simp only [drain, hn, Bool.false_eq_true, if_false]
        rw [goesOn]
        exact ih _
    | deliver item meanwhile =>
      cases item with
      | failure cause => exact ⟨[.failure cause], rfl, rfl, fun _ => @Body.Drains.failure [] _ _ rfl⟩
      | chunk bytes =>
        obtain ⟨drained, split, consumed, drains⟩ :=
          ih { d with channel := d.channel.afterAll meanwhile, consumed := d.consumed + 1 }
        refine ⟨.chunk bytes :: drained, congrArg _ split, ?_, fun uncancelled => ?_⟩
        · rw [List.length_cons, ← Nat.add_assoc, Nat.add_right_comm]
          exact consumed
        · exact (drains uncancelled).cons bytes

/-- The rest of the body is drained, unless decoding was interrupted or has been cancelled since. -/
lemma decodeBatch_cases
    (h : decodeElements decode .initial 0 0 c interludes turns = decoded) :
    decodeBatch decode c interludes turns = decoded ∧
        (decoded.result = .error .interrupted ∨ decoded.channel.cancelled = true) ∨
      decodeBatch decode c interludes turns = drain decoded decoded.rest ∧
        decoded.result ≠ .error .interrupted := by
  unfold decodeBatch
  rw [h]
  dsimp only
  split
  · next interrupted => exact .inl ⟨rfl, .inl interrupted⟩
  · next other =>
    by_cases cancelled : decoded.channel.cancelled = true
    · rw [if_pos cancelled]
      exact .inl ⟨rfl, .inr cancelled⟩
    · rw [if_neg cancelled]
      exact .inr ⟨rfl, other⟩

/-- A batch is decoded alike by two decoders that agree on the elements. -/
lemma decodeBatch_congr (same : decodeElements decode' .initial 0 0 c interludes turns =
      decodeElements decode .initial 0 0 c interludes turns) :
    decodeBatch decode' c interludes turns = decodeBatch decode c interludes turns := by
  rw [decodeBatch, decodeBatch, same]

/-- Draining sends nothing. -/
lemma drain_sent (d : Decoded ε) (turns : List Body.Turn) :
    (drain d turns).channel.sent = d.channel.sent := by
  obtain ⟨-, marks, draining, none⟩ := drain_idles d turns
  rw [draining.sent_eq, none, List.append_nil]

/-- What draining after decoding does: nothing if decoding was interrupted, and all there is to do if nobody
cancels. -/
lemma decodeBatch_drains
    (h : decodeElements decode .initial 0 0 c interludes turns = decoded)
    (hd : decodeBatch decode c interludes turns = d) :
    d.result = decoded.result ∧ d.channel.sent = decoded.channel.sent ∧
      ∃ drained, Body.items decoded.rest = drained ++ Body.items d.rest ∧
        d.consumed = decoded.consumed + drained.length ∧
        (d.result = .error .interrupted → d = decoded ∧ drained = []) ∧
        (d.result ≠ .error .interrupted → d.channel.cancelled = false →
          Body.Drains drained (Body.items d.rest)) := by
  rcases decodeBatch_cases h with ⟨same, stopped⟩ | ⟨same, wanted⟩
  · obtain rfl := hd.symm.trans same
    refine ⟨rfl, rfl, [], rfl, rfl, fun _ => ⟨rfl, rfl⟩, fun wanted uncancelled => ?_⟩
    rcases stopped with interrupted | cancelled
    · exact absurd interrupted wanted
    · rw [cancelled] at uncancelled
      cases uncancelled
  · obtain rfl := hd.symm.trans same
    have result_eq : (drain decoded decoded.rest).result = decoded.result := (drain_idles _ _).1
    obtain ⟨drained, split, consumed, drains⟩ := exists_drained decoded decoded.rest
    refine ⟨result_eq, drain_sent _ _, drained, split, consumed, fun interrupted => ?_,
      fun _ => drains⟩
    rw [result_eq] at interrupted
    exact absurd interrupted wanted

/-- What becomes of the items of a body when a batch is decoded: some are `taken` by decoding, which ends
as `decoded`, then some are `drained`, until all ends as `d`, and the others are `left`. -/
structure Decoded.Accounts (decode : List UInt8 → Except DecodeError ε) (c : Channel ε)
    (interludes : Interludes) (turns : List Body.Turn) (decoded d : Decoded ε)
    (taken drained left : List Body.Item) : Prop where
  items_eq : Body.items turns = taken ++ drained ++ left
  taken_eq : decoded.consumed = taken.length
  consumed_eq : d.consumed = taken.length + drained.length
  left_eq : Body.items d.rest = left
  /-- Draining does not change the result. -/
  result_eq : d.result = decoded.result
  /-- Draining sends nothing: all that is sent are the events of the first elements of what was taken. -/
  sent_eq : d.channel.sent = decoded.channel.sent ∧
    ∃ events, d.channel.sent = c.sent ++ events ∧
      ∃ k ≤ (Body.scanned taken).elements.length,
        ((Body.scanned taken).elements.take k).map decode = events.map .ok
  /-- No other elements are decoded: it makes no difference what another decoder says to them. -/
  undecoded : ∀ decode', (∀ raw ∈ (Body.scanned taken).elements, decode' raw = decode raw) →
    decodeBatch decode' c interludes turns = d
  /-- Decoding asks for a turn only if cancellation has not fired by the end of the turns before it. -/
  asked : ∀ front turn back, turns = front ++ turn :: back → decoded.rest <:+ back →
    (decodeElements decode .initial 0 0 c interludes front).channel.cancelled = false
  /-- Once decoding has been interrupted, nothing is taken. -/
  of_interrupted : d.result = .error .interrupted → d = decoded ∧ drained = []
  /-- Otherwise, if cancellation never fires, decoding ends with the item that holds the reason, or with the
  body, and what follows is drained up to the end or the next failure. -/
  of_uncancelled : d.result ≠ .error .interrupted → d.channel.cancelled = false →
    Body.Stops decode .initial taken (drained ++ left) d.result ∧ Body.Drains drained left

/-- Under every schedule the body of a batch is accounted for. -/
theorem decodeBatch_accounts (decode : List UInt8 → Except DecodeError ε) (c : Channel ε)
    (interludes : Interludes) (turns : List Body.Turn) :
    ∃ taken drained left, Decoded.Accounts decode c interludes turns
      (decodeElements decode .initial 0 0 c interludes turns) (decodeBatch decode c interludes turns)
      taken drained left := by
  have hopen : Scanner.initial.state ≠ .closed := Scanner.State.noConfusion
  obtain ⟨taken, decodes⟩ := exists_decodes decode hopen 0 0 c interludes turns
  generalize whole : decodeElements decode .initial 0 0 c interludes turns = decoded at decodes
  generalize all : decodeBatch decode c interludes turns = d
  have taken_eq : decoded.consumed = taken.length := decodes.consumed_eq.trans (Nat.zero_add _)
  obtain ⟨marks, sending, front⟩ := decodes.carries
  obtain ⟨length, first⟩ := map_decode_take front
  -- what decoding leaves is drained, so the items are cut twice: where decoding ended and where draining did
  obtain ⟨result_eq, sent_eq, drained, split, consumed, interrupted, drains⟩ :=
    decodeBatch_drains whole all
  refine ⟨taken, drained, Body.items d.rest, ?_⟩
  constructor
  case items_eq => rw [decodes.items_eq, split, List.append_assoc]
  case taken_eq => exact taken_eq
  case consumed_eq => rw [consumed, taken_eq]
  case left_eq => rfl
  case result_eq => exact result_eq
  case sent_eq =>
    rw [sent_eq]
    exact ⟨rfl, _, sending.sent_eq, _, length, first⟩
  case undecoded =>
    intro decode' same
    rw [← all]
    exact decodeBatch_congr ((decodes.congr same).decodeElements_eq.trans whole.symm)
  case asked => exact fun front turn back split reached => decodes.asked split reached.length_le
  case of_interrupted => exact interrupted
  case of_uncancelled =>
    intro wanted uncancelled
    have stops := decodes.stops hopen (result_eq ▸ wanted)
    rw [split, ← result_eq] at stops
    exact ⟨stops, drains wanted uncancelled⟩

end Sidecar
