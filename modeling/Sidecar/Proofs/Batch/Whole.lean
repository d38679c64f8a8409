import Sidecar.Proofs.Batch.Schedule

/-!
# Decoding in pieces and as a whole

If nobody interferes, decoding a batch piece by piece comes to what its bytes come to as one text: the
same events in the same order, and the same result (`decodeBatch_eq_decodeWhole`). How the bytes are
cut, and what follows the closing bracket, makes no difference.

Nobody interferes if decoding is not cancelled and the channel not closed. That is so whenever the
consumer does nothing but read, and reads again whenever the decoder is blocked (`AlwaysRead`).
-/

namespace Sidecar

open Channel

variable {ε : Type} {decode : List UInt8 → Except DecodeError ε} {c c₁ : Channel ε}

/-- Nobody has interfered with decoding. -/
def Decoded.Undisturbed (d : Decoded ε) : Prop :=
  d.channel.cancelled = false ∧ d.channel.closed = false

/-- Decoding has had an outcome: its result, and its events behind those that had been sent. -/
def Decoded.Yields (d : Decoded ε) (c : Channel ε) (outcome : Outcome ε) : Prop :=
  d.channel.sent = c.sent ++ outcome.1 ∧ d.result = outcome.2

/-- Undisturbed decoding has the outcome of the whole body. -/
lemma Decoded.Undisturbed.yields {interludes : Interludes} {turns : List Body.Turn}
    (h : (decodeBatch decode c interludes turns).Undisturbed) :
    (decodeBatch decode c interludes turns).Yields c (decodeWhole decode (Body.items turns)) := by
  obtain ⟨decoded, decoding, draining, changes, changes', none, result, ends⟩ :=
    decodeBatch_outcome decode c interludes turns
  have sent : (decodeBatch decode c interludes turns).channel.sent = c.sent ++ sentIn decoding := by
    rw [changes'.sent_eq, changes.sent_eq, none, List.append_nil]
  rcases ends with done | ⟨e, _, refused, _⟩
  · rw [← done]
    exact ⟨sent, result⟩
  · cases refused with
    | cancelled hn =>
      rw [changes'.not_cancelled h.1] at hn
      cases hn
    | closed hc _ =>
      rw [changes'.not_closed h.2] at hc
      cases hc

/-! ## A consumer that always reads -/

/-- A channel on which an event can be sent, at once or after a read. -/
structure Channel.Ready (c : Channel ε) : Prop where
  notCancelled : c.cancelled = false
  notClosed : c.closed = false
  hasCapacity : 0 < c.capacity
  fits : c.buffer.length ≤ c.capacity

/-- Nothing happens but reads. -/
def OnlyReads (happenings : List Happening) : Prop :=
  ∀ happening ∈ happenings, happening = .read

/-- How often the consumer reads while the decoder is blocked. -/
def Blockings.reads (blockings : Blockings) : Nat :=
  blockings.countP (Happening.read ∈ ·)

/-- What happens at a turn. -/
def Body.Turn.meanwhile : Body.Turn → List Happening
  | .deliver _ meanwhile => meanwhile
  | .wait meanwhile => meanwhile

/-- While events are sent, nothing happens but reads. -/
structure Interludes.OnlyRead (interludes : Interludes) : Prop where
  onPauses : ∀ meanwhile ∈ interludes.pauses, OnlyReads meanwhile
  onBlockings : ∀ meanwhile ∈ interludes.blockings, OnlyReads meanwhile

/-- The consumer does nothing but read, and reads while the decoder is blocked, often enough for all
elements of the body. -/
structure AlwaysRead (c : Channel ε) (interludes : Interludes) (turns : List Body.Turn) : Prop where
  ready : c.Ready
  onTurns : ∀ turn ∈ turns, OnlyReads turn.meanwhile
  onInterludes : interludes.OnlyRead
  enough : (Body.scanned (Body.items turns)).elements.length ≤ interludes.blockings.reads

namespace Channel

/-- Reads leave a channel ready, with room for an event if there was at least one. -/
lemma Ready.afterAll (h : c.Ready) {happenings : List Happening} (reads : OnlyReads happenings) :
    (c.afterAll happenings).Ready ∧ (c.afterAll happenings).capacity = c.capacity ∧
      (c.afterAll happenings).buffer.length ≤ c.buffer.length ∧
      (.read ∈ happenings → (c.afterAll happenings).buffer.length < c.capacity) := by
  induction happenings generalizing c with
  | nil => exact ⟨h, rfl, Nat.le_refl _, nofun⟩
  | cons happening happenings ih =>
    obtain ⟨rfl, later⟩ : happening = .read ∧ OnlyReads happenings := List.forall_mem_cons.mp reads
    have first : (c.after .read).Ready ∧ (c.after .read).capacity = c.capacity ∧
        (c.after .read).buffer.length = c.buffer.length - 1 := by
      cases hb : c.buffer with
      | nil =>
        have same : c.after .read = c := by rw [after, hb]
        rw [same, hb]
        exact ⟨h, rfl, rfl⟩
      | cons event rest =>
        have next : c.after .read = { c with buffer := rest }.note (.taken event) := by
          rw [after, hb]
        rw [next]
        have fits : rest.length ≤ c.capacity := by
          have := h.fits
          rw [hb, List.length_cons] at this
          omega
        exact ⟨⟨h.notCancelled, h.notClosed, h.hasCapacity, fits⟩, rfl, rfl⟩
    obtain ⟨ready, capacity, length⟩ := first
    obtain ⟨ready', capacity', length', _⟩ := ih ready later
    have hasCapacity := h.hasCapacity
    have fits := h.fits
    refine ⟨ready', capacity'.trans capacity, ?_, fun _ => ?_⟩
    · exact Nat.le_trans length' (by omega)
    · exact Nat.lt_of_le_of_lt length' (by omega)

/-- A channel that is ready takes an event if there is room, and stays ready. -/
lemma Ready.offer (h : c.Ready) (room : c.buffer.length < c.capacity) (event : ε) :
    c.offer? event = some (.ok (), c.put event) ∧ (c.put event).Ready := by
  constructor
  · simp only [offer?, h.notCancelled, h.notClosed, room, Bool.false_eq_true, if_false, if_true]
  · refine ⟨h.notCancelled, h.notClosed, h.hasCapacity, ?_⟩
    change (c.buffer ++ [event]).length ≤ c.capacity
    rw [List.length_append]
    exact room

/-- An offer that is answered at once needs no waiting. -/
lemma send_of_offer {event : ε} {result : Except DecodeError Unit} {blockings : Blockings}
    (h : c.offer? event = some (result, c₁)) : c.send event blockings = (result, c₁, blockings) := by
  cases blockings <;> simp only [send, h]

/-- On a ready channel an event is sent after one read at most. -/
lemma Ready.send (h : c.Ready) (event : ε) {blockings : Blockings}
    (onBlockings : ∀ meanwhile ∈ blockings, OnlyReads meanwhile) (enough : 0 < blockings.reads) :
    ∃ c₁ blockings₁, c.send event blockings = (.ok (), c₁, blockings₁) ∧ c₁.Ready ∧
      (∀ meanwhile ∈ blockings₁, OnlyReads meanwhile) ∧
      blockings.reads ≤ blockings₁.reads + 1 := by
  induction blockings with
  | nil => cases enough
  | cons meanwhile blockings ih =>
    by_cases room : c.buffer.length < c.capacity
    · obtain ⟨offer, ready⟩ := h.offer room event
      exact ⟨_, _, send_of_offer offer, ready, onBlockings, Nat.le_succ _⟩
    have blocked : c.offer? event = none := by
      simp only [offer?, h.notCancelled, h.notClosed, room, Bool.false_eq_true, if_false]
    have waits : c.send event (meanwhile :: blockings) =
        (c.afterAll meanwhile).send event blockings := by
      simp only [Channel.send, blocked]
    obtain ⟨reads, later⟩ := List.forall_mem_cons.mp onBlockings
    rw [waits]
    by_cases read : .read ∈ meanwhile
    · obtain ⟨ready, capacity, _, freed⟩ := h.afterAll reads
      obtain ⟨offer, ready'⟩ := ready.offer (capacity ▸ freed read) event
      refine ⟨_, _, send_of_offer offer, ready', later, ?_⟩
      rw [Blockings.reads, List.countP_cons_of_pos (by simpa using read)]
      exact Nat.le_refl _
    · -- nothing has happened, and the decoder is blocked as before
      have nothing : meanwhile = [] := by
        cases meanwhile with
        | nil => rfl
        | cons happening _ =>
          obtain ⟨rfl, _⟩ := List.forall_mem_cons.mp reads
          exact absurd (List.mem_cons_self ..) read
      subst nothing
      have same : Blockings.reads ([] :: blockings) = Blockings.reads blockings :=
        List.countP_cons_of_neg (by simp)
      rw [same] at enough ⊢
      exact ih later enough

/-- What is read before makes no difference to that. -/
lemma Ready.post (h : c.Ready) (event : ε) {interludes : Interludes} (reads : interludes.OnlyRead)
    (enough : 0 < interludes.blockings.reads) :
    ∃ c₁ interludes₁, c.post event interludes = (.ok (), c₁, interludes₁) ∧ c₁.Ready ∧
      interludes₁.OnlyRead ∧ interludes.blockings.reads ≤ interludes₁.blockings.reads + 1 := by
  obtain ⟨pauses, blockings⟩ := interludes
  have first : OnlyReads (pauses.headD []) := by
    cases pauses with
    | nil => nofun
    | cons meanwhile pauses => exact reads.onPauses meanwhile (List.mem_cons_self ..)
  obtain ⟨c₁, blockings₁, sent, ready, onBlockings₁, left⟩ :=
    (h.afterAll first).1.send event reads.onBlockings enough
  have later : ∀ meanwhile ∈ pauses.tail, OnlyReads meanwhile :=
    fun meanwhile mem => reads.onPauses meanwhile (List.mem_of_mem_tail mem)
  refine ⟨c₁, ⟨pauses.tail, blockings₁⟩, ?_, ready, ⟨later, onBlockings₁⟩, left⟩
  simp only [Channel.post, sent]

end Channel

/-- Enough reads keep the channel ready while the elements of a chunk are sent. -/
lemma sendElements_ready (decode : List UInt8 → Except DecodeError ε) (h : c.Ready)
    {interludes : Interludes} {elements : List (List UInt8)} (onlyRead : interludes.OnlyRead)
    (enough : elements.length ≤ interludes.blockings.reads) :
    ∃ answer c₁ interludes₁, sendElements decode c interludes elements = (answer, c₁, interludes₁) ∧
      c₁.Ready ∧ interludes₁.OnlyRead ∧
      (answer = .ok () →
        interludes.blockings.reads ≤ interludes₁.blockings.reads + elements.length) := by
  induction elements generalizing c interludes with
  | nil => exact ⟨_, c, interludes, rfl, h, onlyRead, fun _ => Nat.le_refl _⟩
  | cons raw elements ih =>
    rw [List.length_cons] at enough
    cases hr : decode raw with
    | error e =>
      have stops : sendElements decode c interludes (raw :: elements) = (.error e, c, interludes) := by
        simp only [sendElements, hr]
      refine ⟨_, c, interludes, stops, h, onlyRead, fun ok => ?_⟩
      cases ok
    | ok event =>
      obtain ⟨c₁, interludes₁, sent, ready, onlyRead₁, reads⟩ :=
        h.post event onlyRead (Nat.lt_of_lt_of_le (Nat.succ_pos _) enough)
      rw [sendElements_of_sent hr sent]
      obtain ⟨answer, c₂, interludes₂, others, ready', onlyRead₂, reads'⟩ :=
        ih ready onlyRead₁ (by omega)
      refine ⟨answer, c₂, interludes₂, others, ready', onlyRead₂, fun ok => ?_⟩
      have := reads' ok
      rw [List.length_cons]
      omega

/-- Enough reads keep the channel ready until decoding ends. -/
lemma decodeElements_ready (decode : List UInt8 → Except DecodeError ε) (h : c.Ready)
    (scanner : Scanner) {interludes : Interludes} {turns : List Body.Turn}
    (onTurns : ∀ turn ∈ turns, OnlyReads turn.meanwhile)
    (onlyRead : interludes.OnlyRead)
    (enough : (scanner.push (Body.readable (Body.items turns))).elements.length ≤
      interludes.blockings.reads)
    (sent consumed : Nat) :
    (decodeElements decode scanner sent consumed c interludes turns).channel.Ready ∧
      ∀ turn ∈ (decodeElements decode scanner sent consumed c interludes turns).rest,
        OnlyReads turn.meanwhile := by
  induction turns generalizing c scanner interludes sent consumed with
  | nil =>
    rw [decodeElements_nil h.notCancelled]
    exact ⟨h, nofun⟩
  | cons turn turns ih =>
    obtain ⟨reads, later⟩ := List.forall_mem_cons.mp onTurns
    cases turn with
    | wait meanwhile =>
      rw [decodeElements_wait h.notCancelled]
      exact ih (h.afterAll reads).1 scanner later onlyRead enough sent consumed
    | deliver item meanwhile =>
      have ready : (c.afterAll meanwhile).Ready := (h.afterAll reads).1
      cases item with
      | failure cause =>
        rw [decodeElements_failure h.notCancelled]
        exact ⟨ready, later⟩
      | chunk bytes =>
        rw [Body.items, Body.readable] at enough
        -- the reads that the chunk leaves are enough for the elements behind it
        have first := (scanner.elements_prefix_append bytes
          (Body.readable (Body.items turns))).length_le
        obtain ⟨answer, c₁, interludes₁, hs, ready₁, onlyRead₁, left⟩ :=
          sendElements_ready decode ready onlyRead (Nat.le_trans first enough)
        cases answer with
        | error e =>
          rw [decodeElements_of_error h.notCancelled hs]
          exact ⟨ready₁, later⟩
        | ok =>
          cases hp : (scanner.push bytes).problem with
          | some problem =>
            rw [decodeElements_of_problem h.notCancelled hs hp]
            exact ⟨ready₁, later⟩
          | none =>
            by_cases hc : (scanner.push bytes).scanner.state = .closed
            · rw [decodeElements_of_closed h.notCancelled hs hc]
              exact ⟨ready₁, later⟩
            · rw [decodeElements_of_open h.notCancelled hs hp hc]
              refine ih ready₁ _ later onlyRead₁ ?_ _ _
              have := left rfl
              rw [Scanner.push_append_of_clean hp, List.length_append] at enough
              omega

/-- Draining leaves a channel ready if nothing happens but reads. -/
lemma drain_ready {d : Decoded ε} (h : d.channel.Ready) {turns : List Body.Turn}
    (onTurns : ∀ turn ∈ turns, OnlyReads turn.meanwhile) : (drain d turns).channel.Ready := by
  induction turns generalizing d with
  | nil => exact h
  | cons turn turns ih =>
    obtain ⟨reads, later⟩ := List.forall_mem_cons.mp onTurns
    cases turn with
    | wait meanwhile =>
      have ready := (h.afterAll reads).1
      unfold drain
      dsimp only
      split
      · exact ready
      · exact ih (d := { d with channel := d.channel.afterAll meanwhile }) ready later
    | deliver item meanwhile =>
      have ready := (h.afterAll reads).1
      cases item with
      | failure cause => exact ready
      | chunk bytes => exact ih (d := { d with channel := _, consumed := _ }) ready later

/-- With a consumer that always reads nothing disturbs decoding. -/
lemma AlwaysRead.undisturbed {interludes : Interludes} {turns : List Body.Turn}
    (h : AlwaysRead c interludes turns) :
    (decodeBatch decode c interludes turns).Undisturbed := by
  obtain ⟨ready, later⟩ := decodeElements_ready decode h.ready .initial h.onTurns
    h.onInterludes h.enough 0 0
  unfold decodeBatch
  dsimp only
  generalize decodeElements decode .initial 0 0 c interludes turns = decoded at ready later
  have undisturbed : ∀ {d : Decoded ε}, d.channel.Ready → d.Undisturbed :=
    fun ready => ⟨ready.notCancelled, ready.notClosed⟩
  split
  · exact undisturbed ready
  split
  · exact undisturbed ready
  · exact undisturbed (drain_ready ready later)

/-! ## What makes no difference -/

/-- A body that does not fail has the outcome of its bytes in one chunk. -/
lemma decodeWhole_of_bytes {items : List Body.Item} (h : Body.failure? items = none) :
    decodeWhole decode items = decodeWhole decode [.chunk (Body.readable items)] := by
  have readable : Body.readable [.chunk (Body.readable items)] = Body.readable items :=
    List.append_nil _
  simp only [decodeWhole, readable, h, Body.failure?]

/-- The outcome of a body is that of its bytes up to the closing bracket. -/
lemma decodeWhole_of_closed {items : List Body.Item} {front back : List UInt8}
    (h : Body.readable items = front ++ back)
    (hc : (Scanner.initial.push front).scanner.state = .closed) :
    decodeWhole decode items = decodeWhole decode [.chunk front] := by
  have readable : Body.readable [.chunk front] = front := List.append_nil _
  obtain ⟨closed, elements, problem⟩ := Scanner.push_append_of_closed hc back
  simp only [decodeWhole, h, readable, elements, problem, Scanner.problem_of_closed hc,
    Scanner.finish_eq_ok_iff.mpr closed, Scanner.finish_eq_ok_iff.mpr hc]

/-- Undisturbed decoding has the outcome that the body has as a whole, and a consumer that always
reads does not disturb it. So two bodies of the same bytes that do not fail come to the same,
and what follows the closing bracket, be it bytes or failures, makes no difference. -/
theorem decodeBatch_eq_decodeWhole (decode : List UInt8 → Except DecodeError ε) :
    (∀ (c : Channel ε) interludes turns, (decodeBatch decode c interludes turns).Undisturbed →
      (decodeBatch decode c interludes turns).Yields c (decodeWhole decode (Body.items turns))) ∧
    (∀ (c : Channel ε) interludes turns, AlwaysRead c interludes turns →
      (decodeBatch decode c interludes turns).Undisturbed) ∧
    (∀ (c c' : Channel ε) interludes interludes' turns turns',
      (decodeBatch decode c interludes turns).Undisturbed →
      (decodeBatch decode c' interludes' turns').Undisturbed →
      Body.failure? (Body.items turns) = none → Body.failure? (Body.items turns') = none →
      Body.readable (Body.items turns) = Body.readable (Body.items turns') →
      ∃ outcome, (decodeBatch decode c interludes turns).Yields c outcome ∧
        (decodeBatch decode c' interludes' turns').Yields c' outcome) ∧
    (∀ (c : Channel ε) interludes turns front back,
      (decodeBatch decode c interludes turns).Undisturbed →
      Body.readable (Body.items turns) = front ++ back →
      (Scanner.initial.push front).scanner.isClosed = true →
      (decodeBatch decode c interludes turns).Yields c (decodeWhole decode [.chunk front])) := by
  refine ⟨fun c interludes turns h => h.yields, fun c interludes turns h => h.undisturbed, ?_, ?_⟩
  · intro c c' interludes interludes' turns turns' h h' failure failure' same
    refine ⟨_, h.yields, ?_⟩
    rw [decodeWhole_of_bytes failure, same, ← decodeWhole_of_bytes failure']
    exact h'.yields
  · intro c interludes turns front back h split closed
    rw [← decodeWhole_of_closed split (Scanner.isClosed_iff.mp closed)]
    exact h.yields

/-- Two elements in three chunks, one of them empty, over a channel with room for one event that is read
just before the second event is sent, and a failure after the closing bracket. -/
theorem decodeBatch_eq_decodeWhole_split :
    ∃ (c : Channel (List UInt8)) (interludes : Interludes) (turns : List Body.Turn),
      AlwaysRead c interludes turns ∧ (decodeBatch .ok c interludes turns).Undisturbed ∧
      (decodeBatch .ok c interludes turns).Yields c
        (decodeWhole .ok [.chunk [0x5B, 0x31, 0x2C, 0x32, 0x5D]]) := by
  obtain ⟨-, undisturbed, -, closed⟩ :=
    decodeBatch_eq_decodeWhole (.ok : List UInt8 → Except DecodeError (List UInt8))
  let turns : List Body.Turn :=
    [.deliver (.chunk [0x5B, 0x31]) [], .wait [.read], .deliver (.chunk []) [],
      .deliver (.chunk [0x2C, 0x32, 0x5D]) [], .deliver (.failure (.plain "late")) [.read]]
  let interludes : Interludes := ⟨[[], [.read]], [[.read], [.read]]⟩
  have alwaysRead : AlwaysRead (Channel.empty 1 : Channel (List UInt8)) interludes turns := by
    refine ⟨⟨rfl, rfl, by decide, by decide⟩, ?_, ⟨?_, ?_⟩, by decide⟩
    all_goals
      unfold OnlyReads
      decide
  have h := undisturbed _ _ _ alwaysRead
  exact ⟨_, _, turns, alwaysRead, h, closed _ _ turns _ [] h rfl rfl⟩

end Sidecar
