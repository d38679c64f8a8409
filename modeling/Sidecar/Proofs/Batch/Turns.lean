import Sidecar.Proofs.Batch.Schedule

/-!
# Decoding turn by turn

`Decodes` says what decoding does with each turn of a body: which items it takes, and how it ends. The
function is equal to it (`exists_decodes`, `Decodes.decodeElements_eq`), so whatever is said about the items
that decoding takes is shown by induction on it: that they are the first ones, that each is asked for before
cancellation fires, and that no other elements are decoded or sent.
-/

namespace Sidecar

open Channel

variable {ε : Type}

/-- From a point on, decoding takes these items of the body and ends like this: one rule for each way in
which a turn goes. -/
inductive Decodes (decode : List UInt8 → Except DecodeError ε) :
    Scanner → Nat → Nat → Channel ε → Interludes → List Body.Turn → List Body.Item → Decoded ε →
    Prop where
  /-- Cancellation is noticed before the next turn. -/
  | cancelled {scanner sent consumed c interludes turns} :
    c.cancelled = true →
    Decodes decode scanner sent consumed c interludes turns [] ⟨.error .interrupted, c, turns, consumed⟩
  /-- The body ends and the array is open. -/
  | ended {scanner sent consumed c interludes problem} :
    c.cancelled = false →
    scanner.finish = .error problem →
    Decodes decode scanner sent consumed c interludes [] [] ⟨.error problem.error, c, [], consumed⟩
  | wait {scanner sent consumed c interludes meanwhile turns taken d} :
    c.cancelled = false →
    Decodes decode scanner sent consumed (c.afterAll meanwhile) interludes turns taken d →
    Decodes decode scanner sent consumed c interludes (.wait meanwhile :: turns) taken d
  | failure {scanner sent consumed c interludes meanwhile turns cause} :
    c.cancelled = false →
    Decodes decode scanner sent consumed c interludes (.deliver (.failure cause) meanwhile :: turns)
      [.failure cause] ⟨.error (.body cause), c.afterAll meanwhile, turns, consumed + 1⟩
  /-- An element of the chunk is no event, or it cannot be sent. -/
  | stopped {scanner sent consumed c c₁ interludes interludes₁ bytes meanwhile turns e} :
    c.cancelled = false →
    sendElements decode (c.afterAll meanwhile) interludes (scanner.push bytes).elements =
      (.error e, c₁, interludes₁) →
    Decodes decode scanner sent consumed c interludes (.deliver (.chunk bytes) meanwhile :: turns)
      [.chunk bytes] ⟨.error e, c₁, turns, consumed + 1⟩
  | malformed {scanner sent consumed c c₁ interludes interludes₁ bytes meanwhile turns problem} :
    c.cancelled = false →
    sendElements decode (c.afterAll meanwhile) interludes (scanner.push bytes).elements =
      (.ok (), c₁, interludes₁) →
    (scanner.push bytes).problem = some problem →
    Decodes decode scanner sent consumed c interludes (.deliver (.chunk bytes) meanwhile :: turns)
      [.chunk bytes] ⟨.error problem.error, c₁, turns, consumed + 1⟩
  | closed {scanner sent consumed c c₁ interludes interludes₁ bytes meanwhile turns} :
    c.cancelled = false →
    sendElements decode (c.afterAll meanwhile) interludes (scanner.push bytes).elements =
      (.ok (), c₁, interludes₁) →
    (scanner.push bytes).scanner.state = .closed →
    Decodes decode scanner sent consumed c interludes (.deliver (.chunk bytes) meanwhile :: turns)
      [.chunk bytes] ⟨.ok (sent + (scanner.push bytes).elements.length), c₁, turns, consumed + 1⟩
  | chunk {scanner sent consumed c c₁ interludes interludes₁ bytes meanwhile turns taken d} :
    c.cancelled = false →
    sendElements decode (c.afterAll meanwhile) interludes (scanner.push bytes).elements =
      (.ok (), c₁, interludes₁) →
    (scanner.push bytes).problem = none →
    (scanner.push bytes).scanner.state ≠ .closed →
    Decodes decode (scanner.push bytes).scanner (sent + (scanner.push bytes).elements.length)
      (consumed + 1) c₁ interludes₁ turns taken d →
    Decodes decode scanner sent consumed c interludes (.deliver (.chunk bytes) meanwhile :: turns)
      (.chunk bytes :: taken) d

variable {decode decode' : List UInt8 → Except DecodeError ε} {c c₁ : Channel ε}
  {interludes interludes₁ : Interludes} {scanner : Scanner} {sent consumed : Nat}
  {turns : List Body.Turn} {taken : List Body.Item} {meanwhile : List Happening} {bytes : List UInt8}
  {d : Decoded ε}

/-- A chunk is taken by one of the rules, given that its rest is. -/
lemma decodes_chunk (hn : c.cancelled = false)
    (rest : (scanner.push bytes).scanner.state ≠ .closed → ∀ sent consumed c interludes, ∃ taken,
      Decodes decode (scanner.push bytes).scanner sent consumed c interludes turns taken
        (decodeElements decode (scanner.push bytes).scanner sent consumed c interludes turns))
    (sent consumed : Nat) (interludes : Interludes) (meanwhile : List Happening) :
    ∃ taken, Decodes decode scanner sent consumed c interludes
      (.deliver (.chunk bytes) meanwhile :: turns) taken
      (decodeElements decode scanner sent consumed c interludes
        (.deliver (.chunk bytes) meanwhile :: turns)) := by
  rcases hs : sendElements decode (c.afterAll meanwhile) interludes
    (scanner.push bytes).elements with ⟨_ | ⟨⟨⟩⟩, c₁, interludes₁⟩
  · rw [decodeElements_of_error hn hs]
    exact ⟨_, .stopped hn hs⟩
  cases hp : (scanner.push bytes).problem with
  | some problem =>
    rw [decodeElements_of_problem hn hs hp]
    exact ⟨_, .malformed hn hs hp⟩
  | none =>
    by_cases hc : (scanner.push bytes).scanner.state = .closed
    · rw [decodeElements_of_closed hn hs hc]
      exact ⟨_, .closed hn hs hc⟩
    · obtain ⟨taken, later⟩ := rest hc (sent + (scanner.push bytes).elements.length) (consumed + 1)
        c₁ interludes₁
      rw [decodeElements_of_open hn hs hp hc]
      exact ⟨_, .chunk hn hs hp hc later⟩

/-- Decoding always goes by the rules, and takes some items of the body. -/
lemma exists_decodes (decode : List UInt8 → Except DecodeError ε) (hopen : scanner.state ≠ .closed)
    (sent consumed : Nat) (c : Channel ε) (interludes : Interludes) (turns : List Body.Turn) :
    ∃ taken, Decodes decode scanner sent consumed c interludes turns taken
      (decodeElements decode scanner sent consumed c interludes turns) := by
  induction turns generalizing scanner sent consumed c interludes with
  | nil =>
    cases hn : c.cancelled with
    | true =>
      rw [decodeElements_of_cancelled hn]
      exact ⟨_, .cancelled hn⟩
    | false =>
      cases finish : scanner.finish with
      | ok => exact absurd (Scanner.finish_eq_ok_iff.mp finish) hopen
      | error problem =>
        rw [decodeElements_nil hn, finish]
        exact ⟨_, .ended hn finish⟩
  | cons turn turns ih =>
    cases hn : c.cancelled with
    | true =>
      rw [decodeElements_of_cancelled hn]
      exact ⟨_, .cancelled hn⟩
    | false =>
      cases turn with
      | wait meanwhile =>
        obtain ⟨taken, later⟩ := ih hopen sent consumed (c.afterAll meanwhile) interludes
        rw [decodeElements_wait hn]
        exact ⟨taken, .wait hn later⟩
      | deliver item meanwhile =>
        cases item with
        | failure cause =>
          rw [decodeElements_failure hn]
          exact ⟨_, .failure hn⟩
        | chunk bytes =>
          exact decodes_chunk hn (fun hc sent consumed c interludes => ih hc sent consumed c interludes)
            sent consumed interludes meanwhile

namespace Decodes

/-- What the rules say is what decoding comes to. -/
lemma decodeElements_eq (h : Decodes decode scanner sent consumed c interludes turns taken d) :
    decodeElements decode scanner sent consumed c interludes turns = d := by
  induction h with
  | cancelled hn => exact decodeElements_of_cancelled hn
  | ended hn finish => rw [decodeElements_nil hn, finish]
  | wait hn _ ih => rw [decodeElements_wait hn, ih]
  | failure hn => exact decodeElements_failure hn _
  | stopped hn hs => exact decodeElements_of_error hn hs
  | malformed hn hs hp => exact decodeElements_of_problem hn hs hp
  | closed hn hs hc => exact decodeElements_of_closed hn hs hc
  | chunk hn hs hp hc _ ih => rw [decodeElements_of_open hn hs hp hc, ih]

/-! ## The pieces that decoding takes -/

/-- The items that are taken are the first ones. -/
lemma items_eq (h : Decodes decode scanner sent consumed c interludes turns taken d) :
    Body.items turns = taken ++ Body.items d.rest := by
  induction h with
  | cancelled | ended | failure | stopped | malformed | closed => rfl
  | wait _ _ ih => exact ih
  | chunk _ _ _ _ _ ih => exact congrArg _ ih

/-- Decoding counts the items that it takes. -/
lemma consumed_eq (h : Decodes decode scanner sent consumed c interludes turns taken d) :
    d.consumed = consumed + taken.length := by
  induction h with
  | cancelled | ended | failure | stopped | malformed | closed => rfl
  | wait _ _ ih => exact ih
  | chunk _ _ _ _ _ ih => rw [ih, List.length_cons, Nat.add_assoc, Nat.add_comm 1]

/-- A body that ends before a cancellation ends decoding without one. -/
lemma asked_first (hn : c.cancelled = false) :
    (decodeElements decode scanner sent consumed c interludes []).channel.cancelled = false := by
  rw [decodeElements_nil hn]
  exact hn

/-- Where decoding ends with the first turn, no other one is reached. -/
lemma asked_last {front back : List Body.Turn} {turn turn' : Body.Turn} (hn : c.cancelled = false)
    (split : turn' :: turns = front ++ turn :: back) (reached : turns.length ≤ back.length) :
    (decodeElements decode scanner sent consumed c interludes front).channel.cancelled = false := by
  cases front with
  | nil => exact asked_first hn
  | cons _ front =>
    rw [List.cons_append] at split
    rw [List.tail_eq_of_cons_eq split, List.length_append, List.length_cons] at reached
    omega

/-- A turn is reached only if decoding of the turns before it has left the channel uncancelled. -/
lemma asked (h : Decodes decode scanner sent consumed c interludes turns taken d)
    {front back : List Body.Turn} {turn : Body.Turn} (split : turns = front ++ turn :: back)
    (reached : d.rest.length ≤ back.length) :
    (decodeElements decode scanner sent consumed c interludes front).channel.cancelled = false := by
  induction h generalizing front with
  | cancelled =>
    -- all turns are left, so this one has not been reached
    rw [split, List.length_append, List.length_cons] at reached
    omega
  | ended => exact absurd split.symm (List.append_ne_nil_of_right_ne_nil _ (List.cons_ne_nil _ _))
  | failure hn | stopped hn _ | malformed hn _ _ | closed hn _ _ => exact asked_last hn split reached
  | wait hn _ ih =>
    cases front with
    | nil => exact asked_first hn
    | cons _ front =>
      obtain ⟨rfl, later⟩ := List.cons.inj split
      rw [decodeElements_wait hn]
      exact ih later reached
  | chunk hn hs hp hc _ ih =>
    cases front with
    | nil => exact asked_first hn
    | cons _ front =>
      obtain ⟨rfl, later⟩ := List.cons.inj split
      rw [decodeElements_of_open hn hs hp hc]
      exact ih later reached

end Decodes

/-! ## Elements of the items -/

namespace Body

/-- A chunk is pushed before the others. -/
lemma push_readable_cons (clean : (scanner.push bytes).problem = none) (front : List Item) :
    scanner.push (readable (.chunk bytes :: front)) =
      ⟨((scanner.push bytes).scanner.push (readable front)).scanner,
        (scanner.push bytes).elements ++ ((scanner.push bytes).scanner.push (readable front)).elements,
        ((scanner.push bytes).scanner.push (readable front)).problem⟩ :=
  Scanner.push_append_of_clean clean

/-- A body of one chunk has the elements of that chunk. -/
lemma elements_chunk (bytes : List UInt8) :
    (scanner.push (readable [.chunk bytes])).elements = (scanner.push bytes).elements := by
  rw [show readable [.chunk bytes] = bytes from List.append_nil bytes]

end Body

/-- The answers of the decoder to other elements make no difference. -/
lemma sendElements_congr {elements : List (List UInt8)}
    (same : ∀ raw ∈ elements, decode' raw = decode raw) (c : Channel ε) (interludes : Interludes) :
    sendElements decode' c interludes elements = sendElements decode c interludes elements := by
  induction elements generalizing c interludes with
  | nil => rfl
  | cons raw elements ih =>
    obtain ⟨first, later⟩ := List.forall_mem_cons.mp same
    cases hr : decode raw with
    | error e => simp only [sendElements, first, hr]
    | ok event =>
      have hr' : decode' raw = .ok event := first.trans hr
      rcases hs : c.post event interludes with ⟨_ | ⟨⟨⟩⟩, c₁, interludes₁⟩
      · rw [sendElements_of_refused hr hs, sendElements_of_refused hr' hs]
      · rw [sendElements_of_sent hr hs, sendElements_of_sent hr' hs]
        exact ih later c₁ interludes₁

/-- A channel becomes another one, and what is sent meanwhile are the first of these events. -/
def Channel.Carries (c c' : Channel ε) (events : List ε) : Prop :=
  ∃ marks, c.Changes marks c' ∧ sentIn marks <+: events

namespace Channel.Carries

variable {c₂ : Channel ε} {events : List ε}

/-- What happens before does not count among what is carried. -/
lemma of_idles (idles : c.Idles c₁) (h : c₁.Carries c₂ events) : c.Carries c₂ events := by
  obtain ⟨marks, waiting, none⟩ := idles
  obtain ⟨marks', sending, front⟩ := h
  refine ⟨marks ++ marks', waiting.trans sending, ?_⟩
  rw [sentIn_append, none]
  exact front

/-- A channel that does not change carries nothing. -/
lemma refl : c.Carries c events := ⟨[], .refl, List.nil_prefix⟩

end Channel.Carries

/-- Sending elements carries their events in their order, up to where it ends. -/
lemma sendElements_carries {elements : List (List UInt8)} {answer : Except DecodeError Unit}
    (h : sendElements decode c interludes elements = (answer, c₁, interludes₁)) :
    c.Carries c₁ (decodeAll decode elements).1 := by
  obtain ⟨marks, sending, result⟩ := sendElements_outcome decode c interludes elements
  rw [h] at sending result
  refine ⟨marks, sending, ?_⟩
  obtain ⟨-, all⟩ | ⟨e, -, some⟩ | ⟨e, -, -, front⟩ := result
  · exact all ▸ List.prefix_rfl
  · exact some ▸ List.prefix_rfl
  · exact front

namespace Decodes

/-- The decoder is asked about elements of the items taken, and about no others. -/
lemma congr (h : Decodes decode scanner sent consumed c interludes turns taken d)
    (same : ∀ raw ∈ (scanner.push (Body.readable taken)).elements, decode' raw = decode raw) :
    Decodes decode' scanner sent consumed c interludes turns taken d := by
  induction h with
  | cancelled hn => exact .cancelled hn
  | ended hn finish => exact .ended hn finish
  | wait hn _ ih => exact .wait hn (ih same)
  | failure hn => exact .failure hn
  | stopped hn hs =>
    rw [Body.elements_chunk] at same
    exact .stopped hn (sendElements_congr same _ _ ▸ hs)
  | malformed hn hs hp =>
    rw [Body.elements_chunk] at same
    exact .malformed hn (sendElements_congr same _ _ ▸ hs) hp
  | closed hn hs hc =>
    rw [Body.elements_chunk] at same
    exact .closed hn (sendElements_congr same _ _ ▸ hs) hc
  | chunk hn hs hp hc _ ih =>
    rw [Body.push_readable_cons hp] at same
    obtain ⟨first, later⟩ := List.forall_mem_append.mp same
    exact .chunk hn (sendElements_congr first _ _ ▸ hs) hp hc (ih later)

/-- What is sent are the events of the first elements of the items taken. -/
lemma carries (h : Decodes decode scanner sent consumed c interludes turns taken d) :
    c.Carries d.channel (decodeAll decode (scanner.push (Body.readable taken)).elements).1 := by
  induction h with
  | cancelled | ended => exact .refl
  | wait _ _ ih => exact ih.of_idles (afterAll_idles _ _)
  | failure => exact Carries.refl.of_idles (afterAll_idles _ _)
  | stopped _ hs | malformed _ hs _ | closed _ hs _ =>
    rw [Body.elements_chunk]
    exact (sendElements_carries hs).of_idles (afterAll_idles _ _)
  | @chunk scanner _ _ c c₁ _ _ bytes meanwhile _ taken _ _ hs hp _ _ ih =>
    obtain ⟨marks, sending, result⟩ := sendElements_outcome decode (c.afterAll meanwhile) _
      (scanner.push bytes).elements
    rw [hs] at sending result
    obtain ⟨-, all⟩ | ⟨_, failed, -⟩ | ⟨_, failed, -⟩ := result
    · -- all events of the chunk have been sent, and those of the others come behind them
      obtain ⟨marks', later, front⟩ := ih
      refine .of_idles (afterAll_idles _ _) ⟨marks ++ marks', sending.trans later, ?_⟩
      rw [Body.push_readable_cons hp, decodeAll_append_of_none (by rw [all]), all, sentIn_append]
      exact (List.prefix_append_right_inj _).mpr front
    · cases failed
    · cases failed

end Decodes

end Sidecar
