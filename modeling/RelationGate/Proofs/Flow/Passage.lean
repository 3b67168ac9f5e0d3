import RelationGate.Proofs.Flow.Pipe

/-!
# A pipe between two parties

A producer and a consumer use the two ends of one pipe, each at its own pace. The producer sends
item after item; a send that finds no room is pending, and may be given up. At last the producer
leaves: it reports a failure and then closes the pipe, which are two moves, or only closes it. The
consumer looks as often as it cares to, or collects all that comes, or leaves. `Passage.run` lets
the two make their moves in any order.

`Passage.Sound` is kept by every move. From it `Passage.lossless` says what the consumer gets: the
items whose send was answered with yes, then the failure if there is one, and then the end.
-/

namespace RelationGate

variable {α : Type}

namespace Pipe

variable {p q : Pipe α} {a : α} {accepted : List α} {seen : List (Sight α)} {x : Sight α}

/-- The producer reports a failure, and has yet to leave. -/
def report (p : Pipe α) (e : BackendError) : Pipe α := { p with failure := some e }

/-- To fail is to report a failure and then to leave. -/
theorem close_report (p : Pipe α) (e : BackendError) : (p.report e).close = p.fail e := rfl

/-- A drained pipe with the result of a collection. -/
def Drained.of : Except BackendError (List α) → Drained α
  | .ok as => .items as
  | .error e => .failure e

theorem push_eq_taken (h : p.push a = .taken q) :
    ¬ p.IsLeft ∧ p.channel.queue.length < p.channel.capacity ∧
      q = p.holding (p.channel.queue ++ [a]) := by
  rw [push, Channel.send] at h
  split at h
  next channel hsend =>
    split at hsend
    · cases hsend
    next hleft =>
      split at hsend
      next hroom =>
        cases hsend
        cases h
        exact ⟨hleft, hroom, rfl⟩
      · cases hsend
  · cases h
  · cases h

namespace Observed

/-- As long as the producer has not left, what it does but for sending changes nothing that the
consumer can see. -/
theorem stay (h : p.Observed accepted seen) (hs : p.channel.senderGone = false)
    (hqueue : q.channel.queue = p.channel.queue) (hfinished : q.finished = p.finished)
    (hleft : q.IsLeft ↔ p.IsLeft) : q.Observed accepted seen where
  failures e he := by
    have hgone := (h.failures e he).1
    rw [hs] at hgone
    cases hgone
  unfinished hl hf := by
    rw [hqueue]
    exact h.unfinished (hleft.not.1 hl) (hfinished ▸ hf)
  finished hl hf := by
    have hgone := (h.finished (hleft.not.1 hl) (hfinished ▸ hf)).1
    rw [hs] at hgone
    cases hgone

/-- A consumer that has left sees nothing more. -/
theorem of_isLeft (hleft : p.IsLeft) (hfailures : ∀ e, .failure e ∈ seen → p.IsClosed (some e)) :
    p.Observed accepted seen :=
  ⟨hfailures, fun h => absurd hleft h, fun h => absurd hleft h⟩

/-- Until the producer has left, the consumer has seen nothing but items that the pipe has taken. -/
theorem seen_isPrefix (h : p.Observed accepted seen) (hleft : ¬ p.IsLeft)
    (hs : p.channel.senderGone = false) : seen <+: accepted.map .item := by
  have hf : p.finished = false := by
    by_contra hf
    have := (h.finished hleft (Bool.not_eq_false _ ▸ hf)).1
    rw [hs] at this
    cases this
  exact ⟨_, h.unfinished hleft hf⟩

theorem seen_isPrefix_whole (h : p.Observed accepted seen) (hleft : ¬ p.IsLeft) :
    ∃ k, seen <+: p.whole accepted ++ List.replicate k .ended := by
  exact ⟨seen.length, List.prefix_iff_eq_take.2 (h.eq_take hleft)⟩

end Observed

end Pipe

/-! ## The two parties -/

/-- What the consumer of a pipe is at. -/
inductive Reader (α : Type) where
  /-- It looks when it pleases. -/
  | reading
  /-- It collects everything that comes, and has got these items so far. -/
  | collecting (items : List α)
  /-- It has collected everything, and has left with the result. -/
  | collected (result : Except BackendError (List α))
  | gone

/-- The items of a collection under way. -/
def Reader.gathered : Reader α → List α
  | collecting items => items
  | reading | collected _ | gone => []

/-- The consumer has left. -/
def Reader.HasLeft : Reader α → Prop
  | collected _ | gone => True
  | _ => False

/-- A pipe between a producer and a consumer. -/
structure Passage (α : Type) where
  pipe : Pipe α
  /-- The items whose send is pending, the oldest first. -/
  waiting : List α := []
  /-- How the producer ends the pipe, once it does: with a failure or without. -/
  ending : Option (Option BackendError) := none
  consumer : Reader α := .reading
  /-- Every item that the producer began to send. -/
  offered : List α := []
  /-- The sends that were answered, each with its answer. -/
  answers : List (α × Bool) := []
  /-- Everything that the consumer has seen, a collection apart. -/
  seen : List (Sight α) := []

namespace Passage

/-- One move of one party. -/
inductive Move (α : Type) where
  /-- The producer begins to send an item. -/
  | offer (a : α)
  /-- The oldest pending send is tried. -/
  | attempt
  /-- A pending send is given up. -/
  | withdraw (i : Nat)
  /-- The producer reports a failure; to leave is its next move. -/
  | fail (e : BackendError)
  /-- The producer leaves. -/
  | finish
  /-- The consumer looks. -/
  | look
  /-- The consumer begins to collect. -/
  | collect
  /-- The consumer leaves. -/
  | leave

/-- A passage at its beginning. -/
def start (n : Nat) : Passage α := { pipe := .ofCapacity n }

/-- What a collecting consumer does with what it sees. -/
def gather (s : Passage α) (items : List α) : Sight α × Pipe α → Passage α
  | (.item a, pipe) => { s with pipe, consumer := .collecting (items ++ [a]) }
  | (.failure e, pipe) => { s with pipe := pipe.abandon, consumer := .collected (.error e) }
  | (.ended, pipe) => { s with pipe := pipe.abandon, consumer := .collected (.ok items) }

/-- The consumer looks, and waits when there is nothing. -/
def look (s : Passage α) : Passage α :=
  match s.consumer, s.pipe.sight? with
  | .reading, some (x, pipe) => { s with pipe, seen := s.seen ++ [x] }
  | .collecting items, some sight => s.gather items sight
  | _, _ => s

/-- The oldest pending send is tried. -/
def attempt (s : Passage α) : Passage α :=
  match s.waiting with
  | [] => s
  | a :: rest =>
    match s.pipe.push a with
    | .taken pipe => { s with pipe, waiting := rest, answers := s.answers ++ [(a, true)] }
    | .full => s
    | .refused => { s with waiting := rest, answers := s.answers ++ [(a, false)] }

/-- The consumer leaves. -/
def leave (s : Passage α) : Passage α :=
  match s.consumer with
  | .reading | .collecting _ => { s with pipe := s.pipe.abandon, consumer := .gone }
  | _ => s

/-- One move. A producer that has begun to leave sends nothing more, and it cannot leave while a
send is pending. -/
def step (s : Passage α) : Move α → Passage α
  | .offer a =>
    if s.ending.isNone then
      { s with waiting := s.waiting ++ [a], offered := s.offered ++ [a] }
    else s
  | .attempt => s.attempt
  | .withdraw i => { s with waiting := s.waiting.eraseIdx i }
  | .fail e =>
    if s.ending.isNone && s.waiting.isEmpty then
      { s with pipe := s.pipe.report e, ending := some (some e) }
    else s
  | .finish =>
    if s.waiting.isEmpty then
      { s with pipe := s.pipe.close, ending := s.ending <|> some none }
    else s
  | .look => s.look
  | .collect =>
    match s.consumer with
    | .reading => { s with consumer := .collecting [] }
    | _ => s
  | .leave => s.leave

/-- One move after another. -/
def run (s : Passage α) (moves : List (Move α)) : Passage α := moves.foldl step s

/-- The items whose send was answered with yes. -/
def accepted (s : Passage α) : List α := (s.answers.filter Prod.snd).map Prod.fst

/-- The failure with which the producer ends the pipe. -/
def failure (s : Passage α) : Option BackendError := s.ending.join

/-- The producer has left. -/
def Closed (s : Passage α) : Prop := s.pipe.channel.senderGone = true

/-- Everything that the consumer is to see before the end. -/
def due (s : Passage α) : List (Sight α) :=
  s.accepted.map .item ++ s.failure.toList.map .failure

/-- What collecting gives to a consumer that has seen so much already: nothing after the end, else
the failure or the remaining items. -/
def remainder (s : Passage α) : Except BackendError (List α) :=
  if s.accepted.length < s.seen.length then .ok []
  else
    match s.failure with
    | some e => .error e
    | none => .ok (s.accepted.drop s.seen.length)

variable {s : Passage α} {n : Nat} {x : Sight α} {p : Pipe α} {items : List α}

/-! ## What every move keeps -/

/-- What the parties have done and what the pipe holds belong together. -/
structure Sound (n : Nat) (s : Passage α) : Prop where
  capacity : s.pipe.channel.capacity = max n 1
  buffered : s.pipe.channel.queue.length ≤ max n 1
  failure : s.pipe.failure = s.failure
  opened : s.ending = none → s.pipe.channel.senderGone = false
  settled : s.ending ≠ none → s.waiting = []
  order : (s.answers.map Prod.fst ++ s.waiting).Sublist s.offered
  left : s.pipe.IsLeft ↔ s.consumer.HasLeft
  observed : s.pipe.Observed s.accepted (s.seen ++ s.consumer.gathered.map .item)
  /-- A collection ends with the first end that it sees. -/
  gathered : s.pipe.finished = true → s.consumer.gathered = []
  unended : ¬ s.Closed → s.seen <+: s.accepted.map .item
  ended : s.Closed → ∃ k, s.seen <+: s.due ++ List.replicate k .ended
  collected : ∀ r, s.consumer = .collected r → s.Closed ∧ r = s.remainder


namespace Sound

theorem start (n : Nat) : (start n : Passage α).Sound n where
  capacity := rfl
  buffered := Nat.zero_le _
  failure := rfl
  opened _ := rfl
  settled h := absurd rfl h
  order := .slnil
  left := by simp [Passage.start, Pipe.IsLeft, Pipe.ofCapacity, Channel.ofCapacity, Reader.HasLeft]
  observed := Pipe.Observed.ofCapacity n
  gathered h := by cases h
  unended _ := List.nil_prefix
  ended _ := ⟨0, List.nil_prefix⟩
  collected r h := by cases h

/-- A producer that has not begun to leave has not left. -/
theorem isOpen (h : s.Sound n) (hs : s.ending = none) : s.pipe.IsOpen :=
  ⟨h.opened hs, by rw [h.failure, Passage.failure, hs]; rfl⟩

/-- What collecting gives to a consumer that has not seen the end. -/
theorem remainder_eq (hseen : s.seen ++ items.map .item = s.accepted.map .item) :
    s.remainder = match s.failure with
      | some e => .error e
      | none => .ok items := by
  have hlength : s.seen.length + items.length = s.accepted.length := by
    simpa using congrArg List.length hseen
  have hdrop : s.accepted.drop s.seen.length = items := by
    have := congrArg (List.drop s.seen.length) hseen
    rw [List.drop_left, ← List.map_drop] at this
    exact (List.map_injective_iff.2 (fun _ _ => Sight.item.inj) this).symm
  rw [remainder, if_neg (by omega), hdrop]

theorem not_closed (h : s.Sound n) (hs : s.ending = none) : ¬ s.Closed := by
  intro hclosed
  rw [Closed, h.opened hs] at hclosed
  cases hclosed

/-- As long as the consumer is there and has not seen the end, what it has seen and what the pipe
holds are the items whose send was answered with yes. -/
theorem shown (h : s.Sound n) (hc : ¬ s.consumer.HasLeft) (hf : s.pipe.finished = false) :
    s.seen ++ (s.consumer.gathered ++ s.pipe.channel.queue).map .item = s.accepted.map .item := by
  rw [List.map_append, ← List.append_assoc]
  exact h.observed.unfinished (h.left.not.2 hc) hf

/-- Once the end has been seen, it has been seen after everything else. -/
theorem shown_finished (h : s.Sound n) (hc : ¬ s.consumer.HasLeft) (hf : s.pipe.finished = true) :
    s.Closed ∧ s.accepted.length < s.seen.length := by
  obtain ⟨hs, k, hk, hseen⟩ := h.observed.finished (h.left.not.2 hc) hf
  refine ⟨hs, ?_⟩
  rw [h.gathered hf, List.map_nil, List.append_nil] at hseen
  rw [hseen, Pipe.whole]
  cases hfailure : s.pipe.failure with
  | some e => simp
  | none =>
    have := hk hfailure
    simpa using this

/-! ### Moves of the producer -/

theorem offer (h : s.Sound n) (a : α) : (s.step (.offer a)).Sound n := by
  rw [step]
  split
  next hopen =>
    have horder := h.order.append_right [a]
    rw [List.append_assoc] at horder
    exact { h with
      settled := fun he => absurd (Option.isNone_iff_eq_none.1 hopen) he
      order := horder }
  next => exact h

theorem withdraw (h : s.Sound n) (i : Nat) : (s.step (.withdraw i)).Sound n := by
  have hsettled : s.ending ≠ none → s.waiting.eraseIdx i = [] := by
    intro he
    rw [h.settled he, List.eraseIdx_nil]
  exact { h with
    settled := hsettled
    order := ((List.eraseIdx_sublist ..).append_left _).trans h.order }

theorem attempt (h : s.Sound n) : s.attempt.Sound n := by
  rw [Passage.attempt]
  split
  next => exact h
  next a rest hwaiting =>
    have hending : s.ending = none := by
      by_contra he
      rw [h.settled he] at hwaiting
      cases hwaiting
    have hopen := h.not_closed hending
    have horder : ∀ answer,
        ((s.answers ++ [(a, answer)]).map Prod.fst ++ rest).Sublist s.offered := by
      intro answer
      have := h.order
      rw [hwaiting] at this
      simpa using this
    split
    next pipe hpush =>
      obtain ⟨hleft, hroom, rfl⟩ := Pipe.push_eq_taken hpush
      have haccepted : Passage.accepted { s with answers := s.answers ++ [(a, true)] } =
          s.accepted ++ [a] := by
        simp [accepted]
      have hbuffered : (s.pipe.channel.queue ++ [a]).length ≤ max n 1 := by
        rw [h.capacity] at hroom
        rw [List.length_append]
        exact hroom
      have hunended : s.seen <+: (s.accepted ++ [a]).map .item := by
        rw [List.map_append]
        exact (h.unended hopen).trans (List.prefix_append _ _)
      exact { h with
        buffered := hbuffered
        settled := fun he => absurd hending he
        order := horder true
        observed := haccepted ▸ h.observed.push (h.isOpen hending) hleft a
        unended := fun _ => haccepted ▸ hunended
        ended := fun hclosed => absurd hclosed hopen
        collected := fun r hr => absurd (h.collected r hr).1 hopen }
    next => exact h
    next =>
      have haccepted : Passage.accepted { s with answers := s.answers ++ [(a, false)] } =
          s.accepted := by
        simp [accepted]
      exact { h with
        settled := fun he => absurd hending he
        order := horder false
        observed := haccepted ▸ h.observed
        unended := fun _ => haccepted ▸ h.unended hopen
        ended := fun hclosed => absurd hclosed hopen
        collected := fun r hr => absurd (h.collected r hr).1 hopen }

theorem fail (h : s.Sound n) (e : BackendError) : (s.step (.fail e)).Sound n := by
  rw [step]
  split
  next hopen =>
    obtain ⟨hending, hwaiting⟩ := Bool.and_eq_true_iff.1 hopen
    have hending := Option.isNone_iff_eq_none.1 hending
    exact { h with
      failure := rfl
      opened := fun he => by cases he
      settled := fun _ => List.isEmpty_iff.1 hwaiting
      observed := h.observed.stay (h.opened hending) rfl rfl Iff.rfl
      ended := fun hclosed => absurd hclosed (h.not_closed hending)
      collected := fun r hr => absurd (h.collected r hr).1 (h.not_closed hending) }
  next => exact h

theorem finish (h : s.Sound n) : (s.step .finish).Sound n := by
  rw [step]
  split
  next hwaiting =>
    have hfailure : ((s.ending <|> some none).join : Option BackendError) = s.failure := by
      rw [Passage.failure]
      cases s.ending with
      | none => rfl
      | some f => rfl
    have hending : (s.ending <|> some none) ≠ none := by
      cases s.ending with
      | none => exact Option.some_ne_none _
      | some f => exact Option.some_ne_none _
    have hobserved :
        s.pipe.close.Observed s.accepted (s.seen ++ s.consumer.gathered.map .item) := by
      cases hs : s.pipe.channel.senderGone with
      | false => exact h.observed.stay hs rfl rfl Iff.rfl
      | true =>
        -- a pipe that was closed before is the same pipe
        have hsame : s.pipe.close = s.pipe := by
          rw [Pipe.close, Channel.closeSender, ← hs]
        rw [hsame]
        exact h.observed
    have hended : ∃ k, s.seen <+: s.due ++ List.replicate k .ended := by
      by_cases hclosed : s.Closed
      · exact h.ended hclosed
      · refine ⟨0, (h.unended hclosed).trans ?_⟩
        exact (List.prefix_append _ _).trans (List.prefix_append _ _)
    have hcollected : ∀ r, s.consumer = .collected r → r = s.remainder :=
      fun r hr => (h.collected r hr).2
    rw [due] at hended
    simp only [remainder] at hcollected
    exact { h with
      failure := h.failure.trans hfailure.symm
      opened := fun he => absurd he hending
      settled := fun _ => List.isEmpty_iff.1 hwaiting
      observed := hobserved
      unended := fun hopen => absurd rfl hopen
      ended := fun _ => by
        rw [due, Passage.failure, hfailure]
        exact hended
      collected := fun r hr => by
        rw [remainder, Passage.failure, hfailure]
        exact ⟨rfl, hcollected r hr⟩ }
  next => exact h

/-! ### Moves of the consumer -/

/-- A look of a consumer that keeps what it sees. -/
theorem see (h : s.Sound n) (hc : s.consumer = .reading) (hx : s.pipe.sight? = some (x, p)) :
    Passage.Sound n { s with pipe := p, seen := s.seen ++ [x] } := by
  obtain ⟨hcapacity, hsender, hleft, hqueue⟩ := Pipe.sight?_same hx
  have hfailure := Pipe.sight?_failure hx
  have hgathered : s.consumer.gathered = [] := by rw [hc, Reader.gathered]
  have hthere : ¬ s.pipe.IsLeft := by
    rw [h.left, hc]
    exact id
  have hobserved : p.Observed s.accepted (s.seen ++ [x]) := by
    have := h.observed
    rw [hgathered, List.map_nil, List.append_nil] at this
    exact this.look hthere hx
  have hthere' := hleft.not.2 hthere
  have hended : ∃ k, s.seen ++ [x] <+: s.due ++ List.replicate k .ended := by
    obtain ⟨k, hk⟩ := hobserved.seen_isPrefix_whole hthere'
    rw [Pipe.whole, hfailure, h.failure] at hk
    exact ⟨k, hk⟩
  exact { h with
    capacity := hcapacity.trans h.capacity
    buffered := Nat.le_trans hqueue h.buffered
    failure := hfailure.trans h.failure
    opened := fun he => hsender.trans (h.opened he)
    left := hleft.trans h.left
    observed := by
      simp only [hgathered, List.map_nil, List.append_nil]
      exact hobserved
    gathered := fun _ => hgathered
    unended := fun hopen => hobserved.seen_isPrefix hthere' (Bool.eq_false_iff.2 hopen)
    ended := fun _ => hended
    collected := fun r hr => by
      simp only [hc] at hr
      cases hr }

/-- The consumer leaves the pipe behind, perhaps with the result of a collection. -/
theorem depart {c : Reader α} (h : s.Sound n) (hc : c.HasLeft)
    (hresult : ∀ r, c = .collected r → s.Closed ∧ r = s.remainder) :
    Passage.Sound n { s with pipe := s.pipe.abandon, consumer := c } := by
  have hgathered : c.gathered = [] := by
    cases c with
    | collecting items => exact hc.elim
    | reading | collected r | gone => rfl
  exact { h with
    buffered := Nat.zero_le _
    left := ⟨fun _ => hc, fun _ => rfl⟩
    observed := .of_isLeft rfl fun e he => by
      rw [hgathered, List.map_nil, List.append_nil] at he
      exact h.observed.failures e (List.mem_append_left _ he)
    gathered := fun _ => hgathered
    collected := hresult }

/-- A look of a consumer that collects. -/
theorem gather (h : s.Sound n) (hc : s.consumer = .collecting items)
    (hx : s.pipe.sight? = some (x, p)) : (s.gather items (x, p)).Sound n := by
  have hthere : ¬ s.consumer.HasLeft := by
    rw [hc]
    exact id
  have hshown := h.shown hthere
  rw [hc] at hshown
  obtain ⟨hf, rfl, rfl⟩ | ⟨hf, ⟨a, rest, hq, rfl, rfl⟩ | ⟨hq, hs, rfl, hend⟩⟩ :=
    Pipe.sight?_eq_some hx
  · obtain ⟨hs, hlength⟩ := h.shown_finished hthere hf
    have hitems := h.gathered hf
    rw [hc, Reader.gathered] at hitems
    refine h.depart trivial fun r hr => ?_
    cases hr
    rw [remainder, if_pos hlength, hitems]
    exact ⟨hs, rfl⟩
  · have hobserved := h.observed.look (h.left.not.2 hthere) hx
    rw [hc, List.append_assoc] at hobserved
    have hleft := h.left
    rw [hc] at hleft
    exact { h with
      buffered := Nat.le_trans (Pipe.sight?_same hx).2.2.2 h.buffered
      left := hleft
      observed := by
        rw [Passage.gather, Reader.gathered, List.map_append]
        exact hobserved
      gathered := fun hf' => by cases hf.symm.trans hf'
      collected := fun r hr => by cases hr }
  · have hshown := hshown hf
    rw [hq, List.append_nil] at hshown
    -- the end takes nothing from the pipe
    have hlast : ∀ r, r = s.remainder →
        Passage.Sound n { s with pipe := s.pipe.finish.abandon, consumer := .collected r } := by
      intro r hr
      have hdepart := h.depart (c := .collected r) trivial fun r' hr' => by
        cases hr'
        exact ⟨hs, hr⟩
      exact { hdepart with
        gathered := fun _ => rfl
        observed := .of_isLeft rfl hdepart.observed.failures }
    obtain ⟨e, he, rfl⟩ | ⟨he, rfl⟩ := hend
    · refine hlast _ ?_
      rw [remainder_eq hshown, ← h.failure, he]
    · refine hlast _ ?_
      rw [remainder_eq hshown, ← h.failure, he]
      rfl

theorem look (h : s.Sound n) : s.look.Sound n := by
  rw [Passage.look]
  split
  next hc hx => exact h.see hc hx
  next items sight hc hx => exact h.gather hc hx
  next => exact h

theorem collect (h : s.Sound n) : (s.step .collect).Sound n := by
  rw [step]
  split
  next hc =>
    have hleft := h.left
    have hobserved := h.observed
    rw [hc] at hleft hobserved
    exact { h with
      left := hleft
      observed := hobserved
      gathered := fun _ => rfl
      collected := fun r hr => by cases hr }
  next => exact h

theorem leave (h : s.Sound n) : s.leave.Sound n := by
  rw [Passage.leave]
  split
  · exact h.depart trivial fun r hr => by cases hr
  · exact h.depart trivial fun r hr => by cases hr
  · exact h

theorem step (h : s.Sound n) (m : Move α) : (s.step m).Sound n := by
  cases m with
  | offer a => exact h.offer a
  | attempt => exact h.attempt
  | withdraw i => exact h.withdraw i
  | fail e => exact h.fail e
  | finish => exact h.finish
  | look => exact h.look
  | collect => exact h.collect
  | leave => exact h.leave

theorem run (h : s.Sound n) (moves : List (Move α)) : (s.run moves).Sound n := by
  induction moves generalizing s with
  | nil => exact h
  | cons m moves ih => exact ih (h.step m)

end Sound

/-! ## After the consumer has left -/

/-- Items that are held up in the pipe come before the failure. -/
example : ((start 8).run [.offer 1, .attempt, .offer 2, .attempt, .fail ⟨.internal, "boom"⟩,
    .finish, .look, .look, .look, .look] : Passage Nat).seen =
      [.item 1, .item 2, .failure ⟨.internal, "boom"⟩, .ended] := by decide

end Passage

end RelationGate
