import Mathlib.Data.List.Basic
import RelationGate.Pipe

/-!
# What a consumer sees of a pipe

The consumer of a pipe sees the items that the pipe has taken, in their order, then the failure with
which the producer left, if it left with one, and then the end for as long as it cares to look.
`Pipe.Observed` says this of what a consumer has seen so far, and is kept by both ends of the pipe.
`Observed.readOn` draws the conclusion for a consumer that reads on after the producer has left.
-/

namespace RelationGate

variable {α : Type}

/-! ## Channels -/

namespace Channel

variable {c c' : Channel α} {a : α}

theorem send_cases (c : Channel α) (a : α) :
    (c.receiverGone = true ∧ c.send a = .refused) ∨ c.receiverGone = false ∧
      (c.send a = .taken { c with queue := c.queue ++ [a] } ∨ c.send a = .full) := by
  rw [send]
  cases c.receiverGone with
  | true => exact .inl ⟨rfl, rfl⟩
  | false =>
    refine .inr ⟨rfl, ?_⟩
    by_cases hroom : c.queue.length < c.capacity
    · exact .inl (by simp [hroom])
    · exact .inr (by simp [hroom])

/-- A channel that takes an item has had room for it. -/
theorem send_eq_taken (h : c.send a = .taken c') : c.receiverGone = false ∧
    c.queue.length < c.capacity ∧ c' = { c with queue := c.queue ++ [a] } := by
  unfold send at h
  split at h
  · cases h
  next hpresent =>
    split at h
    next hroom =>
      cases h
      exact ⟨by simpa using hpresent, hroom, rfl⟩
    next => cases h

/-- The receiver has not fallen behind further than the capacity of the channel. -/
def Fits (c : Channel α) : Prop := c.queue.length ≤ c.capacity

theorem Fits.send (h : c.send a = .taken c') : c'.Fits := by
  obtain ⟨-, hroom, rfl⟩ := send_eq_taken h
  simp only [Fits, List.length_append, List.length_singleton]
  omega

/-- A channel that has no room now is full, and its receiver is there. -/
theorem send_eq_full (h : c.send a = .full) :
    c.receiverGone = false ∧ c.capacity ≤ c.queue.length := by
  unfold send at h
  split at h
  · cases h
  next hpresent =>
    split at h
    · cases h
    next hroom => exact ⟨by simpa using hpresent, by omega⟩

theorem send_of_full (hpresent : c.receiverGone = false) (hfull : c.capacity ≤ c.queue.length) :
    c.send a = .full := by
  have hroom : ¬ c.queue.length < c.capacity := by omega
  simp [send, hpresent, hroom]

theorem receive_eq_got (h : c.receive = .got a c') :
    ∃ rest, c.queue = a :: rest ∧ c' = { c with queue := rest } := by
  rw [receive] at h
  split at h
  next b rest hqueue =>
    cases h
    exact ⟨rest, hqueue, rfl⟩
  next =>
    split at h
    · cases h
    · cases h

theorem receive_eq_ended (h : c.receive = .ended) : c.queue = [] ∧ c.senderGone = true := by
  rw [receive] at h
  split at h
  · cases h
  next hqueue =>
    split at h
    next hgone => exact ⟨hqueue, hgone⟩
    next => cases h

end Channel

/-! ## Looks -/

/-- What a consumer sees at one look. -/
inductive Sight (α : Type) where
  | item (a : α)
  | failure (e : BackendError)
  | ended
  deriving DecidableEq

namespace Pipe

variable {p q : Pipe α} {a : α} {accepted : List α} {seen : List (Sight α)} {x : Sight α}

/-- The producer has not left. -/
def IsOpen (p : Pipe α) : Prop := p.channel.senderGone = false ∧ p.failure = none

/-- The producer has left, with a failure or without. -/
def IsClosed (p : Pipe α) (failure : Option BackendError) : Prop :=
  p.channel.senderGone = true ∧ p.failure = failure

/-- The consumer has left. -/
def IsLeft (p : Pipe α) : Prop := p.channel.receiverGone = true

/-- A pipe that holds other items. -/
def holding (p : Pipe α) (queue : List α) : Pipe α := { p with channel := { p.channel with queue } }

/-- A pipe whose consumer has seen the end. -/
def finish (p : Pipe α) : Pipe α := { p with finished := true }

/-- A look at a pipe: what is seen, and what is left. -/
def sight? (p : Pipe α) : Option (Sight α × Pipe α) :=
  match p.next with
  | .item a p => some (.item a, p)
  | .failure e p => some (.failure e, p)
  | .ended p => some (.ended, p)
  | .pending => none

/-- What a consumer sees at so many more looks, if the producer does nothing meanwhile. -/
def readOn : Nat → Pipe α → List (Sight α)
  | 0, _ => []
  | n + 1, p =>
    match p.sight? with
    | some (x, p) => x :: readOn n p
    | none => []

/-- Everything that a pipe which has taken given items shows before its end. -/
def whole (p : Pipe α) (accepted : List α) : List (Sight α) :=
  accepted.map .item ++ p.failure.toList.map .failure

theorem IsOpen.not_senderGone (h : p.IsOpen) : ¬ p.channel.senderGone = true := by
  rw [h.1]
  exact Bool.false_ne_true

/-! ## The two ends -/

theorem push_cases (p : Pipe α) (a : α) :
    (p.IsLeft ∧ p.push a = .refused) ∨
      ¬ p.IsLeft ∧ (p.push a = .taken (p.holding (p.channel.queue ++ [a])) ∨ p.push a = .full) := by
  rw [push, IsLeft]
  obtain ⟨hgone, hsend⟩ | ⟨hgone, hsend | hsend⟩ := p.channel.send_cases a
  · exact .inl ⟨hgone, by rw [hsend]⟩
  · exact .inr ⟨by simp [hgone], .inl (by rw [hsend]; rfl)⟩
  · exact .inr ⟨by simp [hgone], .inr (by rw [hsend])⟩

/-- What comes next: the end again, an item, the failure or the end for the first time; or nothing
yet. -/
theorem next_cases (p : Pipe α) :
    (p.finished = true ∧ p.next = .ended p) ∨ p.finished = false ∧
      ((∃ a rest, p.channel.queue = a :: rest ∧ p.next = .item a (p.holding rest)) ∨
        p.channel.queue = [] ∧ ((p.channel.senderGone = false ∧ p.next = .pending) ∨
          p.channel.senderGone = true ∧
            ((∃ e, p.failure = some e ∧ p.next = .failure e p.finish) ∨
              p.failure = none ∧ p.next = .ended p.finish))) := by
  simp only [next, Channel.receive, holding, finish]
  cases hfinished : p.finished with
  | true => exact .inl ⟨rfl, rfl⟩
  | false =>
    refine .inr ⟨rfl, ?_⟩
    cases hqueue : p.channel.queue with
    | cons a rest => exact .inl ⟨a, rest, rfl, rfl⟩
    | nil =>
      refine .inr ⟨rfl, ?_⟩
      cases hgone : p.channel.senderGone with
      | false => exact .inl ⟨rfl, rfl⟩
      | true =>
        refine .inr ⟨rfl, ?_⟩
        cases hfailure : p.failure with
        | some e => exact .inl ⟨e, rfl, rfl⟩
        | none => exact .inr ⟨rfl, rfl⟩

theorem sight?_eq_some (h : p.sight? = some (x, q)) :
    (p.finished = true ∧ x = .ended ∧ q = p) ∨ p.finished = false ∧
      ((∃ a rest, p.channel.queue = a :: rest ∧ x = .item a ∧ q = p.holding rest) ∨
        p.channel.queue = [] ∧ p.channel.senderGone = true ∧ q = p.finish ∧
          ((∃ e, p.failure = some e ∧ x = .failure e) ∨ p.failure = none ∧ x = .ended)) := by
  rw [sight?] at h
  obtain ⟨hf, hn⟩ | ⟨hf, ⟨a, rest, hq, hn⟩ | ⟨hq, ⟨-, hn⟩ | ⟨hs, ⟨e, he, hn⟩ | ⟨he, hn⟩⟩⟩⟩ :=
    p.next_cases
  all_goals rw [hn] at h; cases h
  · exact .inl ⟨hf, rfl, rfl⟩
  · exact .inr ⟨hf, .inl ⟨a, rest, hq, rfl, rfl⟩⟩
  · exact .inr ⟨hf, .inr ⟨hq, hs, rfl, .inl ⟨e, he, rfl⟩⟩⟩
  · exact .inr ⟨hf, .inr ⟨hq, hs, rfl, .inr ⟨he, rfl⟩⟩⟩

/-- A look shows what comes next. -/
theorem next_of_sight? (h : p.sight? = some (x, q)) : p.next = match x with
    | .item a => .item a q
    | .failure e => .failure e q
    | .ended => .ended q := by
  rw [sight?] at h
  split at h
  all_goals cases h
  all_goals assumption

/-- A look changes nothing about how the producer has left. -/
theorem sight?_failure (h : p.sight? = some (x, q)) : q.failure = p.failure := by
  obtain ⟨-, -, rfl⟩ | ⟨-, ⟨a, rest, -, -, rfl⟩ | ⟨-, -, rfl, -⟩⟩ := sight?_eq_some h
  · rfl
  · rfl
  · rfl

/-- A look leaves everything but the items and the end as it was. -/
theorem sight?_same (h : p.sight? = some (x, q)) :
    q.channel.capacity = p.channel.capacity ∧ q.channel.senderGone = p.channel.senderGone ∧
      (q.IsLeft ↔ p.IsLeft) ∧ q.channel.queue.length ≤ p.channel.queue.length := by
  obtain ⟨-, -, rfl⟩ | ⟨-, ⟨a, rest, hq, -, rfl⟩ | ⟨-, -, rfl, -⟩⟩ := sight?_eq_some h
  · exact ⟨rfl, rfl, Iff.rfl, Nat.le_refl _⟩
  · refine ⟨rfl, rfl, Iff.rfl, ?_⟩
    rw [hq]
    exact Nat.le_succ _
  · exact ⟨rfl, rfl, Iff.rfl, Nat.le_refl _⟩

/-- An item that is seen was the first one held. -/
theorem queue_of_sight? (h : p.sight? = some (.item a, q)) :
    ∃ rest, p.channel.queue = a :: rest ∧ q = p.holding rest := by
  obtain ⟨-, hx, -⟩ | ⟨-, ⟨b, rest, hq, hx, rfl⟩ | ⟨-, -, -, ⟨e, -, hx⟩ | ⟨-, hx⟩⟩⟩ :=
    sight?_eq_some h
  all_goals cases hx
  exact ⟨rest, hq, rfl⟩

/-- A failure that is seen is the one with which the producer has left. -/
theorem failure_of_sight? {e : BackendError} (h : p.sight? = some (.failure e, q)) :
    p.failure = some e := by
  obtain ⟨-, hx, -⟩ | ⟨-, ⟨b, rest, -, hx, -⟩ | ⟨-, -, -, ⟨e', he, hx⟩ | ⟨-, hx⟩⟩⟩ :=
    sight?_eq_some h
  all_goals cases hx
  exact he

theorem sight?_isSome (h : p.channel.senderGone = true) : ∃ x q, p.sight? = some (x, q) := by
  rw [sight?]
  obtain ⟨-, hn⟩ | ⟨-, ⟨a, rest, -, hn⟩ | ⟨-, ⟨hs, -⟩ | ⟨-, ⟨e, -, hn⟩ | ⟨-, hn⟩⟩⟩⟩ := p.next_cases
  · exact ⟨_, _, by rw [hn]⟩
  · exact ⟨_, _, by rw [hn]⟩
  · rw [h] at hs
    cases hs
  · exact ⟨_, _, by rw [hn]⟩
  · exact ⟨_, _, by rw [hn]⟩

/-- What a pipe which has taken given items still owes its consumer. The consumer has seen the
first of the items, and the pipe holds the others, until it shows its end. -/
structure Observed (p : Pipe α) (accepted : List α) (seen : List (Sight α)) : Prop where
  failures : ∀ e, .failure e ∈ seen → p.IsClosed (some e)
  unfinished : ¬ p.IsLeft → p.finished = false →
    seen ++ p.channel.queue.map .item = accepted.map .item
  finished : ¬ p.IsLeft → p.finished = true → p.channel.senderGone = true ∧
    ∃ k, (p.failure = none → 0 < k) ∧ seen = p.whole accepted ++ List.replicate k .ended

namespace Observed

theorem ofCapacity (n : Nat) : (Pipe.ofCapacity n : Pipe α).Observed [] [] :=
  ⟨by simp, fun _ _ => rfl, fun _ h => by cases h⟩

/-- The pipe takes one more item. -/
theorem push (h : p.Observed accepted seen) (hopen : p.IsOpen) (hleft : ¬ p.IsLeft) (a : α) :
    (p.holding (p.channel.queue ++ [a])).Observed (accepted ++ [a]) seen where
  failures e he := absurd (h.failures e he).1 hopen.not_senderGone
  unfinished _ hf := by
    simp only [holding, List.map_append, ← List.append_assoc]
    rw [h.unfinished hleft hf]
  finished _ hf := absurd (h.finished hleft hf).1 hopen.not_senderGone

/-- The producer leaves, with a failure or without. -/
theorem leave (h : p.Observed accepted seen) (hopen : p.IsOpen)
    (hq : q.channel.queue = p.channel.queue)
    (hf : q.finished = p.finished) (hleft : q.IsLeft ↔ p.IsLeft) : q.Observed accepted seen where
  failures e he := absurd (h.failures e he).1 hopen.not_senderGone
  unfinished hl hfin := by
    rw [hq]
    exact h.unfinished (hleft.not.1 hl) (hf ▸ hfin)
  finished hl hfin := absurd (h.finished (hleft.not.1 hl) (hf ▸ hfin)).1 hopen.not_senderGone

/-- The consumer leaves. -/
theorem abandon (h : p.Observed accepted seen) : p.abandon.Observed accepted seen where
  failures := h.failures
  unfinished hl := absurd rfl hl
  finished hl := absurd rfl hl

/-- The consumer looks. -/
theorem look (h : p.Observed accepted seen) (hleft : ¬ p.IsLeft) (hx : p.sight? = some (x, q)) :
    q.Observed accepted (seen ++ [x]) := by
  obtain ⟨hf, rfl, rfl⟩ | ⟨hf, ⟨a, rest, hq, rfl, rfl⟩ | ⟨hq, hs, rfl, hend⟩⟩ := sight?_eq_some hx
  · refine ⟨fun e he => h.failures e (by simpa using he), fun _ hf' => ?_, fun _ _ => ?_⟩
    · rw [hf] at hf'
      cases hf'
    · obtain ⟨hs, k, -, hseen⟩ := h.finished hleft hf
      exact ⟨hs, k + 1, fun _ => k.succ_pos, by rw [hseen, List.append_assoc, List.replicate_succ']⟩
  · refine ⟨fun e he => h.failures e (by simpa using he), fun _ _ => ?_, fun _ hf' => ?_⟩
    · rw [← h.unfinished hleft hf, hq]
      simp [holding]
    · rw [show (p.holding rest).finished = p.finished from rfl, hf] at hf'
      cases hf'
  · have hseen := h.unfinished hleft hf
    rw [hq, List.map_nil, List.append_nil] at hseen
    obtain ⟨e, he, rfl⟩ | ⟨he, rfl⟩ := hend
    · refine ⟨fun e' he' => ?_, fun _ hf' => Bool.noConfusion hf',
        fun _ _ => ⟨hs, 0, fun hnone => ?_, ?_⟩⟩
      · rcases List.mem_append.1 he' with he' | he'
        · exact h.failures e' he'
        · cases List.mem_singleton.1 he'
          exact ⟨hs, he⟩
      · cases he.symm.trans hnone
      · simp [whole, finish, he, hseen]
    · refine ⟨fun e' he' => h.failures e' (by simpa using he'), fun _ hf' => Bool.noConfusion hf',
        fun _ _ => ⟨hs, 1, fun _ => Nat.one_pos, ?_⟩⟩
      simp [whole, finish, he, hseen]

/-- The consumer has seen the first of what the pipe shows. -/
theorem eq_take (h : p.Observed accepted seen) (hleft : ¬ p.IsLeft) :
    seen = (p.whole accepted ++ List.replicate seen.length Sight.ended).take seen.length := by
  cases hf : p.finished with
  | false =>
    have hseen := h.unfinished hleft hf
    rw [whole, ← hseen, List.append_assoc, List.append_assoc, List.take_left]
  | true =>
    obtain ⟨-, k, -, hseen⟩ := h.finished hleft hf
    have hlength : seen.length = (p.whole accepted).length + k := by
      rw [hseen, List.length_append, List.length_replicate]
    rw [List.take_append, List.take_replicate, List.take_of_length_le (by omega), hlength,
      Nat.add_sub_cancel_left, Nat.min_eq_left (by omega), ← hseen]

/-- **What a reading consumer sees in all**, once the producer has left: the items that the pipe has
taken, its failure if it has one, and then the end. -/
theorem readOn (h : p.Observed accepted seen) (hleft : ¬ p.IsLeft)
    (hs : p.channel.senderGone = true)
    (n : Nat) :
    seen ++ p.readOn n =
      (p.whole accepted ++ List.replicate (seen.length + n) Sight.ended).take
        (seen.length + n) := by
  induction n generalizing p seen with
  | zero =>
    rw [Pipe.readOn, List.append_nil, Nat.add_zero]
    exact h.eq_take hleft
  | succ n ih =>
    obtain ⟨x, q, hx⟩ := sight?_isSome hs
    have hq : q.channel.senderGone = true ∧ ¬ q.IsLeft ∧ q.failure = p.failure := by
      obtain ⟨-, -, rfl⟩ | ⟨-, ⟨a, rest, -, -, rfl⟩ | ⟨-, -, rfl, -⟩⟩ := sight?_eq_some hx
      · exact ⟨hs, hleft, rfl⟩
      · exact ⟨hs, hleft, rfl⟩
      · exact ⟨hs, hleft, rfl⟩
    have hrest := ih (h.look hleft hx) hq.2.1 hq.1
    have hlength : (seen ++ [x]).length + n = seen.length + (n + 1) := by
      rw [List.length_append, List.length_singleton]
      omega
    rw [Pipe.readOn, hx]
    simp only
    rw [hlength, List.append_assoc, List.singleton_append] at hrest
    rw [hrest, whole, whole, hq.2.2]

end Observed

end Pipe

end RelationGate
