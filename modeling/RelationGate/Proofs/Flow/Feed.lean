import RelationGate.Proofs.Flow.Pipe
import RelationGate.Feed

/-!
# What a feed has sent

A feed stands for a sequence of items, finite or not, and an ending. `Feed.Sound` is what its
consumer may rely on: the pipe holds the items that follow those already taken, and a closed pipe
means that there are no more, unless somebody canceled. The moves of the feed keep it
(`Sound.move`), and `Sound.next_eq_item`, `Sound.next_eq_failure` and `Sound.next_eq_ended` read the
three things that the consumer can meet off it.
-/

namespace RelationGate

/-! ## Items by position -/

/-- The list is what the sequence has from a place on, as far as the list goes. -/
def Fits {α : Type} (items : Nat → Option α) (start : Nat) (as : List α) : Prop :=
  ∀ i (h : i < as.length), items (start + i) = some as[i]

section Fits

variable {α : Type} {items : Nat → Option α} {start : Nat} {a : α} {as bs : List α}

theorem fits_nil : Fits items start [] := fun _ h => absurd h (Nat.not_lt_zero _)

theorem fits_cons :
    Fits items start (a :: as) ↔ items start = some a ∧ Fits items (start + 1) as := by
  constructor
  · intro h
    refine ⟨h 0 (Nat.zero_lt_succ _), fun i hi => ?_⟩
    have := h (i + 1) (by simpa using hi)
    rwa [List.getElem_cons_succ, ← Nat.add_assoc, Nat.add_right_comm] at this
  · rintro ⟨ha, has⟩ i hi
    cases i with
    | zero => simpa using ha
    | succ i =>
      have := has i (by simpa using hi)
      rwa [List.getElem_cons_succ, ← Nat.add_assoc, Nat.add_right_comm]

theorem fits_append :
    Fits items start (as ++ bs) ↔ Fits items start as ∧ Fits items (start + as.length) bs := by
  induction as generalizing start with
  | nil => simp [fits_nil]
  | cons a as ih =>
    rw [List.cons_append, fits_cons, fits_cons, ih, and_assoc, List.length_cons, Nat.add_assoc,
      Nat.add_comm 1]

theorem fits_singleton : Fits items start [a] ↔ items start = some a := by
  simp [fits_cons, fits_nil]

/-- For a list of items, to fit is to be a prefix. -/
theorem fits_getElem?_iff : Fits (bs[·]?) 0 as ↔ as <+: bs := by
  rw [List.prefix_iff_getElem?]
  simp only [Fits, Nat.zero_add]

end Fits

namespace Feed

variable {items : Nat → Option Item} {ending : FeedEnding} {canceled noticed : Bool} {taken : Nat}
  {f f' : Feed} {a : Item} {e : BackendError} {p : Pipe Item}

/-- A feed of a sequence of items with an ending, some of them taken. -/
structure Sound (items : Nat → Option Item) (ending : FeedEnding) (canceled : Bool) (taken : Nat)
    (f : Feed) : Prop where
  items_eq : f.items = items
  ending_eq : f.ending = ending
  queued : Fits items taken f.pipe.channel.queue
  sent_eq : f.sent = taken + f.pipe.channel.queue.length
  kept : ¬ f.pipe.IsLeft
  unfinished : f.pipe.finished = false
  opened : f.running = true → f.pipe.IsOpen
  closed : f.running = false → f.pipe.channel.senderGone = true
  /-- The failure is that of the ending, after the last item. -/
  failed : ∀ e, f.pipe.failure = some e → ending = .fail e ∧ items f.sent = none
  /-- The pipe is not closed early. -/
  complete : f.pipe.IsClosed none → canceled = true ∨ ending = .close ∧ items f.sent = none

namespace Sound

/-- A feed that has just been opened. -/
theorem fresh (canceled : Bool) (capacity pace ready : Nat) :
    Sound items ending canceled 0 { items, ending, pace, ready, pipe := .ofCapacity capacity } where
  items_eq := rfl
  ending_eq := rfl
  queued := fits_nil
  sent_eq := rfl
  kept := Bool.false_ne_true
  unfinished := rfl
  opened _ := ⟨rfl, rfl⟩
  closed h := Bool.noConfusion h
  failed _ h := absurd h.symm (Option.some_ne_none _)
  complete h := Bool.noConfusion h.1

theorem failed_at_once (canceled : Bool) (e : BackendError) :
    Sound (fun _ => none) (.fail e) canceled 0 (Feed.failed e) where
  items_eq := rfl
  ending_eq := rfl
  queued := fits_nil
  sent_eq := rfl
  kept := Bool.false_ne_true
  unfinished := rfl
  opened h := Bool.noConfusion h
  closed _ := rfl
  failed _ h := ⟨congrArg _ (Option.some.inj h), rfl⟩
  complete h := absurd h.2 (Option.some_ne_none _)

/-- A cancellation takes nothing away. -/
theorem mono {canceled' : Bool} (h : f.Sound items ending canceled taken)
    (hc : canceled = true → canceled' = true) : f.Sound items ending canceled' taken :=
  { h with complete := fun hp => (h.complete hp).imp_left hc }

/-- The feed stops, for a reason. -/
theorem stop (h : f.Sound items ending canceled taken) (hopen : f.pipe.IsOpen)
    (hwhy : canceled = true ∨ ending = .close ∧ items f.sent = none) :
    f.stop.Sound items ending canceled taken :=
  { h with
    opened := fun hr => Bool.noConfusion hr
    closed := fun _ => rfl
    failed := fun _ he => absurd (he.symm.trans hopen.2) (Option.some_ne_none _)
    complete := fun _ => hwhy }

/-- **A move of a feed keeps it sound.** Only a cancellation stops it early. -/
theorem move {now : Nat} (h : f.Sound items ending canceled taken)
    (hnoticed : noticed = true → canceled = true) (hm : f.move now noticed = some f') :
    f'.Sound items ending canceled taken := by
  rw [Feed.move] at hm
  split at hm
  · cases hm
  have hrunning : f.running = true := by simpa using ‹¬ (!f.running) = true›
  have hopen := h.opened hrunning
  split at hm
  · cases hm
    exact h.stop hopen (.inl (hnoticed ‹_›))
  split at hm
  next item hitem =>
    split at hm
    · cases hm
    obtain ⟨hleft, -⟩ | ⟨-, hp | hp⟩ := f.pipe.push_cases item
    · exact absurd hleft h.kept
    · rw [hp] at hm
      cases hm
      refine { h with
        queued := fits_append.2 ⟨h.queued, fits_singleton.2 ?_⟩
        sent_eq := ?_
        opened := fun _ => hopen
        failed := fun _ he => absurd (he.symm.trans hopen.2) (Option.some_ne_none _)
        complete := fun hp => absurd hp.1 hopen.not_senderGone }
      · rw [← h.sent_eq, ← h.items_eq]
        exact hitem
      · simp only [Pipe.holding, List.length_append, List.length_singleton, h.sent_eq]
        omega
    · rw [hp] at hm
      cases hm
  next hitem =>
    rw [h.items_eq] at hitem
    split at hm
    next hending =>
      cases hm
      exact h.stop hopen (.inr ⟨h.ending_eq ▸ hending, hitem⟩)
    next e hending =>
      cases hm
      exact { h with
        opened := fun hr => Bool.noConfusion hr
        closed := fun _ => rfl
        failed := fun e' he' => ⟨by rw [← Option.some.inj he', ← h.ending_eq, hending], hitem⟩
        complete := fun hp => absurd hp.2 (Option.some_ne_none _) }
    next => cases hm

/-- The next item of the pipe is the next item of the sequence. -/
theorem next_eq_item (h : f.Sound items ending canceled taken) (hn : f.pipe.next = .item a p) :
    items taken = some a ∧ { f with pipe := p }.Sound items ending canceled (taken + 1) := by
  obtain ⟨-, hp⟩ | ⟨-, ⟨b, rest, hq, hp⟩ | ⟨-, ⟨-, hp⟩ | ⟨-, ⟨e, -, hp⟩ | ⟨-, hp⟩⟩⟩⟩ :=
    f.pipe.next_cases
  all_goals rw [hp] at hn; cases hn
  have hqueued := h.queued
  have hsent := h.sent_eq
  rw [hq] at hqueued hsent
  rw [fits_cons] at hqueued
  refine ⟨hqueued.1, { h with queued := hqueued.2, sent_eq := ?_ }⟩
  rw [hsent, List.length_cons]
  simp only [Pipe.holding]
  omega

/-- A failure comes after the last item, and is that of the ending. -/
theorem next_eq_failure (h : f.Sound items ending canceled taken)
    (hn : f.pipe.next = .failure e p) :
    ending = .fail e ∧ items taken = none := by
  obtain ⟨-, hp⟩ | ⟨-, ⟨b, rest, -, hp⟩ | ⟨hq, ⟨-, hp⟩ | ⟨-, ⟨e', he, hp⟩ | ⟨-, hp⟩⟩⟩⟩ :=
    f.pipe.next_cases
  all_goals rw [hp] at hn; cases hn
  have hfailed := h.failed e he
  rwa [h.sent_eq, hq, List.length_nil, Nat.add_zero] at hfailed

/-- The pipe of a feed that nobody canceled ends after the last item. -/
theorem next_eq_ended (h : f.Sound items ending false taken) (hn : f.pipe.next = .ended p) :
    ending = .close ∧ items taken = none := by
  obtain ⟨hf, -⟩ | ⟨-, ⟨b, rest, -, hp⟩ | ⟨hq, ⟨-, hp⟩ | ⟨hs, ⟨e', -, hp⟩ | ⟨he, -⟩⟩⟩⟩ :=
    f.pipe.next_cases
  · rw [h.unfinished] at hf
    cases hf
  · rw [hp] at hn
    cases hn
  · rw [hp] at hn
    cases hn
  · rw [hp] at hn
    cases hn
  · have hcomplete := (h.complete ⟨hs, he⟩).resolve_left Bool.false_ne_true
    rwa [h.sent_eq, hq, List.length_nil, Nat.add_zero] at hcomplete

end Sound

end Feed

end RelationGate
