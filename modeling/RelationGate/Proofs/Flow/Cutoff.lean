import RelationGate.Proofs.Flow.Snapshot

/-!
# Streams that break down

A fault that brings a producer or its stream down closes the channels that they feed, and leaves no
failure in them. `Lookup.Tidy` says of a lookup that no failure is under way while somebody may
still be brought down, and `Lookup.CutOff` that somebody was: from then on no failure will ever come
(`CutOff.advance`, `CutOff.feedMove`), so that the consumer sees an end like any other
(`CutOff.not_sight_failure`).
-/

namespace RelationGate

namespace Feed

variable {f f' : Feed}

/-- A running feed has not failed. -/
def Tidy (f : Feed) : Prop := f.running = true → f.pipe.failure = none

/-- A feed that stopped without a failure. -/
def CutOff (f : Feed) : Prop := f.running = false ∧ f.pipe.failure = none

theorem CutOff.tidy (h : f.CutOff) : f.Tidy :=
  fun hr => absurd (h.1.symm.trans hr) Bool.false_ne_true

theorem Tidy.holding (h : f.Tidy) (queue : List Item) :
    Tidy { f with pipe := f.pipe.holding queue } := h

theorem CutOff.holding (h : f.CutOff) (queue : List Item) :
    CutOff { f with pipe := f.pipe.holding queue } := h

theorem Tidy.move {now : Nat} {noticed : Bool} (h : f.Tidy) (hm : f.move now noticed = some f') :
    f'.Tidy := by
  have hstopped : ∀ f' : Feed, f'.running = false → f'.Tidy :=
    fun f' hf hr => absurd (hf.symm.trans hr) Bool.false_ne_true
  rw [Feed.move] at hm
  split at hm
  · cases hm
  split at hm
  · cases hm
    exact hstopped _ rfl
  split at hm
  next item _ =>
    split at hm
    · cases hm
    obtain ⟨-, hp⟩ | ⟨-, hp | hp⟩ := f.pipe.push_cases item
    all_goals rw [hp] at hm; cases hm
    · exact hstopped _ rfl
    · exact h
  next =>
    split at hm
    · cases hm
      exact hstopped _ rfl
    · cases hm
      exact hstopped _ rfl
    · cases hm

/-- A feed that was cut off does not move. -/
theorem CutOff.move_eq_none (h : f.CutOff) (now : Nat) (noticed : Bool) :
    f.move now noticed = none := by
  rw [Feed.move, h.1]
  rfl

/-- **A fault cuts a running feed off.** -/
theorem Tidy.breakDown (h : f.Tidy) (hm : f.breakDown = some f') : f'.CutOff := by
  rw [Feed.breakDown] at hm
  split at hm
  next hrunning =>
    cases hm
    exact ⟨rfl, h hrunning⟩
  next => cases hm

end Feed

/-- **Every feed of the backend starts out tidy.** -/
theorem Backend.reactStream_tidy {b : Backend} {q : StreamQuery} {limit : UInt32}
    {place : Option ContinuationToken} {now : Nat} {feed : Feed}
    (h : b.reactStream q limit place now = .answered (.ok feed)) : feed.Tidy := by
  rw [reactStream] at h
  cases hpanic : (b.disturbance q.operation).panic with
  | some words =>
    simp only [hpanic] at h
    cases h
  | none =>
    cases herror : (b.disturbance q.operation).error with
    | some e =>
      simp only [hpanic, herror] at h
      cases h
    | none =>
      cases hstream : (b.disturbance q.operation).streamError with
      | some e =>
        simp only [hpanic, herror, hstream] at h
        cases h
        exact fun hr => absurd hr Bool.false_ne_true
      | none =>
        simp only [hpanic, herror, hstream] at h
        split at h
        · cases h
        next opened hopen =>
          split at h
          · cases h
          cases h
          rw [openFeed] at hopen
          split at hopen
          · split at hopen
            · cases hopen
            · cases hopen
              exact fun _ => rfl
          · have hanswer := checkAvailable_bind_eq_ok hopen
            cases hitems : b.store.answer limit place q with
            | error e =>
              rw [hitems] at hanswer
              cases hanswer
            | ok items =>
              rw [hitems] at hanswer
              cases hanswer
              exact fun _ => rfl

namespace Lookup

variable {l l' : Lookup} {canceled : Bool} {came : Option (Reaction Feed)} {results : Pipe Item}

/-- No failure is under way while somebody may still be brought down. -/
def Tidy (l : Lookup) : Prop :=
  match l.producing with
  | .created | .opening _ | .panicked => l.results.failure = none
  | .pulling feed | .offering feed _ => l.results.failure = none ∧ feed.Tidy
  | .settled _ => True

/-- The producer or its stream has stopped, and no failure is under way. -/
def CutOff (l : Lookup) : Prop :=
  l.results.failure = none ∧
    match l.producing with
    | .created | .opening _ => False
    | .pulling feed | .offering feed _ => feed.CutOff
    | .settled _ | .panicked => True

theorem tidy_fresh (query : StreamQuery) (limit : Limit) (buffer : Nat) :
    (fresh query limit buffer).Tidy := rfl

theorem Tidy.cutOff_of_panicked (h : l.Tidy) (hp : l.producing = .panicked) : l.CutOff := by
  rw [Tidy, hp] at h
  exact ⟨h, by rw [hp]; trivial⟩

/-! ## The producer -/

theorem Tidy.opened {r : Reaction Feed} (h : l.results.failure = none)
    (hr : ∀ feed, r = .answered (.ok feed) → feed.Tidy) : (l.opened r).Tidy := by
  match r with
  | .panicked _ => exact h
  | .answered (.error _) => trivial
  | .answered (.ok feed) => exact ⟨h, hr feed rfl⟩

theorem Tidy.advance (h : l.Tidy) (hcame : ∀ feed, came = some (.answered (.ok feed)) → feed.Tidy)
    (hm : l.advance canceled came = some l') : l'.Tidy := by
  -- As long as there is no stream, the producer stops or goes by what has come of opening one.
  have hopened : l.results.failure = none →
      (if canceled then some (l.settle .canceled) else came.map l.opened) = some l' → l'.Tidy := by
    intro hfailure hm
    split at hm
    · cases hm
      trivial
    · obtain ⟨r, hr, rfl⟩ := Option.map_eq_some_iff.1 hm
      exact .opened hfailure fun feed hfeed => hcame feed (hr.trans (congrArg some hfeed))
  cases hp : l.producing with
  | created =>
    rw [Tidy, hp] at h
    rw [Lookup.advance, hp] at hm
    exact hopened h hm
  | opening due =>
    rw [Tidy, hp] at h
    rw [Lookup.advance, hp] at hm
    exact hopened h hm
  | pulling feed =>
    rw [Tidy, hp] at h
    simp only [Lookup.advance, hp] at hm
    split at hm
    · cases hm
      trivial
    split at hm
    · cases hm
      trivial
    obtain ⟨-, hn⟩ | ⟨-, ⟨a, rest, -, hn⟩ | ⟨-, ⟨-, hn⟩ | ⟨-, ⟨e, -, hn⟩ | ⟨-, hn⟩⟩⟩⟩ :=
      feed.pipe.next_cases
    all_goals rw [hn] at hm; cases hm
    · trivial
    · exact ⟨h.1, h.2.holding rest⟩
    · trivial
    · trivial
  | offering feed item =>
    rw [Tidy, hp] at h
    simp only [Lookup.advance, hp] at hm
    split at hm
    · cases hm
      trivial
    obtain ⟨-, hpush⟩ | ⟨-, hpush | hpush⟩ := l.results.push_cases item
    all_goals rw [hpush] at hm; cases hm
    · trivial
    · exact h
  | settled state =>
    rw [Lookup.advance, hp] at hm
    cases hm
  | panicked =>
    rw [Lookup.advance, hp] at hm
    cases hm

/-- **A lookup that was cut off stays so.** -/
theorem CutOff.advance (h : l.CutOff) (hm : l.advance canceled came = some l') : l'.CutOff := by
  obtain ⟨hfailure, h⟩ := h
  cases hp : l.producing with
  | created =>
    rw [hp] at h
    exact h.elim
  | opening due =>
    rw [hp] at h
    exact h.elim
  | pulling feed =>
    rw [hp] at h
    simp only [Lookup.advance, hp] at hm
    split at hm
    · cases hm
      exact ⟨hfailure, trivial⟩
    split at hm
    · cases hm
      exact ⟨hfailure, trivial⟩
    obtain ⟨-, hn⟩ | ⟨-, ⟨a, rest, -, hn⟩ | ⟨-, ⟨-, hn⟩ | ⟨-, ⟨e, he, -⟩ | ⟨-, hn⟩⟩⟩⟩ :=
      feed.pipe.next_cases
    · rw [hn] at hm
      cases hm
      exact ⟨hfailure, trivial⟩
    · rw [hn] at hm
      cases hm
      exact ⟨hfailure, h.holding rest⟩
    · rw [hn] at hm
      cases hm
    · cases h.2.symm.trans he
    · rw [hn] at hm
      cases hm
      exact ⟨hfailure, trivial⟩
  | offering feed item =>
    rw [hp] at h
    simp only [Lookup.advance, hp] at hm
    split at hm
    · cases hm
      exact ⟨hfailure, trivial⟩
    obtain ⟨-, hpush⟩ | ⟨-, hpush | hpush⟩ := l.results.push_cases item
    all_goals rw [hpush] at hm; cases hm
    · exact ⟨hfailure, trivial⟩
    · exact ⟨hfailure, h⟩
  | settled state =>
    rw [Lookup.advance, hp] at hm
    cases hm
  | panicked =>
    rw [Lookup.advance, hp] at hm
    cases hm

theorem Tidy.produce {now : Nat} {b b' : Backend} (h : l.Tidy)
    (hm : l.produce now canceled b = some (l', b')) : l'.Tidy := by
  obtain ⟨-, ⟨hp, due, rfl⟩ | ⟨came, hcame, hadvance⟩⟩ := produce_cases hm
  · rw [Tidy, hp] at h
    exact h
  · refine h.advance (fun feed hfeed => ?_) hadvance
    obtain rfl | rfl := hcame
    · cases hfeed
    · exact Backend.reactStream_tidy (Option.some.inj hfeed)

theorem CutOff.produce {now : Nat} {b b' : Backend} (h : l.CutOff)
    (hm : l.produce now canceled b = some (l', b')) : l'.CutOff := by
  obtain ⟨-, ⟨hp, -⟩ | ⟨came, -, hadvance⟩⟩ := produce_cases hm
  · rw [CutOff, hp] at h
    exact h.2.elim
  · exact h.advance hadvance

/-- **A fault that strikes the producer cuts the lookup off.** -/
theorem Tidy.struck {now : Nat} {b b' : Backend} {words : String} (h : l.Tidy)
    (hm : l.produce now canceled b = some (l', b')) (hs : l.struck l' now b = some words) :
    l'.CutOff := by
  rw [Lookup.struck] at hs
  split at hs
  next hp _ => exact (h.produce hm).cutOff_of_panicked hp
  next => cases hs

/-! ## The stream -/

theorem Tidy.feedMove {now : Nat} {noticed : Bool} (h : l.Tidy)
    (hm : l.feedMove now noticed = some l') : l'.Tidy := by
  rw [Lookup.feedMove, onStream] at hm
  split at hm
  next feed hp =>
    obtain ⟨f, hf, rfl⟩ := Option.map_eq_some_iff.1 hm
    rw [Tidy, hp] at h
    exact ⟨h.1, h.2.move hf⟩
  next feed item hp =>
    obtain ⟨f, hf, rfl⟩ := Option.map_eq_some_iff.1 hm
    rw [Tidy, hp] at h
    exact ⟨h.1, h.2.move hf⟩
  next => cases hm

/-- The stream of a lookup that was cut off does not move. -/
theorem CutOff.feedMove {now : Nat} {noticed : Bool} (h : l.CutOff)
    (hm : l.feedMove now noticed = some l') : l'.CutOff := by
  rw [Lookup.feedMove, onStream] at hm
  split at hm
  next feed hp =>
    rw [CutOff, hp] at h
    rw [h.2.move_eq_none] at hm
    cases hm
  next feed item hp =>
    rw [CutOff, hp] at h
    rw [h.2.move_eq_none] at hm
    cases hm
  next => cases hm

/-- **A fault that strikes the stream cuts the lookup off.** -/
theorem Tidy.breakStream (h : l.Tidy) (hm : l.breakStream = some l') : l'.CutOff := by
  rw [Lookup.breakStream, onStream] at hm
  split at hm
  next feed hp =>
    obtain ⟨f, hf, rfl⟩ := Option.map_eq_some_iff.1 hm
    rw [Tidy, hp] at h
    exact ⟨h.1, h.2.breakDown hf⟩
  next feed item hp =>
    obtain ⟨f, hf, rfl⟩ := Option.map_eq_some_iff.1 hm
    rw [Tidy, hp] at h
    exact ⟨h.1, h.2.breakDown hf⟩
  next => cases hm

theorem CutOff.tidy (h : l.CutOff) : l.Tidy := by
  obtain ⟨hfailure, h⟩ := h
  rw [Tidy]
  cases hp : l.producing with
  | created | opening => exact hfailure
  | pulling feed =>
    rw [hp] at h
    exact ⟨hfailure, h.tidy⟩
  | offering feed item =>
    rw [hp] at h
    exact ⟨hfailure, h.tidy⟩
  | settled state => trivial
  | panicked => exact hfailure

/-! ## The consumer -/

/-- What the consumer does is no failure. -/
theorem Tidy.of_results (h : l.Tidy) (hfailure : results.failure = l.results.failure) :
    Tidy { l with results } := by
  rw [Tidy] at h ⊢
  cases hp : l.producing with
  | created | opening | panicked =>
    rw [hp] at h
    exact hfailure.trans h
  | pulling feed =>
    rw [hp] at h
    exact ⟨hfailure.trans h.1, h.2⟩
  | offering feed item =>
    rw [hp] at h
    exact ⟨hfailure.trans h.1, h.2⟩
  | settled state => trivial

theorem CutOff.of_results (h : l.CutOff) (hfailure : results.failure = l.results.failure) :
    CutOff { l with results } := ⟨hfailure.trans h.1, h.2⟩

/-- **The consumer of a lookup that was cut off never sees a failure.** -/
theorem CutOff.not_sight_failure {e : BackendError} (h : l.CutOff) :
    l.results.sight? ≠ some (.failure e, results) := by
  intro hx
  cases h.1.symm.trans (Pipe.failure_of_sight? hx)

end Lookup

end RelationGate
