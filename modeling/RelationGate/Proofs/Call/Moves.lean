import RelationGate.Proofs.Call.Task

/-!
# What a move of a call does

A move of the handler leaves it at work or takes the call back through its stages, after at most a
note and an operation (`handle_goes`). Whatever a call does, what it shares with the others only
evolves (`taskMove_evolves`, `giveUp_evolves`). A call that comes back through plain stages ends
with the outcome of its handler (`finishWith_eq`), or with the failure that recovery makes of a
breakdown (`finish_panicked`); it is canceled, its lookup is left alone, and a failure has yet to be
reported on a streamed reply.
-/

namespace RelationGate

open Surroundings

/-- What acts of the backend alone come to. -/
theorem Surroundings.Evolves.of_acts {s : Surroundings} {acts : List Act} {b : Backend}
    (hacts : b = s.backend.after acts) : s.Evolves { s with backend := b } := by
  obtain ⟨hscript, hbuffer⟩ := s.backend.after_make acts
  exact .of_backend (by rw [hacts, hscript]) (by rw [hacts, hbuffer])

namespace Call

variable {c c' : Call} {s s' : Surroundings} {frames : Channel Frame}

/-! ## What calls share -/

theorem finish_evolves (c : Call) (outcome : Outcome) (s : Surroundings) :
    s.Evolves (c.finish outcome s).2 :=
  (Stage.leaveAll_evolves c.began c.entered outcome s c.conversation).trans (.endSpans _ _)

theorem finish_backend (c : Call) (outcome : Outcome) (s : Surroundings) :
    (c.finish outcome s).2.backend = s.backend :=
  (Stage.leaveAll_shared c.began c.entered outcome s c.conversation).1

theorem begin_evolves (c : Call) (s : Surroundings) : s.Evolves (c.begin s).2 := by
  have henter := Stage.enterAll_evolves c.stages [] s c.conversation
  rw [begin]
  split
  next admission entered s₁ conversation heq =>
  rw [heq] at henter
  cases admission with
  | ok u => exact henter
  | error e => exact henter.trans (finish_evolves _ _ _)

/-! ## Moves of the handler -/

/-- What a move of the handler comes to: the call goes back through its stages, or its handler is
still at work. What is known of the caller stays, and the backend has taken these acts. -/
inductive Goes (c : Call) (s : Surroundings) (acts : List Act) : Call × Surroundings → Prop where
  | back (conversation : Conversation) (lookup : Option Lookup) (s₁ : Surroundings)
      (outcome : Outcome)
      (hclaims : conversation.context.claims = c.conversation.context.claims)
      (hs : s.Evolves s₁) (hacts : s₁.backend = s.backend.after acts) :
      Goes c s acts ({ c with conversation, lookup }.finish outcome s₁)
  | on (conversation : Conversation) (lookup : Option Lookup) (progress : Progress)
      (s₁ : Surroundings)
      (hclaims : conversation.context.claims = c.conversation.context.claims)
      (hat : { c with progress }.isHandling = true)
      (hs : s.Evolves s₁) (hacts : s₁.backend = s.backend.after acts) :
      Goes c s acts ({ c with conversation, lookup, progress }, s₁)

variable {r : Call × Surroundings} {acts : List Act}

theorem Goes.evolves (h : c.Goes s acts r) : s.Evolves r.2 := by
  cases h with
  | back conversation lookup s₁ outcome hclaims hs hacts => exact hs.trans (finish_evolves _ _ s₁)
  | on conversation lookup progress s₁ hclaims hat hs hacts => exact hs

theorem Goes.backend (h : c.Goes s acts r) : r.2.backend = s.backend.after acts := by
  cases h with
  | back conversation lookup s₁ outcome hclaims hs hacts =>
    exact (finish_backend _ _ s₁).trans hacts
  | on conversation lookup progress s₁ hclaims hat hs hacts => exact hacts

theorem send_context {conversation conversation' : Conversation} {message : Json}
    {outcome : Except CallError Unit}
    (h : conversation.send message = .settled outcome conversation') :
    conversation'.context = conversation.context := by
  cases Conversation.sends_of_send h with
  | _ => rfl

theorem receive_frame (conversation : Conversation) (kind : RequestKind) :
    (conversation.receive kind).2.outbound = conversation.outbound ∧
      (conversation.receive kind).2.context = conversation.context := ⟨rfl, rfl⟩

/-- No program changes what is known of the caller. -/
theorem claims_of_proceeds {conversation conversation' : Conversation} {p p' : Program}
    {due : Option Nat} (h : p.Proceeds s conversation due p' conversation' s') :
    conversation'.context.claims = conversation.context.claims := by
  cases h with
  | sent hsend => exact congrArg CallContext.claims (send_context hsend)
  | _ => rfl

/-- **A move of the handler** is at most a note and an operation, and neither if its program is at
no operation. -/
theorem handle_goes {p : Program} {due : Option Nat} (hm : c.handle s p due = some r) :
    ∃ acts, c.Goes s acts r ∧ (p.performs = false → acts = []) := by
  cases handle_move hm with
  | ends h =>
    obtain ⟨acts, hacts, hnone⟩ := h.acts
    exact ⟨acts, .back c.conversation c.lookup _ _ rfl (.of_acts hacts) hacts, hnone⟩
  | heldUp hdue h =>
    obtain ⟨acts, hacts, hnone⟩ := h.acts
    exact ⟨acts, .on c.conversation c.lookup _ _ rfl rfl (.of_acts hacts) hacts, hnone⟩
  | proceeds h =>
    obtain ⟨acts, events, ready, rfl, hnone⟩ := h.shared
    obtain ⟨hscript, hbuffer⟩ := s.backend.after_make acts
    exact ⟨acts, .on _ c.lookup _ _ (claims_of_proceeds h) rfl
      ⟨Nat.le_refl _, List.prefix_append _ _, rfl, hscript, hbuffer⟩ rfl, hnone⟩
  | relays hp hstart => exact ⟨[], .on c.conversation _ _ s rfl rfl (.refl s) rfl, fun _ => rfl⟩

/-- **A move of the relay** does not concern the backend. -/
theorem relay_goes {inHand : Option Json} (hm : c.relay s inHand = some r) : c.Goes s [] r := by
  cases relay_move hm with
  | passed hsend =>
    exact .on _ c.lookup _ s (congrArg CallContext.claims (send_context hsend)) rfl (.refl s) rfl
  | stopped hsend =>
    exact .back _ c.lookup s _ (congrArg CallContext.claims (send_context hsend)) (.refl s) rfl
  | took hlookup hx => exact .on c.conversation _ _ s rfl rfl (.refl s) rfl
  | idle | failed | ended => exact .back c.conversation _ s _ rfl (.refl s) rfl

/-- **A move of the task of a call** only lets the shared state evolve. -/
theorem taskMove_evolves (hm : c.taskMove s = some (c', s')) : s.Evolves s' := by
  rw [taskMove] at hm
  split at hm
  · have h := c.begin_evolves s
    rwa [Option.some.inj hm] at h
  · obtain ⟨acts, hgoes, -⟩ := handle_goes hm
    exact hgoes.evolves
  · exact (relay_goes hm).evolves
  · obtain ⟨c'', -, heq⟩ := Option.map_eq_some_iff.1 hm
    cases heq
    exact .refl s
  · cases hm

/-- **A handler that is given up** is late and has to wait. -/
theorem expire_cases (hm : c.expire s = some r) : ∃ ms, c.timeout = some ms ∧
    c.isHandling = true ∧ c.began + ms ≤ s.now ∧ c.taskMove s = none ∧ r = c.giveUp ms s := by
  rw [expire] at hm
  split at hm
  · cases hm
  next ms htimeout =>
    split at hm
    next hlate =>
      simp only [Bool.and_eq_true, decide_eq_true_eq, Option.isNone_iff_eq_none] at hlate
      obtain ⟨⟨hhandling, hlate⟩, hwaits⟩ := hlate
      exact ⟨ms, htimeout, hhandling, hlate, hwaits, (Option.some.inj hm).symm⟩
    next => cases hm

/-- Only a handler is given up. -/
theorem expire_of_outside (houtside : c.isHandling = false) : c.expire s = none := by
  cases hexpire : c.expire s with
  | none => rfl
  | some r =>
    obtain ⟨ms, -, hhandling, -⟩ := expire_cases hexpire
    cases houtside.symm.trans hhandling

theorem giveUp_evolves (c : Call) (ms : Nat) (s : Surroundings) : s.Evolves (c.giveUp ms s).2 :=
  finish_evolves _ _ s

/-! ## The way in and the way out -/

/-- **The way in** through plain stages, of which recovery is the outermost: the handler is reached,
or the call fails. -/
theorem begin_cases {rest : List Stage} (hstages : c.stages = .recovery :: rest)
    (hplain : ∀ stage ∈ c.stages, stage.IsPlain) (s : Surroundings) :
    ∃ conversation entered began, Stage.Admits c.conversation conversation ∧ .recovery ∈ entered ∧
      (∀ stage ∈ entered, stage.IsPlain) ∧
        ((c.begin s).1 =
            { c with entered, conversation, began, progress := .handling c.handler none } ∨
          ∃ e s₁, (c.begin s).1 =
            ({ c with entered, conversation, began }.finishWith (.error e) s₁).1) := by
  have hrest : ∀ stage ∈ rest, stage.IsPlain := fun stage hstage =>
    hplain stage (hstages ▸ List.mem_cons_of_mem _ hstage)
  obtain ⟨hadmits, hrecovery, hentered⟩ := Stage.enterAll_admits hrest [.recovery] s c.conversation
  have henter : Stage.enterAll c.stages [] s c.conversation =
      Stage.enterAll rest [.recovery] s c.conversation := by
    rw [hstages]
    rfl
  rw [begin, henter]
  generalize Stage.enterAll rest [.recovery] s c.conversation = r at hadmits hrecovery hentered ⊢
  obtain ⟨admission, entered, s₁, conversation⟩ := r
  refine ⟨conversation, entered, s₁.now, hadmits, hrecovery List.mem_cons_self,
    fun stage hstage => ?_, ?_⟩
  · rcases List.mem_append.1 (hentered hstage) with hstage | hstage
    · exact hrest stage hstage
    · rw [List.mem_singleton.1 hstage]
      trivial
  · cases admission with
    | ok u => exact .inl rfl
    | error e => exact .inr ⟨e, s₁, rfl⟩

theorem finish_eq (c : Call) (outcome : Outcome) (s : Surroundings) :
    (c.finish outcome s).1 =
      conclude
        { c with conversation := (Stage.leaveAll c.began c.entered outcome s c.conversation).2.2 }
        (Stage.leaveAll c.began c.entered outcome s c.conversation).1 := rfl

/-- **A handler that is done**: its outcome is that of the call. -/
theorem finishWith_eq (h : ∀ stage ∈ c.entered, stage.IsPlain) (outcome : Except CallError Unit)
    (s : Surroundings) : (c.finishWith outcome s).1 = c.conclude (.finished outcome) := by
  obtain ⟨houtcome, hc⟩ := Stage.leaveAll_finished h c.began outcome s c.conversation
  rw [finishWith, finish_eq, houtcome, hc]

/-- **A handler that breaks down**: recovery records it and makes a failure of it. -/
theorem finish_panicked (h : ∀ stage ∈ c.entered, stage.IsPlain) (hrecovery : .recovery ∈ c.entered)
    (words : Option String) (s : Surroundings) :
    (c.finish (.panicked words) s).1 = c.conclude (.finished (.error Stage.breakdownError)) ∧
      Stage.recoveredEvent c.conversation words ∈ (c.finish (.panicked words) s).2.events := by
  obtain ⟨houtcome, hc, hevent⟩ :=
    Stage.leaveAll_panicked h hrecovery c.began words s c.conversation
  refine ⟨?_, hevent⟩
  rw [finish_eq, houtcome, hc]

/-- The call as it is when its handler is done: canceled, and its lookup left alone. -/
def leaving (c : Call) (outcome : Except CallError Unit) : Call :=
  { c with
    conversation := c.conversation.cancel, lookup := c.lookup.map Lookup.abandon,
    result := some (.finished outcome) }

/-! ## Streamed replies -/

/-- A call of the gateway that streams its reply, let into plain stages. -/
structure Streams (c : Call) (frames : Channel Frame) : Prop where
  guarded : c.guarded = true
  outbound : c.conversation.outbound = .channel frames
  plain : ∀ stage ∈ c.entered, stage.IsPlain

/-- A call whose frames are other ones. -/
def withFrames (c : Call) (frames : Channel Frame) : Call :=
  { c with conversation := { c.conversation with outbound := .channel frames } }

theorem withFrames_self (h : c.conversation.outbound = .channel frames) :
    c.withFrames frames = c := by
  rw [withFrames, ← h]

theorem conclude_error (h : c.Streams frames) (e : CallError) :
    c.conclude (.finished (.error e)) = { c.leaving (.error e) with progress := .reporting e } := by
  have hout : c.conversation.cancel.outbound = .channel frames := h.outbound
  rw [conclude, if_neg (by simp [h.guarded])]
  simp only [hout]
  rfl

/-- A failure has yet to be reported. -/
theorem finishWith_error (h : c.Streams frames) (e : CallError) (s : Surroundings) :
    (c.finishWith (.error e) s).1 = { c.leaving (.error e) with progress := .reporting e } := by
  rw [finishWith_eq h.plain]
  exact conclude_error h e

/-- A handler that has failed. -/
theorem handle_done_error {e : CallError} {due : Option Nat} (h : c.Streams frames)
    (hm : c.handle s (.done (.error e)) due = some (c', s')) :
    c' = { c.leaving (.error e) with progress := .reporting e } := by
  rw [← finishWith_error h e s]
  exact congrArg Prod.fst (Option.some.inj hm).symm

/-- Without a failure the frames are closed. -/
theorem finishWith_ok (h : c.Streams frames) (s : Surroundings) :
    (c.finishWith (.ok ()) s).1 =
      { (c.leaving (.ok ())).withFrames frames.closeSender with progress := .ended } := by
  have hout : c.conversation.cancel.outbound = .channel frames := h.outbound
  rw [finishWith_eq h.plain, conclude, if_neg (by simp [h.guarded])]
  simp only [closeFrames, hout]
  rfl

/-- **A handler that is given up**: that it is late has yet to be reported. -/
theorem giveUp_eq (h : c.Streams frames) (ms : Nat) (s : Surroundings) :
    ∃ conversation lookup, conversation.outbound = .channel frames ∧ (c.giveUp ms s).1 =
      { { c with conversation, lookup }.leaving (.error (lateError ms)) with
        progress := .reporting (lateError ms) } := by
  refine ⟨c.conversation.cancel, c.lookup.map Lookup.abandon, h.outbound, ?_⟩
  have hgiven : Streams { c with
      conversation := c.conversation.cancel, lookup := c.lookup.map Lookup.abandon } frames :=
    ⟨h.guarded, h.outbound, h.plain⟩
  exact finishWith_error hgiven (lateError ms) s

/-! ## Kept replies -/

/-- A call of the gateway that keeps its reply until it is over, let into plain stages. -/
structure Replies (c : Call) : Prop where
  guarded : c.guarded = true
  outbound : ∃ sent, c.conversation.outbound = .buffer sent
  plain : ∀ stage ∈ c.entered, stage.IsPlain

/-- The call as it is when it is over: there is nothing to report. -/
def closed (c : Call) (outcome : Except CallError Unit) : Call :=
  { c.leaving outcome with progress := .ended }

theorem conclude_kept (h : c.Replies) (outcome : Except CallError Unit) :
    c.conclude (.finished outcome) = c.closed outcome := by
  obtain ⟨sent, hsent⟩ := h.outbound
  have hout : c.conversation.cancel.outbound = .buffer sent := hsent
  rw [conclude, if_neg (by simp [h.guarded])]
  cases outcome with
  | ok u => simp only [closeFrames, hout, closed, leaving]
  | error e => simp only [closeFrames, hout, closed, leaving]

theorem finishWith_kept (h : c.Replies) (outcome : Except CallError Unit) (s : Surroundings) :
    (c.finishWith outcome s).1 = c.closed outcome := by
  rw [finishWith_eq h.plain]
  exact conclude_kept h outcome

/-- A handler that is done. -/
theorem handle_done_kept {outcome : Except CallError Unit} {due : Option Nat} (h : c.Replies)
    (hm : c.handle s (.done outcome) due = some (c', s')) : c' = c.closed outcome := by
  rw [← finishWith_kept h outcome s]
  exact congrArg Prod.fst (Option.some.inj hm).symm

end Call

end RelationGate
