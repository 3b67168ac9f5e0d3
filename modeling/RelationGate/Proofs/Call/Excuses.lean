import RelationGate.Proofs.Call.Reports
import RelationGate.Proofs.Store.Shape

/-!
# What a request in shape can fail with

A call whose request is in shape can fail in many ways, but over a genuine backend it is not told
that its arguments are invalid unless the backend blames a token of the request. A failure is
excused if it says something else, or if it is such a failure of the backend (`CallError.Excused`).
`Program.Excuses` says of the rest of a handler that it fails in excused ways only, `Lookup.Excuses`
says it of a lookup, and `Excusable` is what a call keeps of it in every schedule.

* `Program.excuses_of_standard`: the handler of every method, once it has a request in shape.
* `Excusable.step`: every act of everybody keeps a call excusable, as long as the backend is
  genuine.
-/

namespace RelationGate

open Json

variable {blamed : BackendError → Prop}

/-! ## Excused failures -/

/-- The failure does not call the arguments invalid, or it is one of the backend that blames
them. -/
def CallError.Excused (blamed : BackendError → Prop) (e : CallError) : Prop :=
  e.status = .invalidArgument →
    ∃ f activity, blamed f ∧ e = .ofBackend (BackendError.within f activity)

namespace CallError

theorem excused_of_status {e : CallError} (h : e.status ≠ .invalidArgument) : e.Excused blamed :=
  fun hstatus => (h hstatus).elim

theorem ofBackend_status_eq_invalidArgument {f : BackendError}
    (h : (ofBackend f).status = .invalidArgument) : f.kind = .invalidArgument := by
  obtain ⟨kind, message⟩ := f
  cases kind with
  | invalidArgument => rfl
  | _ => cases h

/-- **A failure of the backend**, annotated with what was being done. -/
theorem excused_ofBackend {f : BackendError} (h : f.kind = .invalidArgument → blamed f)
    (activity : String) : (ofBackend (f.within activity)).Excused blamed :=
  fun hstatus => ⟨f, activity, h (ofBackend_status_eq_invalidArgument hstatus), rfl⟩

end CallError

/-- The failures among the messages that are under way are excused. -/
def Outbound.Excuses (blamed : BackendError → Prop) : Outbound → Prop
  | .buffer _ => True
  | .channel frames => ∀ e : CallError, .error e ∈ frames.queue → e.Excused blamed

theorem Outbound.Speaks.excuses {o o' : Outbound} (h : o.Speaks o') (ho : o.Excuses blamed) :
    o'.Excuses blamed := by
  cases h with
  | silent => exact ho
  | kept => trivial
  | passed frames message hpresent hroom =>
    intro e he
    rcases List.mem_append.1 he with he | he
    · exact ho e he
    · cases List.mem_singleton.1 he

theorem closeFrames_excuses {c : Conversation} (h : c.outbound.Excuses blamed) :
    (Call.closeFrames c).outbound.Excuses blamed := by
  unfold Call.closeFrames
  split
  · exact h
  next frames hframes =>
    rw [hframes] at h
    exact h

/-- A message that is not taken is no invalid argument. -/
theorem Conversation.status_of_send {c c' : Conversation} {message : Json} {e : CallError}
    (h : c.send message = .settled (.error e) c') : e.status ≠ .invalidArgument := by
  cases sends_of_send h with
  | canceled | left => nofun

/-! ## Handlers -/

/-- The stream of a query is refused as invalid only if the backend is right to blame the query. -/
def StreamQuery.Excuses (blamed : BackendError → Prop) (q : StreamQuery) : Prop :=
  ∀ (b : Backend) (limit : UInt32) (now : Nat) (e : BackendError), b.script = none →
    b.openFeed q limit q.place now = .error e → e.kind = .invalidArgument → blamed e

namespace Program

/-- **A handler after its request**: wherever it goes from here, as long as no operation is
disturbed, it fails in excused ways only. -/
inductive Excuses (blamed : BackendError → Prop) : Program → Prop where
  | done {outcome : Except CallError Unit} (h : ∀ e, outcome = .error e → e.Excused blamed) :
      Excuses blamed (.done outcome)
  | send {message : Json} {next : Except CallError Unit → Program}
      (h : ∀ r, (∀ e, r = .error e → e.Excused blamed) → Excuses blamed (next r)) :
      Excuses blamed (.send message next)
  | perform {op : Operation} {next : Except BackendError op.Answer → Program}
      (h : ∀ b : Backend, Excuses blamed (next (b.perform op).1)) :
      Excuses blamed (.perform op next)
  | relay {query : StreamQuery} (hengine : ∀ settings e, Lookup.start settings query ≠
      .answered (.error e)) (hstream : query.Excuses blamed) : Excuses blamed (.relay query)
  | emit {event : Event} {next : Program} (h : Excuses blamed next) :
      Excuses blamed (.emit event next)
  | isReady {next : Bool → Program} (h : ∀ b, Excuses blamed (next b)) :
      Excuses blamed (.isReady next)
  | setReady {ready : Bool} {next : Bool → Program} (h : ∀ b, Excuses blamed (next b)) :
      Excuses blamed (.setReady ready next)

theorem excuses_fail {e : CallError} (h : e.Excused blamed) : (fail e).Excuses blamed :=
  .done fun _ he => Except.error.inj he ▸ h

theorem excuses_failWith {f : BackendError} (h : f.kind = .invalidArgument → blamed f)
    (activity : String) : (failWith (f.within activity)).Excuses blamed :=
  excuses_fail (CallError.excused_ofBackend h activity)

theorem excuses_respond (r : Response) : (respond r).Excuses blamed := .send fun _ h => .done h

/-- A handler beside a backend that disturbs nothing goes on in the same way. -/
theorem Excuses.proceeds {p p' : Program} {due : Option Nat} {s s' : Surroundings}
    {c c' : Conversation} (hexcuses : p.Excuses blamed) (hb : s.backend.IsGenuine)
    (h : p.Proceeds s c due p' c' s') : p'.Excuses blamed := by
  cases hexcuses with
  | done | relay => cases h
  | send hnext =>
    cases h with
    | sent hsend =>
      refine hnext _ fun e he => ?_
      rw [he] at hsend
      exact CallError.excused_of_status (Conversation.status_of_send hsend)
  | perform hnext =>
    cases h with
    | denied hasks hpanic herror =>
      obtain ⟨-, hcalm, -⟩ := hb.calm _
      cases hcalm.symm.trans herror
    | performed => exact hnext _
  | emit hnext =>
    cases h
    exact hnext
  | isReady hnext | setReady hnext =>
    cases h
    exact hnext _

/-- The service of the locks, for an identifier that it does not refuse. -/
theorem excuses_acquireLock {identifier : String} {existing : Option LockToken}
    (hlock : checkLockIdentifier identifier = .ok ())
    (hop : ∀ (b : Backend) (e : BackendError), (b.perform (.acquire identifier existing)).1 =
      .error e → e.kind = .invalidArgument → blamed e) :
    (acquireLock identifier existing lockReply).Excuses blamed := by
  rw [acquireLock_of_ok hlock]
  refine .perform fun b => ?_
  cases houtcome : (b.perform (.acquire identifier existing)).1 with
  | error e => exact excuses_failWith (hop b e houtcome) _
  | ok token =>
    change (lockNext identifier existing (.ok token)).Excuses blamed
    by_cases hsame : existing = some token
    · rw [lockNext_of_eq hsame]
      exact .emit (excuses_fail (CallError.excused_of_status nofun))
    · rw [lockNext_of_ne hsame]
      exact excuses_respond _

/-- The probe. -/
theorem excuses_checkReady {sticky : Bool} {next : Except BackendError Unit → Program}
    (hready : (next (.ok ())).Excuses blamed)
    (hrefused : ∀ e : BackendError, (e.kind = .invalidArgument → blamed e) →
      (next (.error (e.within "backend not ready"))).Excuses blamed)
    (hop : ∀ (b : Backend) (e : BackendError), (b.perform .available).1 = .error e →
      e.kind = .invalidArgument → blamed e) :
    (checkReady sticky next).Excuses blamed := by
  refine .isReady fun ready => ?_
  show (if sticky && ready then _ else _ : Program).Excuses blamed
  split
  · exact hready
  · refine .perform fun b => ?_
    cases houtcome : (b.perform .available).1 with
    | error e => exact .setReady fun _ => .emit (hrefused e (hop b e houtcome))
    | ok u =>
      refine .setReady fun before => ?_
      cases before with
      | true => exact hready
      | false => exact .emit hready

/-- **Every method of the gateway** receives a request, and if that is in shape, it fails in excused
ways only. -/
theorem excuses_of_standard {sticky : Bool} {route : Route} (hmem : route ∈ Route.standard sticky) :
    ∃ kind next, route.handler = withRequest kind next ∧
      ∀ r, Request.IsInShape kind r → (next r).Excuses (Request.Blamed kind r) := by
  simp only [Route.standard, List.mem_cons, List.not_mem_nil, or_false] at hmem
  rcases hmem with rfl | rfl | rfl | rfl | rfl | rfl | rfl | rfl | rfl
  · refine ⟨_, _, rfl, fun (q : CheckQuery) hshape => .perform fun b => ?_⟩
    cases houtcome : (b.perform (.check q)).1 with
    | ok r => exact excuses_respond _
    | error e => exact excuses_failWith (hshape.operation _ rfl b e houtcome) _
  · refine ⟨_, _, rfl, fun (r : CreateRequest) hshape => .perform fun b => ?_⟩
    cases houtcome : (b.perform (.create r.relationships r.mode)).1 with
    | ok t => exact excuses_respond _
    | error e => exact excuses_failWith (hshape.operation _ rfl b e houtcome) _
  · refine ⟨_, _, rfl, fun (r : DeleteRequest) hshape => .perform fun b => ?_⟩
    cases houtcome : (b.perform (.delete r.filter)).1 with
    | ok t => exact excuses_respond _
    | error e => exact excuses_failWith (hshape.operation _ rfl b e houtcome) _
  · exact ⟨.read, _, rfl, fun q hshape => .relay (hshape.engine _ rfl) (hshape.stream _ rfl)⟩
  · exact ⟨.subjects, _, rfl, fun q hshape => .relay (hshape.engine _ rfl) (hshape.stream _ rfl)⟩
  · exact ⟨.resources, _, rfl, fun q hshape => .relay (hshape.engine _ rfl) (hshape.stream _ rfl)⟩
  · exact ⟨.lock, _, lock_eq, fun r hshape =>
      excuses_acquireLock (hshape.lock _ _ rfl) (hshape.operation _ rfl)⟩
  · exact ⟨.probe, _, rfl, fun _ _ => excuses_respond _⟩
  · refine ⟨.probe, _, rfl, fun _ hshape => excuses_checkReady (excuses_respond _) (fun e he => ?_)
      (hshape.operation _ rfl)⟩
    exact excuses_failWith he _

end Program

/-! ## Lookups -/

/-- Whatever comes of a lookup, it fails in excused ways only: so does the opening of its stream,
the open stream is one of items that closes, and the results hold no other failure. -/
structure Lookup.Excuses (blamed : BackendError → Prop) (l : Lookup) : Prop where
  query : l.query.Excuses blamed
  stream : ∀ feed, l.stream? = some feed → feed.ending = .close ∧ feed.pipe.failure = none
  results : ∀ f, l.results.failure = some f → (CallError.ofBackend f).Excused blamed

namespace Lookup.Excuses

variable {l l' : Lookup} {canceled : Bool} {now : Nat} {b b' : Backend}

/-- A lookup without a stream has none to speak of. -/
theorem of_stream_eq_none (h : l.stream? = none) (feed : Feed) (hfeed : l.stream? = some feed) :
    feed.ending = .close ∧ feed.pipe.failure = none := by
  cases h.symm.trans hfeed

theorem fresh {query : StreamQuery} (hquery : query.Excuses blamed) (limit : Limit)
    (buffer : Nat) : (Lookup.fresh query limit buffer).Excuses blamed :=
  ⟨hquery, of_stream_eq_none rfl, nofun⟩

/-- The producer has no stream any more. -/
theorem settle (h : l.Excuses blamed) (state : LookupState) : (l.settle state).Excuses blamed :=
  ⟨h.query, of_stream_eq_none rfl, h.results⟩

theorem abandon (h : l.Excuses blamed) : l.abandon.Excuses blamed :=
  ⟨h.query, h.stream, h.results⟩

/-- The consumer looks at the results. -/
theorem look (h : l.Excuses blamed) {results : Pipe Item}
    (hfailure : results.failure = l.results.failure) : { l with results }.Excuses blamed :=
  ⟨h.query, h.stream, fun f hf => h.results f (hfailure ▸ hf)⟩

/-- **The stream is opened**, or refused. -/
theorem opening (h : l.Excuses blamed) (hb : b.IsGenuine) :
    (l.opened (l.opening now b)).Excuses blamed := by
  obtain ⟨hpanic, herror, hstream⟩ := hb.calm l.query.operation
  cases hreact : l.opening now b with
  | panicked words => exact ⟨h.query, of_stream_eq_none rfl, h.results⟩
  | answered outcome =>
    cases outcome with
    | ok feed =>
      obtain ⟨items, -, rfl⟩ := hb.answer_of_reactStream hreact
      refine ⟨h.query, fun feed hfeed => ?_, h.results⟩
      cases hfeed
      exact ⟨rfl, rfl⟩
    | error e =>
      have hrefused : b.openFeed l.query l.limit.word l.query.place now = .error e := by
        simp only [Lookup.opening, Backend.reactStream, hpanic, herror, hstream] at hreact
        split at hreact
        next e' hopen =>
          cases hreact
          exact hopen
        next feed hopen =>
          split at hreact
          · cases hreact
          · cases hreact
      refine ⟨h.query, of_stream_eq_none rfl, fun f hf => ?_⟩
      cases hf
      exact CallError.excused_ofBackend (h.query b _ now e hb.unscripted hrefused) _

/-- The producer has its stream, or has none any more. -/
theorem advance (h : l.Excuses blamed) (hm : l.advance canceled none = some l') :
    l'.Excuses blamed := by
  cases hp : l.producing with
  | created | opening due =>
    simp only [Lookup.advance, hp, Option.map_none] at hm
    split at hm
    · cases hm
      exact h.settle _
    · cases hm
  | settled state | panicked =>
    simp only [Lookup.advance, hp] at hm
    cases hm
  | pulling feed =>
    obtain ⟨hending, hcalm⟩ := h.stream feed (by rw [stream?, hp])
    simp only [Lookup.advance, hp] at hm
    split at hm
    · cases hm
      exact h.settle _
    split at hm
    · cases hm
      exact h.settle _
    split at hm
    next item pipe hnext =>
      cases hm
      refine ⟨h.query, fun feed' hfeed => ?_, h.results⟩
      cases hfeed
      have hsight : feed.pipe.sight? = some (.item item, pipe) := by rw [Pipe.sight?, hnext]
      exact ⟨hending, (Pipe.sight?_failure hsight).trans hcalm⟩
    next e pipe hnext =>
      -- A pipe without a failure shows none.
      have hsight : feed.pipe.sight? = some (.failure e, pipe) := by rw [Pipe.sight?, hnext]
      cases hcalm.symm.trans (Pipe.failure_of_sight? hsight)
    next pipe hnext =>
      cases hm
      exact h.settle _
    next => cases hm
  | offering feed item =>
    have hfeed := h.stream feed (by rw [stream?, hp])
    simp only [Lookup.advance, hp] at hm
    split at hm
    · cases hm
      exact h.settle _
    obtain ⟨-, hpush⟩ | ⟨-, hpush | hpush⟩ := l.results.push_cases item
    · rw [hpush] at hm
      cases hm
      exact h.settle _
    · rw [hpush] at hm
      cases hm
      refine ⟨h.query, fun feed' hfeed' => ?_, h.results⟩
      cases hfeed'
      exact hfeed
    · rw [hpush] at hm
      cases hm

/-- **A move of the producer** over a genuine backend. -/
theorem produce (h : l.Excuses blamed) (hb : b.IsGenuine)
    (hm : l.produce now canceled b = some (l', b')) : l'.Excuses blamed := by
  obtain ⟨-, ⟨-, due, rfl⟩ | ⟨came, hcame, hadvance⟩⟩ := produce_cases hm
  · exact ⟨h.query, of_stream_eq_none rfl, h.results⟩
  by_cases hw : l.IsWaiting
  · rw [advance_of_isWaiting hw] at hadvance
    split at hadvance
    · cases hadvance
      exact h.settle _
    · obtain rfl | rfl := hcame
      · cases hadvance
      · cases hadvance
        exact h.opening hb
  · exact h.advance (advance_of_not_isWaiting hw hadvance).2.2

/-- An act of the stream that leaves its ending as it is, and puts no failure into its pipe. -/
theorem onStream (h : l.Excuses blamed) {act : Feed → Option Feed} (hm : l.onStream act = some l')
    (hact : ∀ f f', act f = some f' → f.ending = .close ∧ f.pipe.failure = none →
      f'.ending = .close ∧ f'.pipe.failure = none) : l'.Excuses blamed := by
  rw [Lookup.onStream] at hm
  split at hm
  next feed hp =>
    obtain ⟨f, hf, rfl⟩ := Option.map_eq_some_iff.1 hm
    refine ⟨h.query, fun feed' hfeed => ?_, h.results⟩
    cases hfeed
    exact hact feed _ hf (h.stream feed (by rw [stream?, hp]))
  next feed item hp =>
    obtain ⟨f, hf, rfl⟩ := Option.map_eq_some_iff.1 hm
    refine ⟨h.query, fun feed' hfeed => ?_, h.results⟩
    cases hfeed
    exact hact feed _ hf (h.stream feed (by rw [stream?, hp]))
  next => cases hm

/-- **A move of the stream**, which closes without a failure. -/
theorem feedMove {noticed : Bool} (h : l.Excuses blamed)
    (hm : l.feedMove now noticed = some l') : l'.Excuses blamed := by
  refine h.onStream hm fun f f' hf hcloses => ?_
  obtain ⟨hending, hcalm⟩ := hcloses
  rw [Feed.move] at hf
  split at hf
  · cases hf
  split at hf
  · cases hf
    exact ⟨hending, hcalm⟩
  split at hf
  next item hitem =>
    split at hf
    · cases hf
    obtain ⟨-, hpush⟩ | ⟨-, hpush | hpush⟩ := f.pipe.push_cases item
    all_goals rw [hpush] at hf; cases hf
    · exact ⟨hending, hcalm⟩
    · exact ⟨hending, hcalm⟩
  next hnone =>
    rw [hending] at hf
    cases hf
    exact ⟨hending, hcalm⟩

/-- A fault that brings the stream down. -/
theorem breakStream (h : l.Excuses blamed) (hm : l.breakStream = some l') :
    l'.Excuses blamed := by
  refine h.onStream hm fun f f' hf hcloses => ?_
  rw [Feed.breakDown] at hf
  split at hf
  · cases hf
    exact hcloses
  · cases hf

end Lookup.Excuses

/-! ## The way in -/

/-- **A checked message** is let through as the gate has it. -/
theorem Conversation.receive_accept {c : Conversation} {kind : RequestKind} {params : Json}
    (hinbound : c.inbound = [params]) (hvalidating : c.validating = true) :
    (c.receive kind).1 = Request.accept kind params := by
  rw [receive_eq, hinbound, Request.accept]
  simp only
  cases Request.decode kind params with
  | error e => rfl
  | ok r =>
    cases hvalid : Request.validate kind r with
    | error e => simp only [hvalidating, hvalid, if_true]
    | ok u => simp only [hvalidating, hvalid, if_true]

/-- Everybody who comes through the standard stages has come through the one that checks. -/
theorem Stage.enterAll_validating (metrics : Bool) (auth : Option AuthSettings) (s : Surroundings)
    (c : Conversation) :
    (enterAll (standard metrics auth) [] s c).2.2.2.validating = true := by
  cases auth with
  | none =>
    cases metrics with
    | _ => rfl
  | some settings =>
    cases metrics with
    | _ =>
      simp only [standard, Bool.false_eq_true, if_true, if_false, Option.toList_some, List.map_cons,
        List.map_nil, List.cons_append, List.nil_append, List.append_nil, enterAll, enter]
      cases credentials settings s.unixTime c.context.headers with
      | error e => rfl
      | ok claims => rfl

/-- **The way in** through the standard stages: the handler is reached, and what it receives will be
checked, or the credentials of the call are refused. -/
theorem Call.begin_validating {c : Call} {metrics : Bool} {auth : Option AuthSettings}
    (hstages : c.stages = Stage.standard metrics auth) (s : Surroundings) :
    ∃ conversation s₁, c.conversation.Stays conversation ∧
      ((conversation.validating = true ∧ c.begin s = ({ c with
          entered := (Stage.standard metrics auth).reverse, conversation, began := s₁.now
          progress := .handling c.handler none }, s₁)) ∨
        ∃ settings e, auth = some settings ∧ Stage.credentials settings s.unixTime
            c.conversation.context.headers = .error e ∧
          c.begin s = { c with
            entered := (Stage.standard metrics none).reverse, conversation
            began := s₁.now }.finishWith (.error e.toCallError) s₁) := by
  have hvalidating := Stage.enterAll_validating metrics auth s c.conversation
  obtain ⟨conversation, s₁, hstays, -, ⟨-, henter⟩ | ⟨settings, e, hauth, hverdict, -, henter⟩⟩ :=
    Stage.enterAll_standard_cases metrics auth s c.conversation
  all_goals rw [henter] at hvalidating
  · refine ⟨conversation, s₁, hstays, .inl ⟨hvalidating, ?_⟩⟩
    simp only [begin, hstages, henter]
  · refine ⟨conversation, s₁, hstays, .inr ⟨settings, e, hauth, hverdict, ?_⟩⟩
    simp only [begin, hstages, henter]

/-! ## The invariant -/

section Excusable

variable (metrics : Bool) (auth : Option AuthSettings) (handler : Program) (params : Json)
  (blamed : BackendError → Prop)

/-- What holds of a call at each stage of its task. -/
def Stance (c : Call) : Progress → Prop
  | .waiting => c.stages = Stage.standard metrics auth ∧ c.handler = handler ∧
      c.conversation.inbound = [params]
  | .handling p _ => c.entered = (Stage.standard metrics auth).reverse ∧
      ((p = handler ∧ c.conversation.inbound = [params] ∧ c.conversation.validating = true) ∨
        p.Excuses blamed)
  | .relaying _ => c.entered = (Stage.standard metrics auth).reverse
  | .reporting e => e.Excused blamed
  | .ended => True

/-- **The invariant** of a call whose request is in shape: every failure that it has shown, has
under way or may still come to is excused. -/
structure Excusable (sc : Scene) : Prop where
  guarded : sc.call.guarded = true
  received : ∀ e : CallError, .error e ∈ sc.received → e.Excused blamed
  outbound : sc.call.conversation.outbound.Excuses blamed
  result : ∀ e, sc.call.result = some (.finished (.error e)) → e.Excused blamed
  lookup : ∀ l, sc.call.lookup = some l → l.Excuses blamed
  stance : Stance metrics auth handler params blamed sc.call sc.call.progress

end Excusable

namespace Excusable

variable {metrics : Bool} {auth : Option AuthSettings} {handler : Program} {params : Json}
  {sc sc' : Scene} {c c' : Call} {s : Surroundings} {fault : Option String}
  {undisturbed : Bool} {opened : Option Store}

/-- The lookup of a call, if it has one, is excused. -/
theorem map_abandon {lookup : Option Lookup} (h : ∀ l, lookup = some l → l.Excuses blamed) :
    ∀ l, lookup.map Lookup.abandon = some l → l.Excuses blamed := by
  intro l hl
  obtain ⟨l', hl', rfl⟩ := Option.map_eq_some_iff.1 hl
  exact (h l' hl').abandon

/-- **The way back** with an excused outcome. -/
theorem finish (h : Excusable metrics auth handler params blamed sc) (auth' : Option AuthSettings)
    {c₁ : Call} {outcome : Outcome} {s₁ : Surroundings} (hm : c₁.finish outcome s₁ = (c, s))
    (hguarded : c₁.guarded = true)
    (hentered : c₁.entered = (Stage.standard metrics auth').reverse)
    (houtbound : c₁.conversation.outbound.Excuses blamed)
    (hlookup : ∀ l, c₁.lookup = some l → l.Excuses blamed)
    (houtcome : ∀ e, outcome.result = .error e → e.Excused blamed) :
    Excusable metrics auth handler params blamed { sc with
      call := c, shared := s, fault, undisturbed } := by
  have hcall : c = c₁.conclude (.finished outcome.result) := by
    rw [Call.finish_standard hentered] at hm
    exact (congrArg Prod.fst hm).symm
  rw [hcall]
  have hresult : ∀ e, some (Outcome.finished outcome.result) = some (.finished (.error e)) →
      e.Excused blamed := fun e he => houtcome e (Outcome.finished.inj (Option.some.inj he))
  obtain ⟨e, frames, hfailed, -, hc⟩ | ⟨-, hc⟩ :=
    Call.conclude_cases hguarded (.finished outcome.result)
  all_goals rw [hc]
  · exact ⟨hguarded, h.received, houtbound, hresult, map_abandon hlookup,
      houtcome e (Outcome.finished.inj hfailed)⟩
  · exact ⟨hguarded, h.received, closeFrames_excuses houtbound, hresult, map_abandon hlookup,
      trivial⟩

/-- The handler goes on. -/
theorem goOn (h : Excusable metrics auth handler params blamed sc) {conversation : Conversation}
    (hspeaks : sc.call.conversation.outbound.Speaks conversation.outbound)
    (hentered : sc.call.entered = (Stage.standard metrics auth).reverse) {p : Program}
    (hp : p.Excuses blamed) (due : Option Nat) :
    Excusable metrics auth handler params blamed { sc with
      call := { sc.call with conversation, progress := .handling p due }, shared := s, fault } :=
  ⟨h.guarded, h.received, hspeaks.excuses h.outbound, h.result, h.lookup, hentered, .inr hp⟩

/-- The call comes to its handler, or its credentials are refused. -/
theorem begin (h : Excusable metrics auth handler params blamed sc)
    (hp : sc.call.progress = .waiting) (hm : sc.call.taskMove sc.shared = some (c, s)) :
    Excusable metrics auth handler params blamed { sc with call := c, shared := s, fault } := by
  have hstance := h.stance
  rw [hp] at hstance
  obtain ⟨hstages, hhandler, hinbound⟩ := hstance
  rw [Call.taskMove, hp] at hm
  obtain ⟨conversation, s₁, hstays, ⟨hvalidating, hbegin⟩ | ⟨settings, e, -, -, hbegin⟩⟩ :=
    Call.begin_validating hstages sc.shared
  all_goals rw [hbegin] at hm
  · cases hm
    exact ⟨h.guarded, h.received, hstays.outbound ▸ h.outbound, h.result, h.lookup, rfl,
      .inl ⟨hhandler, hstays.inbound.trans hinbound, hvalidating⟩⟩
  · have houtbound : conversation.outbound.Excuses blamed := hstays.outbound ▸ h.outbound
    refine h.finish none (Option.some.inj hm) h.guarded rfl houtbound h.lookup ?_
    intro e' he'
    cases he'
    exact CallError.excused_of_status fun h => by cases h

/-- The handler breaks down, or its time is up. -/
theorem excused_of_fault {outcome : Outcome} {e : CallError} (he : outcome.result = .error e)
    (h : (∃ words, outcome = .panicked words) ∨
      ∃ ms, outcome = .finished (.error (Call.lateError ms))) : e.Excused blamed := by
  obtain ⟨words, rfl⟩ | ⟨ms, rfl⟩ := h
  · cases he
    exact CallError.excused_of_status nofun
  · cases he
    exact CallError.excused_of_status nofun

/-- A program that ends does so with an excused failure, if with one. -/
theorem excused_of_ends {p : Program} {due : Option Nat} {outcome : Outcome} {b : Backend}
    {s : Surroundings} (hexcuses : p.Excuses blamed) (h : p.Ends s due outcome b) :
    ∀ e, outcome.result = .error e → e.Excused blamed := by
  intro e he
  cases h with
  | done =>
    cases hexcuses with
    | done hdone => exact hdone e he
  | panic | struck | unmade => exact excused_of_fault he (.inl ⟨_, rfl⟩)
  | refused hstart =>
    cases hexcuses with
    | relay hengine hstream => exact (hengine _ _ hstart).elim

/-- **A move of the handler** once it has its request. -/
theorem handle_excuses (h : Excusable metrics auth handler params blamed sc)
    (hb : sc.shared.backend.IsGenuine)
    (hentered : sc.call.entered = (Stage.standard metrics auth).reverse) {p : Program}
    {due : Option Nat} (hexcuses : p.Excuses blamed)
    (hm : sc.call.handle sc.shared p due = some (c, s)) :
    Excusable metrics auth handler params blamed { sc with call := c, shared := s, fault } := by
  have hmove := Call.handle_move hm
  generalize hr : (c, s) = r at hmove
  cases hmove with
  | ends hends =>
    exact h.finish auth hr.symm h.guarded hentered h.outbound h.lookup
      (excused_of_ends hexcuses hends)
  | heldUp hdue hheld =>
    cases hr
    exact h.goOn (.silent _) hentered hexcuses _
  | proceeds hproceeds =>
    cases hr
    exact h.goOn hproceeds.goesOn.speaks hentered (hexcuses.proceeds hb hproceeds) none
  | relays hrelays hstart =>
    cases hr
    subst hrelays
    cases hexcuses with
    | relay hengine hstream =>
      refine ⟨h.guarded, h.received, h.outbound, h.result, fun l hl => ?_, hentered⟩
      cases hl
      rw [Lookup.start_eq_ok hstart]
      exact .fresh hstream _ _

/-- **The request**: it has come through the gate, and the handler goes on with it. -/
theorem receive (h : Excusable metrics auth handler params blamed sc) {kind : RequestKind}
    {next : Request kind → Program} (hhandler : handler = .withRequest kind next)
    {q : Request kind} (haccept : Request.accept kind params = .ok q)
    (hnext : (next q).Excuses blamed)
    (hentered : sc.call.entered = (Stage.standard metrics auth).reverse)
    (hinbound : sc.call.conversation.inbound = [params])
    (hvalidating : sc.call.conversation.validating = true) {due : Option Nat}
    (hm : sc.call.handle sc.shared handler due = some (c, s)) :
    Excusable metrics auth handler params blamed { sc with call := c, shared := s, fault } := by
  obtain ⟨houtbound, -⟩ := Call.receive_frame sc.call.conversation kind
  have hreceive : (sc.call.conversation.receive kind).1 = .ok q := by
    rw [Conversation.receive_accept hinbound hvalidating, haccept]
  simp only [hhandler, Program.withRequest, Call.handle, hreceive] at hm
  cases hm
  exact h.goOn (houtbound ▸ .silent _) hentered hnext none

/-- **A move of the relay**: what it fails with was there in the results, or is no invalid
argument. -/
theorem relay (h : Excusable metrics auth handler params blamed sc) {inHand : Option Json}
    (hentered : sc.call.entered = (Stage.standard metrics auth).reverse)
    (hm : sc.call.relay sc.shared inHand = some (c, s)) :
    Excusable metrics auth handler params blamed { sc with call := c, shared := s, fault } := by
  have hrelayed : ∀ e, sc.call.relayed = .error e → e.Excused blamed := by
    intro e he
    unfold Call.relayed at he
    split at he
    · cases he
      exact CallError.excused_of_status nofun
    · cases he
  have hlooked : ∀ {l x results}, sc.call.lookup = some l →
      l.results.sight? = some (x, results) →
        ∀ l', some { l with results } = some l' → l'.Excuses blamed := by
    intro l x results hlookup hx l' hl'
    cases hl'
    exact (h.lookup l hlookup).look (Pipe.sight?_failure hx)
  have hmove := Call.relay_move hm
  generalize hr : (c, s) = r at hmove
  cases hmove with
  | passed hsend =>
    cases hr
    exact ⟨h.guarded, h.received, (Conversation.goesOn_send hsend).speaks.excuses h.outbound,
      h.result, h.lookup, hentered⟩
  | stopped hsend =>
    have houtbound := (Conversation.goesOn_send hsend).speaks.excuses h.outbound
    refine h.finish auth hr.symm h.guarded hentered houtbound h.lookup ?_
    intro e' he'
    cases he'
    exact CallError.excused_of_status (Conversation.status_of_send hsend)
  | idle hlookup => exact h.finish auth hr.symm h.guarded hentered h.outbound h.lookup hrelayed
  | took hlookup hx =>
    cases hr
    exact ⟨h.guarded, h.received, h.outbound, h.result, hlooked hlookup hx, hentered⟩
  | failed hlookup hx =>
    refine h.finish auth hr.symm h.guarded hentered h.outbound (hlooked hlookup hx) ?_
    intro e' he'
    cases he'
    -- The results show the failure that they hold.
    exact (h.lookup _ hlookup).results _ (Pipe.failure_of_sight? hx)
  | ended hlookup hx =>
    exact h.finish auth hr.symm h.guarded hentered h.outbound (hlooked hlookup hx) hrelayed

/-- **The report** of an excused failure. -/
theorem report (h : Excusable metrics auth handler params blamed sc) {e : CallError}
    (he : e.Excused blamed) (hm : sc.call.report e = some c) :
    Excusable metrics auth handler params blamed { sc with call := c, fault } := by
  cases Call.report_move hm with
  | kept | left => exact ⟨h.guarded, h.received, h.outbound, h.result, h.lookup, trivial⟩
  | told hframes hpresent hroom =>
    have houtbound := h.outbound
    rw [hframes] at houtbound
    refine ⟨h.guarded, h.received, ?_, h.result, h.lookup, trivial⟩
    intro e' he'
    rcases List.mem_append.1 he' with he' | he'
    · exact houtbound e' he'
    · cases List.mem_singleton.1 he'
      exact he

/-! ## Every act -/

/-- The time of the handler is up. -/
theorem giveUp (h : Excusable metrics auth handler params blamed sc)
    (hhandling : sc.call.isHandling = true) (ms : Nat) :
    Excusable metrics auth handler params blamed { sc with
      call := (sc.call.giveUp ms sc.shared).1, shared := (sc.call.giveUp ms sc.shared).2
      undisturbed } := by
  have hentered : sc.call.entered = (Stage.standard metrics auth).reverse := by
    have hstance := h.stance
    cases hp : sc.call.progress with
    | handling p due =>
      rw [hp] at hstance
      exact hstance.1
    | relaying inHand =>
      rw [hp] at hstance
      exact hstance
    | _ => simp [Call.isHandling, hp] at hhandling
  exact h.finish auth rfl h.guarded hentered h.outbound (map_abandon h.lookup) fun e he =>
    excused_of_fault he (.inr ⟨ms, rfl⟩)

/-- The producer of the lookup or its stream has moved. -/
theorem withLookup (h : Excusable metrics auth handler params blamed sc) {l : Lookup}
    (hl : l.Excuses blamed) :
    Excusable metrics auth handler params blamed { sc.withLookup l with
      shared := s, opened, fault, undisturbed } :=
  { h with
    lookup := fun _ hl' => Option.some.inj hl' ▸ hl
    stance := h.stance }

/-- **Every act** keeps a call excusable, as long as the backend is genuine. -/
theorem step (h : Excusable metrics auth handler params blamed sc) {kind : RequestKind}
    {next : Request kind → Program} (hhandler : handler = .withRequest kind next)
    {q : Request kind} (haccept : Request.accept kind params = .ok q)
    (hnext : (next q).Excuses blamed) (hb : sc.shared.backend.IsGenuine)
    (hs : Scene.Step sc sc') : Excusable metrics auth handler params blamed sc' := by
  cases hs with
  | task hm =>
    have hstance := h.stance
    cases hp : sc.call.progress with
    | waiting => exact h.begin hp hm
    | handling p due =>
      rw [hp] at hstance
      rw [Call.taskMove, hp] at hm
      obtain ⟨hentered, ⟨rfl, hinbound, hvalidating⟩ | hexcuses⟩ := hstance
      · exact h.receive hhandler haccept hnext hentered hinbound hvalidating hm
      · exact h.handle_excuses hb hentered hexcuses hm
    | relaying inHand =>
      rw [hp] at hstance
      rw [Call.taskMove, hp] at hm
      exact h.relay hstance hm
    | reporting e =>
      rw [hp] at hstance
      rw [Call.taskMove, hp] at hm
      obtain ⟨c, hreport, heq⟩ := Option.map_eq_some_iff.1 hm
      cases heq
      exact h.report hstance hreport
    | ended =>
      rw [Call.taskMove, hp] at hm
      cases hm
  | deadline htimeout hhandling hlate => exact h.giveUp hhandling _
  | produce hl hm => exact h.withLookup ((h.lookup _ hl).produce hb hm)
  | stream noticed hl hnoticed hm => exact h.withLookup ((h.lookup _ hl).feedMove hm)
  | breakdown words hl hm => exact h.withLookup ((h.lookup _ hl).breakStream hm)
  | others => exact { h with stance := h.stance }
  | cancel => exact { h with stance := h.stance }
  | read hframes hpresent hr =>
    have houtbound := h.outbound
    rw [hframes] at houtbound
    obtain ⟨rest, hqueue, rfl⟩ := Channel.receive_eq_got hr
    refine ⟨h.guarded, fun e he => ?_, fun e he => ?_, h.result, h.lookup, h.stance⟩
    · rcases List.mem_append.1 he with he | he
      · exact h.received e he
      · exact houtbound e (by rw [hqueue, ← List.mem_singleton.1 he]; exact List.mem_cons_self)
    · exact houtbound e (by rw [hqueue]; exact List.mem_cons_of_mem _ he)
  | readEnd => exact { h with stance := h.stance }
  | leave =>
    exact ⟨h.guarded, h.received, fun _ he => (List.not_mem_nil he).elim, h.result, h.lookup,
      h.stance⟩

/-- A call that has just been made. -/
theorem start {g : Gateway} (hstages : g.stages = Stage.standard metrics auth) (route : Route)
    (params : Json) (headers : Headers) (capacity : Nat) (shared : Surroundings) :
    Excusable metrics auth route.handler params blamed
      (.start g route params headers capacity shared) := by
  have hnothing : ∀ e : CallError, .error e ∈ ([] : List Frame) → e.Excused blamed :=
    fun e he => (List.not_mem_nil he).elim
  obtain ⟨method, kind, handler⟩ := route
  cases kind with
  | unary =>
    exact ⟨rfl, hnothing, trivial, fun _ h => (Option.some_ne_none _ h.symm).elim,
      fun _ h => (Option.some_ne_none _ h.symm).elim, hstages, rfl, rfl⟩
  | serverStreaming =>
    exact ⟨rfl, hnothing, hnothing, fun _ h => (Option.some_ne_none _ h.symm).elim,
      fun _ h => (Option.some_ne_none _ h.symm).elim, hstages, rfl, rfl⟩

end Excusable

/-! ## Runs over a genuine backend -/

namespace Scene

/-- What the acts can lead to while the shared state is always such. -/
inductive ReachableOver (safe : Surroundings → Prop) (start : Scene) : Scene → Prop where
  | refl (hsafe : safe start.shared) : ReachableOver safe start start
  | tail {sc sc' : Scene} (h : ReachableOver safe start sc) (hs : Step sc sc')
      (hsafe : safe sc'.shared) : ReachableOver safe start sc'

variable {safe : Surroundings → Prop} {start sc : Scene}

theorem ReachableOver.isSafe (h : ReachableOver safe start sc) : safe sc.shared := by
  cases h with
  | refl hsafe => exact hsafe
  | tail h hs hsafe => exact hsafe

/-- The failure has come to the client: it is the reply to a unary call that is over, or a frame
that the client has got. -/
def Shows (sc : Scene) (e : CallError) : Prop :=
  (sc.call.isOver = true ∧ sc.call.reply = .error e ∧
      ∃ kept, sc.call.conversation.outbound = .buffer kept) ∨
    .error e ∈ sc.received

end Scene

namespace Excusable

variable {metrics : Bool} {auth : Option AuthSettings} {handler : Program} {params : Json}
  {sc start : Scene} {kind : RequestKind} {next : Request kind → Program} {q : Request kind}

/-- **Every run** over a genuine backend keeps a call excusable. -/
theorem of_reachableOver (hhandler : handler = .withRequest kind next)
    (haccept : Request.accept kind params = .ok q) (hnext : (next q).Excuses blamed)
    (hstart : Excusable metrics auth handler params blamed start)
    (h : Scene.ReachableOver (·.backend.IsGenuine) start sc) :
    Excusable metrics auth handler params blamed sc := by
  induction h with
  | refl => exact hstart
  | tail h hs hsafe ih => exact ih.step hhandler haccept hnext h.isSafe hs

/-- What an excusable call shows is excused. -/
theorem shows (h : Excusable metrics auth handler params blamed sc) {e : CallError}
    (hshows : sc.Shows e) : e.Excused blamed := by
  obtain ⟨-, hreply, -⟩ | hreceived := hshows
  · unfold Call.reply at hreply
    split at hreply
    · split at hreply
      · cases hreply
      · cases hreply
        exact CallError.excused_of_status nofun
    next e' hresult =>
      cases hreply
      exact h.result e hresult
    next =>
      cases hreply
      exact CallError.excused_of_status nofun
  · exact h.received e hreceived

end Excusable

end RelationGate
