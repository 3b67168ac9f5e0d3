import RelationGate.Proofs.Call.Excuses
import RelationGate.Proofs.Call.Gate

/-!
# Validation gates everything

A request of a method of the gateway is let through or held back by a verdict that knows its
parameters and nothing else (`Request.accept`). `Bars` is what holds in every schedule of a call
whose request is held back: it leaves the backend alone, makes no lookup, and all that comes of it
is the one failure of the verdict. A call whose request is let through is one that nobody behind the
gate calls invalid, but for a token (`Excusable`).

Main result: `validation_gates_calls`.
-/

namespace RelationGate

open Json

/-! ## Calls that come to their end -/

/-- The call is over after so many moves of its task at most, and none of them has to wait. -/
inductive Call.EndsWithin : Nat → Call → Surroundings → Prop where
  | ended {n : Nat} {c : Call} {s : Surroundings} (h : c.isOver = true) : EndsWithin n c s
  | move {n : Nat} {c c' : Call} {s s' : Surroundings} (hm : c.taskMove s = some (c', s'))
      (h : EndsWithin n c' s') : EndsWithin (n + 1) c s

namespace Call

variable {c : Call} {s : Surroundings} {e : CallError} {m n : Nat}

theorem EndsWithin.mono (h : c.EndsWithin m s) (hle : m ≤ n) : c.EndsWithin n s := by
  induction h generalizing n with
  | ended hover => exact .ended hover
  | move hm h ih =>
    obtain ⟨n, rfl⟩ := Nat.exists_eq_add_one_of_ne_zero (by omega : n ≠ 0)
    exact .move hm (ih (by omega))

/-- Nothing is under way to the client. -/
def Idle (c : Call) : Prop :=
  ∀ frames, c.conversation.outbound = .channel frames → frames.queue = []

/-- A failure that has yet to be reported is, if nothing is under way. -/
theorem endsWithin_of_reporting (hp : c.progress = .reporting e) (hidle : c.Idle)
    (s : Surroundings) : c.EndsWithin 1 s := by
  have hmove : c.taskMove s = (c.report e).map fun c => (c, s) := by rw [taskMove, hp]
  cases hreport : c.report e with
  | none =>
    obtain ⟨frames, houtbound, -, hfull⟩ := report_eq_none_iff.1 hreport
    rw [hidle frames houtbound] at hfull
    exact absurd frames.positive (Nat.not_lt.2 hfull)
  | some c' =>
    rw [hreport] at hmove
    exact .move hmove (.ended (by rw [isOver, (report_ends hreport).1]))

/-- A call that fails is over soon, if nothing is under way. -/
theorem endsWithin_finishWith (hguarded : c.guarded = true) (hplain : ∀ stage ∈ c.entered,
    stage.IsPlain) (hidle : c.Idle) (e : CallError) (s : Surroundings) {r : Call × Surroundings}
    (hr : c.finishWith (.error e) s = r) : r.1.EndsWithin 1 r.2 := by
  have hfails := finishWith_fails hguarded hplain e s
  rw [hr] at hfails
  cases houtbound : c.conversation.outbound with
  | buffer kept =>
    simp only [houtbound] at hfails
    exact .ended (by rw [hfails]; rfl)
  | channel frames =>
    simp only [houtbound] at hfails
    refine endsWithin_of_reporting (e := e) (by rw [hfails]) ?_ r.2
    rw [hfails]
    exact hidle

/-- A handler that is about to fail. -/
theorem endsWithin_of_failing (hp : c.progress = .handling (.fail e) none)
    (hguarded : c.guarded = true) (hplain : ∀ stage ∈ c.entered, stage.IsPlain) (hidle : c.Idle)
    (s : Surroundings) : c.EndsWithin 2 s :=
  .move (by rw [taskMove, hp]; rfl) (endsWithin_finishWith hguarded hplain hidle e s rfl)

/-- A handler that asks for a request which is held back. -/
theorem taskMove_of_asked {kind : RequestKind} {next : Request kind → Program} {params : Json}
    (hp : c.progress = .handling (.withRequest kind next) none)
    (hinbound : c.conversation.inbound = [params]) (hvalidating : c.conversation.validating = true)
    (hheld : Request.accept kind params = .error e) (s : Surroundings) :
    ∃ conversation, conversation.outbound = c.conversation.outbound ∧
      c.taskMove s = some ({ c with conversation, progress := .handling (.fail e) none }, s) := by
  obtain ⟨houtbound, -⟩ := receive_frame c.conversation kind
  have hreceive : (c.conversation.receive kind).1 = .error e := by
    rw [Conversation.receive_accept hinbound hvalidating, hheld]
  refine ⟨_, houtbound, ?_⟩
  simp only [taskMove, hp, Program.withRequest, handle, hreceive]
  rfl

end Call

/-- What has been sent is a matter of what is under way and what the client has got. -/
theorem Scene.Sends.of_outbound {sc sc' : Scene} {kind : CallKind} {sent : List Frame}
    (h : sc.Sends kind sent)
    (houtbound : sc'.call.conversation.outbound = sc.call.conversation.outbound)
    (hreceived : sc'.received = sc.received) (hsawEnd : sc'.sawEnd = sc.sawEnd) :
    sc'.Sends kind sent := by
  cases kind with
  | unary =>
    obtain ⟨kept, hkept⟩ := h
    exact ⟨kept, houtbound.trans hkept⟩
  | serverStreaming =>
    obtain ⟨frames, hframes, hdelivery, hopen⟩ := h
    exact ⟨frames, houtbound.trans hframes, hreceived ▸ hsawEnd ▸ hdelivery, hopen⟩

/-! ## Calls of a gateway -/

/-- A call of a method of the gateway, which is to be made of one with the standard stages. -/
structure RoutedCall where
  gateway : Gateway
  metrics : Bool
  auth : Option AuthSettings
  staged : gateway.stages = Stage.standard metrics auth
  sticky : Bool
  route : Route
  routed : route ∈ Route.standard sticky
  params : Json
  headers : Headers
  /-- How many frames a streamed reply may be ahead of its client. -/
  capacity : Nat
  shared : Surroundings

namespace RoutedCall

/-- The audit of the call when it is made. -/
def start (r : RoutedCall) : Audit :=
  .start r.gateway r.route r.params r.headers r.capacity r.shared

/-- The authorization of the call. -/
def authorization (r : RoutedCall) : Option String := r.headers.text? Stage.authorizationHeader

/-- Authentication is missing, or it has not been against the call, if that has come to its
stages. -/
def LetIn (r : RoutedCall) (a : Audit) : Prop :=
  ∀ settings, r.auth = some settings → ∀ t, a.begunAt = some t →
    ∃ claims, Stage.verdict settings t r.authorization = .ok claims

theorem letIn_of_missing {r : RoutedCall} (h : r.auth = none) (a : Audit) : r.LetIn a := by
  intro settings hauth
  cases h.symm.trans hauth

/-- Nothing has been done for the call, and its reply is one failure: an end of the stream without
it is not shown, and the call does not wait for anything before it is over. -/
structure TurnedAway (r : RoutedCall) (e : CallError) (a : Audit) : Prop where
  acts : ∀ act ∈ a.acts, act.2 = act.1
  lookup : a.scene.call.lookup = none
  reply : r.route.kind = .unary → a.scene.call.isOver = true → a.scene.call.reply = .error e
  frames : r.route.kind = .serverStreaming →
    a.scene.received <+: [.error e] ∧ (a.scene.sawEnd = true → a.scene.received = [.error e])
  ends : a.scene.call.EndsWithin 4 a.scene.shared

/-! ## The invariant -/

/-- Where a call stands whose request is held back, and what has been sent to its client. -/
inductive Standing (r : RoutedCall) (e : CallError) (c : Call) : List Frame → Prop where
  | waiting (hp : c.progress = .waiting) (hstages : c.stages = r.gateway.stages)
      (hhandler : c.handler = r.route.handler) (hinbound : c.conversation.inbound = [r.params])
      (hheaders : c.conversation.context.headers = r.headers) : Standing r e c []
  | asked (hp : c.progress = .handling r.route.handler none)
      (hentered : c.entered = (Stage.standard r.metrics r.auth).reverse)
      (hinbound : c.conversation.inbound = [r.params])
      (hvalidating : c.conversation.validating = true) : Standing r e c []
  | failing (hp : c.progress = .handling (.fail e) none)
      (hentered : c.entered = (Stage.standard r.metrics r.auth).reverse) : Standing r e c []
  | telling (hp : c.progress = .reporting e) (hkind : r.route.kind = .serverStreaming)
      (hresult : c.result = some (.finished (.error e))) : Standing r e c []
  | ended (hp : c.progress = .ended) (hresult : c.result = some (.finished (.error e))) :
      Standing r e c [.error e]

/-- **The invariant** of a call whose request is held back. -/
structure Bars (r : RoutedCall) (e : CallError) (a : Audit) : Prop where
  acts : ∀ act ∈ a.acts, act.2 = act.1
  lookup : a.scene.call.lookup = none
  guarded : a.scene.call.guarded = true
  stands : ∃ sent, r.Standing e a.scene.call sent ∧ a.scene.Sends r.route.kind sent

/-- What becomes of a call whose request is held back: it is turned away, or authentication was
against it before. -/
inductive Fate (r : RoutedCall) (e : CallError) (a : Audit) : Prop where
  | barred (h : r.Bars e a)
  | refused {settings : AuthSettings} {t : UInt64} {failure : AuthError}
      (hauth : r.auth = some settings) (hbegun : a.scene.call.hasBegun = true)
      (ht : a.begunAt = some t)
      (hverdict : Stage.verdict settings t r.authorization = .error failure)

variable {r : RoutedCall} {e : CallError} {a a' : Audit} {sc : Scene} {c : Call}
  {s : Surroundings} {sent : List Frame} {fault : Option String}

theorem isPlain_of_entered {auth : Option AuthSettings}
    (hentered : c.entered = (Stage.standard r.metrics auth).reverse) :
    ∀ stage ∈ c.entered, stage.IsPlain := by
  intro stage hstage
  rw [hentered, List.mem_reverse] at hstage
  exact Stage.isPlain_of_mem_standard rfl hstage

/-- Every method receives a request of its sort. -/
theorem exists_handler (r : RoutedCall) : ∃ kind next,
    r.route.handler = .withRequest kind next ∧ r.route.handler.request? = some kind ∧
      ∀ q, Request.IsInShape kind q → (next q).Excuses (Request.Blamed kind q) := by
  obtain ⟨kind, next, hhandler, hnext⟩ := Program.excuses_of_standard r.routed
  exact ⟨kind, next, hhandler, by rw [hhandler]; rfl, hnext⟩

/-- Nothing has been sent, so nothing is under way. -/
theorem idle_of_sends {kind : CallKind} (h : sc.Sends kind []) : sc.call.Idle := by
  intro frames hframes
  cases kind with
  | unary =>
    obtain ⟨kept, hkept⟩ := h
    cases hkept.symm.trans hframes
  | serverStreaming =>
    obtain ⟨frames', hframes', hdelivery, -⟩ := h
    cases hframes'.symm.trans hframes
    exact (List.append_eq_nil_iff.1 (List.prefix_nil.1 hdelivery.within)).2

/-- **A call whose request is held back** is over soon. -/
theorem Bars.endsWithin (h : r.Bars e a) {kind : RequestKind} {next : Request kind → Program}
    (hhandler : r.route.handler = .withRequest kind next)
    (hheld : Request.accept kind r.params = .error e) :
    a.scene.call.EndsWithin 4 a.scene.shared := by
  obtain ⟨sent, hstands, hsends⟩ := h.stands
  -- Once the handler has been asked for the request, it fails.
  have hasked : ∀ (c : Call) (s : Surroundings), c.progress = .handling r.route.handler none →
      c.guarded = true → c.entered = (Stage.standard r.metrics r.auth).reverse →
        c.conversation.inbound = [r.params] → c.conversation.validating = true → c.Idle →
          c.EndsWithin 3 s := by
    intro c s hp hguarded hentered hinbound hvalidating hidle
    rw [hhandler] at hp
    obtain ⟨conversation, houtbound, hmove⟩ :=
      Call.taskMove_of_asked hp hinbound hvalidating hheld s
    exact .move hmove (Call.endsWithin_of_failing
      (c := { c with conversation, progress := .handling (.fail e) none }) (e := e) rfl hguarded
      (isPlain_of_entered hentered)
      (fun frames hframes => hidle frames (houtbound.symm.trans hframes)) s)
  cases hstands with
  | ended hp => exact .ended (by rw [Call.isOver, hp])
  | telling hp =>
    exact (Call.endsWithin_of_reporting hp (idle_of_sends hsends) _).mono (by omega)
  | failing hp hentered =>
    exact (Call.endsWithin_of_failing hp h.guarded (isPlain_of_entered hentered)
      (idle_of_sends hsends) _).mono (by omega)
  | asked hp hentered hinbound hvalidating =>
    exact (hasked _ _ hp h.guarded hentered hinbound hvalidating
      (idle_of_sends hsends)).mono (by omega)
  | waiting hp hstages hh hinbound hheaders =>
    have hmove : a.scene.call.taskMove a.scene.shared =
        some (a.scene.call.begin a.scene.shared) := by rw [Call.taskMove, hp]
    obtain ⟨conversation, s₁, hstays, ⟨hvalidating, hbegin⟩ | ⟨settings, e', -, -, hbegin⟩⟩ :=
      Call.begin_validating (hstages.trans r.staged) a.scene.shared
    all_goals rw [hbegin] at hmove
    all_goals
      have hidle : ∀ frames, conversation.outbound = .channel frames → frames.queue = [] :=
        fun frames hframes => idle_of_sends hsends frames (hstays.outbound.symm.trans hframes)
    · exact .move hmove (hasked _ _ (by rw [hh]) h.guarded rfl (hstays.inbound.trans hinbound)
        hvalidating hidle)
    · refine .move hmove (Call.EndsWithin.mono ?_ (by omega : 1 ≤ 3))
      refine Call.endsWithin_finishWith ?_ ?_ ?_ e'.toCallError s₁ rfl
      · exact h.guarded
      · exact isPlain_of_entered rfl
      · exact hidle

/-- **A call that is turned away** shows what it is meant to show. -/
theorem Bars.turnedAway (h : r.Bars e a)
    (hends : a.scene.call.EndsWithin 4 a.scene.shared) : r.TurnedAway e a := by
  obtain ⟨sent, hstands, hsends⟩ := h.stands
  refine ⟨h.acts, h.lookup, fun _ hover => ?_, fun hstreaming => ?_, hends⟩
  · cases hstands with
    | ended hp hresult => rw [Call.reply, hresult]
    | waiting hp | asked hp | failing hp | telling hp => simp [Call.isOver, hp] at hover
  · rw [hstreaming] at hsends
    obtain ⟨frames, -, hdelivery, hopen⟩ := hsends
    have hreceived : a.scene.received <+: sent := (List.prefix_append _ _).trans hdelivery.within
    cases hstands with
    | ended => exact ⟨hreceived, fun hsaw => (hdelivery.ended hsaw).2⟩
    | _ =>
      refine ⟨hreceived.trans List.nil_prefix, fun hsaw => ?_⟩
      cases (hopen rfl).symm.trans (hdelivery.ended hsaw).1

/-! ## The steps -/

/-- A step that leaves the backend alone. -/
theorem Bars.noting (h : r.Bars e a) (hbackend : sc.shared.backend = a.scene.shared.backend)
    (hlookup : sc.call.lookup = none) (hguarded : sc.call.guarded = true)
    (hstands : r.Standing e sc.call sent) (hsends : sc.Sends r.route.kind sent) :
    r.Bars e (a.noting sc) := by
  refine ⟨fun act hact => ?_, hlookup, hguarded, sent, hstands, hsends⟩
  rcases List.mem_append.1 hact with hact | hact
  · exact h.acts act hact
  · rw [List.mem_singleton.1 hact]
    exact hbackend

/-- **The handler fails** with the failure of the verdict. -/
theorem Bars.fails (h : r.Bars e a) (hentered : a.scene.call.entered =
    (Stage.standard r.metrics r.auth).reverse) (hsends : a.scene.Sends r.route.kind [])
    (hm : a.scene.call.finishWith (.error e) a.scene.shared = (c, s)) :
    r.Bars e (a.noting { a.scene with call := c, shared := s, fault }) := by
  have hfails := Call.finishWith_fails h.guarded (isPlain_of_entered hentered) e a.scene.shared
  have hbackend : s.backend = a.scene.shared.backend := by
    have hb := Call.finish_backend a.scene.call (.finished (.error e)) a.scene.shared
    rwa [show a.scene.call.finish (.finished (.error e)) a.scene.shared = (c, s) from hm] at hb
  rw [hm] at hfails
  simp only at hfails
  have hlookup : c.lookup = none := by
    rw [hfails]
    show a.scene.call.lookup.map Lookup.abandon = none
    rw [h.lookup]
    rfl
  have hguarded : c.guarded = true := by rw [hfails]; exact h.guarded
  have hresult : c.result = some (.finished (.error e)) := by rw [hfails]; rfl
  have houtbound : c.conversation.outbound = a.scene.call.conversation.outbound := by
    rw [hfails]
    rfl
  cases hkind : r.route.kind with
  | unary =>
    rw [hkind] at hsends
    obtain ⟨kept, hkept⟩ := hsends
    have hp : c.progress = .ended := by rw [hfails]; simp only [hkept]
    refine h.noting hbackend hlookup hguarded (.ended hp hresult) ?_
    rw [hkind]
    exact ⟨kept, houtbound.trans hkept⟩
  | serverStreaming =>
    have hsends' := hsends
    rw [hkind] at hsends'
    obtain ⟨frames, hframes, -⟩ := hsends'
    have hp : c.progress = .reporting e := by rw [hfails]; simp only [hframes]
    exact h.noting hbackend hlookup hguarded (.telling hp hkind hresult)
      (hsends.of_outbound houtbound rfl rfl)

/-- **The failure is told**, or nobody is left to be told. -/
theorem Bars.tells (h : r.Bars e a) (hkind : r.route.kind = .serverStreaming)
    (hresult : a.scene.call.result = some (.finished (.error e)))
    (hsends : a.scene.Sends r.route.kind []) (hreport : a.scene.call.report e = some c) :
    r.Bars e (a.noting { a.scene with call := c, fault }) := by
  rw [hkind] at hsends
  obtain ⟨frames, hframes, hdelivery, hopen⟩ := hsends
  obtain ⟨hpresent, rfl⟩ | ⟨hgone, rfl⟩ := Call.report_cases hframes hreport
  · refine h.noting rfl h.lookup h.guarded (.ended rfl hresult) ?_
    rw [hkind]
    exact ⟨_, rfl, hdelivery.send (hopen rfl) hpresent (.error e) true, nofun⟩
  · refine h.noting rfl h.lookup h.guarded (.ended rfl hresult) ?_
    rw [hkind]
    -- The client has left: it has got nothing, and will get nothing.
    refine ⟨frames, hframes, ⟨?_, fun hpresent => ?_, fun hsaw => ?_⟩, nofun⟩
    · exact hdelivery.within.trans List.nil_prefix
    · cases hgone.symm.trans hpresent
    · cases (hopen rfl).symm.trans (hdelivery.ended hsaw).1

/-- **The call comes to its stages**: to its handler, or authentication is against it. -/
theorem Bars.begins (h : r.Bars e a) (hp : a.scene.call.progress = .waiting)
    (hstages : a.scene.call.stages = r.gateway.stages)
    (hhandler : a.scene.call.handler = r.route.handler)
    (hinbound : a.scene.call.conversation.inbound = [r.params])
    (hheaders : a.scene.call.conversation.context.headers = r.headers)
    (hsends : a.scene.Sends r.route.kind [])
    (hm : a.scene.call.begin a.scene.shared = (c, s)) :
    r.Fate e (a.noting { a.scene with call := c, shared := s, fault }) := by
  have hbackend := a.scene.call.begin_backend a.scene.shared
  rw [hm] at hbackend
  obtain ⟨conversation, s₁, hstays, ⟨hvalidating, hbegin⟩ |
    ⟨settings, failure, hauth, hverdict, hbegin⟩⟩ :=
    Call.begin_validating (hstages.trans r.staged) a.scene.shared
  · cases hm.symm.trans hbegin
    exact .barred (h.noting hbackend h.lookup h.guarded
      (.asked (by rw [hhandler]) rfl (hstays.inbound.trans hinbound) hvalidating)
      (hsends.of_outbound hstays.outbound rfl rfl))
  · rw [hheaders, Stage.credentials_eq] at hverdict
    have hbegun : c.hasBegun = true := by
      have hcarries := Call.finish_carries { a.scene.call with
        entered := (Stage.standard r.metrics none).reverse, conversation, began := s₁.now }
        (.finished (.error failure.toCallError)) s₁
      rw [show Call.finish _ _ s₁ = (c, s) from hbegin.symm.trans hm] at hcarries
      exact hcarries.begun
    have hwaiting : a.scene.call.hasBegun = false := by rw [Call.hasBegun, hp]
    exact .refused hauth hbegun (Audit.begunAt_noting_begins hwaiting hbegun) hverdict

/-- **A step of a call whose request is held back.** -/
theorem Bars.own (h : r.Bars e a) {kind : RequestKind} {next : Request kind → Program}
    (hhandler : r.route.handler = .withRequest kind next)
    (hheld : Request.accept kind r.params = .error e) (hs : a.scene.OwnStep sc) :
    r.Fate e (a.noting sc) := by
  obtain ⟨sent, hstands, hsends⟩ := h.stands
  -- The task never has to wait while the handler is at work, so it is not given up.
  have hexpire : a.scene.call.expire a.scene.shared = none := by
    cases hexpire : a.scene.call.expire a.scene.shared with
    | none => rfl
    | some moved =>
      obtain ⟨ms, -, hhandling, -, hwaits, -⟩ := Call.expire_cases hexpire
      rw [Call.taskMove] at hwaits
      cases hstands with
      | asked hp =>
        simp only [hp, hhandler, Program.withRequest, Call.handle] at hwaits
        cases hwaits
      | failing hp =>
        simp only [hp, Program.fail, Call.handle] at hwaits
        cases hwaits
      | waiting hp | telling hp | ended hp => simp [Call.isHandling, hp] at hhandling
  obtain ⟨c, s, fault, hm, rfl⟩ | ⟨⟨canceled, outbound, hcall⟩, hshared, hsends'⟩ :=
    hs.task_or_attended hexpire h.lookup hsends
  · cases hstands with
    | waiting hp hstages hh hinbound hheaders =>
      rw [Call.taskMove, hp] at hm
      exact h.begins hp hstages hh hinbound hheaders hsends (Option.some.inj hm)
    | asked hp hentered hinbound hvalidating =>
      rw [hhandler] at hp
      obtain ⟨conversation, houtbound, hmove⟩ :=
        Call.taskMove_of_asked hp hinbound hvalidating hheld a.scene.shared
      cases hm.symm.trans hmove
      exact .barred (h.noting rfl h.lookup h.guarded (.failing rfl hentered)
        (hsends.of_outbound houtbound rfl rfl))
    | failing hp hentered =>
      rw [Call.taskMove, hp] at hm
      exact .barred (h.fails hentered hsends (Option.some.inj hm))
    | telling hp hkind hresult =>
      rw [Call.taskMove, hp] at hm
      obtain ⟨c', hreport, heq⟩ := Option.map_eq_some_iff.1 hm
      cases heq
      exact .barred (h.tells hkind hresult hsends hreport)
    | ended hp =>
      rw [Call.taskMove, hp] at hm
      cases hm
  · have hlookup : sc.call.lookup = none := by rw [hcall]; exact h.lookup
    have hguarded : sc.call.guarded = true := by rw [hcall]; exact h.guarded
    have hbackend : sc.shared.backend = a.scene.shared.backend := by rw [hshared]
    refine .barred (h.noting hbackend hlookup hguarded ?_ hsends')
    rw [hcall]
    cases hstands with
    | waiting hp hstages hh hinbound hheaders => exact .waiting hp hstages hh hinbound hheaders
    | asked hp hentered hinbound hvalidating => exact .asked hp hentered hinbound hvalidating
    | failing hp hentered => exact .failing hp hentered
    | telling hp hkind hresult => exact .telling hp hkind hresult
    | ended hp hresult => exact .ended hp hresult

/-- **Every step** keeps to the fate of the call. -/
theorem Fate.step (h : r.Fate e a) {kind : RequestKind} {next : Request kind → Program}
    (hhandler : r.route.handler = .withRequest kind next)
    (hheld : Request.accept kind r.params = .error e) (hs : Audit.Step a a') : r.Fate e a' := by
  cases h with
  | barred h =>
    cases hs with
    | own hs => exact h.own hhandler hheld hs
    | others hs => exact .barred { h with }
  | refused hauth hbegun ht hverdict =>
    cases hs with
    | others hs => exact .refused hauth hbegun ht hverdict
    | own hs =>
      refine .refused hauth ?_ ((Audit.begunAt_noting_of_begun hbegun).trans ht) hverdict
      cases hs with
      | task hm => exact (Call.taskMove_carries hbegun hm).begun
      | expire hm => exact (Call.expire_carries hm).begun
      | _ => exact hbegun

theorem Bars.start (r : RoutedCall) (e : CallError) : r.Bars e r.start := by
  obtain ⟨gateway, metrics, auth, staged, sticky, ⟨method, kind, handler⟩, routed, params, headers,
    capacity, shared⟩ := r
  have hacts : ∀ act : Backend × Backend, act ∈ [] → act.2 = act.1 := fun act hact =>
    (List.not_mem_nil hact).elim
  cases kind with
  | unary => exact ⟨hacts, rfl, rfl, [], .waiting rfl rfl rfl rfl rfl, [], rfl⟩
  | serverStreaming =>
    exact ⟨hacts, rfl, rfl, [], .waiting rfl rfl rfl rfl rfl, .ofCapacity capacity, rfl,
      .fresh capacity, fun _ => rfl⟩

/-- **What becomes of the call** in every schedule. -/
theorem Fate.of_reachable {kind : RequestKind} {next : Request kind → Program}
    (hhandler : r.route.handler = .withRequest kind next)
    (hheld : Request.accept kind r.params = .error e) (h : Audit.Reachable r.start a) :
    r.Fate e a := by
  induction h with
  | refl => exact .barred (.start r e)
  | tail h hs ih => exact ih.step hhandler hheld hs

end RoutedCall

/-- **Validation gates everything and agrees with everybody behind it.** Take a call of any method
of the gateway, with any parameters and headers, beside other calls, faults of the backend,
cancellations and a client that does what it likes. If its parameters hold no request or one that
breaks a rule, then, unless authentication is against the call, the reply is that the arguments are
invalid, and nothing is done for it. Otherwise neither the lookup engine nor the service of the
locks nor the store objects to the shape of the request, and as long as the backend is genuine, the
client is told that the arguments are invalid only if a token of the request is malformed. -/
theorem validation_gates_calls (r : RoutedCall) :
    ∃ kind, r.route.handler.request? = some kind ∧
      match Request.accept kind r.params with
      | .error e =>
        (e.status = .invalidArgument ∧ e.reason = "bad_request") ∧
          ∀ a, Audit.Reachable r.start a → r.LetIn a → r.TurnedAway e a
      | .ok q =>
        Request.IsInShape kind q ∧
          ∀ sc, Scene.ReachableOver (·.backend.IsGenuine) r.start.scene sc →
            ∀ e, sc.Shows e → e.status = .invalidArgument →
              ∃ f activity, Request.Blamed kind q f ∧
                e = .ofBackend (BackendError.within f activity) := by
  obtain ⟨kind, next, hhandler, hkind, hnext⟩ := r.exists_handler
  refine ⟨kind, hkind, ?_⟩
  cases haccept : Request.accept kind r.params with
  | error e =>
    refine ⟨Request.accept_eq_error haccept, fun a h hin => ?_⟩
    cases RoutedCall.Fate.of_reachable hhandler haccept h with
    | barred hbars => exact hbars.turnedAway (hbars.endsWithin hhandler haccept)
    | refused hauth hbegun ht hverdict =>
      obtain ⟨claims, hclaims⟩ := hin _ hauth _ ht
      cases hclaims.symm.trans hverdict
  | ok q =>
    have hshape := Request.isInShape_of_accept haccept
    refine ⟨hshape, fun sc h e hshows => ?_⟩
    have hstart : Excusable r.metrics r.auth r.route.handler r.params (Request.Blamed kind q)
        r.start.scene := .start r.staged r.route r.params r.headers r.capacity r.shared
    exact (Excusable.of_reachableOver hhandler haccept (hnext q hshape) hstart h).shows hshows

/-- Reads of relationships: without parameters one comes back with the one failure of the gate, and
one that asks for a point in history which is no word is told so by the backend. -/
theorem validation_gates_calls_reads :
    let gateway : Gateway :=
      { routes := Route.standard false, stages := Stage.standard true none, timeout := 1000 }
    let read (params : Json) : RoutedCall :=
      { gateway, metrics := true, auth := none, staged := rfl, sticky := false
        route := StreamKind.read.route, routed := List.mem_of_getElem? (i := 3) rfl
        params, headers := {}, capacity := 16
        shared :=
          { unixTime := 5, backend := { mint := fun n => ⟨toString n⟩ }
            traceIds := fun _ => "trace" } }
    let malformed : Json := .obj [("filter", .obj [("resource_type", .str "document")]),
      ("consistency", .obj [("requirement", .str "at_least_as_fresh"), ("token", .str "+")])]
    let query : ReadQuery :=
      { filter := { resourceType := "document" }, consistency := .atLeastAsFresh ⟨"+"⟩ }
    (∃ a e, Audit.Reachable (read .null).start a ∧ (read .null).LetIn a ∧
        a.scene.sawEnd = true ∧ a.scene.received = [.error e] ∧ e.status = .invalidArgument ∧
          e.reason = "bad_request") ∧
      ∃ sc e f, Scene.ReachableOver (·.backend.IsGenuine) (read malformed).start.scene sc ∧
        sc.Shows e ∧ e.status = .invalidArgument ∧ BlamesToken query.consistency none f := by
  intro gateway read malformed query
  refine ⟨?_, ?_⟩
  · have h₁ : Audit.Reachable (read .null).start _ := .tail .refl (.own (.task rfl))
    have h₂ := h₁.tail (.own (.task rfl))
    have h₃ := h₂.tail (.own (.task rfl))
    have h₄ := h₃.tail (.own (.task rfl))
    have h₅ := h₄.tail (.own (.read rfl rfl rfl))
    have h₆ := h₅.tail (.own (.readEnd rfl rfl rfl))
    obtain ⟨e, hheld⟩ : ∃ e,
        Request.accept StreamKind.read.request (read .null).params = .error e := ⟨_, rfl⟩
    have hin := RoutedCall.letIn_of_missing (r := read .null) rfl
    obtain ⟨kind, hkind, hgate⟩ := validation_gates_calls (read .null)
    cases hkind
    rw [hheld] at hgate
    obtain ⟨⟨hstatus, hreason⟩, hturned⟩ := hgate
    have haway := hturned _ h₆ (hin _)
    exact ⟨_, e, h₆, hin _, rfl, (haway.frames rfl).2 rfl, hstatus, hreason⟩
  · have hgenuine : (read malformed).shared.backend.IsGenuine :=
      ⟨rfl, rfl, fun _ => ⟨rfl, rfl, rfl⟩, by decide⟩
    have h₀ : Scene.ReachableOver (·.backend.IsGenuine) (read malformed).start.scene _ :=
      .refl hgenuine
    have h₁ := h₀.tail (.task rfl) hgenuine
    have h₂ := h₁.tail (.task rfl) hgenuine
    have h₃ := h₂.tail (.task rfl) hgenuine
    have h₄ := h₃.tail (.produce rfl rfl) (hgenuine.act (.note _))
    have h₅ := h₄.tail (.task rfl) (hgenuine.act (.note _))
    have h₆ := h₅.tail (.task rfl) (hgenuine.act (.note _))
    have h₇ := h₆.tail (.read rfl rfl rfl) (hgenuine.act (.note _))
    have haccept : Request.accept StreamKind.read.request (read malformed).params = .ok query := rfl
    obtain ⟨kind, hkind, hgate⟩ := validation_gates_calls (read malformed)
    cases hkind
    rw [haccept] at hgate
    obtain ⟨-, hsays⟩ := hgate
    obtain ⟨f, activity, hblamed, -⟩ := hsays _ h₇ _ (.inr (.head _)) rfl
    exact ⟨_, _, f, h₇, .inr (.head _), rfl, hblamed⟩

end RelationGate
