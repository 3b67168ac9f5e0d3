import RelationGate.Proofs.Call.Standstill
import RelationGate.Proofs.Call.Streaming
import RelationGate.Proofs.Flow.RunAhead

/-!
# How far a call runs ahead of its client

On its way from the stream of the backend to the client of a streaming call an item passes two
channels, the results of the lookup and the frames of the reply, and two pairs of hands, those of
the producer and those of the handler. So the producer is ahead of the client by what the two
channels hold, and two items more, however the call, the client, the backend and the clock act.

* `Call.heldBack`: what is between a lookup and the client. A step of the task hands items on, and
  never loses one from these accounts (`Call.Passes`): an item that the handler drops when it comes
  out stays in its hands.
* `run_ahead_bounded`: the bounds of a lookup and of a streaming call. A consumer or a client that
  stops reading stops the producer.
-/

namespace RelationGate

/-! ## What is held back from the client -/

/-- What a reply may hold back from its client. -/
def Outbound.load : Outbound → Nat
  | .buffer _ => 0
  | .channel frames => frames.load

theorem Outbound.load_le {o : Outbound} {room : Nat} (hroom : o.room? = some room)
    (hfits : o.Fits) : o.load ≤ room := by
  cases o with
  | buffer sent => cases hroom
  | channel frames =>
    obtain rfl := Option.some.inj hroom
    exact Channel.Fits.load_le hfits

/-- A message that is sent is held back; one that cannot be sent changes nothing. -/
theorem Conversation.send_load {c c' : Conversation} {message : Json} {room : Nat}
    {outcome : Except CallError Unit} (hroom : c.outbound.room? = some room)
    (h : c.send message = .settled outcome c') :
    (∃ e, outcome = .error e ∧ c' = c) ∨
      outcome = .ok () ∧ c'.outbound.load = c.outbound.load + 1 := by
  cases sends_of_send h with
  | kept houtbound =>
    rw [houtbound] at hroom
    cases hroom
  | passed houtbound hgoing hpresent hspace =>
    refine .inr ⟨rfl, ?_⟩
    simp [houtbound, Outbound.load, Channel.load, hpresent]
  | canceled | left => exact .inl ⟨_, rfl, rfl⟩

namespace Call

variable {c c' c₁ : Call} {s s' : Surroundings} {l l' : Lookup} {room : Nat}

/-- How many items the handler may have in its hands: the one that it is about to send, or one that
it has dropped when it came out. -/
def inHands (c : Call) : Nat :=
  match c.progress with
  | .relaying (some _) | .reporting _ | .ended => 1
  | _ => 0

theorem inHands_le (c : Call) : c.inHands ≤ 1 := by
  unfold inHands
  split
  all_goals omega

theorem inHands_of_hasReturned (h : c.hasReturned = true) : c.inHands = 1 := by
  unfold hasReturned at h
  unfold inHands
  split at h
  · simp [*]
  · simp [*]
  · cases h

/-- What may be between a lookup and the client of its call. -/
def heldBack (c : Call) (l : Lookup) : Nat :=
  c.conversation.outbound.load + c.inHands + l.results.channel.load

/-- What a step of the task does to the accounts of a call with a lookup: the producer stays where
it is, and what is taken from its results is held back elsewhere. -/
structure Passes (c : Call) (l : Lookup) (c' : Call) (l' : Lookup) : Prop where
  lookup : c'.lookup = some l'
  producing : l'.producing = l.producing
  delivered : l'.delivered = l.delivered
  capacity : l'.results.channel.capacity = l.results.channel.capacity
  fits : l'.results.channel.Fits
  heldBack : c.heldBack l ≤ c'.heldBack l'

theorem closeFrames_load (conversation : Conversation) :
    (closeFrames conversation).outbound.load = conversation.outbound.load := by
  unfold closeFrames
  split
  · rfl
  next frames hframes =>
    rw [hframes]
    rfl

theorem finish_lookup (c : Call) (outcome : Outcome) (s : Surroundings) :
    (c.finish outcome s).1.lookup = c.lookup.map Lookup.abandon := by
  rw [finish_eq]
  unfold conclude
  split
  · rfl
  · simp only
    split
    · rfl
    · rfl

/-- **The way back** leaves the reply as it is, and the handler drops what it has in its hands. -/
theorem finish_load (hguarded : c.guarded = true) (outcome : Outcome) (s : Surroundings) :
    (c.finish outcome s).1.conversation.outbound.load = c.conversation.outbound.load ∧
      (c.finish outcome s).1.hasReturned = true := by
  have hstays := Stage.leaveAll_stays c.began c.entered outcome s c.conversation
  rw [finish_eq]
  generalize Stage.leaveAll c.began c.entered outcome s c.conversation = r at hstays
  obtain ⟨result, s₁, conversation⟩ := r
  have hload : conversation.cancel.outbound.load = c.conversation.outbound.load :=
    congrArg Outbound.load hstays.outbound
  obtain ⟨e, frames, -, -, hc⟩ | ⟨-, hc⟩ :=
    conclude_cases (c := { c with conversation }) hguarded result
  all_goals rw [hc]
  · exact ⟨hload, rfl⟩
  · exact ⟨(closeFrames_load _).trans hload, rfl⟩

/-- A handler that comes out, having done no more than take something from the results. -/
theorem finish_passes {conversation : Conversation} {lookup : Option Lookup} {results : Pipe Item}
    (hguarded : c.guarded = true) (hl : lookup = some { l with results })
    (hfits : l.results.channel.Fits)
    (hcapacity : results.channel.capacity = l.results.channel.capacity)
    (houtbound : conversation.outbound.load = c.conversation.outbound.load) (outcome : Outcome)
    (s : Surroundings) :
    c.Passes l ({ c with conversation, lookup }.finish outcome s).1
      (Lookup.abandon { l with results }) := by
  obtain ⟨hload, hreturned⟩ :=
    finish_load (c := { c with conversation, lookup }) hguarded outcome s
  have hlookup : lookup.map Lookup.abandon = some (Lookup.abandon { l with results }) := by
    rw [hl]
    rfl
  refine ⟨(finish_lookup _ _ _).trans hlookup, rfl, rfl, hcapacity, Nat.zero_le _, ?_⟩
  have hresults := hfits.load_le
  have hhands := c.inHands_le
  have habandoned : (Lookup.abandon { l with results }).results.channel.load =
      l.results.channel.capacity := hcapacity
  simp only [heldBack, hload, inHands_of_hasReturned hreturned, habandoned, houtbound]
  omega

/-- **A move of the relay.** -/
theorem relay_passes {inHand : Option Json} (hguarded : c.guarded = true)
    (hroom : c.conversation.outbound.room? = some room) (hp : c.progress = .relaying inHand)
    (hl : c.lookup = some l) (hfits : l.results.channel.Fits)
    (hm : c.relay s inHand = some (c', s')) : ∃ l', c.Passes l c' l' := by
  have hmove := relay_move hm
  generalize hr : (c', s') = r at hmove
  cases hmove with
  | passed hsend =>
    cases hr
    obtain ⟨e, he, -⟩ | ⟨-, hload⟩ := Conversation.send_load hroom hsend
    · cases he
    · refine ⟨l, hl, rfl, rfl, rfl, hfits, ?_⟩
      simp only [heldBack, inHands, hp, hload]
      omega
  | stopped hsend =>
    obtain rfl : c' = _ := congrArg Prod.fst hr
    obtain ⟨e, -, rfl⟩ | ⟨he, -⟩ := Conversation.send_load hroom hsend
    · exact ⟨_, finish_passes hguarded hl hfits rfl rfl _ s⟩
    · cases he
  | idle hlookup => cases hl.symm.trans hlookup
  | took hlookup hx =>
    cases hr
    cases hl.symm.trans hlookup
    obtain ⟨rest, hqueue, rfl⟩ := Pipe.queue_of_sight? hx
    refine ⟨_, rfl, rfl, rfl, rfl, ?_, ?_⟩
    · unfold Channel.Fits at hfits
      rw [hqueue, List.length_cons] at hfits
      exact Nat.le_of_succ_le hfits
    · have htaken : l.results.channel.load ≤ (l.results.holding rest).channel.load + 1 :=
        Channel.load_le_of_cons hqueue
      simp only [heldBack, inHands, hp]
      omega
  | failed hlookup hx | ended hlookup hx =>
    -- Where the results end, the handler comes out with what is left of the lookup.
    obtain rfl : c' = _ := congrArg Prod.fst hr
    cases hl.symm.trans hlookup
    exact ⟨_, finish_passes hguarded rfl hfits (Pipe.sight?_same hx).1 rfl _ s⟩

/-! ## The moves of the task -/

/-- What a move of the task does to the accounts: there is no lookup, or one is started, or one is
read from. -/
inductive Handles (c : Call) (buffer : Nat) : Call → Prop where
  | early {c' : Call} (hbefore : c.lookup = none) (hafter : c'.lookup = none) : Handles c buffer c'
  | starts {c' : Call} (query : StreamQuery) (limit : Limit) (hbefore : c.lookup = none)
      (hafter : c'.lookup = some (.fresh query limit buffer)) : Handles c buffer c'
  | passes {c' : Call} {l l' : Lookup} (hl : c.lookup = some l) (h : c.Passes l c' l') :
      Handles c buffer c'

theorem finish_early (hnone : c.lookup = none) {conversation : Conversation} {entered : List Stage}
    {began : Nat} (outcome : Outcome) (s₁ : Surroundings) (buffer : Nat) :
    c.Handles buffer ({ c with conversation, entered, began }.finish outcome s₁).1 := by
  refine .early hnone ?_
  rw [finish_lookup]
  exact congrArg (Option.map Lookup.abandon) hnone

/-- **A move of the handler**, which has no lookup yet. -/
theorem handle_handles {p : Program} {due : Option Nat} (hnone : c.lookup = none)
    (hm : c.handle s p due = some (c', s')) : c.Handles s.settings.buffer c' := by
  have hmove := handle_move hm
  generalize hr : (c', s') = r at hmove
  cases hmove with
  | ends hends =>
    obtain rfl : c' = _ := congrArg Prod.fst hr
    exact finish_early hnone _ _ _
  | heldUp | proceeds =>
    cases hr
    exact .early hnone hnone
  | @relays query l hrelays hstart =>
    cases hr
    exact .starts query _ hnone (congrArg some (Lookup.start_eq_ok hstart))

/-- **A move of the relay** of a call that has no lookup. -/
theorem relay_early {inHand : Option Json} (hnone : c.lookup = none)
    (hm : c.relay s inHand = some (c', s')) : c.Handles s.settings.buffer c' := by
  have hmove := relay_move hm
  generalize hr : (c', s') = r at hmove
  cases hmove with
  | passed hsend =>
    cases hr
    exact .early hnone hnone
  | stopped | idle =>
    obtain rfl : c' = _ := congrArg Prod.fst hr
    exact finish_early hnone _ _ _
  | took hlookup hx | failed hlookup hx | ended hlookup hx => cases hnone.symm.trans hlookup

/-- The report of a failure adds to what is held back. -/
theorem report_load {e : CallError} (hm : c.report e = some c') :
    c'.lookup = c.lookup ∧ c'.progress = .ended ∧
      c.conversation.outbound.load ≤ c'.conversation.outbound.load := by
  cases report_move hm with
  | kept | left => exact ⟨rfl, rfl, Nat.le_refl _⟩
  | told houtbound hpresent hroom =>
    refine ⟨rfl, rfl, ?_⟩
    simp [houtbound, Outbound.load, Channel.load, hpresent]

/-- **A move of the task** of a guarded call. -/
theorem taskMove_handles (hguarded : c.guarded = true)
    (hroom : c.conversation.outbound.room? = some room)
    (hearly : c.isEarly = true → c.lookup = none)
    (hfits : ∀ l, c.lookup = some l → l.results.channel.Fits)
    (hm : c.taskMove s = some (c', s')) : c.Handles s.settings.buffer c' := by
  cases hp : c.progress with
  | waiting =>
    have hnone := hearly (by simp [isEarly, hp])
    simp only [taskMove, hp] at hm
    obtain ⟨conversation, entered, s₁, -, hon | ⟨e, hback⟩⟩ := begin_stays c s
    · rw [hon] at hm
      cases hm
      exact .early hnone hnone
    · rw [hback] at hm
      cases hm
      exact finish_early hnone _ _ _
  | handling p due =>
    simp only [taskMove, hp] at hm
    exact handle_handles (hearly (by simp [isEarly, hp])) hm
  | relaying inHand =>
    simp only [taskMove, hp] at hm
    cases hl : c.lookup with
    | none => exact relay_early hl hm
    | some l =>
      obtain ⟨l', hpasses⟩ := relay_passes hguarded hroom hp hl (hfits l hl) hm
      exact .passes hl hpasses
  | reporting e =>
    simp only [taskMove, hp] at hm
    obtain ⟨c'', hreport, heq⟩ := Option.map_eq_some_iff.1 hm
    cases heq
    obtain ⟨hlookup, hended, hload⟩ := report_load hreport
    cases hl : c.lookup with
    | none => exact .early hl (hlookup.trans hl)
    | some l =>
      refine .passes hl ⟨hlookup.trans hl, rfl, rfl, rfl, hfits l hl, ?_⟩
      simp only [heldBack, inHands, hp, hended]
      omega
  | ended => simp [taskMove, hp] at hm

/-- **A handler that is given up.** -/
theorem giveUp_handles (hguarded : c.guarded = true)
    (hfits : ∀ l, c.lookup = some l → l.results.channel.Fits) (ms : Nat) (s : Surroundings)
    (buffer : Nat) : c.Handles buffer (c.giveUp ms s).1 := by
  cases hl : c.lookup with
  | none =>
    refine .early hl ?_
    rw [giveUp, finishWith, finish_lookup]
    simp [hl]
  | some l =>
    have hlookup : c.lookup.map Lookup.abandon = some l.abandon := by rw [hl]; rfl
    have hcancel : c.conversation.cancel.outbound.load = c.conversation.outbound.load := rfl
    exact .passes hl (finish_passes hguarded hlookup (hfits l hl) rfl hcancel
      (.finished (.error (lateError ms))) s)

end Call

namespace Aftermath

/-- How many items the producer takes from its stream. -/
def taken (a a' : Aftermath) : Nat :=
  match a.scene.call.lookup, a'.scene.call.lookup with
  | some l, some l' => l.taken l'
  | _, _ => 0

/-- What the acts can lead to, while the producer takes so many items. -/
inductive Runs (start : Aftermath) : Nat → Aftermath → Prop where
  | refl : Runs start 0 start
  | tail {n : Nat} {a a' : Aftermath} (h : Runs start n a) (hs : Step a a') :
      Runs start (n + a.taken a') a'

variable {start a a' : Aftermath} {l l' : Lookup} {n m opening buffer room : Nat}

/-- The accounts of a lookup whose producer has taken so many items: what it has delivered, the
client has got, or it is held back. The client may have got `opening` frames beside. -/
structure Account (opening buffer n got : Nat) (c : Call) (l : Lookup) : Prop where
  tallies : l.Tallies n
  delivered : l.delivered + opening ≤ got + c.heldBack l
  fits : l.results.channel.Fits
  capacity : l.results.channel.capacity = max buffer 1

/-- The accounts of a call. Before it has a lookup, nothing has been taken. -/
structure Balanced (opening buffer n : Nat) (a : Aftermath) : Prop where
  settings : a.scene.shared.settings.buffer = buffer
  idle : a.scene.call.lookup = none → n = 0 ∧ opening ≤ a.scene.received.length
  busy : ∀ l, a.scene.call.lookup = some l →
    Account opening buffer n a.scene.received.length a.scene.call l

theorem taken_of_none (h : a.scene.call.lookup = none) : a.taken a' = 0 := by
  simp [taken, h]

theorem taken_of_some (hl : a.scene.call.lookup = some l) (hl' : a'.scene.call.lookup = some l') :
    a.taken a' = l.taken l' := by
  simp [taken, hl, hl']

theorem taken_of_same (h : a'.scene.call.lookup = a.scene.call.lookup) : a.taken a' = 0 := by
  cases hl : a.scene.call.lookup with
  | none => exact taken_of_none hl
  | some l => exact (taken_of_some hl (h.trans hl)).trans (Lookup.taken_of_producing rfl)

namespace Balanced

variable {sc : Scene} {c : Call}

/-- The task of the call moves, or its handler is given up. -/
theorem handles (h : a.Balanced opening buffer n) (hm : a.scene.call.Handles buffer sc.call)
    (hsettings : sc.shared.settings = a.scene.shared.settings)
    (hreceived : sc.received = a.scene.received) :
    (a.goOn sc).Balanced opening buffer (n + a.taken (a.goOn sc)) := by
  have hbuffer : sc.shared.settings.buffer = buffer := by rw [hsettings, h.settings]
  cases hm with
  | early hbefore hafter =>
    rw [taken_of_none hbefore]
    refine ⟨hbuffer, fun _ => ?_, fun l hl => ?_⟩
    · show n = 0 ∧ opening ≤ sc.received.length
      rw [hreceived]
      exact h.idle hbefore
    · cases hafter.symm.trans hl
  | starts query limit hbefore hafter =>
    rw [taken_of_none hbefore]
    obtain ⟨rfl, hopening⟩ := h.idle hbefore
    refine ⟨hbuffer, fun hnone => ?_, fun l hl => ?_⟩
    · cases hafter.symm.trans hnone
    · obtain rfl := Option.some.inj (hafter.symm.trans hl)
      refine ⟨rfl, ?_, Nat.zero_le _, rfl⟩
      show 0 + opening ≤ sc.received.length + _
      rw [hreceived]
      omega
  | @passes l l' hl hpasses =>
    obtain ⟨hl', hproducing, hdelivered, hcapacity, hfits, hheld⟩ := hpasses
    obtain ⟨htallies, hbalance, -, hbefore⟩ := h.busy l hl
    have hzero : a.taken (a.goOn sc) = 0 :=
      (taken_of_some hl hl').trans (Lookup.taken_of_producing hproducing)
    rw [hzero]
    refine ⟨hbuffer, fun hnone => ?_, fun l₁ hl₁ => ?_⟩
    · cases hl'.symm.trans hnone
    · obtain rfl := Option.some.inj (hl'.symm.trans hl₁)
      refine ⟨?_, ?_, hfits, hcapacity.trans hbefore⟩
      · unfold Lookup.Tallies at htallies ⊢
        rw [hproducing, hdelivered]
        exact htallies
      · show l'.delivered + opening ≤ sc.received.length + sc.call.heldBack l'
        rw [hreceived, hdelivered]
        omega

/-- The producer or its stream moves. -/
theorem account (h : a.Balanced opening buffer n) (hl : a.scene.call.lookup = some l)
    (ha : l.Accounts l') (hcall : sc.call = { a.scene.call with lookup := some l' })
    (hsettings : sc.shared.settings = a.scene.shared.settings)
    (hreceived : sc.received = a.scene.received) :
    (a.goOn sc).Balanced opening buffer (n + a.taken (a.goOn sc)) := by
  have hl' : (a.goOn sc).scene.call.lookup = some l' := by rw [goOn, hcall]
  obtain ⟨htallies, hbalance, hfits, hcapacity⟩ := h.busy l hl
  have hmove := ha.delivered
  rw [taken_of_some hl hl']
  refine ⟨by rw [goOn, hsettings, h.settings], fun hnone => ?_, fun l₁ hl₁ => ?_⟩
  · cases hl'.symm.trans hnone
  · obtain rfl := Option.some.inj (hl'.symm.trans hl₁)
    refine ⟨ha.tallies n htallies, ?_, ha.fits hfits, ha.capacity.trans hcapacity⟩
    show l'.delivered + opening ≤ sc.received.length + sc.call.heldBack l'
    rw [hreceived, hcall]
    unfold Call.heldBack at hbalance ⊢
    show l'.delivered + opening ≤ a.scene.received.length +
      (a.scene.call.conversation.outbound.load + a.scene.call.inHands + l'.results.channel.load)
    omega

/-- Something happens beside the task and the lookup. What leaves the reply, the client gets. -/
theorem aside (h : a.Balanced opening buffer n) {conversation : Conversation}
    (hcall : sc.call = { a.scene.call with conversation })
    (hsettings : sc.shared.settings = a.scene.shared.settings)
    (hreceived : a.scene.received.length ≤ sc.received.length)
    (hload : a.scene.received.length + a.scene.call.conversation.outbound.load ≤
      sc.received.length + conversation.outbound.load) :
    (a.goOn sc).Balanced opening buffer (n + a.taken (a.goOn sc)) := by
  have hlookup : sc.call.lookup = a.scene.call.lookup := by rw [hcall]
  have hzero : a.taken (a.goOn sc) = 0 := taken_of_same hlookup
  rw [hzero]
  refine ⟨by rw [goOn, hsettings, h.settings], fun hnone => ?_, fun l hl => ?_⟩
  · obtain ⟨hn, hopening⟩ := h.idle (hlookup.symm.trans hnone)
    exact ⟨hn, Nat.le_trans hopening hreceived⟩
  · obtain ⟨htallies, hbalance, hfits, hcapacity⟩ := h.busy l (hlookup.symm.trans hl)
    refine ⟨htallies, ?_, hfits, hcapacity⟩
    show l.delivered + opening ≤ sc.received.length + sc.call.heldBack l
    rw [hcall]
    unfold Call.heldBack at hbalance ⊢
    show l.delivered + opening ≤ sc.received.length +
      (conversation.outbound.load + a.scene.call.inHands + l.results.channel.load)
    omega

/-- **Every step keeps the accounts.** -/
theorem step (h : a.Balanced opening buffer n) (htidy : a.Tidy)
    {ms : Nat} (hserves : a.scene.call.Serves ms room) (hs : Step a a') :
    a'.Balanced opening buffer (n + a.taken a') := by
  have hfits : ∀ l, a.scene.call.lookup = some l → l.results.channel.Fits :=
    fun l hl => (h.busy l hl).fits
  cases hs with
  | scene hs =>
    cases hs with
    | task hm =>
      have hmoves := Call.taskMove_handles htidy.guarded hserves.room htidy.early hfits hm
      rw [h.settings] at hmoves
      exact h.handles hmoves (Call.taskMove_evolves hm).settings rfl
    | deadline htimeout hhandling hlate =>
      exact h.handles (Call.giveUp_handles htidy.guarded hfits _ _ _)
        (a.scene.call.giveUp_evolves _ _).settings rfl
    | produce hl hm =>
      obtain ⟨-, ⟨hp, due, rfl⟩ | ⟨came, -, hadvance⟩⟩ := Lookup.produce_cases hm
      · exact h.account hl (Lookup.hold_accounts hp due) rfl rfl rfl
      · exact h.account hl (Lookup.advances_of_advance hadvance).accounts rfl rfl rfl
    | stream noticed hl hnoticed hm | breakdown words hl hm =>
      exact h.account hl (Lookup.onStream_accounts hm) rfl rfl rfl
    | others hs => exact h.aside rfl hs.settings (Nat.le_refl _) (Nat.le_refl _)
    | cancel => exact h.aside rfl rfl (Nat.le_refl _) (Nat.le_refl _)
    | @read frames frames' frame hframes hpresent hr =>
      have hload := Channel.load_receive hpresent hr
      refine h.aside rfl rfl (by simp) ?_
      rw [hframes, List.length_append, List.length_singleton]
      simp only [Outbound.load]
      omega
    | readEnd hframes hpresent hr => exact h.aside rfl rfl (Nat.le_refl _) (Nat.le_refl _)
    | @leave frames hframes =>
      -- What the reply held is lost, and counts as held back from now on.
      have hroom := hserves.fits
      rw [hframes] at hroom
      have hload : frames.load ≤ frames.capacity := Channel.Fits.load_le hroom
      refine h.aside rfl rfl (Nat.le_refl _) ?_
      rw [hframes]
      exact Nat.add_le_add_left hload _
  | producer came hl hm =>
    exact h.account hl (Lookup.advances_of_advance hm).accounts rfl rfl rfl
  | upstream act hl hm => exact h.account hl (Lookup.onStream_accounts hm) rfl rfl rfl
  | orphan noticed ho hnoticed hm =>
    have hkept : (a.goOn a.scene).Balanced opening buffer (n + a.taken (a.goOn a.scene)) :=
      h.aside rfl rfl (Nat.le_refl _) (Nat.le_refl _)
    exact ⟨hkept.settings, hkept.idle, hkept.busy⟩

theorem runs {start : Aftermath} (h : start.Balanced opening buffer n) (htidy : start.Tidy)
    {ms : Nat} (hserves : start.scene.call.Serves ms room) (hr : Runs start m a) :
    a.Balanced opening buffer (n + m) ∧ a.Tidy ∧ a.scene.call.Serves ms room := by
  induction hr with
  | refl => exact ⟨h, htidy, hserves⟩
  | tail _ hs ih =>
    obtain ⟨hbalanced, htidy, hserves⟩ := ih
    rw [← Nat.add_assoc]
    exact ⟨hbalanced.step htidy hserves hs, htidy.step hs, hs.serves htidy hserves⟩

/-- From now on, what the client has got so far is what it has got beside. -/
theorem reopen (h : a.Balanced opening buffer n) :
    ∃ opening', a.Balanced opening' buffer n ∧ a.scene.received.length ≤ n + opening' := by
  cases hl : a.scene.call.lookup with
  | none =>
    refine ⟨a.scene.received.length, ⟨h.settings, fun hnone => ?_, fun l hl' => ?_⟩, by omega⟩
    · exact ⟨(h.idle hnone).1, Nat.le_refl _⟩
    · cases hl.symm.trans hl'
  | some l =>
    obtain ⟨htallies, hbalance, hfits, hcapacity⟩ := h.busy l hl
    have hbounds := htallies.bounds
    refine ⟨a.scene.received.length + a.scene.call.heldBack l - l.delivered,
      ⟨h.settings, fun hnone => ?_, fun l₁ hl₁ => ?_⟩, by omega⟩
    · cases hl.symm.trans hnone
    · obtain rfl := Option.some.inj (hl.symm.trans hl₁)
      exact ⟨htallies, by omega, hfits, hcapacity⟩

/-- What the producer has taken, the client has got, or it is held back, or in the hands of the
producer. -/
theorem taken_le (h : a.Balanced opening buffer n) {ms : Nat}
    (hserves : a.scene.call.Serves ms room) :
    n + opening ≤ a.scene.received.length + max buffer 1 + room + 2 := by
  cases hl : a.scene.call.lookup with
  | none =>
    obtain ⟨rfl, hopening⟩ := h.idle hl
    omega
  | some l =>
    obtain ⟨htallies, hbalance, hfits, hcapacity⟩ := h.busy l hl
    have hbounds := htallies.bounds
    have hreply := Outbound.load_le hserves.room hserves.fits
    have hhands := a.scene.call.inHands_le
    have hresults := hfits.load_le
    rw [hcapacity] at hresults
    unfold Call.heldBack at hbalance
    omega

theorem of_start (g : Gateway) (route : Route) (params : Json) (headers : Headers) (capacity : Nat)
    (shared : Surroundings) :
    (Aftermath.start g route params headers capacity shared).Balanced
      0 shared.settings.buffer 0 := by
  have hnone := (Tidy.start g route params headers capacity shared).early (by
    simp only [Aftermath.start, Scene.start]
    cases route.kind <;> rfl)
  refine ⟨rfl, fun _ => ⟨rfl, Nat.zero_le _⟩, fun l hl => ?_⟩
  cases hnone.symm.trans hl

end Balanced

/-! ## The bound -/

/-- **A streaming call is bounded by its two channels.** The producer has taken what it has
delivered and at most one item more, and this is at most as many more than the client has got as the
two channels hold, and two. While the client gets nothing, the producer takes no more than that. -/
theorem Runs.taken_le {g : Gateway} {route : Route} (hkind : route.kind = .serverStreaming)
    {params : Json} {headers : Headers} {capacity : Nat} {shared : Surroundings}
    (h : Runs (.start g route params headers capacity shared) n a) :
    (∀ l, a.scene.call.lookup = some l → l.delivered ≤ n ∧ n ≤ l.delivered + 1) ∧
      n ≤ a.scene.received.length + max shared.settings.buffer 1 + max capacity 1 + 2 ∧
      ∀ m a', Runs a m a' → a'.scene.received = a.scene.received →
        m ≤ max shared.settings.buffer 1 + max capacity 1 + 2 := by
  have hserves := Serves.of_reachable g route hkind params headers capacity shared .refl
  have htidy := Tidy.start g route params headers capacity shared
  obtain ⟨hbalanced, htidy, hserves⟩ :=
    (Balanced.of_start g route params headers capacity shared).runs htidy hserves h
  rw [Nat.zero_add] at hbalanced
  refine ⟨fun l hl => (hbalanced.busy l hl).tallies.bounds, hbalanced.taken_le hserves, ?_⟩
  intro m a' hlater hstalled
  obtain ⟨opening, hreopened, hgot⟩ := hbalanced.reopen
  obtain ⟨hbalanced', -, hserves'⟩ := hreopened.runs htidy hserves hlater
  have hbound := hbalanced'.taken_le hserves'
  rw [hstalled] at hbound
  omega

/-- How many items the producer takes in a schedule. -/
def tally (a : Aftermath) : List Turn → Nat
  | [] => 0
  | turn :: schedule => a.taken (a.take turn) + (a.take turn).tally schedule

theorem Runs.turns (h : Runs start n a) (schedule : List Turn) :
    Runs start (n + a.tally schedule) (schedule.foldl take a) := by
  induction schedule generalizing n a with
  | nil => exact h
  | cons turn schedule ih =>
    rw [tally, ← Nat.add_assoc]
    refine ih ?_
    rcases a.take_step turn with hstays | hs
    · have hzero : a.taken a = 0 := taken_of_same rfl
      rwa [hstays, hzero]
    · exact h.tail hs

end Aftermath

/-- **Run-ahead is bounded by the buffers.** Whatever the upstream yields, however long it goes on,
whatever the limit is, and however the parties act:

* the producer of a lookup has taken what it has delivered and at most one item more, and this is at
  most as many more than its consumer has got as the results hold, and one;
* the producer of a streaming call has taken at most as many items more than the client has got
  frames as the results and the reply hold, and two.

A consumer or a client that gets nothing more stops the producer after so many items. -/
theorem run_ahead_bounded :
    (∀ (u : Upstream) (query : StreamQuery) (limit : Limit) (buffer n : Nat) (r : Relay),
      Relay.Runs u (.fresh query limit buffer) n r →
        r.accepted.length ≤ n ∧ n ≤ r.accepted.length + 1 ∧
          n ≤ r.received + max buffer 1 + 1 ∧
          ∀ m r', Relay.Runs u r m r' → r'.received = r.received → m ≤ max buffer 1 + 1) ∧
      ∀ (g : Gateway) (route : Route) (params : Json) (headers : Headers) (shared : Surroundings)
        (n : Nat) (a : Aftermath), route.kind = .serverStreaming →
        Aftermath.Runs (.start g route params headers replyBuffer shared) n a →
          (∀ l, a.scene.call.lookup = some l → l.delivered ≤ n ∧ n ≤ l.delivered + 1) ∧
          n ≤ a.scene.received.length + max shared.settings.buffer 1 + 16 + 2 ∧
          ∀ m a', Aftermath.Runs a m a' → a'.scene.received = a.scene.received →
            m ≤ max shared.settings.buffer 1 + 16 + 2 :=
  ⟨fun _ _ _ _ _ _ h => h.taken_le, fun _ _ _ _ _ _ _ hkind h => h.taken_le hkind⟩

/-- Both bounds are reached: the producer takes two items ahead of a consumer that does not look at
results for one item, and nineteen ahead of a client that does not read. -/
theorem run_ahead_bounded_stalled :
    let ada : Item := .subject ⟨⟨⟨"user", "ada"⟩, none⟩, ⟨"0"⟩, ⟨"1"⟩⟩
    let u : Upstream := .streaming (fun _ => some ada) .hang
    let query : StreamQuery := .subjects
      { resource := ⟨"document", "readme"⟩, permission := "viewer", subjectType := "user" }
    let g : Gateway := { routes := [], stages := Stage.standard false none, timeout := 1000 }
    let backend : Backend :=
      { mint := fun n => ⟨toString n⟩, script := some { ids := List.replicate 30 "ada" } }
    let shared : Surroundings :=
      { unixTime := 0, backend, settings := { buffer := 1 }, traceIds := fun _ => "trace" }
    let params : Json := .obj [("resource", .obj [("object_type", .str "document"),
      ("object_id", .str "readme")]), ("permission", .str "viewer"), ("subject_type", .str "user")]
    (∃ r, Relay.Runs u (.fresh query .unbounded 1) 2 r ∧ r.received = 0 ∧
        ∀ m r', Relay.Runs u r m r' → r'.received = 0 → m ≤ 2) ∧
      ∃ a, Aftermath.Runs (.start g StreamKind.subjects.route params {} replyBuffer shared) 19 a ∧
        a.scene.received = [] ∧
        ∀ m a', Aftermath.Runs a m a' → a'.scene.received = [] → m ≤ 19 := by
  intro ada u query g backend shared params
  constructor
  · have h₀ : Relay.Runs u (.fresh query .unbounded 1) 0 (.fresh query .unbounded 1) := .refl
    have h₁ := h₀.tail (.produce _ (.inr ⟨1, 0, 0, rfl⟩) rfl)
    have h₂ := h₁.tail (.stream 0 false (fun h => h) rfl)
    have h₃ := h₂.tail (.produce none (.inl rfl) rfl)
    have h₄ := h₃.tail (.produce none (.inl rfl) rfl)
    have h₅ := h₄.tail (.stream 0 false (fun h => h) rfl)
    have h₆ := h₅.tail (.produce none (.inl rfl) rfl)
    obtain ⟨-, -, -, hstalled⟩ := run_ahead_bounded.1 u query .unbounded 1 2 _ h₆
    exact ⟨_, h₆, rfl, hstalled⟩
  · let route := StreamKind.subjects.route
    let item : List Aftermath.Turn := [.stream, .producer, .producer, .task, .task]
    let schedule : List Aftermath.Turn :=
      [.task, .task, .task, .producer] ++ (List.replicate 19 item).flatten
    let start : Aftermath := .start g route params {} replyBuffer shared
    let a := schedule.foldl Aftermath.take start
    have htally : start.tally schedule = 19 := by decide +kernel
    have hruns : Aftermath.Runs start (0 + start.tally schedule) a :=
      Aftermath.Runs.turns .refl schedule
    have h : Aftermath.Runs start 19 a := by rwa [htally] at hruns
    have hreceived : a.scene.received = [] := by
      rw [← List.length_eq_zero_iff]
      decide +kernel
    obtain ⟨-, -, hstalled⟩ :=
      run_ahead_bounded.2 g route params {} shared 19 a rfl h
    rw [hreceived] at hstalled
    exact ⟨a, h, hreceived, hstalled⟩

end RelationGate
