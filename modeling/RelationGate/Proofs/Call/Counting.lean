import Mathlib.Algebra.GroupWithZero.Nat
import RelationGate.Proofs.Call.Reports

/-!
# Which calls are counted

A board follows all the calls of a gateway beside each other and keeps the report of each
(`Board.Step`). The metrics stage counts a call when it comes back with an outcome. A breakdown that
unwinds the stages passes it, so recovery replies to a call that nobody has counted.

What can be read off the counters grows with each call that is counted under labels of some sort
(`Metrics.Tallies`). One step of a call shows in them if it comes to its outcome without unwinding
(`CallRecord.Shows`), and so they count those calls of every run (`Board.tally_of_reachable`).

Main result: `calls_counted_iff_not_unwound`.
-/

namespace RelationGate

open Json

/-! ## Counters -/

namespace Metrics

/-- How many calls of a kind and a method were counted, whatever came of them. -/
def rowSum (m : Metrics) (kind method : String) : Nat :=
  ((m.requests.filter fun row => row.1.kind == kind && row.1.method == method).map (·.2)).sum

/-- A number that is read off the counters counts the calls under labels of some sort. -/
def Tallies (μ : Metrics → Nat) (p : CallLabels → Bool) : Prop :=
  ∀ (m : Metrics) (kind : CallKind) (method : String) (outcome : Except CallError Unit)
    (micros : Nat), μ (m.observe kind method outcome micros) =
      μ m + if p (labelsOf kind method outcome) then 1 else 0

@[simp] theorem labelsOf_kind (kind : CallKind) (method : String)
    (outcome : Except CallError Unit) : (labelsOf kind method outcome).kind = kind.label := by
  cases outcome with
  | _ => rfl

@[simp] theorem labelsOf_method (kind : CallKind) (method : String)
    (outcome : Except CallError Unit) : (labelsOf kind method outcome).method = method := by
  cases outcome with
  | _ => rfl

theorem lookup_countCall (counted labels : CallLabels) (rows : List (CallLabels × Nat)) :
    ((countCall counted rows).lookup labels).getD 0 =
      (rows.lookup labels).getD 0 + if counted = labels then 1 else 0 := by
  induction rows with
  | nil =>
    by_cases heq : counted = labels
    · simp [countCall, heq]
    · simp [countCall, List.lookup_cons, heq, beq_false_of_ne (Ne.symm heq)]
  | cons row rest ih =>
    obtain ⟨other, n⟩ := row
    unfold countCall
    split
    next hother =>
      subst hother
      by_cases heq : counted = labels
      · simp [heq]
      · simp [List.lookup_cons, heq, beq_false_of_ne (Ne.symm heq)]
    next hother =>
      by_cases heq : labels = other
      · subst heq
        simp [hother]
      · simpa [List.lookup_cons, beq_false_of_ne heq] using ih

theorem sum_countCall (p : CallLabels → Bool) (counted : CallLabels)
    (rows : List (CallLabels × Nat)) :
    (((countCall counted rows).filter fun row => p row.1).map (·.2)).sum =
      ((rows.filter fun row => p row.1).map (·.2)).sum + if p counted then 1 else 0 := by
  induction rows with
  | nil => cases hp : p counted <;> simp [countCall, hp]
  | cons row rest ih =>
    obtain ⟨other, n⟩ := row
    unfold countCall
    split
    next hother =>
      subst hother
      cases hp : p counted with
      | true =>
        simp [hp]
        omega
      | false => simp [hp]
    next hother =>
      cases hp : p other with
      | true =>
        simp only [List.filter_cons, hp, if_true, List.map_cons, List.sum_cons, ih]
        omega
      | false => simpa [List.filter_cons, hp] using ih

theorem latencyCount_eq (m : Metrics) (kind method : String) : m.latencyCount kind method =
    ((m.latencies.find? fun h => h.kind == kind && h.method == method).map (·.count)).getD 0 := by
  unfold latencyCount
  split
  next h heq => rw [heq]; rfl
  next heq => rw [heq]; rfl

theorem find?_countLatency (kind method kind' method' : String) (micros : Nat)
    (rows : List Histogram) :
    (((countLatency kind method micros rows).find? fun h =>
        h.kind == kind' && h.method == method').map (·.count)).getD 0 =
      ((rows.find? fun h => h.kind == kind' && h.method == method').map (·.count)).getD 0 +
        if kind == kind' && method == method' then 1 else 0 := by
  induction rows with
  | nil =>
    cases hsame : kind == kind' && method == method' with
    | true => simp [countLatency, hsame]
    | false => simp [countLatency, hsame]
  | cons h rest ih =>
    unfold countLatency
    split
    next hother =>
      obtain ⟨rfl, rfl⟩ := hother
      cases hsame : h.kind == kind' && h.method == method' with
      | true => simp [hsame]
      | false => simp [hsame]
    next hother =>
      cases hsame : h.kind == kind' && h.method == method' with
      | true =>
        have hnot : (kind == kind' && method == method') = false := by
          rw [← Bool.not_eq_true]
          simp only [Bool.and_eq_true, beq_iff_eq] at hsame ⊢
          rintro ⟨rfl, rfl⟩
          exact hother hsame
        simp [hsame, hnot]
      | false => simpa [List.find?_cons, hsame] using ih

theorem tallies_requestCount (labels : CallLabels) :
    Tallies (·.requestCount labels) (decide <| · = labels) := by
  intro m kind method outcome micros
  simp only [requestCount, observe, lookup_countCall, decide_eq_true_eq]

theorem tallies_rowSum (kind method : String) :
    Tallies (·.rowSum kind method) fun l => l.kind == kind && l.method == method :=
  fun m _ _ _ _ => sum_countCall (fun l => l.kind == kind && l.method == method) _ m.requests

theorem tallies_latencyCount (kind method : String) :
    Tallies (·.latencyCount kind method) fun l => l.kind == kind && l.method == method := by
  intro m kind' method' outcome micros
  simp only [latencyCount_eq, observe, find?_countLatency, labelsOf_kind, labelsOf_method]

end Metrics

/-! ## Records -/

theorem Scene.start_waits (g : Gateway) (route : Route) (params : Json) (headers : Headers)
    (capacity : Nat) (shared : Surroundings) :
    (Scene.start g route params headers capacity shared).call.progress = .waiting ∧
      (Scene.start g route params headers capacity shared).call.result = none := by
  unfold Scene.start
  split
  · exact ⟨rfl, rfl⟩
  · exact ⟨rfl, rfl⟩

/-- A call of a route, with its report. -/
structure CallRecord where
  route : Route
  report : Report

/-- The handler has not come back. -/
structure Call.Underway (c : Call) (received : List Frame) (unwound : Bool) : Prop where
  result : c.result = none
  calm : unwound = false
  spoken : c.conversation.outbound.Spoken received false

/-- The handler has come back, and this is the outcome of the call. -/
structure Call.ComesTo (c : Call) (unwound : Bool) (x : Except CallError Unit) : Prop where
  result : c.result = some (.finished x)
  breakdown : unwound = true → x = .error (.internal "panic" "internal error")

namespace CallRecord

def call (k : CallRecord) : Call := k.report.scene.call

/-- The call beside what it shares with the others now. -/
def beside (k : CallRecord) (s : Surroundings) : CallRecord :=
  { k with report := { k.report with scene := { k.report.scene with shared := s } } }

/-- The record after a step of the call. -/
def noting (k : CallRecord) (sc : Scene) : CallRecord := { k with report := k.report.noting sc }

/-- The labels of the outcome of the call, if it has come to one. -/
def labels? (k : CallRecord) : Option CallLabels :=
  match k.call.result with
  | some (.finished x) => some (Metrics.labelsOf k.route.kind k.route.method x)
  | _ => none

/-- The call is counted under labels of some sort: it has come to such an outcome, and no breakdown
has unwound its stages. -/
def counts (k : CallRecord) (p : CallLabels → Bool) : Bool := !k.report.unwound && k.labels?.any p

/-- What holds at each stage of the task of the call. -/
def Stands (auth : Option AuthSettings) (k : CallRecord) : Progress → Prop
  | .waiting => k.call.stages = Stage.standard true auth ∧
      k.call.Underway k.report.scene.received k.report.unwound
  | .handling _ _ | .relaying _ => k.call.entered = (Stage.standard true auth).reverse ∧
      k.call.Underway k.report.scene.received k.report.unwound
  | .reporting e => k.call.ComesTo k.report.unwound (.error e) ∧
      k.call.conversation.outbound.Spoken k.report.scene.received false
  | .ended => ∃ x, k.call.ComesTo k.report.unwound x ∧ k.report.scene.Answers x

/-- **The invariant** of a record. -/
structure Kept (auth : Option AuthSettings) (k : CallRecord) : Prop where
  made : k.route.Makes k.call
  stands : k.Stands auth k.call.progress

/-- **How a step of a call shows in the counters**: not at all, or the call is counted as it comes
to its outcome. -/
inductive Shows (k k' : CallRecord) (m : Metrics) : Metrics → Prop where
  | silent (hsame : ∀ p, k'.counts p = k.counts p) : Shows k k' m m
  | counted (x : Except CallError Unit) (micros : Nat) (hbefore : ∀ p, k.counts p = false)
      (hafter : ∀ p, k'.counts p = p (Metrics.labelsOf k.route.kind k.route.method x)) :
      Shows k k' m (m.observe k.route.kind k.route.method x micros)

/-- A step of the call keeps the invariant, and shows in the counters. -/
structure Advances (auth : Option AuthSettings) (k : CallRecord) (sc : Scene) : Prop where
  kept : (k.noting sc).Kept auth
  shows : k.Shows (k.noting sc) k.report.scene.shared.metrics sc.shared.metrics

/-- The call is about to go back through its stages. -/
structure Returning (k : CallRecord) (c : Call) (s : Surroundings) (outcome : Outcome) : Prop where
  underway : k.call.Underway k.report.scene.received k.report.unwound
  made : k.route.Makes c
  entered : ∃ auth, c.entered = (Stage.standard true auth).reverse
  spoken : c.conversation.outbound.Spoken k.report.scene.received false
  metrics : s.metrics = k.report.scene.shared.metrics
  way : outcome.isBreakdown = k.call.unwinds k.report.scene.shared

variable {k k' : CallRecord} {m m' : Metrics} {μ : Metrics → Nat} {p : CallLabels → Bool}
  {auth : Option AuthSettings} {sc : Scene} {c : Call} {s : Surroundings} {outcome : Outcome}

theorem Shows.tally (h : k.Shows k' m m') (htallies : Metrics.Tallies μ p) :
    (μ m' + if k.counts p then 1 else 0) = μ m + if k'.counts p then 1 else 0 := by
  cases h with
  | silent hsame => rw [hsame]
  | counted x micros hbefore hafter =>
    rw [htallies, hbefore, hafter]
    simp

/-- A record shows its outcome. -/
theorem counts_of_comesTo {x : Except CallError Unit} (h : k.call.ComesTo k.report.unwound x)
    (p : CallLabels → Bool) : k.counts p =
      (!k.report.unwound && p (Metrics.labelsOf k.route.kind k.route.method x)) := by
  simp only [counts, labels?, h.result, Option.any_some]

theorem counts_of_underway (h : k.call.Underway k.report.scene.received k.report.unwound)
    (p : CallLabels → Bool) : k.counts p = false := by
  simp only [counts, labels?, h.result, Option.any_none, Bool.and_false]

/-- The way back counts the call, unless a breakdown unwinds its stages. -/
theorem Returning.shows (h : k.Returning c s outcome)
    (hcomes : (k.noting sc).call.ComesTo (k.noting sc).report.unwound outcome.result)
    (hunwound : (k.noting sc).report.unwound = outcome.isBreakdown)
    (hmetrics : sc.shared.metrics = if !outcome.isBreakdown then
        s.metrics.observe c.conversation.context.kind c.conversation.context.method outcome.result
          (1000 * (s.now - c.began))
      else s.metrics) :
    k.Shows (k.noting sc) k.report.scene.shared.metrics sc.shared.metrics := by
  have hbefore := counts_of_underway h.underway
  have hafter : ∀ p, (k.noting sc).counts p = (!outcome.isBreakdown &&
      p (Metrics.labelsOf k.route.kind k.route.method outcome.result)) := fun p => by
    rw [counts_of_comesTo hcomes, hunwound]
    rfl
  rw [h.metrics, h.made.kind, h.made.method] at hmetrics
  cases hbreakdown : outcome.isBreakdown with
  | true =>
    rw [hmetrics, hbreakdown]
    refine .silent fun p => ?_
    rw [hbefore, hafter, hbreakdown]
    rfl
  | false =>
    rw [hmetrics, hbreakdown]
    refine .counted _ _ hbefore fun p => ?_
    rw [hafter, hbreakdown]
    rfl

/-- **The way back.** -/
theorem Returning.advances (h : k.Returning c s outcome)
    (hcall : sc.call = (c.finish outcome s).1) (hshared : sc.shared = (c.finish outcome s).2)
    (hreceived : sc.received = k.report.scene.received) : k.Advances auth sc := by
  obtain ⟨auth', hentered⟩ := h.entered
  rw [Call.finish_standard hentered] at hcall hshared
  have hcall : sc.call = c.conclude (.finished outcome.result) := hcall
  have hmade : k.route.Makes sc.call := hcall ▸ h.made.conclude _
  obtain ⟨hresult, hend⟩ :=
    Scene.answers_of_conclude h.made.guarded hcall (hreceived ▸ h.spoken)
  have hover : sc.call.isHandling = false := by
    obtain ⟨e, -, hprogress, -⟩ | ⟨hprogress, -⟩ := hend
    · simp [Call.isHandling, hprogress]
    · simp [Call.isHandling, hprogress]
  have hunwound : (k.noting sc).report.unwound = outcome.isBreakdown := by
    simp [noting, Report.noting, hover, h.underway.calm, h.way, call]
  have hcomes : (k.noting sc).call.ComesTo (k.noting sc).report.unwound outcome.result := by
    refine ⟨hresult, fun hbroken => ?_⟩
    rw [hunwound] at hbroken
    cases outcome with
    | panicked words => rfl
    | finished x => cases hbroken
  refine ⟨⟨hmade, ?_⟩, h.shows hcomes hunwound (by rw [hshared]; rfl)⟩
  show Stands auth (k.noting sc) sc.call.progress
  obtain ⟨e, hfailed, hprogress, hspoken⟩ | ⟨hprogress, hanswers⟩ := hend
  · rw [hprogress]
    exact ⟨hfailed ▸ hcomes, hspoken⟩
  · rw [hprogress]
    exact ⟨_, hcomes, hanswers⟩

/-- Nothing shows while the handler is out. -/
theorem shows_of_underway (h : k.call.Underway k.report.scene.received k.report.unwound)
    (h' : (k.noting sc).call.Underway sc.received (k.noting sc).report.unwound)
    (hmetrics : sc.shared.metrics = k.report.scene.shared.metrics) :
    k.Shows (k.noting sc) k.report.scene.shared.metrics sc.shared.metrics := by
  rw [hmetrics]
  refine .silent fun p => ?_
  rw [counts_of_underway h]
  exact counts_of_underway h' p

/-- Nothing shows once the call has come to its outcome. -/
theorem shows_of_comesTo {x : Except CallError Unit} (h : k.call.ComesTo k.report.unwound x)
    (h' : (k.noting sc).call.ComesTo (k.noting sc).report.unwound x)
    (hunwound : (k.noting sc).report.unwound = k.report.unwound)
    (hmetrics : sc.shared.metrics = k.report.scene.shared.metrics) :
    k.Shows (k.noting sc) k.report.scene.shared.metrics sc.shared.metrics := by
  rw [hmetrics]
  refine .silent fun p => ?_
  rw [counts_of_comesTo h, counts_of_comesTo h', hunwound]
  rfl

/-- The handler has not come back in a step after which it is at work. -/
theorem underway_noting (h : k.call.Underway k.report.scene.received k.report.unwound)
    (hat : sc.call.isHandling = true) (hresult : sc.call.result = k.call.result)
    (hspoken : sc.call.conversation.outbound.Spoken sc.received false) :
    (k.noting sc).call.Underway sc.received (k.noting sc).report.unwound :=
  ⟨hresult.trans h.result, (Report.unwound_noting_of_isHandling hat).trans h.calm, hspoken⟩

/-- What holds of a handler at work. -/
theorem stands_of_isHandling (hat : k.call.isHandling = true)
    (h : k.call.entered = (Stage.standard true auth).reverse ∧
      k.call.Underway k.report.scene.received k.report.unwound) :
    k.Stands auth k.call.progress := by
  cases hp : k.call.progress with
  | handling p due => exact h
  | relaying inHand => exact h
  | _ => simp [Call.isHandling, hp] at hat

theorem Kept.atWork (h : k.Kept auth) (hat : k.call.isHandling = true) :
    k.call.entered = (Stage.standard true auth).reverse ∧
      k.call.Underway k.report.scene.received k.report.unwound := by
  have hstands := h.stands
  cases hp : k.call.progress with
  | handling p due =>
    rw [hp] at hstands
    exact hstands
  | relaying inHand =>
    rw [hp] at hstands
    exact hstands
  | _ => simp [Call.isHandling, hp] at hat

theorem Kept.underway (h : k.Kept auth) (hp : k.call.progress = .waiting) :
    k.call.Underway k.report.scene.received k.report.unwound := by
  have hstands := h.stands
  rw [hp] at hstands
  exact hstands.2

/-- **The way in**: the handler is reached, or the credentials are refused. -/
theorem Kept.begin (h : k.Kept auth) (hp : k.call.progress = .waiting)
    (hm : k.call.begin k.report.scene.shared = (sc.call, sc.shared))
    (hreceived : sc.received = k.report.scene.received) : k.Advances auth sc := by
  have hstands := h.stands
  rw [hp] at hstands
  obtain ⟨hstages, hunderway⟩ := hstands
  obtain ⟨conversation, s₁, hstays, hmetrics, hbegin⟩ :=
    Call.begin_standard hstages k.report.scene.shared
  have hspoken : conversation.outbound.Spoken k.report.scene.received false :=
    hstays.outbound ▸ hunderway.spoken
  obtain ⟨-, hbegin⟩ | ⟨settings, e, -, -, -, hbegin⟩ := hbegin
  · rw [hbegin] at hm
    obtain ⟨hcall, hshared⟩ := Prod.mk.inj hm
    have hunderway' : (k.noting sc).call.Underway sc.received (k.noting sc).report.unwound := by
      refine underway_noting hunderway ?_ ?_ ?_
      · rw [← hcall]
        rfl
      · rw [← hcall]
      · rw [← hcall, hreceived]
        exact hspoken
    refine ⟨⟨?_, ?_⟩, shows_of_underway hunderway hunderway' (hshared ▸ hmetrics)⟩
    · show k.route.Makes sc.call
      rw [← hcall]
      exact h.made.goesOn rfl hstays.goesOn
    · show Stands auth (k.noting sc) sc.call.progress
      rw [← hcall]
      exact ⟨by rw [call, noting, Report.noting, ← hcall], hunderway'⟩
  · rw [hbegin] at hm
    have hcalm : (Outcome.finished (.error e.toCallError)).isBreakdown =
        k.call.unwinds k.report.scene.shared := by
      simp [Call.unwinds, hp, Outcome.isBreakdown]
    have hreturning : k.Returning { k.call with
        entered := (Stage.standard true none).reverse, conversation, began := s₁.now } s₁
        (.finished (.error e.toCallError)) :=
      ⟨hunderway, h.made.goesOn rfl hstays.goesOn, ⟨none, rfl⟩, hspoken, hmetrics, hcalm⟩
    exact hreturning.advances (congrArg Prod.fst hm).symm (congrArg Prod.snd hm).symm hreceived

/-- **A move of a handler at work.** -/
theorem Kept.fares (h : k.Kept auth) (hhandling : k.call.isHandling = true)
    (hm : k.call.taskMove k.report.scene.shared = some (sc.call, sc.shared))
    (hreceived : sc.received = k.report.scene.received) : k.Advances auth sc := by
  obtain ⟨hentered, hunderway⟩ := h.atWork hhandling
  have hfares := Call.taskMove_fares hhandling hm
  generalize hresult : (sc.call, sc.shared) = result at hfares
  cases hfares with
  | out conversation lookup b outcome hgoes hway =>
    have hreturning : k.Returning { k.call with conversation, lookup }
        { k.report.scene.shared with backend := b } outcome :=
      ⟨hunderway, h.made.goesOn rfl hgoes, ⟨auth, hentered⟩,
        hunderway.spoken.speaks hgoes.speaks, rfl, hway⟩
    exact hreturning.advances (congrArg Prod.fst hresult) (congrArg Prod.snd hresult) hreceived
  | on conversation lookup progress s₁ hgoes hat hmetrics =>
    obtain ⟨hcall, hshared⟩ := Prod.mk.inj hresult
    have hat' : sc.call.isHandling = true := by
      rw [hcall]
      exact hat
    have hunderway' : (k.noting sc).call.Underway sc.received (k.noting sc).report.unwound := by
      refine underway_noting hunderway hat' (by rw [hcall]) ?_
      rw [hcall, hreceived]
      exact hunderway.spoken.speaks hgoes.speaks
    refine ⟨⟨?_, ?_⟩, shows_of_underway hunderway hunderway' (hshared ▸ hmetrics)⟩
    · show k.route.Makes sc.call
      rw [hcall]
      exact h.made.goesOn rfl hgoes
    · have hentered' : sc.call.entered = (Stage.standard true auth).reverse := by
        rw [hcall]
        exact hentered
      exact stands_of_isHandling hat' ⟨hentered', hunderway'⟩

/-- **The handler is given up.** -/
theorem Kept.expire (h : k.Kept auth)
    (hm : k.call.expire k.report.scene.shared = some (sc.call, sc.shared))
    (hreceived : sc.received = k.report.scene.received) : k.Advances auth sc := by
  obtain ⟨ms, -, hhandling, -, hwaits, hresult⟩ := Call.expire_cases hm
  obtain ⟨hentered, hunderway⟩ := h.atWork hhandling
  have hreturning : k.Returning { k.call with
      conversation := k.call.conversation.cancel, lookup := k.call.lookup.map Lookup.abandon }
      k.report.scene.shared (.finished (.error (Call.lateError ms))) :=
    ⟨hunderway, h.made.goesOn rfl k.call.conversation.stays_cancel.goesOn, ⟨auth, hentered⟩,
      hunderway.spoken, rfl, (Call.unwinds_of_waiting hwaits).symm⟩
  exact hreturning.advances (congrArg Prod.fst hresult) (congrArg Prod.snd hresult) hreceived

/-- **The report** of a failure. -/
theorem Kept.report (h : k.Kept auth) {e : CallError} (hp : k.call.progress = .reporting e)
    (hm : k.call.report e = some sc.call) (hshared : sc.shared = k.report.scene.shared)
    (hreceived : sc.received = k.report.scene.received) : k.Advances auth sc := by
  have hstands := h.stands
  rw [hp] at hstands
  obtain ⟨hcomes, hspoken⟩ := hstands
  obtain ⟨hprogress, hresult⟩ := Call.report_ends hm
  have hbefore : k.call.isHandling = false := by simp [Call.isHandling, hp]
  have hunwound : (k.noting sc).report.unwound = k.report.unwound :=
    Report.unwound_noting_of_over hbefore
  have hcomes' : (k.noting sc).call.ComesTo (k.noting sc).report.unwound (.error e) :=
    ⟨hresult.trans hcomes.result, hunwound ▸ hcomes.breakdown⟩
  refine ⟨⟨h.made.report hm, ?_⟩, shows_of_comesTo hcomes hcomes' hunwound (by rw [hshared])⟩
  show Stands auth (k.noting sc) sc.call.progress
  rw [hprogress]
  exact ⟨_, hcomes', .inl (Scene.tells_of_report hcomes.result hspoken hm hreceived)⟩

/-- **Somebody acts beside the task.** -/
theorem Kept.aside (h : k.Kept auth) (hbeside : k.report.scene.Beside sc) : k.Advances auth sc := by
  obtain ⟨conversation, lookup, hcall⟩ := hbeside.call
  have hprogress : sc.call.progress = k.call.progress := by rw [hcall]; rfl
  have hhandling : sc.call.isHandling = k.call.isHandling := by rw [hcall]; rfl
  have hresult : sc.call.result = k.call.result := by rw [hcall]; rfl
  have hmade : k.route.Makes sc.call := h.made.beside hbeside
  have hcomes : ∀ {x}, k.call.isHandling = false → k.call.ComesTo k.report.unwound x →
      (k.noting sc).report.unwound = k.report.unwound ∧
        (k.noting sc).call.ComesTo (k.noting sc).report.unwound x := by
    intro x hbefore hcomes
    have hunwound : (k.noting sc).report.unwound = k.report.unwound :=
      Report.unwound_noting_of_over hbefore
    exact ⟨hunwound, hresult.trans hcomes.result, hunwound ▸ hcomes.breakdown⟩
  cases hat : k.call.isHandling with
  | true =>
    obtain ⟨hentered, hunderway⟩ := h.atWork hat
    have hat' := hhandling.trans hat
    have hunderway' := underway_noting hunderway hat' hresult (hbeside.spoken _ hunderway.spoken)
    have hentered' : sc.call.entered = (Stage.standard true auth).reverse := by
      rw [hcall]
      exact hentered
    exact ⟨⟨hmade, stands_of_isHandling hat' ⟨hentered', hunderway'⟩⟩,
      shows_of_underway hunderway hunderway' hbeside.metrics⟩
  | false =>
    have hstands := h.stands
    have hstands' : Stands auth (k.noting sc) k.call.progress →
        (k.noting sc).Stands auth (k.noting sc).call.progress := by
      show _ → Stands auth (k.noting sc) sc.call.progress
      rw [hprogress]
      exact id
    cases hp : k.call.progress with
    | waiting =>
      rw [hp] at hstands hstands'
      obtain ⟨hstages, hunderway⟩ := hstands
      have hunderway' : (k.noting sc).call.Underway sc.received (k.noting sc).report.unwound :=
        ⟨hresult.trans hunderway.result,
          (Report.unwound_noting_of_over hat).trans hunderway.calm,
          hbeside.spoken _ hunderway.spoken⟩
      have hstages' : sc.call.stages = Stage.standard true auth := by
        rw [hcall]
        exact hstages
      exact ⟨⟨hmade, hstands' ⟨hstages', hunderway'⟩⟩,
        shows_of_underway hunderway hunderway' hbeside.metrics⟩
    | reporting e =>
      rw [hp] at hstands hstands'
      obtain ⟨hcomes₀, hspoken⟩ := hstands
      obtain ⟨hunwound, hcomes'⟩ := hcomes hat hcomes₀
      exact ⟨⟨hmade, hstands' ⟨hcomes', hbeside.spoken _ hspoken⟩⟩,
        shows_of_comesTo hcomes₀ hcomes' hunwound hbeside.metrics⟩
    | ended =>
      rw [hp] at hstands hstands'
      obtain ⟨x, hcomes₀, hanswers⟩ := hstands
      obtain ⟨hunwound, hcomes'⟩ := hcomes hat hcomes₀
      exact ⟨⟨hmade, hstands' ⟨x, hcomes', hanswers.beside hbeside hcomes₀.result⟩⟩,
        shows_of_comesTo hcomes₀ hcomes' hunwound hbeside.metrics⟩
    | handling p due => simp [Call.isHandling, hp] at hat
    | relaying inHand => simp [Call.isHandling, hp] at hat

/-- **A step of the call.** -/
theorem Kept.own (h : k.Kept auth) (hs : Scene.OwnStep k.report.scene sc) :
    k.Advances auth sc := by
  obtain ⟨c', s', fault, hm, rfl⟩ | ⟨c', s', hm, rfl⟩ | hbeside := hs.task_or_beside
  · cases hp : k.call.progress with
    | waiting =>
      rw [Call.taskMove, ← call, hp] at hm
      exact h.begin hp (Option.some.inj hm) rfl
    | reporting e =>
      rw [Call.taskMove, ← call, hp] at hm
      obtain ⟨c'', hreport, heq⟩ := Option.map_eq_some_iff.1 hm
      cases heq
      exact h.report hp hreport rfl rfl
    | ended =>
      rw [Call.taskMove, ← call, hp] at hm
      cases hm
    | handling p due => exact h.fares (by simp [Call.isHandling, hp]) hm rfl
    | relaying inHand => exact h.fares (by simp [Call.isHandling, hp]) hm rfl
  · exact h.expire hm rfl
  · exact h.aside hbeside

theorem Kept.start {g : Gateway} (hstages : g.stages = Stage.standard true auth) (route : Route)
    (params : Json) (headers : Headers) (capacity : Nat) (shared : Surroundings) :
    Kept auth ⟨route, .start g route params headers capacity shared⟩ := by
  have hreports : Report.Reports route params headers true auth
      (.start g route params headers capacity shared) := .start hstages capacity shared
  obtain ⟨hmade, hfresh⟩ := hreports
  obtain ⟨hprogress, hresult⟩ := Scene.start_waits g route params headers capacity shared
  rw [Report.start, hprogress] at hfresh
  refine ⟨hmade, ?_⟩
  show Stands auth _ (Scene.start g route params headers capacity shared).call.progress
  rw [hprogress]
  exact ⟨hfresh.stages, hresult, rfl, hfresh.listening.spoken⟩

theorem Kept.beside (h : k.Kept auth) (s : Surroundings) : (k.beside s).Kept auth :=
  ⟨h.made, h.stands⟩

/-- A call that is over has come to its outcome, which its reply tells. -/
theorem Kept.of_isOver (h : k.Kept auth) (hover : k.call.isOver = true) :
    ∃ x, k.call.ComesTo k.report.unwound x ∧ k.report.scene.Answers x := by
  have hstands := h.stands
  cases hp : k.call.progress with
  | ended =>
    rw [hp] at hstands
    exact hstands
  | _ => simp [Call.isOver, hp] at hover

/-- A call of a method, of a kind. -/
def isTo (k : CallRecord) (kind : CallKind) (method : String) : Bool :=
  k.route.kind == kind && k.route.method == method

/-- A call that is over is counted among the calls of its method, unless it was unwound. -/
theorem Kept.counts_of_isOver (h : k.Kept auth) (hover : k.call.isOver = true) {kind : CallKind}
    {method : String} : k.counts (fun l => l.kind == kind.label && l.method == method) =
      (k.isTo kind method && !k.report.unwound) := by
  obtain ⟨x, hcomes, -⟩ := h.of_isOver hover
  have hkind : (k.route.kind.label == kind.label) = (k.route.kind == kind) := by
    cases k.route.kind with
    | _ => cases kind with
      | _ => decide
  rw [counts_of_comesTo hcomes, Metrics.labelsOf_kind, Metrics.labelsOf_method, hkind, isTo,
    Bool.and_comm]

end CallRecord

/-! ## The board -/

/-- The calls of a gateway in the order in which they were made, and what they share. -/
structure Board where
  shared : Surroundings
  records : List CallRecord := []

/-- One record is replaced. -/
theorem countP_set_add {α : Type} {l : List α} {i : Nat} {a : α} (h : l[i]? = some a) (a' : α)
    (p : α → Bool) :
    ((l.set i a').countP p + if p a then 1 else 0) = l.countP p + if p a' then 1 else 0 := by
  obtain ⟨hi, ha⟩ := List.getElem?_eq_some_iff.1 h
  rw [List.countP_set hi, ha]
  split
  next hp =>
    have hpos : 0 < l.countP p := List.countP_pos_iff.2 ⟨a, List.mem_of_getElem? h, hp⟩
    omega
  next => omega

namespace Board

/-- One step of somebody: a client makes a call of a method that is served, a call or somebody who
is there for it moves, or something else goes on. -/
inductive Step (g : Gateway) : Board → Board → Prop where
  | make {b : Board} {method : String} {route : Route}
      (hroute : Route.find? g.routes method = some route) (params : Json) (headers : Headers)
      (capacity : Nat) : Step g b { b with
        records := b.records ++ [⟨route, .start g route params headers capacity b.shared⟩] }
  | own {b : Board} (i : Nat) {k : CallRecord} {sc : Scene} (hk : b.records[i]? = some k)
      (hs : Scene.OwnStep (k.beside b.shared).report.scene sc) : Step g b
        { shared := sc.shared, records := b.records.set i ((k.beside b.shared).noting sc) }
  | others {b : Board} {s : Surroundings} (hs : b.shared.Evolves s)
      (hmetrics : s.metrics = b.shared.metrics) : Step g b { b with shared := s }

/-- What the steps can lead to. -/
inductive Reachable (g : Gateway) (start : Board) : Board → Prop where
  | refl : Reachable g start start
  | tail {b b' : Board} (h : Reachable g start b) (hs : Step g b b') : Reachable g start b'

/-- How many calls are counted under labels of some sort. -/
def counted (b : Board) (p : CallLabels → Bool) : Nat := b.records.countP (·.counts p)

/-- How many calls of a method were made. -/
def routedTo (b : Board) (kind : CallKind) (method : String) : Nat :=
  b.records.countP (·.isTo kind method)

/-- How many calls of a method were unwound by a breakdown. -/
def unwoundTo (b : Board) (kind : CallKind) (method : String) : Nat :=
  b.records.countP fun k => k.isTo kind method && k.report.unwound

/-- **The invariant** of a board. -/
def Kept (auth : Option AuthSettings) (b : Board) : Prop := ∀ k ∈ b.records, k.Kept auth

variable {g : Gateway} {auth : Option AuthSettings} {b b' : Board} {μ : Metrics → Nat}
  {p : CallLabels → Bool}

/-- **A step** keeps the records in order, and what can be read off the counters in step with what
is counted. -/
theorem Step.tally (hs : Step g b b') (hstages : g.stages = Stage.standard true auth)
    (h : b.Kept auth) : b'.Kept auth ∧ ∀ {μ p}, Metrics.Tallies μ p →
      μ b'.shared.metrics + b.counted p = μ b.shared.metrics + b'.counted p := by
  cases hs with
  | @make _ route hroute params headers capacity =>
    have hnew := CallRecord.Kept.start hstages route params headers capacity b.shared
    refine ⟨?_, fun {μ p} _ => ?_⟩
    · rw [Kept, List.forall_mem_append, List.forall_mem_singleton]
      exact ⟨h, hnew⟩
    · have hnone : CallRecord.counts ⟨route, .start g route params headers capacity b.shared⟩ p =
          false := CallRecord.counts_of_underway
            (hnew.underway (Scene.start_waits g route params headers capacity b.shared).1) p
      rw [counted, counted, List.countP_append, List.countP_singleton, hnone]
      rfl
  | @own i k sc hk hs =>
    obtain ⟨hkept, hshows⟩ := ((h _ (List.mem_of_getElem? hk)).beside b.shared).own hs
    refine ⟨fun k hmem => ?_, fun {μ p} htallies => ?_⟩
    · obtain hmem | rfl := List.mem_or_eq_of_mem_set hmem
      · exact h k hmem
      · exact hkept
    · have hset := countP_set_add hk ((k.beside b.shared).noting sc) (·.counts p)
      have htally : (μ sc.shared.metrics + if k.counts p then 1 else 0) =
          μ b.shared.metrics + if ((k.beside b.shared).noting sc).counts p then 1 else 0 :=
        hshows.tally htallies
      show μ sc.shared.metrics + b.records.countP (·.counts p) = μ b.shared.metrics +
        (b.records.set i ((k.beside b.shared).noting sc)).countP (·.counts p)
      omega
  | others hs hmetrics =>
    refine ⟨h, fun {μ p} _ => ?_⟩
    show μ _ + _ = _
    rw [hmetrics]
    rfl

/-- **What the counters hold** of a run. -/
theorem tally_of_reachable {shared : Surroundings} (hstages : g.stages = Stage.standard true auth)
    (h : Reachable g { shared } b) : b.Kept auth ∧ ∀ {μ p}, Metrics.Tallies μ p →
      μ b.shared.metrics = μ shared.metrics + b.counted p := by
  induction h with
  | refl =>
    refine ⟨fun k hk => (List.not_mem_nil hk).elim, fun {μ p} _ => ?_⟩
    rfl
  | tail h hs ih =>
    obtain ⟨hkept, htally⟩ := ih
    obtain ⟨hkept', hstep⟩ := hs.tally hstages hkept
    refine ⟨hkept', fun {μ p} htallies => ?_⟩
    have hbefore := htally htallies
    have hafter := hstep htallies
    omega

/-- Every call that has been made to a method and is over is counted there, or it was unwound. -/
theorem counted_add_unwoundTo (h : b.Kept auth) (hover : ∀ k ∈ b.records, k.call.isOver = true)
    (kind : CallKind) (method : String) :
    (b.counted fun l => l.kind == kind.label && l.method == method) + b.unwoundTo kind method =
      b.routedTo kind method := by
  have hcounted : (b.counted fun l => l.kind == kind.label && l.method == method) =
      b.records.countP fun k => k.isTo kind method && !k.report.unwound :=
    List.countP_congr fun k hk => by rw [(h k hk).counts_of_isOver (hover k hk)]
  have hsplit := List.countP_eq_countP_filter_add b.records (·.isTo kind method)
    (·.report.unwound)
  rw [List.countP_filter, List.countP_filter] at hsplit
  rw [hcounted, routedTo, hsplit, unwoundTo, Nat.add_comm]

end Board

/-- **Every move of the gateway is a step of the board of its calls.** -/
theorem World.move_board {w w' : World} (hm : w.move = some w') (g : Gateway) {b : Board}
    (hcalls : w.calls = b.records.map (·.call)) (hs : w.surroundings = b.shared) :
    ∃ b', Board.Step g b b' ∧ w'.calls = b'.records.map (·.call) ∧
      w'.surroundings = b'.shared := by
  obtain ⟨j, c, c', hj, hset, hmoved⟩ := move_cases hm
  rw [hcalls, List.getElem?_map] at hj
  obtain ⟨k, hk, rfl⟩ := Option.map_eq_some_iff.1 hj
  rw [hs] at hmoved
  obtain ⟨sc, hown, rfl, hshared⟩ : ∃ sc, Scene.OwnStep (k.beside b.shared).report.scene sc ∧
      sc.call = c' ∧ sc.shared = w'.surroundings := by
    rcases hmoved with hexpire | hmove
    · exact ⟨_, .expire hexpire, rfl, rfl⟩
    · exact Call.move_own hmove
  refine ⟨_, .own j hk hown, ?_, hshared.symm⟩
  rw [hset, hcalls, List.map_set]
  rfl

/-- **Which calls are counted.** Take any run of calls to the methods of a gateway whose metrics
stage is in place, in any interleaving, from fresh counters, and let all the calls be over. Then
every call has come to an outcome, which its reply tells. The row of each label counts the calls
with such an outcome whose stages were not unwound by a breakdown; the rows of a method add up to
its latencies, and together with the calls that were unwound to the calls that were made to it. So
they add up to the calls that were made exactly if none was unwound; an unwound call is told of an
internal error, and no row counts it. -/
theorem calls_counted_iff_not_unwound {g : Gateway} {auth : Option AuthSettings}
    (hstages : g.stages = Stage.standard true auth) {shared : Surroundings}
    (hfresh : shared.metrics = {}) {b : Board} (h : Board.Reachable g { shared } b)
    (hover : ∀ k ∈ b.records, k.call.isOver = true) :
    (∀ k ∈ b.records, ∃ x, k.call.result = some (.finished x) ∧ k.report.scene.Answers x ∧
        (k.report.unwound = true → x = .error (.internal "panic" "internal error"))) ∧
      (∀ labels, b.shared.metrics.requestCount labels = b.counted (· = labels)) ∧
      ∀ kind method,
        b.shared.metrics.rowSum (CallKind.label kind) method =
          b.shared.metrics.latencyCount kind.label method ∧
        b.shared.metrics.rowSum kind.label method + b.unwoundTo kind method =
          b.routedTo kind method ∧
        (b.shared.metrics.rowSum kind.label method = b.routedTo kind method ↔
          ∀ k ∈ b.records, k.isTo kind method = true → k.report.unwound = false) := by
  obtain ⟨hkept, htally⟩ := Board.tally_of_reachable hstages h
  refine ⟨fun k hk => ?_, fun labels => ?_, fun kind method => ?_⟩
  · obtain ⟨x, hcomes, hanswers⟩ := (hkept k hk).of_isOver (hover k hk)
    exact ⟨x, hcomes.result, hanswers, hcomes.breakdown⟩
  · rw [htally (Metrics.tallies_requestCount labels), hfresh]
    exact Nat.zero_add _
  · have hrows := htally (Metrics.tallies_rowSum kind.label method)
    have hlatencies := htally (Metrics.tallies_latencyCount kind.label method)
    have hall := Board.counted_add_unwoundTo hkept hover kind method
    rw [hfresh] at hrows hlatencies
    have hempty : Metrics.rowSum {} kind.label method = 0 := rfl
    have hempty' : Metrics.latencyCount {} kind.label method = 0 := rfl
    refine ⟨by omega, by omega, ?_⟩
    have hnone : b.unwoundTo kind method = 0 ↔
        ∀ k ∈ b.records, k.isTo kind method = true → k.report.unwound = false := by
      simp [Board.unwoundTo, List.countP_eq_zero]
    rw [← hnone]
    omega

/-- A backend breaks down under a check, and a probe passes. The check is told of an internal error,
and no row counts it; the probe is counted. -/
theorem calls_counted_iff_not_unwound_kaboom :
    let g : Gateway :=
      { routes := Route.standard false, stages := Stage.standard true none, timeout := 1000 }
    let shared : Surroundings :=
      { unixTime := 0
        backend :=
          { disturbance := fun _ => { panic := some "kaboom" }, mint := fun n => ⟨toString n⟩ }
        traceIds := fun _ => "trace" }
    let check := "permgate.v1.PermissionsService/Check"
    let probe := "permgate.v1.HealthService/Liveness"
    ∃ b, Board.Reachable g { shared } b ∧ (∀ k ∈ b.records, k.call.isOver = true) ∧
      (∃ k ∈ b.records, k.isTo .unary check = true ∧
        k.call.reply = .error (.internal "panic" "internal error")) ∧
      b.shared.metrics.requestCount ⟨"unary", check, "internal", "panic"⟩ = 0 ∧
      b.shared.metrics.rowSum "unary" check ≠ b.routedTo .unary check ∧
      b.shared.metrics.rowSum "unary" probe = b.routedTo .unary probe := by
  intro g shared check probe
  let object (type id : String) : Json := .obj [("object_type", .str type), ("object_id", .str id)]
  let params : Json := .obj [("resource", object "document" "readme"),
    ("permission", .str "viewer"), ("subject", .obj [("object", object "user" "alice")])]
  have h₀ : Board.Reachable g { shared } _ := .refl
  have hcheck : Route.find? g.routes check = some ⟨check, .unary, Program.check⟩ := rfl
  have h₁ := h₀.tail (.make hcheck params {} 16)
  have h₂ := h₁.tail (.own 0 rfl (.task rfl))
  have h₃ := h₂.tail (.own 0 rfl (.task rfl))
  have h₄ := h₃.tail (.own 0 rfl (.task rfl))
  have hprobe : Route.find? g.routes probe = some ⟨probe, .unary, Program.liveness⟩ := rfl
  have h₅ := h₄.tail (.make hprobe (.obj []) {} 16)
  have h₆ := h₅.tail (.own 1 rfl (.task rfl))
  have h₇ := h₆.tail (.own 1 rfl (.task rfl))
  have h₈ := h₇.tail (.own 1 rfl (.task rfl))
  have h₉ := h₈.tail (.own 1 rfl (.task rfl))
  have hstages : g.stages = Stage.standard true none := rfl
  obtain ⟨hreplies, hlabels, hmethods⟩ :=
    calls_counted_iff_not_unwound hstages rfl h₉ (List.all_eq_true.1 rfl)
  obtain ⟨x, hresult, -, hunwound⟩ := hreplies _ List.mem_cons_self
  obtain ⟨-, -, hchecks⟩ := hmethods .unary check
  obtain ⟨-, -, hprobes⟩ := hmethods .unary probe
  refine ⟨_, h₉, List.all_eq_true.1 rfl, ⟨_, List.mem_cons_self, rfl, ?_⟩, ?_, fun hall => ?_,
    hprobes.2 fun k hk hto => ?_⟩
  · rw [Call.reply_of_result hresult, hunwound rfl]
    rfl
  · rw [hlabels]
    rfl
  · have hcalm := hchecks.1 hall _ List.mem_cons_self rfl
    cases hcalm
  · obtain rfl | hk := List.mem_cons.1 hk
    · cases hto
    · rw [List.mem_singleton.1 hk]
      rfl

end RelationGate
