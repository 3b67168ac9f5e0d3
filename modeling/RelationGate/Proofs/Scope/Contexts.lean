import RelationGate.Proofs.Scope.Tokens

/-!
# Contexts are canceled exactly with their tokens

What a context was made from is told by the operations alone (`ContextOperation.origins`): it has a
token of its own, shares that of an earlier context, or has one opened below that of an earlier
context. From this alone it follows which contexts share a token (`SharesToken`) and of which the
token is below another one (`Descends`), without a look at any token.

The handles of the contexts agree with that (`ContextsOver.Follows`, a step for each sort of
operation): two contexts share a token exactly if they are handles to one, and descend from each
other exactly if their tokens do. So whether a context is canceled can be told from the operations,
over any library of tokens that does what is documented.

Main result: `cancellation_exact`.
-/

namespace RelationGate

/-! ## What the operations tell -/

namespace ContextOperation

/-- What a context was made from. -/
inductive Origin where
  /-- It has a token of its own. -/
  | own
  /-- It has the token of another context. -/
  | shared (node : Nat)
  /-- It has a token below that of another context. -/
  | below (node : Nat)

/-- What an operation makes a context from, if it makes one. -/
def origin? : ContextOperation → Option Origin
  | new => some .own
  | clone node | withToken node | ofCall node => some (.shared node)
  | child node => some (.below node)
  | cancel _ => none

/-- What the contexts were made from, in the order in which they were made. -/
def origins (operations : List ContextOperation) : List Origin := operations.filterMap origin?

/-- The operation is on one of the first `n` contexts, if it is on any. -/
def Within (n : Nat) : ContextOperation → Prop
  | new => True
  | clone node | child node | withToken node | ofCall node | cancel node => node < n

instance (n : Nat) : DecidablePred (Within n)
  | new => .isTrue trivial
  | clone node | child node | withToken node | ofCall node | cancel node =>
    inferInstanceAs (Decidable (node < n))

/-- Every operation is on a context that is there. -/
inductive Legal : List ContextOperation → Prop where
  | nil : Legal []
  | snoc {operations : List ContextOperation} {op : ContextOperation} (h : Legal operations)
      (hop : op.Within (origins operations).length) : Legal (operations ++ [op])

/-- Two contexts share a token: one was made with the token of the other, at once or by way of
further contexts. -/
def SharesToken (operations : List ContextOperation) : Nat → Nat → Prop :=
  Relation.EqvGen fun node other => (origins operations)[node]? = some (.shared other)

/-- The token of the first context was opened below that of the second one. -/
def OpenedBelow (operations : List ContextOperation) (node parent : Nat) : Prop :=
  ∃ made other, SharesToken operations node made ∧
    (origins operations)[made]? = some (.below other) ∧ SharesToken operations other parent

/-- The token of the second context is an ancestor of that of the first one. -/
def Descends (operations : List ContextOperation) : Nat → Nat → Prop :=
  Relation.TransGen (OpenedBelow operations)

variable {operations later : List ContextOperation} {op : ContextOperation} {i j : Nat}

theorem origins_append (operations later : List ContextOperation) :
    origins (operations ++ later) = origins operations ++ origins later := List.filterMap_append

theorem origins_snoc_of_some {origin : Origin} (h : op.origin? = some origin) :
    origins (operations ++ [op]) = origins operations ++ [origin] := by
  simp [origins, h]

theorem origins_append_of_some {origin : Origin} (h : (origins operations)[i]? = some origin) :
    (origins (operations ++ later))[i]? = some origin := by
  rw [origins_append, List.getElem?_append_left (List.getElem?_eq_some_iff.1 h).1, h]

theorem origins_cancel : origins (operations ++ [.cancel j]) = origins operations := by
  simp [origins, origin?]

theorem sharesToken_cancel : SharesToken (operations ++ [.cancel j]) = SharesToken operations := by
  unfold SharesToken
  rw [origins_cancel]

theorem descends_cancel : Descends (operations ++ [.cancel j]) = Descends operations := by
  unfold Descends OpenedBelow
  rw [sharesToken_cancel, origins_cancel]

/-- Contexts that share a token do so whatever is done later. -/
theorem SharesToken.append (h : SharesToken operations i j) :
    SharesToken (operations ++ later) i j :=
  Relation.EqvGen.mono (fun _ _ hmade => origins_append_of_some hmade) i j h

theorem OpenedBelow.append (h : OpenedBelow operations i j) :
    OpenedBelow (operations ++ later) i j := by
  obtain ⟨made, other, hmade, horigin, hother⟩ := h
  exact ⟨made, other, hmade.append, origins_append_of_some horigin, hother.append⟩

theorem Descends.append (h : Descends operations i j) : Descends (operations ++ later) i j :=
  Relation.TransGen.mono (fun _ _ hbelow => OpenedBelow.append hbelow) i j h

theorem Legal.lt_of_mem (h : Legal operations) (hmem : .cancel i ∈ operations) :
    i < (origins operations).length := by
  induction h with
  | nil => cases hmem
  | @snoc operations op h hop ih =>
    rw [origins_append, List.length_append]
    obtain hmem | hmem := List.mem_append.1 hmem
    · exact Nat.lt_add_right _ (ih hmem)
    · obtain rfl := List.mem_singleton.1 hmem
      exact Nat.lt_add_right _ hop

end ContextOperation

/-! ## Handles -/

open ContextOperation TokenCall

namespace ContextsOver

variable {σ : Type} [TokenLibrary σ]

/-- The contexts after some operations. -/
def after (σ : Type) [TokenLibrary σ] (operations : List ContextOperation) : ContextsOver σ :=
  operations.foldl perform {}

theorem after_snoc (σ : Type) [TokenLibrary σ] (operations : List ContextOperation)
    (op : ContextOperation) : after σ (operations ++ [op]) = (after σ operations).perform op :=
  List.foldl_append

/-- The context is a handle to the token. -/
def Holds (c : ContextsOver σ) (node : Nat) (token : ScopeId) : Prop :=
  c.handles[node]? = some token

theorem Holds.unique {c : ContextsOver σ} {node : Nat} {token token' : ScopeId}
    (h : c.Holds node token) (h' : c.Holds node token') : token = token' :=
  Option.some.inj (h.symm.trans h')

theorem Holds.scopeOf {c : ContextsOver σ} {node : Nat} {token : ScopeId} (h : c.Holds node token) :
    c.scopeOf node = token := by
  rw [ContextsOver.scopeOf, h]
  rfl

/-- **The handles agree with the operations**, when these calls have been made to the library: every
context holds a token that has been opened, every token is held by a context, and what the
operations tell of two contexts is so of their tokens. -/
structure Follows (c : ContextsOver σ) (operations : List ContextOperation)
    (calls : List TokenCall) : Prop where
  sound : Sound calls
  tokens : c.tokens = TokenCall.after σ calls
  length : c.handles.length = (origins operations).length
  opened : ∀ {node token}, c.Holds node token → token < (parents calls).length
  held : ∀ {token}, token < (parents calls).length → ∃ node, c.Holds node token
  shared : ∀ {node other}, (origins operations)[node]? = some (.shared other) →
    ∃ token, c.Holds node token ∧ c.Holds other token
  shares : ∀ {node other token}, c.Holds node token → c.Holds other token →
    SharesToken operations node other
  below : ∀ {node other}, (origins operations)[node]? = some (.below other) →
    ∃ token parent, c.Holds node token ∧ c.Holds other parent ∧ IsChild calls token parent
  descends : ∀ {token parent}, IsChild calls token parent →
    ∃ node other, (origins operations)[node]? = some (.below other) ∧ c.Holds node token ∧
      c.Holds other parent
  canceled : ∀ {token}, .cancel token ∈ calls ↔
    ∃ node, .cancel node ∈ operations ∧ c.Holds node token

namespace Follows

variable {c : ContextsOver σ} {operations : List ContextOperation} {calls : List TokenCall}
  {op : ContextOperation} {origin : Origin} {i j n : Nat} {token : ScopeId}

theorem exists_holds (h : c.Follows operations calls) (hi : i < (origins operations).length) :
    ∃ token, c.Holds i token := by
  rw [← h.length] at hi
  exact ⟨_, List.getElem?_eq_getElem hi⟩

theorem nil : Follows ({} : ContextsOver σ) [] [] where
  sound := .nil
  tokens := rfl
  length := rfl
  opened := nofun
  held := nofun
  shared := nofun
  shares := nofun
  below := nofun
  descends := nofun
  canceled := by simp

/-! ### One operation -/

theorem holds_snoc_iff {tokens : σ} : Holds ⟨tokens, c.handles ++ [token]⟩ i n ↔
    c.Holds i n ∨ i = c.handles.length ∧ token = n := getElem?_snoc_eq_some_iff

/-- **A context is made with the token of another one.** -/
theorem share (h : c.Follows operations calls) (hlegal : Legal operations)
    (horigin : op.origin? = some (.shared n)) (hn : n < (origins operations).length) :
    (c.share n).Follows (operations ++ [op]) calls := by
  obtain ⟨token, htoken⟩ := h.exists_holds hn
  have hshare : c.share n = ⟨c.tokens, c.handles ++ [token]⟩ := by
    rw [ContextsOver.share, htoken.scopeOf]
  have horigins : origins (operations ++ [op]) = origins operations ++ [.shared n] :=
    origins_snoc_of_some horigin
  have hkept {node token'} (hholds : c.Holds node token') : (c.share n).Holds node token' := by
    rw [hshare]
    exact holds_snoc_iff.2 (.inl hholds)
  have hlast : (c.share n).Holds c.handles.length token := by
    rw [hshare]
    exact holds_snoc_iff.2 (.inr ⟨rfl, rfl⟩)
  have hmade : SharesToken (operations ++ [op]) c.handles.length n := by
    refine .rel _ _ ?_
    rw [horigins, h.length, List.getElem?_concat_length]
  -- Whoever holds a token shares it with a context that did so before.
  have hbefore {node token'} (hholds : (c.share n).Holds node token') :
      ∃ old, c.Holds old token' ∧ SharesToken (operations ++ [op]) node old := by
    rw [hshare, holds_snoc_iff] at hholds
    obtain hholds | ⟨rfl, rfl⟩ := hholds
    · exact ⟨node, hholds, .refl _⟩
    · exact ⟨n, htoken, hmade⟩
  constructor
  case sound => exact h.sound
  case tokens => exact h.tokens
  case length => simp [hshare, horigins, h.length]
  case opened =>
    intro node token' hholds
    obtain ⟨old, hold, -⟩ := hbefore hholds
    exact h.opened hold
  case held =>
    intro token' hlt
    obtain ⟨node, hnode⟩ := h.held hlt
    exact ⟨node, hkept hnode⟩
  case shared =>
    intro node other hnode
    rw [horigins, getElem?_snoc_eq_some_iff] at hnode
    obtain hnode | ⟨rfl, heq⟩ := hnode
    · obtain ⟨token', hnode, hother⟩ := h.shared hnode
      exact ⟨token', hkept hnode, hkept hother⟩
    · cases heq
      rw [← h.length]
      exact ⟨token, hlast, hkept htoken⟩
  case shares =>
    intro node other token' hnode hother
    obtain ⟨old, hold, hshares⟩ := hbefore hnode
    obtain ⟨old', hold', hshares'⟩ := hbefore hother
    exact (hshares.trans _ _ _ (h.shares hold hold').append).trans _ _ _ (hshares'.symm _ _)
  case below =>
    intro node other hnode
    rw [horigins, getElem?_snoc_eq_some_iff] at hnode
    obtain hnode | ⟨rfl, heq⟩ := hnode
    · obtain ⟨token', parent, hnode, hother, hchild⟩ := h.below hnode
      exact ⟨token', parent, hkept hnode, hkept hother, hchild⟩
    · cases heq
  case descends =>
    intro token' parent hchild
    obtain ⟨node, other, hnode, hholds, hother⟩ := h.descends hchild
    exact ⟨node, other, origins_append_of_some hnode, hkept hholds, hkept hother⟩
  case canceled =>
    intro token'
    rw [h.canceled]
    constructor
    · rintro ⟨node, hmem, hnode⟩
      exact ⟨node, List.mem_append_left _ hmem, hkept hnode⟩
    · rintro ⟨node, hmem, hnode⟩
      obtain hmem | hmem := List.mem_append.1 hmem
      · rw [hshare, holds_snoc_iff] at hnode
        obtain hnode | ⟨rfl, -⟩ := hnode
        · exact ⟨node, hmem, hnode⟩
        · rw [h.length] at hmem
          exact absurd (hlegal.lt_of_mem hmem) (Nat.lt_irrefl _)
      · rw [← List.mem_singleton.1 hmem] at horigin
        cases horigin

/-- **A context is made with a token that is opened for it**, on its own or below another one. -/
theorem opens (h : c.Follows operations calls) (hlegal : Legal operations) (op : ContextOperation)
    (horigin : op.origin? = some origin) (call : TokenCall)
    (hcall : call.Within (parents calls).length)
    (hnext : TokenLibrary.next c.tokens = (parents calls).length)
    (hopening : (origin = .own ∧ call.opening? = some none) ∨
      ∃ other parent, origin = .below other ∧ c.Holds other parent ∧
        call.opening? = some (some parent)) :
    Follows ⟨call.make c.tokens, c.handles ++ [TokenLibrary.next c.tokens]⟩ (operations ++ [op])
      (calls ++ [call]) := by
  have horigins : origins (operations ++ [op]) = origins operations ++ [origin] :=
    origins_snoc_of_some horigin
  obtain ⟨parent?, hparent?⟩ : ∃ parent?, call.opening? = some parent? := by
    obtain ⟨-, hopening⟩ | ⟨-, parent, -, -, hopening⟩ := hopening
    · exact ⟨_, hopening⟩
    · exact ⟨_, hopening⟩
  have hcount : (parents (calls ++ [call])).length = (parents calls).length + 1 := by
    simp [parents_snoc, hparent?]
  have hcalls {id : ScopeId} : .cancel id ∈ calls ++ [call] ↔ .cancel id ∈ calls := by
    rw [List.mem_append, List.mem_singleton, or_iff_left]
    rintro rfl
    cases hparent?
  have hchild {id parent : ScopeId} (hchild : IsChild calls id parent) :
      IsChild (calls ++ [call]) id parent := isChild_snoc_iff.2 (.inl hchild)
  rw [hnext]
  generalize htokens : call.make c.tokens = tokens
  have hkept {node token'} (hholds : c.Holds node token') :
      Holds ⟨tokens, c.handles ++ [(parents calls).length]⟩ node token' :=
    holds_snoc_iff.2 (.inl hholds)
  have hlast : Holds ⟨tokens, c.handles ++ [(parents calls).length]⟩ c.handles.length
      (parents calls).length := holds_snoc_iff.2 (.inr ⟨rfl, rfl⟩)
  constructor
  case sound => exact h.sound.snoc hcall
  case tokens => rw [TokenCall.after_snoc, ← h.tokens, htokens]
  case length => simp [horigins, h.length]
  case opened =>
    intro node token' hholds
    rw [hcount]
    obtain hholds | ⟨-, rfl⟩ := holds_snoc_iff.1 hholds
    · exact Nat.lt_succ_of_lt (h.opened hholds)
    · exact Nat.lt_succ_self _
  case held =>
    intro token' hlt
    rw [hcount] at hlt
    obtain hlt | rfl := Nat.lt_or_eq_of_le (Nat.le_of_lt_succ hlt)
    · obtain ⟨node, hnode⟩ := h.held hlt
      exact ⟨node, hkept hnode⟩
    · exact ⟨_, hlast⟩
  case shared =>
    intro node other hnode
    rw [horigins, getElem?_snoc_eq_some_iff] at hnode
    obtain hnode | ⟨rfl, rfl⟩ := hnode
    · obtain ⟨token', hnode, hother⟩ := h.shared hnode
      exact ⟨token', hkept hnode, hkept hother⟩
    · obtain ⟨heq, -⟩ | ⟨_, _, heq, -⟩ := hopening
      · cases heq
      · cases heq
  case shares =>
    intro node other token' hnode hother
    -- The new token is held by nobody else.
    obtain hnode | ⟨rfl, rfl⟩ := holds_snoc_iff.1 hnode
    · obtain hother | ⟨rfl, rfl⟩ := holds_snoc_iff.1 hother
      · exact (h.shares hnode hother).append
      · exact absurd (h.opened hnode) (Nat.lt_irrefl _)
    · obtain hother | ⟨rfl, -⟩ := holds_snoc_iff.1 hother
      · exact absurd (h.opened hother) (Nat.lt_irrefl _)
      · exact .refl _
  case below =>
    intro node other hnode
    rw [horigins, getElem?_snoc_eq_some_iff] at hnode
    obtain hnode | ⟨rfl, rfl⟩ := hnode
    · obtain ⟨token', parent, hnode, hother, hbelow⟩ := h.below hnode
      exact ⟨token', parent, hkept hnode, hkept hother, hchild hbelow⟩
    · obtain ⟨heq, -⟩ | ⟨_, parent, heq, hparent, hopening⟩ := hopening
      · cases heq
      · cases heq
        rw [← h.length]
        exact ⟨_, parent, hlast, hkept hparent, isChild_snoc_iff.2 (.inr ⟨rfl, hopening⟩)⟩
  case descends =>
    intro token' parent hbelow
    obtain hbelow | ⟨rfl, hcalled⟩ := isChild_snoc_iff.1 hbelow
    · obtain ⟨node, other, hnode, hholds, hother⟩ := h.descends hbelow
      exact ⟨node, other, origins_append_of_some hnode, hkept hholds, hkept hother⟩
    · obtain ⟨-, hopening⟩ | ⟨other, parent', rfl, hparent, hopening⟩ := hopening
      · cases hcalled.symm.trans hopening
      · cases hcalled.symm.trans hopening
        refine ⟨c.handles.length, other, ?_, hlast, hkept hparent⟩
        rw [horigins, h.length, List.getElem?_concat_length]
  case canceled =>
    intro token'
    rw [hcalls, h.canceled]
    constructor
    · rintro ⟨node, hmem, hnode⟩
      exact ⟨node, List.mem_append_left _ hmem, hkept hnode⟩
    · rintro ⟨node, hmem, hnode⟩
      obtain hmem | hmem := List.mem_append.1 hmem
      · obtain hnode | ⟨rfl, -⟩ := holds_snoc_iff.1 hnode
        · exact ⟨node, hmem, hnode⟩
        · rw [h.length] at hmem
          exact absurd (hlegal.lt_of_mem hmem) (Nat.lt_irrefl _)
      · rw [← List.mem_singleton.1 hmem] at horigin
        cases horigin

/-- **The token of a context is canceled.** -/
theorem cancel (h : c.Follows operations calls) (htoken : c.Holds n token) :
    (c.cancel n).Follows (operations ++ [.cancel n]) (calls ++ [.cancel token]) := by
  have horigins : origins (operations ++ [.cancel n]) = origins operations := origins_cancel
  have hparents : parents (calls ++ [.cancel token]) = parents calls := by
    simp [parents, opening?]
  have hchild {id parent : ScopeId} :
      IsChild (calls ++ [.cancel token]) id parent ↔ IsChild calls id parent := by
    rw [IsChild, hparents, IsChild]
  constructor
  case sound => exact h.sound.snoc (h.opened htoken)
  case tokens =>
    rw [TokenCall.after_snoc, ← h.tokens, ContextsOver.cancel, htoken.scopeOf]
    rfl
  case length => rw [horigins]; exact h.length
  case opened => rw [hparents]; exact h.opened
  case held => rw [hparents]; exact h.held
  case shared => rw [horigins]; exact h.shared
  case shares => exact fun hnode hother => (h.shares hnode hother).append
  case below =>
    intro node other hnode
    rw [horigins] at hnode
    obtain ⟨token', parent, hnode, hother, hbelow⟩ := h.below hnode
    exact ⟨token', parent, hnode, hother, hchild.2 hbelow⟩
  case descends =>
    intro token' parent hbelow
    rw [horigins]
    exact h.descends (hchild.1 hbelow)
  case canceled =>
    intro token'
    simp only [List.mem_append, List.mem_singleton, h.canceled, TokenCall.cancel.injEq,
      ContextOperation.cancel.injEq]
    constructor
    · rintro (⟨node, hmem, hnode⟩ | rfl)
      · exact ⟨node, .inl hmem, hnode⟩
      · exact ⟨n, .inr rfl, htoken⟩
    · rintro ⟨node, hmem | rfl, hnode⟩
      · exact .inl ⟨node, hmem, hnode⟩
      · exact .inr (htoken.unique hnode ▸ rfl)

/-- **One operation.** -/
theorem perform (documented : TokenLibrary.Documented σ) (h : c.Follows operations calls)
    (hlegal : Legal operations) (hop : op.Within (origins operations).length) :
    ∃ calls', (c.perform op).Follows (operations ++ [op]) calls' := by
  have hnext : TokenLibrary.next c.tokens = (parents calls).length := by
    rw [h.tokens]
    exact documented.next_eq h.sound
  cases op with
  | new => exact ⟨_, h.opens hlegal .new rfl .openRoot trivial hnext (.inl ⟨rfl, rfl⟩)⟩
  | clone node | withToken node | ofCall node => exact ⟨_, h.share hlegal rfl hop⟩
  | child node =>
    obtain ⟨token, htoken⟩ := h.exists_holds hop
    have hmade := h.opens hlegal (.child node) rfl (.openBelow token) (h.opened htoken) hnext
      (.inr ⟨node, token, rfl, htoken, rfl⟩)
    rw [← htoken.scopeOf] at hmade
    exact ⟨_, hmade⟩
  | cancel node =>
    obtain ⟨token, htoken⟩ := h.exists_holds hop
    exact ⟨_, h.cancel htoken⟩

/-! ### All operations -/

theorem after (documented : TokenLibrary.Documented σ) (hlegal : Legal operations) :
    ∃ calls, (ContextsOver.after σ operations).Follows operations calls := by
  induction hlegal with
  | nil => exact ⟨[], .nil⟩
  | snoc hlegal hop ih =>
    obtain ⟨calls, h⟩ := ih
    rw [after_snoc]
    exact h.perform documented hlegal hop

/-- Contexts share a token exactly if they hold the same one. -/
theorem sharesToken_iff (h : c.Follows operations calls) (hi : c.Holds i token) :
    SharesToken operations i j ↔ c.Holds j token := by
  refine ⟨fun hshares => ?_, fun hj => h.shares hi hj⟩
  have hsame : c.handles[i]? = c.handles[j]? := by
    clear hi
    induction hshares with
    | rel node other hmade =>
      obtain ⟨token, hnode, hother⟩ := h.shared hmade
      exact hnode.trans hother.symm
    | refl => rfl
    | symm _ _ _ ih => exact ih.symm
    | trans _ _ _ _ _ ih ih' => exact ih.trans ih'
  exact hsame.symm.trans hi

/-- A token was opened below that of another context exactly if it is a child of what that holds. -/
theorem openedBelow_iff (h : c.Follows operations calls) : OpenedBelow operations i j ↔
    ∃ token parent, c.Holds i token ∧ c.Holds j parent ∧ IsChild calls token parent := by
  constructor
  · rintro ⟨node, other, hnode, hmade, hother⟩
    obtain ⟨token, parent, hholds, hparent, hchild⟩ := h.below hmade
    exact ⟨token, parent, (h.sharesToken_iff hholds).1 (hnode.symm _ _),
      (h.sharesToken_iff hparent).1 hother, hchild⟩
  · rintro ⟨token, parent, hi, hj, hchild⟩
    obtain ⟨node, other, hmade, hnode, hother⟩ := h.descends hchild
    exact ⟨node, other, h.shares hi hnode, hmade, h.shares hother hj⟩

/-- Contexts descend from each other exactly as their tokens do. -/
theorem descends_iff (h : c.Follows operations calls) : Descends operations i j ↔
    ∃ token ancestor, c.Holds i token ∧ c.Holds j ancestor ∧
      Relation.TransGen (IsChild calls) token ancestor := by
  constructor
  · intro hline
    induction hline with
    | single hbelow =>
      obtain ⟨token, parent, hi, hj, hchild⟩ := h.openedBelow_iff.1 hbelow
      exact ⟨token, parent, hi, hj, .single hchild⟩
    | tail _ hbelow ih =>
      obtain ⟨token, ancestor, hi, hancestor, hline⟩ := ih
      obtain ⟨ancestor', parent, hancestor', hj, hchild⟩ := h.openedBelow_iff.1 hbelow
      cases hancestor.unique hancestor'
      exact ⟨token, parent, hi, hj, hline.tail hchild⟩
  · rintro ⟨token, ancestor, hi, hj, hline⟩
    induction hline generalizing j with
    | single hchild => exact .single (h.openedBelow_iff.2 ⟨_, _, hi, hj, hchild⟩)
    | tail _ hchild ih =>
      -- Whatever lies on the line is held by a context.
      obtain ⟨node, hnode⟩ := h.held hchild.lt_length
      exact (ih hnode).tail (h.openedBelow_iff.2 ⟨_, _, hnode, hj, hchild⟩)

/-- **Whether a context is canceled** is told by the operations. -/
theorem isCanceled_iff (documented : TokenLibrary.Documented σ) (h : c.Follows operations calls)
    (hi : i < (origins operations).length) : c.isCanceled i = true ↔
      ∃ j, .cancel j ∈ operations ∧ (SharesToken operations i j ∨ Descends operations i j) := by
  obtain ⟨token, htoken⟩ := h.exists_holds hi
  rw [isCanceled, htoken.scopeOf, h.tokens, documented.canceled_iff h.sound]
  constructor
  · rintro ⟨ancestor, hmem, hline⟩
    obtain ⟨j, hj, hancestor⟩ := h.canceled.1 hmem
    refine ⟨j, hj, ?_⟩
    obtain rfl | hline := Relation.reflTransGen_iff_eq_or_transGen.1 hline
    · exact .inl (h.shares htoken hancestor)
    · exact .inr (h.descends_iff.2 ⟨_, _, htoken, hancestor, hline⟩)
  · rintro ⟨j, hj, hshares | hdescends⟩
    · have hsame := (h.sharesToken_iff htoken).1 hshares
      exact ⟨token, h.canceled.2 ⟨j, hj, hsame⟩, .refl⟩
    · obtain ⟨token', ancestor, htoken', hancestor, hline⟩ := h.descends_iff.1 hdescends
      cases htoken.unique htoken'
      exact ⟨ancestor, h.canceled.2 ⟨j, hj, hancestor⟩, hline.to_reflTransGen⟩

/-- A context is not below what is below it. -/
theorem not_related_of_descends (h : c.Follows operations calls) (hline : Descends operations j i) :
    ¬(SharesToken operations i j ∨ Descends operations i j) := by
  obtain ⟨token, ancestor, hj, hi, hline⟩ := h.descends_iff.1 hline
  have hlt : ancestor < token := h.sound.lt_of_transGen hline
  rintro (hshares | hdescends)
  · cases hj.unique ((h.sharesToken_iff hi).1 hshares)
    exact Nat.lt_irrefl _ hlt
  · obtain ⟨ancestor', token', hi', hj', hback⟩ := h.descends_iff.1 hdescends
    cases hi.unique hi'
    cases hj.unique hj'
    exact Nat.lt_asymm hlt (h.sound.lt_of_transGen hback)

/-- Of two contexts with tokens below the same one neither is below the other. -/
theorem not_descends_of_openedBelow (h : c.Follows operations calls)
    (hi : OpenedBelow operations i n) (hj : OpenedBelow operations j n) :
    ¬Descends operations i j := by
  obtain ⟨token, parent, hi, hn, hchild⟩ := h.openedBelow_iff.1 hi
  obtain ⟨sibling, parent', hj, hn', hchild'⟩ := h.openedBelow_iff.1 hj
  cases hn.unique hn'
  have hlt : parent < sibling := h.sound.parent_lt hchild'
  rintro hdescends
  obtain ⟨token', sibling', hi', hj', hline⟩ := h.descends_iff.1 hdescends
  cases hi.unique hi'
  cases hj.unique hj'
  -- The line goes through the one parent, and so ends at it or above it.
  obtain ⟨above, habove, hline⟩ := Relation.TransGen.head'_iff.1 hline
  cases Option.some.inj (Option.some.inj (hchild.symm.trans habove))
  obtain rfl | hline := Relation.reflTransGen_iff_eq_or_transGen.1 hline
  · exact Nat.lt_irrefl _ hlt
  · exact Nat.lt_asymm hlt (h.sound.lt_of_transGen hline)

end Follows

/-- **Whether a context is canceled, and what a cancelation reaches.** -/
structure Exact (σ : Type) [TokenLibrary σ] (operations : List ContextOperation) : Prop where
  /-- A context is canceled exactly if cancel was called, be it before the context was made or
  after, on one that shares its token or has an ancestor of its token. -/
  canceled_iff : ∀ i < (origins operations).length, (after σ operations).isCanceled i = true ↔
    ∃ j, .cancel j ∈ operations ∧ (SharesToken operations i j ∨ Descends operations i j)
  /-- One more call reaches those that share the token or descend from it, and nobody else. -/
  reaches_iff : ∀ i < (origins operations).length, ∀ j < (origins operations).length,
    (((after σ operations).cancel j).isCanceled i = true ↔
      (after σ operations).isCanceled i = true ∨
        SharesToken operations i j ∨ Descends operations i j)
  /-- So it does not reach what the context descends from. -/
  spares_above : ∀ {i j}, Descends operations j i →
    ¬(SharesToken operations i j ∨ Descends operations i j)
  /-- Nor its siblings, with tokens of their own below the same one. -/
  spares_beside : ∀ {i j parent},
    OpenedBelow operations i parent → OpenedBelow operations j parent →
      ¬SharesToken operations i j → ¬(SharesToken operations i j ∨ Descends operations i j)
  /-- A canceled context remains so, whatever is done later. -/
  lasts : ∀ later, Legal (operations ++ later) → ∀ i < (origins operations).length,
    (after σ operations).isCanceled i = true → (after σ (operations ++ later)).isCanceled i = true

/-- **Cancellation scopes are exact**, for every sequence of operations on contexts and with it at
every point of it, over every library of tokens that does what is documented. -/
theorem cancellation_exact {σ : Type} [TokenLibrary σ] (documented : TokenLibrary.Documented σ)
    {operations : List ContextOperation} (hlegal : Legal operations) : Exact σ operations := by
  obtain ⟨calls, h⟩ := Follows.after documented hlegal
  have hcanceled {i : Nat} (hi : i < (origins operations).length) :
      (after σ operations).isCanceled i = true ↔
        ∃ j, .cancel j ∈ operations ∧ (SharesToken operations i j ∨ Descends operations i j) :=
    h.isCanceled_iff documented hi
  refine ⟨fun i hi => hcanceled hi, fun i hi j hj => ?_,
    fun hline => h.not_related_of_descends hline, fun hi hj hapart => ?_,
    fun later hlater i hi hbefore => ?_⟩
  · obtain ⟨token, htoken⟩ := h.exists_holds hj
    rw [(h.cancel htoken).isCanceled_iff documented (by rwa [origins_cancel]), hcanceled hi,
      sharesToken_cancel, descends_cancel]
    simp only [List.mem_append, List.mem_singleton, ContextOperation.cancel.injEq]
    constructor
    · rintro ⟨k, hmem | rfl, hrelated⟩
      · exact .inl ⟨k, hmem, hrelated⟩
      · exact .inr hrelated
    · rintro (⟨k, hmem, hrelated⟩ | hrelated)
      · exact ⟨k, .inl hmem, hrelated⟩
      · exact ⟨j, .inr rfl, hrelated⟩
  · exact not_or.2 ⟨hapart, h.not_descends_of_openedBelow hi hj⟩
  · obtain ⟨calls', h'⟩ := Follows.after documented hlater
    have hi' : i < (origins (operations ++ later)).length := by
      rw [origins_append, List.length_append]
      exact Nat.lt_add_right _ hi
    obtain ⟨j, hmem, hrelated⟩ := (hcanceled hi).1 hbefore
    exact (h'.isCanceled_iff documented hi').2
      ⟨j, List.mem_append_left _ hmem, hrelated.imp .append .append⟩

/-- A clone of a child is canceled: so are the child and its own child, which is made after that,
but neither the parent nor the sibling, nor the call that shares the token of the sibling. -/
theorem cancellation_exact_family :
    let operations : List ContextOperation :=
      [.new, .child 0, .child 0, .clone 1, .cancel 3, .child 1, .ofCall 2]
    TokenLibrary.Documented ScopeForest ∧ Legal operations ∧
      (after ScopeForest operations).states = [false, true, false, true, true, false] ∧
      Exact ScopeForest operations := by
  intro operations
  have hlegal : Legal operations :=
    .snoc (.snoc (.snoc (.snoc (.snoc (.snoc (.snoc .nil (by decide)) (by decide)) (by decide))
      (by decide)) (by decide)) (by decide)) (by decide)
  exact ⟨ScopeForest.documented, hlegal, by decide,
    cancellation_exact ScopeForest.documented hlegal⟩

end ContextsOver

end RelationGate
