import Mathlib.Data.List.Basic
import Mathlib.Logic.Relation
import RelationGate.Scope

/-!
# Cancellation tokens

What is known of a library of cancellation tokens is what its documentation promises
(`TokenLibrary.Documented`): a token is canceled by a call to cancel it, and with its parent,
whether it was opened before its parent was canceled or after; and nothing else cancels it. Each
promise is about one token and its parent at most. That it is the calls on a token and its ancestors
that count follows by induction along the parents (`TokenLibrary.Documented.canceled_iff`).

The forest of scopes keeps these promises (`ScopeForest.documented`). It cancels by one pass through
the scopes in the order in which they were opened, and that reaches everything below, since a parent
comes before its children.
-/

namespace RelationGate

theorem getElem?_snoc_eq_some_iff {α : Type} {l : List α} {a b : α} {i : Nat} :
    (l ++ [a])[i]? = some b ↔ l[i]? = some b ∨ i = l.length ∧ a = b := by
  grind

/-! ## Calls to a library -/

/-- A call to a library of tokens. -/
inductive TokenCall where
  | openRoot
  | openBelow (parent : ScopeId)
  | cancel (id : ScopeId)

namespace TokenCall

/-- What a call opens a token below, if it opens one. -/
def opening? : TokenCall → Option (Option ScopeId)
  | openRoot => some none
  | openBelow parent => some (some parent)
  | cancel _ => none

/-- What the tokens were opened below, in the order in which they were opened. -/
def parents (calls : List TokenCall) : List (Option ScopeId) := calls.filterMap opening?

/-- The call is about one of the first `n` tokens, if it is about any. -/
def Within (n : Nat) : TokenCall → Prop
  | openRoot => True
  | openBelow parent => parent < n
  | cancel id => id < n

/-- Every call is about a token that is there. -/
inductive Sound : List TokenCall → Prop where
  | nil : Sound []
  | snoc {calls : List TokenCall} {call : TokenCall} (h : Sound calls)
      (hcall : call.Within (parents calls).length) : Sound (calls ++ [call])

/-- The first token was opened below the second one. -/
def IsChild (calls : List TokenCall) (id parent : ScopeId) : Prop :=
  (parents calls)[id]? = some (some parent)

/-- The tokens after a call. -/
def make {σ : Type} [TokenLibrary σ] (tokens : σ) : TokenCall → σ
  | openRoot => TokenLibrary.openRoot tokens
  | openBelow parent => TokenLibrary.openBelow tokens parent
  | cancel id => TokenLibrary.cancel tokens id

/-- The tokens after some calls. -/
def after (σ : Type) [TokenLibrary σ] (calls : List TokenCall) : σ :=
  calls.foldl make TokenLibrary.unopened

variable {calls : List TokenCall} {call : TokenCall} {id parent : ScopeId}

theorem after_snoc (σ : Type) [TokenLibrary σ] (calls : List TokenCall) (call : TokenCall) :
    after σ (calls ++ [call]) = make (after σ calls) call := List.foldl_append

theorem parents_snoc (calls : List TokenCall) (call : TokenCall) :
    parents (calls ++ [call]) = parents calls ++ call.opening?.toList := by
  cases call with
  | _ => simp [parents, opening?]

theorem isChild_snoc_iff : IsChild (calls ++ [call]) id parent ↔
    IsChild calls id parent ∨ id = (parents calls).length ∧ call.opening? = some (some parent) := by
  unfold IsChild
  rw [parents_snoc]
  cases call.opening? with
  | none => simp
  | some opening => rw [Option.toList_some, getElem?_snoc_eq_some_iff, Option.some_inj]

theorem IsChild.lt_length (h : IsChild calls id parent) : id < (parents calls).length :=
  (List.getElem?_eq_some_iff.1 h).1

/-- A parent is opened before its children. -/
theorem Sound.parent_lt (h : Sound calls) (hchild : IsChild calls id parent) : parent < id := by
  induction h with
  | nil => cases hchild
  | @snoc calls call h hcall ih =>
    obtain hchild | ⟨rfl, hopening⟩ := isChild_snoc_iff.1 hchild
    · exact ih hchild
    · cases call with
      | openBelow p =>
        cases hopening
        exact hcall
      | openRoot | cancel => cases hopening

theorem Sound.lt_of_transGen (h : Sound calls) {ancestor : ScopeId}
    (hline : Relation.TransGen (IsChild calls) id ancestor) : ancestor < id := by
  induction hline with
  | single hchild => exact h.parent_lt hchild
  | tail _ hchild ih => exact Nat.lt_trans (h.parent_lt hchild) ih

theorem Sound.lt_of_mem (h : Sound calls) (hmem : .cancel id ∈ calls) :
    id < (parents calls).length := by
  induction h with
  | nil => cases hmem
  | @snoc calls call h hcall ih =>
    rw [parents_snoc, List.length_append]
    obtain hmem | hmem := List.mem_append.1 hmem
    · exact Nat.lt_add_right _ (ih hmem)
    · obtain rfl := List.mem_singleton.1 hmem
      exact Nat.lt_add_right _ hcall

end TokenCall

/-! ## What is documented -/

open TokenCall in
/-- **What the documentation of a library promises** of every use of it. -/
structure TokenLibrary.Documented (σ : Type) [TokenLibrary σ] : Prop where
  /-- Every opening gives a token of its own. -/
  next_eq {calls : List TokenCall} (h : Sound calls) :
    next (after σ calls) = (parents calls).length
  /-- A token that a call was made to cancel is canceled, and remains so. -/
  canceled_of_mem {calls : List TokenCall} {id : ScopeId} (h : Sound calls)
    (hmem : .cancel id ∈ calls) : canceled (after σ calls) id = true
  /-- With a token its children are canceled, those that are opened after it was canceled too. -/
  canceled_of_parent {calls : List TokenCall} {id parent : ScopeId} (h : Sound calls)
    (hchild : IsChild calls id parent) (hparent : canceled (after σ calls) parent = true) :
    canceled (after σ calls) id = true
  /-- A token that no call was made to cancel, and that has no canceled parent, is not canceled. -/
  mem_or_parent {calls : List TokenCall} {id : ScopeId} (h : Sound calls)
    (hcanceled : canceled (after σ calls) id = true) :
    .cancel id ∈ calls ∨ ∃ parent, IsChild calls id parent ∧
      canceled (after σ calls) parent = true

namespace TokenLibrary.Documented

open TokenCall

variable {σ : Type} [TokenLibrary σ] {calls : List TokenCall} {id : ScopeId}

/-- **A token is canceled** exactly if a call was made to cancel it or one of its ancestors. -/
theorem canceled_iff (documented : Documented σ) (h : Sound calls) :
    canceled (after σ calls) id = true ↔
      ∃ ancestor, .cancel ancestor ∈ calls ∧ Relation.ReflTransGen (IsChild calls) id ancestor := by
  constructor
  · intro hcanceled
    -- A parent has a smaller number than its child.
    induction id using Nat.strongRecOn with
    | _ id ih =>
      obtain hmem | ⟨parent, hchild, hparent⟩ := documented.mem_or_parent h hcanceled
      · exact ⟨id, hmem, .refl⟩
      · obtain ⟨ancestor, hmem, hline⟩ := ih parent (h.parent_lt hchild) hparent
        exact ⟨ancestor, hmem, .head hchild hline⟩
  · rintro ⟨ancestor, hmem, hline⟩
    induction hline using Relation.ReflTransGen.head_induction_on with
    | refl => exact documented.canceled_of_mem h hmem
    | head hchild _ ih => exact documented.canceled_of_parent h hchild ih

end TokenLibrary.Documented

/-! ## The forest of scopes -/

namespace ScopeForest

open TokenCall

variable {f : ScopeForest} {id k : Nat} {finished rest : List Scope} {s : Scope}

theorem length_cancelFrom (id : ScopeId) (finished rest : List Scope) :
    (cancelFrom id finished rest).length = finished.length + rest.length := by
  induction rest generalizing finished with
  | nil => rfl
  | cons s rest ih =>
    rw [cancelFrom, ih, List.length_append, List.length_singleton, List.length_cons]
    omega

theorem parents_cancelFrom (id : ScopeId) (finished rest : List Scope) :
    (cancelFrom id finished rest).map (·.parent) = (finished ++ rest).map (·.parent) := by
  induction rest generalizing finished with
  | nil => rw [cancelFrom, List.append_nil]
  | cons s rest ih =>
    rw [cancelFrom, ih]
    simp

/-- The pass does not come back to a scope. -/
theorem cancelFrom_finished (id : ScopeId) (rest : List Scope) (hk : k < finished.length) :
    (cancelFrom id finished rest)[k]? = finished[k]? := by
  induction rest generalizing finished with
  | nil => rfl
  | cons s rest ih =>
    rw [cancelFrom, ih (by rw [List.length_append]; omega), List.getElem?_append_left hk]

/-- **What the pass makes of a scope** whose parent comes before it: it is canceled if it was, if it
is the one to cancel, or if its parent is canceled now. -/
theorem cancelFrom_rest (id : ScopeId) (finished : List Scope) (hs : rest[k]? = some s)
    (holder : ∀ parent, s.parent = some parent → parent < finished.length + k) :
    (cancelFrom id finished rest)[finished.length + k]? = some { s with
      canceled := s.canceled || finished.length + k == id ||
        s.parent.any (canceled ⟨cancelFrom id finished rest⟩) } := by
  induction rest generalizing finished k with
  | nil => cases hs
  | cons s₀ rest ih =>
    cases k with
    | zero =>
      obtain rfl : s₀ = s := Option.some.inj hs
      rw [cancelFrom, cancelFrom_finished _ _ (by simp)]
      cases hparent : s₀.parent with
      | none => simp
      | some parent =>
        -- What has become of the parent was settled when the pass went by it.
        have hlt : parent < finished.length := holder parent hparent
        have hbefore : ∀ s', canceled ⟨cancelFrom id (finished ++ [s']) rest⟩ parent =
            ((finished[parent]?).map (·.canceled)).getD false := by
          intro s'
          have hlt' : parent < (finished ++ [s']).length := by
            rw [List.length_append]
            exact Nat.lt_add_right _ hlt
          rw [canceled, cancelFrom_finished _ _ hlt', List.getElem?_append_left hlt]
          cases finished[parent]? with
          | _ => rfl
        simp [hbefore]
    | succ k =>
      obtain ⟨s₁, hstep⟩ : ∃ s₁, cancelFrom id finished (s₀ :: rest) =
          cancelFrom id (finished ++ [s₁]) rest := ⟨_, rfl⟩
      have hnext : (finished ++ [s₁]).length + k = finished.length + (k + 1) := by
        rw [List.length_append, List.length_singleton]
        omega
      have hrest := ih (finished ++ [s₁]) hs (by rwa [hnext])
      rwa [hnext, ← hstep] at hrest

/-- The forest has the tokens that some calls have opened, and of these the ones are canceled that a
call was made to cancel and those whose parent is canceled. -/
structure Follows (f : ScopeForest) (calls : List TokenCall) : Prop where
  parents : f.scopes.map (·.parent) = TokenCall.parents calls
  canceled_iff : ∀ id, f.canceled id = true ↔ .cancel id ∈ calls ∨
    ∃ parent, IsChild calls id parent ∧ f.canceled parent = true

variable {calls : List TokenCall} {call : TokenCall}

theorem Follows.length (h : f.Follows calls) :
    f.scopes.length = (TokenCall.parents calls).length := by
  rw [← h.parents, List.length_map]

theorem Follows.isChild_iff (h : f.Follows calls) {parent : ScopeId} : IsChild calls id parent ↔
    ∃ s, f.scopes[id]? = some s ∧ s.parent = some parent := by
  rw [IsChild, ← h.parents, List.getElem?_map, Option.map_eq_some_iff]

theorem canceled_snoc (f : ScopeForest) (s : Scope) (id : ScopeId) :
    canceled ⟨f.scopes ++ [s]⟩ id = if id = f.scopes.length then s.canceled else f.canceled id := by
  unfold canceled
  split_ifs with hid
  · subst hid
    simp
  · rcases Nat.lt_or_gt_of_ne hid with hlt | hgt
    · rw [List.getElem?_append_left hlt]
    · have hbeyond : (f.scopes ++ [s]).length ≤ id := by
        rw [List.length_append]
        exact hgt
      rw [List.getElem?_eq_none hbeyond, List.getElem?_eq_none (Nat.le_of_lt hgt)]

/-- **A scope is opened**: it is canceled if it has a canceled parent. -/
theorem Follows.opens (h : f.Follows calls) (hsound : Sound calls)
    (hcall : call.Within (TokenCall.parents calls).length) {parent? : Option ScopeId}
    (hopening : call.opening? = some parent?) :
    Follows ⟨f.scopes ++ [⟨parent?, parent?.any f.canceled⟩]⟩ (calls ++ [call]) := by
  have hcalls (id : ScopeId) : .cancel id ∈ calls ++ [call] ↔ .cancel id ∈ calls := by
    rw [List.mem_append, List.mem_singleton, or_iff_left]
    rintro rfl
    cases hopening
  refine ⟨?_, fun id => ?_⟩
  · rw [List.map_append, h.parents, parents_snoc, hopening]
    rfl
  have hchildren (parent : ScopeId) : IsChild (calls ++ [call]) id parent ∧
        canceled ⟨f.scopes ++ [⟨parent?, parent?.any f.canceled⟩]⟩ parent = true ↔
      (IsChild calls id parent ∨ id = f.scopes.length ∧ parent? = some parent) ∧
        f.canceled parent = true := by
    rw [isChild_snoc_iff, hopening, Option.some_inj, ← h.length]
    refine and_congr_right fun hchild => ?_
    have hlt : parent < f.scopes.length := by
      obtain hchild | ⟨-, hparent⟩ := hchild
      · exact Nat.lt_trans (hsound.parent_lt hchild) (h.length ▸ hchild.lt_length)
      · rw [hparent] at hopening
        cases call with
        | openBelow p =>
          cases hopening
          exact h.length ▸ hcall
        | openRoot | cancel => cases hopening
    rw [canceled_snoc, if_neg (Nat.ne_of_lt hlt)]
  simp only [hcalls, hchildren]
  rw [canceled_snoc]
  split_ifs with hid
  · subst hid
    have hnone : .cancel f.scopes.length ∉ calls := fun hmem =>
      absurd (hsound.lt_of_mem hmem) (by rw [h.length]; exact Nat.lt_irrefl _)
    have hnew (parent : ScopeId) : ¬IsChild calls f.scopes.length parent := fun hchild =>
      absurd hchild.lt_length (by rw [h.length]; exact Nat.lt_irrefl _)
    simp [hnone, hnew, Option.any_eq_true]
  · simp only [hid, false_and, or_false]
    exact h.canceled_iff id

/-- **What a cancelation changes**: a scope is canceled after it if it was before, if it is the one,
or if its parent is canceled now. -/
theorem Follows.canceled_cancel_iff (h : f.Follows calls) (hsound : Sound calls)
    (hid : id < (TokenCall.parents calls).length) : (f.cancel id).canceled k = true ↔
      f.canceled k = true ∨ k = id ∨
        ∃ parent, IsChild calls k parent ∧ (f.cancel id).canceled parent = true := by
  cases hk : f.scopes[k]? with
  | none =>
    have hbeyond : (TokenCall.parents calls).length ≤ k := by
      rw [← h.length]
      exact List.getElem?_eq_none_iff.1 hk
    have hpast : (cancelFrom id [] f.scopes).length ≤ k := by
      rw [length_cancelFrom, List.length_nil, Nat.zero_add, h.length]
      exact hbeyond
    have hafter : (f.cancel id).canceled k = false := by
      rw [canceled, cancel, List.getElem?_eq_none hpast]
    have hbefore : f.canceled k = false := by rw [canceled, hk]
    have hother : k ≠ id := fun heq => absurd hid (Nat.not_lt.2 (heq ▸ hbeyond))
    have hchild (parent : ScopeId) : ¬IsChild calls k parent := fun hchild =>
      absurd hchild.lt_length (Nat.not_lt.2 hbeyond)
    simp [hafter, hbefore, hother, hchild]
  | some s =>
    have holder (parent : ScopeId) (hparent : s.parent = some parent) : parent < 0 + k := by
      rw [Nat.zero_add]
      exact hsound.parent_lt (h.isChild_iff.2 ⟨s, hk, hparent⟩)
    have hmade := cancelFrom_rest id [] hk holder
    rw [List.length_nil, Nat.zero_add] at hmade
    have hafter : (f.cancel id).canceled k =
        (s.canceled || k == id || s.parent.any (f.cancel id).canceled) := by
      show canceled ⟨cancelFrom id [] f.scopes⟩ k = _
      rw [canceled, hmade]
      rfl
    have hbefore : f.canceled k = s.canceled := by rw [canceled, hk]
    rw [hafter, hbefore]
    simp [h.isChild_iff, hk, or_assoc, Option.any_eq_true]

/-- **A scope is canceled**, and with it what is below. -/
theorem Follows.cancels (h : f.Follows calls) (hsound : Sound calls)
    (hid : id < (TokenCall.parents calls).length) :
    Follows (f.cancel id) (calls ++ [.cancel id]) := by
  have hparents : (f.cancel id).scopes.map (·.parent) = TokenCall.parents calls := by
    rw [cancel, parents_cancelFrom, List.nil_append, h.parents]
  have hchildren (k parent : ScopeId) :
      IsChild (calls ++ [.cancel id]) k parent ↔ IsChild calls k parent := by
    rw [isChild_snoc_iff]
    simp [opening?]
  have hkept (k : ScopeId) (hcanceled : f.canceled k = true) : (f.cancel id).canceled k = true :=
    (h.canceled_cancel_iff hsound hid).2 (.inl hcanceled)
  refine ⟨by rw [hparents, parents_snoc]; exact (List.append_nil _).symm, fun k => ?_⟩
  rw [h.canceled_cancel_iff hsound hid, h.canceled_iff k]
  simp only [hchildren, List.mem_append, List.mem_singleton, TokenCall.cancel.injEq]
  constructor
  · rintro ((hmem | ⟨parent, hchild, hparent⟩) | rfl | hbelow)
    · exact .inl (.inl hmem)
    · exact .inr ⟨parent, hchild, hkept parent hparent⟩
    · exact .inl (.inr rfl)
    · exact .inr hbelow
  · rintro ((hmem | rfl) | hbelow)
    · exact .inl (.inl hmem)
    · exact .inr (.inl rfl)
    · exact .inr (.inr hbelow)

theorem Follows.make (h : f.Follows calls) (hsound : Sound calls)
    (hcall : call.Within (TokenCall.parents calls).length) :
    Follows (TokenCall.make f call) (calls ++ [call]) := by
  cases call with
  | openRoot => exact h.opens hsound hcall rfl
  | openBelow parent =>
    have hopened := h.opens hsound hcall rfl
    rwa [Option.any_some] at hopened
  | cancel id => exact h.cancels hsound hcall

theorem Follows.after (hsound : Sound calls) :
    (TokenCall.after ScopeForest calls).Follows calls := by
  induction hsound with
  | nil =>
    refine ⟨rfl, fun id => ?_⟩
    have hnone : canceled {} id = false := rfl
    simp [TokenCall.after, TokenLibrary.unopened, hnone, IsChild, TokenCall.parents]
  | snoc h hcall ih =>
    rw [after_snoc]
    exact ih.make h hcall

/-- **The forest keeps what is documented** of tokens. -/
theorem documented : TokenLibrary.Documented ScopeForest where
  next_eq h := (Follows.after h).length
  canceled_of_mem h hmem := ((Follows.after h).canceled_iff _).2 (.inl hmem)
  canceled_of_parent h hchild hparent :=
    ((Follows.after h).canceled_iff _).2 (.inr ⟨_, hchild, hparent⟩)
  mem_or_parent h hcanceled := ((Follows.after h).canceled_iff _).1 hcanceled

end ScopeForest

end RelationGate
