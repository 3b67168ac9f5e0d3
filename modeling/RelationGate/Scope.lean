/-!
# Cancellation scopes

Scopes form a forest. Canceling a scope cancels every scope below it, now or later, and nothing
else; a scope opened below a canceled one is canceled from the start.

Contexts are handles to cancellation tokens, and what they do is written over any library that has
such tokens (`TokenLibrary`); the forest of scopes is the one that runs.
-/

namespace RelationGate

/-- A scope of the forest, known by the order in which scopes were opened. -/
abbrev ScopeId := Nat

/-- A scope: what it was opened below, and whether it is canceled. -/
structure Scope where
  parent : Option ScopeId
  canceled : Bool
  deriving DecidableEq, Repr

/-- The scopes in the order in which they were opened; a parent comes before its children. -/
structure ScopeForest where
  scopes : List Scope := []
  deriving DecidableEq, Repr

namespace ScopeForest

/-- Whether a scope is canceled. -/
def canceled (f : ScopeForest) (id : ScopeId) : Bool :=
  match f.scopes[id]? with
  | some s => s.canceled
  | none => false

/-- The scope that the next opening gives. -/
def next (f : ScopeForest) : ScopeId := f.scopes.length

/-- Opens a scope on its own. -/
def openRoot (f : ScopeForest) : ScopeForest := ⟨f.scopes ++ [⟨none, false⟩]⟩

/-- Opens a scope below another one. -/
def openBelow (f : ScopeForest) (parent : ScopeId) : ScopeForest :=
  ⟨f.scopes ++ [⟨some parent, f.canceled parent⟩]⟩

/-- The scopes with one of them canceled, and with it all that come later below a canceled one. -/
def cancelFrom (id : ScopeId) : List Scope → List Scope → List Scope
  | done, [] => done
  | done, s :: rest =>
    let below := match s.parent with
      | none => false
      | some p => ((done[p]?).map (·.canceled)).getD false
    cancelFrom id (done ++ [{ s with canceled := s.canceled || done.length == id || below }]) rest

/-- Cancels a scope and all below it. -/
def cancel (f : ScopeForest) (id : ScopeId) : ScopeForest := ⟨cancelFrom id [] f.scopes⟩

end ScopeForest

/-! ## Tokens -/

/-- A library of cancellation tokens, as far as contexts ask anything of it. Tokens are known by the
order in which they were opened. -/
class TokenLibrary (σ : Type) where
  /-- No token has been opened. -/
  unopened : σ
  /-- The token that the next opening gives. -/
  next : σ → ScopeId
  /-- Opens a token on its own. -/
  openRoot : σ → σ
  /-- Opens a child of a token. -/
  openBelow : σ → ScopeId → σ
  /-- Cancels a token. -/
  cancel : σ → ScopeId → σ
  /-- Whether a token is canceled. -/
  canceled : σ → ScopeId → Bool

/-- A token is a scope of the forest. -/
instance : TokenLibrary ScopeForest where
  unopened := {}
  next := ScopeForest.next
  openRoot := ScopeForest.openRoot
  openBelow := ScopeForest.openBelow
  cancel := ScopeForest.cancel
  canceled := ScopeForest.canceled

/-! ## Handles -/

/-- Contexts that share tokens of a library: each context is a handle to one token. -/
structure ContextsOver (σ : Type) [TokenLibrary σ] where
  tokens : σ := TokenLibrary.unopened
  handles : List ScopeId := []

/-- Contexts whose tokens are the scopes of a forest. -/
abbrev Contexts := ContextsOver ScopeForest

namespace ContextsOver

open TokenLibrary

variable {σ : Type} [TokenLibrary σ]

/-- The token of a context. -/
def scopeOf (c : ContextsOver σ) (node : Nat) : ScopeId := (c.handles[node]?).getD 0

/-- A context with a token of its own. -/
def fresh (c : ContextsOver σ) : ContextsOver σ := ⟨openRoot c.tokens, c.handles ++ [next c.tokens]⟩

/-- A context that is canceled with another one, and also on its own. -/
def child (c : ContextsOver σ) (node : Nat) : ContextsOver σ :=
  ⟨openBelow c.tokens (c.scopeOf node), c.handles ++ [next c.tokens]⟩

/-- A context that shares the token of another one. -/
def share (c : ContextsOver σ) (node : Nat) : ContextsOver σ :=
  { c with handles := c.handles ++ [c.scopeOf node] }

/-- Cancels the token of a context. -/
def cancel (c : ContextsOver σ) (node : Nat) : ContextsOver σ :=
  { c with tokens := TokenLibrary.cancel c.tokens (c.scopeOf node) }

/-- Whether a context is canceled. -/
def isCanceled (c : ContextsOver σ) (node : Nat) : Bool := canceled c.tokens (c.scopeOf node)

/-- Whether each context is canceled, in the order in which they were made. -/
def states (c : ContextsOver σ) : List Bool := c.handles.map (canceled c.tokens)

end ContextsOver

/-! ## Operations -/

/-- What may be done with contexts, each known by the order in which it was made. -/
inductive ContextOperation where
  /-- Makes a context with a token of its own. -/
  | new
  /-- Makes a second handle to a context. -/
  | clone (node : Nat)
  /-- Makes a context below another one. -/
  | child (node : Nat)
  /-- Makes a context that is bound to the token of another one. -/
  | withToken (node : Nat)
  /-- Makes the context for the operations of a call that has the token of a context. -/
  | ofCall (node : Nat)
  | cancel (node : Nat)
  deriving DecidableEq, Repr

namespace ContextsOver

variable {σ : Type} [TokenLibrary σ]

/-- One operation. A clone, a context bound to a token and the context of a call differ from each
other in nothing but what they are made for. -/
def perform (c : ContextsOver σ) : ContextOperation → ContextsOver σ
  | .new => c.fresh
  | .clone node | .withToken node | .ofCall node => c.share node
  | .child node => c.child node
  | .cancel node => c.cancel node

end ContextsOver

end RelationGate
