import RelationGate.Query
import RelationGate.Text.Rendering

/-!
# Result limits

A limit caps the items of a stream. It is fixed before the first item from what the query asks for
and from a ceiling. The three streams differ in what an unspecified limit means:

* a lookup of subjects without a limit, or with limit 0, is unbounded;
* a lookup of resources is capped by the ceiling if it has no paging block at all, and unbounded
  if the block has no limit or limit 0;
* a read is never unbounded: the ceiling stands in.
-/

namespace RelationGate

open Text

/-- The cap of a stream. -/
inductive Limit where
  | unbounded
  | capped (most : UInt32) (positive : most ≠ 0)
  deriving DecidableEq

namespace Limit

/-- The limit as a word; zero stands for none. -/
def word : Limit → UInt32
  | unbounded => 0
  | capped n _ => n

/-- Another item may follow so many delivered ones. -/
def allows (limit : Limit) (delivered : Nat) : Bool :=
  match limit with
  | unbounded => true
  | capped n _ => delivered < n.toNat

/-- The limit in words. -/
def text : Limit → String
  | unbounded => "unbounded"
  | capped n _ => toString n.toNat

end Limit

/-- The ceiling if nothing else is configured. -/
def defaultCeiling : UInt32 := 1000

/-- The ceiling on requested limits. -/
structure LimitPolicy where
  ceiling : UInt32
  positive : ceiling ≠ 0
  deriving DecidableEq

namespace LimitPolicy

/-- The policy of a ceiling; zero stands for the default. -/
def ofCeiling (n : UInt32) : LimitPolicy :=
  if h : n = 0 then ⟨defaultCeiling, by decide⟩ else ⟨n, h⟩

/-- The ceiling as a limit. -/
def atCeiling (p : LimitPolicy) : Limit := .capped p.ceiling p.positive

/-- A requested limit under the ceiling. -/
def cap (p : LimitPolicy) (requested : UInt32) : Limit :=
  if h : min requested p.ceiling = 0 then p.atCeiling else .capped (min requested p.ceiling) h

/-- A requested limit, or another one if none or zero is requested. -/
def orElse (p : LimitPolicy) (requested : Option UInt32) (other : Limit) : Limit :=
  match requested with
  | none => other
  | some n => if n = 0 then other else p.cap n

/-- The limit of a lookup of subjects. -/
def forSubjects (p : LimitPolicy) (pagination : Option Pagination) : Limit :=
  p.orElse (pagination.bind (·.limit)) .unbounded

/-- The limit of a lookup of resources. -/
def forResources (p : LimitPolicy) : Option Pagination → Limit
  | none => p.atCeiling
  | some block => p.orElse block.limit .unbounded

/-- The limit of a read. -/
def forRead (p : LimitPolicy) (pagination : Option Pagination) : Limit :=
  p.orElse (pagination.bind (·.limit)) p.atCeiling

/-- The limit of a streaming query. -/
def resolve (p : LimitPolicy) : StreamQuery → Limit
  | .subjects q => p.forSubjects q.pagination
  | .resources q => p.forResources q.pagination
  | .read q => p.forRead q.pagination

instance : Render LimitPolicy where
  render p := renderRecord "LimitPolicy" [("ceiling", toString p.ceiling.toNat)]

end LimitPolicy

/-- The default number of items between a lookup and its consumer. -/
def defaultBuffer : Nat := 32

/-- The settings of lookups. -/
structure LookupSettings where
  limits : LimitPolicy := .ofCeiling defaultCeiling
  /-- How many items a lookup may run ahead of its consumer. -/
  buffer : Nat := defaultBuffer

instance : Render LookupSettings where
  render s := renderRecord "EngineConfig"
    [("limits", render s.limits), ("channel_capacity", toString s.buffer)]

/-- The rendering of the engine that runs lookups. -/
def LookupSettings.engineRendering (s : LookupSettings) : String :=
  renderRecord "LookupEngine" [("config", render s)]

end RelationGate
