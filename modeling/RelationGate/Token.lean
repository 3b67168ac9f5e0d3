/-!
# Tokens

Opaque texts that the backend hands out: a point in its history, the place after a streamed item,
and the right to a lock.
-/

namespace RelationGate

/-- A point in the backend's history. A read may ask for data at least as fresh. -/
structure ConsistencyToken where
  text : String
  deriving DecidableEq, Repr

/-- The place after a streamed item. The empty one has nothing to continue from. -/
structure ContinuationToken where
  text : String
  deriving DecidableEq, Repr

/-- The right to a lock, handed out by an acquisition. -/
structure LockToken where
  text : String
  deriving DecidableEq, Repr

/-- How fresh the data of a read has to be. -/
inductive Consistency where
  /-- Whatever is cheapest. -/
  | minimizeLatency
  /-- At or after the write that gave the token. -/
  | atLeastAsFresh (token : ConsistencyToken)
  /-- The latest state. -/
  | fullyConsistent
  deriving DecidableEq, Repr

end RelationGate
