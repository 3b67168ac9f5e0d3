import RelationGate.Json.Codec

/-!
# Claims

What a verified token says: who calls, when the token expires, and any other members, which are
kept as they came.
-/

namespace RelationGate

open Json

/-- The claims of a token. -/
structure Claims where
  subject : String
  /-- In seconds since the beginning of 1970. -/
  expiry : UInt64
  extra : List (String × Json) := []

/-- The wire form of claims. -/
def Claims.codec : Codec Claims :=
  .openRecord "struct Claims" (T := [String, UInt64])
    (.required "sub" .text, .required "exp" .word64, ())
    (fun (subject, expiry, ()) extra => ⟨subject, expiry, extra⟩)
    (fun c => ((c.subject, c.expiry, ()), c.extra))

end RelationGate
