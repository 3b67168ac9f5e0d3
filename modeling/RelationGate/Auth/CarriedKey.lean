import RelationGate.Json.Codec

/-!
# Keys carried in a header

The header of a token may carry a key. No token is verified with it, but the header is only read if
the key is one: the description of its use, and the numbers of one of four kinds of key.
-/

namespace RelationGate.CarriedKey

open Json

/-- A choice between names of which only the name counts. -/
def oneOf (names : List String) : Codec String := .choice (names.map fun n => (n, n)) id

/-- The curves of an elliptic key. -/
def curve : Codec String := oneOf ["P-256", "P-384", "P-521", "Ed25519"]

/-- The algorithms that a key may be meant for. -/
def purpose : Codec String :=
  oneOf ["HS256", "HS384", "HS512", "ES256", "ES384", "RS256", "RS384", "RS512", "PS256", "PS384",
    "PS512", "EdDSA", "RSA1_5", "RSA-OAEP", "RSA-OAEP-256"]

/-- The members that describe the use of a key. -/
def descriptionTypes : List Type :=
  [Option String, Option (List String), Option String, Option String, Option String,
    Option (List String), Option String, Option String]

/-- The members that describe the use of a key. -/
def description : Fields descriptionTypes :=
  (.optional "use" .text, .optional "key_ops" Codec.text.list, .optional "alg" purpose,
    .optional "kid" .text, .optional "x5u" .text, .optional "x5c" Codec.text.list,
    .optional "x5t" .text, .optional "x5t#S256" .text, ())

/-- The members are those of a record. -/
def hasFields {T : List Type} (fields : Fields T) (members : List (String × Json)) : Bool :=
  match Codec.decodeRecord "" fields (Json.ofMembers members) with
  | .ok _ => true
  | .error _ => false

/-- The members are those of one of the kinds of key. -/
def isKey (members : List (String × Json)) : Bool :=
  hasFields (T := [String, String, String, String])
      (.required "kty" (oneOf ["EC"]), .required "crv" curve, .required "x" .text,
        .required "y" .text, ()) members ||
    hasFields (T := [String, String, String])
      (.required "kty" (oneOf ["RSA"]), .required "n" .text, .required "e" .text, ()) members ||
    hasFields (T := [String, String])
      (.required "kty" (oneOf ["oct"]), .required "k" .text, ()) members ||
    hasFields (T := [String, String, String])
      (.required "kty" (oneOf ["OKP"]), .required "crv" curve, .required "x" .text, ()) members

/-- Checks the members of a key: its use first. -/
def check (members : List (String × Json)) : Except Fault Json := do
  let _ ← Fields.takeMembers descriptionTypes description members (Fields.noSlots _)
  if isKey members then return Json.ofMembers members
  else Json.refuse (.noBranch "AlgorithmParameters")

/-- The name of a carried key in a fault. -/
def name : String := "struct Jwk"

/-- The codec of a carried key. -/
def codec : Codec Json where
  encode := id
  decode
    | .obj members => check members
    | j => wrongType j name
  read := do
    if (← Reader.opening) = '{'.toUInt8 then
      Reader.inObject do
        let found ← Reader.members (fun name found => do
          Reader.colon
          return (name, ← Reader.value) :: found) []
        Reader.ofDecoded (check found.reverse)
    else Reader.mismatch name

end RelationGate.CarriedKey
