import RelationGate.Auth.Der
import RelationGate.Auth.Pem
import RelationGate.Auth.Token

/-!
# Keys kept in files

A key that is public by nature is kept as an armoured document, either of RSA's own form or of the
form that names its algorithm by an object identifier. The form with an identifier is a public key, a
private key or a certificate, and its first string of bits or bytes is the key.
-/

namespace RelationGate

/-- Why a key cannot be taken from a file. -/
inductive KeyFault where
  /-- The file is no key, or one for another sort of algorithm. -/
  | format
  /-- The document holds no string of bits or bytes. -/
  | noBits
  deriving DecidableEq, Repr

/-- The word for a fault. -/
def KeyFault.describe : KeyFault → String
  | format => "InvalidKeyFormat"
  | noBits => "InvalidEcdsaKey"

namespace KeyFile

open Der

/-- The sort of algorithm that an object identifier names. -/
def familyOf? : List Nat → Option KeyFamily
  | [1, 2, 840, 10045, 2, 1] => some .elliptic
  | [1, 2, 840, 113549, 1, 1, 1] => some .rsa
  | [1, 3, 101, 112] => some .edwards
  | _ => none

/-- The sort of algorithm that a document is for. -/
def classify? (elements : List Element) : Option KeyFamily :=
  firstIn? (fun
    | .objectId arcs => familyOf? arcs
    | _ => none) elements

/-- The first string of bits or bytes in a document. -/
def firstBits (elements : List Element) : Except KeyFault (List UInt8) :=
  let bits := firstIn? (fun
    | .octets bytes => some bytes
    | _ => none) elements
  match bits with
  | some bytes => .ok bytes
  | none => .error .noBits

/-- The key of a document whose identifier has to name the wanted sort of algorithm. Only a key of
RSA may be a private one. -/
def identified (family : KeyFamily) (isPrivate : Bool) (elements : List Element) :
    Except KeyFault (List UInt8) :=
  if classify? elements = some family ∧ (family = .rsa ∨ !isPrivate) then firstBits elements
  else .error .format

/-- The key for a sort of algorithm in a file. -/
def read (family : KeyFamily) (file : List UInt8) : Except KeyFault VerificationKey :=
  match Armoured.ofBytes? file with
  | none => .error .format
  | some document =>
    match elements document.bytes with
    | none => .error .format
    | some elements =>
      VerificationKey.publicKey family <$>
        match document.label with
        | "RSA PRIVATE KEY" | "RSA PUBLIC KEY" =>
          if family = .rsa then .ok document.bytes else .error .format
        | "PRIVATE KEY" => identified family true elements
        | "PUBLIC KEY" | "CERTIFICATE" => identified family false elements
        | _ => .error .format

end KeyFile

end RelationGate
