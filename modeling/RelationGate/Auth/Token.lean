import RelationGate.Auth.Claims
import RelationGate.Auth.Base64Url
import RelationGate.Auth.CarriedKey
import RelationGate.Auth.Sha2
import RelationGate.Error
import RelationGate.Text.Blank

/-!
# Signed tokens

A token is a header, a payload and a signature with dots between them, each in base64 for URLs.
Verification goes in this order: the header is read, its algorithm compared with the configured
one, a key looked up for it, the signature compared, the payload read, and last its expiry, issuer
and audience are looked at. The first step that fails decides the fault.

An issuer or an audience is compared only if one is configured and the payload has one that is a
text or a list of texts. How a signature is checked with a key that is public by nature is part of
the settings; if they do not say, no such token is accepted.
-/

namespace RelationGate

open Json Text

/-! ## Algorithms -/

/-- A signing algorithm. -/
inductive Algorithm where
  | hs256
  | hs384
  | hs512
  | es256
  | es384
  | rs256
  | rs384
  | rs512
  | ps256
  | ps384
  | ps512
  | edDSA
  deriving DecidableEq, Repr

/-- What sort of key an algorithm needs. -/
inductive KeyFamily where
  | hmac
  | rsa
  | elliptic
  | edwards
  deriving DecidableEq, Repr

namespace Algorithm

/-- The name of an algorithm. -/
def name : Algorithm → String
  | hs256 => "HS256"
  | hs384 => "HS384"
  | hs512 => "HS512"
  | es256 => "ES256"
  | es384 => "ES384"
  | rs256 => "RS256"
  | rs384 => "RS384"
  | rs512 => "RS512"
  | ps256 => "PS256"
  | ps384 => "PS384"
  | ps512 => "PS512"
  | edDSA => "EdDSA"

/-- Every algorithm. -/
def all : List Algorithm :=
  [hs256, hs384, hs512, es256, es384, rs256, rs384, rs512, ps256, ps384, ps512, edDSA]

/-- The algorithm of a name. -/
def ofName? (s : String) : Option Algorithm := all.find? (·.name == s)

/-- The sort of key that an algorithm needs. -/
def family : Algorithm → KeyFamily
  | hs256 | hs384 | hs512 => .hmac
  | rs256 | rs384 | rs512 | ps256 | ps384 | ps512 => .rsa
  | es256 | es384 => .elliptic
  | edDSA => .edwards

/-- The digest of an algorithm with a shared secret. -/
def digest? : Algorithm → Option Sha2.Variant
  | hs256 => some Sha2.sha256
  | hs384 => some Sha2.sha384
  | hs512 => some Sha2.sha512
  | _ => none

/-- The wire form of an algorithm. -/
def codec : Codec Algorithm := .choice (all.map fun a => (a.name, a)) name

instance : Render Algorithm := ⟨name⟩

end Algorithm

/-- A key to verify with. -/
inductive VerificationKey where
  | secret (bytes : List UInt8)
  | publicKey (family : KeyFamily) (bytes : List UInt8)
  deriving DecidableEq, Repr

namespace VerificationKey

/-- The sort of a key. -/
def family : VerificationKey → KeyFamily
  | secret _ => .hmac
  | publicKey f _ => f

/-- What a key is made of. -/
def bytes : VerificationKey → List UInt8
  | secret bytes | publicKey _ bytes => bytes

end VerificationKey

/-! ## Faults -/

/-- Why a token, or a part of it, cannot be read. -/
inductive TokenFault where
  /-- There are fewer than three parts. -/
  | parts
  | base64 (fault : Base64Url.Fault)
  | document (fault : Json.Fault)
  /-- The key does not suit the algorithm. -/
  | algorithm
  deriving DecidableEq

/-- The words of a fault. -/
def TokenFault.describe : TokenFault → String
  | parts => "InvalidToken"
  | base64 f => "Base64 error: " ++ f.describe
  | document f => "JSON error: " ++ f.describe
  | algorithm => "InvalidAlgorithm"

/-- A claim that does not hold. -/
inductive ClaimFault where
  | issuer
  | audience
  deriving DecidableEq

/-- The words of a claim that does not hold. -/
def ClaimFault.describe : ClaimFault → String
  | issuer => "InvalidIssuer"
  | audience => "InvalidAudience"

/-- Why credentials are refused. -/
inductive AuthError where
  | missingToken
  | malformedToken (words : String)
  | tokenExpired
  | invalidSignature
  | unexpectedAlgorithm (expected actual : Algorithm)
  | invalidClaims (fault : ClaimFault)
  | keyUnavailable (key : String)
  deriving DecidableEq

namespace AuthError

/-- The stable reason. -/
def reason : AuthError → String
  | missingToken => "missing_token"
  | malformedToken _ => "malformed_token"
  | tokenExpired => "token_expired"
  | invalidSignature => "invalid_signature"
  | unexpectedAlgorithm _ _ => "unexpected_signing_method"
  | invalidClaims _ => "invalid_claims"
  | keyUnavailable _ => "key_unavailable"

/-- The words. -/
def describe : AuthError → String
  | missingToken => "missing bearer token"
  | malformedToken words => "malformed token: " ++ words
  | tokenExpired => "token expired"
  | invalidSignature => "invalid token signature"
  | unexpectedAlgorithm expected actual =>
    "unexpected signing method: expected " ++ render expected ++ ", got " ++ render actual
  | invalidClaims f => "invalid claims: " ++ f.describe
  | keyUnavailable key => "no verification key: " ++ key

/-- The failure of the call. -/
def toCallError (e : AuthError) : CallError := .unauthenticated e.reason e.describe

/-- The refusal of a token that cannot be read. -/
def ofTokenFault (f : TokenFault) : AuthError := .malformedToken f.describe

end AuthError

/-! ## Parts of a token -/

/-- The header of a token. -/
structure TokenHeader where
  kind : Option String := none
  algorithm : Algorithm
  contentType : Option String := none
  keySetUrl : Option String := none
  carriedKey : Option Json := none
  keyId : Option String := none
  certificateUrl : Option String := none
  certificates : Option (List String) := none
  fingerprint : Option String := none
  fingerprint256 : Option String := none

/-- A field that an object may lack but a list may not. -/
def headerField {α : Type} (name : String) (codec : Codec α) : RecordField (Option α) :=
  { RecordField.optional name codec with absentInList := none }

/-- The wire form of a header. -/
def TokenHeader.codec : Codec TokenHeader :=
  .record "struct Header"
    (T := [Option String, Algorithm, Option String, Option String, Option Json, Option String,
      Option String, Option (List String), Option String, Option String])
    (headerField "typ" .text, .required "alg" Algorithm.codec, headerField "cty" .text,
      headerField "jku" .text, headerField "jwk" CarriedKey.codec, headerField "kid" .text,
      headerField "x5u" .text, headerField "x5c" Codec.text.list, headerField "x5t" .text,
      headerField "x5t#S256" .text, ())
    (fun (kind, algorithm, contentType, keySetUrl, carriedKey, keyId, certificateUrl, certificates,
        fingerprint, fingerprint256, ()) =>
      { kind, algorithm, contentType, keySetUrl, carriedKey, keyId, certificateUrl, certificates,
        fingerprint, fingerprint256 })
    (fun h => (h.kind, h.algorithm, h.contentType, h.keySetUrl, h.carriedKey, h.keyId,
      h.certificateUrl, h.certificates, h.fingerprint, h.fingerprint256, ()))

/-- A text cut at its last dot. -/
def cutLast (cs : List Char) : Option (List Char × List Char) :=
  let tail := cs.reverse.takeWhile (· ≠ '.')
  match cs.reverse.dropWhile (· ≠ '.') with
  | [] => none
  | _ :: front => some (front.reverse, tail.reverse)

/-- The parts of a token, as they stand in it. -/
structure TokenParts where
  header : List Char
  payload : List Char
  signature : List Char
  /-- What is signed: the header and the payload with their dot. -/
  message : List Char

/-- The parts of a token, from the right: what is left over belongs to the header. -/
def TokenParts.ofText (token : String) : Except TokenFault TokenParts :=
  match cutLast token.toList with
  | none => .error .parts
  | some (message, signature) =>
    match cutLast message with
    | none => .error .parts
    | some (header, payload) => .ok ⟨header, payload, signature, message⟩

/-- The bytes of some characters. -/
def utf8 (cs : List Char) : List UInt8 := (String.ofList cs).toUTF8.toList

/-- The bytes that a part stands for. -/
def partBytes (part : List Char) : Except TokenFault (List UInt8) :=
  (Base64Url.decode (utf8 part)).mapError .base64

/-- The document that a part stands for. -/
def readPart {α : Type} (codec : Codec α) (part : List Char) : Except TokenFault α := do
  (Reader.run codec.read (← partBytes part)).mapError .document

/-- The header of a token. -/
def readHeader (token : String) : Except TokenFault TokenHeader := do
  readPart TokenHeader.codec (← TokenParts.ofText token).header

/-! ## Verification -/

/-- How tokens are verified. -/
structure AuthSettings where
  algorithm : Algorithm
  /-- The key for a header. -/
  keyFor : TokenHeader → Except AuthError VerificationKey
  issuer : Option String := none
  audience : Option String := none
  /-- How many seconds a token may be past its expiry. -/
  leeway : UInt64 := 0
  /-- The signature of a token is the right one under a public key. -/
  holdsUnder : Algorithm → KeyFamily → List UInt8 → TokenParts → Bool := fun _ _ _ _ => false

namespace AuthSettings

instance : Render AuthSettings where
  render s := renderRecord "AuthConfig"
    [("algorithm", render s.algorithm), ("issuer", render s.issuer),
      ("audience", render s.audience), ("leeway_secs", toString s.leeway.toNat)]

/-- One key for every token. -/
def withKey (algorithm : Algorithm) (key : VerificationKey) : AuthSettings :=
  { algorithm, keyFor := fun _ => .ok key }

/-- A key for every key id; a header without an id has the empty one. -/
def withKeys (algorithm : Algorithm) (keys : List (String × VerificationKey)) : AuthSettings :=
  let keyFor (h : TokenHeader) : Except AuthError VerificationKey :=
    let id := h.keyId.getD ""
    match keys.lookup id with
    | some key => .ok key
    | none => .error (.keyUnavailable id)
  { algorithm, keyFor }

/-- The signature that a shared secret gives. -/
def sign (digest : Sha2.Variant) (secret : List UInt8) (message : List Char) : List Char :=
  Base64Url.encode (digest.keyedDigest secret (utf8 message))

/-- A signature is the right one: under a shared secret there is only one. -/
def signatureHolds (s : AuthSettings) (key : VerificationKey) (parts : TokenParts) : Bool :=
  match s.algorithm.digest? with
  | some digest => parts.signature == sign digest key.bytes parts.message
  | none => s.holdsUnder s.algorithm key.family key.bytes parts

/-- The texts of an issuer or an audience, if it is a text or a list of texts. -/
def textsOf : Json → Option (List String)
  | .str s => some [s]
  | .arr xs => xs.mapM fun
    | .str s => some s
    | _ => none
  | _ => none

/-- A wanted text is among those of a member, or cannot be compared with any. -/
def agrees (wanted : Option String) (value : Option Json) : Bool :=
  match wanted, value.bind textsOf with
  | some w, some texts => texts.contains w
  | _, _ => true

/-- Reads a member that is not looked at. What is inside a list or an object is left unread, so
only an empty one can be passed over. -/
def readIgnored : Reader Json :=
  tryCatch
    (do
      let b ← Reader.opening
      if b = '['.toUInt8 then Reader.inList (Reader.reject (.invalidType .sequence ""))
      else if b = '{'.toUInt8 then Reader.inObject (Reader.reject (.invalidType .map ""))
      else Reader.value)
    fun _ => return .null

/-- The codec of a member that is not looked at. -/
def ignored : Codec Json := { Codec.any with read := readIgnored }

/-- The members of a payload that are compared, and those beside them that may be given only
once. -/
def comparedFields : Fields [Option Json, Json, Option Json, Option Json, Option Json] :=
  (.optional "exp" .any, .defaulted "nbf" ignored .null, .optional "sub" .any,
    .optional "iss" .any, .optional "aud" .any, ())

/-- The issuer and the audience of a payload. -/
def comparedCodec : Codec (Option Json × Option Json) :=
  .record "struct ClaimsForValidation" comparedFields
    (fun (_, _, _, issuer, audience, ()) => (issuer, audience))
    (fun (issuer, audience) => (none, .null, none, issuer, audience, ()))

/-- Checks the expiry, the issuer and the audience of a payload. -/
def checkClaims (s : AuthSettings) (now : UInt64) (claims : Claims)
    (compared : Option Json × Option Json) : Except AuthError Unit :=
  if claims.expiry < now - s.leeway then .error .tokenExpired
  else if !agrees s.issuer compared.1 then .error (.invalidClaims .issuer)
  else if !agrees s.audience compared.2 then .error (.invalidClaims .audience)
  else .ok ()

/-- The claims of a token, with its issuer and its audience, if it is signed as it has to be. -/
def readSigned (s : AuthSettings) (token : String) :
    Except AuthError (Claims × Option Json × Option Json) := do
  let header ← (readHeader token).mapError .ofTokenFault
  if header.algorithm ≠ s.algorithm then
    throw (.unexpectedAlgorithm s.algorithm header.algorithm)
  let key ← s.keyFor header
  if key.family ≠ s.algorithm.family then throw (.ofTokenFault .algorithm)
  let parts ← (TokenParts.ofText token).mapError .ofTokenFault
  if !s.signatureHolds key parts then throw .invalidSignature
  let claims ← (readPart Claims.codec parts.payload).mapError .ofTokenFault
  let compared ← (readPart comparedCodec parts.payload).mapError .ofTokenFault
  return (claims, compared)

/-- The claims of a token, if it verifies. -/
def verify (s : AuthSettings) (now : UInt64) (token : String) : Except AuthError Claims := do
  let (claims, compared) ← s.readSigned token
  s.checkClaims now claims compared
  return claims

end AuthSettings

/-! ## Credentials of a call -/

/-- Two texts are equal but for the case of ASCII letters. -/
def sameButCase (a b : String) : Bool := a.toLower == b.toLower

/-- The token in an `authorization` value: it follows the word `Bearer` and a space. -/
def bearerToken : Option String → Except AuthError String
  | none => .error .missingToken
  | some value =>
    let cs := value.toList
    let scheme := String.ofList (cs.takeWhile (· ≠ ' '))
    match cs.dropWhile (· ≠ ' ') with
    | [] => .error (.malformedToken "expected `Bearer <token>`")
    | _ :: rest =>
      if sameButCase scheme "bearer" then
        let token := String.ofList (trimChars rest)
        if token.isEmpty then .error .missingToken else .ok token
      else .error (.malformedToken ("unsupported authorization scheme: " ++ scheme))

end RelationGate
