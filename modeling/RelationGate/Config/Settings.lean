import RelationGate.Config.Fault
import RelationGate.Config.Section
import RelationGate.Limit
import RelationGate.Wire.Envelope

/-!
# Settings of the daemon

The settings come from a text, every one of them with a default. From them follow the settings of
the server, of the lookups and of the verification of tokens; the last may need a key from a file.
-/

namespace RelationGate

namespace Config

/-- The settings of lookups. -/
structure LookupSection where
  maxLimit : UInt32 := defaultCeiling
  buffer : UInt64 := UInt64.ofNat defaultBuffer
  deriving DecidableEq, Repr

/-- The settings of the verification of tokens. -/
structure AuthSection where
  enabled : Bool := false
  algorithm : String := "HS256"
  secret : Option String := none
  publicKeyPath : Option String := none
  issuer : Option String := none
  audience : Option String := none
  /-- How many seconds a token may be past its expiry. -/
  leeway : UInt64 := 0
  deriving DecidableEq, Repr

end Config

/-- The settings of the daemon. -/
structure DaemonSettings where
  server : ServerSettings := {}
  logLevel : String := "info"
  lookup : Config.LookupSection := {}
  auth : Config.AuthSection := {}
  /-- Readiness once reached is kept. -/
  sticky : Bool := true
  deriving DecidableEq, Repr

namespace Config

open Toml

/-- Reads the settings of lookups. -/
def LookupSection.read (v : Value) : Option LookupSection := do
  let s ← Section.of v
  let default : LookupSection := {}
  return { maxLimit := ← s.get 0 "max_limit" word32? default.maxLimit
           buffer := ← s.get 1 "channel_capacity" word64? default.buffer }

/-- Reads the settings of the verification of tokens. -/
def AuthSection.read (v : Value) : Option AuthSection := do
  let s ← Section.of v
  let default : AuthSection := {}
  let optional (place : Nat) (name : String) : Option (Option String) :=
    s.get place name (fun v => some <$> text? v) none
  return { enabled := ← s.get 0 "enabled" flag? default.enabled
           algorithm := ← s.get 1 "algorithm" text? default.algorithm
           secret := ← optional 2 "hmac_secret"
           publicKeyPath := ← optional 3 "public_key_path"
           issuer := ← optional 4 "issuer"
           audience := ← optional 5 "audience"
           leeway := ← s.get 6 "leeway_secs" word64? default.leeway }

/-- Reads whether readiness once reached is kept. -/
def readSticky (v : Value) : Option Bool := do
  (← Section.of v).get 0 "sticky" flag? true

end Config

namespace DaemonSettings

open Config

/-- The settings in a table. -/
def ofMembers (members : Toml.Members) : Option DaemonSettings := do
  let s : Section := .named members
  let default : DaemonSettings := {}
  let server : ServerSettings :=
    { host := ← s.get 0 "rpc_host" text? default.server.host
      port := ← s.get 1 "rpc_port" word16? default.server.port
      requestTimeoutMs := ← s.get 3 "request_timeout_ms" word64? default.server.requestTimeoutMs }
  return { server
           logLevel := ← s.get 2 "log_level" text? default.logLevel
           lookup := ← s.get 4 "lookup" LookupSection.read default.lookup
           auth := ← s.get 5 "auth" AuthSection.read default.auth
           sticky := ← s.get 6 "readiness" readSticky default.sticky }

/-- Refuses settings that have to be positive and are not; the first one counts. -/
def check (s : DaemonSettings) : Except ConfigFault Unit :=
  if s.lookup.maxLimit = 0 then .error (.zero "lookup.max_limit")
  else if s.lookup.buffer = 0 then .error (.zero "lookup.channel_capacity")
  else if s.server.requestTimeoutMs = 0 then .error (.zero "request_timeout_ms")
  else .ok ()

/-- The settings in a text. -/
def ofText (text : String) : Except ConfigFault DaemonSettings :=
  match (Toml.read text).bind ofMembers with
  | none => .error .malformed
  | some s => do
    s.check
    return s

/-- The settings in a file. -/
def load (files : Files) (path : String) : Except ConfigFault DaemonSettings := do
  let bytes ← (files path).mapError (.unreadable path)
  match String.fromUTF8? ⟨bytes.toArray⟩ with
  | none => throw (.unreadable path .notText)
  | some text => ofText text

/-- The settings in a file, or none if there is no such file. -/
def loadOptional (files : Files) (path : String) : Except ConfigFault (Option DaemonSettings) :=
  match files path with
  | .error .notFound => .ok none
  | _ => some <$> load files path

/-- The settings of lookups. -/
def lookupSettings (s : DaemonSettings) : LookupSettings :=
  { limits := .ofCeiling s.lookup.maxLimit, buffer := s.lookup.buffer.toNat }

/-- The key for an algorithm: a shared secret in the settings, or a public key in a file. -/
def verificationKey (s : DaemonSettings) (files : Files) (algorithm : Algorithm) :
    Except ConfigFault VerificationKey :=
  match algorithm.family with
  | .hmac =>
    match s.auth.secret with
    | none => .error (.missingKey "auth.hmac_secret")
    | some secret => .ok (.secret secret.toUTF8.toList)
  | family =>
    match s.auth.publicKeyPath with
    | none => .error (.missingKey "auth.public_key_path")
    | some path => do
      let bytes ← (files path).mapError (.unreadable path)
      (KeyFile.read family bytes).mapError .badKey

/-- How tokens are verified, if they are. -/
def authSettings (s : DaemonSettings) (files : Files) :
    Except ConfigFault (Option AuthSettings) := do
  if !s.auth.enabled then return none
  match Algorithm.ofName? s.auth.algorithm with
  | none => throw (.unknownAlgorithm s.auth.algorithm)
  | some algorithm =>
    let key ← s.verificationKey files algorithm
    return some
      { AuthSettings.withKey algorithm key with
        issuer := s.auth.issuer, audience := s.auth.audience, leeway := s.auth.leeway }

end DaemonSettings

end RelationGate
