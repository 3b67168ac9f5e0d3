import RelationGate.Auth.KeyFile

/-!
# What can be wrong with a configuration

A configuration fails because a file cannot be read, because the text is no configuration, or because
a setting is out of its range or does not fit another one.
-/

namespace RelationGate

open Text

/-- Why a file cannot be read. -/
inductive FileFault where
  | notFound
  | denied
  | isDirectory
  /-- The file is not in UTF-8. -/
  | notText
  deriving DecidableEq, Repr

namespace FileFault

/-- The words of a fault. -/
def describe : FileFault → String
  | notFound => "No such file or directory (os error 2)"
  | denied => "Permission denied (os error 13)"
  | isDirectory => "Is a directory (os error 21)"
  | notText => "stream did not contain valid UTF-8"

instance : Render FileFault where
  render
    | notFound =>
      renderRecord "Os"
        [("code", "2"), ("kind", "NotFound"), ("message", quoted "No such file or directory")]
    | denied =>
      renderRecord "Os"
        [("code", "13"), ("kind", "PermissionDenied"), ("message", quoted "Permission denied")]
    | isDirectory =>
      renderRecord "Os"
        [("code", "21"), ("kind", "IsADirectory"), ("message", quoted "Is a directory")]
    | notText =>
      renderRecord "Error"
        [("kind", "InvalidData"), ("message", quoted "stream did not contain valid UTF-8")]

end FileFault

/-- What the program finds under a path. -/
abbrev Files := String → Except FileFault (List UInt8)

/-- Why there is no configuration. -/
inductive ConfigFault where
  | unreadable (path : String) (fault : FileFault)
  /-- The text is no configuration, or a value in it is of another type than its setting. -/
  | malformed
  | unknownAlgorithm (name : String)
  /-- Tokens are to be verified, and the setting with the key is absent. -/
  | missingKey (setting : String)
  | badKey (fault : KeyFault)
  /-- A setting that has to be positive is zero. -/
  | zero (setting : String)
  deriving DecidableEq, Repr

namespace ConfigFault

/-- The sort of a fault. -/
def kind : ConfigFault → String
  | unreadable _ _ => "Read"
  | malformed => "Parse"
  | unknownAlgorithm _ => "UnknownAlgorithm"
  | missingKey _ => "MissingKey"
  | badKey _ => "Key"
  | zero _ => "Invalid"

/-- The words for a setting that is zero. -/
def zeroWords (setting : String) : String := setting ++ " must be greater than zero"

/-- The words of a fault. -/
def describe : ConfigFault → String
  | unreadable path fault => "could not read " ++ path ++ ": " ++ fault.describe
  | malformed => "could not parse config"
  | unknownAlgorithm name => "unknown signing algorithm: " ++ name
  | missingKey setting => "auth is enabled but " ++ setting ++ " is not set"
  | badKey fault => "invalid verification key: " ++ fault.describe
  | zero setting => "invalid setting: " ++ zeroWords setting

instance : Render ConfigFault where
  render e :=
    match e with
    | unreadable path fault =>
      renderRecord e.kind [("path", render path), ("source", render fault)]
    | malformed => e.kind
    | unknownAlgorithm name => renderTuple e.kind [render name]
    | missingKey setting => renderTuple e.kind [render setting]
    | badKey fault => renderTuple e.kind [renderTuple "Error" [fault.describe]]
    | zero setting => renderTuple e.kind [render (zeroWords setting)]

end ConfigFault

end RelationGate
