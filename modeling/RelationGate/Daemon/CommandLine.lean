import RelationGate.Number.Digits
import RelationGate.Number.Word
import RelationGate.Text.Similarity

/-!
# The command line of the daemon

The daemon takes three parameters, each with a value after an equals sign or in the next argument,
and two switches that show a text. Every argument is looked at in turn. The value of a parameter is
only checked when the next parameter or switch begins or the arguments end, and an argument that is
none of the known ones is refused before that.
-/

namespace RelationGate.Daemon

open Text Number

/-- A parameter. -/
inductive Parameter where
  | config
  | host
  | port
  deriving DecidableEq, Repr

/-- A switch. -/
inductive Switch where
  | help
  | version
  deriving DecidableEq, Repr

namespace Parameter

/-- The name of a parameter. -/
def name : Parameter → String
  | config => "config"
  | host => "host"
  | port => "port"

/-- What stands for the value of a parameter. -/
def placeholder : Parameter → String
  | config => "CONFIG"
  | host => "HOST"
  | port => "PORT"

/-- Every parameter. -/
def all : List Parameter := [config, host, port]

/-- A parameter with what stands for its value. -/
def text (p : Parameter) : String := "--" ++ p.name ++ " <" ++ p.placeholder ++ ">"

end Parameter

namespace Switch

/-- The name of a switch. -/
def name : Switch → String
  | help => "help"
  | version => "version"

/-- The letter of a switch. -/
def letter : Switch → Char
  | help => 'h'
  | version => 'V'

/-- Every switch. -/
def all : List Switch := [help, version]

end Switch

/-- What a long name stands for. -/
inductive Named where
  | parameter (p : Parameter)
  | switch (s : Switch)

namespace Named

/-- Every long name, in the order in which they are suggested. -/
def all : List (String × Named) :=
  Parameter.all.map (fun p => (p.name, .parameter p)) ++
    Switch.all.map (fun s => (s.name, .switch s))

/-- What a long name stands for, if anything. -/
def ofName? (s : String) : Option Named := all.lookup s

end Named

/-- What the arguments set. -/
structure Arguments where
  config : Option String := none
  host : Option String := none
  port : Option UInt16 := none
  deriving DecidableEq, Repr

/-- What the arguments ask for. -/
inductive Command where
  | run (arguments : Arguments)
  | display (switch : Switch)
  deriving DecidableEq, Repr

/-- What a line on the usage mentions besides the name of the program. -/
structure Mentioned where
  /-- Some parameter. -/
  parameters : Bool := false
  switch : Option Switch := none
  deriving DecidableEq, Repr

/-- Why arguments are refused. -/
inductive CommandFault where
  | unexpected (argument : String) (suggestion : Option String) (mentioned : Mentioned)
  | unneededValue (value : String) (switch : Switch) (mentioned : Mentioned)
  | badValue (value : String) (parameter : Parameter) (reason : String)
  | missingValue (parameter : Parameter)
  | repeated (parameter : Parameter)
  deriving DecidableEq, Repr

/-! ## Texts -/

/-- The name of the program. -/
def programName : String := "permgate-daemon"

/-- The line on the usage. -/
def Mentioned.usage (m : Mentioned) : String :=
  let parameters := "<" ++ String.intercalate "|" (Parameter.all.map (·.text)) ++ ">"
  let words :=
    (m.switch.map fun s => "--" ++ s.name).toList ++ (if m.parameters then [parameters] else [])
  "Usage: " ++ programName ++ " " ++
    String.intercalate " " (if words.isEmpty then ["[OPTIONS]"] else words)

/-- What is wrong with the arguments. -/
def CommandFault.describe : CommandFault → String
  | unexpected argument _ _ => "unexpected argument '" ++ argument ++ "' found"
  | unneededValue value switch _ =>
    "unexpected value '" ++ value ++ "' for '--" ++ switch.name ++
      "' found; no more were expected"
  | badValue value parameter reason =>
    "invalid value '" ++ value ++ "' for '" ++ parameter.text ++ "': " ++ reason
  | missingValue parameter =>
    "a value is required for '" ++ parameter.text ++ "' but none was supplied"
  | repeated parameter => "the argument '" ++ parameter.text ++ "' cannot be used multiple times"

/-- What might help. -/
def CommandFault.hints : CommandFault → List String
  | unexpected _ suggestion mentioned =>
    (suggestion.map fun s => "  tip: a similar argument exists: '--" ++ s ++ "'").toList ++
      [mentioned.usage]
  | unneededValue _ _ mentioned => [mentioned.usage]
  | badValue _ _ _ | missingValue _ => []
  | repeated _ => [Mentioned.usage {}]

/-- The message on refused arguments, in paragraphs. -/
def CommandFault.message (e : CommandFault) : String :=
  String.intercalate "\n\n"
    (("error: " ++ e.describe) :: e.hints ++ ["For more information, try '--help'."]) ++ "\n"

/-- The text that a switch shows. -/
def Switch.shown : Switch → List String
  | help =>
    ["Permissions gateway daemon",
     "",
     Mentioned.usage {},
     "",
     "Options:",
     "      --config <CONFIG>  Path to the TOML configuration file [default: permgate.toml]",
     "      --host <HOST>      Override the configured RPC host",
     "      --port <PORT>      Override the configured RPC port",
     "  -h, --help             Print help",
     "  -V, --version          Print version"]
  | version => [programName ++ " 0.1.0"]

/-! ## Values -/

/-- Why a text is no signed word of 64 bits. -/
inductive WordFault where
  | empty
  | badDigit
  | tooLarge
  | tooSmall
  deriving DecidableEq, Repr

/-- The words of a fault. -/
def WordFault.describe : WordFault → String
  | empty => "cannot parse integer from empty string"
  | badDigit => "invalid digit found in string"
  | tooLarge => "number too large to fit in target type"
  | tooSmall => "number too small to fit in target type"

/-- The number that some digits write, up to a bound. The first character that is no digit or takes
the number beyond the bound decides. -/
def magnitude (most : Nat) (beyond : WordFault) : List Char → Nat → Except WordFault Nat
  | [], n => .ok n
  | c :: cs, n =>
    match digitIn? 10 c with
    | none => .error .badDigit
    | some d => if most < 10 * n + d then .error beyond else magnitude most beyond cs (10 * n + d)

/-- The signed word of 64 bits that a text writes. -/
def signedWord (s : String) : Except WordFault Int :=
  let positive (cs : List Char) : Except WordFault Int :=
    (magnitude (signWeight - 1) .tooLarge cs 0).map fun n => (n : Int)
  match s.toList with
  | [] => .error .empty
  | ['+'] | ['-'] => .error .badDigit
  | '+' :: cs => positive cs
  | '-' :: cs => (magnitude signWeight .tooSmall cs 0).map fun n => -(n : Int)
  | cs => positive cs

/-- The port that a text writes. -/
def portOf (s : String) : Except CommandFault UInt16 :=
  match signedWord s with
  | .error e => .error (.badValue s .port e.describe)
  | .ok n =>
    if 0 ≤ n ∧ n < 65536 then .ok (UInt16.ofNat n.toNat)
    else .error (.badValue (toString n) .port (toString n ++ " is not in 0..=65535"))

/-! ## Reading the arguments -/

/-- What the arguments read so far say. -/
structure Progress where
  arguments : Arguments := {}
  /-- A parameter that has begun, and its value if it is there already. -/
  pending : Option (Parameter × Option String) := none
  /-- The parameters are over. -/
  closed : Bool := false

namespace Progress

/-- A parameter has been set. -/
def isSet (s : Progress) : Parameter → Bool
  | .config => s.arguments.config.isSome
  | .host => s.arguments.host.isSome
  | .port => s.arguments.port.isSome

/-- Sets a parameter. -/
def set (s : Progress) (p : Parameter) (value : String) : Except CommandFault Progress := do
  if s.isSet p then throw (.repeated p)
  let a := s.arguments
  match p with
  | .config => return { s with arguments := { a with config := some value } }
  | .host => return { s with arguments := { a with host := some value } }
  | .port => return { s with arguments := { a with port := some (← portOf value) } }

/-- Checks and sets the parameter that has begun. -/
def settle (s : Progress) : Except CommandFault Progress :=
  match s.pending with
  | none => .ok s
  | some (p, none) => .error (.missingValue p)
  | some (p, some value) => set { s with pending := none } p value

/-- Some parameter has been checked. -/
def anySet (s : Progress) : Bool := Parameter.all.any s.isSet

/-- What is mentioned after the parameters that have a value. -/
def mentioned (s : Progress) : Mentioned :=
  { parameters :=
      s.anySet || match s.pending with
        | some (_, some _) => true
        | _ => false }

/-- Refuses a long name. A similar one is suggested. -/
def refuseName (s : Progress) (name : String) : CommandFault :=
  let suggestion := Similarity.closest ⟨7, 10, by decide⟩ name (Named.all.map (·.1))
  .unexpected ("--" ++ name) suggestion
    (match suggestion.bind Named.ofName? with
    | some (.parameter _) => { s.mentioned with parameters := true }
    | some (.switch w) => { s.mentioned with switch := some w }
    | none => s.mentioned)

end Progress

/-- A long argument cut at its first equals sign. -/
def cutValue (cs : List Char) : String × Option String :=
  let name := String.ofList (cs.takeWhile (· ≠ '='))
  match cs.dropWhile (· ≠ '=') with
  | [] => (name, none)
  | _ :: value => (name, some (String.ofList value))

/-- Reads the arguments from left to right. -/
def Progress.read (s : Progress) : List String → Except CommandFault Command
  | [] => do return .run (← s.settle).arguments
  | argument :: rest =>
    if s.closed then .error (.unexpected argument none {})
    else
      match argument.toList with
      | ['-', '-'] => read { s with closed := true } rest
      | '-' :: '-' :: cs =>
        let (name, value) := cutValue cs
        match Named.ofName? name, value with
        | none, _ => .error (s.refuseName name)
        | some (.parameter p), none => do
          read { (← s.settle) with pending := some (p, none) } rest
        | some (.parameter p), some value => do
          read (← (← s.settle).set p value) rest
        | some (.switch w), none => do
          discard s.settle
          return .display w
        | some (.switch w), some value =>
          .error (.unneededValue value w { parameters := s.anySet, switch := some w })
      | '-' :: c :: _ =>
        match Switch.all.find? (·.letter == c) with
        | some w => do
          discard s.settle
          return .display w
        | none => .error (.unexpected ("-" ++ c.toString) none {})
      | _ =>
        match s.pending with
        | some (p, none) => read { s with pending := some (p, some argument) } rest
        | _ => .error (.unexpected argument none {})

/-- What some arguments ask for. -/
def Command.ofArguments (arguments : List String) : Except CommandFault Command :=
  Progress.read {} arguments

end RelationGate.Daemon
