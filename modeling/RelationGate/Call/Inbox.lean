import RelationGate.Wire.Request

/-!
# Inbound messages

A message is received as a value of the type that its receiver wants. `MessageForm` is what is known
of such a type: how a document is read as a value, whether a value can be checked, and how it is
rendered.

The handler and the stages hold streams of the messages of their call, one around the other. The
innermost takes the next message and decodes it. The next one keeps the rendering of the first
message that is received through it. A stage that checks messages puts one more around those.
-/

namespace RelationGate

/-- What messages are received as. -/
structure MessageForm (α : Type) where
  /-- The value that a document holds, or what is wrong with the document. -/
  read : Json → Except String α
  /-- The outcome of the check of a value, if it can be checked. -/
  validate? : α → Option (Except BackendError Unit)
  rendering : α → String

/-- The value that a message holds; a missing message is an empty one. -/
def MessageForm.decode {α : Type} (form : MessageForm α) (message : Json) : Except CallError α :=
  let message := match message with | .null => Json.empty | j => j
  match form.read message with
  | .ok a => .ok a
  | .error fault => .error (.badRequest ("could not decode request: " ++ fault))

/-- The requests of a sort. A probe cannot be checked. -/
def RequestKind.form (kind : RequestKind) : MessageForm (Request kind) where
  read message := ((Request.codec kind).decode message).mapError (·.describe)
  validate? r := if kind = .probe then none else some (Request.validate kind r)
  rendering := Request.rendering kind

theorem RequestKind.form_decode (kind : RequestKind) (message : Json) :
    kind.form.decode message = Request.decode kind message := by
  simp only [MessageForm.decode, form, Request.decode]
  cases (Request.codec kind).decode _ with
  | ok r => rfl
  | error fault => rfl

/-- A stream of the messages of a call. -/
inductive Inbox where
  /-- What has yet to be received. -/
  | messages (inbound : List Json)
  /-- Keeps the rendering of the first message that is received. -/
  | keeping (first : Option String) (inner : Inbox)
  /-- Checks each message that is received. -/
  | checking (inner : Inbox)

namespace Inbox

variable {α : Type}

/-- Takes the next message as a value, if there is one. A message that cannot be decoded is used up,
and so is one that does not pass the check. -/
def receive (form : MessageForm α) : Inbox → Except CallError (Option α) × Inbox
  | messages [] => (.ok none, messages [])
  | messages (message :: inbound) => ((form.decode message).map some, messages inbound)
  | keeping first inner =>
    match receive form inner with
    | (.ok (some a), inner) => (.ok (some a), keeping (first <|> some (form.rendering a)) inner)
    | (outcome, inner) => (outcome, keeping first inner)
  | checking inner =>
    match receive form inner with
    | (.ok (some a), inner) =>
      match form.validate? a with
      | some (.error e) => (.error (.badRequest e.text), checking inner)
      | _ => (.ok (some a), checking inner)
    | (outcome, inner) => (outcome, checking inner)

/-- Receives a message; it is a failure if there is none. -/
def request (form : MessageForm α) (i : Inbox) : Except CallError α × Inbox :=
  match i.receive form with
  | (.ok (some a), i) => (.ok a, i)
  | (.ok none, i) => (.error (.badRequest "missing request message"), i)
  | (.error e, i) => (.error e, i)

/-- What has yet to be received. -/
def inbound : Inbox → List Json
  | messages inbound => inbound
  | keeping _ inner | checking inner => inner.inbound

/-- The rendering of the first message that was received. -/
def firstMessage : Inbox → Option String
  | messages _ => none
  | keeping first _ => first
  | checking inner => inner.firstMessage

end Inbox

end RelationGate
