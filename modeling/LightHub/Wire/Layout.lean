/-
  Layouts of replies that carry data.  The data stands at fixed places after the
  status, with label words around it; a layout names the places once, so that a
  value is asked for by its name.

      KL/0.2 200 Code: 5592371 Pulse: 189
                 ───── ─────── ────── ───
                 label  code   label  pulse

  * `Slot`, `Layout`: one place, and the places of a reply in order.
  * `Layout.capture`, `Layout.listHeader`: the layouts of the protocol.
  * `Layout.extract`: matches a reply.  Labels are compared up to letter case,
    and tokens after the last slot are ignored.
  * `Fields.get`, `Fields.number`: a value by name, as text or as a number.
-/
import LightHub.Wire.Reply

namespace LightHub

inductive Slot where
  /-- A fixed word, in any letter case -/
  | label (word : String)
  /-- A value with a name -/
  | field (name : String)
  deriving DecidableEq

structure Layout where
  name : String
  slots : List Slot

/-- The values of a reply that a layout names, in order. -/
structure Fields where
  layout : String
  values : List (String × String)
  deriving DecidableEq

namespace Layout

/-- The second reply to a sniff: `Code: <code> Pulse: <pulse>`. -/
def capture : Layout :=
  ⟨"sniff capture", [.label "Code:", .field "code", .label "Pulse:", .field "pulse"]⟩

/-- The header of a counted list: `Number of Devices <count>`. -/
def listHeader : Layout :=
  ⟨"list header", [.label "Number", .label "of", .label "Devices", .field "count"]⟩

/-- Pairs slots with tokens from position `i` on. -/
def matchSlots (name : String) : Nat → List Slot → List String →
    Except Fault (List (String × String))
  | i, .label word :: slots, token :: tokens =>
    if Text.sameLetters token word then matchSlots name (i + 1) slots tokens
    else .error (.malformed (.labelMismatch name word i token))
  | i, .field field :: slots, token :: tokens =>
    (matchSlots name (i + 1) slots tokens).map ((field, token) :: ·)
  | _, _, _ => .ok []

/-- Matches a reply.  Too few tokens are reported before any label. -/
def extract (l : Layout) (r : Reply) : Except Fault Fields :=
  if r.tokens.length < l.slots.length then
    .error (.malformed (.tokensMissing l.name l.slots.length r.tokens.length))
  else
    (matchSlots l.name 0 l.slots r.tokens).map fun values => ⟨l.name, values⟩

end Layout

namespace Fields

/-- The text of a field: the first value of that name. -/
def get (f : Fields) (field : String) : Except Fault String :=
  match f.values.find? (·.1 = field) with
  | some (_, value) => .ok value
  | none => .error (.malformed (.noField f.layout field))

/-- A field as a number in the form that `read` takes. -/
def number {α : Type} (read : List Char → Option α) (f : Fields) (field : String) :
    Except Fault α := do
  let token ← f.get field
  match read token.toList with
  | some n => .ok n
  | none => .error (.malformed (.notNumber f.layout field token))

end Fields

end LightHub
