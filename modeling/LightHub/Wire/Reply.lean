/-
  Replies: `<tag> <status> <token>...` on one line.

  * `Reply`: the tag, the status and the tokens after it.
  * `Reply.decode`: reads a line.  Any blanks separate its words; the second
    one is the status, a number of at most 65535 in ASCII digits.
  * `Reply.reason`: the tokens, with single spaces between them.
  * `Reply.render`: a line that the reply is read from.
-/
import LightHub.Fault
import LightHub.Text.Blank
import LightHub.Text.Numeral

namespace LightHub

structure Reply where
  tag : String
  status : Status
  tokens : List String
  deriving DecidableEq

namespace Reply

/-- Reads a status: ASCII digits only, and at most 65535.  The number is all that has to
    be kept of it: the entry of a known status is found by its number, and has that
    number (`Status.entry?_eq_some_iff`), and a status without an entry is its number.
    So two statuses that have been read are the same exactly if their numbers are. -/
def decodeStatus (token : String) : Except Fault Status :=
  match Text.natural? token.toList with
  | none => .error (.malformed (.statusNotNumber token))
  | some n =>
    if n < UInt16.size then .ok ⟨UInt16.ofNat n⟩ else .error (.malformed (.statusOutOfRange token))

/-- Reads a reply line. -/
def decode (line : String) : Except Fault Reply :=
  match Text.words line with
  | tag :: status :: tokens => do
    let status ← decodeStatus status
    return { tag, status, tokens }
  | _ => .error (.malformed (.tooFewTokens (Text.trimEnd line)))

def succeeds (r : Reply) : Bool :=
  r.status.succeeds

/-- The tokens with single spaces between them. -/
def reason (r : Reply) : String :=
  " ".intercalate r.tokens

/-- The reply as a line, without a line end. -/
def render (r : Reply) : String :=
  " ".intercalate (r.tag :: toString r.status.code.toNat :: r.tokens)

end Reply

end LightHub
