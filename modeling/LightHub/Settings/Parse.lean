/-
  Reading settings from a JSON text: an object whose members may be left out and
  come in any order, or an array of the values in their order, of which the last
  ones may be left out.  What is left out keeps its default.

  * `Settings.Key`: the members, and `Settings.assign`: reading the value of one.
  * `Settings.Reading`: how far a text has been read; `Settings.Reading.step`
    takes one token.  Members with other keys may hold any value, and no member
    may come twice.
  * `Settings.parse`: the settings of a text.  Of several things that are wrong
    with it, the first one is reported.
-/
import LightHub.Json.Skim
import LightHub.Settings.Basic

namespace LightHub.Settings

open Json (Token Skim)

/-- What is wrong with a text. -/
inductive Refusal where
  | malformed
  /-- A protocol version that is none -/
  | version (text : String)
  deriving DecidableEq

/-! ## Members -/

inductive Key where
  | hubIP
  | hubPort
  | protocol
  | readTimeout
  | writeTimeout
  deriving DecidableEq

/-- The keys in the order of an array's values. -/
def Key.all : List Key :=
  [hubIP, hubPort, protocol, readTimeout, writeTimeout]

def Key.text : Key → String
  | hubIP => "hub_ip"
  | hubPort => "hub_port"
  | protocol => "protocol"
  | readTimeout => "read_timeout_ms"
  | writeTimeout => "write_timeout_ms"

def Key.ofText? (text : String) : Option Key :=
  all.find? (·.text = text)

/-- A number as it is written, if it is a plain natural number of at most `max`. -/
def natural? (max : Nat) (digits : List Char) : Option Nat :=
  (Text.natural? digits).filter (· ≤ max)

/-- Reads the value of a member.  Every known value is a single token. -/
def assign (s : Settings) : Key → Token → Except Refusal Settings
  | .hubIP, .string (some text) =>
    match Net.parseIP? text with
    | some hubIP => .ok { s with hubIP }
    | none => .error .malformed
  | .hubPort, .number digits =>
    match natural? (UInt16.size - 1) digits with
    | some n => .ok { s with hubPort := UInt16.ofNat n }
    | none => .error .malformed
  | .protocol, .string (some text) =>
    match Version.parse? text with
    | some protocol => .ok { s with protocol }
    | none => .error (.version text)
  | .readTimeout, .number digits =>
    match natural? (UInt64.size - 1) digits with
    | some n => .ok { s with readTimeout := UInt64.ofNat n }
    | none => .error .malformed
  | .writeTimeout, .number digits =>
    match natural? (UInt64.size - 1) digits with
    | some n => .ok { s with writeTimeout := UInt64.ofNat n }
    | none => .error .malformed
  | _, _ => .error .malformed

/-! ## Texts -/

/-- How far a text has been read.  `seen` are the known keys so far, `left` the
    keys of the values that an array may still hold. -/
inductive Reading where
  | start
  /-- Inside of an object, before a key; `empty` if it may end here -/
  | key (seen : List Key) (s : Settings) (empty : Bool)
  | colon (seen : List Key) (s : Settings) (key : Option Key)
  | value (seen : List Key) (s : Settings) (key : Key)
  /-- In the value of a member with another key -/
  | skimming (seen : List Key) (s : Settings) (skim : Skim)
  | afterMember (seen : List Key) (s : Settings)
  /-- Inside of an array, before a value; `empty` if it may end here -/
  | item (left : List Key) (s : Settings) (empty : Bool)
  | afterItem (left : List Key) (s : Settings)
  | finished (s : Settings)

namespace Reading

/-- Takes a token. -/
def step : Reading → Token → Except Refusal Reading
  | start, .openBrace => .ok (key [] default true)
  | start, .openBracket => .ok (item Key.all default true)
  | key seen s _, .string (some text) =>
    match Key.ofText? text with
    | some k => if k ∈ seen then .error .malformed else .ok (colon (k :: seen) s (some k))
    | none => .ok (colon seen s none)
  | key _ s true, .closeBrace => .ok (finished s)
  | colon seen s (some k), .colon => .ok (value seen s k)
  | colon seen s none, .colon => .ok (skimming seen s .start)
  | value seen s k, t => do
    let s ← s.assign k t
    return afterMember seen s
  | skimming seen s skim, t =>
    match skim.step t with
    | some skim => .ok (if skim.isComplete then afterMember seen s else skimming seen s skim)
    | none => .error .malformed
  | afterMember seen s, .comma => .ok (key seen s false)
  | afterMember _ s, .closeBrace => .ok (finished s)
  | item _ s true, .closeBracket => .ok (finished s)
  | item (k :: left) s _, t => do
    let s ← s.assign k t
    return afterItem left s
  | afterItem (k :: left) s, .comma => .ok (item (k :: left) s false)
  | afterItem _ s, .closeBracket => .ok (finished s)
  | _, _ => .error .malformed

end Reading

/-- The settings of a text. -/
def parse (text : String) : Except Refusal Settings := do
  match ← (Json.lex text.toList).foldlM Reading.step .start with
  | .finished s => return s
  | _ => throw .malformed

end LightHub.Settings
