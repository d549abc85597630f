/-
  Passing over one JSON value of any kind, token by token.

  * `Skim`: what is expected next, and the brackets that are open.
  * `Skim.step`: takes one token; none if no value goes on like that.
  * `Skim.isComplete`: whether the value has ended.
-/
import LightHub.Json.Token

namespace LightHub.Json

/-- What an open bracket encloses. -/
inductive Enclosure where
  | array
  | object
  deriving DecidableEq

/-- What comes next in a value. -/
inductive Expected where
  | value
  /-- The first item of an array, or its end -/
  | valueOrEnd
  | key
  /-- The first key of an object, or its end -/
  | keyOrEnd
  | colon
  /-- What follows a whole value: a comma or a closing bracket, or nothing -/
  | next
  deriving DecidableEq

/-- A value that has been read in part. -/
structure Skim where
  expected : Expected
  /-- The brackets that are open, the innermost one first -/
  enclosing : List Enclosure
  deriving DecidableEq

namespace Skim

/-- Before a value. -/
def start : Skim := ⟨.value, []⟩

/-- Takes a token where a value may start. -/
def stepValue (enclosing : List Enclosure) : Token → Option Skim
  | .string _ | .number _ | .literal => some ⟨.next, enclosing⟩
  | .openBrace => some ⟨.keyOrEnd, .object :: enclosing⟩
  | .openBracket => some ⟨.valueOrEnd, .array :: enclosing⟩
  | _ => none

/-- Takes a token. -/
def step : Skim → Token → Option Skim
  | ⟨.value, enclosing⟩, t => stepValue enclosing t
  | ⟨.valueOrEnd, .array :: enclosing⟩, .closeBracket => some ⟨.next, enclosing⟩
  | ⟨.valueOrEnd, enclosing⟩, t => stepValue enclosing t
  | ⟨.key, enclosing⟩, .string _ => some ⟨.colon, enclosing⟩
  | ⟨.keyOrEnd, .object :: enclosing⟩, .closeBrace => some ⟨.next, enclosing⟩
  | ⟨.keyOrEnd, enclosing⟩, .string _ => some ⟨.colon, enclosing⟩
  | ⟨.colon, enclosing⟩, .colon => some ⟨.value, enclosing⟩
  | ⟨.next, .array :: enclosing⟩, .comma => some ⟨.value, .array :: enclosing⟩
  | ⟨.next, .array :: enclosing⟩, .closeBracket => some ⟨.next, enclosing⟩
  | ⟨.next, .object :: enclosing⟩, .comma => some ⟨.key, .object :: enclosing⟩
  | ⟨.next, .object :: enclosing⟩, .closeBrace => some ⟨.next, enclosing⟩
  | _, _ => none

/-- Whether the value has ended. -/
def isComplete (s : Skim) : Bool :=
  s.expected = .next && s.enclosing = []

end Skim

end LightHub.Json
