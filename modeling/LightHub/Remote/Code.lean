/-
  Codes of radio remotes.  A transmitter tags each code in its low four bits,
  and keeps the two codes of one button nine apart:

      on   ...0011  (3)
      off  ...1100  (12), which is the on code + 9

  Every other tag means that the code belongs to no button.

  * `Role`, `classify`: which half of a pair a code is.
  * `CodePair`, `derivePair`: the two halves, from either of them.
  * `Learned`: a code with its pulse length, as captured from a remote.
  * `Registration`: a radio device that is ready to be added; `ofLearned` and
    `ofCodes` make one from a half and from both halves.
-/
import LightHub.Fault

namespace LightHub

/-- Which half of a pair a code is. -/
inductive Role where
  | on
  | off
  deriving DecidableEq

/-- The on and the off code of one button. -/
structure CodePair where
  on : Int64
  off : Int64
  deriving DecidableEq

/-- How far the off code lies above the on code. -/
def codeOffset : Int := 9

/-- The half that a code's low four bits tell. -/
def classify (code : Int64) : Option Role :=
  let tag := code &&& 0b1111
  if tag = 0b0011 then some .on
  else if tag = 0b1100 then some .off
  else none

/-- A code moved by `by`, if that is a code. -/
def shiftCode? (code : Int64) (distance : Int) : Option Int64 :=
  let moved := code.toInt + distance
  if Int64.minValue.toInt ≤ moved ∧ moved ≤ Int64.maxValue.toInt then some (Int64.ofInt moved)
  else none

/-- The pair that a code is half of. -/
def derivePair (code : Int64) : Except Fault CodePair :=
  match classify code with
  | some .on =>
    match shiftCode? code codeOffset with
    | some off => .ok ⟨code, off⟩
    | none => .error (.invalidCode code)
  | some .off =>
    match shiftCode? code (-codeOffset) with
    | some on => .ok ⟨on, code⟩
    | none => .error (.invalidCode code)
  | none => .error (.invalidCode code)

/-- A code and its pulse length, as captured from a remote. -/
structure Learned where
  code : Int64
  pulse : UInt32
  deriving DecidableEq

/-- A radio device that is ready to be added. -/
structure Registration where
  name : String
  on : Int64
  off : Int64
  pulse : UInt32
  deriving DecidableEq

namespace Registration

/-- The device of the button that a learned code belongs to. -/
def ofLearned (name : String) (learned : Learned) : Except Fault Registration := do
  let pair ← derivePair learned.code
  return { name, on := pair.on, off := pair.off, pulse := learned.pulse }

/-- The device of a pair that is given in full.  `on` has to be tagged as an on
    code, and `off` has to be its other half. -/
def ofCodes (name : String) (on off : Int64) (pulse : UInt32) : Except Fault Registration := do
  let pair ← derivePair on
  if classify on ≠ some .on then .error (.invalidCode on)
  else if pair.off ≠ off then .error (.invalidCode off)
  else return { name, on, off, pulse }

/-- The request that adds the device. -/
def command (r : Registration) : Command :=
  .addCodes r.name r.on r.off r.pulse

end Registration

end LightHub
