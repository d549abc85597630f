/-
  Reply bodies: the lines after a header.

  * `BodyEnd`: a body has as many lines as its header counts, or ends at a line
    that holds a single dot.
  * `readCounted`: a counted body.  The dot or the end of the stream before the
    last line is an error, never a short body.
  * `readToSentinel`: a body that ends at the dot.
-/
import LightHub.Stream.Line

namespace LightHub

/-- How a body ends. -/
inductive BodyEnd where
  /-- After this many lines -/
  | count (n : Nat)
  /-- At the line `.` -/
  | sentinel
  deriving DecidableEq

namespace Stream

/-- The line that ends a body without a count. -/
def sentinel : String := "."

/-- Reads the last `left` lines of a body of `total`. -/
def readCounted (total : Nat) : (left : Nat) → List UInt8 →
    Except Fault (List String) × List UInt8
  | 0, unread => (.ok [], unread)
  | left + 1, unread =>
    match readLine unread with
    | (.error e, rest) => (.error e, rest)
    | (.ok line, rest) =>
      if line = sentinel then
        (.error (.malformed (.bodyEnded (total - (left + 1)) total)), rest)
      else
        let (lines, rest) := readCounted total left rest
        (lines.map (line :: ·), rest)

/-- Reads lines up to the sentinel, which is consumed and left out. -/
def readToSentinel (unread : List UInt8) : Except Fault (List String) × List UInt8 :=
  match _h : readLine unread with
  | (.error e, rest) => (.error e, rest)
  | (.ok line, rest) =>
    if line = sentinel then (.ok [], rest)
    else
      let (lines, rest) := readToSentinel rest
      (lines.map (line :: ·), rest)
termination_by unread.length
decreasing_by
  have hne : unread ≠ [] := by
    rintro rfl
    simp [readLine] at _h
  have hlt := length_readLine_lt hne
  rwa [_h] at hlt

/-- Reads a body. -/
def readBody : BodyEnd → List UInt8 → Except Fault (List String) × List UInt8
  | .count n => readCounted n n
  | .sentinel => readToSentinel

end Stream

end LightHub
