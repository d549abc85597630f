/-
  Lines of a byte stream.

  * `splitLine`: the bytes through the first newline, and the rest.
  * `readLine`: the first line of a stream as text, without the carriage
    returns and newlines at its end, and what is unread after it.  A line that
    is not UTF-8 is consumed all the same.
  * `readReply`: the first line of a stream as a reply.
  * `length_readLine_lt`: a line takes at least one byte from the stream.
-/
import LightHub.Text.Utf8
import LightHub.Wire.Reply

namespace LightHub.Stream

/-- The bytes through the first newline, or all if there is none, and the rest. -/
def splitLine : List UInt8 → List UInt8 × List UInt8
  | [] => ([], [])
  | b :: rest =>
    if b = 10 then ([b], rest)
    else
      let (line, rest) := splitLine rest
      (b :: line, rest)

/-- A line without the carriage returns and newlines at its end. -/
def dropLineEnd (line : String) : String :=
  String.ofList (Text.dropEnd (fun c => c = '\n' ∨ c = '\r') line.toList)

/-- The first line of a stream, and what is unread after it. -/
def readLine : List UInt8 → Except Fault String × List UInt8
  | [] => (.error (.transport .ended), [])
  | b :: rest =>
    let (line, rest) := splitLine (b :: rest)
    match Text.ofBytes? line with
    | some text => (.ok (dropLineEnd text), rest)
    | none => (.error (.transport .notUtf8), rest)

/-- The first line of a stream as a reply, and what is unread after it. -/
def readReply (unread : List UInt8) : Except Fault Reply × List UInt8 :=
  let (line, rest) := readLine unread
  (line.bind Reply.decode, rest)

/-! ## Progress -/

theorem length_splitLine_cons (b : UInt8) (rest : List UInt8) :
    (splitLine (b :: rest)).2.length ≤ rest.length := by
  induction rest generalizing b with
  | nil => by_cases h : b = 10 <;> simp [splitLine, h]
  | cons c rest ih =>
    by_cases h : b = 10
    · simp [splitLine, h]
    · have := ih c
      simp only [splitLine, h, if_false, List.length_cons] at this ⊢
      omega

/-- A line takes at least one byte from the stream. -/
theorem length_readLine_lt {s : List UInt8} (h : s ≠ []) : (readLine s).2.length < s.length := by
  match s with
  | [] => exact absurd rfl h
  | b :: rest =>
    have := length_splitLine_cons b rest
    simp only [readLine, List.length_cons]
    split <;> exact Nat.lt_succ_of_le this

end LightHub.Stream
