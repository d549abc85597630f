/-
  The tokens of JSON texts.

  * `Token`: brackets, separators, strings, numbers and the three literals.
  * `readUnits`, `joinUnits`: the code units of a string up to its closing
    quote, and the text that they stand for.  Escapes can leave half of a
    surrogate pair alone; such a string is in good form, but stands for no text.
  * `numberLength?`: how long the number at the head of a text is.
  * `lex`: the tokens of a text.  Where the text goes wrong, `Token.bad` is the
    last one.
-/
import LightHub.Text.Numeral

namespace LightHub.Json

inductive Token where
  | openBrace
  | closeBrace
  | openBracket
  | closeBracket
  | comma
  | colon
  /-- A string, and its text if it has one -/
  | string (text : Option String)
  /-- A number, as it is written -/
  | number (digits : List Char)
  /-- `true`, `false` or `null` -/
  | literal
  /-- Where no token can be read -/
  | bad
  deriving DecidableEq

/-- What may stand between tokens. -/
def isBlank (c : Char) : Bool :=
  c = ' ' || c = '\t' || c = '\n' || c = '\r'

/-! ## Strings -/

/-- The character that a backslash and a letter stand for. -/
def escape? : Char → Option Char
  | '"' => some '"'
  | '\\' => some '\\'
  | '/' => some '/'
  | 'b' => some '\x08'
  | 'f' => some '\x0c'
  | 'n' => some '\n'
  | 'r' => some '\r'
  | 't' => some '\t'
  | _ => none

/-- The code points and code units up to the closing quote, and the rest.  A
    control character does not stand for itself. -/
def readUnits : List Char → Option (List Nat × List Char)
  | [] => none
  | '"' :: rest => some ([], rest)
  | '\\' :: 'u' :: a :: b :: c :: d :: rest =>
    match Text.hex? [a, b, c, d], readUnits rest with
    | some unit, some (units, rest) => some (unit :: units, rest)
    | _, _ => none
  | '\\' :: e :: rest =>
    match escape? e, readUnits rest with
    | some c, some (units, rest) => some (c.toNat :: units, rest)
    | _, _ => none
  | c :: rest =>
    if c.toNat < 0x20 then none
    else (readUnits rest).map fun (units, rest) => (c.toNat :: units, rest)

def isHighSurrogate (n : Nat) : Bool := 0xD800 ≤ n && n ≤ 0xDBFF

def isLowSurrogate (n : Nat) : Bool := 0xDC00 ≤ n && n ≤ 0xDFFF

/-- The characters of code points and code units.  Two units that form a
    surrogate pair are one character, and half of a pair is none. -/
def joinUnits : List Nat → Option (List Char)
  | [] => some []
  | [n] => if isHighSurrogate n || isLowSurrogate n then none else some [Char.ofNat n]
  | high :: low :: rest =>
    if isHighSurrogate high then
      if isLowSurrogate low then
        (joinUnits rest).map
          (Char.ofNat (0x10000 + (high - 0xD800) * 0x400 + (low - 0xDC00)) :: ·)
      else none
    else if isLowSurrogate high then none
    else (joinUnits (low :: rest)).map (Char.ofNat high :: ·)

/-! ## Numbers -/

def digitsLength (s : List Char) : Nat :=
  (s.takeWhile Char.isDigit).length

/-- The length of the decimal places, if any: a point has a digit after it. -/
def fractionLength? : List Char → Option Nat
  | '.' :: rest => if digitsLength rest = 0 then none else some (1 + digitsLength rest)
  | _ => some 0

/-- The length of a sign. -/
def signLength : List Char → Nat
  | '+' :: _ | '-' :: _ => 1
  | _ => 0

/-- The length of the exponent, if any: a letter, a sign or none, and digits. -/
def exponentLength? : List Char → Option Nat
  | c :: rest =>
    if c = 'e' ∨ c = 'E' then
      let sign := signLength rest
      let digits := digitsLength (rest.drop sign)
      if digits = 0 then none else some (1 + sign + digits)
    else some 0
  | [] => some 0

/-- The length of the number at the head of a text.  It has no plus, and no
    zero before another digit. -/
def numberLength? (s : List Char) : Option Nat := do
  let sign := if s.head? = some '-' then 1 else 0
  let s := s.drop sign
  let digits := digitsLength s
  if digits = 0 ∨ (s.head? = some '0' ∧ 1 < digits) then none
  let places ← fractionLength? (s.drop digits)
  let exponent ← exponentLength? (s.drop (digits + places))
  return sign + digits + places + exponent

/-! ## Texts -/

/-- The first token of a text that starts with `c`, and the rest. -/
def first? (c : Char) (rest : List Char) : Option (Token × List Char) :=
  match c, rest with
  | '{', rest => some (.openBrace, rest)
  | '}', rest => some (.closeBrace, rest)
  | '[', rest => some (.openBracket, rest)
  | ']', rest => some (.closeBracket, rest)
  | ',', rest => some (.comma, rest)
  | ':', rest => some (.colon, rest)
  | '"', rest =>
    (readUnits rest).map fun (units, rest) => (.string ((joinUnits units).map String.ofList), rest)
  | 't', 'r' :: 'u' :: 'e' :: rest => some (.literal, rest)
  | 'f', 'a' :: 'l' :: 's' :: 'e' :: rest => some (.literal, rest)
  | 'n', 'u' :: 'l' :: 'l' :: rest => some (.literal, rest)
  | c, rest =>
    (numberLength? (c :: rest)).map fun n => (.number ((c :: rest).take n), (c :: rest).drop n)

theorem length_readUnits_le {s rest : List Char} {units : List Nat}
    (h : readUnits s = some (units, rest)) : rest.length ≤ s.length := by
  fun_induction readUnits s generalizing units rest with
  | case1 => simp at h
  | case2 => simp_all
  | case3 a b c d tail unit units' rest' htail _ ih =>
    have := ih htail
    simp_all only [Option.some.injEq, Prod.mk.injEq, List.length_cons]
    omega
  | case4 => simp at h
  | case5 e tail _ c units' rest' htail _ ih =>
    have := ih htail
    simp_all only [Option.some.injEq, Prod.mk.injEq, List.length_cons]
    omega
  | case6 => simp at h
  | case7 => simp at h
  | case8 c tail _ _ _ _ ih =>
    obtain ⟨⟨units', rest'⟩, htail, e⟩ := Option.map_eq_some_iff.1 h
    have := ih htail
    simp_all only [Prod.mk.injEq, List.length_cons]
    omega

theorem numberLength?_pos {s : List Char} {n : Nat} (h : numberLength? s = some n) : 0 < n := by
  simp only [numberLength?, bind, Option.bind] at h
  grind

/-- A token takes at least one character. -/
theorem length_first?_le {c : Char} {s rest : List Char} {t : Token}
    (h : first? c s = some (t, rest)) : rest.length ≤ s.length := by
  unfold first? at h
  split at h
  case h_7 =>
    obtain ⟨⟨units, rest'⟩, hr, e⟩ := Option.map_eq_some_iff.1 h
    have := length_readUnits_le hr
    simp_all
  case h_11 =>
    obtain ⟨n, hn, e⟩ := Option.map_eq_some_iff.1 h
    have := numberLength?_pos hn
    simp only [Prod.mk.injEq] at e
    rw [← e.2, List.length_drop, List.length_cons]
    omega
  all_goals grind

/-- The tokens of a text. -/
def lex (s : List Char) : List Token :=
  match _h : s with
  | [] => []
  | c :: rest =>
    if isBlank c then lex rest
    else
      match _e : first? c rest with
      | some (t, rest) => t :: lex rest
      | none => [.bad]
termination_by s.length
decreasing_by
  · simp
  · have := length_first?_le _e
    simp only [List.length_cons]
    omega

end LightHub.Json
