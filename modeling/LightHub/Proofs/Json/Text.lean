/-
  Texts of JSON values.

  * `Spelled`: a text of tokens, with any blanks between them.
  * `Token.Apart`, `isChain_apart`: in a value, no number follows a number.
  * `Value.IsText`: a text of a value; `lex_of_isText`: **it is read as the tokens of
    the value**, whatever blanks are in it.
-/
import LightHub.Proofs.Json.Token
import LightHub.Proofs.Json.Value
import Mathlib.Data.List.Chain

namespace LightHub.Json

variable {c : Char} {cs rest : List Char} {t : Token} {ts : List Token}

/-- A text of tokens, with any blanks before, between and after them. -/
inductive Spelled : List Token → List Char → Prop
  | nil : Spelled [] []
  | blank {c : Char} {cs : List Char} {ts : List Token} : isBlank c = true → Spelled ts cs →
      Spelled ts (c :: cs)
  | token {t : Token} {cs rest : List Char} {ts : List Token} : TokenText t cs →
      Spelled ts rest → Spelled (t :: ts) (cs ++ rest)

/-! ## Numbers side by side -/

/-- Two tokens that can follow each other without a blank. -/
def Token.Apart (t t' : Token) : Prop :=
  ∀ a b, t = .number a → t' ≠ .number b

/-- Before any other token, a number ends. -/
theorem endsNumber_of_tokenText (h : TokenText t cs) (ht : ∀ digits, t ≠ .number digits)
    (rest : List Char) : EndsNumber (cs ++ rest) := by
  cases h with
  | number _ => exact absurd rfl (ht cs)
  | openBrace | closeBrace | openBracket | closeBracket | comma | colon | string _ | true | false
  | null =>
    rintro _ ⟨⟩
    decide

theorem endsNumber_of_spelled (h : Spelled ts cs)
    (ht : ∀ digits, ts.head? ≠ some (.number digits)) : EndsNumber cs := by
  cases h with
  | nil => exact endsNumber_nil
  | blank hc _ =>
    rintro _ ⟨⟩
    rcases isBlank_iff.1 hc with rfl | rfl | rfl | rfl
    all_goals decide
  | token htoken _ =>
    exact endsNumber_of_tokenText htoken (fun digits heq => ht digits (congrArg some heq)) _

/-- **A text of tokens is read as these tokens**, if no two numbers are side by side. -/
theorem lex_of_spelled (h : Spelled ts cs) (hts : ts.IsChain Token.Apart) : lex cs = ts := by
  induction h with
  | nil => exact lex_nil
  | blank hc _ ih =>
    rw [lex_blank hc]
    exact ih hts
  | @token t _ _ ts htoken hrest ih =>
    have hends (digits : List Char) (ht : t = .number digits) : EndsNumber _ :=
      endsNumber_of_spelled hrest fun digits' hhead => hts.rel_head? hhead digits digits' ht rfl
    rw [lex_of_tokenText htoken hends, ih hts.tail]

/-- Where a value is passed over, a number is followed by something else. -/
theorem isChain_apart_of_foldlM {s s' : Skim} (h : ts.foldlM Skim.step s = some s') :
    ts.IsChain Token.Apart := by
  induction ts generalizing s with
  | nil => exact .nil
  | cons t ts ih =>
    rw [List.foldlM_cons] at h
    obtain ⟨mid, hstep, hrest⟩ := Option.bind_eq_some_iff.1 h
    refine List.isChain_cons.2 ⟨?_, ih hrest⟩
    -- after a number a whole value has been read, and no step takes another one
    rintro t' ht' a b rfl rfl
    obtain ⟨ts', rfl⟩ := List.head?_eq_some_iff.1 ht'
    rw [List.foldlM_cons] at hrest
    obtain ⟨last, hnext, -⟩ := Option.bind_eq_some_iff.1 hrest
    have hnone := Skim.step_number_number s a b
    rw [hstep, Option.bind_some, hnext] at hnone
    cases hnone

theorem isChain_apart (v : Value) : v.tokens.IsChain Token.Apart :=
  isChain_apart_of_foldlM (Skim.foldlM_start v)

/-! ## Texts of values -/

/-- A text of a value, with any blanks around its tokens. -/
def Value.IsText (v : Value) (text : String) : Prop :=
  Spelled v.tokens text.toList

/-- **A text of a value is read as the tokens of the value**, whatever blanks are in
    it. -/
theorem lex_of_isText {v : Value} {text : String} (h : v.IsText text) :
    lex text.toList = v.tokens :=
  lex_of_spelled h (isChain_apart v)

end LightHub.Json
