/-
  The tokens of texts in good form.

  * `lex_blank`, `lex_of_first?`: a text is read from its front.
  * `Spells`: what stands between quotes; `readUnits_of_spells`: it is read.
  * `Plain`: a text that stands for itself between quotes.
  * `IsNumber`: how a number is written; `EndsNumber`: where it ends;
    `numberLength?_of_isNumber`: it is read up to such a place.
  * `TokenText`: how a token is written; `lex_of_tokenText`: **a token that is written
    so is read.**
-/
import LightHub.Json.Token
import LightHub.Proofs.Text.Numeral

namespace LightHub.Json

open Text (NoDigit)

variable {c : Char} {cs rest rest' : List Char} {units : List Nat}

/-! ## The front of a text -/

theorem lex_nil : lex [] = [] := by
  rw [lex]

theorem lex_blank (h : isBlank c = true) : lex (c :: rest) = lex rest := by
  rw [lex, if_pos h]

theorem lex_of_first? {t : Token} (hc : isBlank c = false) (h : first? c rest = some (t, rest')) :
    lex (c :: rest) = t :: lex rest' := by
  rw [lex, if_neg (by rw [hc]; decide)]
  split
  next heq =>
    rw [h] at heq
    cases heq
    rfl
  next heq =>
    rw [h] at heq
    cases heq

theorem isBlank_iff : isBlank c = true ↔ c = ' ' ∨ c = '\t' ∨ c = '\n' ∨ c = '\r' := by
  simp only [isBlank, Bool.or_eq_true, decide_eq_true_eq, or_assoc]

/-! ## Strings -/

/-- A character that stands for itself between quotes. -/
def IsPlain (c : Char) : Prop :=
  c ≠ '"' ∧ c ≠ '\\' ∧ 0x20 ≤ c.toNat

instance (c : Char) : Decidable (IsPlain c) :=
  inferInstanceAs (Decidable (c ≠ '"' ∧ c ≠ '\\' ∧ 0x20 ≤ c.toNat))

/-- What stands between quotes for code points and code units. -/
inductive Spells : List Char → List Nat → Prop
  | nil : Spells [] []
  | plain {c : Char} {cs : List Char} {units : List Nat} : IsPlain c → Spells cs units →
      Spells (c :: cs) (c.toNat :: units)
  | escape {e c : Char} {cs : List Char} {units : List Nat} : escape? e = some c →
      Spells cs units → Spells ('\\' :: e :: cs) (c.toNat :: units)
  | unit {a b c d : Char} {n : Nat} {cs : List Char} {units : List Nat} :
      Text.hex? [a, b, c, d] = some n → Spells cs units →
      Spells ('\\' :: 'u' :: a :: b :: c :: d :: cs) (n :: units)

theorem readUnits_of_spells (h : Spells cs units) (rest : List Char) :
    readUnits (cs ++ '"' :: rest) = some (units, rest) := by
  induction h with
  | nil => rfl
  | plain hc _ ih =>
    obtain ⟨hquote, hslash, hcontrol⟩ := hc
    rw [List.cons_append, readUnits]
    · rw [if_neg (Nat.not_lt.2 hcontrol), ih]
      rfl
    · exact hquote
    · exact fun _ _ _ _ _ heq _ => hslash heq
    · exact fun _ _ heq _ => hslash heq
  | escape he _ ih =>
    rw [List.cons_append, List.cons_append, readUnits]
    · rw [he, ih]
    · rintro _ _ _ _ _ rfl
      cases he
  | unit hn _ ih =>
    simp only [List.cons_append, readUnits, hn, ih]

/-- A text that stands for itself between quotes. -/
def Plain (s : String) : Prop :=
  ∀ c ∈ s.toList, IsPlain c

instance (s : String) : Decidable (Plain s) :=
  decidable_of_iff (s.toList.all fun c => IsPlain c) (by simp [Plain])

theorem Plain.append {s t : String} (hs : Plain s) (ht : Plain t) : Plain (s ++ t) := by
  unfold Plain
  rw [String.toList_append, List.forall_mem_append]
  exact ⟨hs, ht⟩

theorem isPlain_of_hexDigit (h : (Text.hexDigit? c).isSome = true) : IsPlain c := by
  refine ⟨?_, ?_, ?_⟩
  · rintro rfl
    exact absurd h (by decide)
  · rintro rfl
    exact absurd h (by decide)
  · have hle (d : Char) (hd : d ≤ c) : d.toNat ≤ c.toNat := UInt32.le_iff_toNat_le.1 hd
    unfold Text.hexDigit? at h
    split at h
    next hdigit =>
      simp only [Char.isDigit, Bool.and_eq_true, decide_eq_true_eq] at hdigit
      exact Nat.le_trans (by decide) (hle '0' hdigit.1)
    next =>
      split at h
      next hlower => exact Nat.le_trans (by decide) (hle 'a' hlower.1)
      next =>
        split at h
        next hupper => exact Nat.le_trans (by decide) (hle 'A' hupper.1)
        next => cases h

theorem isPlain_of_isDigit (h : c.isDigit = true) : IsPlain c :=
  isPlain_of_hexDigit (by simp [Text.hexDigit?, h])

/-- Plain characters spell themselves. -/
theorem spells_of_isPlain (h : ∀ c ∈ cs, IsPlain c) : Spells cs (cs.map Char.toNat) := by
  induction cs with
  | nil => exact .nil
  | cons c cs ih =>
    rw [List.forall_mem_cons] at h
    exact .plain h.1 (ih h.2)

/-- No character is half of a surrogate pair. -/
theorem not_surrogate (c : Char) :
    isHighSurrogate c.toNat = false ∧ isLowSurrogate c.toNat = false := by
  have hvalid : c.toNat < 0xD800 ∨ 0xDFFF < c.toNat ∧ c.toNat < 0x110000 := c.valid
  simp only [isHighSurrogate, isLowSurrogate, Bool.and_eq_false_iff, decide_eq_false_iff_not]
  omega

theorem joinUnits_map_toNat (cs : List Char) : joinUnits (cs.map Char.toNat) = some cs := by
  induction cs with
  | nil => rfl
  | cons c cs ih =>
    obtain ⟨hhigh, hlow⟩ := not_surrogate c
    cases cs with
    | nil => simp [joinUnits, hhigh, hlow]
    | cons d cs =>
      rw [List.map_cons] at ih
      simp [joinUnits, hhigh, hlow, ih]

/-! ## Numbers -/

/-- A run of digits. -/
structure IsDigits (cs : List Char) : Prop where
  ne_nil : cs ≠ []
  isDigit : ∀ c ∈ cs, c.isDigit = true

theorem IsDigits.exists_cons (h : IsDigits cs) : ∃ c ds, cs = c :: ds ∧ c.isDigit = true := by
  obtain ⟨c, ds, rfl⟩ := List.exists_cons_of_ne_nil h.ne_nil
  exact ⟨c, ds, rfl, h.isDigit c List.mem_cons_self⟩

theorem IsDigits.length_ne (h : IsDigits cs) : cs.length ≠ 0 :=
  mt List.length_eq_zero_iff.1 h.ne_nil

/-- The decimal places of a number, if it has any. -/
inductive IsPlaces : List Char → Prop
  | none : IsPlaces []
  | some {digits : List Char} : IsDigits digits → IsPlaces ('.' :: digits)

/-- The exponent of a number, if it has one. -/
inductive IsExponent : List Char → Prop
  | none : IsExponent []
  | some {e : Char} {sign digits : List Char} : e = 'e' ∨ e = 'E' →
      sign = [] ∨ sign = ['+'] ∨ sign = ['-'] → IsDigits digits → IsExponent (e :: (sign ++ digits))

/-- How a number is written: no zero stands before another digit. -/
inductive IsNumber : List Char → Prop
  | mk {sign whole places exponent : List Char} : sign = [] ∨ sign = ['-'] → IsDigits whole →
      (whole.head? = some '0' → whole.length = 1) → IsPlaces places → IsExponent exponent →
      IsNumber (sign ++ (whole ++ (places ++ exponent)))

/-- A number ends here: no digit comes next, and nothing that goes on with one. -/
def EndsNumber (rest : List Char) : Prop :=
  ∀ c ∈ rest.head?, c.isDigit = false ∧ c ≠ '.' ∧ c ≠ 'e' ∧ c ≠ 'E'

theorem endsNumber_nil : EndsNumber [] := nofun

/-- The decimal places of a number end here. -/
def EndsPlaces (rest : List Char) : Prop :=
  ∀ c ∈ rest.head?, c.isDigit = false ∧ c ≠ '.'

theorem EndsPlaces.noDigit (h : EndsPlaces rest) : NoDigit rest := by
  cases rest with
  | nil => exact Text.noDigit_nil
  | cons c rest => exact Text.noDigit_cons (h c rfl).1 rest

theorem EndsNumber.endsPlaces (h : EndsNumber rest) : EndsPlaces rest :=
  fun c hc => ⟨(h c hc).1, (h c hc).2.1⟩

theorem digitsLength_of_isDigits (h : IsDigits cs) (hrest : NoDigit rest) :
    digitsLength (cs ++ rest) = cs.length :=
  congrArg List.length (Text.takeWhile_run h.isDigit hrest)

theorem fractionLength?_of_isPlaces (h : IsPlaces cs) (hrest : EndsPlaces rest) :
    fractionLength? (cs ++ rest) = some cs.length := by
  cases h with
  | none =>
    rw [List.nil_append, fractionLength?]
    · rfl
    · rintro rest' rfl
      exact (hrest '.' rfl).2 rfl
  | some hdigits =>
    have hlength := digitsLength_of_isDigits hdigits hrest.noDigit
    rw [List.cons_append, fractionLength?, hlength, if_neg hdigits.length_ne, List.length_cons,
      Nat.add_comm]

theorem signLength_append {sign : List Char} (hsign : sign = [] ∨ sign = ['+'] ∨ sign = ['-'])
    (h : IsDigits cs) (rest : List Char) : signLength (sign ++ (cs ++ rest)) = sign.length := by
  obtain ⟨d, ds, rfl, hd⟩ := h.exists_cons
  rcases hsign with rfl | rfl | rfl
  · rw [List.nil_append, List.cons_append, signLength]
    · rfl
    · rintro _ ⟨⟩
      cases hd
    · rintro _ ⟨⟩
      cases hd
  · rfl
  · rfl

theorem exponentLength?_of_isExponent (h : IsExponent cs) (hrest : EndsNumber rest) :
    exponentLength? (cs ++ rest) = some cs.length := by
  cases h with
  | none =>
    cases rest with
    | nil => rfl
    | cons c rest =>
      obtain ⟨-, -, he, hE⟩ := hrest c rfl
      exact if_neg (not_or.2 ⟨he, hE⟩)
  | @some e sign digits he hsign hdigits =>
    have hlength := digitsLength_of_isDigits hdigits hrest.endsPlaces.noDigit
    have hsignLength := signLength_append hsign hdigits rest
    rw [List.cons_append, List.append_assoc, exponentLength?, if_pos he]
    simp only [hsignLength, List.drop_left, hlength, if_neg hdigits.length_ne]
    rw [List.length_cons, List.length_append, Nat.add_assoc, Nat.add_comm]

/-- An exponent does not go on with decimal places. -/
theorem IsExponent.endsPlaces (h : IsExponent cs) (hrest : EndsNumber rest) :
    EndsPlaces (cs ++ rest) := by
  cases h with
  | none => exact hrest.endsPlaces
  | some he _ _ =>
    rintro _ ⟨⟩
    rcases he with rfl | rfl
    · decide
    · decide

/-- Decimal places do not go on with the digits before them. -/
theorem IsPlaces.noDigit (h : IsPlaces cs) (hrest : NoDigit rest) : NoDigit (cs ++ rest) := by
  cases h with
  | none => exact hrest
  | some _ => exact Text.noDigit_cons (by decide) _

/-- A number is read up to where it ends. -/
theorem numberLength?_of_isNumber (h : IsNumber cs) (hrest : EndsNumber rest) :
    numberLength? (cs ++ rest) = some cs.length := by
  obtain @⟨sign, whole, places, exponent, hsign, hwhole, hzero, hplaces, hexponent⟩ := h
  have hends := hexponent.endsPlaces hrest
  have hdigits := digitsLength_of_isDigits hwhole (hplaces.noDigit hends.noDigit)
  have hfraction := fractionLength?_of_isPlaces hplaces hends
  have hexp := exponentLength?_of_isExponent hexponent hrest
  obtain ⟨c, ds, hcons, hc⟩ := hwhole.exists_cons
  have hhead : (whole ++ (places ++ (exponent ++ rest))).head? = whole.head? := by
    rw [hcons]
    rfl
  have hlength : (if (sign ++ (whole ++ (places ++ (exponent ++ rest)))).head? = some '-'
      then 1 else 0) = sign.length := by
    rcases hsign with rfl | rfl
    · rw [List.nil_append, hhead, hcons]
      exact if_neg fun hminus => absurd (Option.some.inj hminus ▸ hc) (by decide)
    · rfl
  have hgood : ¬ (whole.length = 0 ∨ whole.head? = some '0' ∧ 1 < whole.length) := by
    rintro (hnil | ⟨h0, hlt⟩)
    · exact hwhole.length_ne hnil
    · rw [hzero h0] at hlt
      exact Nat.lt_irrefl 1 hlt
  have hdrop : (whole ++ (places ++ (exponent ++ rest))).drop (whole.length + places.length) =
      exponent ++ rest := by
    rw [← List.append_assoc, ← List.length_append, List.drop_left]
  simp only [numberLength?, List.append_assoc, hlength, List.drop_left, hhead, hdigits,
    if_neg hgood, hfraction, hdrop, hexp, Option.bind_eq_bind, Option.bind_some]
  simp only [List.length_append, Nat.add_assoc]
  rfl

/-! ## Tokens -/

/-- How a token is written. -/
inductive TokenText : Token → List Char → Prop
  | openBrace : TokenText .openBrace ['{']
  | closeBrace : TokenText .closeBrace ['}']
  | openBracket : TokenText .openBracket ['[']
  | closeBracket : TokenText .closeBracket [']']
  | comma : TokenText .comma [',']
  | colon : TokenText .colon [':']
  | string {cs : List Char} {units : List Nat} : Spells cs units →
      TokenText (.string ((joinUnits units).map String.ofList)) ('"' :: (cs ++ ['"']))
  | number {cs : List Char} : IsNumber cs → TokenText (.number cs) cs
  | true : TokenText .literal ['t', 'r', 'u', 'e']
  | false : TokenText .literal ['f', 'a', 'l', 's', 'e']
  | null : TokenText .literal ['n', 'u', 'l', 'l']

/-- A number starts with a minus or a digit. -/
theorem IsNumber.exists_cons (h : IsNumber cs) :
    ∃ c rest, cs = c :: rest ∧ (c = '-' ∨ c.isDigit = true) := by
  obtain ⟨hsign, hwhole, -, -, -⟩ := h
  rcases hsign with rfl | rfl
  · obtain ⟨c, ds, rfl, hc⟩ := hwhole.exists_cons
    exact ⟨c, _, rfl, .inr hc⟩
  · exact ⟨'-', _, rfl, .inl rfl⟩

/-- What starts like a number is read as one. -/
theorem first?_of_number (h : c = '-' ∨ c.isDigit = true) (rest : List Char) :
    first? c rest = (numberLength? (c :: rest)).map fun k =>
      (.number ((c :: rest).take k), (c :: rest).drop k) := by
  unfold first?
  split
  case h_11 => rfl
  all_goals exact absurd h (by decide)

theorem isBlank_of_number (h : c = '-' ∨ c.isDigit = true) : isBlank c = false := by
  cases hblank : isBlank c with
  | false => rfl
  | true =>
    rcases isBlank_iff.1 hblank with rfl | rfl | rfl | rfl
    all_goals exact absurd h (by decide)

theorem lex_number (h : IsNumber cs) (hrest : EndsNumber rest) :
    lex (cs ++ rest) = .number cs :: lex rest := by
  have hlength := numberLength?_of_isNumber h hrest
  obtain ⟨c, cs, rfl, hc⟩ := h.exists_cons
  rw [List.cons_append] at hlength
  rw [List.cons_append]
  apply lex_of_first? (isBlank_of_number hc)
  rw [first?_of_number hc, hlength, Option.map_some, ← List.cons_append, List.take_left,
    List.drop_left]

/-- **A token is read that is written in one of its ways.**  A number has to end
    where its text does. -/
theorem lex_of_tokenText {t : Token} (h : TokenText t cs)
    (hrest : ∀ digits, t = .number digits → EndsNumber rest) :
    lex (cs ++ rest) = t :: lex rest := by
  cases h with
  | string hcs =>
    rw [List.cons_append, List.append_assoc]
    apply lex_of_first? rfl
    simp only [first?, List.singleton_append, readUnits_of_spells hcs, Option.map_some]
  | number hcs => exact lex_number hcs (hrest cs rfl)
  | openBrace | closeBrace | openBracket | closeBracket | comma | colon | true | false | null =>
    exact lex_of_first? rfl rfl

theorem tokenText_of_plain {s : String} (h : Plain s) :
    TokenText (.string (some s)) ('"' :: (s.toList ++ ['"'])) := by
  have hstring := TokenText.string (spells_of_isPlain h)
  rwa [joinUnits_map_toNat, Option.map_some, String.ofList_toList] at hstring

/-- The digits of a number are a number. -/
theorem isNumber_toDigits (n : Nat) : IsNumber (Nat.toDigits 10 n) := by
  have hdigits : IsDigits (Nat.toDigits 10 n) :=
    ⟨Nat.toDigits_ne_nil, fun _ => Text.isDigit_of_mem_toDigits⟩
  have hnumber := IsNumber.mk (.inl rfl) hdigits (Text.length_toDigits_of_head? n) .none .none
  rwa [List.append_nil, List.append_nil] at hnumber

end LightHub.Json
