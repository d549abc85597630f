/-
  Texts that are read as values.

  * `isNumber_of_numberLength?`, `spells_of_readUnits`, `tokenText_of_first?`: what is
    read as a token is a text of it.
  * `spelled_lex`: a text is one of its tokens, unless it goes wrong.
  * `isText_iff`: **exactly the texts of a value are read as its tokens.**
-/
import LightHub.Proofs.Json.Text

namespace LightHub.Json

variable {c : Char} {s rest : List Char} {units : List Nat} {n : Nat} {t : Token}

/-! ## Numbers -/

theorem take_digitsLength (s : List Char) : s.take (digitsLength s) = s.takeWhile Char.isDigit :=
  (List.prefix_iff_eq_take.1 (List.takeWhile_prefix _)).symm

theorem isDigits_take (h : digitsLength s ≠ 0) : IsDigits (s.take (digitsLength s)) := by
  rw [take_digitsLength]
  exact ⟨fun hnil => h (congrArg List.length hnil), List.all_eq_true.1 List.all_takeWhile⟩

theorem isPlaces_of_fractionLength? (h : fractionLength? s = some n) : IsPlaces (s.take n) := by
  unfold fractionLength? at h
  split at h
  next rest =>
    obtain ⟨hdigits, h⟩ := Option.ite_none_left_eq_some.1 h
    obtain rfl := Option.some.inj h
    rw [Nat.add_comm, List.take_succ_cons]
    exact .some (isDigits_take hdigits)
  next =>
    obtain rfl := Option.some.inj h
    exact .none

theorem take_signLength (s : List Char) :
    s.take (signLength s) = [] ∨ s.take (signLength s) = ['+'] ∨ s.take (signLength s) = ['-'] := by
  unfold signLength
  split
  · exact .inr (.inl rfl)
  · exact .inr (.inr rfl)
  · exact .inl rfl

theorem isExponent_of_exponentLength? (h : exponentLength? s = some n) :
    IsExponent (s.take n) := by
  unfold exponentLength? at h
  split at h
  next e rest =>
    split at h
    next he =>
      obtain ⟨hdigits, h⟩ := Option.ite_none_left_eq_some.1 h
      obtain rfl := Option.some.inj h
      rw [Nat.add_assoc, Nat.add_comm, List.take_succ_cons, List.take_add]
      exact .some he (take_signLength rest) (isDigits_take hdigits)
    next =>
      obtain rfl := Option.some.inj h
      exact .none
  next =>
    obtain rfl := Option.some.inj h
    exact .none

/-- What is read as a number is one. -/
theorem isNumber_of_numberLength? (h : numberLength? s = some n) : IsNumber (s.take n) := by
  have hsign : s.take (if s.head? = some '-' then 1 else 0) = [] ∨
      s.take (if s.head? = some '-' then 1 else 0) = ['-'] := by
    split
    next hminus =>
      obtain ⟨rest, rfl⟩ := List.head?_eq_some_iff.1 hminus
      exact .inr rfl
    next => exact .inl rfl
  unfold numberLength? at h
  generalize (if s.head? = some '-' then 1 else 0) = sign at h hsign
  simp only [Option.bind_eq_bind] at h
  split at h
  next => cases h
  next hgood =>
    obtain ⟨hdigits, hzero⟩ := not_or.1 hgood
    obtain ⟨places, hplaces, h⟩ := Option.bind_eq_some_iff.1 h
    obtain ⟨exponent, hexponent, h⟩ := Option.bind_eq_some_iff.1 h
    obtain rfl := Option.some.inj h
    rw [← List.drop_drop] at hexponent
    rw [Nat.add_assoc, Nat.add_assoc, List.take_add, List.take_add, List.take_add]
    refine .mk hsign (isDigits_take hdigits) (fun hhead => ?_)
      (isPlaces_of_fractionLength? hplaces) (isExponent_of_exponentLength? hexponent)
    rw [List.head?_take, if_neg hdigits] at hhead
    rw [take_digitsLength]
    exact Nat.le_antisymm (Nat.not_lt.1 fun hlt => hzero ⟨hhead, hlt⟩)
      (Nat.one_le_iff_ne_zero.2 hdigits)

/-! ## Strings -/

/-- What is read up to the closing quote spells its code units. -/
theorem spells_of_readUnits (h : readUnits s = some (units, rest)) :
    ∃ cs, s = cs ++ '"' :: rest ∧ Spells cs units := by
  fun_induction readUnits s generalizing units rest with
  | case1 => cases h
  | case2 rest' =>
    cases h
    exact ⟨[], rfl, .nil⟩
  | case3 a b c d tail unit units' rest' htail hunit ih =>
    cases h
    obtain ⟨cs, rfl, hcs⟩ := ih htail
    exact ⟨_, rfl, .unit hunit hcs⟩
  | case4 => cases h
  | case5 e tail _ c units' rest' htail he ih =>
    cases h
    obtain ⟨cs, rfl, hcs⟩ := ih htail
    exact ⟨_, rfl, .escape he hcs⟩
  | case6 => cases h
  | case7 => cases h
  | case8 c tail hquote _ hslash hcontrol ih =>
    obtain ⟨⟨units', rest'⟩, htail, heq⟩ := Option.map_eq_some_iff.1 h
    cases heq
    obtain ⟨cs, rfl, hcs⟩ := ih htail
    refine ⟨c :: cs, rfl, .plain ⟨hquote, fun hc => ?_, Nat.not_lt.1 hcontrol⟩ hcs⟩
    -- a backslash has a character after it, be it the closing quote
    cases cs with
    | nil => exact hslash _ _ hc rfl
    | cons e cs => exact hslash _ _ hc rfl

/-! ## Texts -/

/-- What is read as a token is a text of it. -/
theorem tokenText_of_first? (h : first? c s = some (t, rest)) :
    ∃ cs, c :: s = cs ++ rest ∧ TokenText t cs := by
  unfold first? at h
  split at h
  case h_1 => cases h; exact ⟨_, rfl, .openBrace⟩
  case h_2 => cases h; exact ⟨_, rfl, .closeBrace⟩
  case h_3 => cases h; exact ⟨_, rfl, .openBracket⟩
  case h_4 => cases h; exact ⟨_, rfl, .closeBracket⟩
  case h_5 => cases h; exact ⟨_, rfl, .comma⟩
  case h_6 => cases h; exact ⟨_, rfl, .colon⟩
  case h_7 =>
    obtain ⟨⟨units, rest'⟩, hread, heq⟩ := Option.map_eq_some_iff.1 h
    obtain ⟨cs, rfl, hcs⟩ := spells_of_readUnits hread
    cases heq
    exact ⟨'"' :: (cs ++ ['"']), by simp, .string hcs⟩
  case h_8 => cases h; exact ⟨_, rfl, .true⟩
  case h_9 => cases h; exact ⟨_, rfl, .false⟩
  case h_10 => cases h; exact ⟨_, rfl, .null⟩
  case h_11 =>
    obtain ⟨n, hlength, heq⟩ := Option.map_eq_some_iff.1 h
    cases heq
    exact ⟨_, (List.take_append_drop n _).symm, .number (isNumber_of_numberLength? hlength)⟩

/-- A text is one of its tokens, unless it goes wrong. -/
theorem spelled_lex (h : Token.bad ∉ lex s) : Spelled (lex s) s := by
  fun_induction lex s with
  | case1 => exact .nil
  | case2 c rest hblank ih => exact .blank hblank (ih h)
  | case3 c rest hblank t rest' hfirst ih =>
    obtain ⟨cs, heq, htext⟩ := tokenText_of_first? hfirst
    rw [heq]
    exact .token htext (ih fun hmem => h (List.mem_cons_of_mem t hmem))
  | case4 => exact absurd List.mem_cons_self h

/-- Nothing that goes wrong is passed over. -/
theorem bad_notMem_of_foldlM {ts : List Token} {skim skim' : Skim}
    (h : ts.foldlM Skim.step skim = some skim') : Token.bad ∉ ts := by
  induction ts generalizing skim with
  | nil => exact List.not_mem_nil
  | cons t ts ih =>
    rw [List.foldlM_cons] at h
    obtain ⟨next, hnext, hrest⟩ := Option.bind_eq_some_iff.1 h
    intro hmem
    rcases List.mem_cons.1 hmem with rfl | hmem
    · rw [Skim.step_bad] at hnext
      cases hnext
    · exact ih hrest hmem

/-- **Exactly the texts of a value are read as its tokens.** -/
theorem isText_iff {v : Value} {text : String} :
    v.IsText text ↔ lex text.toList = v.tokens := by
  refine ⟨lex_of_isText, fun h => ?_⟩
  have hgood := bad_notMem_of_foldlM (Skim.foldlM_start v)
  rw [← h] at hgood
  have hspelled := spelled_lex hgood
  rwa [h] at hspelled

instance (v : Value) (text : String) : Decidable (v.IsText text) :=
  decidable_of_iff (lex text.toList = v.tokens) isText_iff.symm

end LightHub.Json
