/-
  Decimal numerals, written and read.

  * `Numeral`: any way to write a number in decimal digits;
    `natural?_eq_some_iff`: exactly these are read.
  * `UnsignedNumeral`, `SignedNumeral`: the same with an optional plus, and with an
    optional sign.
  * `Width`: a type of words; `Width.map_unsigned?_eq_some_iff`, `int64?_eq_some_iff`:
    **exactly these numerals are read as words**, and none is cut to fit.
  * `uint8?_toDigits`, `uint32?_toString`, `int64?_toString`: every word of these widths
    reads back from its digits.
  * `NoDigit`: where a run of digits ends; `takeWhile_toDigits`,
    `dropWhile_toDigits`: a numeral is the run of digits in front of such a place.
  * `hex?_toDigits`: a number reads back from its hexadecimal digits.
  * `isWord_natRepr`, `isWord_intRepr`: a numeral travels as one word;
    `isWord_of_int64?`: so does all that reads as a number.
-/
import LightHub.Proofs.Text.Word
import LightHub.Text.Numeral

namespace LightHub.Text

theorem isDigit_of_mem_toDigits {n : Nat} {c : Char} (h : c ∈ Nat.toDigits 10 n) :
    c.isDigit = true :=
  Nat.isDigit_of_mem_toDigits (by decide) (by decide) h

/-- `s` writes `n` in decimal digits, perhaps with zeros in front. -/
structure Numeral (s : String) (n : Nat) : Prop where
  ne_nil : s.toList ≠ []
  isDigit : ∀ c ∈ s.toList, c.isDigit = true
  value : Nat.ofDigitChars 10 s.toList 0 = n

theorem natural?_eq_some_iff {s : String} {n : Nat} :
    natural? s.toList = some n ↔ Numeral s n := by
  unfold natural?
  constructor
  · intro h
    rw [Option.ite_none_right_eq_some] at h
    obtain ⟨⟨hne, hall⟩, hvalue⟩ := h
    exact ⟨hne, List.all_eq_true.1 hall, Option.some.inj hvalue⟩
  · rintro ⟨hne, hall, rfl⟩
    exact if_pos ⟨hne, List.all_eq_true.2 hall⟩

instance (s : String) (n : Nat) : Decidable (Numeral s n) :=
  decidable_of_iff (natural? s.toList = some n) natural?_eq_some_iff

theorem Numeral.dropPlus {s : String} {n : Nat} (h : Numeral s n) :
    dropPlus s.toList = s.toList := by
  unfold Text.dropPlus
  split
  · rename_i rest heq
    have hplus := h.isDigit '+' (by simp [heq])
    exact absurd hplus (by decide)
  · rfl

theorem toList_toString_nat (n : Nat) : (toString n).toList = Nat.toDigits 10 n :=
  Nat.toList_repr

/-- A number is written in one of its numerals. -/
theorem numeral_toString (n : Nat) : Numeral (toString n) n :=
  natural?_eq_some_iff.1 (by rw [toList_toString_nat, natural?_toDigits])

/-! ## Signs -/

/-- `s` writes `n` in decimal digits, perhaps with a plus in front. -/
inductive UnsignedNumeral : String → Nat → Prop
  | digits {s : String} {n : Nat} : Numeral s n → UnsignedNumeral s n
  | plus {s : String} {n : Nat} : Numeral s n → UnsignedNumeral ("+" ++ s) n

/-- `s` writes `i` in decimal digits, perhaps with a sign in front. -/
inductive SignedNumeral : String → Int → Prop
  | unsigned {s : String} {n : Nat} : UnsignedNumeral s n → SignedNumeral s n
  | minus {s : String} {n : Nat} : Numeral s n → SignedNumeral ("-" ++ s) (-n)

/-- What stands after a sign is a text of its own. -/
theorem eq_of_toList_cons {s : String} {sign : Char} {rest : List Char}
    (h : s.toList = sign :: rest) : s = String.singleton sign ++ String.ofList rest := by
  rw [← String.toList_inj, h]
  simp

theorem natural?_dropPlus_eq_some_iff {s : String} {n : Nat} :
    natural? (dropPlus s.toList) = some n ↔ UnsignedNumeral s n := by
  constructor
  · intro h
    unfold dropPlus at h
    split at h
    · rename_i rest heq
      rw [← String.toList_ofList (l := rest)] at h
      rw [eq_of_toList_cons heq]
      exact .plus (natural?_eq_some_iff.1 h)
    · exact .digits (natural?_eq_some_iff.1 h)
  · rintro (h | h)
    · rw [h.dropPlus]
      exact natural?_eq_some_iff.2 h
    · rw [String.toList_append]
      exact natural?_eq_some_iff.2 h

/-- A numeral has one value. -/
theorem UnsignedNumeral.unique {s : String} {m n : Nat} (hm : UnsignedNumeral s m)
    (hn : UnsignedNumeral s n) : m = n := by
  rw [← natural?_dropPlus_eq_some_iff] at hm hn
  exact Option.some.inj (hm.symm.trans hn)

theorem unsigned?_eq_some_iff {max n : Nat} {s : String} :
    unsigned? max s.toList = some n ↔ UnsignedNumeral s n ∧ n ≤ max := by
  rw [unsigned?, Option.filter_eq_some_iff, natural?_dropPlus_eq_some_iff, decide_eq_true_iff]

/-- A numeral is a digit or a plus, and digits after it. -/
theorem UnsignedNumeral.exists_toList {s : String} {n : Nat} (h : UnsignedNumeral s n) :
    ∃ c cs, s.toList = c :: cs ∧ (c = '+' ∨ c.isDigit = true) ∧ ∀ d ∈ cs, d.isDigit = true := by
  cases h with
  | digits h =>
    obtain ⟨c, cs, hs⟩ := List.exists_cons_of_ne_nil h.ne_nil
    have hdigits := h.isDigit
    rw [hs, List.forall_mem_cons] at hdigits
    exact ⟨c, cs, hs, .inr hdigits.1, hdigits.2⟩
  | @plus t n h =>
    have hs : ("+" ++ t).toList = '+' :: t.toList := by simp
    exact ⟨'+', t.toList, hs, .inl rfl, h.isDigit⟩

/-- A numeral with no minus in front does not begin with one. -/
theorem UnsignedNumeral.toList_ne_cons {s : String} {n : Nat} (h : UnsignedNumeral s n)
    (rest : List Char) : s.toList ≠ '-' :: rest := by
  obtain ⟨c, cs, hs, hc, -⟩ := h.exists_toList
  rw [hs]
  intro heq
  obtain rfl := (List.cons.inj heq).1
  rcases hc with hc | hc <;> exact absurd hc (by decide)

theorem signed?_eq_some_iff {min max i : Int} {s : String} :
    signed? min max s.toList = some i ↔ SignedNumeral s i ∧ min ≤ i ∧ i ≤ max := by
  unfold signed?
  rw [Option.filter_eq_some_iff, decide_eq_true_iff]
  refine and_congr_left fun _ => ?_
  constructor
  · intro h
    split at h
    · rename_i rest heq
      obtain ⟨_, hi, rfl⟩ := Option.map_eq_some_iff.1 h
      obtain ⟨n, hn, hcast⟩ := Option.bind_eq_some_iff.1 hi
      obtain rfl := Option.some.inj hcast
      rw [← String.toList_ofList (l := rest)] at hn
      rw [eq_of_toList_cons heq]
      exact .minus (natural?_eq_some_iff.1 hn)
    · obtain ⟨_, hi, rfl⟩ := Option.map_eq_some_iff.1 h
      obtain ⟨n, hn, hcast⟩ := Option.bind_eq_some_iff.1 hi
      obtain rfl := Option.some.inj hcast
      exact .unsigned (natural?_dropPlus_eq_some_iff.1 hn)
  · intro h
    cases h with
    | unsigned h =>
      split
      · rename_i rest heq
        exact absurd heq (h.toList_ne_cons rest)
      · rw [natural?_dropPlus_eq_some_iff.2 h]
        rfl
    | @minus t n h =>
      have hlist : ("-" ++ t).toList = '-' :: t.toList := by simp
      rw [hlist]
      change ((natural? t.toList).map fun m => -(m : Int)) = _
      rw [natural?_eq_some_iff.2 h]
      rfl

/-- An integer is written in one of its numerals. -/
theorem signedNumeral_toString (i : Int) : SignedNumeral (toString i) i := by
  cases i with
  | ofNat n => exact .unsigned (.digits (numeral_toString n))
  | negSucc n => exact .minus (numeral_toString (n + 1))

/-! ## Words of a fixed width -/

/-- A type of words: the numbers below `size`, each as one word. -/
structure Width (ω : Type) where
  size : Nat
  ofNat : Nat → ω
  toNat : ω → Nat
  toNat_lt : ∀ w, toNat w < size
  toNat_ofNat : ∀ n < size, toNat (ofNat n) = n
  ofNat_toNat : ∀ w, ofNat (toNat w) = w

namespace Width

def uint8 : Width UInt8 :=
  ⟨UInt8.size, UInt8.ofNat, UInt8.toNat, UInt8.toNat_lt_size,
    fun _ => UInt8.toNat_ofNat_of_lt', fun _ => UInt8.ofNat_toNat⟩

def uint16 : Width UInt16 :=
  ⟨UInt16.size, UInt16.ofNat, UInt16.toNat, UInt16.toNat_lt_size,
    fun _ => UInt16.toNat_ofNat_of_lt', fun _ => UInt16.ofNat_toNat⟩

def uint32 : Width UInt32 :=
  ⟨UInt32.size, UInt32.ofNat, UInt32.toNat, UInt32.toNat_lt_size,
    fun _ => UInt32.toNat_ofNat_of_lt', fun _ => UInt32.ofNat_toNat⟩

def uint64 : Width UInt64 :=
  ⟨UInt64.size, UInt64.ofNat, UInt64.toNat, UInt64.toNat_lt_size,
    fun _ => UInt64.toNat_ofNat_of_lt', fun _ => UInt64.ofNat_toNat⟩

variable {ω : Type} (width : Width ω)

theorem toNat_le (w : ω) : width.toNat w ≤ width.size - 1 :=
  Nat.le_sub_one_of_lt (width.toNat_lt w)

/-- No number is cut to fit. -/
theorem toNat_ofNat_of_le {n : Nat} (h : n ≤ width.size - 1) : width.toNat (width.ofNat n) = n := by
  have hpos : 0 < width.size := Nat.zero_lt_of_lt (width.toNat_lt (width.ofNat n))
  exact width.toNat_ofNat n (Nat.lt_of_le_pred hpos h)

/-- **A word is read from the numerals of its number.** -/
theorem map_unsigned?_eq_some_iff {s : String} {w : ω} :
    (unsigned? (width.size - 1) s.toList).map width.ofNat = some w ↔
      UnsignedNumeral s (width.toNat w) := by
  rw [Option.map_eq_some_iff]
  constructor
  · rintro ⟨n, hn, rfl⟩
    obtain ⟨hnumeral, hle⟩ := unsigned?_eq_some_iff.1 hn
    rwa [width.toNat_ofNat_of_le hle]
  · intro h
    exact ⟨width.toNat w, unsigned?_eq_some_iff.2 ⟨h, width.toNat_le w⟩, width.ofNat_toNat w⟩

end Width

theorem uint8?_eq_some_iff {s : String} {n : UInt8} :
    uint8? s.toList = some n ↔ UnsignedNumeral s n.toNat :=
  Width.uint8.map_unsigned?_eq_some_iff

theorem uint32?_eq_some_iff {s : String} {n : UInt32} :
    uint32? s.toList = some n ↔ UnsignedNumeral s n.toNat :=
  Width.uint32.map_unsigned?_eq_some_iff

theorem int64?_eq_some_iff {s : String} {n : Int64} :
    int64? s.toList = some n ↔ SignedNumeral s n.toInt := by
  rw [int64?, Option.map_eq_some_iff]
  constructor
  · rintro ⟨i, hi, rfl⟩
    obtain ⟨hnumeral, hmin, hmax⟩ := signed?_eq_some_iff.1 hi
    have hlt := Int.lt_of_le_of_lt hmax Int64.maxValue.toInt_lt
    rwa [Int64.toInt_ofInt_of_le hmin hlt]
  · intro h
    exact ⟨n.toInt, signed?_eq_some_iff.2 ⟨h, n.minValue_le_toInt, n.toInt_le⟩, Int64.ofInt_toInt n⟩

theorem uint8?_toDigits (n : UInt8) : uint8? (Nat.toDigits 10 n.toNat) = some n := by
  rw [← toList_toString_nat]
  exact uint8?_eq_some_iff.2 (.digits (numeral_toString n.toNat))

theorem uint32?_toString (n : UInt32) : uint32? (toString n.toNat).toList = some n :=
  uint32?_eq_some_iff.2 (.digits (numeral_toString n.toNat))

theorem int64?_toString (n : Int64) : int64? (toString n.toInt).toList = some n :=
  int64?_eq_some_iff.2 (signedNumeral_toString n.toInt)

/-! ## Runs of digits -/

section

variable {p : Char → Bool} {run rest : List Char}

theorem takeWhile_run (hrun : ∀ c ∈ run, p c = true) (hrest : rest.takeWhile p = []) :
    (run ++ rest).takeWhile p = run := by
  rw [List.takeWhile_append_of_pos hrun, hrest, List.append_nil]

theorem dropWhile_run (hrun : ∀ c ∈ run, p c = true) (hrest : rest.takeWhile p = []) :
    (run ++ rest).dropWhile p = rest := by
  have hsplit := List.takeWhile_append_dropWhile (p := p) (l := rest)
  rw [hrest, List.nil_append] at hsplit
  rw [List.dropWhile_append_of_pos hrun, hsplit]

end

/-- No digit comes next. -/
def NoDigit (rest : List Char) : Prop :=
  rest.takeWhile Char.isDigit = []

theorem noDigit_nil : NoDigit [] := rfl

theorem noDigit_cons {c : Char} (h : c.isDigit = false) (rest : List Char) :
    NoDigit (c :: rest) := by
  rw [NoDigit, List.takeWhile_cons, h]
  rfl

section

variable (n : Nat) {rest : List Char}

theorem takeWhile_toDigits (h : NoDigit rest) :
    (Nat.toDigits 10 n ++ rest).takeWhile Char.isDigit = Nat.toDigits 10 n :=
  takeWhile_run (fun _ => isDigit_of_mem_toDigits) h

theorem dropWhile_toDigits (h : NoDigit rest) :
    (Nat.toDigits 10 n ++ rest).dropWhile Char.isDigit = rest :=
  dropWhile_run (fun _ => isDigit_of_mem_toDigits) h

/-- Only zero starts with a zero. -/
theorem head?_toDigits_ne (h : 0 < n) : (Nat.toDigits 10 n).head? ≠ some '0' := by
  induction n using Nat.strongRecOn with
  | ind n ih =>
    by_cases hn : n < 10
    · have hdigit : ∀ d < 10, 0 < d → d.digitChar ≠ '0' := by decide
      rw [Nat.toDigits_of_lt_base hn]
      exact fun heq => hdigit n hn h (Option.some.inj heq)
    · have hn : 10 ≤ n := Nat.le_of_not_lt hn
      have hhead := ih (n / 10) (Nat.div_lt_self h (by decide)) (Nat.div_pos hn (by decide))
      rw [Nat.toDigits_of_base_le (by decide) hn, List.head?_append]
      cases hfirst : (Nat.toDigits 10 (n / 10)).head? with
      | none => exact absurd (List.head?_eq_none_iff.1 hfirst) Nat.toDigits_ne_nil
      | some c =>
        rw [Option.some_or, ← hfirst]
        exact hhead

/-- A numeral has no zero in front of another digit. -/
theorem length_toDigits_of_head? (h : (Nat.toDigits 10 n).head? = some '0') :
    (Nat.toDigits 10 n).length = 1 := by
  rcases Nat.eq_zero_or_pos n with rfl | hn
  · rfl
  · exact absurd h (head?_toDigits_ne n hn)

end

/-! ## Hexadecimal digits -/

theorem hexDigit?_digitChar : ∀ d < 16, hexDigit? d.digitChar = some d := by decide

theorem hexFrom?_append (high : Nat) (cs ds : List Char) :
    hexFrom? high (cs ++ ds) = (hexFrom? high cs).bind fun n => hexFrom? n ds := by
  induction cs generalizing high with
  | nil => rfl
  | cons c cs ih =>
    simp only [List.cons_append, hexFrom?, ih]
    cases hexDigit? c <;> rfl

theorem hexFrom?_toDigits (n : Nat) : hexFrom? 0 (Nat.toDigits 16 n) = some n := by
  induction n using Nat.strongRecOn with
  | ind n ih =>
    by_cases hn : n < 16
    · rw [Nat.toDigits_of_lt_base hn]
      simp [hexFrom?, hexDigit?_digitChar n hn]
    · have hn : 16 ≤ n := Nat.le_of_not_lt hn
      have hhigh := ih (n / 16) (Nat.div_lt_self (by omega) (by decide))
      rw [Nat.toDigits_of_base_le (by decide) hn, hexFrom?_append, hhigh]
      simp [hexFrom?, hexDigit?_digitChar (n % 16) (Nat.mod_lt n (by decide)), Nat.div_add_mod]

theorem hex?_toDigits (n : Nat) : hex? (Nat.toDigits 16 n) = some n := by
  rw [hex?, if_neg Nat.toDigits_ne_nil, hexFrom?_toDigits]

/-- What has a value consists of digits. -/
theorem isSome_hexDigit? {high n : Nat} {cs : List Char} (h : hexFrom? high cs = some n) :
    ∀ c ∈ cs, (hexDigit? c).isSome = true := by
  induction cs generalizing high with
  | nil => exact nofun
  | cons c cs ih =>
    rw [hexFrom?, Option.bind_eq_some_iff] at h
    obtain ⟨d, hd, hcs⟩ := h
    exact List.forall_mem_cons.2 ⟨Option.isSome_of_eq_some hd, ih hcs⟩

/-! ## Numerals as words -/

theorem isBlank_of_isDigit {c : Char} (h : c.isDigit = true) : isBlank c = false := by
  simp only [Char.isDigit, Bool.and_eq_true, decide_eq_true_eq, UInt32.le_iff_toNat_le] at h
  have hlo : 48 ≤ c.toNat := h.1
  have hhi : c.toNat ≤ 57 := h.2
  unfold isBlank
  grind

theorem Numeral.isWord {s : String} {n : Nat} (h : Numeral s n) : IsWord s :=
  ⟨h.ne_nil, fun c hc => isBlank_of_isDigit (h.isDigit c hc)⟩

/-- A sign in front of a word is part of it. -/
theorem isWord_sign_append {sign : String} {s : String} (hsign : IsWord sign) (hs : IsWord s) :
    IsWord (sign ++ s) := by
  refine ⟨by simp [hsign.1], fun c hc => ?_⟩
  rw [String.toList_append] at hc
  rcases List.mem_append.1 hc with hc | hc
  · exact hsign.2 c hc
  · exact hs.2 c hc

theorem SignedNumeral.isWord {s : String} {i : Int} (h : SignedNumeral s i) : IsWord s := by
  rcases h with (h | h) | h
  · exact h.isWord
  · exact isWord_sign_append (by decide) h.isWord
  · exact isWord_sign_append (by decide) h.isWord

/-- What reads as a number, with or without a sign, travels as one word. -/
theorem isWord_of_int64? {s : String} {n : Int64} (h : int64? s.toList = some n) : IsWord s :=
  (int64?_eq_some_iff.1 h).isWord

@[simp]
theorem isWord_natRepr (n : Nat) : IsWord n.repr :=
  (numeral_toString n).isWord

@[simp]
theorem isWord_intRepr (i : Int) : IsWord i.repr :=
  (signedNumeral_toString i).isWord

end LightHub.Text
