/-
  Blank characters, and a text without them.

  * `isBlank`: the Unicode White_Space class.
  * `trim`, `trimEnd`: a text without the blanks around it, or after it.
  * `wordsOf`: the maximal blank-free runs of a list of characters, in order;
    `words` is the same on texts.
  * `wordsOf_word_blank`, `wordsOf_word`: a blank-free run that ends at a blank
    or at the end is exactly one word.
-/
namespace LightHub.Text

/-- The White_Space class of Unicode. -/
def isBlank (c : Char) : Bool :=
  let n := c.toNat
  (0x09 ≤ n && n ≤ 0x0D) || n == 0x20 || n == 0x85 || n == 0xA0 || n == 0x1680 ||
    (0x2000 ≤ n && n ≤ 0x200A) || n == 0x2028 || n == 0x2029 || n == 0x202F || n == 0x205F ||
    n == 0x3000

/-! ## Trimming -/

/-- A list without its longest suffix of elements that satisfy `p`. -/
def dropEnd {α : Type} (p : α → Bool) : List α → List α
  | [] => []
  | a :: rest =>
    match dropEnd p rest with
    | [] => if p a then [] else [a]
    | kept => a :: kept

/-- A text without the blanks after it. -/
def trimEnd (s : String) : String :=
  String.ofList (dropEnd isBlank s.toList)

/-- A text without the blanks around it. -/
def trim (s : String) : String :=
  String.ofList (dropEnd isBlank (s.toList.dropWhile isBlank))

/-! ## Words -/

/-- Lengthens the first word by a character in front. -/
def attach (c : Char) : List (List Char) → List (List Char)
  | [] => [[c]]
  | w :: ws => (c :: w) :: ws

/-- The maximal blank-free runs, in order.  A character that is not blank
    starts a word of its own if a blank or the end follows, and belongs to the
    first word of the rest otherwise. -/
def wordsOf : List Char → List (List Char)
  | [] => []
  | c :: rest =>
    if isBlank c then wordsOf rest
    else match rest with
      | [] => [[c]]
      | d :: _ => if isBlank d then [c] :: wordsOf rest else attach c (wordsOf rest)

/-- The maximal blank-free runs of a text, in order. -/
def words (s : String) : List String :=
  (wordsOf s.toList).map String.ofList

theorem wordsOf_cons_blank {c : Char} (h : isBlank c = true) (rest : List Char) :
    wordsOf (c :: rest) = wordsOf rest := by
  simp [wordsOf, h]

theorem wordsOf_word : ∀ {w : List Char}, w ≠ [] → (∀ c ∈ w, isBlank c = false) → wordsOf w = [w]
  | [], h, _ => absurd rfl h
  | [c], _, hw => by simp [wordsOf, hw c]
  | c :: d :: w, _, hw => by
    have ih := wordsOf_word (w := d :: w) (by simp) fun x hx => hw x (List.mem_cons_of_mem _ hx)
    rw [wordsOf]
    simp [hw c, hw d, ih, attach]

theorem wordsOf_word_blank {b : Char} (hb : isBlank b = true) (rest : List Char) :
    ∀ {w : List Char}, w ≠ [] → (∀ c ∈ w, isBlank c = false) →
      wordsOf (w ++ b :: rest) = w :: wordsOf rest
  | [], h, _ => absurd rfl h
  | [c], _, hw => by simp [wordsOf, hw c, hb]
  | c :: d :: w, _, hw => by
    have ih := wordsOf_word_blank hb rest (w := d :: w) (by simp)
      fun x hx => hw x (List.mem_cons_of_mem _ hx)
    rw [List.cons_append, List.cons_append, wordsOf]
    rw [List.cons_append] at ih
    simp [hw c, hw d, ih, attach]

end LightHub.Text
