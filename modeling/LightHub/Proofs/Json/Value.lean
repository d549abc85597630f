/-
  JSON values, and passing over them.

  * `Value`: values of any kind; `Value.tokens`: their tokens.
  * `Skim.passes`: **any value is passed over, whatever is in it**, and nothing after
    it.
-/
import LightHub.Json.Skim

namespace LightHub.Json

/-- A JSON value.  Keys may come more than once, and strings may stand for no text. -/
inductive Value where
  | string (text : Option String)
  /-- A number, as it is written -/
  | number (digits : List Char)
  /-- `true`, `false` or `null` -/
  | literal
  | array (items : List Value)
  | object (members : List (Option String × Value))

namespace Value

/-- What is shown for the parts of a value holds for the value. -/
@[elab_as_elim, induction_eliminator]
theorem parts {motive : Value → Prop} (string : ∀ text, motive (.string text))
    (number : ∀ digits, motive (.number digits)) (literal : motive .literal)
    (array : ∀ items, (∀ v ∈ items, motive v) → motive (.array items))
    (object : ∀ members, (∀ m ∈ members, motive m.2) → motive (.object members)) (v : Value) :
    motive v :=
  match v with
  | .string text => string text
  | .number digits => number digits
  | .literal => literal
  | .array items => array items fun v _ => parts string number literal array object v
  | .object members => object members fun m _ => parts string number literal array object m.2
termination_by v
decreasing_by
  · have hlt := List.sizeOf_lt_of_mem ‹v ∈ items›
    rw [Value.array.sizeOf_spec]
    omega
  · have hlt := List.sizeOf_lt_of_mem ‹m ∈ members›
    have hsnd : sizeOf m = 1 + sizeOf m.1 + sizeOf m.2 := rfl
    rw [Value.object.sizeOf_spec]
    omega

mutual

/-- The tokens of a value. -/
def tokens : Value → List Token
  | .string text => [.string text]
  | .number digits => [.number digits]
  | .literal => [.literal]
  | .array [] => [.openBracket, .closeBracket]
  | .array (v :: items) => .openBracket :: (v.tokens ++ (itemTokens items ++ [.closeBracket]))
  | .object [] => [.openBrace, .closeBrace]
  | .object (m :: members) =>
    .openBrace :: .string m.1 :: .colon :: (m.2.tokens ++ (memberTokens members ++ [.closeBrace]))

/-- The tokens of items, each after a comma. -/
def itemTokens : List Value → List Token
  | [] => []
  | v :: items => .comma :: (v.tokens ++ itemTokens items)

/-- The tokens of members, each after a comma. -/
def memberTokens : List (Option String × Value) → List Token
  | [] => []
  | m :: members => .comma :: .string m.1 :: .colon :: (m.2.tokens ++ memberTokens members)

end

/-- The first token of a value. -/
def front : Value → Token
  | .string text => .string text
  | .number digits => .number digits
  | .literal => .literal
  | .array _ => .openBracket
  | .object _ => .openBrace

theorem exists_tokens (v : Value) : ∃ ts, v.tokens = v.front :: ts := by
  cases v with
  | string _ => exact ⟨_, rfl⟩
  | number _ => exact ⟨_, rfl⟩
  | literal => exact ⟨_, rfl⟩
  | array items => cases items <;> exact ⟨_, rfl⟩
  | object members => cases members <;> exact ⟨_, rfl⟩

theorem eq_string_of_front {v : Value} {text : Option String} (h : v.front = .string text) :
    v = .string text := by
  cases v <;> cases h
  rfl

theorem eq_number_of_front {v : Value} {digits : List Char} (h : v.front = .number digits) :
    v = .number digits := by
  cases v <;> cases h
  rfl

end Value

namespace Skim

variable {s s' : Skim} {t : Token}

theorem foldlM_cons (h : s.step t = some s') (ts : List Token) :
    (t :: ts).foldlM step s = ts.foldlM step s' := by
  rw [List.foldlM_cons, h]
  rfl

/-- A value is passed over, and nothing after it. -/
def Passes (v : Value) : Prop :=
  ∀ e ts, (v.tokens ++ ts).foldlM step ⟨.value, e⟩ = ts.foldlM step ⟨.next, e⟩

/-- The first item of an array is a value like any other. -/
theorem foldlM_first (v : Value) (e : List Enclosure) (ts : List Token) :
    (v.tokens ++ ts).foldlM step ⟨.valueOrEnd, .array :: e⟩ =
      (v.tokens ++ ts).foldlM step ⟨.value, .array :: e⟩ := by
  obtain ⟨rest, htokens⟩ := v.exists_tokens
  rw [htokens, List.cons_append, List.foldlM_cons, List.foldlM_cons]
  cases v <;> rfl

theorem foldlM_itemTokens {items : List Value} (h : ∀ v ∈ items, Passes v)
    (e : List Enclosure) (ts : List Token) :
    (Value.itemTokens items ++ .closeBracket :: ts).foldlM step ⟨.next, .array :: e⟩ =
      ts.foldlM step ⟨.next, e⟩ := by
  induction items with
  | nil => rfl
  | cons v items ih =>
    rw [List.forall_mem_cons] at h
    rw [Value.itemTokens, List.cons_append, List.append_assoc, foldlM_cons rfl, h.1, ih h.2]

theorem foldlM_memberTokens {members : List (Option String × Value)}
    (h : ∀ m ∈ members, Passes m.2) (e : List Enclosure) (ts : List Token) :
    (Value.memberTokens members ++ .closeBrace :: ts).foldlM step ⟨.next, .object :: e⟩ =
      ts.foldlM step ⟨.next, e⟩ := by
  induction members with
  | nil => rfl
  | cons m members ih =>
    rw [List.forall_mem_cons] at h
    rw [Value.memberTokens, List.cons_append, List.cons_append, List.cons_append,
      List.append_assoc, foldlM_cons rfl, foldlM_cons rfl, foldlM_cons rfl, h.1, ih h.2]

/-- **Any value is passed over, whatever is in it**, and nothing after it. -/
theorem passes (v : Value) : Passes v := by
  intro e ts
  -- by induction on the value, for any brackets around it: each part is passed over in turn
  induction v generalizing e ts with
  | string _ => rfl
  | number _ => rfl
  | literal => rfl
  | array items ih =>
    cases items with
    | nil => rfl
    | cons v items =>
      rw [List.forall_mem_cons] at ih
      rw [Value.tokens, List.cons_append, List.append_assoc, List.append_assoc, foldlM_cons rfl,
        foldlM_first, ih.1]
      exact foldlM_itemTokens ih.2 e ts
  | object members ih =>
    cases members with
    | nil => rfl
    | cons m members =>
      rw [List.forall_mem_cons] at ih
      rw [Value.tokens, List.cons_append, List.cons_append, List.cons_append, List.append_assoc,
        List.append_assoc, foldlM_cons rfl, foldlM_cons rfl, foldlM_cons rfl, ih.1]
      exact foldlM_memberTokens ih.2 e ts

theorem foldlM_start (v : Value) : v.tokens.foldlM step start = some ⟨.next, []⟩ := by
  have h := passes v [] []
  rwa [List.append_nil] at h

/-- A number is a whole value, and another one does not follow it. -/
theorem step_number_number (s : Skim) (a b : List Char) :
    (s.step (.number a)).bind (step · (.number b)) = none := by
  obtain ⟨expected, _ | ⟨_ | _, enclosing⟩⟩ := s
  all_goals cases expected <;> rfl

theorem step_bad (s : Skim) : s.step .bad = none := by
  obtain ⟨expected, _ | ⟨_ | _, enclosing⟩⟩ := s
  all_goals cases expected <;> rfl

/-- After a complete value, there is nothing to pass over. -/
theorem step_of_isComplete (h : s.isComplete = true) (t : Token) : s.step t = none := by
  obtain ⟨expected, enclosing⟩ := s
  simp only [isComplete, Bool.and_eq_true, decide_eq_true_eq] at h
  obtain ⟨rfl, rfl⟩ := h
  cases t <;> rfl

end Skim

end LightHub.Json
