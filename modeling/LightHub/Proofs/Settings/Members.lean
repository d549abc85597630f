/-
  Settings in a JSON text, member by member.

  * `Member`, `takeMember`: reading a member, and what has been read before it.
  * `Reading.foldlM_takeMember`: **a member is read whatever its value is**, and
    passed over if its key is not known.
  * `parse_object`, `parse_array`: the settings of a text are those of its members,
    and the values of an array are members in the order of the keys.
-/
import LightHub.Proofs.Json.Text
import LightHub.Settings.Parse

namespace LightHub.Settings

open Json (Token Skim Value)

/-- A member of a JSON object. -/
abbrev Member := Option String × Value

/-- Reads a member.  With the settings so far come the known keys so far. -/
def takeMember : List Key × Settings → Member → Except Refusal (List Key × Settings)
  | _, (none, _) => .error .malformed
  | (seen, s), (some text, v) =>
    match Key.ofText? text with
    | none => .ok (seen, s)
    | some k =>
      if k ∈ seen then .error .malformed
      else (s.assign k v.front).map fun s => (k :: seen, s)

/-- Values as members, in the order of the keys. -/
def named (ks : List Key) (vs : List Value) : List Member :=
  List.zipWith (fun k v => (some k.text, v)) ks vs

theorem Key.ofText?_text (k : Key) : ofText? k.text = some k := by
  cases k <;> rfl

/-- A known value is a single token. -/
theorem tokens_of_assign {acc s : Settings} {k : Key} {v : Value}
    (h : acc.assign k v.front = .ok s) : v.tokens = [v.front] := by
  cases v with
  | string _ => rfl
  | number _ => rfl
  | literal => rfl
  | array _ => cases k <;> cases h
  | object _ => cases k <;> cases h

namespace Reading

variable {seen left : List Key} {s : Settings} {k : Key}

theorem foldlM_cons {r : Reading} {t : Token} (r' : Reading) (h : r.step t = .ok r')
    (ts : List Token) : (t :: ts).foldlM step r = ts.foldlM step r' := by
  rw [List.foldlM_cons, h]
  rfl

theorem foldlM_of_error {r : Reading} {t : Token} {e : Refusal} (h : r.step t = .error e)
    (ts : List Token) : (t :: ts).foldlM step r = .error e := by
  rw [List.foldlM_cons, h]
  rfl

/-- Where a value is read, it is the next one as a whole. -/
theorem foldlM_front {r : Reading} (next : Settings → Reading) (v : Value) (ts : List Token)
    (h : r.step v.front = (s.assign k v.front).map next) :
    (v.tokens ++ ts).foldlM step r =
      s.assign k v.front >>= fun s => ts.foldlM step (next s) := by
  cases hassign : s.assign k v.front with
  | error e =>
    rw [hassign] at h
    obtain ⟨rest, htokens⟩ := v.exists_tokens
    rw [htokens, List.cons_append, foldlM_of_error h]
    rfl
  | ok s' =>
    rw [hassign] at h
    rw [tokens_of_assign hassign, List.singleton_append, foldlM_cons _ h]
    rfl

/-- What is passed over changes nothing. -/
theorem foldlM_skimming {skim : Skim} {passed : List Token} (hskim : skim.isComplete = false)
    (h : passed.foldlM Skim.step skim = some ⟨.next, []⟩) (ts : List Token) :
    (passed ++ ts).foldlM step (.skimming seen s skim) =
      ts.foldlM step (.afterMember seen s) := by
  induction passed generalizing skim with
  | nil =>
    obtain rfl := Option.some.inj h
    cases hskim
  | cons t passed ih =>
    rw [List.foldlM_cons] at h
    obtain ⟨next, hnext, hrest⟩ := Option.bind_eq_some_iff.1 h
    cases hcomplete : next.isComplete with
    | false =>
      rw [List.cons_append, foldlM_cons (.skimming seen s next) (by simp [step, hnext, hcomplete])]
      exact ih hcomplete hrest
    | true =>
      -- nothing can follow, so this was the last token
      cases passed with
      | nil =>
        rw [List.singleton_append,
          foldlM_cons (.afterMember seen s) (by simp [step, hnext, hcomplete])]
      | cons t' passed =>
        rw [List.foldlM_cons, Skim.step_of_isComplete hcomplete] at hrest
        cases hrest

/-- **A member is read whatever its value is**, and passed over if its key is not
    known. -/
theorem foldlM_takeMember (m : Member) (empty : Bool) (ts : List Token) :
    (.string m.1 :: .colon :: (m.2.tokens ++ ts)).foldlM step (.key seen s empty) =
      takeMember (seen, s) m >>= fun p => ts.foldlM step (.afterMember p.1 p.2) := by
  obtain ⟨_ | text, v⟩ := m
  · exact foldlM_of_error rfl _
  · cases hkey : Key.ofText? text with
    | none =>
      have hstep : step (.key seen s empty) (.string (some text)) = .ok (.colon seen s none) := by
        simp only [step, hkey]
      rw [foldlM_cons _ hstep, foldlM_cons (.skimming seen s .start) rfl,
        foldlM_skimming rfl (Skim.foldlM_start v)]
      simp only [takeMember, hkey]
      rfl
    | some k =>
      by_cases hk : k ∈ seen
      · have hstep : step (.key seen s empty) (.string (some text)) = .error .malformed := by
          simp only [step, hkey, if_pos hk]
        rw [foldlM_of_error hstep]
        simp only [takeMember, hkey, if_pos hk]
        rfl
      · have hstep : step (.key seen s empty) (.string (some text)) =
            .ok (.colon (k :: seen) s (some k)) := by
          simp only [step, hkey, if_neg hk]
        rw [foldlM_cons _ hstep, foldlM_cons (.value (k :: seen) s k) rfl,
          foldlM_front (.afterMember (k :: seen)) v ts rfl]
        simp only [takeMember, hkey, if_neg hk]
        cases s.assign k v.front <;> rfl

/-- Members are read one after the other. -/
theorem foldlM_members (members : List Member) :
    (Value.memberTokens members ++ [Token.closeBrace]).foldlM step (.afterMember seen s) =
      (members.foldlM takeMember (seen, s)).map fun p => .finished p.2 := by
  induction members generalizing seen s with
  | nil => rfl
  | cons m members ih =>
    rw [Value.memberTokens, List.cons_append, List.cons_append, List.cons_append,
      List.append_assoc, foldlM_cons (.key seen s false) rfl, foldlM_takeMember, List.foldlM_cons]
    cases takeMember (seen, s) m with
    | error e => rfl
    | ok p => exact ih

/-- A value is read as the next one of an array. -/
theorem foldlM_item (v : Value) (empty : Bool) (ts : List Token) :
    (v.tokens ++ ts).foldlM step (.item (k :: left) s empty) =
      s.assign k v.front >>= fun s => ts.foldlM step (.afterItem left s) := by
  refine foldlM_front (.afterItem left) v ts ?_
  cases v <;> cases empty <;> rfl

/-- The values of an array are read one after the other, like members with the next
    keys. -/
theorem foldlM_items {values : List Value} (hlength : values.length ≤ left.length)
    (hnodup : left.Nodup) (hnew : ∀ k ∈ left, k ∉ seen) :
    (Value.itemTokens values ++ [Token.closeBracket]).foldlM step (.afterItem left s) =
      ((named left values).foldlM takeMember (seen, s)).map fun p => .finished p.2 := by
  induction values generalizing left seen s with
  | nil =>
    cases left <;> rfl
  | cons v values ih =>
    cases left with
    | nil => cases hlength
    | cons k left =>
      rw [List.nodup_cons] at hnodup
      rw [List.forall_mem_cons] at hnew
      rw [Value.itemTokens, List.cons_append, List.append_assoc,
        foldlM_cons (.item (k :: left) s false) rfl, foldlM_item, named, List.zipWith_cons_cons,
        List.foldlM_cons]
      simp only [takeMember, Key.ofText?_text, if_neg hnew.1]
      cases s.assign k v.front with
      | error e => rfl
      | ok s' =>
        refine ih (Nat.le_of_succ_le_succ hlength) hnodup.2 fun k' hk' hmem => ?_
        rcases List.mem_cons.1 hmem with rfl | hmem
        · exact hnodup.1 hk'
        · exact hnew.2 k' hk' hmem

theorem foldlM_object (members : List Member) :
    (Value.object members).tokens.foldlM step .start =
      (members.foldlM takeMember ([], default)).map fun p => .finished p.2 := by
  cases members with
  | nil => rfl
  | cons m members =>
    rw [Value.tokens, foldlM_cons (.key [] default true) rfl, foldlM_takeMember, List.foldlM_cons]
    cases takeMember ([], default) m with
    | error e => rfl
    | ok p => exact foldlM_members members

theorem foldlM_array {values : List Value} (h : values.length ≤ Key.all.length) :
    (Value.array values).tokens.foldlM step .start =
      ((named Key.all values).foldlM takeMember ([], default)).map fun p => .finished p.2 := by
  cases values with
  | nil => rfl
  | cons v values =>
    rw [Value.tokens, foldlM_cons (.item Key.all default true) rfl, Key.all, foldlM_item, named,
      List.zipWith_cons_cons, List.foldlM_cons]
    simp only [takeMember, Key.ofText?_text, List.not_mem_nil, if_false]
    cases default.assign .hubIP v.front with
    | error e => rfl
    | ok s => exact foldlM_items (Nat.le_of_succ_le_succ h) (by decide) (by decide)

end Reading

theorem parse_of_foldlM {text : String} {x : Except Refusal (List Key × Settings)}
    (h : (Json.lex text.toList).foldlM Reading.step .start = x.map fun p => .finished p.2) :
    parse text = x.map Prod.snd := by
  rw [parse, h]
  cases x <;> rfl

/-- **The settings of an object are those of its members.** -/
theorem parse_object {text : String} {members : List Member}
    (h : (Value.object members).IsText text) :
    parse text = (members.foldlM takeMember ([], default)).map Prod.snd := by
  apply parse_of_foldlM
  rw [Json.lex_of_isText h, Reading.foldlM_object]

/-- **The values of an array are those of members in the order of the keys.** -/
theorem parse_array {text : String} {values : List Value} (h : (Value.array values).IsText text)
    (hlength : values.length ≤ Key.all.length) :
    parse text = ((named Key.all values).foldlM takeMember ([], default)).map Prod.snd := by
  apply parse_of_foldlM
  rw [Json.lex_of_isText h, Reading.foldlM_array hlength]

end LightHub.Settings
