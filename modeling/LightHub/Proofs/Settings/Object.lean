/-
  Settings in a JSON object.

  * `Key.Reads`: a value that is that of a field; `assign_of_reads`, `reads_of_assign`:
    exactly such a value is read as this field.
  * `Yields`: what members make of settings; `foldlM_eq_ok_iff`: it is what they are
    read as.
  * `parse_object_iff`, `parse_array_iff`: **the settings of a text are what its members
    make of the defaults.**
-/
import LightHub.Proofs.Settings.Members
import LightHub.Proofs.Wire.Version

namespace LightHub.Settings

open Json (Value)

variable {acc s t : Settings} {k k' : Key} {v : Value} {m : Member} {members : List Member}
  {seen : List Key}

/-! ## Values -/

/-- The value of a member, if settings have it. -/
inductive Key.Reads (s : Settings) : Key → Value → Prop
  | hubIP {text : String} : Net.parseIP? text = some s.hubIP →
      Reads s .hubIP (.string (some text))
  | hubPort {digits : List Char} : Text.Numeral (String.ofList digits) s.hubPort.toNat →
      Reads s .hubPort (.number digits)
  | protocol {text : String} : Version.VersionText text s.protocol →
      Reads s .protocol (.string (some text))
  | readTimeout {digits : List Char} : Text.Numeral (String.ofList digits) s.readTimeout.toNat →
      Reads s .readTimeout (.number digits)
  | writeTimeout {digits : List Char} : Text.Numeral (String.ofList digits) s.writeTimeout.toNat →
      Reads s .writeTimeout (.number digits)

/-- Two settings have the same value for a key. -/
def Key.Same (s t : Settings) : Key → Prop
  | hubIP => s.hubIP = t.hubIP
  | hubPort => s.hubPort = t.hubPort
  | protocol => s.protocol = t.protocol
  | readTimeout => s.readTimeout = t.readTimeout
  | writeTimeout => s.writeTimeout = t.writeTimeout

/-- `acc` with the value of one member taken from `s`. -/
def give (s acc : Settings) : Key → Settings
  | .hubIP => { acc with hubIP := s.hubIP }
  | .hubPort => { acc with hubPort := s.hubPort }
  | .protocol => { acc with protocol := s.protocol }
  | .readTimeout => { acc with readTimeout := s.readTimeout }
  | .writeTimeout => { acc with writeTimeout := s.writeTimeout }

theorem Key.Same.trans {u : Settings} (h : k.Same s t) (h' : k.Same t u) : k.Same s u := by
  cases k <;> exact Eq.trans h h'

theorem Key.Same.symm (h : k.Same s t) : k.Same t s := by
  cases k <;> exact Eq.symm h

theorem Key.Same.reads (h : k.Same s t) (ht : k.Reads t v) : k.Reads s v := by
  cases ht with
  | hubIP hread => exact .hubIP (h ▸ hread)
  | hubPort hread => exact .hubPort (h ▸ hread)
  | protocol hread => exact .protocol (h ▸ hread)
  | readTimeout hread => exact .readTimeout (h ▸ hread)
  | writeTimeout hread => exact .writeTimeout (h ▸ hread)

theorem Key.Same.give_eq (h : k.Same s t) (acc : Settings) : s.give acc k = t.give acc k := by
  cases k <;> simp only [give] <;> rw [h]

theorem eq_of_same (h : ∀ k, Key.Same s t k) : s = t := by
  obtain ⟨hubIP, hubPort, protocol, readTimeout, writeTimeout⟩ := s
  obtain rfl : hubIP = t.hubIP := h .hubIP
  obtain rfl : hubPort = t.hubPort := h .hubPort
  obtain rfl : protocol = t.protocol := h .protocol
  obtain rfl : readTimeout = t.readTimeout := h .readTimeout
  obtain rfl : writeTimeout = t.writeTimeout := h .writeTimeout
  rfl

theorem natural?_eq_some_iff {max n : Nat} {digits : List Char} :
    natural? max digits = some n ↔ Text.Numeral (String.ofList digits) n ∧ n ≤ max := by
  rw [natural?, Option.filter_eq_some_iff, ← Text.natural?_eq_some_iff, String.toList_ofList,
    decide_eq_true_eq]

section

variable {ω : Type} (width : Text.Width ω) {digits : List Char}

/-- Digits that are read as a word are a numeral of its number. -/
theorem numeral_of_natural? {n : Nat} (h : natural? (width.size - 1) digits = some n) :
    Text.Numeral (String.ofList digits) (width.toNat (width.ofNat n)) := by
  obtain ⟨hnumeral, hle⟩ := natural?_eq_some_iff.1 h
  rwa [width.toNat_ofNat_of_le hle]

theorem natural?_of_numeral {w : ω} (h : Text.Numeral (String.ofList digits) (width.toNat w)) :
    natural? (width.size - 1) digits = some (width.toNat w) :=
  natural?_eq_some_iff.2 ⟨h, width.toNat_le w⟩

end

theorem same_give (s acc : Settings) (k : Key) : k.Same (s.give acc k) s := by
  cases k <;> rfl

/-- What is given for one key leaves the others alone. -/
theorem same_give_of_ne (s acc : Settings) (h : k' ≠ k) : k'.Same (s.give acc k) acc := by
  cases k <;> cases k' <;> first | rfl | exact absurd rfl h

/-- A value of a field is read as this field. -/
theorem assign_of_reads (h : k.Reads s v) (acc : Settings) :
    acc.assign k v.front = .ok (s.give acc k) := by
  cases h with
  | hubIP h => simp only [Value.front, assign, h, give]
  | hubPort h =>
    have hread : natural? (UInt16.size - 1) _ = _ := natural?_of_numeral Text.Width.uint16 h
    simp only [Value.front, assign, hread, Text.Width.uint16, UInt16.ofNat_toNat, give]
  | protocol h => simp only [Value.front, assign, Version.parse?_eq_some_iff.2 h, give]
  | readTimeout h =>
    have hread : natural? (UInt64.size - 1) _ = _ := natural?_of_numeral Text.Width.uint64 h
    simp only [Value.front, assign, hread, Text.Width.uint64, UInt64.ofNat_toNat, give]
  | writeTimeout h =>
    have hread : natural? (UInt64.size - 1) _ = _ := natural?_of_numeral Text.Width.uint64 h
    simp only [Value.front, assign, hread, Text.Width.uint64, UInt64.ofNat_toNat, give]

/-- What is read as a field is a value of it, and changes no other one. -/
theorem reads_of_assign (h : acc.assign k v.front = .ok s) :
    k.Reads s v ∧ s = s.give acc k := by
  unfold assign at h
  split at h
  case h_1 text hfront =>
    split at h
    next hubIP hread =>
      obtain rfl := Except.ok.inj h
      rw [Value.eq_string_of_front hfront]
      exact ⟨.hubIP hread, rfl⟩
    next => cases h
  case h_2 digits hfront =>
    split at h
    next n hread =>
      obtain rfl := Except.ok.inj h
      rw [Value.eq_number_of_front hfront]
      exact ⟨.hubPort (numeral_of_natural? Text.Width.uint16 hread), rfl⟩
    next => cases h
  case h_3 text hfront =>
    split at h
    next protocol hread =>
      obtain rfl := Except.ok.inj h
      rw [Value.eq_string_of_front hfront]
      exact ⟨.protocol (Version.parse?_eq_some_iff.1 hread), rfl⟩
    next => cases h
  case h_4 digits hfront =>
    split at h
    next n hread =>
      obtain rfl := Except.ok.inj h
      rw [Value.eq_number_of_front hfront]
      exact ⟨.readTimeout (numeral_of_natural? Text.Width.uint64 hread), rfl⟩
    next => cases h
  case h_5 digits hfront =>
    split at h
    next n hread =>
      obtain rfl := Except.ok.inj h
      rw [Value.eq_number_of_front hfront]
      exact ⟨.writeTimeout (numeral_of_natural? Text.Width.uint64 hread), rfl⟩
    next => cases h
  case h_6 => cases h

/-! ## Members -/

/-- The key of a member, if it is known. -/
def Member.key? (m : Member) : Option Key :=
  m.1.bind Key.ofText?

/-- What members make of settings, in any order.  All keys are texts, and no known one
    comes twice. -/
structure Yields (before : Settings) (members : List Member) (s : Settings) : Prop where
  isText : ∀ m ∈ members, m.1 ≠ none
  once : (members.filterMap Member.key?).Nodup
  /-- A known key gives its field -/
  reads : ∀ m ∈ members, ∀ k, Member.key? m = some k → k.Reads s m.2
  /-- A field without its key stays -/
  same : ∀ k, k ∉ members.filterMap Member.key? → k.Same s before

theorem filterMap_of_unknown (h : Member.key? m = none) :
    (m :: members).filterMap Member.key? = members.filterMap Member.key? :=
  List.filterMap_cons_none h

theorem filterMap_of_known (h : Member.key? m = some k) :
    (m :: members).filterMap Member.key? = k :: members.filterMap Member.key? :=
  List.filterMap_cons_some h

theorem yields_nil_iff : Yields acc [] s ↔ s = acc := by
  constructor
  · intro h
    exact eq_of_same fun k => h.same k List.not_mem_nil
  · rintro rfl
    exact ⟨nofun, .nil, nofun, fun k _ => by cases k <;> rfl⟩

theorem yields_cons_of_unknown (htext : m.1 ≠ none) (h : Member.key? m = none) :
    Yields acc (m :: members) s ↔ Yields acc members s := by
  constructor
  · rintro ⟨htexts, honce, hreads, hsame⟩
    rw [filterMap_of_unknown h] at honce hsame
    exact ⟨(List.forall_mem_cons.1 htexts).2, honce, (List.forall_mem_cons.1 hreads).2, hsame⟩
  · rintro ⟨htexts, honce, hreads, hsame⟩
    rw [← filterMap_of_unknown h] at honce hsame
    refine ⟨List.forall_mem_cons.2 ⟨htext, htexts⟩, honce,
      List.forall_mem_cons.2 ⟨?_, hreads⟩, hsame⟩
    intro k hk
    rw [h] at hk
    cases hk

theorem yields_cons_of_known (htext : m.1 ≠ none) (h : Member.key? m = some k) :
    Yields acc (m :: members) s ↔
      k ∉ members.filterMap Member.key? ∧ k.Reads s m.2 ∧ Yields (s.give acc k) members s := by
  constructor
  · rintro ⟨htexts, honce, hreads, hsame⟩
    rw [filterMap_of_known h, List.nodup_cons] at honce
    rw [filterMap_of_known h] at hsame
    rw [List.forall_mem_cons] at htexts hreads
    refine ⟨honce.1, hreads.1 k h, htexts.2, honce.2, hreads.2, fun k' hk' => ?_⟩
    by_cases hne : k' = k
    · rw [hne]
      exact (same_give s acc k).symm
    · have hother : k' ∉ k :: members.filterMap Member.key? :=
        fun hmem => (List.mem_cons.1 hmem).elim hne hk'
      exact (hsame k' hother).trans (same_give_of_ne s acc hne).symm
  · rintro ⟨hnew, hread, htexts, honce, hreads, hsame⟩
    refine ⟨List.forall_mem_cons.2 ⟨htext, htexts⟩, ?_, List.forall_mem_cons.2 ⟨?_, hreads⟩, ?_⟩
    · rw [filterMap_of_known h, List.nodup_cons]
      exact ⟨hnew, honce⟩
    · intro k' hk'
      obtain rfl := Option.some.inj (h.symm.trans hk')
      exact hread
    · intro k' hk'
      rw [filterMap_of_known h, List.mem_cons, not_or] at hk'
      exact (hsame k' hk'.2).trans (same_give_of_ne s acc hk'.1)

/-- A known member that is read gives its field, and no other one. -/
theorem yields_give_of_assign (h : acc.assign k v.front = .ok t)
    (hother : k ∉ members.filterMap Member.key?) (hyields : Yields t members s) :
    k.Reads s v ∧ Yields (s.give acc k) members s := by
  obtain ⟨hread, hgive⟩ := reads_of_assign h
  have hsame := hyields.same k hother
  rw [hsame.give_eq, ← hgive]
  exact ⟨hsame.reads hread, hyields⟩

theorem foldlM_cons_of_unknown (htext : m.1 ≠ none) (h : Member.key? m = none) :
    (m :: members).foldlM takeMember (seen, acc) = members.foldlM takeMember (seen, acc) := by
  obtain ⟨_ | text, v⟩ := m
  · exact absurd rfl htext
  · have hkey : Key.ofText? text = none := h
    rw [List.foldlM_cons]
    simp only [takeMember, hkey]
    rfl

theorem foldlM_cons_of_known (h : Member.key? m = some k) {p : List Key × Settings} :
    (m :: members).foldlM takeMember (seen, acc) = .ok p ↔
      k ∉ seen ∧ ∃ t, acc.assign k m.2.front = .ok t ∧
        members.foldlM takeMember (k :: seen, t) = .ok p := by
  obtain ⟨_ | text, v⟩ := m
  · cases h
  · have hkey : Key.ofText? text = some k := h
    rw [List.foldlM_cons, bind_eq_ok_iff]
    simp only [takeMember, hkey]
    split
    next hk =>
      constructor
      · rintro ⟨_, hq, -⟩
        cases hq
      · rintro ⟨hnew, -⟩
        exact absurd hk hnew
    next hk =>
      constructor
      · rintro ⟨q, hq, hfold⟩
        obtain ⟨t, hassign, rfl⟩ := map_eq_ok_iff.1 hq
        exact ⟨hk, t, hassign, hfold⟩
      · rintro ⟨-, t, hassign, hfold⟩
        exact ⟨(k :: seen, t), map_eq_ok_iff.2 ⟨t, hassign, rfl⟩, hfold⟩

/-- Members are read as what they make of the settings, if their keys have not been
    there before. -/
theorem foldlM_eq_ok_iff :
    (∃ seen', members.foldlM takeMember (seen, acc) = .ok (seen', s)) ↔
      Yields acc members s ∧ ∀ k ∈ members.filterMap Member.key?, k ∉ seen := by
  -- each member changes the settings so far and the keys so far, so both are arbitrary
  induction members generalizing seen acc with
  | nil =>
    rw [yields_nil_iff]
    constructor
    · rintro ⟨seen', h⟩
      cases h
      exact ⟨rfl, nofun⟩
    · rintro ⟨rfl, -⟩
      exact ⟨seen, rfl⟩
  | cons m members ih =>
    by_cases htext : m.1 = none
    · obtain ⟨_, v⟩ := m
      obtain rfl : _ = none := htext
      constructor
      · rintro ⟨seen', h⟩
        cases h
      · rintro ⟨h, -⟩
        exact absurd rfl (h.isText (none, v) List.mem_cons_self)
    · cases hkey : Member.key? m with
      | none =>
        rw [foldlM_cons_of_unknown htext hkey, yields_cons_of_unknown htext hkey,
          filterMap_of_unknown hkey]
        exact ih
      | some k =>
        simp only [foldlM_cons_of_known hkey, yields_cons_of_known htext hkey,
          filterMap_of_known hkey, List.forall_mem_cons]
        constructor
        · rintro ⟨seen', hk, t, hassign, hfold⟩
          obtain ⟨hyields, hnew⟩ := ih.1 ⟨seen', hfold⟩
          have hother : k ∉ members.filterMap Member.key? :=
            fun hmem => hnew k hmem List.mem_cons_self
          exact ⟨⟨hother, yields_give_of_assign hassign hother hyields⟩, hk,
            fun k' hmem hseen => hnew k' hmem (List.mem_cons_of_mem k hseen)⟩
        · rintro ⟨⟨hother, hread, hyields⟩, hk, hnew⟩
          have hnew' : ∀ k' ∈ members.filterMap Member.key?, k' ∉ k :: seen := by
            intro k' hmem hseen
            rcases List.mem_cons.1 hseen with rfl | hseen
            · exact hother hmem
            · exact hnew k' hmem hseen
          obtain ⟨seen', hfold⟩ := ih.2 ⟨hyields, hnew'⟩
          exact ⟨seen', hk, _, assign_of_reads hread acc, hfold⟩

/-! ## Texts -/

theorem parse_eq_ok_iff {text : String}
    (h : parse text = (members.foldlM takeMember ([], default)).map Prod.snd) :
    parse text = .ok s ↔ Yields default members s := by
  have hread : (∃ seen, members.foldlM takeMember ([], default) = .ok (seen, s)) ↔
      Yields default members s :=
    foldlM_eq_ok_iff.trans (and_iff_left fun _ _ => List.not_mem_nil)
  rw [h, map_eq_ok_iff, ← hread]
  constructor
  · rintro ⟨⟨seen, _⟩, hfold, rfl⟩
    exact ⟨seen, hfold⟩
  · rintro ⟨seen, hfold⟩
    exact ⟨_, hfold, rfl⟩

/-- **The settings of an object are what its members make of the defaults.** -/
theorem parse_object_iff {text : String} (h : (Value.object members).IsText text) :
    parse text = .ok s ↔ Yields default members s :=
  parse_eq_ok_iff (parse_object h)

/-- **The settings of an array are what its values make of the defaults**, in the order
    of the keys. -/
theorem parse_array_iff {text : String} {values : List Value} (h : (Value.array values).IsText text)
    (hlength : values.length ≤ Key.all.length) :
    parse text = .ok s ↔ Yields default (named Key.all values) s :=
  parse_eq_ok_iff (parse_array h hlength)

end LightHub.Settings
