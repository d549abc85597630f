/-
  Settings as a JSON text, written and read.

  * `value`, `valueText`: the value of a member, and how it is written.
  * `toList_render`, `isText_render`: the text of settings is one of their members.
  * `yields_members`: settings are what their members make.
  * `parse_render`: **settings read back from their text**, unless their version
    is 0.0.
  * `protocol_of_parse`: no text is read as settings of that version.
-/
import LightHub.Proofs.Net.Ipv6
import LightHub.Proofs.Settings.Object

namespace LightHub

open Json (Plain Spelled Token TokenText Value)

/-! ## Plain texts -/

section

open Json (isPlain_of_hexDigit isPlain_of_isDigit)

theorem isPlain_toDigits (n : Nat) : ∀ c ∈ Nat.toDigits 10 n, Json.IsPlain c :=
  fun _ hc => isPlain_of_isDigit (Text.isDigit_of_mem_toDigits hc)

theorem plain_version (v : Version) : Plain v.text := by
  unfold Plain
  rw [Version.toList_text]
  simp only [List.forall_mem_cons, List.forall_mem_append]
  exact ⟨by decide, by decide, by decide, isPlain_toDigits _, by decide, isPlain_toDigits _⟩

namespace Net

open Std.Net

theorem plain_ipv4Text (a : IPv4Addr) : Plain (ipv4Text a) := by
  obtain ⟨b, c, d, e, rfl⟩ := IPv4Addr.exists_ofParts a
  unfold Plain
  rw [toList_ipv4Text]
  simp only [List.forall_mem_cons, List.forall_mem_append]
  exact ⟨isPlain_toDigits _, by decide, isPlain_toDigits _, by decide, isPlain_toDigits _,
    by decide, isPlain_toDigits _⟩

theorem isPlain_group (g : UInt16) : ∀ c ∈ Nat.toDigits 16 g.toNat, Json.IsPlain c :=
  fun _ hc => isPlain_of_hexDigit (isSome_of_mem_toDigits hc)

theorem plain_groupsText (gs : List UInt16) : Plain (groupsText gs) := by
  unfold Plain
  cases gs with
  | nil => exact nofun
  | cons g gs =>
    rw [toList_groupsText, List.forall_mem_append]
    refine ⟨isPlain_group g, fun c hc => ?_⟩
    obtain ⟨h, -, hc⟩ := List.mem_flatMap.1 hc
    rcases List.mem_cons.1 hc with rfl | hc
    · decide
    · exact isPlain_group h c hc

theorem plain_ipv6Text (a : IPv6Addr) : Plain (ipv6Text a) := by
  rw [ipv6Text]
  cases mappedIPv4? a.segments.toList with
  | some v4 => exact Plain.append (by decide +kernel) (plain_ipv4Text v4)
  | none =>
    simp only
    split
    · exact Plain.append (Plain.append (plain_groupsText _) (by decide +kernel))
        (plain_groupsText _)
    · exact plain_groupsText _

theorem plain_ipText (ip : IPAddr) : Plain (ipText ip) := by
  cases ip with
  | v4 a => exact plain_ipv4Text a
  | v6 a => exact plain_ipv6Text a

end Net

end

namespace Settings

/-! ## Members -/

variable (s : Settings)

/-- The value of a member. -/
def value : Key → Value
  | .hubIP => .string (some (Net.ipText s.hubIP))
  | .hubPort => .number (Nat.toDigits 10 s.hubPort.toNat)
  | .protocol => .string (some s.protocol.text)
  | .readTimeout => .number (Nat.toDigits 10 s.readTimeout.toNat)
  | .writeTimeout => .number (Nat.toDigits 10 s.writeTimeout.toNat)

/-- The value of a member, as it is written. -/
def valueText : Key → List Char
  | .hubIP => '"' :: ((Net.ipText s.hubIP).toList ++ ['"'])
  | .hubPort => Nat.toDigits 10 s.hubPort.toNat
  | .protocol => '"' :: (s.protocol.text.toList ++ ['"'])
  | .readTimeout => Nat.toDigits 10 s.readTimeout.toNat
  | .writeTimeout => Nat.toDigits 10 s.writeTimeout.toNat

theorem tokens_value (k : Key) : (s.value k).tokens = [(s.value k).front] := by
  cases k <;> rfl

theorem tokenText_value (k : Key) : TokenText (s.value k).front (s.valueText k) := by
  cases k with
  | hubIP => exact Json.tokenText_of_plain (Net.plain_ipText s.hubIP)
  | protocol => exact Json.tokenText_of_plain (plain_version s.protocol)
  | hubPort | readTimeout | writeTimeout => exact .number (Json.isNumber_toDigits _)

/-- A member. -/
def member (k : Key) : Member :=
  (some k.text, s.value k)

/-- A member on a line of its own. -/
def memberText (k : Key) : List Char :=
  '\n' :: ' ' :: ' ' :: '"' :: (k.text.toList ++ '"' :: ':' :: ' ' :: s.valueText k)

/-- The text of settings, member by member. -/
theorem toList_render :
    s.render.toList = '{' :: (s.memberText .hubIP ++
      (([.hubPort, .protocol, .readTimeout, .writeTimeout].flatMap fun k =>
          ',' :: s.memberText k) ++
        ['\n', '}', '\n'])) := by
  unfold render
  simp only [String.toList_append, String.reduceToList, Text.toList_toString_nat, memberText,
    valueText, Key.text, List.flatMap_cons, List.flatMap_nil, List.append_assoc, List.cons_append,
    List.nil_append]

section

variable {ts : List Token} {rest : List Char}

/-- A member is written as a key, a colon and a value. -/
theorem spelled_memberText (k : Key) (h : Spelled ts rest) :
    Spelled (.string (some k.text) :: .colon :: ((s.value k).tokens ++ ts))
      (s.memberText k ++ rest) := by
  have hkey : Plain k.text := by
    cases k <;> decide +kernel
  have htext : s.memberText k ++ rest = '\n' :: ' ' :: ' ' ::
      ('"' :: (k.text.toList ++ ['"']) ++ ([':'] ++ ' ' :: (s.valueText k ++ rest))) := by
    simp [memberText]
  have hvalue : Spelled ((s.value k).front :: ts) (' ' :: (s.valueText k ++ rest)) :=
    .blank rfl (.token (s.tokenText_value k) h)
  rw [htext, tokens_value]
  exact .blank rfl (.blank rfl (.blank rfl
    (.token (Json.tokenText_of_plain hkey) (.token .colon hvalue))))

theorem spelled_memberTexts (ks : List Key) (h : Spelled ts rest) :
    Spelled (Value.memberTokens (ks.map s.member) ++ ts)
      ((ks.flatMap fun k => ',' :: s.memberText k) ++ rest) := by
  induction ks with
  | nil => exact h
  | cons k ks ih =>
    rw [List.flatMap_cons, List.append_assoc, List.map_cons, Value.memberTokens]
    simp only [List.cons_append, List.append_assoc]
    exact .token .comma (s.spelled_memberText k ih)

end

/-- The text of settings is one of their members. -/
theorem isText_render : (Value.object (Key.all.map s.member)).IsText s.render := by
  have hend : Spelled [.closeBrace] ['\n', '}', '\n'] :=
    .blank rfl (.token .closeBrace (.blank rfl .nil))
  unfold Value.IsText
  rw [toList_render, Key.all, List.map_cons, Value.tokens]
  exact .token .openBrace (s.spelled_memberText .hubIP (s.spelled_memberTexts _ hend))

/-! ## Reading members -/

theorem numeral_toDigits (n : Nat) : Text.Numeral (String.ofList (Nat.toDigits 10 n)) n := by
  rw [← Text.toList_toString_nat, String.ofList_toList]
  exact Text.numeral_toString n

variable {s}

/-- The value of a member is that of its field. -/
theorem reads_value (h : s.protocol ≠ ⟨0, 0⟩) (k : Key) : k.Reads s (s.value k) := by
  cases k with
  | hubIP => exact .hubIP (Net.parseIP?_ipText s.hubIP)
  | hubPort => exact .hubPort (numeral_toDigits _)
  | protocol =>
    refine .protocol (Version.parse?_eq_some_iff.1 ?_)
    rw [Version.parse?_text, if_neg h]
  | readTimeout => exact .readTimeout (numeral_toDigits _)
  | writeTimeout => exact .writeTimeout (numeral_toDigits _)

/-- Settings are what their members make of any. -/
theorem yields_members (h : s.protocol ≠ ⟨0, 0⟩) (acc : Settings) :
    Yields acc (Key.all.map s.member) s := by
  have hkey (k : Key) : Member.key? (s.member k) = some k := Key.ofText?_text k
  have hkeys : (Key.all.map s.member).filterMap Member.key? = Key.all := by
    rw [List.filterMap_map]
    exact (List.filterMap_congr fun k _ => hkey k).trans List.filterMap_some
  refine ⟨?_, ?_, ?_, ?_⟩
  · intro m hm
    obtain ⟨k, -, rfl⟩ := List.mem_map.1 hm
    exact nofun
  · rw [hkeys]
    decide
  · intro m hm k' hk'
    obtain ⟨k, -, rfl⟩ := List.mem_map.1 hm
    obtain rfl := Option.some.inj ((hkey k).symm.trans hk')
    exact reads_value h k
  · intro k hk
    rw [hkeys] at hk
    exact absurd (by cases k <;> decide) hk

/-- **Settings read back from their text.** -/
theorem parse_render (h : s.protocol ≠ ⟨0, 0⟩) : parse s.render = .ok s :=
  (parse_object_iff s.isText_render).2 (yields_members h default)

/-! ## Settings of any text -/

namespace Reading

/-- The settings so far. -/
def settings : Reading → Settings
  | start => default
  | key _ s _ | colon _ s _ | value _ s _ | skimming _ s _ | afterMember _ s | item _ s _
  | afterItem _ s | finished s => s

/-- A token is the value of a member, or changes no settings. -/
theorem settings_of_step {r r' : Reading} {t : Token} (h : r.step t = .ok r') :
    r'.settings = r.settings ∨ ∃ k, r.settings.assign k t = .ok r'.settings := by
  unfold step at h
  split at h
  case h_7 | h_12 =>
    obtain ⟨s, hs, h⟩ := bind_eq_ok_iff.1 h
    obtain rfl := Except.ok.inj h
    exact .inr ⟨_, hs⟩
  case h_8 =>
    split at h
    next skim _ =>
      obtain rfl := Except.ok.inj h
      split
      · exact .inl rfl
      · exact .inl rfl
    next => cases h
  case h_3 =>
    split at h
    next =>
      split at h
      · cases h
      · obtain rfl := Except.ok.inj h
        exact .inl rfl
    next =>
      obtain rfl := Except.ok.inj h
      exact .inl rfl
  all_goals cases h
  all_goals exact .inl rfl

end Reading

theorem protocol_of_assign {acc acc' : Settings} {k : Key} {t : Token}
    (h : acc.assign k t = .ok acc') (hacc : acc.protocol ≠ ⟨0, 0⟩) : acc'.protocol ≠ ⟨0, 0⟩ := by
  unfold assign at h
  split at h
  case h_3 =>
    split at h
    next v hv =>
      obtain rfl := Except.ok.inj h
      exact Version.ne_zero_of_parse? hv
    next => cases h
  case h_6 => cases h
  all_goals
    split at h
    · obtain rfl := Except.ok.inj h
      exact hacc
    · cases h

theorem protocol_of_foldlM {ts : List Token} {r r' : Reading}
    (h : ts.foldlM Reading.step r = .ok r') (hr : r.settings.protocol ≠ ⟨0, 0⟩) :
    r'.settings.protocol ≠ ⟨0, 0⟩ := by
  induction ts generalizing r with
  | nil =>
    obtain rfl := Except.ok.inj h
    exact hr
  | cons t ts ih =>
    rw [List.foldlM_cons] at h
    obtain ⟨mid, hstep, hrest⟩ := bind_eq_ok_iff.1 h
    refine ih hrest ?_
    rcases Reading.settings_of_step hstep with hsame | ⟨k, hassign⟩
    · rw [hsame]
      exact hr
    · exact protocol_of_assign hassign hr

/-- **No text is read as settings with the version 0.0.** -/
theorem protocol_of_parse {text : String} (h : parse text = .ok s) : s.protocol ≠ ⟨0, 0⟩ := by
  obtain ⟨r, hfold, h⟩ := bind_eq_ok_iff.1 h
  have hr := protocol_of_foldlM hfold (by decide)
  split at h
  · obtain rfl := Except.ok.inj h
    exact hr
  · cases h

end Settings

end LightHub
