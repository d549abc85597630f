/-
  Request lines, as a hub reads them.

  * `Sendable`: a request that a session of a version lets out.
  * `folded`: a request in the letter case of its line.
  * `ofArgs?`: the request that hubs of a family read from a verb and the
    arguments after it; `ofArgs?_args`: it is the request that was meant.
  * `words_line`: the words of a request line.
  * `line_eq_line_iff`: **request lines are unambiguous.**
-/
import LightHub.Proofs.Wire.Version

namespace LightHub

open Text (IsWord)

/-! ## Keywords -/

theorem Verb.isWord_keyword (verb : Verb) : IsWord verb.keyword := by
  cases verb <;> decide

theorem Verb.keyword_injective {a b : Verb} (h : a.keyword = b.keyword) : a = b := by
  cases a <;> cases b <;> first | rfl | exact absurd h (by decide)

namespace RecordField

theorem isWord_keyword (field : RecordField) : IsWord field.keyword := by
  cases field <;> decide

/-- The field with a keyword. -/
def ofKeyword? (s : String) : Option RecordField :=
  if s = "NAME" then some name
  else if s = "TOPIC" then some topic
  else if s = "STATE" then some state
  else none

theorem ofKeyword?_keyword (field : RecordField) : ofKeyword? field.keyword = some field := by
  cases field <;> rfl

end RecordField

/-- The device type with a numeral. -/
def DeviceType.ofNumeral? (s : String) : Option DeviceType :=
  (Text.natural? s.toList).bind ofId?

theorem DeviceType.ofNumeral?_toString (type : DeviceType) :
    ofNumeral? (toString type.id) = some type := by
  rw [ofNumeral?, Text.toList_toString_nat, Text.natural?_toDigits]
  exact ofId?_id type

namespace Command

/-! ## Requests that are sent -/

/-- A request that sessions of version `v` let out. -/
structure Sendable (c : Command) (v : Version) : Prop where
  fits : c.validate = .ok ()
  spoken : c.checkGeneration v = .ok ()

instance (x : Except Fault Unit) : Decidable (x = .ok ()) :=
  match x with
  | .ok () => isTrue rfl
  | .error _ => isFalse nofun

instance (c : Command) (v : Version) : Decidable (c.Sendable v) :=
  decidable_of_iff (c.validate = .ok () ∧ c.checkGeneration v = .ok ())
    ⟨fun h => ⟨h.1, h.2⟩, fun h => ⟨h.1, h.2⟩⟩

theorem Sendable.generation_eq {c : Command} {v : Version} {g : Generation} (h : c.Sendable v)
    (hg : c.generation = some g) : v.generation = g := by
  have hs := h.spoken
  simp only [checkGeneration, hg] at hs
  split_ifs at hs with heq
  exact heq.symm

theorem sendable_quit (v : Version) : quit.Sendable v := ⟨rfl, rfl⟩

/-- The arguments of a request that fits travel as one word each. -/
theorem isWord_args {c : Command} (h : c.validate = .ok ()) : ∀ w ∈ c.args, IsWord w := by
  cases c with
  | toggle name | delete name | status name => simpa [args, validate, checkToken_eq_ok_iff] using h
  | set name command arg =>
    simp only [validate, checks_eq_ok_iff, checkToken_eq_ok_iff] at h
    cases arg <;> simp_all [args, checkToken_eq_ok_iff]
  | transmit topic message => simpa [args, validate, checks_eq_ok_iff, checkToken_eq_ok_iff] using h
  | transmitCode code pulse => simp [args]
  | addDevice name topic type commands =>
    simp only [validate, checks_eq_ok_iff, checkToken_eq_ok_iff, checkOptional_eq_ok_iff] at h
    simpa [args, h.1, h.2.1] using h.2.2.2
  | addCodes name on off pulse =>
    simp only [validate, checks_eq_ok_iff, checkToken_eq_ok_iff] at h
    simp [args, h.1]
  | update field name value =>
    simp only [validate, checks_eq_ok_iff, checkToken_eq_ok_iff, checkOptional_eq_ok_iff] at h
    simpa [args, h.1, RecordField.isWord_keyword] using h.2.2
  | sniff | list | quit => simp [args]

theorem isWord_args_version {c : Command} (v : Version) (h : ∀ w ∈ c.args, IsWord w) :
    ∀ w ∈ c.args ++ [v.text], IsWord w := by
  intro w hw
  rcases List.mem_append.1 hw with hw | hw
  · exact h w hw
  · rw [List.mem_singleton.1 hw]
    exact v.isWord_text

/-- The words of a request line, if its arguments are words. -/
theorem words_line_of_isWord {c : Command} (v : Version) (h : ∀ w ∈ c.args, IsWord w)
    (hq : c ≠ quit) : Text.words (c.line v) = c.verb.keyword :: (c.args ++ [v.text]) := by
  rw [← Text.words_line c.verb.isWord_keyword (isWord_args_version v h), line.eq_2 c v hq]

/-- The words of a request line. -/
theorem words_line {c : Command} (v : Version) (h : c.validate = .ok ()) (hq : c ≠ quit) :
    Text.words (c.line v) = c.verb.keyword :: (c.args ++ [v.text]) :=
  words_line_of_isWord v (isWord_args h) hq

theorem words_line_quit (v : Version) : Text.words (quit.line v) = [Verb.quit.keyword] := by
  have hline : quitLine = Verb.quit.keyword ++ spaced [] ++ "\n" := by decide
  change Text.words quitLine = _
  rw [hline, Text.words_line Verb.quit.isWord_keyword (List.forall_mem_nil _)]

/-! ## Reading requests -/

/-- A request in the letter case of its line. -/
def folded : Command → Command
  | set name command arg => set name (Text.upper command) (arg.map Text.upper)
  | c => c

/-- The request that hubs of a family read from a verb and the arguments after
    it.  The families differ in what they take `TRANSMIT` and `ADD` to mean. -/
def ofArgs? (g : Generation) : Verb → List String → Option Command
  | .toggle, [name] => some (toggle name)
  | .set, [name, command] => some (set name command none)
  | .set, [name, command, arg] => some (set name command (some arg))
  | .transmit, [first, second] =>
    match g with
    | .rf => do
      return transmitCode (← Text.int64? first.toList) (← Text.uint32? second.toList)
    | .mqtt => some (transmit first second)
  | .add, name :: first :: second :: rest =>
    match g, rest with
    | .rf, [pulse] => do
      return addCodes name (← Text.int64? first.toList) (← Text.int64? second.toList)
        (← Text.uint32? pulse.toList)
    | .mqtt, [] => do return addDevice name first (← DeviceType.ofNumeral? second) none
    | .mqtt, [commands] => do
      return addDevice name first (← DeviceType.ofNumeral? second) (some commands)
    | _, _ => none
  | .delete, [name] => some (delete name)
  | .sniff, [] => some sniff
  | .list, [] => some list
  | .status, [name] => some (status name)
  | .update, [field, name] => do return update (← RecordField.ofKeyword? field) name none
  | .update, [field, name, value] => do
    return update (← RecordField.ofKeyword? field) name (some value)
  | .quit, [] => some quit
  | _, _ => none

/-- **Hubs read the request that was meant**, if it is of their family. -/
theorem ofArgs?_args {c : Command} {v : Version} (h : c.Sendable v) :
    ofArgs? v.generation c.verb c.args = some c.folded := by
  cases c with
  | toggle | delete | sniff | list | status | quit => rfl
  | set name command arg => cases arg <;> rfl
  | transmit topic message =>
    rw [h.generation_eq rfl]
    rfl
  | transmitCode code pulse =>
    rw [h.generation_eq rfl]
    simp only [verb, args, ofArgs?, Text.int64?_toString, Text.uint32?_toString]
    rfl
  | addDevice name topic type commands =>
    rw [h.generation_eq rfl]
    cases commands <;>
      simp only [verb, args, Option.toList, List.cons_append, List.nil_append, ofArgs?,
        DeviceType.ofNumeral?_toString] <;>
      rfl
  | addCodes name on off pulse =>
    rw [h.generation_eq rfl]
    simp only [verb, args, ofArgs?, Text.int64?_toString, Text.uint32?_toString]
    rfl
  | update field name value =>
    cases value <;>
      simp only [verb, args, Option.toList, List.cons_append, List.nil_append, ofArgs?,
        RecordField.ofKeyword?_keyword] <;>
      rfl

@[simp]
theorem line_folded (c : Command) (v : Version) : c.folded.line v = c.line v := by
  cases c with
  | set name command arg => cases arg <;> simp [folded, line, args, verb]
  | _ => rfl

/-- Only quit lines are one word long. -/
theorem words_line_ne_quit {c : Command} {v : Version} (w : Version) (h : c.Sendable v)
    (hq : c ≠ quit) : Text.words (c.line v) ≠ Text.words (quit.line w) := by
  rw [words_line v h.fits hq, words_line_quit]
  simp

/-- The words of a line tell its version, and the request up to letter case. -/
theorem folded_eq_of_words_eq {c d : Command} {v w : Version} (hc : c.Sendable v)
    (hd : d.Sendable w) (hc' : c ≠ quit) (hd' : d ≠ quit)
    (h : Text.words (c.line v) = Text.words (d.line w)) : v = w ∧ c.folded = d.folded := by
  rw [words_line v hc.fits hc', words_line w hd.fits hd', List.cons.injEq] at h
  obtain ⟨hverb, hrest⟩ := h
  obtain ⟨hargs, htext⟩ := List.append_inj' hrest rfl
  obtain rfl : v = w := Version.text_injective (List.singleton_inj.1 htext)
  refine ⟨rfl, Option.some.inj ?_⟩
  rw [← ofArgs?_args hc, ← ofArgs?_args hd, Verb.keyword_injective hverb, hargs]

theorem eq_of_line_eq {c d : Command} {v w : Version} (hc : c.Sendable v) (hd : d.Sendable w)
    (h : c.line v = d.line w) : c = quit ∧ d = quit ∨ v = w ∧ c.folded = d.folded := by
  have hwords := congrArg Text.words h
  by_cases hc' : c = quit
  · by_cases hd' : d = quit
    · exact Or.inl ⟨hc', hd'⟩
    · subst hc'
      exact absurd hwords.symm (words_line_ne_quit v hd hd')
  · by_cases hd' : d = quit
    · subst hd'
      exact absurd hwords (words_line_ne_quit w hc hc')
    · exact Or.inr (folded_eq_of_words_eq hc hd hc' hd' hwords)

/-- **Request lines are unambiguous.**  Two requests that are sent share a line
    exactly if both end the session, or they are for one version and differ at
    most in the letter case that no line keeps.  So a hub of one family never
    gets the line of a form of the other. -/
theorem line_eq_line_iff {c d : Command} {v w : Version} (hc : c.Sendable v)
    (hd : d.Sendable w) :
    (c.line v = d.line w ↔ c = quit ∧ d = quit ∨ v = w ∧ c.folded = d.folded) ∧
      (c.generation = some .rf → d.generation = some .mqtt → c.line v ≠ d.line w) := by
  refine ⟨⟨eq_of_line_eq hc hd, ?_⟩, ?_⟩
  · rintro (⟨rfl, rfl⟩ | ⟨rfl, h⟩)
    · rfl
    · rw [← line_folded c, h, line_folded]
  · intro hrf hmqtt h
    rcases eq_of_line_eq hc hd h with ⟨rfl, -⟩ | ⟨rfl, -⟩
    · cases hrf
    · have hg := hc.generation_eq hrf
      rw [hd.generation_eq hmqtt] at hg
      exact absurd hg (by decide)

/-- The two forms of `ADD` with the same arguments. -/
theorem addCodes_line_ne_addDevice_line :
    (addCodes "lamp" 19 1 2).Sendable ⟨0, 2⟩ ∧
      (addDevice "lamp" "19" .powerStrip (some "2")).Sendable ⟨0, 3⟩ ∧
        (addCodes "lamp" 19 1 2).line ⟨0, 2⟩ ≠
          (addDevice "lamp" "19" .powerStrip (some "2")).line ⟨0, 3⟩ :=
  ⟨by decide, by decide, (line_eq_line_iff (by decide) (by decide)).2 rfl rfl⟩

end Command

end LightHub
