/-
  What a file of settings holds.

  * `Shelf.HasJson`: a file with a JSON text in it.
  * `Member.matters`, `yields_of_matters`: what members make of settings does not depend
    on their order, nor on those whose keys are not known.
  * `load_of_json`: **what is loaded depends only on the known members.**
-/
import LightHub.Proofs.Json.Exact
import LightHub.Proofs.Settings.File

namespace LightHub

open Json (Value)

/-- The file at a path has a JSON text of a value in it. -/
def Shelf.HasJson (shelf : Shelf) (path : String) (v : Value) : Prop :=
  ∃ text, shelf.read path = .ok (Text.bytes text) ∧ v.IsText text

namespace Settings

variable {acc s : Settings} {members members' : List Member} {path : String} {shelf : Shelf}

/-! ## The members that matter -/

/-- Whether a member can make a difference: its key is known, or is no text at all. -/
def Member.matters (m : Member) : Bool :=
  m.1 = none || (Member.key? m).isSome

theorem filterMap_filter_matters (members : List Member) :
    (members.filter Member.matters).filterMap Member.key? = members.filterMap Member.key? := by
  rw [List.filterMap_filter]
  refine List.filterMap_congr fun m _ => ?_
  cases hkey : Member.key? m with
  | none => rw [ite_self]
  | some k => rw [if_pos (by simp [Member.matters, hkey])]

/-- Members with keys that are not known make no difference. -/
theorem yields_filter_matters_iff :
    Yields acc (members.filter Member.matters) s ↔ Yields acc members s := by
  constructor
  · rintro ⟨htexts, honce, hreads, hsame⟩
    rw [filterMap_filter_matters] at honce hsame
    refine ⟨fun m hm hnone => ?_, honce, fun m hm k hk => ?_, hsame⟩
    · exact htexts m (List.mem_filter.2 ⟨hm, by simp [Member.matters, hnone]⟩) hnone
    · exact hreads m (List.mem_filter.2 ⟨hm, by simp [Member.matters, hk]⟩) k hk
  · rintro ⟨htexts, honce, hreads, hsame⟩
    rw [← filterMap_filter_matters] at honce hsame
    exact ⟨fun m hm => htexts m (List.mem_filter.1 hm).1, honce,
      fun m hm => hreads m (List.mem_filter.1 hm).1, hsame⟩

/-- The order of the members makes no difference. -/
theorem yields_of_perm (h : members.Perm members') (hyields : Yields acc members s) :
    Yields acc members' s := by
  have hkeys := h.filterMap Member.key?
  obtain ⟨htexts, honce, hreads, hsame⟩ := hyields
  exact ⟨fun m hm => htexts m (h.mem_iff.2 hm), hkeys.nodup_iff.1 honce,
    fun m hm => hreads m (h.mem_iff.2 hm), fun k hk => hsame k (mt hkeys.mem_iff.1 hk)⟩

/-- What members make depends on those that matter. -/
theorem yields_of_matters
    (h : (members.filter Member.matters).Perm (members'.filter Member.matters)) :
    Yields acc members s ↔ Yields acc members' s :=
  calc
    Yields acc members s ↔ Yields acc (members.filter Member.matters) s :=
      yields_filter_matters_iff.symm
    _ ↔ Yields acc (members'.filter Member.matters) s :=
      ⟨yields_of_perm h, yields_of_perm h.symm⟩
    _ ↔ Yields acc members' s := yields_filter_matters_iff

/-! ## Files -/

/-- What is loaded from a file with an object in it. -/
theorem load_object_iff (h : shelf.HasJson path (.object members)) :
    load path shelf = .ok s ↔ Yields default members s ∧ s.hubPort ≠ 0 := by
  obtain ⟨text, hread, htext⟩ := h
  rw [load, hread, ofContent_eq_ok_iff, parse_object_iff htext]

/-- What is loaded from a file with an array in it. -/
theorem load_array_iff {values : List Value} (hlength : values.length ≤ Key.all.length)
    (h : shelf.HasJson path (.array values)) :
    load path shelf = .ok s ↔ Yields default (named Key.all values) s ∧ s.hubPort ≠ 0 := by
  obtain ⟨text, hread, htext⟩ := h
  rw [load, hread, ofContent_eq_ok_iff, parse_array_iff htext hlength]

/-- **What is loaded depends only on the known members.**  A file with an object in it
    is loaded as the settings in which every known key has given its own field, and
    every other field is that of the defaults.  So two files with the same known
    members, in any order, are loaded alike, whatever else is in them and whatever
    blanks; and an array is loaded like an object with its values, in the order of the
    keys. -/
theorem load_of_json (path path' : String) (shelf shelf' : Shelf) :
    (∀ members, shelf.HasJson path (.object members) → ∀ s,
      load path shelf = .ok s ↔ Yields default members s ∧ s.hubPort ≠ 0) ∧
    (∀ members members', shelf.HasJson path (.object members) →
      shelf'.HasJson path' (.object members') →
      (members.filter Member.matters).Perm (members'.filter Member.matters) →
      ∀ s, load path shelf = .ok s ↔ load path' shelf' = .ok s) ∧
    (∀ values, values.length ≤ Key.all.length → shelf.HasJson path (.array values) →
      shelf'.HasJson path' (.object (named Key.all values)) →
      ∀ s, load path shelf = .ok s ↔ load path' shelf' = .ok s) := by
  refine ⟨fun members h s => load_object_iff h, ?_, ?_⟩
  · intro members members' h h' hperm s
    rw [load_object_iff h, load_object_iff h', yields_of_matters hperm]
  · intro values hlength h h' s
    rw [load_array_iff hlength h, load_object_iff h']

/-- Members in another order, and one that is passed over though a known key is in it. -/
theorem load_of_json_reordered :
    let timeout : Member := (some "read_timeout_ms", .number ['9'])
    let unknown : Member := (some "x", .array [.object [(some "hub_port", .literal)]])
    let port : Member := (some "hub_port", .number ['7'])
    let text := "\x7b\"read_timeout_ms\":9,\"x\":[\x7b\"hub_port\":null\x7d],\"hub_port\":7\x7d"
    let text' := "\x7b \"hub_port\": 7,\n\"read_timeout_ms\": 9\n\x7d"
    let shelf : Shelf :=
      { top := .folder [("a", .file (Text.bytes text)), ("b", .file (Text.bytes text'))] }
    shelf.HasJson "a" (.object [timeout, unknown, port]) ∧
      shelf.HasJson "b" (.object [port, timeout]) ∧
      load "a" shelf = .ok { default with hubPort := 7, readTimeout := 9 } := by
  intro timeout unknown port text text' shelf
  have ha : shelf.HasJson "a" (.object [timeout, unknown, port]) :=
    ⟨text, by decide +kernel, by decide +kernel⟩
  have hb : shelf.HasJson "b" (.object [port, timeout]) :=
    ⟨text', by decide +kernel, by decide +kernel⟩
  obtain ⟨-, hload, -⟩ := load_of_json "a" "b" shelf shelf
  exact ⟨ha, hb, (hload _ _ ha hb (.swap port timeout []) _).2 (by decide +kernel)⟩

end Settings

end LightHub
