/-
  Settings that are saved and loaded.

  * `write_of_save`: what a successful save has written.
  * `protocol_of_load`: settings that are loaded do not have the version 0.0.
  * `load_of_save`: **settings that have been saved are loaded again**, unless they
    have that version.
-/
import LightHub.Proofs.Settings.Text
import LightHub.Proofs.Shelf.Write
import LightHub.Settings.File

namespace LightHub.Settings

variable {s : Settings} {path : String} {shelf shelf' : Shelf}

theorem validate_eq_ok_iff : s.validate = .ok () ↔ s.hubPort ≠ 0 := by
  unfold validate
  split
  next h => exact iff_of_false nofun fun hne => hne h
  next h => exact iff_of_true rfl h

/-- A successful save has written settings that can be connected with. -/
theorem write_of_save (h : s.save path shelf = (.ok (), shelf')) :
    s.validate = .ok () ∧ ∃ made : Shelf, made.write path (Text.bytes s.render) = some shelf' := by
  unfold save at h
  split at h
  next => cases h
  next hvalid =>
    refine ⟨hvalid, ?_⟩
    split at h
    next => cases h
    next made _ =>
      split at h
      next hwrite =>
        obtain rfl : _ = shelf' := congrArg Prod.snd h
        exact ⟨made, hwrite⟩
      next => cases h

/-- A file whose text is read as settings holds them, if they can be connected with. -/
theorem ofContent_of_parse {text : String} (h : parse text = .ok s) :
    ofContent path (.ok (Text.bytes text)) = s.validate.map fun _ => s := by
  simp only [ofContent, Text.ofBytes?_bytes, h]
  rfl

/-- What a file with a text in it holds. -/
theorem ofContent_eq_ok_iff {text : String} :
    ofContent path (.ok (Text.bytes text)) = .ok s ↔ parse text = .ok s ∧ s.hubPort ≠ 0 := by
  cases hparse : parse text with
  | error e =>
    refine iff_of_false (fun h => ?_) nofun
    simp only [ofContent, Text.ofBytes?_bytes, hparse] at h
    cases e <;> cases h
  | ok t =>
    rw [ofContent_of_parse hparse, map_eq_ok_iff]
    constructor
    · rintro ⟨⟨⟩, hvalid, rfl⟩
      exact ⟨rfl, validate_eq_ok_iff.1 hvalid⟩
    · rintro ⟨hsame, hport⟩
      obtain rfl := Except.ok.inj hsame
      exact ⟨(), validate_eq_ok_iff.2 hport, rfl⟩

/-- A file that holds settings has a text in it that is read as them. -/
theorem parse_of_ofContent {content : List UInt8} (h : ofContent path (.ok content) = .ok s) :
    ∃ text, parse text = .ok s := by
  unfold ofContent at h
  split at h
  next heq => cases heq
  next heq => cases heq
  next content' _ =>
    split at h
    next => cases h
    next text _ =>
      split at h
      next => cases h
      next => cases h
      next s' hparse =>
        obtain ⟨⟨⟩, -, h⟩ := bind_eq_ok_iff.1 h
        obtain rfl := Except.ok.inj h
        exact ⟨text, hparse⟩

/-- Settings that are loaded do not have the version that no text is read as. -/
theorem protocol_of_load (h : load path shelf = .ok s) : s.protocol ≠ ⟨0, 0⟩ := by
  unfold load at h
  cases hread : shelf.read path with
  | error absence =>
    rw [hread] at h
    cases absence with
    | missing =>
      obtain rfl := Except.ok.inj h
      decide
    | blocked => cases h
  | ok content =>
    rw [hread] at h
    obtain ⟨text, hparse⟩ := parse_of_ofContent h
    exact protocol_of_parse hparse

/-- **Settings that have been saved are loaded again**, unless they have the version
    0.0: such settings are written, but no file is read as them. -/
theorem load_of_save (h : s.save path shelf = (.ok (), shelf')) :
    load path shelf' = .ok s ↔ s.protocol ≠ ⟨0, 0⟩ := by
  refine ⟨protocol_of_load, fun hprotocol => ?_⟩
  obtain ⟨hvalid, made, hwrite⟩ := write_of_save h
  rw [load, Shelf.read_write hwrite, ofContent_of_parse (parse_render hprotocol), hvalid]
  rfl

/-- In a folder that has to be made, with an address that leaves out zeros. -/
theorem load_of_save_ipv6 :
    let s : Settings :=
      { hubIP := .v6 (.ofParts 0x2001 0xDB8 0 0 1 0 0 0), hubPort := 65535, protocol := ⟨0, 2⟩,
        readTimeout := 0, writeTimeout := 18446744073709551615 }
    let shelf' := (s.save "conf/hub.json" .empty).2
    s.save "conf/hub.json" .empty = (.ok (), shelf') ∧
      (load "conf/hub.json" shelf' = .ok s ↔ s.protocol ≠ ⟨0, 0⟩) ∧
        load "conf/hub.json" shelf' = .ok s := by
  intro s shelf'
  have hsave : s.save "conf/hub.json" .empty = (.ok (), shelf') := rfl
  have hload := load_of_save hsave
  exact ⟨hsave, hload, hload.2 (by decide)⟩

/-- The version 0.0 is written to a file that is refused afterwards. -/
theorem save_of_zero :
    let s : Settings := { default with protocol := ⟨0, 0⟩ }
    let shelf' := (s.save "hub.json" .empty).2
    s.save "hub.json" .empty = (.ok (), shelf') ∧
      load "hub.json" shelf' = .error (.settings (.unparsable "hub.json" (some "KL/0.0"))) :=
  ⟨rfl, by decide +kernel⟩

end LightHub.Settings
