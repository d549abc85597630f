/-
  Settings that are worked on in memory.

  * `Settings.Loadable`: settings that a file can hold.
  * `Change.Does`: all that a change can do; `Change.does_on`: it does one of these
    things.
  * `Turn`, `Desk.after`: changes one after the other, while others may write to the
    files as well.
  * `loadable_of_turns`: **the settings at hand can always be saved and loaded**, and
    a change leaves alone what it is not about.
-/
import LightHub.Proofs.Settings.Save
import LightHub.Settings.Desk

namespace LightHub

open Std.Net

/-! ## Settings that a file can hold -/

namespace Settings

variable {s : Settings} {path : String} {shelf : Shelf}

/-- Settings that a file can hold: they can be connected with, and their version is
    one that can be read. -/
structure Loadable (s : Settings) : Prop where
  hubPort : s.hubPort ≠ 0
  protocol : s.protocol ≠ ⟨0, 0⟩

theorem loadable_default : Loadable default :=
  ⟨by decide, by decide⟩

theorem loadable_of_load (h : load path shelf = .ok s) : s.Loadable :=
  ⟨validate_eq_ok_iff.1 (validate_of_load h), protocol_of_load h⟩

theorem setAddress_eq_ok_iff {text : String} {t : Settings} :
    s.setAddress text = .ok t ↔
      ∃ hubIP, Net.parseIP? (Text.trim text) = some hubIP ∧ { s with hubIP } = t := by
  unfold setAddress
  cases Net.parseIP? (Text.trim text) with
  | none => simp
  | some hubIP => simp

theorem setPort_eq_ok_iff {port : UInt16} {t : Settings} :
    s.setPort port = .ok t ↔ port ≠ 0 ∧ { s with hubPort := port } = t := by
  unfold setPort
  split_ifs with h
  · simp [h]
  · simp [h]

/-- A file that cannot be written does not make the port wrong. -/
theorem save_ne_zeroPort (h : s.hubPort ≠ 0) (path : String) (shelf : Shelf) :
    (s.save path shelf).1 ≠ .error (.settings .zeroPort) := by
  have hs := validate_eq_ok_iff.2 h
  rcases hmade : makeFolders path shelf with ⟨e | ⟨⟩, made⟩
  · rw [save_of_makeFolders_error hs hmade]
    unfold makeFolders at hmade
    split at hmade
    · cases hmade
    · split at hmade
      · cases hmade
      · cases hmade
        exact nofun
  · cases hwrite : made.write path (Text.bytes s.render) with
    | none =>
      rw [save_of_write_none hs hmade hwrite]
      exact nofun
    | some _ =>
      rw [save_of_write hs hmade hwrite]
      exact nofun

end Settings

/-! ## Changes -/

/-- All that a change can do. -/
inductive Change.Does (d : Desk) : Change → Except Fault Unit → Desk → Prop
  | load {path : String} {settings : Settings} : Settings.load path d.shelf = .ok settings →
      Does d (.load path) (.ok ()) { d with settings }
  | save {path : String} {result : Except Fault Unit} {shelf : Shelf} :
      d.settings.save path d.shelf = (result, shelf) →
      Does d (.save path) result { d with shelf }
  | setAddress {text : String} {hubIP : IPAddr} : Net.parseIP? (Text.trim text) = some hubIP →
      Does d (.setAddress text) (.ok ()) { d with settings.hubIP := hubIP }
  | setPort {hubPort : UInt16} : hubPort ≠ 0 →
      Does d (.setPort hubPort) (.ok ()) { d with settings.hubPort := hubPort }
  /-- Nothing is done -/
  | refused {c : Change} {e : Fault} : (∀ path, c ≠ .save path) → Does d c (.error e) d

namespace Change

variable {c : Change} {d d' : Desk} {result : Except Fault Unit}

/-- What is taken to hand has been made. -/
theorem Does.take {made : Except Fault Settings} (hc : ∀ path, c ≠ .save path)
    (h : ∀ settings, made = .ok settings → c.Does d (.ok ()) { d with settings }) :
    c.Does d (d.take made).1 (d.take made).2 := by
  cases made with
  | error e => exact .refused hc
  | ok settings => exact h settings rfl

theorem does_on (c : Change) (d : Desk) : c.Does d (c.on d).1 (c.on d).2 := by
  cases c with
  | load path =>
    rw [on]
    exact .take nofun fun settings hload => .load hload
  | save path => exact .save rfl
  | setAddress text =>
    rw [on]
    refine .take nofun fun settings hset => ?_
    obtain ⟨hubIP, haddress, rfl⟩ := Settings.setAddress_eq_ok_iff.1 hset
    exact .setAddress haddress
  | setPort port =>
    rw [on]
    refine .take nofun fun settings hset => ?_
    obtain ⟨hport, rfl⟩ := Settings.setPort_eq_ok_iff.1 hset
    exact .setPort hport

/-- Whatever a change does, the settings at hand can be saved and loaded. -/
theorem Does.loadable (h : c.Does d result d') (hd : d.settings.Loadable) :
    d'.settings.Loadable := by
  cases h with
  | load hload => exact Settings.loadable_of_load hload
  | save _ => exact hd
  | setAddress _ => exact ⟨hd.hubPort, hd.protocol⟩
  | setPort hport => exact ⟨hport, hd.protocol⟩
  | refused _ => exact hd

/-- A change that fails leaves the settings at hand as they were. -/
theorem Does.settings_eq {e : Fault} (h : c.Does d (.error e) d') : d'.settings = d.settings := by
  cases h with
  | save _ => rfl
  | refused _ => rfl

end Change

/-! ## Changes one after the other -/

/-- A change, and what has become of the files by then. -/
structure Turn where
  meanwhile : Shelf → Shelf := id
  change : Change

/-- Takes a turn. -/
def Turn.on (t : Turn) (d : Desk) : Except Fault Unit × Desk :=
  t.change.on { d with shelf := t.meanwhile d.shelf }

namespace Desk

/-- The desk after turns. -/
def after (d : Desk) (turns : List Turn) : Desk :=
  turns.foldl (fun d t => (t.on d).2) d

theorem loadable_on {d : Desk} (h : d.settings.Loadable) (t : Turn) :
    (t.on d).2.settings.Loadable :=
  (t.change.does_on _).loadable h

theorem loadable_after {d : Desk} (h : d.settings.Loadable) (turns : List Turn) :
    (d.after turns).settings.Loadable := by
  induction turns generalizing d with
  | nil => exact h
  | cons t turns ih => exact ih (loadable_on h t)

/-- **The settings at hand can always be saved and loaded.**  To begin with they are the
    defaults.  After any turns, whatever is in the files, the next turn leaves a port
    that can be connected to and a version that can be read.  If it fails, then the
    settings are the same as before; setting the address or the port changes nothing
    else, and saving does not blame the port. -/
theorem loadable_of_turns (shelf : Shelf) (turns : List Turn) (t : Turn) :
    let before := ({ shelf } : Desk).after turns
    let result := (t.on before).1
    let now := (t.on before).2
    now.settings.hubPort ≠ 0 ∧ now.settings.protocol ≠ ⟨0, 0⟩ ∧
    (∀ e, result = .error e → now.settings = before.settings) ∧
    (∀ text, t.change = .setAddress text → ∃ hubIP,
      now = { settings := { before.settings with hubIP }, shelf := t.meanwhile before.shelf }) ∧
    (∀ port, t.change = .setPort port → ∃ hubPort,
      now = { settings := { before.settings with hubPort }, shelf := t.meanwhile before.shelf }) ∧
    (∀ path, t.change = .save path →
      now.settings = before.settings ∧ result ≠ .error (.settings .zeroPort)) := by
  intro before result now
  have hbefore : before.settings.Loadable := loadable_after Settings.loadable_default turns
  have hnow : now.settings.Loadable := loadable_on hbefore t
  have hdoes : t.change.Does { before with shelf := t.meanwhile before.shelf } result now :=
    t.change.does_on _
  clear_value result now
  refine ⟨hnow.hubPort, hnow.protocol, ?_, ?_, ?_, ?_⟩
  · rintro e rfl
    exact hdoes.settings_eq
  · intro text htext
    rw [htext] at hdoes
    cases hdoes with
    | setAddress _ => exact ⟨_, rfl⟩
    | refused _ => exact ⟨before.settings.hubIP, rfl⟩
  · intro port hport
    rw [hport] at hdoes
    cases hdoes with
    | setPort _ => exact ⟨_, rfl⟩
    | refused _ => exact ⟨before.settings.hubPort, rfl⟩
  · intro path hpath
    rw [hpath] at hdoes
    cases hdoes with
    | save hsave =>
      refine ⟨rfl, fun hresult => ?_⟩
      have hport := Settings.save_ne_zeroPort hbefore.hubPort path (t.meanwhile before.shelf)
      exact hport ((congrArg Prod.fst hsave).trans hresult)
    | refused h => exact absurd rfl (h path)

/-- A file with the port 0 is refused, and the settings at hand stay. -/
theorem loadable_of_turns_refused :
    let file := Text.bytes "\x7b\"hub_port\": 0\x7d"
    let before := ({ shelf.top := .folder [("hub.json", .file file)] } : Desk).after
      [{ change := .setAddress "10.0.0.7" }]
    let t : Turn := { change := .load "hub.json" }
    (t.on before).1 = .error (.settings .zeroPort) ∧
      before.settings = { Settings.default with hubIP := .v4 (.ofParts 10 0 0 7) } ∧
      (t.on before).2.settings = before.settings := by
  intro file before t
  have hrefused : (t.on before).1 = .error (.settings .zeroPort) := by decide +kernel
  obtain ⟨-, -, hsame, -⟩ := loadable_of_turns _ [{ change := .setAddress "10.0.0.7" }] t
  exact ⟨hrefused, by decide +kernel, hsame _ hrefused⟩

end Desk

end LightHub
