/-
  Editing the settings from the command line.

  * `Settings.edited`: the settings after edits, of which the last one of a kind
    counts.
  * `Edit.on`: what an edit makes of the files; `Edit.on_comm`: edits of different
    settings commute.
  * `Machine.Edits`: who edits the settings at a path; `run_of_edits`: **a run that
    edits connects to nobody**, and does to the files what the edit does.
  * `Machine.visit`, `Machine.after`: runs on a machine, one after the other.
  * `edits_of_visits`: **the edits that succeed are what is loaded in the end**.
-/
import LightHub.Proofs.CommandLine.Run
import LightHub.Proofs.Settings.Save

namespace LightHub

open Std.Net

/-! ## Edits -/

namespace Edit

/-- The address that an edit sets, if its text is one. -/
def address? : Edit → Option IPAddr
  | ip text => Net.parseIP? (Text.trim text)
  | port _ => none

/-- The port that an edit sets. -/
def port? : Edit → Option UInt16
  | ip _ => none
  | port n => some n

/-- The edit can be made: its text is an address, or its port can be connected to. -/
def Fits : Edit → Prop
  | ip text => (Net.parseIP? (Text.trim text)).isSome
  | port n => n ≠ 0

instance : DecidablePred Fits
  | ip text => inferInstanceAs (Decidable ((Net.parseIP? (Text.trim text)).isSome = true))
  | port n => inferInstanceAs (Decidable (n ≠ 0))

end Edit

namespace Settings

/-- The settings after edits: the last address and the last port count, and all the
    rest stays. -/
def edited (es : List Edit) (s : Settings) : Settings :=
  { s with
    hubIP := (es.filterMap Edit.address?).getLast?.getD s.hubIP
    hubPort := (es.filterMap Edit.port?).getLast?.getD s.hubPort }

theorem edited_cons (e : Edit) (es : List Edit) (s : Settings) :
    s.edited (e :: es) = (s.edited [e]).edited es := by
  have hlast {α : Type} (f : Edit → Option α) (a : α) :
      ((e :: es).filterMap f).getLast?.getD a =
        (es.filterMap f).getLast?.getD (([e].filterMap f).getLast?.getD a) := by
    cases h : f e with
    | none => simp [h]
    | some b => simp [h, List.getLast?_cons]
  simp only [edited, hlast]

/-- An edit that can be made leaves settings that can be connected with. -/
theorem validate_edited {s : Settings} {e : Edit} (hs : s.validate = .ok ()) (h : e.Fits) :
    (s.edited [e]).validate = .ok () := by
  cases e with
  | ip text =>
    have hport : (s.edited [.ip text]).hubPort = s.hubPort := by simp [edited, Edit.port?]
    rw [validate, hport]
    exact hs
  | port n => exact if_neg h

/-- Edits that set different things commute. -/
theorem edited_comm (text : String) (n : UInt16) (s : Settings) :
    (s.edited [.ip text]).edited [.port n] = (s.edited [.port n]).edited [.ip text] := by
  simp [edited, Edit.address?, Edit.port?]

end Settings

namespace Edit

variable {e f : Edit} {path : String} {shelf shelf' : Shelf} {s : Settings}

/-- An edit that can be made is made to any settings. -/
theorem apply_of_fits (h : e.Fits) (s : Settings) :
    ∃ line, e.apply s = .ok (.save (s.edited [e]) line) := by
  cases e with
  | ip text =>
    obtain ⟨address, haddress⟩ := Option.isSome_iff_exists.1 h
    have hedited : s.edited [.ip text] = { s with hubIP := address } := by
      simp [Settings.edited, address?, port?, haddress]
    have hset : s.setAddress text = .ok { s with hubIP := address } := by
      delta Settings.setAddress
      rw [haddress]
    refine ⟨"Hub IP set to " ++ Net.ipText address ++ ".", ?_⟩
    simp only [apply, hset, hedited]
    rfl
  | port n =>
    rw [apply, Settings.setPort, if_neg h]
    exact ⟨_, rfl⟩

theorem apply_of_not_fits (h : ¬ e.Fits) (s : Settings) : ∃ fault, e.apply s = .error fault := by
  cases e with
  | ip text =>
    have hnone : Net.parseIP? (Text.trim text) = none := Option.not_isSome_iff_eq_none.1 h
    have hset : s.setAddress text = .error (.usage (.invalidAddress text)) := by
      delta Settings.setAddress
      rw [hnone]
    rw [apply, hset]
    exact ⟨_, rfl⟩
  | port n =>
    rw [apply, Settings.setPort, if_pos (Decidable.not_not.1 h)]
    exact ⟨_, rfl⟩

/-- Whether an edit of the settings at a path can be made and saved, and the files
    after it. -/
def on (e : Edit) (path : String) (shelf : Shelf) : Bool × Shelf :=
  match Settings.load path shelf with
  | .error _ => (false, shelf)
  | .ok s =>
    if e.Fits then
      let (result, shelf) := (s.edited [e]).save path shelf
      (result.isOk, shelf)
    else (false, shelf)

theorem on_of_not_fits (h : ¬ e.Fits) (path : String) (shelf : Shelf) :
    e.on path shelf = (false, shelf) := by
  unfold on
  split
  · rfl
  · rw [if_neg h]

theorem on_of_load_error {fault : Fault} (h : Settings.load path shelf = .error fault) :
    e.on path shelf = (false, shelf) := by
  simp only [on, h]

theorem on_of_save {r : Except Fault Unit} (hload : Settings.load path shelf = .ok s)
    (h : e.Fits) (hsave : (s.edited [e]).save path shelf = (r, shelf')) :
    e.on path shelf = (r.isOk, shelf') := by
  simp only [on, hload, if_pos h, hsave]

/-- How an edit has been saved. -/
theorem save_of_on (hload : Settings.load path shelf = .ok s)
    (h : e.on path shelf = (true, shelf')) :
    e.Fits ∧ (s.edited [e]).save path shelf = (.ok (), shelf') := by
  by_cases hfits : e.Fits
  · refine ⟨hfits, ?_⟩
    rcases hsave : (s.edited [e]).save path shelf with ⟨fault | ⟨⟩, saved⟩
    · rw [on_of_save hload hfits hsave] at h
      cases h
    · rw [on_of_save hload hfits hsave] at h
      rw [(Prod.mk.inj h).2]
  · rw [on_of_not_fits hfits] at h
    cases h

/-- **An edit that is saved is loaded again.** -/
theorem load_of_on (hload : Settings.load path shelf = .ok s)
    (h : e.on path shelf = (true, shelf')) :
    Settings.load path shelf' = .ok (s.edited [e]) := by
  have hsame : (s.edited [e]).protocol = s.protocol := rfl
  refine (Settings.load_of_save (save_of_on hload h).2).2 ?_
  rw [hsame]
  exact Settings.protocol_of_load hload

/-- An edit that is not saved leaves folders at most, and only if there is no file. -/
theorem grows_of_on (h : e.on path shelf = (false, shelf')) :
    shelf.Grows shelf' ∧ (shelf.read path ≠ .error .missing → shelf' = shelf) := by
  have hsame : shelf' = shelf →
      shelf.Grows shelf' ∧ (shelf.read path ≠ .error .missing → shelf' = shelf) := by
    rintro rfl
    exact ⟨.same, fun _ => rfl⟩
  cases hload : Settings.load path shelf with
  | error fault =>
    rw [on_of_load_error hload] at h
    exact hsame (Prod.mk.inj h).2.symm
  | ok s =>
    by_cases hfits : e.Fits
    · rcases hsave : (s.edited [e]).save path shelf with ⟨fault | ⟨⟩, saved⟩
      · rw [on_of_save hload hfits hsave] at h
        obtain rfl := (Prod.mk.inj h).2
        refine ⟨Settings.grows_of_save_error hsave, fun hthere => ?_⟩
        obtain ⟨content, hread⟩ := Settings.read_of_load hload hthere
        exact Settings.eq_of_save_error hread hsave
      · rw [on_of_save hload hfits hsave] at h
        cases h
    · rw [on_of_not_fits hfits] at h
      exact hsame (Prod.mk.inj h).2.symm

theorem sealed_on (e : Edit) (path : String) (shelf : Shelf) :
    (e.on path shelf).2.sealed = shelf.sealed := by
  unfold on
  split
  · rfl
  · split_ifs
    · exact Settings.sealed_of_save rfl
    · rfl

/-- Where one save has failed, no edit changes anything. -/
theorem on_of_save_error {fault : Fault} (hs : s.validate = .ok ())
    (h : s.save path shelf = (.error fault, shelf')) (e : Edit) :
    (e.on path shelf').2 = shelf' := by
  by_cases hfits : e.Fits
  · cases hload : Settings.load path shelf' with
    | error _ => rw [on_of_load_error hload]
    | ok t =>
      have ht := Settings.validate_edited (Settings.validate_of_load hload) hfits
      rw [on_of_save hload hfits (Settings.save_of_save_error hs ht h).2]
  · rw [on_of_not_fits hfits]

/-- **Edits of different settings commute**, also if they fail. -/
theorem on_comm (hcomm : ∀ s : Settings, (s.edited [e]).edited [f] = (s.edited [f]).edited [e])
    (path : String) (shelf : Shelf) :
    (f.on path (e.on path shelf).2).2 = (e.on path (f.on path shelf).2).2 := by
  by_cases he : ¬ e.Fits
  · simp only [on_of_not_fits he]
  by_cases hf : ¬ f.Fits
  · simp only [on_of_not_fits hf]
  rw [Decidable.not_not] at he hf
  cases hload : Settings.load path shelf with
  | error fault => simp only [on_of_load_error hload]
  | ok s =>
    have hs := Settings.validate_of_load hload
    have hes := Settings.validate_edited hs he
    have hfs := Settings.validate_edited hs hf
    rcases hsave : (s.edited [e]).save path shelf with ⟨fault | ⟨⟩, shelf'⟩
    · -- neither edit is saved, then or later
      have hsave' := (Settings.save_of_save_error hes hfs hsave).1
      rw [on_of_save hload he hsave, on_of_save hload hf hsave']
      rw [on_of_save_error hes hsave, on_of_save_error hes hsave]
    · -- whichever edit comes first, what is saved last is the same
      have hboth := Settings.validate_edited hes hf
      obtain ⟨other, hother, -⟩ := Settings.save_save hsave hfs
      obtain ⟨last, hlast, hthen⟩ := Settings.save_save hsave hboth
      obtain ⟨last', hlast', hthen'⟩ := Settings.save_save hother hboth
      obtain rfl : last = last' := (Prod.mk.inj (hlast.symm.trans hlast')).2
      have hon := on_of_save hload he hsave
      have hon' := on_of_save hload hf hother
      rw [hon, hon', on_of_save (load_of_on hload hon) hf hthen]
      rw [hcomm] at hthen'
      rw [on_of_save (load_of_on hload hon') he hthen']

end Edit

/-! ## Runs -/

/-- The command line edits the settings at a path. -/
def Machine.Edits (m : Machine) (path : String) (args : List String) (e : Edit) : Prop :=
  ∃ inv, Invocation.parse args = .ok inv ∧ inv.action = .edit e ∧
    inv.path m.configured m.home = path

theorem Invocation.step_of_edit {inv : Invocation} {e : Edit} (h : inv.action = .edit e) :
    inv.step = e.apply := by
  funext s
  simp only [step, h]

section

variable {m m' : Machine} {path : String} {args args' : List String} {e : Edit}

/-- **A run that edits connects to nobody**, and does to the files what the edit does. -/
theorem run_of_edits (h : m.Edits path args e) :
    (run args m).received = none ∧
      (run args m).exitCode = (if (e.on path m.shelf).1 then 0 else 1) ∧
        (run args m).shelf = (e.on path m.shelf).2 := by
  obtain ⟨inv, hparse, haction, rfl⟩ := h
  cases hload : Settings.load (inv.path m.configured m.home) m.shelf with
  | error fault =>
    have hstep : Settings.load (inv.path m.configured m.home) m.shelf >>= inv.step =
        .error fault := by
      rw [hload]
      rfl
    rw [run_of_error hparse hstep, Edit.on_of_load_error hload]
    exact ⟨rfl, rfl, rfl⟩
  | ok s =>
    have hstep : Settings.load (inv.path m.configured m.home) m.shelf >>= inv.step = e.apply s := by
      rw [hload, Invocation.step_of_edit haction]
      rfl
    by_cases hfits : e.Fits
    · obtain ⟨line, happly⟩ := Edit.apply_of_fits hfits s
      rw [happly] at hstep
      rcases hsave : (s.edited [e]).save (inv.path m.configured m.home) m.shelf with
        ⟨fault | ⟨⟩, shelf⟩
      · rw [run_of_save_error hparse hstep hsave, Edit.on_of_save hload hfits hsave]
        exact ⟨rfl, rfl, rfl⟩
      · rw [run_of_save hparse hstep hsave, Edit.on_of_save hload hfits hsave]
        exact ⟨rfl, rfl, rfl⟩
    · obtain ⟨fault, happly⟩ := Edit.apply_of_not_fits hfits s
      rw [happly] at hstep
      rw [run_of_error hparse hstep, Edit.on_of_not_fits hfits]
      exact ⟨rfl, rfl, rfl⟩

/-- Neither the other options of the command line nor the hubs make a difference to a
    run that edits. -/
theorem run_congr_of_edits (h : m.Edits path args e) (h' : m'.Edits path args' e)
    (hshelf : m'.shelf = m.shelf) : run args' m' = run args m := by
  obtain ⟨inv, hparse, haction, rfl⟩ := h
  obtain ⟨inv', hparse', haction', hpath⟩ := h'
  have hsame : Settings.load (inv'.path m'.configured m'.home) m'.shelf >>= inv'.step =
      Settings.load (inv.path m.configured m.home) m.shelf >>= inv.step := by
    rw [hpath, hshelf, Invocation.step_of_edit haction, Invocation.step_of_edit haction']
  rcases hstep : Settings.load (inv.path m.configured m.home) m.shelf >>= inv.step with f | step
  · rw [run_of_error hparse hstep, run_of_error hparse' (hsame.trans hstep), hshelf]
  · cases step with
    | save s line =>
      rcases hsave : s.save (inv.path m.configured m.home) m.shelf with ⟨f | ⟨⟩, shelf⟩
      · have hsave' := hsave
        rw [← hpath, ← hshelf] at hsave'
        rw [run_of_save_error hparse hstep hsave,
          run_of_save_error hparse' (hsame.trans hstep) hsave']
      · have hsave' := hsave
        rw [← hpath, ← hshelf] at hsave'
        rw [run_of_save hparse hstep hsave, run_of_save hparse' (hsame.trans hstep) hsave']
    | connect s plan =>
      obtain ⟨s₀, -, hconnect⟩ := bind_eq_ok_iff.1 hstep
      obtain ⟨t, htask, -⟩ := Invocation.ofTask_of_step hconnect
      rw [haction] at htask
      cases htask

end

/-! ## Runs one after the other -/

/-- One run of the command line, and the places at which nothing can be made or written
    at that time. -/
structure Visit where
  args : List String
  sealed : List (List String) := []

namespace Machine

/-- What a visit comes to. -/
def visit (m : Machine) (v : Visit) : Report :=
  run v.args { m with shelf.sealed := v.sealed }

/-- The machine after a visit. -/
def next (m : Machine) (v : Visit) : Machine :=
  { m with shelf := (m.visit v).shelf }

/-- The machine after visits. -/
def after (m : Machine) (vs : List Visit) : Machine :=
  vs.foldl next m

theorem after_cons (m : Machine) (v : Visit) (vs : List Visit) :
    m.after (v :: vs) = (m.next v).after vs := rfl

/-- The visit fails, but not without having changed what is on the shelf. -/
def Litters (m : Machine) (v : Visit) : Prop :=
  (m.visit v).exitCode ≠ 0 ∧ (m.visit v).shelf.top ≠ m.shelf.top

/-- No visit litters. -/
def Tidy : Machine → List Visit → Prop
  | _, [] => True
  | m, v :: vs => ¬ m.Litters v ∧ (m.next v).Tidy vs

/-- The edits of the visits that succeed. -/
def succeeded : Machine → List (Visit × Edit) → List Edit
  | _, [] => []
  | m, (v, e) :: edits =>
    let later := (m.next v).succeeded edits
    if (m.visit v).exitCode = 0 then e :: later else later

variable {m : Machine} {path : String} {v w : Visit} {e : Edit} {s : Settings}

/-- A visit that edits does to the files what the edit does. -/
theorem visit_of_edits (h : m.Edits path v.args e) :
    let result := e.on path { m.shelf with sealed := v.sealed }
    (m.visit v).received = none ∧ (m.visit v).exitCode = (if result.1 then 0 else 1) ∧
      (m.visit v).shelf = result.2 :=
  run_of_edits h

/-- An edit that succeeds is loaded again. -/
theorem load_next_of_exitCode (h : m.Edits path v.args e)
    (hload : Settings.load path m.shelf = .ok s) (hexit : (m.visit v).exitCode = 0) :
    Settings.load path (m.next v).shelf = .ok (s.edited [e]) := by
  obtain ⟨-, hcode, hshelf⟩ := visit_of_edits h
  have hload' : Settings.load path { m.shelf with sealed := v.sealed } = .ok s := hload
  rcases hon : e.on path { m.shelf with sealed := v.sealed } with ⟨_ | _, shelf'⟩
  · rw [hon, hexit] at hcode
    cases hcode
  · rw [next, hshelf, hon]
    exact Edit.load_of_on hload' hon

/-- **The edits that succeed are what is loaded in the end.** -/
theorem load_after {edits : List (Visit × Edit)} (hedits : ∀ r ∈ edits, m.Edits path r.1.args r.2)
    (hload : Settings.load path m.shelf = .ok s) (htidy : m.Tidy (edits.map Prod.fst)) :
    Settings.load path (m.after (edits.map Prod.fst)).shelf =
      .ok (s.edited (m.succeeded edits)) := by
  induction edits generalizing m s with
  | nil => exact hload
  | cons r edits ih =>
    obtain ⟨v, e⟩ := r
    obtain ⟨hedit, hlater⟩ := List.forall_mem_cons.1 hedits
    rw [List.map_cons, Tidy] at htidy
    obtain ⟨hclean, htidy⟩ := htidy
    rw [List.map_cons, after_cons, succeeded]
    split_ifs with hexit
    · rw [Settings.edited_cons]
      exact ih hlater (load_next_of_exitCode hedit hload hexit) htidy
    · refine ih hlater ?_ htidy
      have htop : (m.next v).shelf.top = m.shelf.top :=
        Classical.byContradiction fun hchanged => hclean ⟨hexit, hchanged⟩
      rw [Settings.load_congr htop, hload]

/-- A visit that edits and fails leaves folders at most, and only if there is no file
    at the path. -/
theorem grows_of_exitCode (h : m.Edits path v.args e) (hexit : (m.visit v).exitCode ≠ 0) :
    Shelf.Grows { m.shelf with sealed := v.sealed } (m.visit v).shelf ∧
      (m.shelf.read path ≠ .error .missing → (m.visit v).shelf.top = m.shelf.top) := by
  obtain ⟨-, hcode, hshelf⟩ := visit_of_edits h
  rw [hshelf]
  rcases hon : e.on path { m.shelf with sealed := v.sealed } with ⟨_ | _, shelf'⟩
  · obtain ⟨hgrows, hsame⟩ := Edit.grows_of_on hon
    refine ⟨hgrows, fun hthere => ?_⟩
    obtain rfl := hsame hthere
    rfl
  · rw [hon] at hcode
    exact absurd hcode hexit

/-- Two visits that edit do to the files what one edit does after the other. -/
theorem shelf_after_of_edits {f : Edit} (hv : m.Edits path v.args e) (hw : m.Edits path w.args f)
    (hsealed : w.sealed = v.sealed) :
    (m.after [v, w]).shelf = (f.on path (e.on path { m.shelf with sealed := v.sealed }).2).2 := by
  obtain ⟨-, -, hfirst⟩ := visit_of_edits hv
  have hnext : (m.next v).Edits path w.args f := hw
  obtain ⟨-, -, hsecond⟩ := visit_of_edits hnext
  have hkept := Edit.sealed_on e path { m.shelf with sealed := v.sealed }
  have hshelf : { (m.next v).shelf with sealed := w.sealed } =
      (e.on path { m.shelf with sealed := v.sealed }).2 := by
    rw [next, hfirst, hsealed]
    generalize (e.on path { m.shelf with sealed := v.sealed }).2 = shelf at hkept
    obtain ⟨top, closed⟩ := shelf
    exact congrArg (Shelf.mk top) hkept.symm
  rw [hshelf] at hsecond
  exact hsecond

/-- The address and the port can be set in either order. -/
theorem after_comm {text : String} {n : UInt16} (hv : m.Edits path v.args (.ip text))
    (hw : m.Edits path w.args (.port n)) (hsealed : w.sealed = v.sealed) :
    m.after [v, w] = m.after [w, v] := by
  have hshelf : (m.after [v, w]).shelf = (m.after [w, v]).shelf := by
    rw [shelf_after_of_edits hv hw hsealed, shelf_after_of_edits hw hv hsealed.symm, hsealed]
    exact Edit.on_comm (Settings.edited_comm text n) path _
  have hafter (a b : Visit) : m.after [a, b] = { m with shelf := (m.after [a, b]).shelf } := rfl
  rw [hafter v w, hafter w v, hshelf]

end Machine

/-- **Editing the settings from the command line.**  A run that edits connects to
    nobody, and neither the hub of its options nor the hubs that there are make a
    difference to it.  If it fails, it changes nothing, or there was no file at the
    path and it has made folders at most.  Unless one does that, what is loaded after
    any runs is what was loaded before, with the last address and the last port of
    those that succeeded.  Setting the address and setting the port commute. -/
theorem edits_of_visits (m : Machine) (path : String) :
    (∀ v e, m.Edits path v.args e →
      (m.visit v).received = none ∧
      (∀ w dial, m.Edits path w.args e → w.sealed = v.sealed →
        ({ m with dial }.visit w) = m.visit v) ∧
      ((m.visit v).exitCode ≠ 0 →
        (m.shelf.read path ≠ .error .missing → (m.visit v).shelf.top = m.shelf.top) ∧
        ∀ place content, (m.visit v).shelf.top.find? place = some (.file content) →
          m.shelf.top.find? place = some (.file content))) ∧
    (∀ edits s, (∀ r ∈ edits, m.Edits path r.1.args r.2) → Settings.load path m.shelf = .ok s →
      m.Tidy (edits.map Prod.fst) →
      Settings.load path (m.after (edits.map Prod.fst)).shelf =
        .ok (s.edited (m.succeeded edits))) ∧
    (∀ v w text n, m.Edits path v.args (.ip text) → m.Edits path w.args (.port n) →
      w.sealed = v.sealed → m.after [v, w] = m.after [w, v]) := by
  refine ⟨fun v e h => ⟨?_, ?_, ?_⟩, ?_, ?_⟩
  · exact (Machine.visit_of_edits h).1
  · intro w dial hw hsealed
    refine run_congr_of_edits (m := { m with shelf.sealed := v.sealed }) h ?_ ?_
    · exact hw
    · simp only [hsealed]
  · intro hexit
    obtain ⟨hgrows, hsame⟩ := Machine.grows_of_exitCode h hexit
    exact ⟨hsame, fun place content => hgrows.file⟩
  · exact fun edits s hedits hload htidy => Machine.load_after hedits hload htidy
  · exact fun v w text n hv hw hsealed => Machine.after_comm hv hw hsealed

/-- A machine on which the settings are to be in a file in the folder `conf`, which is
    not there yet. -/
def Machine.fresh : Machine where
  configured := some "conf/hub.json"
  home := none
  shelf := .empty
  dial := fun _ => none

/-- The second of three runs fails, and the third one names another hub. -/
theorem edits_of_visits_fresh :
    let path := "conf/hub.json"
    let m := Machine.fresh
    let edits : List (Visit × Edit) :=
      [({ args := ["ip", "10.0.0.7"] }, .ip "10.0.0.7"), ({ args := ["port", "0"] }, .port 0),
        ({ args := ["--hub", "10.0.0.9:2000", "port", "1200"] }, .port 1200)]
    (∀ r ∈ edits, m.Edits path r.1.args r.2) ∧ Settings.load path m.shelf = .ok .default ∧
      m.Tidy (edits.map Prod.fst) ∧
        Settings.load path (m.after (edits.map Prod.fst)).shelf =
          .ok { Settings.default with hubIP := .v4 (.ofParts 10 0 0 7), hubPort := 1200 } := by
  intro path m edits
  have hedits : ∀ r ∈ edits, m.Edits path r.1.args r.2 := by
    simp only [edits, List.forall_mem_cons]
    exact ⟨⟨_, rfl, rfl, rfl⟩, ⟨_, rfl, rfl, rfl⟩, ⟨_, rfl, rfl, rfl⟩, nofun⟩
  have hload : Settings.load path m.shelf = .ok .default := by decide +kernel
  have htidy : m.Tidy (edits.map Prod.fst) := by
    let now := m.next { args := ["ip", "10.0.0.7"] }
    let port : Visit := { args := ["port", "0"] }
    have hport : now.Edits path port.args (.port 0) := ⟨_, rfl, rfl, rfl⟩
    have hthere : now.shelf.read path ≠ .error .missing := by decide +kernel
    obtain ⟨hvisit, -, -⟩ := edits_of_visits now path
    obtain ⟨-, -, hfails⟩ := hvisit port (.port 0) hport
    refine ⟨fun h => h.1 ?_, fun h => h.2 ((hfails h.1).1 hthere), fun h => h.1 ?_, trivial⟩
    · decide +kernel
    · decide +kernel
  obtain ⟨-, hafter, -⟩ := edits_of_visits m path
  have hlast : Settings.default.edited (m.succeeded edits) =
      { Settings.default with hubIP := .v4 (.ofParts 10 0 0 7), hubPort := 1200 } := by
    decide +kernel
  have hend := hafter edits .default hedits hload htidy
  exact ⟨hedits, hload, htidy, hend.trans (congrArg Except.ok hlast)⟩

/-- A machine on which the settings are to be in a file below another file. -/
def Machine.misled : Machine where
  configured := some "n/../f/hub.json"
  home := none
  shelf.top := .folder [("f", .file [])]
  dial := fun _ => none

/-- A file below another file is missing, until a run has made a folder on the way to
    it. -/
theorem load_of_litter :
    let path := "n/../f/hub.json"
    let m := Machine.misled
    let v : Visit := { args := ["ip", "10.0.0.7"] }
    m.Edits path v.args (.ip "10.0.0.7") ∧ Settings.load path m.shelf = .ok .default ∧
      (m.visit v).exitCode = 1 ∧ m.succeeded [(v, .ip "10.0.0.7")] = [] ∧
        Settings.load path (m.after [v]).shelf = .error (.settings (.unreadable path)) :=
  ⟨⟨_, rfl, rfl, rfl⟩, by decide +kernel, by decide +kernel, by decide +kernel, by decide +kernel⟩

end LightHub
