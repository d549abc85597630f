/-
  Saving to a path again and again.

  * `write_write`: what is written last stays.
  * `makeFolders_again`: the folders of a file are made once.
  * `grows_of_save_error`: a save that fails has made folders at most;
    `eq_of_save_error`: and nothing at all if there is a file at the path.
  * `save_save`: **a save makes up for the one before it**.
  * `save_of_save_error`: if one save to a path fails, then all do.
-/
import LightHub.Proofs.Settings.File
import LightHub.Proofs.Shelf.Folders

namespace LightHub

/-! ## Writing -/

namespace Node

theorem assign_assign (name : String) (a b : Node) (entries : List (String × Node)) :
    assign name b (assign name a entries) = assign name b entries := by
  induction entries with
  | nil => simp [assign]
  | cons e entries ih =>
    obtain ⟨m, other⟩ := e
    by_cases hm : m = name
    · simp [assign, hm]
    · simp [assign, hm, ih]

/-- What is put last stays. -/
theorem put_put (n : Node) (place : List String) (a b : Node) :
    (n.put place a).put place b = n.put place b := by
  induction place generalizing n with
  | nil => rfl
  | cons name names ih =>
    rw [put, put, put, entries]
    rw [lookup_assign_self, Option.getD_some, ih, assign_assign]

end Node

namespace Shelf

variable {s t : Shelf} {path : String} {a b : List UInt8}

/-- Whether bytes can be written does not depend on them. -/
theorem exists_write (h : s.write path a = some t) (b : List UInt8) :
    ∃ u, s.write path b = some u := by
  obtain ⟨place, hlocate, hopen, hplace, -⟩ := write_eq_some_iff.1 h
  exact ⟨_, write_eq_some_iff.2 ⟨place, hlocate, hopen, hplace, rfl⟩⟩

/-- What is written last stays. -/
theorem write_write (h : s.write path a = some t) (b : List UInt8) :
    t.write path b = s.write path b := by
  obtain ⟨u, hu⟩ := exists_write h b
  obtain ⟨place, hlocate, hopen, hplace, rfl⟩ := write_eq_some_iff.1 h
  obtain ⟨place', hlocate', -, -, rfl⟩ := write_eq_some_iff.1 hu
  obtain rfl := Option.some.inj (Except.ok.inj (hlocate.symm.trans hlocate'))
  have hkept := locate_of_keeps (t := { s with top := s.top.put place (.file a) })
    (Node.keeps_put hplace (.file a)) hlocate
  have hfile := Node.find?_put s.top place (.file a)
  rw [hu]
  refine write_eq_some_iff.2 ⟨place, hkept, hopen, ?_, ?_⟩
  · intro entries hfolder
    cases hfile.symm.trans hfolder
  · rw [Node.put_put]

theorem exists_locate_of_read (h : s.read path = .ok a) : ∃ place, s.locate path = .ok place := by
  unfold read at h
  split_ifs at h
  · cases h
  · obtain ⟨place, hlocate, -⟩ := bind_eq_ok_iff.1 h
    exact ⟨place, hlocate⟩

end Shelf

namespace Settings

variable {s t : Settings} {path : String} {shelf made shelf' : Shelf} {e : Fault}

/-! ## Loading -/

/-- Where nothing can be written does not matter to what is loaded. -/
theorem load_congr (h : shelf'.top = shelf.top) : load path shelf' = load path shelf := by
  obtain ⟨top, closed⟩ := shelf
  subst h
  rfl

/-- Settings that are loaded are in a file, or the file is missing. -/
theorem read_of_load (h : load path shelf = .ok s) (hthere : shelf.read path ≠ .error .missing) :
    ∃ content, shelf.read path = .ok content := by
  unfold load at h
  cases hread : shelf.read path with
  | ok content => exact ⟨content, rfl⟩
  | error absence =>
    cases absence with
    | missing => exact absurd hread hthere
    | blocked =>
      rw [hread] at h
      cases h

/-- Settings that are loaded can be connected with. -/
theorem validate_of_load (h : load path shelf = .ok s) : s.validate = .ok () := by
  unfold load ofContent at h
  split at h
  next =>
    obtain rfl := Except.ok.inj h
    rfl
  next => cases h
  next =>
    split at h
    next => cases h
    next =>
      split at h
      next => cases h
      next => cases h
      next s' _ =>
        obtain ⟨⟨⟩, hvalid, h⟩ := bind_eq_ok_iff.1 h
        obtain rfl := Except.ok.inj h
        exact hvalid

/-! ## Saving -/

theorem makeFolders_of_locate {place : Option (List String)} (h : shelf.locate path = .ok place) :
    makeFolders path shelf = (.ok (), shelf) := by
  unfold makeFolders
  split
  next => rfl
  next folder outer hfolders =>
    have hleads : Path.Leads folder path := by
      refine Path.leads_of_mem_folders ?_
      rw [hfolders]
      exact List.mem_cons_self
    rw [Shelf.makeFolders, Shelf.makeFolder_of_leads hleads h]

theorem grows_of_makeFolders {r : Except Fault Unit} (h : makeFolders path shelf = (r, made)) :
    shelf.Grows made := by
  unfold makeFolders at h
  split at h
  next =>
    obtain ⟨-, rfl⟩ := Prod.mk.inj h
    exact .same
  next folder outer _ =>
    split at h
    next hmade =>
      obtain ⟨-, rfl⟩ := Prod.mk.inj h
      exact Shelf.grows_of_makeFolders hmade
    next hmade =>
      obtain ⟨-, rfl⟩ := Prod.mk.inj h
      exact Shelf.grows_of_makeFolders hmade

/-- The folders are made once. -/
theorem makeFolders_again {r : Except Fault Unit} (h : makeFolders path shelf = (r, made)) :
    makeFolders path made = (r, made) := by
  unfold makeFolders at h ⊢
  have hpairwise := Path.pairwise_folders path
  split at h
  next =>
    obtain ⟨rfl, rfl⟩ := Prod.mk.inj h
    rfl
  next folder outer hfolders =>
    rw [hfolders] at hpairwise
    split at h
    next hmade =>
      obtain ⟨rfl, rfl⟩ := Prod.mk.inj h
      rw [Shelf.makeFolders_again hpairwise hmade]
    next hmade =>
      obtain ⟨rfl, rfl⟩ := Prod.mk.inj h
      rw [Shelf.makeFolders_again hpairwise hmade]

section

variable {r : Except Fault Unit}

theorem save_of_makeFolders_error (hs : s.validate = .ok ())
    (h : makeFolders path shelf = (.error e, made)) : s.save path shelf = (.error e, made) := by
  simp only [save, hs, h]

theorem save_of_write_none (hs : s.validate = .ok ())
    (h : makeFolders path shelf = (.ok (), made))
    (hwrite : made.write path (Text.bytes s.render) = none) :
    s.save path shelf = (.error (.settings (.unwritable path)), made) := by
  simp only [save, hs, h, hwrite]

theorem save_of_write (hs : s.validate = .ok ()) (h : makeFolders path shelf = (.ok (), made))
    (hwrite : made.write path (Text.bytes s.render) = some shelf') :
    s.save path shelf = (.ok (), shelf') := by
  simp only [save, hs, h, hwrite]

end

/-- Of a save that fails, at most folders are left. -/
theorem grows_of_save_error (h : s.save path shelf = (.error e, shelf')) : shelf.Grows shelf' := by
  cases hs : s.validate with
  | error f =>
    simp only [save, hs] at h
    obtain ⟨-, rfl⟩ := Prod.mk.inj h
    exact .same
  | ok _ =>
    rcases hmade : makeFolders path shelf with ⟨f | ⟨⟩, made⟩
    · rw [save_of_makeFolders_error hs hmade] at h
      obtain ⟨-, rfl⟩ := Prod.mk.inj h
      exact grows_of_makeFolders hmade
    · cases hwrite : made.write path (Text.bytes s.render) with
      | none =>
        rw [save_of_write_none hs hmade hwrite] at h
        obtain ⟨-, rfl⟩ := Prod.mk.inj h
        exact grows_of_makeFolders hmade
      | some _ =>
        rw [save_of_write hs hmade hwrite] at h
        cases h

/-- If there is a file at the path, then nothing is left of a save that fails. -/
theorem eq_of_save_error {content : List UInt8} (hread : shelf.read path = .ok content)
    (h : s.save path shelf = (.error e, shelf')) : shelf' = shelf := by
  obtain ⟨place, hlocate⟩ := Shelf.exists_locate_of_read hread
  have hmade := makeFolders_of_locate hlocate
  cases hs : s.validate with
  | error f =>
    simp only [save, hs] at h
    exact (Prod.mk.inj h).2.symm
  | ok _ =>
    cases hwrite : shelf.write path (Text.bytes s.render) with
    | none =>
      rw [save_of_write_none hs hmade hwrite] at h
      exact (Prod.mk.inj h).2.symm
    | some _ =>
      rw [save_of_write hs hmade hwrite] at h
      cases h

/-- How a save has succeeded. -/
theorem makeFolders_of_save (h : s.save path shelf = (.ok (), shelf')) :
    ∃ made, makeFolders path shelf = (.ok (), made) ∧
      made.write path (Text.bytes s.render) = some shelf' := by
  obtain ⟨hs, -⟩ := write_of_save h
  rcases hmade : makeFolders path shelf with ⟨e | ⟨⟩, made⟩
  · rw [save_of_makeFolders_error hs hmade] at h
    cases h
  · cases hwrite : made.write path (Text.bytes s.render) with
    | none =>
      rw [save_of_write_none hs hmade hwrite] at h
      cases h
    | some _ =>
      rw [save_of_write hs hmade hwrite] at h
      obtain ⟨-, rfl⟩ := Prod.mk.inj h
      exact ⟨made, rfl, hwrite⟩

theorem sealed_of_save {r : Except Fault Unit} (h : s.save path shelf = (r, shelf')) :
    shelf'.sealed = shelf.sealed := by
  cases r with
  | error e => exact (grows_of_save_error h).sealed
  | ok _ =>
    obtain ⟨made, hmade, hwrite⟩ := makeFolders_of_save h
    obtain ⟨place, -, -, -, rfl⟩ := Shelf.write_eq_some_iff.1 hwrite
    exact (grows_of_makeFolders hmade).sealed

/-- **A save makes up for the one before it.** -/
theorem save_save (h : s.save path shelf = (.ok (), shelf')) (ht : t.validate = .ok ()) :
    ∃ last, t.save path shelf = (.ok (), last) ∧ t.save path shelf' = (.ok (), last) := by
  obtain ⟨made, hmade, hwrite⟩ := makeFolders_of_save h
  obtain ⟨last, hlast⟩ := Shelf.exists_write hwrite (Text.bytes t.render)
  refine ⟨last, save_of_write ht hmade hlast, ?_⟩
  obtain ⟨place, hlocate⟩ := Shelf.exists_locate_of_read (Shelf.read_write hwrite)
  refine save_of_write ht (makeFolders_of_locate hlocate) ?_
  rw [Shelf.write_write hwrite, hlast]

/-- If one save fails, then all fail, and leave what it has left. -/
theorem save_of_save_error (hs : s.validate = .ok ()) (ht : t.validate = .ok ())
    (h : s.save path shelf = (.error e, shelf')) :
    t.save path shelf = (.error e, shelf') ∧ t.save path shelf' = (.error e, shelf') := by
  rcases hmade : makeFolders path shelf with ⟨f | ⟨⟩, made⟩
  · rw [save_of_makeFolders_error hs hmade] at h
    cases h
    exact ⟨save_of_makeFolders_error ht hmade,
      save_of_makeFolders_error ht (makeFolders_again hmade)⟩
  · cases hwrite : made.write path (Text.bytes s.render) with
    | some _ =>
      rw [save_of_write hs hmade hwrite] at h
      cases h
    | none =>
      rw [save_of_write_none hs hmade hwrite] at h
      cases h
      have hnone : shelf'.write path (Text.bytes t.render) = none := by
        rw [Option.eq_none_iff_forall_ne_some]
        intro u hu
        obtain ⟨v, hv⟩ := Shelf.exists_write hu (Text.bytes s.render)
        rw [hwrite] at hv
        cases hv
      exact ⟨save_of_write_none ht hmade hnone,
        save_of_write_none ht (makeFolders_again hmade) hnone⟩

end Settings

end LightHub
