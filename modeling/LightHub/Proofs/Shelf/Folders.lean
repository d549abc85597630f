/-
  Making the folders that hold a file.

  * `Path.Leads`: a path goes on from another one; `pairwise_folders`: the folders
    of a path lead to each other and to it.
  * `makeFolder_of_leads`: what leads to a place that is found is there already.
  * `makeFolders_again`: **folders are made once**: a second attempt changes nothing
    and comes to the same.
  * `Grows`: what making folders does to a shelf; `Grows.file`: no file comes from it.
-/
import LightHub.Proofs.Shelf.Write

namespace LightHub

/-! ## Parts of paths -/

namespace Path

theorem split_ne_nil (l : List Char) : split l ≠ [] := by
  cases l with
  | nil => exact List.cons_ne_nil _ _
  | cons c l =>
    rw [split]
    split_ifs
    · exact List.cons_ne_nil _ _
    · cases split l <;> exact List.cons_ne_nil _ _

theorem attach_append (c : Char) {parts : List (List Char)} (h : parts ≠ [])
    (others : List (List Char)) :
    Text.attach c (parts ++ others) = Text.attach c parts ++ others := by
  cases parts with
  | nil => exact absurd rfl h
  | cons part parts => rfl

theorem split_append_slash (l m : List Char) : split (l ++ '/' :: m) = split l ++ split m := by
  induction l with
  | nil => rfl
  | cons c l ih =>
    rw [List.cons_append, split, split, ih]
    split_ifs
    · rfl
    · exact attach_append c (split_ne_nil l) _

/-- The folders of a path that goes on after a slash: first all parts in front of it. -/
theorem dropLast_split (l m : List Char) :
    (split (l ++ '/' :: m)).dropLast =
      (split l).dropLast ++ [(split l).getLast?.getD []] ++ (split m).dropLast := by
  have hl := List.dropLast_concat_getLast (split_ne_nil l)
  rw [List.getLast?_eq_some_getLast (split_ne_nil l), Option.getD_some, hl, split_append_slash,
    List.dropLast_append_of_ne_nil (split_ne_nil m)]

/-- A path is its first part, or goes on after it. -/
theorem eq_of_split {l part : List Char} {parts : List (List Char)}
    (h : split l = part :: parts) :
    (l = part ∧ parts = []) ∨ ∃ m, l = part ++ '/' :: m ∧ split m = parts := by
  induction l generalizing part with
  | nil =>
    obtain ⟨rfl, rfl⟩ := List.cons.inj h
    exact .inl ⟨rfl, rfl⟩
  | cons c l ih =>
    rw [split] at h
    split_ifs at h with hc
    · obtain ⟨rfl, rfl⟩ := List.cons.inj h
      exact .inr ⟨l, by rw [hc]; rfl, rfl⟩
    · cases hl : split l with
      | nil => exact absurd hl (split_ne_nil l)
      | cons word words =>
        rw [hl, Text.attach] at h
        obtain ⟨rfl, rfl⟩ := List.cons.inj h
        rcases ih hl with ⟨rfl, hnil⟩ | ⟨m, rfl, hm⟩
        · exact .inl ⟨rfl, hnil⟩
        · exact .inr ⟨m, rfl, hm⟩

/-! ## Folders on the way -/

/-- `outer` is a folder on the way that `path` spells. -/
def Leads (outer path : String) : Prop :=
  outer = root ∨ outer.toList ≠ [] ∧ outer.toList ++ ['/'] <+: path.toList

section

variable {before l : List Char} {parts : List (List Char)} {stop : String}

theorem before_prefix_of_mem_stopsFrom (h : stop ∈ stopsFrom before parts) :
    before <+: stop.toList ∧ stop.toList ≠ [] := by
  induction parts generalizing before with
  | nil => exact absurd h List.not_mem_nil
  | cons part parts ih =>
    have hlater : stop ∈ stopsFrom (before ++ part ++ ['/']) parts →
        before <+: stop.toList ∧ stop.toList ≠ [] := by
      intro hmem
      obtain ⟨hbegins, hne⟩ := ih hmem
      rw [List.append_assoc] at hbegins
      exact ⟨(List.prefix_append _ _).trans hbegins, hne⟩
    rw [stopsFrom] at h
    split_ifs at h with hidle
    · exact hlater h
    · rcases List.mem_cons.1 h with rfl | h
      · rw [String.toList_ofList]
        refine ⟨List.prefix_append _ _, fun hnil => hidle ?_⟩
        rw [(List.append_eq_nil_iff.1 hnil).2]
        rfl
      · exact hlater h

theorem pairwise_stopsFrom (before : List Char) (parts : List (List Char)) :
    (stopsFrom before parts).Pairwise Leads := by
  induction parts generalizing before with
  | nil => exact .nil
  | cons part parts ih =>
    rw [stopsFrom]
    split_ifs with hidle
    · exact ih _
    · refine .cons (fun stop hstop => .inr ?_) (ih _)
      rw [String.toList_ofList]
      refine ⟨fun hnil => hidle ?_, (before_prefix_of_mem_stopsFrom hstop).1⟩
      rw [(List.append_eq_nil_iff.1 hnil).2]
      rfl

/-- A path begins with each of its stops. -/
theorem prefix_of_mem_stopsFrom (hsplit : split l = parts) (h : stop ∈ stopsFrom before parts) :
    stop.toList <+: before ++ l := by
  induction parts generalizing before l with
  | nil => exact absurd hsplit (split_ne_nil l)
  | cons part parts ih =>
    have hstop : stop.toList = before ++ part ∨
        stop ∈ stopsFrom (before ++ part ++ ['/']) parts := by
      rw [stopsFrom] at h
      split_ifs at h
      · exact .inr h
      · rcases List.mem_cons.1 h with rfl | h
        · exact .inl String.toList_ofList
        · exact .inr h
    rcases eq_of_split hsplit with ⟨rfl, rfl⟩ | ⟨m, rfl, hm⟩
    · rcases hstop with hstop | hstop
      · exact hstop ▸ List.prefix_rfl
      · exact absurd hstop List.not_mem_nil
    · rcases hstop with hstop | hstop
      · rw [hstop, ← List.append_assoc]
        exact List.prefix_append _ _
      · have hbegins := ih hm hstop
        rwa [List.append_assoc, List.append_assoc] at hbegins

end

variable {path stop : String}

theorem prefix_of_mem_stops (h : stop ∈ stops path) : stop.toList <+: path.toList := by
  unfold stops at h
  split at h
  next => exact absurd h List.not_mem_nil
  next parts hmore hsplit =>
    rcases eq_of_split hsplit with ⟨-, rfl⟩ | ⟨m, hm, hparts⟩
    · exact absurd rfl hmore
    · rw [hm]
      rcases List.mem_cons.1 h with rfl | h
      · exact List.prefix_append ['/'] m
      · have hbegins := prefix_of_mem_stopsFrom hparts h
        exact hbegins
  next parts hsplit =>
    rcases eq_of_split hsplit with ⟨hdot, rfl⟩ | ⟨m, hm, hparts⟩
    · obtain rfl := List.mem_singleton.1 h
      rw [hdot]
      exact List.prefix_rfl
    · rw [hm]
      rcases List.mem_cons.1 h with rfl | h
      · exact List.prefix_append ['.'] ('/' :: m)
      · have hbegins := prefix_of_mem_stopsFrom hparts h
        exact hbegins
  next => exact prefix_of_mem_stopsFrom rfl h

theorem pairwise_stops (path : String) : (stops path).Pairwise Leads := by
  unfold stops
  split
  next => exact .nil
  next parts _ _ => exact .cons (fun _ _ => .inl rfl) (pairwise_stopsFrom _ _)
  next parts _ =>
    refine .cons (fun stop hstop => .inr ⟨nofun, ?_⟩) (pairwise_stopsFrom _ _)
    exact (before_prefix_of_mem_stopsFrom hstop).1
  next => exact pairwise_stopsFrom _ _

theorem Leads.mono {outer inner : String} (h : Leads outer inner)
    (hbegins : inner.toList <+: path.toList) : Leads outer path :=
  h.imp_right fun ⟨hne, hinner⟩ => ⟨hne, hinner.trans hbegins⟩

/-- The folders of a path lead to each other, the innermost one first. -/
theorem pairwise_folders (path : String) :
    (folders path).Pairwise fun inner outer => Leads outer inner := by
  rw [folders, List.pairwise_reverse]
  exact (pairwise_stops path).sublist (List.dropLast_sublist _)

/-- The folders of a path lead to it. -/
theorem leads_of_mem_folders {folder : String} (h : folder ∈ folders path) : Leads folder path := by
  rw [folders, List.mem_reverse] at h
  have hne : stops path ≠ [] := by
    intro hnil
    rw [hnil] at h
    exact absurd h List.not_mem_nil
  have hpairwise := pairwise_stops path
  rw [← List.dropLast_concat_getLast hne, List.pairwise_append] at hpairwise
  have hlast : Leads folder ((stops path).getLast hne) :=
    hpairwise.2.2 folder h _ (List.mem_singleton_self _)
  exact hlast.mono (prefix_of_mem_stops (List.getLast_mem hne))

end Path

/-! ## Empty folders -/

namespace Node

theorem find?_empty (names : List String) (content : List UInt8) :
    (folder []).find? names ≠ some (file content) := by
  cases names <;> nofun

/-- No file comes from putting an empty folder somewhere. -/
theorem file_of_put {n : Node} {place names : List String} {content : List UInt8}
    (h : (n.put place (folder [])).find? names = some (file content)) :
    n.find? names = some (file content) := by
  induction place generalizing n names with
  | nil => exact absurd h (find?_empty names content)
  | cons name place ih =>
    cases names with
    | nil => cases h
    | cons m ms =>
      rw [find?_cons, entries_put] at h
      by_cases hm : m = name
      · subst hm
        rw [lookup_assign_self] at h
        have hinner := ih h
        rw [find?_cons]
        cases hlookup : n.entries.lookup m with
        | none =>
          rw [hlookup] at hinner
          exact absurd hinner (find?_empty ms content)
        | some inner =>
          rw [hlookup] at hinner
          exact hinner
      · rwa [lookup_assign_of_ne hm] at h

end Node

/-! ## Folders that are there -/

namespace Shelf

variable {s t : Shelf} {path folder outer : String} {place : Option (List String)}

theorem isUsable_mono (h : folder.toList <+: path.toList) (hpath : isUsable path) :
    isUsable folder := by
  obtain ⟨rest, hrest⟩ := h
  have heq : path = folder ++ String.ofList rest := by
    rw [← String.toList_inj, String.toList_append, String.toList_ofList, hrest]
  subst heq
  simp only [isUsable, Bool.and_eq_true, Bool.not_eq_true', decide_eq_true_eq, String.toList_append,
    String.utf8ByteSize_append, List.contains_eq_mem, decide_eq_false_iff_not, List.mem_append,
    not_or] at hpath ⊢
  exact ⟨hpath.1.1, Nat.le_trans (Nat.le_add_right _ _) hpath.2⟩

theorem isUsable_of_locate (h : s.locate path = .ok place) : isUsable path := by
  cases husable : isUsable path with
  | true => rfl
  | false =>
    rw [locate, husable] at h
    cases h

/-- Where a path ends whose folder is found. -/
theorem locate_of_walk {folder : List String} {last : List Char} (husable : isUsable path)
    (hwalk : (Path.split path.toList).dropLast.foldlM s.enter (Path.start path) = .ok folder)
    (hlast : (Path.split path.toList).getLast?.getD [] = last) :
    s.locate path = if Path.isIdle last || Path.isBack last then .ok none
      else (placeOf folder last).map some := by
  rw [locate, husable]
  simp only [Bool.not_true, Bool.false_eq_true, if_false, hwalk, hlast, bind, Except.bind]
  split_ifs
  · rfl
  · rfl

theorem makeFolder_of_none (h : s.locate path = .ok none) : s.makeFolder path = .ok s := by
  rw [makeFolder, h]
  rfl

theorem makeFolder_of_folder {place : List String} {entries : List (String × Node)}
    (h : s.locate path = .ok (some place)) (hfound : s.top.find? place = some (.folder entries)) :
    s.makeFolder path = .ok s := by
  rw [makeFolder, h]
  simp only [bind, Except.bind, hfound]
  rfl

/-- Making a folder changes nothing, or puts an empty folder where nothing was. -/
theorem eq_of_makeFolder (h : s.makeFolder path = .ok t) :
    (∃ place, s.locate path = .ok place) ∧
      (t = s ∨ ∃ place, s.locate path = .ok (some place) ∧ s.top.find? place = none ∧
        t = { s with top := s.top.put place (.folder []) }) := by
  rw [makeFolder] at h
  obtain ⟨_ | place, hlocate, h⟩ := bind_eq_ok_iff.1 h
  · exact ⟨⟨none, hlocate⟩, .inl (Except.ok.inj h).symm⟩
  · refine ⟨⟨some place, hlocate⟩, ?_⟩
    dsimp only at h
    split at h
    next hnone =>
      split_ifs at h
      · cases h
      · exact .inr ⟨place, hlocate, hnone, (Except.ok.inj h).symm⟩
    next => exact .inl (Except.ok.inj h).symm
    next => cases h

/-- A folder that a part of a path leads to is there. -/
theorem makeFolder_of_enter {place mid : List String} (husable : isUsable folder)
    (hwalk : (Path.split folder.toList).dropLast.foldlM s.enter (Path.start folder) = .ok place)
    (henter : s.enter place ((Path.split folder.toList).getLast?.getD []) = .ok mid) :
    s.makeFolder folder = .ok s := by
  generalize hlast : (Path.split folder.toList).getLast?.getD [] = last at henter
  have hlocate := locate_of_walk husable hwalk hlast
  unfold enter at henter
  split_ifs at henter with hidle hback
  · rw [hidle] at hlocate
    exact makeFolder_of_none hlocate
  · rw [hback, Bool.or_true] at hlocate
    exact makeFolder_of_none hlocate
  · obtain ⟨inner, hinner, hfound⟩ := bind_eq_ok_iff.1 henter
    simp only [hidle, hback, hinner] at hlocate
    split at hfound
    next entries hfolder => exact makeFolder_of_folder hlocate hfolder
    next => cases hfound
    next => cases hfound

/-- **What leads to a place that is found is there already.** -/
theorem makeFolder_of_leads (h : Path.Leads outer path) (hlocate : s.locate path = .ok place) :
    s.makeFolder outer = .ok s := by
  rcases h with rfl | ⟨hne, rest, hrest⟩
  · rfl
  have hpath : path.toList = outer.toList ++ '/' :: rest := by
    rw [← hrest, List.append_assoc]
    rfl
  have husable := isUsable_of_locate hlocate
  have hbegins : outer.toList <+: path.toList := by
    rw [hpath]
    exact List.prefix_append _ _
  have hstart : Path.start path = Path.start outer := by
    rw [Path.start, Path.start, hpath]
    cases houter : outer.toList with
    | nil => exact absurd houter hne
    | cons c l => rfl
  rw [locate, husable] at hlocate
  obtain ⟨_, hwalk, -⟩ := bind_eq_ok_iff.1 hlocate
  -- the walk along `path` begins with the walk along all of `outer`
  rw [hpath, Path.dropLast_split, List.foldlM_append, hstart, List.foldlM_append] at hwalk
  obtain ⟨mid, hwalk, -⟩ := bind_eq_ok_iff.1 hwalk
  obtain ⟨start, hwalk, henter⟩ := bind_eq_ok_iff.1 hwalk
  rw [List.foldlM_cons] at henter
  obtain ⟨mid', henter, -⟩ := bind_eq_ok_iff.1 henter
  exact makeFolder_of_enter (isUsable_mono hbegins husable) hwalk henter

/-! ## Folders that are made -/

theorem makeFolder_again (h : s.makeFolder path = .ok t) : t.makeFolder path = .ok t := by
  obtain ⟨-, rfl | ⟨place, hlocate, hnone, rfl⟩⟩ := eq_of_makeFolder h
  · exact h
  · have hkeeps : s.top.Keeps (s.top.put place (.folder [])) :=
      Node.keeps_put (fun entries => by rw [hnone]; exact nofun) _
    exact makeFolder_of_folder (locate_of_keeps hkeeps hlocate) (Node.find?_put _ _ _)

/-- **Folders are made once**: a second attempt changes nothing, and comes to the
    same. -/
theorem makeFolders_again {paths : List String} {made : Bool}
    (hpaths : paths.Pairwise fun inner outer => Path.Leads outer inner)
    (h : s.makeFolders paths = (made, t)) : t.makeFolders paths = (made, t) := by
  induction hpaths generalizing s t made with
  | nil =>
    obtain ⟨rfl, rfl⟩ := Prod.mk.inj h
    rfl
  | @cons path outer hleads _ ih =>
    rw [makeFolders] at h
    split at h
    next u hu =>
      obtain ⟨rfl, rfl⟩ := Prod.mk.inj h
      rw [makeFolders, makeFolder_again hu]
    next hblocked =>
      obtain ⟨rfl, rfl⟩ := Prod.mk.inj h
      rw [makeFolders, hblocked]
    next hmissing =>
      split at h
      next u hu =>
        obtain ⟨rfl, rfl⟩ := Prod.mk.inj h
        have hagain := ih hu
        rw [makeFolders]
        split
        next w hw =>
          -- a path that can be followed goes through folders that are there
          obtain ⟨⟨place, hlocate⟩, -⟩ := eq_of_makeFolder hw
          cases outer with
          | nil => cases hu
          | cons folder outer =>
            have hthere := makeFolder_of_leads (hleads folder List.mem_cons_self) hlocate
            rw [makeFolders, hthere] at hagain
            cases hagain
        next => rfl
        next => rw [hagain]
      next u hu =>
        have hagain := ih hu
        split at h
        next w hw =>
          obtain ⟨rfl, rfl⟩ := Prod.mk.inj h
          rw [makeFolders, makeFolder_again hw]
        next absence hfails =>
          obtain ⟨rfl, rfl⟩ := Prod.mk.inj h
          rw [makeFolders, hfails]
          cases absence with
          | blocked => rfl
          | missing => simp only [hagain, hfails]

/-! ## What comes of it -/

/-- From `s` on, empty folders have been put where nothing was. -/
inductive Grows (s : Shelf) : Shelf → Prop
  | same : Grows s s
  | folder {t : Shelf} {place : List String} : Grows s t → t.top.find? place = none →
      Grows s { t with top := t.top.put place (.folder []) }

theorem Grows.trans {u : Shelf} (h : Grows s t) (h' : Grows t u) : Grows s u := by
  induction h' with
  | same => exact h
  | folder _ hnone ih => exact ih.folder hnone

theorem grows_of_makeFolder (h : s.makeFolder path = .ok t) : Grows s t := by
  obtain ⟨-, rfl | ⟨place, -, hnone, rfl⟩⟩ := eq_of_makeFolder h
  · exact .same
  · exact Grows.same.folder hnone

/-- Also if it fails, all that making folders does is to put folders where nothing
    was. -/
theorem grows_of_makeFolders {paths : List String} {made : Bool}
    (h : s.makeFolders paths = (made, t)) : Grows s t := by
  induction paths generalizing s t made with
  | nil =>
    obtain ⟨-, rfl⟩ := Prod.mk.inj h
    exact .same
  | cons path outer ih =>
    rw [makeFolders] at h
    split at h
    next u hu =>
      obtain ⟨-, rfl⟩ := Prod.mk.inj h
      exact grows_of_makeFolder hu
    next =>
      obtain ⟨-, rfl⟩ := Prod.mk.inj h
      exact .same
    next =>
      split at h
      next u hu =>
        obtain ⟨-, rfl⟩ := Prod.mk.inj h
        exact ih hu
      next u hu =>
        split at h
        next w hw =>
          obtain ⟨-, rfl⟩ := Prod.mk.inj h
          exact (ih hu).trans (grows_of_makeFolder hw)
        next =>
          obtain ⟨-, rfl⟩ := Prod.mk.inj h
          exact ih hu

theorem Grows.sealed (h : Grows s t) : t.sealed = s.sealed := by
  induction h with
  | same => rfl
  | folder _ _ ih => exact ih

/-- **No file comes from making folders.** -/
theorem Grows.file {names : List String} {content : List UInt8} (h : Grows s t)
    (hfile : t.top.find? names = some (.file content)) :
    s.top.find? names = some (.file content) := by
  induction h with
  | same => exact hfile
  | folder _ _ ih => exact ih (Node.file_of_put hfile)

end Shelf

end LightHub
