/-
  Writing a file and reading it back.

  * `find?_put`: what is put at a place is there.
  * `Node.Keeps`: every folder of a shelf is one of another; `keeps_put`: what
    is not put in the place of a folder keeps all folders.
  * `locate_of_keeps`: a path leads to the same place as long as the folders stay.
  * `read_write`: **a file that has been written is read back.**
-/
import LightHub.Proofs.Text.Word
import LightHub.Shelf.Basic

namespace LightHub

namespace Node

/-! ## Folders -/

theorem lookup_assign_self (name : String) (n : Node) (entries : List (String × Node)) :
    (assign name n entries).lookup name = some n := by
  induction entries with
  | nil => simp [assign]
  | cons e entries ih =>
    obtain ⟨m, other⟩ := e
    by_cases hm : m = name
    · simp [assign, hm]
    · have hne : (name == m) = false := by simpa using Ne.symm hm
      simp [assign, hm, List.lookup_cons, hne, ih]

theorem lookup_assign_of_ne {name m : String} (h : m ≠ name) (n : Node)
    (entries : List (String × Node)) : (assign name n entries).lookup m = entries.lookup m := by
  induction entries with
  | nil => simp [assign, h]
  | cons e entries ih =>
    obtain ⟨k, other⟩ := e
    by_cases hk : k = name
    · have hne : (m == name) = false := by simpa using h
      simp [assign, hk, List.lookup_cons, hne]
    · simp [assign, hk, List.lookup_cons, ih]

/-! ## Places -/

theorem find?_cons (n : Node) (name : String) (names : List String) :
    n.find? (name :: names) = (n.entries.lookup name).bind fun inner => inner.find? names := rfl

theorem entries_put (n : Node) (name : String) (names : List String) (new : Node) :
    (n.put (name :: names) new).entries =
      assign name (((n.entries.lookup name).getD (folder [])).put names new) n.entries := rfl

/-- What is put at a place is there. -/
theorem find?_put (n : Node) (place : List String) (new : Node) :
    (n.put place new).find? place = some new := by
  induction place generalizing n with
  | nil => rfl
  | cons name names ih =>
    rw [find?_cons, entries_put, lookup_assign_self]
    exact ih _

/-- Every folder of `n` is a folder of `m`. -/
def Keeps (n m : Node) : Prop :=
  ∀ place entries, n.find? place = some (.folder entries) →
    ∃ entries', m.find? place = some (.folder entries')

/-- What is not put in the place of a folder keeps all folders. -/
theorem keeps_put {n : Node} {place : List String}
    (h : ∀ entries, n.find? place ≠ some (.folder entries)) (new : Node) :
    Keeps n (n.put place new) := by
  induction place generalizing n with
  | nil =>
    intro at_ entries hfind
    cases n with
    | folder es => exact absurd rfl (h es)
    | file c =>
      cases at_ with
      | nil => cases hfind
      | cons name names => cases hfind
  | cons name names ih =>
    intro at_ es hfind
    cases at_ with
    | nil => exact ⟨_, rfl⟩
    | cons m ms =>
      rw [find?_cons] at hfind
      obtain ⟨inner, hlookup, hinner⟩ := Option.bind_eq_some_iff.1 hfind
      by_cases hm : m = name
      · subst hm
        have hnot : ∀ entries, inner.find? names ≠ some (.folder entries) := by
          intro entries heq
          refine h entries ?_
          rw [find?_cons, hlookup]
          exact heq
        obtain ⟨es', hes'⟩ := ih hnot ms es hinner
        refine ⟨es', ?_⟩
        rw [find?_cons, entries_put, lookup_assign_self, hlookup]
        exact hes'
      · refine ⟨es, ?_⟩
        rw [find?_cons, entries_put, lookup_assign_of_ne hm]
        exact hfind

end Node

namespace Shelf

/-! ## Paths -/

variable {s t : Shelf}

theorem enter_of_keeps (h : s.top.Keeps t.top) {place place' : List String} {part : List Char}
    (henter : s.enter place part = .ok place') : t.enter place part = .ok place' := by
  unfold enter at henter ⊢
  split
  next hidle => rwa [if_pos hidle] at henter
  next hidle =>
    rw [if_neg hidle] at henter
    split
    next hback => rwa [if_pos hback] at henter
    next hback =>
      rw [if_neg hback] at henter
      obtain ⟨inner, hinner, henter⟩ := bind_eq_ok_iff.1 henter
      refine bind_eq_ok_iff.2 ⟨inner, hinner, ?_⟩
      split at henter
      next entries hfind =>
        obtain ⟨entries', hfind'⟩ := h inner entries hfind
        rw [hfind']
        exact henter
      next => cases henter
      next => cases henter

theorem foldlM_enter_of_keeps (h : s.top.Keeps t.top) {parts : List (List Char)}
    {place place' : List String} (hwalk : parts.foldlM s.enter place = .ok place') :
    parts.foldlM t.enter place = .ok place' := by
  induction parts generalizing place with
  | nil => exact hwalk
  | cons part parts ih =>
    rw [List.foldlM_cons] at hwalk ⊢
    obtain ⟨mid, henter, hrest⟩ := bind_eq_ok_iff.1 hwalk
    exact bind_eq_ok_iff.2 ⟨mid, enter_of_keeps h henter, ih hrest⟩

/-- A path leads to the same place as long as the folders stay. -/
theorem locate_of_keeps (h : s.top.Keeps t.top) {path : String} {place : Option (List String)}
    (hlocate : s.locate path = .ok place) : t.locate path = .ok place := by
  unfold locate at hlocate ⊢
  split
  next hunusable =>
    rw [if_pos hunusable] at hlocate
    exact hlocate
  next husable =>
    rw [if_neg husable] at hlocate
    obtain ⟨folder, hwalk, hlast⟩ := bind_eq_ok_iff.1 hlocate
    exact bind_eq_ok_iff.2 ⟨folder, foldlM_enter_of_keeps h hwalk, hlast⟩

/-- The empty path names nothing. -/
theorem locate_of_nil {path : String} (h : path.toList = []) {place : List String} :
    s.locate path ≠ .ok (some place) := by
  unfold locate
  split
  · exact nofun
  · rw [h]
    exact nofun

/-! ## Files -/

/-- A file is put at the place that its path leads to, unless a folder is there or the
    system does not let it. -/
theorem write_eq_some_iff {path : String} {content : List UInt8} :
    s.write path content = some t ↔
      ∃ place, s.locate path = .ok (some place) ∧ place ∉ s.sealed ∧
        (∀ entries, s.top.find? place ≠ some (.folder entries)) ∧
          t = { s with top := s.top.put place (.file content) } := by
  unfold write
  split
  next place hlocate =>
    rw [hlocate]
    split
    next hsealed =>
      refine iff_of_false nofun ?_
      rintro ⟨place', heq, hopen, -, -⟩
      obtain rfl := Option.some.inj (Except.ok.inj heq)
      exact hopen hsealed
    next hopen =>
      split
      next entries hfolder =>
        refine iff_of_false nofun ?_
        rintro ⟨place', heq, -, hplace, -⟩
        obtain rfl := Option.some.inj (Except.ok.inj heq)
        exact hplace entries hfolder
      next hplace =>
        constructor
        · exact fun h => ⟨place, rfl, hopen, hplace, (Option.some.inj h).symm⟩
        · rintro ⟨place', heq, -, -, rfl⟩
          obtain rfl := Option.some.inj (Except.ok.inj heq)
          rfl
  next hnone =>
    refine iff_of_false nofun ?_
    rintro ⟨place, hlocate, -⟩
    exact hnone place hlocate

/-- **A file that has been written is read back.** -/
theorem read_write {path : String} {content : List UInt8}
    (h : s.write path content = some t) : t.read path = .ok content := by
  obtain ⟨place, hlocate, -, hplace, rfl⟩ := write_eq_some_iff.1 h
  have hnil : path.toList ≠ [] := fun hnil => locate_of_nil hnil hlocate
  have hkept := locate_of_keeps (t := { s with top := s.top.put place (.file content) })
    (Node.keeps_put hplace (.file content)) hlocate
  have hfound := Node.find?_put s.top place (.file content)
  rw [read, if_neg hnil]
  simp only [bind, Except.bind, hkept, hfound]
  rfl

end Shelf

end LightHub
