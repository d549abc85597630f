/-
  A shelf of files: folders inside of folders, with bytes at the leaves.

  * `Node`: a file or a folder; `Node.find?` and `Node.put` follow the names of a
    place.
  * `Shelf`: the folder that paths start from, and where nothing can be written.
  * `Absence`: why nothing is found along a path.
  * `Shelf.enter`, `Shelf.locate`: a path is followed part by part, and each part
    but the last has to lead to a folder.
  * `Shelf.read`, `Shelf.write`, `Shelf.makeFolder`: what is done at the end of a
    path.
  * `Shelf.makeFolders`: makes a folder and those that hold it.  If that fails
    half way, the folders that were made stay.
-/
import LightHub.Shelf.Path

namespace LightHub

/-! ## Nodes -/

inductive Node where
  | file (content : List UInt8)
  | folder (entries : List (String × Node))

namespace Node

/-- What a folder holds.  A file holds nothing. -/
def entries : Node → List (String × Node)
  | file _ => []
  | folder entries => entries

/-- Puts a node under a name, in place of the one that is there. -/
def assign (name : String) (n : Node) : List (String × Node) → List (String × Node)
  | [] => [(name, n)]
  | (m, other) :: entries =>
    if m = name then (name, n) :: entries else (m, other) :: assign name n entries

/-- What is at a place. -/
def find? : Node → List String → Option Node
  | n, [] => some n
  | n, name :: names => do find? (← n.entries.lookup name) names

/-- Puts a node at a place.  Folders on the way are made. -/
def put : Node → List String → Node → Node
  | _, [], new => new
  | n, name :: names, new =>
    let inner := (n.entries.lookup name).getD (folder [])
    folder (assign name (put inner names new) n.entries)

end Node

/-! ## Shelves -/

/-- The folder that paths start from.  The root and the folders above are in it
    as well, under names of their own, once something is put there. -/
structure Shelf where
  top : Node
  /-- The places at which the system lets nothing be made or written -/
  sealed : List (List String) := []

/-- Why nothing is found along a path. -/
inductive Absence where
  /-- A name on the path is not there -/
  | missing
  /-- A folder is where a file should be, or a file where a folder should be, or
      the system does not take the path, or lets nothing be made there -/
  | blocked
  deriving DecidableEq

namespace Shelf

def empty : Shelf := { top := .folder [] }

/-! ## Paths -/

/-- How many bytes a name has at most. -/
def nameLimit : Nat := 255

/-- How many bytes a path has at most. -/
def pathLimit : Nat := 4095

/-- A path has no NUL in it, and not too many bytes. -/
def isUsable (path : String) : Bool :=
  !path.toList.contains '\x00' && path.utf8ByteSize ≤ pathLimit

/-- The place under a name. -/
def placeOf (place : List String) (part : List Char) : Except Absence (List String) :=
  let name := String.ofList part
  if nameLimit < name.utf8ByteSize then .error .blocked else .ok (place ++ [name])

/-- The folder that a part of a path leads to from the folder at a place.  There
    always is a folder above. -/
def enter (s : Shelf) (place : List String) (part : List Char) : Except Absence (List String) :=
  if Path.isIdle part then .ok place
  else if Path.isBack part then .ok (Path.back place)
  else do
    let place ← placeOf place part
    match s.top.find? place with
    | some (.folder _) => return place
    | some (.file _) => .error .blocked
    | none => .error .missing

/-- The place of what a path names, in a folder that is there.  None if the last
    part says nothing or leads back, so that the path can only be a folder's,
    which is there. -/
def locate (path : String) (s : Shelf) : Except Absence (Option (List String)) :=
  if !isUsable path then .error .blocked
  else do
    let parts := Path.split path.toList
    let place ← parts.dropLast.foldlM s.enter (Path.start path)
    let last := parts.getLast?.getD []
    if Path.isIdle last || Path.isBack last then return none
    else return some (← placeOf place last)

/-! ## Files -/

/-- The bytes of the file at a path. -/
def read (path : String) (s : Shelf) : Except Absence (List UInt8) := do
  if path.toList = [] then throw .missing
  match ← s.locate path with
  | none => throw .blocked
  | some place =>
    match s.top.find? place with
    | some (.file content) => return content
    | some (.folder _) => throw .blocked
    | none => throw .missing

/-- Writes the file at a path, whose folder has to be there.  A write that fails
    changes nothing. -/
def write (path : String) (content : List UInt8) (s : Shelf) : Option Shelf :=
  match s.locate path with
  | .ok (some place) =>
    if place ∈ s.sealed then none
    else
      match s.top.find? place with
      | some (.folder _) => none
      | _ => some { s with top := s.top.put place (.file content) }
  | _ => none

/-! ## Folders -/

/-- Makes the folder at a path, unless it is there.  The folder that holds it has
    to be there. -/
def makeFolder (path : String) (s : Shelf) : Except Absence Shelf := do
  match ← s.locate path with
  | none => return s
  | some place =>
    match s.top.find? place with
    | none =>
      if place ∈ s.sealed then throw .blocked
      return { s with top := s.top.put place (.folder []) }
    | some (.folder _) => return s
    | some (.file _) => throw .blocked

/-- Makes the folder at the first path.  If the folder that holds it is missing,
    the rest of the paths are made first.  The result tells whether the folder is
    there, and the shelf keeps what was made. -/
def makeFolders : List String → Shelf → Bool × Shelf
  | [], s => (true, s)
  | path :: outer, s =>
    match s.makeFolder path with
    | .ok s => (true, s)
    | .error .blocked => (false, s)
    | .error .missing =>
      match makeFolders outer s with
      | (false, s) => (false, s)
      | (true, s) =>
        match s.makeFolder path with
        | .ok s => (true, s)
        | .error _ => (false, s)

end Shelf

end LightHub
