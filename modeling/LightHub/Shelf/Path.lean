/-
  Paths of files, as text with slashes between parts.

  * `Path.split`: the parts of a path.  Empty parts and `.` say nothing, and
    `..` leads back.
  * `Path.start`, `Path.back`: a place, as the names that lead to it; where a
    path starts, and what is one folder back.
  * `Path.folders`: the paths of the folders that hold what a path names, the
    innermost one first.
  * `Path.join`: a path that goes on from another one.
-/
import LightHub.Text.Blank

namespace LightHub.Path

/-- The parts of a text between slashes. -/
def split : List Char → List (List Char)
  | [] => [[]]
  | c :: rest => if c = '/' then [] :: split rest else Text.attach c (split rest)

/-- Whether a part of a path says nothing. -/
def isIdle (part : List Char) : Bool :=
  part = [] || part = ['.']

/-- Whether a part of a path leads back. -/
def isBack (part : List Char) : Bool :=
  part = ['.', '.']

/-! ## Places -/

/-- The name that stands for the root.  No part of a path spells it. -/
def root : String := "/"

/-- The name that stands for the folder above the working folder. -/
def above : String := ".."

/-- Where a path starts: at the root or in the working folder. -/
def start (path : String) : List String :=
  if path.toList.head? = some '/' then [root] else []

/-- One folder back.  Nothing is above the root. -/
def back (place : List String) : List String :=
  if place.getLast? = some root then place
  else if place = [] ∨ place.getLast? = some above then place ++ [above]
  else place.dropLast

/-! ## Folders -/

/-- The texts of a path through each of its parts that are not idle. -/
def stopsFrom (before : List Char) : List (List Char) → List String
  | [] => []
  | part :: parts =>
    let stops := stopsFrom (before ++ part ++ ['/']) parts
    if isIdle part then stops else String.ofList (before ++ part) :: stops

/-- The paths that a path goes through, itself last, without idle parts at the
    end.  The root is one of them, and so is a `.` in front. -/
def stops (path : String) : List String :=
  match split path.toList with
  | [[]] => []
  | [] :: parts => root :: stopsFrom ['/'] parts
  | ['.'] :: parts => "." :: stopsFrom ['.', '/'] parts
  | parts => stopsFrom [] parts

/-- The paths of the folders that hold what a path names, the innermost one
    first.  The folder where the path starts is one of them only if it is
    spelled. -/
def folders (path : String) : List String :=
  (stops path).dropLast.reverse

/-- The path that goes on from `path` to `name`. -/
def join (path name : String) : String :=
  if path.toList = [] ∨ path.toList.getLast? = some '/' then path ++ name
  else path ++ "/" ++ name

end LightHub.Path
