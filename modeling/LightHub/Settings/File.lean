/-
  Settings in a file.

  * `Settings.ofContent`: the settings that a file holds.  A file that is not
    there holds the defaults.
  * `Settings.load`: the settings in the file at a path.
  * `Settings.save`: writes the file at a path, and makes the folders that hold it.
  * `Settings.defaultPath`: where the file is, if it is not told.
-/
import LightHub.Settings.Parse
import LightHub.Shelf.Basic
import LightHub.Text.Utf8

namespace LightHub.Settings

/-- The settings that the file at a path holds, from what was found there. -/
def ofContent (path : String) : Except Absence (List UInt8) → Except Fault Settings
  | .error .missing => .ok default
  | .error .blocked => .error (.settings (.unreadable path))
  | .ok content =>
    match Text.ofBytes? content with
    | none => .error (.settings (.unreadable path))
    | some text =>
      match parse text with
      | .error .malformed => .error (.settings (.unparsable path none))
      | .error (.version v) => .error (.settings (.unparsable path (some v)))
      | .ok s => do
        s.validate
        return s

/-- The settings in the file at a path. -/
def load (path : String) (shelf : Shelf) : Except Fault Settings :=
  ofContent path (shelf.read path)

/-- Makes the folders that hold the file at a path. -/
def makeFolders (path : String) (shelf : Shelf) : Except Fault Unit × Shelf :=
  match Path.folders path with
  | [] => (.ok (), shelf)
  | folder :: outer =>
    match shelf.makeFolders (folder :: outer) with
    | (true, shelf) => (.ok (), shelf)
    | (false, shelf) => (.error (.settings (.uncreatable folder)), shelf)

/-- Writes the file at a path.  Settings that could not be loaded are not
    written. -/
def save (s : Settings) (path : String) (shelf : Shelf) : Except Fault Unit × Shelf :=
  match s.validate with
  | .error e => (.error e, shelf)
  | .ok _ =>
    match makeFolders path shelf with
    | (.error e, shelf) => (.error e, shelf)
    | (.ok _, shelf) =>
      match shelf.write path (Text.bytes s.render) with
      | some shelf => (.ok (), shelf)
      | none => (.error (.settings (.unwritable path)), shelf)

/-- Where the settings file is: at `configured`, else below the home folder, else
    in the working folder.  An empty text counts as none. -/
def defaultPath (configured home : Option String) : String :=
  match configured.filter (· ≠ ""), home.filter (· ≠ "") with
  | some path, _ => path
  | none, some home =>
    Path.join (Path.join (Path.join home ".config") "kisslight") "client.json"
  | none, none => "kisslight.json"

end LightHub.Settings
