/-
  Settings that are worked on in memory.

  * `Desk`: the settings at hand, and the shelf that their files are on.
  * `Change`: what is done to them; `Change.on`: does it.  Settings are at hand
    once they have been read in full, and those before them until then.
-/
import LightHub.Settings.File

namespace LightHub

/-- The settings at hand, and the shelf that their files are on. -/
structure Desk where
  settings : Settings := .default
  shelf : Shelf

/-- Takes new settings to hand, unless making them has failed. -/
def Desk.take (d : Desk) : Except Fault Settings → Except Fault Unit × Desk
  | .ok settings => (.ok (), { d with settings })
  | .error e => (.error e, d)

/-- Something that is done to the settings at hand. -/
inductive Change where
  /-- Takes the settings of a file instead -/
  | load (path : String)
  | save (path : String)
  | setAddress (text : String)
  | setPort (port : UInt16)
  deriving DecidableEq

/-- Does a change. -/
def Change.on : Change → Desk → Except Fault Unit × Desk
  | load path, d => d.take (Settings.load path d.shelf)
  | save path, d =>
    let (result, shelf) := d.settings.save path d.shelf
    (result, { d with shelf })
  | setAddress text, d => d.take (d.settings.setAddress text)
  | setPort port, d => d.take (d.settings.setPort port)

end LightHub
