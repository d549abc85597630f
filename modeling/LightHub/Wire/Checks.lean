/-
  What a request has to satisfy before it is sent.

  * `checkToken`: an argument travels as one word, so it is not empty and holds
    no blank.
  * `Command.validate`: every argument of a request fits its place.
  * `Command.checkGeneration`: the request form is one that hubs of a version
    read as it is meant.  The families share the keywords `ADD` and `TRANSMIT`,
    so a request of the other family would register or send garbage.
-/
import LightHub.Fault
import LightHub.Text.Blank

namespace LightHub

/-- An argument travels as one word. -/
def checkToken (what : Argument) (value : String) : Except Fault Unit :=
  if value.toList = [] then .error (.usage (.empty what))
  else if value.toList.any Text.isBlank then .error (.usage (.blank what value))
  else .ok ()

/-- A pulse has a length. -/
def checkPulse (pulse : UInt32) : Except Fault Unit :=
  if pulse = 0 then .error (.usage .zeroPulse) else .ok ()

/-- An argument that has to be there, or must not be. -/
def checkOptional (needed : Bool) (what : Argument) (missing unwanted : UsageFault) :
    Option String → Except Fault Unit
  | some value => if needed then checkToken what value else .error (.usage unwanted)
  | none => if needed then .error (.usage missing) else .ok ()

namespace Command

/-- Whether every argument fits its place.  The first one that does not is
    reported, in the order in which they are given. -/
def validate : Command → Except Fault Unit
  | toggle name | delete name | status name => checkToken .deviceName name
  | set name command arg => do
    checkToken .deviceName name
    checkToken .command command
    match arg with
    | some arg => checkToken .commandArgument arg
    | none => .ok ()
  | transmit topic message => do
    checkToken .topic topic
    checkToken .message message
  | transmitCode _ pulse => checkPulse pulse
  | addDevice name topic type commands => do
    checkToken .deviceName name
    checkToken .topic topic
    checkOptional type.takesCommands .commands (.commandsMissing type) (.commandsUnwanted type)
      commands
  | addCodes name _ _ pulse => do
    checkToken .deviceName name
    checkPulse pulse
  | update field name value => do
    checkToken .deviceName name
    checkOptional field.takesValue .newValue (.valueMissing field) (.valueUnwanted field) value
  | sniff | list | quit => .ok ()

/-- Whether hubs of version `v` read the request form as it is meant. -/
def checkGeneration (c : Command) (v : Version) : Except Fault Unit :=
  match c.generation with
  | some needed =>
    if needed = v.generation then .ok ()
    else .error (.usage (.wrongGeneration c.form needed v))
  | none => .ok ()

end Command

end LightHub
