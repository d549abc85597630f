/-
  Reading a command line.  Options come first, then the words of the action,
  then its values.

  * `Word`: what an argument looks like.  One that begins with a dash is an
    option, but a dash alone is a value; after `--` all are values.
  * `Stop`: why there is nothing to run: help or the version was asked for, or
    the arguments do not fit.
  * `readOptions`, `readValues`: the options before an action, and its values.
  * `readAction`: the words that name an action, and its values.
  * `Invocation.parse`: a whole command line.  The first thing on it that asks
    for help or is wrong decides.
-/
import LightHub.CommandLine.Invocation
import LightHub.Text.Numeral

namespace LightHub

/-- Why there is nothing to run. -/
inductive Stop where
  | help
  | version
  | invalid
  deriving DecidableEq

namespace CommandLine

/-! ## Words -/

/-- What an argument looks like. -/
inductive Word where
  /-- `--` -/
  | escape
  /-- `--name` or `--name=value` -/
  | long (name : String) (value : Option String)
  /-- One or more letters after a dash -/
  | short (letters : List Char)
  | plain
  deriving DecidableEq

def Word.ofChars : List Char → Word
  | ['-', '-'] => .escape
  | '-' :: '-' :: cs =>
    let name := String.ofList (cs.takeWhile (· ≠ '='))
    match cs.dropWhile (· ≠ '=') with
    | _ :: value => .long name (some (String.ofList value))
    | [] => .long name none
  | '-' :: c :: cs => .short (c :: cs)
  | _ => .plain

def Word.of (arg : String) : Word :=
  ofChars arg.toList

/-! ## Options -/

/-- An option that takes a value. -/
inductive Setting where
  | config
  | hub
  deriving DecidableEq

/-- Gives an option its value, once. -/
def give (o : Options) (setting : Setting) (value : String) : Except Stop Options :=
  match setting with
  | .config =>
    if o.config.isSome ∨ value = "" then .error .invalid
    else .ok { o with config := some value }
  | .hub =>
    match o.hub, Net.parseSocket? value with
    | none, some hub => .ok { o with hub := some hub }
    | _, _ => .error .invalid

/-- Asks for more output, once. -/
def speakUp (o : Options) : Except Stop Options :=
  if o.verbose then .error .invalid else .ok { o with verbose := true }

/-- Takes a long option; the second result is an option that waits for the next
    argument as its value. -/
def takeLong (o : Options) (name : String) (value : Option String) :
    Except Stop (Options × Option Setting) :=
  match name, value with
  | "config", some value => return (← give o .config value, none)
  | "config", none => return (o, some .config)
  | "hub", some value => return (← give o .hub value, none)
  | "hub", none => return (o, some .hub)
  | "verbose", none => return (← speakUp o, none)
  | "help", none => throw .help
  | "version", none => throw .version
  | _, _ => throw .invalid

/-- Takes letters after one dash, in their order.  What follows the letter of an
    option with a value is that value. -/
def takeShort (o : Options) : List Char → Except Stop (Options × Option Setting)
  | [] => return (o, none)
  | 'v' :: letters => do takeShort (← speakUp o) letters
  | ['c'] => return (o, some .config)
  | 'c' :: '=' :: value => return (← give o .config (String.ofList value), none)
  | 'c' :: value => return (← give o .config (String.ofList value), none)
  | 'h' :: _ => throw .help
  | 'V' :: _ => throw .version
  | _ => throw .invalid

/-- The options before an action, and the arguments from the action on. -/
def readOptions (o : Options) : (waiting : Option Setting) → List String →
    Except Stop (Options × List String)
  | _, [] => throw .invalid
  | some setting, arg :: args =>
    match Word.of arg with
    | .plain => do readOptions (← give o setting arg) none args
    | _ => throw .invalid
  | none, arg :: args =>
    match Word.of arg with
    | .plain => return (o, arg :: args)
    | .long name value => do
      let (o, waiting) ← takeLong o name value
      readOptions o waiting args
    | .short letters => do
      let (o, waiting) ← takeShort o letters
      readOptions o waiting args
    | .escape => throw .invalid

/-! ## Values -/

/-- What a value has to be. -/
inductive Kind where
  | text
  | port
  | code
  | pulse
  deriving DecidableEq

inductive Value where
  | text (s : String)
  | port (n : UInt16)
  | code (n : Int64)
  | pulse (n : UInt32)
  deriving DecidableEq

/-- Reads a value.  A number may have a sign; the sign of zero says nothing. -/
def Kind.read? (kind : Kind) (s : String) : Option Value :=
  match kind with
  | text => some (.text s)
  | code => (Text.int64? s.toList).map .code
  | port => (Text.signed? 0 (UInt16.size - 1) s.toList).map fun n => .port (UInt16.ofNat n.toNat)
  | pulse => (Text.signed? 0 (UInt32.size - 1) s.toList).map fun n => .pulse (UInt32.ofNat n.toNat)

/-- The values of an action, of at most the given kinds.  `escaped` tells whether
    a `--` has been passed. -/
def readValues : (escaped : Bool) → List Kind → List String → Except Stop (List Value)
  | _, _, [] => return []
  | escaped, kinds, arg :: args =>
    match if escaped then Word.plain else Word.of arg with
    | .escape => readValues true kinds args
    | .long "help" none | .short ('h' :: _) => throw .help
    | .plain =>
      match kinds with
      | [] => throw .invalid
      | kind :: kinds =>
        match kind.read? arg with
        | some value => return value :: (← readValues escaped kinds args)
        | none => throw .invalid
    | _ => throw .invalid

/-- The word of a nested action, and the arguments after it. -/
def readWord : List String → Except Stop (String × List String)
  | [] => throw .invalid
  | arg :: args =>
    match Word.of arg with
    | .plain => return (arg, args)
    | .long "help" none | .short ('h' :: _) => throw .help
    | _ => throw .invalid

/-! ## Actions -/

/-- The words of the ways to add a device. -/
def addWords : List String := ["device", "scan", "code", "pair", "help"]

/-- The words of the fields that can be updated. -/
def updateWords : List String := ["name", "topic", "state", "help"]

/-- The words of the actions that have no words under them. -/
def leafWords : List String :=
  ["toggle", "set", "send", "scan", "delete", "status", "list", "ip", "port", "help"]

/-- Asks for help on an action, which has to be one. -/
def helpOn (words : List String) : Stop :=
  let isAction := match words with
    | [] | ["add"] | ["update"] => true
    | ["add", word] => addWords.contains word
    | ["update", word] => updateWords.contains word
    | [word] => leafWords.contains word
    | _ => false
  if isAction then .help else .invalid

/-- The ways to add a device. -/
def readAdd (word : String) (args : List String) : Except Stop Task :=
  match word with
  | "device" => do
    match ← readValues false [.text, .text, .text, .text] args with
    | [.text name, .text topic, .text type] => return .addDevice name topic type none
    | [.text name, .text topic, .text type, .text commands] =>
      return .addDevice name topic type (some commands)
    | _ => throw .invalid
  | "scan" => do
    match ← readValues false [.text] args with
    | [.text name] => return .addScan name
    | _ => throw .invalid
  | "code" => do
    match ← readValues false [.text, .code, .pulse] args with
    | [.text name, .code code, .pulse pulse] => return .addCode name code pulse
    | _ => throw .invalid
  | "pair" => do
    match ← readValues false [.text, .code, .code, .pulse] args with
    | [.text name, .code on, .code off, .pulse pulse] => return .addPair name on off pulse
    | _ => throw .invalid
  | "help" => throw (helpOn ("add" :: args))
  | _ => throw .invalid

/-- The fields that can be updated. -/
def readUpdate (word : String) (args : List String) : Except Stop Task :=
  match word with
  | "name" => do
    match ← readValues false [.text, .text] args with
    | [.text name, .text newName] => return .rename name newName
    | _ => throw .invalid
  | "topic" => do
    match ← readValues false [.text, .text] args with
    | [.text name, .text topic] => return .move name topic
    | _ => throw .invalid
  | "state" => do
    match ← readValues false [.text] args with
    | [.text name] => return .refresh name
    | _ => throw .invalid
  | "help" => throw (helpOn ("update" :: args))
  | _ => throw .invalid

/-- The action that a word names, with its values. -/
def readAction (word : String) (args : List String) : Except Stop Action :=
  match word with
  | "toggle" => do
    match ← readValues false [.text] args with
    | [.text name] => return .task (.toggle name)
    | _ => throw .invalid
  | "set" => do
    match ← readValues false [.text, .text, .text] args with
    | [.text name, .text command] => return .task (.set name command none)
    | [.text name, .text command, .text arg] => return .task (.set name command (some arg))
    | _ => throw .invalid
  | "send" => do
    match ← readValues false [.text, .text] args with
    | [.text target, .text payload] => return .task (.send target payload)
    | _ => throw .invalid
  | "add" => do
    let (word, args) ← readWord args
    return .task (← readAdd word args)
  | "scan" => do
    match ← readValues false [] args with
    | [] => return .task .scan
    | _ => throw .invalid
  | "delete" => do
    match ← readValues false [.text] args with
    | [.text name] => return .task (.delete name)
    | _ => throw .invalid
  | "status" => do
    match ← readValues false [.text] args with
    | [.text name] => return .task (.status name)
    | _ => throw .invalid
  | "list" => do
    match ← readValues false [] args with
    | [] => return .task .list
    | _ => throw .invalid
  | "update" => do
    let (word, args) ← readWord args
    return .task (← readUpdate word args)
  | "ip" => do
    match ← readValues false [.text] args with
    | [.text text] => return .edit (.ip text)
    | _ => throw .invalid
  | "port" => do
    match ← readValues false [.port] args with
    | [.port port] => return .edit (.port port)
    | _ => throw .invalid
  | "help" => throw (helpOn args)
  | _ => throw .invalid

end CommandLine

open CommandLine in
/-- Reads a command line. -/
def Invocation.parse (args : List String) : Except Stop Invocation := do
  let (options, args) ← readOptions {} none args
  match args with
  | word :: args => return { options with action := ← readAction word args }
  | [] => throw .invalid

end LightHub
