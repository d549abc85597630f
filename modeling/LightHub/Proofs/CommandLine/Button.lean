/-
  The ways to name a button of a remote.

  * `Plan.converse_of_half`, `Plan.converse_of_halves`: what a task by one of its codes
    comes to, and a task by both.
  * `SameDevice`: all that may be said of a button adds one device.
  * `sameDevice_of_on`: **so it is for every code that is tagged as an on code.**
-/
import LightHub.Proofs.Client.Capture
import LightHub.Proofs.CommandLine.Arguments
import LightHub.Proofs.CommandLine.Run
import LightHub.Proofs.Remote.Code

namespace LightHub

/-! ## Plans -/

namespace Plan

/-- The device of a button, to be added by one of its codes. -/
theorem ofTask_addCode (v : Version) {name : String} {code : Int64} {pulse : UInt32}
    {device : Registration} (h : Registration.ofLearned name ⟨code, pulse⟩ = .ok device) :
    ofTask v (.addCode name code pulse) =
      (checked v device.command).map fun _ => .addCode device := by
  rw [ofTask, h]
  change (checked v device.command >>= fun _ => pure (addCode device)) = _
  cases checked v device.command with
  | error e => rfl
  | ok _ => rfl

/-- The same, by both of its codes. -/
theorem ofTask_addPair (v : Version) {name : String} {on off : Int64} {pulse : UInt32}
    {device : Registration} (h : Registration.ofCodes name on off pulse = .ok device) :
    ofTask v (.addPair name on off pulse) =
      (checked v device.command).map fun _ => .addPair device := by
  rw [ofTask, h]
  change (checked v device.command >>= fun _ => pure (addPair device)) = _
  cases checked v device.command with
  | error e => rfl
  | ok _ => rfl

end Plan

/-! ## Buttons -/

open CommandLine (codeArguments pairArguments parse_codeArguments parse_pairArguments)

open LightHub.Stream (CaptureFrame)

/-- All that may be said of a button adds one device. -/
structure SameDevice (name : String) (on off : Int64) (pulse : UInt32) : Prop where
  /-- A client adds it by either code, and by both. -/
  client : ∀ s : Session,
    let added := (Client.register ⟨name, on, off, pulse⟩).on s
    (Client.addCode name on pulse).on s = added ∧ (Client.addCode name off pulse).on s = added ∧
      (Client.addPair name on off pulse).on s = added
  /-- So do all command lines that differ in nothing but the codes. -/
  runs : ∀ (o : Options) (byOn byOff byPair : List String),
    Invocation.parse byOn = .ok { o with action := .task (.addCode name on pulse) } →
    Invocation.parse byOff = .ok { o with action := .task (.addCode name off pulse) } →
    Invocation.parse byPair = .ok { o with action := .task (.addPair name on off pulse) } →
    ∀ m : Machine, run byOff m = run byOn m ∧ run byPair m = run byOn m
  /-- Any name, codes and pulse can be typed. -/
  typed : Invocation.parse (codeArguments name on pulse) =
      .ok { action := .task (.addCode name on pulse) } ∧
    Invocation.parse (codeArguments name off pulse) =
      .ok { action := .task (.addCode name off pulse) } ∧
    Invocation.parse (pairArguments name on off pulse) =
      .ok { action := .task (.addPair name on off pulse) }
  /-- A hub may tell either code, in any digits. -/
  scans : ∀ (f : CaptureFrame) (s : Session) (onText offText : String),
    Text.int64? onText.toList = some on → Text.int64? offText.toList = some off →
    let byOn := (Client.addByScan name).on (s.withUnread (f.fill onText))
    let byOff := (Client.addByScan name).on (s.withUnread (f.fill offText))
    byOff.1 = byOn.1 ∧ byOff.2.sink = byOn.2.sink

section

variable {name : String} {on off : Int64} {pulse : UInt32}

/-- Either code of a button stands for its device. -/
theorem Client.addCode_of_half {code : Int64} (htag : on.toInt % 16 = 3)
    (hoff : off.toInt = on.toInt + 9) (hcode : code = on ∨ code = off) :
    addCode name code pulse = register ⟨name, on, off, pulse⟩ := by
  rw [addCode_eq, Registration.ofLearned_of_half htag hoff hcode, Exchange.ofResult_ok_bind]

theorem Client.addPair_of_halves (htag : on.toInt % 16 = 3) (hoff : off.toInt = on.toInt + 9) :
    addPair name on off pulse = register ⟨name, on, off, pulse⟩ := by
  rw [addPair_eq, Registration.ofCodes_of_halves htag hoff, Exchange.ofResult_ok_bind]

/-- The plans of a code and of a pair are not the same, but what is said and done for
    them is. -/
theorem Plan.converse_addPair (htag : on.toInt % 16 = 3) (hoff : off.toInt = on.toInt + 9) :
    (addPair ⟨name, on, off, pulse⟩).converse = (addCode ⟨name, on, off, pulse⟩).converse := by
  have hexchange : exchange (addPair ⟨name, on, off, pulse⟩) =
      exchange (addCode ⟨name, on, off, pulse⟩) := by
    simp only [exchange, Client.addPair_of_halves htag hoff,
      Client.addCode_of_half htag hoff (Or.inl rfl)]
  funext s
  simp only [converse, hexchange, announcement]

/-- What a task by either code comes to. -/
theorem Plan.converse_of_half (v : Version) {code : Int64} (htag : on.toInt % 16 = 3)
    (hoff : off.toInt = on.toInt + 9) (hcode : code = on ∨ code = off) :
    let device : Registration := ⟨name, on, off, pulse⟩
    (ofTask v (.addCode name code pulse)).map converse =
      (checked v device.command).map fun _ => (addCode device).converse := by
  intro device
  rw [ofTask_addCode v (Registration.ofLearned_of_half htag hoff hcode)]
  cases checked v device.command with
  | error e => rfl
  | ok _ => rfl

/-- It is what a task by both codes comes to. -/
theorem Plan.converse_of_halves (v : Version) (htag : on.toInt % 16 = 3)
    (hoff : off.toInt = on.toInt + 9) :
    let device : Registration := ⟨name, on, off, pulse⟩
    (ofTask v (.addPair name on off pulse)).map converse =
      (checked v device.command).map fun _ => (addCode device).converse := by
  intro device
  rw [ofTask_addPair v (Registration.ofCodes_of_halves htag hoff)]
  cases checked v device.command with
  | error e => rfl
  | ok _ => exact congrArg Except.ok (converse_addPair htag hoff)

/-- A hub that tells the off code is heard as one that tells the on code. -/
theorem Client.on_addByScan_fill (htag : on.toInt % 16 = 3) (hoff : off.toInt = on.toInt + 9)
    (f : CaptureFrame) (s : Session) {onText offText : String}
    (honText : Text.int64? onText.toList = some on)
    (hoffText : Text.int64? offText.toList = some off) :
    let byOn := (addByScan name).on (s.withUnread (f.fill onText))
    let byOff := (addByScan name).on (s.withUnread (f.fill offText))
    byOff.1 = byOn.1 ∧ byOff.2.sink = byOn.2.sink := by
  intro byOn byOff
  obtain ⟨heard, t, hheard⟩ := exists_heard_of_scan f s
  obtain ⟨rest, hscan, hrest⟩ := hheard onText on honText
  obtain ⟨rest', hscan', hrest'⟩ := hheard offText off hoffText
  cases heard with
  | error e =>
    have hbyOn : byOn = (.error e, t.withUnread rest) := by
      simp only [byOn, addByScan_eq, Exchange.on_bind, hscan, Except.map]
    have hbyOff : byOff = (.error e, t.withUnread rest') := by
      simp only [byOff, addByScan_eq, Exchange.on_bind, hscan', Except.map]
    rw [hbyOn, hbyOff]
    exact ⟨rfl, rfl⟩
  | ok pulse =>
    -- the device is added on the same session then
    obtain rfl : rest = f.rest.tail := hrest rfl
    obtain rfl : rest' = f.rest.tail := hrest' rfl
    have hdevice : Registration.ofLearned name ⟨on, pulse⟩ = .ok ⟨name, on, off, pulse⟩ :=
      Registration.ofLearned_of_half htag hoff (Or.inl rfl)
    have hdevice' : Registration.ofLearned name ⟨off, pulse⟩ = .ok ⟨name, on, off, pulse⟩ :=
      Registration.ofLearned_of_half htag hoff (Or.inr rfl)
    have hsame : byOff = byOn := by
      simp only [byOn, byOff, addByScan_eq, Exchange.on_bind, hscan, hscan', Except.map,
        Exchange.on_ofResult, hdevice, hdevice']
    rw [hsame]
    exact ⟨rfl, rfl⟩

/-- **Every code that is tagged as an on code belongs to a button that can be named in
    any way.**  Its off code is nine above it, which is always a code.  Adding the device
    by the on code, by the off code or by both comes to the same on every session, and
    on the command line to the same report: what is shown, how the run ends and what the
    hub receives.  When a remote is learned, it makes no difference which of the two
    codes the hub hears. -/
theorem sameDevice_of_on {on : Int64} (hon : on &&& 0b1111 = 0b0011) (name : String)
    (pulse : UInt32) :
    (on + 9).toInt = on.toInt + 9 ∧ SameDevice name on (on + 9) pulse := by
  have htag : on.toInt % 16 = 3 := and_fifteen_eq_iff.1 hon
  have hoff : (on + 9).toInt = on.toInt + 9 := toInt_add_nine htag
  refine ⟨hoff, ?_, ?_, ?_, ?_⟩
  · intro s added
    rw [Client.addCode_of_half htag hoff (Or.inl rfl),
      Client.addCode_of_half htag hoff (Or.inr rfl), Client.addPair_of_halves htag hoff]
    exact ⟨rfl, rfl, rfl⟩
  · intro o byOn byOff byPair hbyOn hbyOff hbyPair m
    constructor
    · refine run_congr_of_task hbyOn hbyOff (fun v => ?_) m
      rw [Plan.converse_of_half v htag hoff (Or.inl rfl),
        Plan.converse_of_half v htag hoff (Or.inr rfl)]
    · refine run_congr_of_task hbyOn hbyPair (fun v => ?_) m
      rw [Plan.converse_of_half v htag hoff (Or.inl rfl), Plan.converse_of_halves v htag hoff]
  · exact ⟨parse_codeArguments name on pulse, parse_codeArguments name (on + 9) pulse,
      parse_pairArguments name on (on + 9) pulse⟩
  · intro f s onText offText honText hoffText
    exact Client.on_addByScan_fill htag hoff f s honText hoffText

end

/-- A hub that tells a code as hubs do, and no more. -/
def Stream.CaptureFrame.usual : CaptureFrame where
  armed := Text.bytes "KL/0.2 200 ok\n"
  before := "KL/0.2 200 Code:"
  gap := ' '
  after := " Pulse: 189"
  rest := [10]
  isLine_armed := ⟨Text.bytes "KL/0.2 200 ok", rfl, by decide +kernel⟩
  words_before := ⟨"KL/0.2", "200", "Code:", by decide +kernel⟩
  newline_before := by decide +kernel
  isBlank_gap := rfl
  gap_ne_newline := by decide
  isBlank_after c hc := by
    obtain rfl : ' ' = c := Option.mem_some_iff.1 hc
    rfl
  newline_after := by decide +kernel
  newline_rest _ hb := (Option.mem_some_iff.1 hb).symm

/-- The button of a negative code.  Typed on a command line, it needs the `--`. -/
theorem sameDevice_of_negative :
    let on : Int64 := -13
    let off : Int64 := -4
    let hub := CaptureFrame.usual.fill
    on &&& 0b1111 = 0b0011 ∧ SameDevice "fan" on off 189 ∧
      codeArguments "fan" off 189 = ["add", "code", "--", "fan", "-4", "189"] ∧
        hub "-4" = Text.bytes "KL/0.2 200 ok\nKL/0.2 200 Code: -4 Pulse: 189\n" := by
  intro on off hub
  have hon : on &&& 0b1111 = 0b0011 := by decide
  have hoff : on + 9 = off := by decide
  have hsame := (sameDevice_of_on hon "fan" 189).2
  rw [hoff] at hsame
  exact ⟨hon, hsame, by decide +kernel, by decide +kernel⟩

end LightHub
