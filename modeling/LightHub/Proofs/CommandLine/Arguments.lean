/-
  Arguments, as they are typed and as they are read.

  * `readValues_cons`: after a `--`, whatever reads as a value is one.
  * `codeArguments`, `pairArguments`: a radio device, to be added by one of its codes
    or by both; `parse_codeArguments`, `parse_pairArguments`: **they read back,
    whatever the name and the codes are.**
-/
import LightHub.CommandLine.Arguments
import LightHub.Proofs.Text.Numeral

namespace LightHub

namespace CommandLine

/-! ## Values -/

theorem read?_code (code : Int64) : Kind.code.read? (toString code.toInt) = some (.code code) := by
  rw [Kind.read?, Text.int64?_toString]
  rfl

theorem read?_pulse (pulse : UInt32) :
    Kind.pulse.read? (toString pulse.toNat) = some (.pulse pulse) := by
  have hmax : (pulse.toNat : Int) ≤ UInt32.size - 1 :=
    Int.le_sub_one_of_lt (Int.ofNat_lt.2 pulse.toNat_lt_size)
  have hnumeral := Text.signedNumeral_toString pulse.toNat
  have hread := Text.signed?_eq_some_iff.2 ⟨hnumeral, Int.natCast_nonneg pulse.toNat, hmax⟩
  change Text.signed? 0 (UInt32.size - 1) (toString pulse.toNat).toList = _ at hread
  rw [Kind.read?, hread]
  simp

/-- After the `--`, whatever reads as a value is one. -/
theorem readValues_cons {kind : Kind} {arg : String} {value : Value}
    (h : kind.read? arg = some value) (kinds : List Kind) (args : List String) :
    readValues true (kind :: kinds) (arg :: args) =
      (readValues true kinds args).map (value :: ·) := by
  rw [readValues]
  simp only [if_true, h]
  cases readValues true kinds args with
  | error e => rfl
  | ok values => rfl

/-! ## Ways to add a device -/

/-- The arguments that add a device by a code.  After the `--` a name or a code may
    begin with a dash. -/
def codeArguments (name : String) (code : Int64) (pulse : UInt32) : List String :=
  ["add", "code", "--", name, toString code.toInt, toString pulse.toNat]

/-- The arguments that add a device by both codes. -/
def pairArguments (name : String) (on off : Int64) (pulse : UInt32) : List String :=
  ["add", "pair", "--", name, toString on.toInt, toString off.toInt, toString pulse.toNat]

/-- A way to add a device is read by its word. -/
theorem parse_add {word : String} {args : List String} {t : Task} (hword : Word.of word = .plain)
    (h : readAdd word args = .ok t) :
    Invocation.parse ("add" :: word :: args) = .ok { action := .task t } := by
  have hoptions : readOptions {} none ("add" :: word :: args) = .ok ({}, "add" :: word :: args) :=
    rfl
  have haction : readAction "add" (word :: args) = .ok (.task t) := by
    simp only [readAction, readWord, hword]
    change (readAdd word args >>= fun t => pure (Action.task t)) = _
    rw [h]
    rfl
  rw [Invocation.parse, hoptions]
  change (readAction "add" (word :: args) >>= fun action => pure _) = _
  rw [haction]
  rfl

theorem parse_codeArguments (name : String) (code : Int64) (pulse : UInt32) :
    Invocation.parse (codeArguments name code pulse) =
      .ok { action := .task (.addCode name code pulse) } := by
  have hvalues : readValues false [.text, .code, .pulse]
      ["--", name, toString code.toInt, toString pulse.toNat] =
        .ok [.text name, .code code, .pulse pulse] := by
    change readValues true _ _ = _
    rw [readValues_cons rfl, readValues_cons (read?_code code), readValues_cons (read?_pulse pulse)]
    rfl
  refine parse_add rfl ?_
  simp only [readAdd, hvalues]
  rfl

theorem parse_pairArguments (name : String) (on off : Int64) (pulse : UInt32) :
    Invocation.parse (pairArguments name on off pulse) =
      .ok { action := .task (.addPair name on off pulse) } := by
  have hvalues : readValues false [.text, .code, .code, .pulse]
      ["--", name, toString on.toInt, toString off.toInt, toString pulse.toNat] =
        .ok [.text name, .code on, .code off, .pulse pulse] := by
    change readValues true _ _ = _
    rw [readValues_cons rfl, readValues_cons (read?_code on), readValues_cons (read?_code off),
      readValues_cons (read?_pulse pulse)]
    rfl
  refine parse_add rfl ?_
  simp only [readAdd, hvalues]
  rfl

end CommandLine

end LightHub
