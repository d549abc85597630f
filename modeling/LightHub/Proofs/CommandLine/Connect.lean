/-
  What a hub is connected with.

  * `Machine.Connects`: a run gets as far as connecting, with these settings;
    `Machine.Connects.received_iff`: to their hub.
  * `validate_of_connects`: **the settings that are connected with are those of the
    file, but for the hub of the options**, and only a port there can make them wrong.
-/
import LightHub.Proofs.CommandLine.Dialogue
import LightHub.Proofs.CommandLine.Edits
import LightHub.Proofs.Settings.Desk

namespace LightHub

variable {args : List String} {m : Machine} {inv : Invocation} {loaded s : Settings}

/-- A run gets as far as connecting, with settings `s` made of those that were loaded. -/
structure Machine.Connects (m : Machine) (args : List String) (inv : Invocation)
    (loaded s : Settings) : Prop where
  parse : Invocation.parse args = .ok inv
  load : Settings.load (inv.path m.configured m.home) m.shelf = .ok loaded
  step : ∃ plan, inv.step loaded = .ok (.connect s plan)

/-- The settings that are connected with are those of the file, but for the hub. -/
theorem Machine.Connects.eq_settings (h : m.Connects args inv loaded s) :
    s = inv.settings loaded := by
  obtain ⟨plan, hstep⟩ := h.step
  obtain ⟨t, htask, -⟩ := Invocation.ofTask_of_step hstep
  rw [Invocation.step_of_task htask] at hstep
  obtain ⟨plan', -, hsame⟩ := map_eq_ok_iff.1 hstep
  exact (Step.connect.inj hsame).1.symm

/-- Their hub is the one that is connected to. -/
theorem Machine.Connects.received_iff (h : m.Connects args inv loaded s) :
    (run args m).received ≠ none ↔ m.dial s.hub ≠ none := by
  obtain ⟨plan, hconnect⟩ := h.step
  have hstep : Settings.load (inv.path m.configured m.home) m.shelf >>= inv.step =
      .ok (.connect s plan) := bind_eq_ok_iff.2 ⟨loaded, h.load, hconnect⟩
  cases hdial : m.dial s.hub with
  | none =>
    rw [run_of_refused h.parse hstep hdial]
  | some hub =>
    rw [run_of_connect h.parse hstep hdial]
    exact iff_of_true nofun nofun

/-- **The settings that are connected with are those of the file, but for the hub of
    the options.**  A hub is sent something only by a run that connects to it.  The
    version that such a run speaks is the one that was loaded, and its settings can be
    connected with, unless the options name a hub at the port 0. -/
theorem validate_of_connects (args : List String) (m : Machine) :
    ((run args m).received ≠ none → ∃ inv loaded s, m.Connects args inv loaded s) ∧
    ∀ inv loaded s, m.Connects args inv loaded s →
      ((run args m).received ≠ none ↔ m.dial s.hub ≠ none) ∧
      s.protocol = loaded.protocol ∧ s.readTimeout = loaded.readTimeout ∧
      s.writeTimeout = loaded.writeTimeout ∧
      (s.validate = .ok () ↔ ∀ hub, inv.hub = some hub → Net.socketPort hub ≠ 0) := by
  refine ⟨fun hreceived => ?_, fun inv loaded s h => ⟨h.received_iff, ?_⟩⟩
  · obtain ⟨bytes, hbytes⟩ := Option.ne_none_iff_exists'.1 hreceived
    obtain ⟨inv, loaded, s, plan, hub, hparse, hload, hstep, -⟩ := connected_of_received hbytes
    exact ⟨inv, loaded, s, hparse, hload, plan, hstep⟩
  · have hloaded := (Settings.loadable_of_load h.load).hubPort
    obtain rfl := h.eq_settings
    rw [Settings.validate_eq_ok_iff, Invocation.settings]
    cases inv.hub with
    | none => exact ⟨rfl, rfl, rfl, iff_of_true hloaded nofun⟩
    | some hub =>
      refine ⟨rfl, rfl, rfl, fun hport hub' hsame => ?_, fun hport => hport hub rfl⟩
      obtain rfl := Option.some.inj hsame
      exact hport

/-- A file that names another hub, and a version that stays. -/
theorem validate_of_connects_listening :
    let args := ["--hub", "[::1]:2000", "scan"]
    let hub : Std.Net.SocketAddress := .v6 ⟨.ofParts 0 0 0 0 0 0 0 1, 2000⟩
    let inv : Invocation := { hub := some hub, action := .task .scan }
    let loaded : Settings := { Settings.default with protocol := ⟨0, 2⟩ }
    let s := loaded.setHub hub
    Machine.listening.Connects args inv loaded s ∧ s.protocol = ⟨0, 2⟩ ∧ s.validate = .ok () := by
  intro args hub inv loaded s
  have hconnects : Machine.listening.Connects args inv loaded s :=
    ⟨by decide +kernel, by decide +kernel, .sniff, by decide +kernel⟩
  obtain ⟨-, hprotocol, -, -, hvalid⟩ := (validate_of_connects args _).2 _ _ _ hconnects
  refine ⟨hconnects, hprotocol, hvalid.2 fun hub' hsame => ?_⟩
  obtain rfl : hub = hub' := Option.some.inj hsame
  decide

/-- The options can name the port 0, which neither a file nor an edit can. -/
theorem connects_of_portZero :
    let args := ["--hub", "127.0.0.1:0", "list"]
    let hub : Std.Net.SocketAddress := .v4 ⟨.ofParts 127 0 0 1, 0⟩
    let inv : Invocation := { hub := some hub, action := .task .list }
    let s := Settings.default.setHub hub
    Machine.fresh.Connects args inv .default s ∧ s.hub = hub ∧
      s.validate = .error (.settings .zeroPort) ∧
      (run args Machine.fresh).verdict = .failure (.transport .socket) :=
  ⟨⟨by decide +kernel, by decide +kernel, .plain .list, by decide +kernel⟩, rfl, rfl,
    by decide +kernel⟩

end LightHub
