/-
  Progress of a learner, on any session and with any writer.

  * `Deed`: what a step does to a session; `Stage.deed`: the deed of a stage.
  * `Next`: the chain of stages.  `step_of_terminal`, `step_forward`: a step goes one
    stage on, or has failed, and does nothing but its deed.
  * `Loops`: steps, one after the other, up to a stage where a loop stops;
    `Loops.unique`: there is one way to go.
  * `exists_loops_run`, `exists_loops_sniff`: a run and a sniff are such loops.
  * `Completes`: what every loop of a learner keeps to.
  * `progress`: **learners end**: after six steps and three lines at most.
-/
import LightHub.Proofs.Remote.Runs
import LightHub.Proofs.Stream.Reading

namespace LightHub

/-! ## Deeds -/

/-- What a step does to a session: it leaves it alone, tries to write one request, or
    reads one line. -/
inductive Deed where
  | nothing
  | write (c : Command)
  | read
  deriving DecidableEq

namespace Session

/-- The session after a deed, whatever the writer takes and the hub says. -/
def does (s : Session) : Deed → Session
  | .nothing => s
  | .write c => s.pushed (Text.bytes (c.line s.version)) s.unread
  | .read => { s with unread := (Stream.splitLine s.unread).2 }

@[simp]
theorem version_does (s : Session) (d : Deed) : (s.does d).version = s.version := by
  cases d <;> rfl

end Session

/-- A request is tried if it may be sent, and nothing is done if not. -/
def Command.deed (v : Version) (c : Command) : Deed :=
  if c.Sendable v then .write c else .nothing

theorem Session.snd_on_send (s : Session) (c : Command) :
    ((send c).on s).2 = s.does (c.deed s.version) := by
  unfold Command.deed
  split_ifs with hc
  · rw [on_send_eq_pushed hc]
    rfl
  · obtain ⟨e, he⟩ := on_send_of_not_sendable hc
    rw [he]
    rfl

theorem Session.snd_on_readReply (s : Session) : (readReply.on s).2 = s.does .read := by
  rw [does, ← Stream.readReply_snd]
  rfl

/-- What comes after does nothing to the session. -/
theorem Exchange.snd_on_bind {α β : Type} {x : Exchange α} {f : α → Exchange β}
    (hf : ∀ a t, ((f a).on t).2 = t) (s : Session) : ((x >>= f).on s).2 = (x.on s).2 := by
  rw [on_bind]
  rcases x.on s with ⟨e | a, t⟩
  · rfl
  · exact hf a t

/-- The deed of a step from a stage. -/
def Stage.deed (v : Version) : Stage → Deed
  | idle => Command.sniff.deed v
  | awaitingArm | awaitingCapture | awaitingAddAck _ => .read
  | derived device => device.command.deed v
  | validating _ | done _ | failed => .nothing

/-- The deeds of steps from these stages. -/
def deeds (v : Version) (stages : List Stage) : List Deed :=
  stages.map fun stage => stage.deed v

theorem Command.deed_ne_read (v : Version) (c : Command) : c.deed v ≠ .read := by
  unfold deed
  split_ifs <;> exact nofun

namespace Stage

/-- How many lines a step reads. -/
def reads : Stage → Nat
  | awaitingArm | awaitingCapture | awaitingAddAck _ => 1
  | _ => 0

/-- How many lines are left to be read up to `done`. -/
def lines : Stage → Nat
  | idle | awaitingArm => 3
  | awaitingCapture => 2
  | validating _ | derived _ | awaitingAddAck _ => 1
  | done _ | failed => 0

/-- A code has been captured, or the run is over. -/
def isPastCapture : Stage → Bool
  | idle | awaitingArm | awaitingCapture | validating _ => false
  | derived _ | awaitingAddAck _ | done _ | failed => true

theorem left_pos {stage : Stage} (h : stage.isTerminal = false) : 0 < stage.left := by
  cases stage with
  | done _ | failed => exact absurd h nofun
  | _ => exact Nat.succ_pos _

theorem left_le (stage : Stage) : stage.left ≤ 6 := by
  cases stage <;> simp [left]

theorem lines_le (stage : Stage) : stage.lines ≤ 3 := by
  cases stage <;> simp [lines]

theorem reads_le_lines (stage : Stage) : stage.reads ≤ stage.lines := by
  cases stage <;> simp [reads, lines]

theorem count_read_deed (v : Version) (stage : Stage) :
    [stage.deed v].count .read = stage.reads := by
  have hsend (c : Command) : [c.deed v].count .read = 0 :=
    List.count_eq_zero.2 fun hmem => c.deed_ne_read v (List.mem_singleton.1 hmem).symm
  cases stage with
  | idle | derived device => exact hsend _
  | _ => rfl

end Stage

namespace Learner

/-! ## Steps -/

/-- The chain of stages, in a run under the device name `name`. -/
inductive Next (name : String) : Stage → Stage → Prop
  | arm : Next name .idle .awaitingArm
  | listen : Next name .awaitingArm .awaitingCapture
  | capture (learned : Learned) : Next name .awaitingCapture (.validating learned)
  | derive {learned : Learned} {device : Registration} :
      Registration.ofLearned name learned = .ok device →
      Next name (.validating learned) (.derived device)
  | add (device : Registration) : Next name (.derived device) (.awaitingAddAck device)
  | finish (device : Registration) : Next name (.awaitingAddAck device) (.done device)

section

variable {name : String} {stage next : Stage} {s : Session}

/-- The chain goes down to `done`, one by one. -/
theorem Next.left_eq (h : Next name stage next) : stage.left = next.left + 1 := by
  cases h <;> rfl

theorem Next.ne_failed (h : Next name stage next) : next ≠ .failed := by
  cases h <;> exact nofun

/-- A line that is read is one fewer to be read. -/
theorem Next.lines_eq (h : Next name stage next) : stage.lines = stage.reads + next.lines := by
  cases h <;> rfl

/-- A step does the deed of its stage and nothing else, whether it fails or not. -/
theorem snd_on_advance : ((advance name stage).on s).2 = s.does (stage.deed s.version) := by
  cases stage with
  | idle => exact (Exchange.snd_on_bind (fun _ _ => rfl) s).trans (s.snd_on_send _)
  | derived device => exact (Exchange.snd_on_bind (fun _ _ => rfl) s).trans (s.snd_on_send _)
  | awaitingArm | awaitingAddAck device =>
    refine (Exchange.snd_on_bind (fun r t => ?_) s).trans s.snd_on_readReply
    split <;> rfl
  | awaitingCapture =>
    refine (Exchange.snd_on_bind (fun r t => ?_) s).trans s.snd_on_readReply
    exact Exchange.snd_on_bind (fun _ _ => rfl) t
  | validating learned => exact Exchange.snd_on_bind (fun _ _ => rfl) s
  | done device | failed => rfl

/-- A step that succeeds goes one stage on. -/
theorem next_of_advance {t : Session} (hstage : stage.isTerminal = false)
    (h : (advance name stage).on s = (.ok next, t)) : Next name stage next := by
  cases stage with
  | idle =>
    obtain ⟨_, _, -, h⟩ := Exchange.on_bind_eq_ok_iff.1 h
    cases h
    exact .arm
  | awaitingArm =>
    obtain ⟨r, _, -, h⟩ := Exchange.on_bind_eq_ok_iff.1 h
    split at h <;> cases h
    exact .listen
  | awaitingCapture =>
    obtain ⟨r, _, -, h⟩ := Exchange.on_bind_eq_ok_iff.1 h
    obtain ⟨learned, _, -, h⟩ := Exchange.on_bind_eq_ok_iff.1 h
    cases h
    exact .capture learned
  | validating learned =>
    obtain ⟨device, _, hdevice, h⟩ := Exchange.on_bind_eq_ok_iff.1 h
    cases h
    exact .derive (congrArg Prod.fst hdevice)
  | derived device =>
    obtain ⟨_, _, -, h⟩ := Exchange.on_bind_eq_ok_iff.1 h
    cases h
    exact .add device
  | awaitingAddAck device =>
    obtain ⟨r, _, -, h⟩ := Exchange.on_bind_eq_ok_iff.1 h
    split at h <;> cases h
    exact .finish device
  | done device | failed => exact absurd hstage nofun

end

variable {l m : Learner} {s t : Session}

/-- A terminal stage is kept, and the session is left alone. -/
theorem step_of_terminal (h : l.stage.isTerminal = true) : l.step.run s = ((.ok (), l), s) := by
  obtain ⟨name, stage⟩ := l
  cases stage with
  | done device | failed => rfl
  | _ => exact absurd h nofun

/-- **Any other step goes one stage on, or has failed**, and does its one deed. -/
theorem step_forward (h : l.stage.isTerminal = false) :
    let t := s.does (l.stage.deed s.version)
    (∃ e, l.step.run s = ((.error e, ⟨l.name, .failed⟩), t)) ∨
      ∃ next, Next l.name l.stage next ∧ l.step.run s = ((.ok (), ⟨l.name, next⟩), t) := by
  intro t
  have ht : ((advance l.name l.stage).on s).2 = t := snd_on_advance
  rcases hadvance : (advance l.name l.stage).on s with ⟨e | next, u⟩
  · rw [hadvance] at ht
    obtain rfl : u = t := ht
    exact Or.inl ⟨e, run_step l hadvance⟩
  · rw [hadvance] at ht
    obtain rfl : u = t := ht
    exact Or.inr ⟨next, next_of_advance h hadvance, run_step l hadvance⟩

theorem of_step_error {e : Fault} (hstage : l.stage.isTerminal = false)
    (h : l.step.run s = ((.error e, m), t)) :
    m = ⟨l.name, .failed⟩ ∧ t = s.does (l.stage.deed s.version) := by
  rcases step_forward (s := s) hstage with ⟨f, hstep⟩ | ⟨next, -, hstep⟩
  · cases hstep.symm.trans h
    exact ⟨rfl, rfl⟩
  · cases hstep.symm.trans h

theorem of_step_ok (hstage : l.stage.isTerminal = false) (h : l.step.run s = ((.ok (), m), t)) :
    ∃ next, m = ⟨l.name, next⟩ ∧ Next l.name l.stage next ∧
      t = s.does (l.stage.deed s.version) := by
  rcases step_forward (s := s) hstage with ⟨f, hstep⟩ | ⟨next, hnext, hstep⟩
  · cases hstep.symm.trans h
  · cases hstep.symm.trans h
    exact ⟨next, rfl, hnext, rfl⟩

/-! ## Loops -/

/-- Steps, one after the other.  A loop takes none where `stop` has its answer, and ends
    with the first one that fails; `stages` are those that steps were taken from. -/
inductive Loops {α : Type} (stop : Stage → Option (Except Fault α)) :
    Learner → Session → List Stage → Learner → Except Fault α → Session → Prop
  | stop {l : Learner} {s : Session} {r : Except Fault α} : stop l.stage = some r →
      Loops stop l s [] l r s
  | fail {l m : Learner} {s t : Session} {e : Fault} : stop l.stage = none →
      l.step.run s = ((.error e, m), t) → Loops stop l s [l.stage] m (.error e) t
  | step {l m last : Learner} {s t u : Session} {stages : List Stage} {r : Except Fault α} :
      stop l.stage = none → l.step.run s = ((.ok (), m), t) → Loops stop m t stages last r u →
      Loops stop l s (l.stage :: stages) last r u

/-- A run stops where it is over, with the device that has been added. -/
def added? (name : String) : Stage → Option (Except Fault Registration)
  | .done device => some (.ok device)
  | .failed => some (.error (.usage (.learningFailed name)))
  | _ => none

/-- A sniff stops where a code is captured, and beyond. -/
def heard? (name : String) : Stage → Option (Except Fault Learned)
  | .idle | .awaitingArm | .awaitingCapture => none
  | .validating learned => some (.ok learned)
  | _ => some (.error (.usage (.pastCapture name)))

/-- A loop that stops at the terminal stages, if not before. -/
def Stops {α : Type} (stop : Stage → Option (Except Fault α)) : Prop :=
  ∀ stage, stop stage = none → stage.isTerminal = false

theorem added?_eq_none_iff {name : String} {stage : Stage} :
    added? name stage = none ↔ stage.isTerminal = false := by
  cases stage <;> simp [added?, Stage.isTerminal]

theorem stops_added? (name : String) : Stops (added? name) :=
  fun _ => added?_eq_none_iff.1

theorem stops_heard? (name : String) : Stops (heard? name) := by
  intro stage h
  cases stage with
  | idle | awaitingArm | awaitingCapture => rfl
  | _ => cases h

section

variable {α : Type} {stop : Stage → Option (Except Fault α)} {l m last : Learner}
  {s t : Session} {stages : List Stage} {r : Except Fault α}

/-- A loop takes at most the steps that are left. -/
theorem Loops.length_le (hstop : Stops stop) (h : Loops stop l s stages last r t) :
    stages.length ≤ l.stage.left := by
  induction h with
  | stop _ => exact Nat.zero_le _
  | fail hnone _ => exact Stage.left_pos (hstop _ hnone)
  | step hnone hstep _ ih =>
    obtain ⟨next, rfl, hnext, -⟩ := of_step_ok (hstop _ hnone) hstep
    rw [List.length_cons, hnext.left_eq]
    exact Nat.succ_le_succ ih

/-- A loop reads at most the lines that are left. -/
theorem Loops.count_read_le (hstop : Stops stop) (v : Version)
    (h : Loops stop l s stages last r t) : (deeds v stages).count .read ≤ l.stage.lines := by
  induction h with
  | stop _ => exact Nat.zero_le _
  | @fail l =>
    change [l.stage.deed v].count .read ≤ l.stage.lines
    rw [Stage.count_read_deed]
    exact l.stage.reads_le_lines
  | @step l m last s t u stages r hnone hstep _ ih =>
    obtain ⟨next, rfl, hnext, -⟩ := of_step_ok (hstop _ hnone) hstep
    have hcount : ([l.stage.deed v] ++ deeds v stages).count .read ≤ l.stage.lines := by
      rw [List.count_append, Stage.count_read_deed, hnext.lines_eq]
      exact Nat.add_le_add_left ih _
    exact hcount

/-- A loop does the deeds of its steps, one after the other. -/
theorem Loops.session_eq (hstop : Stops stop) (h : Loops stop l s stages last r t) :
    t = (deeds s.version stages).foldl Session.does s := by
  induction h with
  | stop _ => rfl
  | fail hnone hstep =>
    obtain ⟨-, rfl⟩ := of_step_error (hstop _ hnone) hstep
    rfl
  | step hnone hstep _ ih =>
    obtain ⟨next, -, -, rfl⟩ := of_step_ok (hstop _ hnone) hstep
    rw [ih, Session.version_does]
    rfl

/-- There is one way for a loop to go. -/
theorem Loops.unique {stages' : List Stage} {last' : Learner} {r' : Except Fault α} {t' : Session}
    (h : Loops stop l s stages last r t) (h' : Loops stop l s stages' last' r' t') :
    stages = stages' ∧ last = last' ∧ r = r' ∧ t = t' := by
  induction h generalizing stages' with
  | stop hsome =>
    cases h' with
    | stop hsome' => exact ⟨rfl, rfl, Option.some.inj (hsome.symm.trans hsome'), rfl⟩
    | fail hnone _ | step hnone _ _ => cases hsome.symm.trans hnone
  | fail hnone hstep =>
    cases h' with
    | stop hsome => cases hsome.symm.trans hnone
    | fail _ hstep' =>
      cases hstep.symm.trans hstep'
      exact ⟨rfl, rfl, rfl, rfl⟩
    | step _ hstep' _ => cases hstep.symm.trans hstep'
  | step hnone hstep _ ih =>
    cases h' with
    | stop hsome => cases hsome.symm.trans hnone
    | fail _ hstep' => cases hstep.symm.trans hstep'
    | step _ hstep' hrest =>
      cases hstep.symm.trans hstep'
      obtain ⟨rfl, hmore⟩ := ih hrest
      exact ⟨rfl, hmore⟩

/-- Steps are taken only where the loop does not stop. -/
theorem Loops.stop_eq_none (h : Loops stop l s stages last r t) :
    ∀ stage ∈ stages, stop stage = none := by
  induction h with
  | stop _ => exact List.forall_mem_nil _
  | fail hnone _ => exact List.forall_mem_singleton.2 hnone
  | step hnone _ _ ih => exact List.forall_mem_cons.2 ⟨hnone, ih⟩

/-- The stages of a loop are no further from the end than its start. -/
theorem Loops.left_le (hstop : Stops stop) (h : Loops stop l s stages last r t) :
    ∀ stage ∈ stages, stage.left ≤ l.stage.left := by
  induction h with
  | stop _ => exact List.forall_mem_nil _
  | fail _ _ => exact List.forall_mem_singleton.2 (Nat.le_refl _)
  | step hnone hstep _ ih =>
    obtain ⟨next, rfl, hnext, -⟩ := of_step_ok (hstop _ hnone) hstep
    refine List.forall_mem_cons.2 ⟨Nat.le_refl _, fun stage hmem => ?_⟩
    rw [hnext.left_eq]
    exact Nat.le_succ_of_le (ih stage hmem)

/-- A step of an exchange is a step of the loop. -/
theorem exists_loops_of_advance {f : Stage → Exchange α} (hnone : stop l.stage = none)
    (hf : ∀ next t, (advance l.name l.stage).on s = (.ok next, t) → ∃ stages last,
      Loops stop ⟨l.name, next⟩ t stages last ((f next).on t).1 ((f next).on t).2) :
    ∃ stages last, Loops stop l s stages last
      ((advance l.name l.stage >>= f).on s).1 ((advance l.name l.stage >>= f).on s).2 := by
  rw [Exchange.on_bind]
  rcases hadvance : (advance l.name l.stage).on s with ⟨e | next, t⟩
  · exact ⟨_, _, .fail hnone (run_step l hadvance)⟩
  · obtain ⟨stages, last, hloops⟩ := hf next t hadvance
    exact ⟨_, last, .step hnone (run_step l hadvance) hloops⟩

end

/-! ## Runs -/

variable {stages heard : List Stage} {last listener : Learner}

theorem added?_of_terminal (h : l.stage.isTerminal = true) :
    added? l.name l.stage = some l.outcome := by
  obtain ⟨name, stage⟩ := l
  cases stage with
  | done device | failed => rfl
  | _ => exact absurd h nofun

/-- A bounded run is a loop if its bound leaves room for every step. -/
theorem exists_loops_runFor (n : Nat) (l : Learner) (s : Session) (hn : l.stage.left ≤ n) :
    ∃ stages last, Loops (added? l.name) l s stages last ((runFor n l).on s).1
      ((runFor n l).on s).2 := by
  induction n generalizing l s with
  | zero =>
    cases hstage : l.stage.isTerminal with
    | true => exact ⟨[], l, .stop (added?_of_terminal hstage)⟩
    | false => exact absurd (Stage.left_pos hstage) (Nat.not_lt.2 hn)
  | succ n ih =>
    rw [runFor]
    split_ifs with hstage
    · exact ⟨[], l, .stop (added?_of_terminal hstage)⟩
    · have hstage : l.stage.isTerminal = false := Bool.eq_false_iff.2 hstage
      refine exists_loops_of_advance (added?_eq_none_iff.2 hstage) fun next t hadvance => ?_
      rw [(next_of_advance hstage hadvance).left_eq] at hn
      exact ih ⟨l.name, next⟩ t (Nat.le_of_succ_le_succ hn)

/-- **A run is a loop of steps** up to where it is over. -/
theorem exists_loops_run (l : Learner) (s : Session) :
    ∃ stages last, Loops (added? l.name) l s stages last (l.run.on s).1 (l.run.on s).2 :=
  exists_loops_runFor _ l s (Nat.le_refl _)

/-- A bounded sniff is a loop if its bound leaves room for every step. -/
theorem exists_loops_sniffFor (n : Nat) (l : Learner) (s : Session)
    (hn : l.stage.left ≤ n + 3) :
    ∃ stages last, Loops (heard? l.name) l s stages last ((sniffFor n l).on s).1
      ((sniffFor n l).on s).2 := by
  fun_induction sniffFor n l generalizing s with
  | case1 n l learned h => exact ⟨[], l, .stop (by rw [h]; rfl)⟩
  | case2 l n h ih | case3 l n h ih | case4 l n h ih =>
    refine exists_loops_of_advance (by rw [h]; rfl) fun next t hadvance => ?_
    have hstage : l.stage.isTerminal = false := by rw [h]; rfl
    rw [(next_of_advance hstage hadvance).left_eq] at hn
    exact ih next t (Nat.le_of_succ_le_succ hn)
  | case5 n l hcode hidle harm hcapture =>
    -- the bound is not what stops it: before a code is captured, it leaves room for a step
    have hbound (h : 3 < l.stage.left) : ∃ n', n = n' + 1 :=
      Nat.exists_eq_succ_of_ne_zero (by omega)
    refine ⟨[], l, .stop ?_⟩
    cases hl : l.stage with
    | idle =>
      obtain ⟨n, rfl⟩ := hbound (by simp [hl, Stage.left])
      exact (hidle n hl rfl).elim
    | awaitingArm =>
      obtain ⟨n, rfl⟩ := hbound (by simp [hl, Stage.left])
      exact (harm n hl rfl).elim
    | awaitingCapture =>
      obtain ⟨n, rfl⟩ := hbound (by simp [hl, Stage.left])
      exact (hcapture n hl rfl).elim
    | validating learned => exact (hcode learned hl).elim
    | derived _ | awaitingAddAck _ | done _ | failed => rfl

/-- **A sniff is a loop of steps** up to where a code is captured. -/
theorem exists_loops_sniff (l : Learner) (s : Session) :
    ∃ stages last, Loops (heard? l.name) l s stages last (l.sniff.on s).1 (l.sniff.on s).2 :=
  exists_loops_sniffFor 3 l s l.stage.left_le

/-- A run ends well exactly where the device is added. -/
theorem Loops.eq_ok_iff_done {name : String} {r : Except Fault Registration}
    (h : Loops (added? name) l s stages last r t) (device : Registration) :
    r = .ok device ↔ last.stage = .done device := by
  induction h with
  | @stop l s r hsome =>
    cases hl : l.stage <;> rw [hl] at hsome <;> cases hsome <;> simp
  | fail hnone hstep =>
    obtain ⟨rfl, -⟩ := of_step_error (stops_added? name _ hnone) hstep
    exact iff_of_false nofun nofun
  | step _ _ _ ih => exact ih

/-- A run that fails, fails in its last step, unless it has failed before it starts. -/
theorem Loops.exists_step_error {name : String} {r : Except Fault Registration} {e : Fault}
    (h : Loops (added? name) l s stages last r t) (hl : l.stage ≠ .failed) (hr : r = .error e) :
    ∃ before stage, stages = before ++ [stage] ∧
      (⟨l.name, stage⟩ : Learner).step.run ((deeds s.version before).foldl Session.does s) =
        ((.error e, ⟨l.name, .failed⟩), t) := by
  induction h with
  | @stop l s r hsome =>
    rw [hr] at hsome
    cases hstage : l.stage <;> rw [hstage] at hsome <;> cases hsome
    exact absurd hstage hl
  | @fail l m s t f hnone hstep =>
    obtain rfl := Except.error.inj hr
    obtain ⟨rfl, -⟩ := of_step_error (stops_added? name _ hnone) hstep
    exact ⟨[], l.stage, rfl, hstep⟩
  | @step l m last s t u stages r hnone hstep _ ih =>
    obtain ⟨next, rfl, hnext, rfl⟩ := of_step_ok (stops_added? name _ hnone) hstep
    obtain ⟨before, stage, rfl, herror⟩ := ih hnext.ne_failed hr
    rw [Session.version_does] at herror
    exact ⟨l.stage :: before, stage, rfl, herror⟩

theorem Loops.validating_notMem {α : Type} {stop : Stage → Option (Except Fault α)}
    {r : Except Fault α} (hstop : Stops stop) (h : Loops stop l s stages last r t)
    (hl : l.stage.left < 3) (learned : Learned) : .validating learned ∉ stages :=
  fun hmem => absurd hl (Nat.not_lt.2 (h.left_le hstop _ hmem))

/-- A run that starts from a code comes to no other. -/
theorem Loops.validating_mem_iff {name : String} {r : Except Fault Registration}
    {learned learned' : Learned} (h : Loops (added? name) l s stages last r t)
    (hl : l.stage = .validating learned') : .validating learned ∈ stages ↔ learned' = learned := by
  have hstop := stops_added? name
  cases h with
  | stop hsome =>
    rw [hl] at hsome
    cases hsome
  | fail _ _ => simp [hl, eq_comm]
  | step hnone hstep hrest =>
    obtain ⟨next, rfl, hnext, -⟩ := of_step_ok (hstop _ hnone) hstep
    have hleft : next.left < 3 := by
      rw [hl] at hnext
      exact Nat.lt_of_succ_le (Nat.le_of_eq hnext.left_eq.symm)
    simp [hl, hrest.validating_notMem hstop hleft, eq_comm]

theorem validating_ne_of_heard? {name : String} {stage : Stage} (h : heard? name stage = none)
    (learned : Learned) : .validating learned ≠ stage := by
  rintro rfl
  cases h

/-- **A sniff brings the code that a run comes to.** -/
theorem Loops.eq_ok_iff_validating {name name' : String} {r : Except Fault Registration}
    {r' : Except Fault Learned} {u : Session} (hrun : Loops (added? name) l s stages last r t)
    (hsniff : Loops (heard? name') l s heard listener r' u) (learned : Learned) :
    r' = .ok learned ↔ .validating learned ∈ stages := by
  -- by induction on the sniff: the run takes the same steps, and more from there on
  induction hsniff generalizing stages with
  | @stop l s r' hsome =>
    cases hl : l.stage with
    | idle | awaitingArm | awaitingCapture =>
      rw [hl] at hsome
      cases hsome
    | validating learned' =>
      rw [hl] at hsome
      obtain rfl := Option.some.inj hsome
      rw [hrun.validating_mem_iff hl]
      exact ⟨Except.ok.inj, congrArg Except.ok⟩
    | derived _ | awaitingAddAck _ | done _ | failed =>
      have hleft : l.stage.left < 3 := by simp [hl, Stage.left]
      rw [hl] at hsome
      obtain rfl := Option.some.inj hsome
      exact iff_of_false nofun (hrun.validating_notMem (stops_added? name) hleft learned)
  | @fail l m s u e hnone hstep =>
    refine iff_of_false nofun ?_
    cases hrun with
    | stop _ => exact List.not_mem_nil
    | fail _ _ =>
      rw [List.mem_singleton]
      exact validating_ne_of_heard? hnone learned
    | step _ hstep' _ => cases hstep.symm.trans hstep'
  | @step l m listener s w u heard r' hnone hstep _ ih =>
    cases hrun with
    | stop hsome =>
      have hgoes : added? name _ = none := added?_eq_none_iff.2 (stops_heard? name' _ hnone)
      cases hsome.symm.trans hgoes
    | fail _ hstep' => cases hstep.symm.trans hstep'
    | step _ hstep' hrest =>
      cases hstep.symm.trans hstep'
      have hne := validating_ne_of_heard? hnone learned
      exact (ih hrest).trans (by simp [hne])

/-! ## Progress -/

/-- What a loop of a learner keeps to, whatever it comes to. -/
structure Completes {α : Type} (stop : Stage → Option (Except Fault α)) (l : Learner)
    (x : Exchange α) (s : Session) (stages : List Stage) (last : Learner) : Prop where
  /-- It is the loop, with these stages. -/
  loops : Loops stop l s stages last (x.on s).1 (x.on s).2
  length_le : stages.length ≤ 6
  count_read_le : (deeds s.version stages).count .read ≤ 3
  /-- It does what its steps do, and nothing else. -/
  session_eq : (x.on s).2 = (deeds s.version stages).foldl Session.does s

theorem Loops.completes {α : Type} {stop : Stage → Option (Except Fault α)} {x : Exchange α}
    (hstop : Stops stop) (h : Loops stop l s stages last (x.on s).1 (x.on s).2) :
    Completes stop l x s stages last where
  loops := h
  length_le := Nat.le_trans (h.length_le hstop) l.stage.left_le
  count_read_le := Nat.le_trans (h.count_read_le hstop s.version) l.stage.lines_le
  session_eq := h.session_eq hstop

/-- A learner that has failed before it starts is not run. -/
theorem on_run_of_failed (h : l.stage = .failed) :
    l.run.on s = (.error (.usage (.learningFailed l.name)), s) := by
  obtain ⟨stages, last, hloops⟩ := exists_loops_run l s
  have hstop : added? l.name l.stage = some (.error (.usage (.learningFailed l.name))) := by
    rw [h]
    rfl
  obtain ⟨-, -, hresult, hsession⟩ := hloops.unique (.stop hstop)
  exact Prod.ext hresult hsession

/-- A learner that is past its capture does not listen. -/
theorem on_sniff_of_isPastCapture (h : l.stage.isPastCapture = true) :
    l.sniff.on s = (.error (.usage (.pastCapture l.name)), s) := by
  obtain ⟨stages, last, hloops⟩ := exists_loops_sniff l s
  have hstop : heard? l.name l.stage = some (.error (.usage (.pastCapture l.name))) := by
    cases hl : l.stage <;> rw [hl] at h <;> first | rfl | cases h
  obtain ⟨-, -, hresult, hsession⟩ := hloops.unique (.stop hstop)
  exact Prod.ext hresult hsession

/-- Up to a capture, the only request is the one to listen. -/
theorem Loops.eq_sniff_of_write {name : String} {r : Except Fault Learned} {v : Version}
    (h : Loops (heard? name) l s heard listener r t) {c : Command}
    (hc : .write c ∈ deeds v heard) : c = .sniff := by
  obtain ⟨stage, hmem, hdeed⟩ := List.mem_map.1 hc
  have hnone := h.stop_eq_none stage hmem
  cases stage with
  | idle =>
    unfold Stage.deed Command.deed at hdeed
    split_ifs at hdeed
    exact (Deed.write.inj hdeed).symm
  | awaitingArm | awaitingCapture => cases hdeed
  | _ => cases hnone

/-- **Learners end.**  A step from a terminal stage does nothing; any other one goes one
    stage on or has failed, and tries to write one request or reads one line at most.  So
    a run takes at most six steps and reads at most three lines, whatever the hub says and
    the writer takes.  It comes to a device exactly if it is done with it, and fails with
    the fault of its last step, or at once.  A sniff is the first half of it: it comes to
    the code that the run comes to, and adds nothing. -/
theorem progress (l : Learner) (s : Session) :
    (l.stage.isTerminal = true → l.step.run s = ((.ok (), l), s)) ∧
      (l.stage.isTerminal = false →
        let t := s.does (l.stage.deed s.version)
        (∃ e, l.step.run s = ((.error e, ⟨l.name, .failed⟩), t)) ∨
          ∃ next, Next l.name l.stage next ∧ l.step.run s = ((.ok (), ⟨l.name, next⟩), t)) ∧
      ∃ stages last, Completes (added? l.name) l l.run s stages last ∧
        (∀ device, (l.run.on s).1 = .ok device ↔ last.stage = .done device) ∧
        (l.stage = .failed → l.run.on s = (.error (.usage (.learningFailed l.name)), s)) ∧
        (∀ e, l.stage ≠ .failed → (l.run.on s).1 = .error e →
          ∃ before stage, stages = before ++ [stage] ∧
            (⟨l.name, stage⟩ : Learner).step.run
                ((deeds s.version before).foldl Session.does s) =
              ((.error e, ⟨l.name, .failed⟩), (l.run.on s).2)) ∧
        ∃ heard listener, Completes (heard? l.name) l l.sniff s heard listener ∧
          (∀ learned, (l.sniff.on s).1 = .ok learned ↔ .validating learned ∈ stages) ∧
          (∀ c, .write c ∈ deeds s.version heard → c = .sniff) ∧
          (l.stage.isPastCapture = true →
            l.sniff.on s = (.error (.usage (.pastCapture l.name)), s)) := by
  refine ⟨step_of_terminal, step_forward, ?_⟩
  obtain ⟨stages, last, hrun⟩ := exists_loops_run l s
  obtain ⟨heard, listener, hsniff⟩ := exists_loops_sniff l s
  refine ⟨stages, last, hrun.completes (stops_added? _), hrun.eq_ok_iff_done, on_run_of_failed,
    fun e hl he => hrun.exists_step_error hl he, heard, listener,
    hsniff.completes (stops_heard? _), hrun.eq_ok_iff_validating hsniff, ?_,
    on_sniff_of_isPastCapture⟩
  intro c hc
  exact hsniff.eq_sniff_of_write hc

end Learner

end LightHub
