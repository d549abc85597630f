/-
  What exchanges take off the stream.

  * `Stream.Whole`: whole lines.
  * `Exchange.Takes`: an exchange takes bytes off the front of what is unread,
    line by line.  Nothing after whole lines makes a difference to it, and a last
    line without its end is as good as a whole one.
  * `Exchange.LineWise`: it does so on every session.
  * `Takes.bind`: line by line, and then line by line.
  * `Operation.lineWise_perform`: **every operation that brings one answer reads
    line by line.**
-/
import LightHub.Proofs.Client.Remote
import LightHub.Proofs.Stream.Reading
import LightHub.Script

namespace LightHub

/-! ## Whole lines -/

namespace Stream

/-- Whole lines, each with its newline. -/
def Whole (s : List UInt8) : Prop :=
  ∀ b ∈ s.getLast?, b = 10

instance (s : List UInt8) : Decidable (Whole s) :=
  inferInstanceAs (Decidable (∀ b ∈ s.getLast?, b = 10))

theorem whole_nil : Whole [] := nofun

theorem whole_concat (body : List UInt8) : Whole (body ++ [10]) := by
  intro b hb
  rw [List.getLast?_concat, Option.mem_some_iff] at hb
  exact hb.symm

theorem Whole.append {s t : List UInt8} (hs : Whole s) (ht : Whole t) : Whole (s ++ t) := by
  intro b hb
  rw [List.getLast?_append, Option.mem_def, Option.or_eq_some_iff] at hb
  rcases hb with hb | ⟨-, hb⟩
  · exact ht b hb
  · exact hs b hb

theorem Whole.right {s t : List UInt8} (h : Whole (s ++ t)) : Whole t := by
  intro b hb
  apply h b
  rw [List.getLast?_append, Option.mem_def.1 hb]
  rfl

/-- A line is whole, or it is all there is. -/
theorem splitLine_eq (s : List UInt8) :
    (∃ body rest, 10 ∉ body ∧ s = body ++ 10 :: rest ∧ splitLine s = (body ++ [10], rest)) ∨
      (10 ∉ s ∧ splitLine s = (s, [])) := by
  by_cases h : 10 ∈ s
  · obtain ⟨body, rest, hs, hbody⟩ := List.eq_append_cons_of_mem h
    exact Or.inl ⟨body, rest, hbody, hs, hs ▸ splitLine_append_newline hbody rest⟩
  · exact Or.inr ⟨h, splitLine_eq_self h⟩

/-- A line that reads without its end reads the same with it. -/
theorem lineText_append_of_ok {line : List UInt8} {t : String} (h : lineText line = .ok t)
    (returns : Nat) : lineText (line ++ lineEnd returns) = .ok t := by
  unfold lineText at h
  split at h
  · rename_i text htext
    obtain rfl := Text.ofBytes?_eq_some_iff.1 htext
    rw [lineText_append_lineEnd]
    exact h
  · cases h

end Stream

/-! ## Taking lines -/

/-- The session with `unread` left to read. -/
def Session.withUnread (s : Session) (unread : List UInt8) : Session :=
  { s with unread }

@[simp]
theorem Session.unread_withUnread (s : Session) (u : List UInt8) : (s.withUnread u).unread = u :=
  rfl

@[simp]
theorem Session.withUnread_withUnread (s : Session) (u w : List UInt8) :
    (s.withUnread u).withUnread w = s.withUnread w :=
  rfl

@[simp]
theorem Session.withUnread_unread (s : Session) : s.withUnread s.unread = s := rfl

namespace Exchange

open LightHub.Stream (Whole lineEnd)

variable {α β : Type} {x : Exchange α} {s : Session}

/-- On the session `s`, the exchange takes `used` off the front of the stream. -/
structure Takes (x : Exchange α) (s : Session) (used : List UInt8) : Prop where
  front : s.unread = used ++ (x.on s).2.unread
  /-- Whole lines are taken, or all there is. -/
  lines : Whole used ∨ (x.on s).2.unread = []
  /-- What comes after whole lines makes no difference. -/
  ahead : Whole used → (x.on s).1 ≠ .error (.transport .ended) → ∀ w,
    x.on (s.withUnread (used ++ w)) = ((x.on s).1, (x.on s).2.withUnread w)
  /-- A last line without its end is as good as a whole one. -/
  cut : ¬ Whole used → ∀ a, (x.on s).1 = .ok a → ∀ returns w,
    x.on (s.withUnread (used ++ (lineEnd returns ++ w))) = (.ok a, (x.on s).2.withUnread w)

/-- On every session, the exchange takes lines off the front of the stream. -/
def LineWise (x : Exchange α) : Prop :=
  ∀ s : Session, ∃ used, Takes x s used

/-- An exchange that does not read takes nothing. -/
theorem lineWise_of_withUnread
    (h : ∀ s w, x.on (s.withUnread w) = ((x.on s).1, (x.on s).2.withUnread w)) : LineWise x := by
  intro s
  have hunread : (x.on s).2.unread = s.unread := by
    have hs := congrArg (fun p => p.2.unread) (h s s.unread)
    simpa using hs
  exact ⟨[], hunread.symm, Or.inl Stream.whole_nil, fun _ _ w => h s w,
    fun hcut => absurd Stream.whole_nil hcut⟩

/-- What follows an exchange that has failed makes no difference. -/
theorem Takes.bind_error {f : α → Exchange β} {used : List UInt8} {e : Fault} {t : Session}
    (hx : Takes x s used) (hon : x.on s = (.error e, t)) : Takes (x >>= f) s used := by
  have hbind : (x >>= f).on s = (.error e, t) := by rw [on_bind, hon]
  obtain ⟨hfront, hlines, hahead, -⟩ := hx
  simp only [hon] at hfront hlines hahead
  refine ⟨by rwa [hbind], by rwa [hbind], ?_, ?_⟩
  · intro hwhole hne w
    rw [hbind] at hne ⊢
    have herror : (.error e : Except Fault α) ≠ .error (.transport .ended) := by
      rintro ⟨⟩
      exact hne rfl
    rw [on_bind, hahead hwhole herror w]
  · intro _ b hb
    rw [hbind] at hb
    cases hb

/-- Lines, and then lines: nothing is left for the second exchange if the first
    has taken a last line that was cut. -/
theorem Takes.bind_ok {f : α → Exchange β} {used more : List UInt8} {a : α} {t : Session}
    (hx : Takes x s used) (hon : x.on s = (.ok a, t)) (hf : Takes (f a) t more) :
    Takes (x >>= f) s (used ++ more) := by
  have hbind : (x >>= f).on s = (f a).on t := by rw [on_bind, hon]
  obtain ⟨hfront, hlines, hahead, hcut⟩ := hx
  simp only [hon] at hfront hlines hahead hcut
  have hok : (Except.ok a : Except Fault α) ≠ .error (.transport .ended) := nofun
  have hrest : ¬ Whole used → more = [] ∧ ((f a).on t).2.unread = [] := by
    intro h
    have hempty := hlines.resolve_left h
    rw [hf.front, List.append_eq_nil_iff] at hempty
    exact hempty
  refine ⟨?_, ?_, ?_, ?_⟩
  · rw [hbind, hfront, hf.front, List.append_assoc]
  · rw [hbind]
    by_cases hused : Whole used
    · rcases hf.lines with hmore | hall
      · exact Or.inl (hused.append hmore)
      · exact Or.inr hall
    · exact Or.inr (hrest hused).2
  · intro hwhole hne w
    rw [hbind] at hne ⊢
    have hused : Whole used := by
      by_cases h : Whole used
      · exact h
      · obtain ⟨rfl, -⟩ := hrest h
        rwa [List.append_nil] at hwhole
    rw [on_bind, List.append_assoc, hahead hused hok (more ++ w)]
    exact hf.ahead hwhole.right hne w
  · intro hwhole b hb returns w
    rw [hbind] at hb ⊢
    by_cases hused : Whole used
    · have hmore : ¬ Whole more := fun h => hwhole (hused.append h)
      rw [on_bind, List.append_assoc, hahead hused hok (more ++ (lineEnd returns ++ w))]
      exact hf.cut hmore b hb returns w
    · obtain ⟨rfl, -⟩ := hrest hused
      rw [on_bind, List.append_nil, hcut hused a rfl returns w, ← hb]
      exact hf.ahead Stream.whole_nil (by rw [hb]; exact nofun) w

theorem Takes.bind {f : α → Exchange β} {used : List UInt8} (hx : Takes x s used)
    (hf : ∀ a t, x.on s = (.ok a, t) → ∃ more, Takes (f a) t more) :
    ∃ taken, Takes (x >>= f) s taken := by
  rcases hon : x.on s with ⟨e | a, t⟩
  · exact ⟨used, hx.bind_error hon⟩
  · obtain ⟨more, hmore⟩ := hf a t hon
    exact ⟨used ++ more, hx.bind_ok hon hmore⟩

theorem LineWise.bind {f : α → Exchange β} (hx : LineWise x) (hf : ∀ a, LineWise (f a)) :
    LineWise (x >>= f) := by
  intro s
  obtain ⟨used, hused⟩ := hx s
  exact hused.bind fun a t _ => hf a t

theorem lineWise_pure (a : α) : LineWise (pure a : Exchange α) :=
  lineWise_of_withUnread fun _ _ => rfl

theorem lineWise_throw (e : Fault) : LineWise (throw e : Exchange α) :=
  lineWise_of_withUnread fun _ _ => rfl

theorem lineWise_ofResult (r : Except Fault α) : LineWise (ofResult r) :=
  lineWise_of_withUnread fun _ _ => rfl

theorem LineWise.map (hx : LineWise x) (f : α → β) : LineWise (f <$> x) := by
  rw [map_eq_pure_bind]
  exact hx.bind fun a => lineWise_pure (f a)

/-- A request goes out without a look at what the hub says. -/
theorem on_send_withUnread (c : Command) (s : Session) (w : List UInt8) :
    (Session.send c).on (s.withUnread w) =
      (((Session.send c).on s).1, ((Session.send c).on s).2.withUnread w) := by
  have hversion : (s.withUnread w).version = s.version := rfl
  simp only [Session.send, Session.write, on_bind, on_get, on_ofResult, hversion]
  cases c.checkGeneration s.version with
  | error e => rfl
  | ok _ =>
    cases c.validate with
    | error e => rfl
    | ok _ => rfl

theorem lineWise_send (c : Command) : LineWise (Session.send c) :=
  lineWise_of_withUnread (on_send_withUnread c)

/-! ## Readers -/

/-- Exchanges that run alike are the same. -/
theorem ext_on {x y : Exchange α} (h : ∀ s, x.on s = y.on s) : x = y :=
  funext h

/-- **A line is taken by itself.** -/
theorem lineWise_readLine : LineWise (reading Stream.readLine) := by
  intro s
  by_cases hs : s.unread = []
  · have hon : (reading Stream.readLine).on s = (.error (.transport .ended), s.withUnread []) := by
      rw [on_reading, hs]
      rfl
    refine ⟨[], ?_, Or.inl Stream.whole_nil, ?_, fun h => absurd Stream.whole_nil h⟩
    · rw [hon, hs]
      rfl
    · intro _ hne
      rw [hon] at hne
      exact absurd rfl hne
  · rcases Stream.splitLine_eq s.unread with ⟨body, rest, hbody, hunread, hsplit⟩ | ⟨hbody, hsplit⟩
    · have hon : (reading Stream.readLine).on s =
          (Stream.lineText (body ++ [10]), s.withUnread rest) := by
        rw [on_reading, Stream.readLine_of_splitLine hs hsplit]
        rfl
      refine ⟨body ++ [10], ?_, Or.inl (Stream.whole_concat body), ?_,
        fun h => absurd (Stream.whole_concat body) h⟩
      · rw [hon, hunread]
        simp
      · intro _ _ w
        have hne : body ++ [10] ++ w ≠ [] := by simp
        have hsplit' : Stream.splitLine (body ++ [10] ++ w) = (body ++ [10], w) := by
          simpa using Stream.splitLine_append_newline hbody w
        rw [hon, on_reading, Session.unread_withUnread, Stream.readLine_of_splitLine hne hsplit']
        rfl
    · have hon : (reading Stream.readLine).on s = (Stream.lineText s.unread, s.withUnread []) := by
        rw [on_reading, Stream.readLine_of_splitLine hs hsplit]
        rfl
      refine ⟨s.unread, ?_, Or.inr (by rw [hon]; rfl), ?_, ?_⟩
      · rw [hon]
        simp
      · intro hwhole
        have hlast := hwhole _ (List.getLast?_eq_some_getLast hs)
        exact absurd (hlast ▸ List.getLast_mem hs) hbody
      · intro _ t ht returns w
        rw [hon] at ht ⊢
        have hne : s.unread ++ (lineEnd returns ++ w) ≠ [] := by simp [hs]
        have hsplit' := Stream.splitLine_append_lineEnd hbody returns w
        rw [on_reading, Session.unread_withUnread, Stream.readLine_of_splitLine hne hsplit',
          Stream.lineText_append_of_ok ht]
        rfl

theorem readReply_eq :
    Session.readReply = reading Stream.readLine >>= fun l => ofResult (Reply.decode l) := by
  apply ext_on
  intro s
  rw [on_bind]
  simp only [Session.readReply, on_reading, Stream.readReply]
  rcases Stream.readLine s.unread with ⟨e | l, rest⟩
  · rfl
  · rfl

theorem lineWise_readReply : LineWise Session.readReply := by
  rw [readReply_eq]
  exact lineWise_readLine.bind fun l => lineWise_ofResult _

/-- A counted body, line by line. -/
theorem readCounted_succ (total left : Nat) :
    reading (Stream.readCounted total (left + 1)) = reading Stream.readLine >>= fun l =>
      if l = Stream.sentinel then
        throw (.malformed (.bodyEnded (total - (left + 1)) total))
      else (l :: ·) <$> reading (Stream.readCounted total left) := by
  apply ext_on
  intro s
  rw [on_bind]
  simp only [on_reading, Stream.readCounted]
  rcases Stream.readLine s.unread with ⟨e | l, rest⟩
  · rfl
  · by_cases hl : l = Stream.sentinel
    · simp only [hl, if_true, on_throw]
    · simp only [hl, if_false, on_map, on_reading]

theorem lineWise_readCounted (total left : Nat) :
    LineWise (reading (Stream.readCounted total left)) := by
  induction left with
  | zero => exact lineWise_of_withUnread fun _ _ => rfl
  | succ left ih =>
    rw [readCounted_succ]
    refine lineWise_readLine.bind fun l => ?_
    split
    · exact lineWise_throw _
    · exact ih.map _

/-- A body up to the sentinel, line by line. -/
theorem readToSentinel_eq :
    reading Stream.readToSentinel = reading Stream.readLine >>= fun l =>
      if l = Stream.sentinel then pure [] else (l :: ·) <$> reading Stream.readToSentinel := by
  apply ext_on
  intro s
  rw [on_bind]
  simp only [on_reading]
  rcases hread : Stream.readLine s.unread with ⟨e | l, rest⟩
  · rw [Stream.readToSentinel_of_readLine_error hread]
  · rw [Stream.readToSentinel_of_readLine hread]
    by_cases hl : l = Stream.sentinel
    · simp only [hl, if_true, on_pure]
    · simp only [hl, if_false, on_map, on_reading]

theorem lineWise_readToSentinel : LineWise (reading Stream.readToSentinel) := by
  intro s
  -- by induction on how much is unread: every line takes at least a byte
  induction hlength : s.unread.length using Nat.strongRecOn generalizing s with
  | ind n ih =>
    obtain ⟨used, hused⟩ := lineWise_readLine s
    rw [readToSentinel_eq]
    refine hused.bind fun l t hon => ?_
    split
    · exact lineWise_pure _ t
    · have hrest : t.unread = (Stream.readLine s.unread).2 := by
        rw [on_reading] at hon
        exact congrArg (fun p => p.2.unread) hon.symm
      have hne : s.unread ≠ [] := by
        intro hnil
        rw [on_reading, hnil] at hon
        cases hon
      have hlt : t.unread.length < n := by
        rw [hrest, ← hlength]
        exact Stream.length_readLine_lt hne
      obtain ⟨more, hmore⟩ := ih t.unread.length hlt t rfl
      rw [map_eq_pure_bind]
      exact hmore.bind fun ls u _ => lineWise_pure _ u

theorem lineWise_readBody (ending : BodyEnd) : LineWise (Session.readBody ending) := by
  cases ending with
  | count n => exact lineWise_readCounted n n
  | sentinel => exact lineWise_readToSentinel

/-! ## Clients and learners -/

theorem lineWise_request (c : Command) : LineWise (Session.request c) :=
  (lineWise_send c).bind fun _ => lineWise_readReply

theorem lineWise_complete (r : Reply) (c : Command) : LineWise (Client.complete r c) := by
  cases c with
  | list =>
    exact (lineWise_ofResult _).bind fun ending => (lineWise_readBody ending).bind fun ls =>
      lineWise_pure _
  | status name => exact (lineWise_readBody .sentinel).bind fun ls => lineWise_pure _
  | _ => exact lineWise_pure _

theorem lineWise_execute (c : Command) : LineWise (Client.execute c) := by
  rw [Client.execute_eq]
  exact (lineWise_request c).bind fun r => (lineWise_ofResult _).bind fun _ =>
    lineWise_complete r c

theorem lineWise_scan : LineWise Client.scan := by
  rw [Client.scan_eq]
  exact (lineWise_execute _).bind fun _ => lineWise_readReply.bind fun r => lineWise_ofResult _

theorem lineWise_register (device : Registration) : LineWise (Client.register device) :=
  (lineWise_execute _).bind fun _ => lineWise_pure device

end Exchange

open Exchange

/-- Whether an operation acts on a learner, step by step.  It brings events, and
    never fails itself. -/
def Operation.isLearning : Operation → Bool
  | learn .. => true
  | _ => false

/-- **Every operation that brings one answer reads line by line.** -/
theorem Operation.lineWise_perform {op : Operation} (h : op.isLearning = false) :
    LineWise op.perform := by
  cases op with
  | send c => exact (lineWise_send c).map _
  | request c => exact (lineWise_request c).map _
  | readReply => exact lineWise_readReply.map _
  | readBody ending => exact (lineWise_readBody ending).map _
  | execute c => exact (lineWise_execute c).map _
  | scan => exact lineWise_scan.map _
  | addByScan name =>
    rw [perform, Client.addByScan_eq]
    exact (lineWise_scan.bind fun l => (lineWise_ofResult _).bind lineWise_register).map _
  | addCode name code pulse =>
    rw [perform, Client.addCode_eq]
    exact ((lineWise_ofResult _).bind lineWise_register).map _
  | addPair name on off pulse =>
    rw [perform, Client.addPair_eq]
    exact ((lineWise_ofResult _).bind lineWise_register).map _
  | learn l actions => cases h
  -- the helpers keep the reply, or the body, of what they execute
  | _ => exact ((lineWise_execute _).map _).map _

end LightHub
