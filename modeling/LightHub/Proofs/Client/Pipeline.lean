/-
  Requests in a row, and the replies to all of them on one stream.

  * `Response`: a reply with all that comes with it, as a hub writes it.
  * `Response.Frames`: how the body of a reply to a request may end;
    `Response.Answers`: a well-formed reply that accepts the request.
  * `on_execute_response`: a request takes its own reply off the stream.
  * `mapM_execute_responses`: **requests in a row get their replies in order**,
    and nothing is left over.
-/
import LightHub.Proofs.Client.Execute
import LightHub.Proofs.Wire.Reply

namespace LightHub

open LightHub.Stream (Ended BodyText bodyBytes lineBytes)
open Text (Numeral)

/-! ## Responses -/

/-- What tells the end of a body. -/
inductive Closing where
  /-- There is no body. -/
  | bare
  /-- The header counts the lines. -/
  | counted
  /-- The sentinel follows, with carriage returns at the end of its line. -/
  | dotted (returns : Nat)
  deriving DecidableEq

/-- A reply with all that comes with it, as a hub writes it. -/
structure Response where
  header : Reply
  /-- The status as it is written -/
  numeral : String
  /-- The carriage returns at the end of the header line -/
  returns : Nat
  body : List Ended
  closing : Closing
  deriving DecidableEq

def Closing.bytes : Closing → List UInt8
  | bare | counted => []
  | dotted returns => lineBytes Stream.sentinel returns

namespace Response

/-- The header line, the lines of the body and what closes it. -/
def bytes (r : Response) : List UInt8 :=
  lineBytes (r.header.spell r.numeral) r.returns ++ (bodyBytes r.body ++ r.closing.bytes)

/-- The texts of the body. -/
def texts (r : Response) : List String :=
  r.body.map Prod.fst

/-- How many lines follow the header, as far as that can be told in 64 bits.  The
    count may have a plus in front. -/
def CountsBody (r : Response) (count : String) : Prop :=
  Counts r.header.tokens count ∧ r.body.length < UInt64.size ∧
    ∃ digits, (count = digits ∨ count = "+" ++ digits) ∧ Numeral digits r.body.length

/-- How the reply to a request may be framed. -/
inductive Frames (r : Response) : Command → Prop
  | counted {count : String} : r.closing = .counted → r.CountsBody count → Frames r .list
  | uncounted {returns : Nat} : r.closing = .dotted returns →
      (∀ count, ¬ Counts r.header.tokens count) → Frames r .list
  | status {name : String} {returns : Nat} : r.closing = .dotted returns →
      Frames r (.status name)
  | bare {c : Command} : r.closing = .bare → r.body = [] → c ≠ .list →
      (∀ name, c ≠ .status name) → Frames r c

/-- A well-formed reply to a request, with a status that the request accepts. -/
structure Answers (r : Response) (c : Command) : Prop where
  header : r.header.Spellable r.numeral
  accepted : r.header.status ∈ c.accepted
  body : ∀ l ∈ r.body, BodyText l.1
  frames : r.Frames c

/-- What the request has brought. -/
def outcome (r : Response) : Command → Outcome
  | .list | .status _ => .lines r.header r.texts
  | _ => .done r.header

/-! ## One request -/

variable {r : Response} {c : Command} {s : Session} {rest : List UInt8}

theorem CountsBody.uint64? {count : String} (h : r.CountsBody count) :
    Text.uint64? count.toList = some (UInt64.ofNat r.body.length) := by
  obtain ⟨-, hlt, digits, hcount, hdigits⟩ := h
  have hplus : Text.dropPlus count.toList = digits.toList := by
    rcases hcount with rfl | rfl
    · exact hdigits.dropPlus
    · rw [String.toList_append]
      rfl
  have hle : r.body.length ≤ UInt64.size - 1 := Nat.le_sub_one_of_lt hlt
  rw [Text.uint64?, Text.unsigned?, hplus, Text.natural?_eq_some_iff.2 hdigits]
  simp only [Option.filter, hle, decide_true, if_true, Option.map]

/-- A counted list reads as its texts. -/
theorem CountsBody.readBody {count : String} (h : r.CountsBody count)
    (hbody : ∀ l ∈ r.body, BodyText l.1) (hclosing : r.closing = .counted) (rest : List UInt8) :
    ∃ ending, Client.listEnd r.header = .ok ending ∧
      Stream.readBody ending (bodyBytes r.body ++ r.closing.bytes ++ rest) =
        (.ok r.texts, rest) := by
  refine ⟨_, Client.listEnd_of_counts h.1 h.uint64?, ?_⟩
  have hlength : (UInt64.ofNat r.body.length).toNat = r.body.length :=
    UInt64.toNat_ofNat_of_lt' h.2.1
  rw [hlength, hclosing, Closing.bytes, List.append_nil]
  exact Stream.readCounted_bodyBytes _ hbody rest

theorem readBody_dotted {returns : Nat} (hbody : ∀ l ∈ r.body, BodyText l.1)
    (hclosing : r.closing = .dotted returns) (rest : List UInt8) :
    Stream.readBody .sentinel (bodyBytes r.body ++ r.closing.bytes ++ rest) =
      (.ok r.texts, rest) := by
  rw [hclosing, Closing.bytes]
  exact Stream.readToSentinel_bodyBytes hbody returns rest

/-- **A request takes its own reply off the stream**, and leaves what follows. -/
theorem on_execute_response (hs : s.sink.Steady) (hc : c.Sendable s.version) (h : r.Answers c)
    (hunread : s.unread = r.bytes ++ rest) :
    (Client.execute c).on s = (.ok (r.outcome c), s.after [c] rest) := by
  have hread : Stream.readReply s.unread =
      (.ok r.header, bodyBytes r.body ++ r.closing.bytes ++ rest) := by
    rw [hunread, bytes, List.append_assoc]
    exact Reply.readReply_spell h.header r.returns _
  have hafter (u : List UInt8) : (s.after [c] u).unread = u := rfl
  rw [Client.on_execute hs hc hread h.accepted]
  cases h.frames with
  | counted hclosing hcount =>
    obtain ⟨ending, hending, hbody⟩ := hcount.readBody h.body hclosing rest
    simp only [Client.complete, Exchange.on_bind, Exchange.on_ofResult, hending,
      Session.on_readBody, hafter, hbody, Exchange.on_pure, Session.after_after, List.append_nil,
      outcome]
  | uncounted hclosing hcount =>
    have hbody := readBody_dotted h.body hclosing rest
    have hending := Client.listEnd_of_not_counts hcount
    simp only [Client.complete, Exchange.on_bind, Exchange.on_ofResult, hending,
      Session.on_readBody, hafter, hbody, Exchange.on_pure, Session.after_after, List.append_nil,
      outcome]
  | status hclosing =>
    have hbody := readBody_dotted h.body hclosing rest
    simp only [Client.complete, Exchange.on_bind, Session.on_readBody, hafter, hbody,
      Exchange.on_pure, Session.after_after, List.append_nil, outcome]
  | bare hclosing hbody hlist hstatus =>
    have hnone : bodyBytes r.body ++ r.closing.bytes ++ rest = rest := by
      rw [hbody, hclosing]
      rfl
    rw [hnone]
    cases c with
    | list => exact absurd rfl hlist
    | status name => exact absurd rfl (hstatus name)
    | _ => rfl

end Response

/-! ## Requests in a row -/

namespace Client

/-- **Requests in a row get their replies in order.**  Whatever the hub answers, as
    long as each answer is well-formed and accepts its request, every request
    brings the header and the body that were meant for it, and of the stream only
    what follows the last answer is left. -/
theorem mapM_execute_responses {s : Session} (hs : s.sink.Steady)
    {asked : List (Command × Response)}
    (h : ∀ a ∈ asked, a.1.Sendable s.version ∧ a.2.Answers a.1) {rest : List UInt8}
    (hunread : s.unread = asked.flatMap (·.2.bytes) ++ rest) :
    ((asked.map Prod.fst).mapM Client.execute).on s =
      (.ok (asked.map fun a => a.2.outcome a.1), s.after (asked.map Prod.fst) rest) := by
  induction asked generalizing s with
  | nil =>
    obtain rfl : s.unread = rest := hunread
    simp
  | cons a asked ih =>
    obtain ⟨hc, hr⟩ := h a List.mem_cons_self
    have hfirst : (Client.execute a.1).on s =
        (.ok (a.2.outcome a.1), s.after [a.1] (asked.flatMap (·.2.bytes) ++ rest)) := by
      apply Response.on_execute_response hs hc hr
      rw [hunread, List.flatMap_cons, List.append_assoc]
    have hothers := ih (s := s.after [a.1] (asked.flatMap (·.2.bytes) ++ rest))
      (Session.steady_after _ _ hs) (fun b hb => h b (List.mem_cons_of_mem a hb)) rfl
    rw [List.map_cons, List.mapM_cons, Exchange.on_bind, hfirst]
    simp only [Exchange.on_bind, hothers, Exchange.on_pure, Session.after_after, List.map_cons,
      List.singleton_append]

/-- A counted list, one without a count, and the state of a device with an empty
    line in it, all sent before the first is asked for. -/
theorem mapM_execute_lists :
    let hub := "KL/0.3 0204 NUMBER of devices 2 now\r\nlamp\n..\r\n" ++
      "KL/0.3 200\nfan\n.\n" ++ "KL/0.3 206 ok\n\npower on\n.\n"
    let s := Session.opened .current "hub" (Text.bytes hub)
    let counted : Response := ⟨⟨"KL/0.3", .deviceList, ["NUMBER", "of", "devices", "2", "now"]⟩,
      "0204", 1, [("lamp", 0), ("..", 1)], .counted⟩
    let uncounted : Response := ⟨⟨"KL/0.3", .ok, []⟩, "200", 0, [("fan", 0)], .dotted 0⟩
    let state : Response :=
      ⟨⟨"KL/0.3", .deviceStatus, ["ok"]⟩, "206", 0, [("", 0), ("power on", 0)], .dotted 0⟩
    counted.Answers .list ∧ uncounted.Answers .list ∧ state.Answers (.status "lamp") ∧
      ([.list, .list, .status "lamp"].mapM Client.execute).on s =
        (.ok [.lines counted.header ["lamp", ".."], .lines uncounted.header ["fan"],
          .lines state.header ["", "power on"]], s.after [.list, .list, .status "lamp"] []) := by
  intro hub s counted uncounted state
  have hcounted : counted.Answers .list :=
    ⟨by decide, by decide, by decide, .counted rfl
      ⟨⟨_, _, _, ["now"], rfl, by decide, by decide, by decide⟩, by decide, "2", .inl rfl,
        by decide⟩⟩
  have huncounted : uncounted.Answers .list := by
    refine ⟨by decide, by decide, by decide, .uncounted rfl ?_⟩
    rintro count ⟨_, _, _, _, htokens, -⟩
    cases htokens
  have hstate : state.Answers (.status "lamp") :=
    ⟨by decide, by decide, by decide, .status rfl⟩
  have hasked : ∀ a ∈ [(Command.list, counted), (.list, uncounted), (.status "lamp", state)],
      a.1.Sendable s.version ∧ a.2.Answers a.1 := by
    intro a ha
    simp only [List.mem_cons, List.not_mem_nil, or_false] at ha
    rcases ha with rfl | rfl | rfl
    · exact ⟨by decide, hcounted⟩
    · exact ⟨by decide, huncounted⟩
    · exact ⟨by decide, hstate⟩
  have hunread : s.unread = [(Command.list, counted), (.list, uncounted),
      (.status "lamp", state)].flatMap (·.2.bytes) ++ [] := by
    decide +kernel
  exact ⟨hcounted, huncounted, hstate,
    mapM_execute_responses (Session.steady_opened _ _ _) hasked hunread⟩

end Client

end LightHub
