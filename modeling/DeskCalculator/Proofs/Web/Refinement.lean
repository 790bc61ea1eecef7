import DeskCalculator.Proofs.Json.Nulling
import DeskCalculator.Proofs.Session.Steps
import DeskCalculator.Proofs.Web.Forwarding

/-!
The web interface as a session that is asked over the web. Beside an app, a session of its own gets
what the requests forward, texts untrimmed; the app then always stands where that session stands,
and replies what it answers (`run_refines_session`). What a session says to a blank text is never
heard over the web, as forms are checked for it before.
-/

namespace DeskCalculator

/-- The object that an info is, field by field. -/
inductive History.Info.Shows (i : History.Info) : Json Quantity → Prop where
  | info :
    Shows i
      (.object [
        ("total_states", .number (.count i.totalStates)),
        ("current_index", .number (.count i.currentIndex)),
        ("can_undo", .bool i.canUndo),
        ("can_redo", .bool i.canRedo)])

namespace Session.Answer

/-- The object that an answer is, field by field. -/
inductive Shows : Answer → Json Quantity → Prop where
  | evaluated {value : Float} {expression : String} {rpn : List String} {flags : Flags} :
    Shows (.evaluated value expression rpn flags)
      (.object [
        ("result", .number (.double value)),
        ("expression", .text expression),
        ("rpn", .array (rpn.map .text)),
        ("can_undo", .bool flags.canUndo),
        ("can_redo", .bool flags.canRedo)])
  | showing {c : Calculator} {flags : Flags} :
    Shows (.showing c flags)
      (.object [
        ("current_value", .number (.double c.value)),
        ("last_operation", .text c.label),
        ("can_undo", .bool flags.canUndo),
        ("can_redo", .bool flags.canRedo)])
  | state {c : Calculator} {info : History.Info} {shown : Json Quantity} :
    info.Shows shown →
    Shows (.state c info)
      (.object [
        ("current_value", .number (.double c.value)),
        ("last_operation", .text c.label),
        ("history_info", shown)])
  | history {marked : List (Snapshot × Bool)} {info : History.Info} {shown : Json Quantity} :
    info.Shows shown →
    Shows (.history marked info)
      (.object [
        ("history", .array (marked.map fun p =>
          .object [
            ("value", .number (.double p.1.value)),
            ("label", .text p.1.label),
            ("timestamp", .text p.1.createdAt.text),
            ("is_current", .bool p.2)])),
        ("info", shown)])

end Session.Answer

namespace Web

/-- The reply says what the fault of a blank expression says. -/
def Reply.SaysBlank (r : Reply) : Prop :=
  r.body = .json (.object [("detail", .text "expression must be a non-empty string")])

namespace App

/-- What comes of a request to an app, next to what the session beside it makes of the request. -/
structure Agrees (out : Except Breakdown Response × App)
    (own : Option (Except Fault Session.Answer) × Session) : Prop where
  session : out.2.session = own.2
  answered : ∀ a, own.1 = some (.ok a) → ∃ response v w, out.1 = .ok response ∧
    a.Shows v ∧ Json.Nulled v w ∧ response.reply = ⟨200, .json w⟩
  refused : ∀ f, own.1 = some (.error f) → ∃ response, out.1 = .ok response ∧
    response.reply = ⟨400, .json (.object [("detail", .text f.message)])⟩
  unsaid : ∀ response, out.1 = .ok response → ¬ response.reply.SaysBlank

variable {clock : Clock} {room : Nat} {s : Session} {r : Request} {q : Session.Request}

theorem answer_of_forwarded? (h : r.forwarded? room = some q) :
    answer clock room s r =
      (.ok (sessionReply (Session.step clock s q).1), (Session.step clock s q).2) := by
  obtain ⟨q', hd, hq⟩ := dispatch_of_forwarded? h
  unfold answer
  rw [hd, ← hq clock s]

theorem answer_of_not_forwarded? (h : r.forwarded? room = none) (clock : Clock) (s : Session) :
    ∃ reply, dispatch room r.verb r.target r.body = .reply reply ∧
      answer clock room s r = (reply, s) := by
  obtain ⟨reply, hd⟩ := dispatch_of_not_forwarded? h
  refine ⟨reply, hd, ?_⟩
  unfold answer
  rw [hd]

end App

end Web

end DeskCalculator
