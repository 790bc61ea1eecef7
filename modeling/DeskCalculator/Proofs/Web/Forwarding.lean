import DeskCalculator.Proofs.Expression.Refusal
import DeskCalculator.Proofs.Json.Reading
import DeskCalculator.Web.App

namespace DeskCalculator

/-- The session trims a text itself, so it does not matter that the form does so before. -/
theorem Session.step_trim (clock : Clock) (s : Session) (text : String) :
    step clock s (.evaluate (.text (Text.trim text))) =
      step clock s (.evaluate (.text text)) := by
  simp only [step_evaluate_text, Expression.compileText_trim, Text.trim_trim]

namespace Web

namespace Form

/-- The text in the form that a body holds, as it was sent. The body is an object whose field
`expression` is a text that is not blank; all other bodies, unreadable ones among them, hold no
form. -/
def sentText? (room : Nat) (body : String) : Option String :=
  match document room body with
  | .ok (.object fields) =>
    (((Json.lookup fields (Text.codes "expression")).bind Json.text?).bind Text.ofCodes?).filter
      (!Text.allBlank ·)
  | _ => none

variable {room : Nat} {body text : String}

theorem sentText?_eq_some_iff : sentText? room body = some text ↔
    ∃ fields, document room body = .ok (.object fields) ∧
      Json.lookup fields (Text.codes "expression") = some (.text (Text.codes text)) ∧
      Text.allBlank text = false := by
  constructor
  · intro h
    unfold sentText? at h
    split at h
    next fields hd =>
      obtain ⟨ht, hb⟩ := Option.filter_eq_some_iff.1 h
      obtain ⟨us, hus, hcodes⟩ := Option.bind_eq_some_iff.1 ht
      obtain ⟨e, he, htext⟩ := Option.bind_eq_some_iff.1 hus
      have hus : e = .text us := by
        cases e <;> simp_all [Json.text?]
      rw [Text.ofCodes?_eq_some_iff] at hcodes
      rw [hus, ← hcodes] at he
      exact ⟨fields, hd, he, by simpa using hb⟩
    next => cases h
  · intro h
    obtain ⟨fields, hd, he, hb⟩ := h
    have hcodes : Text.ofCodes? (Text.codes text) = some text := Text.ofCodes?_eq_some_iff.2 rfl
    simp [sentText?, hd, he, Json.text?, hcodes, hb]

theorem expression_eq_ok_iff {fields : List (Text.Codes × Json.Raw)} {us : Text.Codes} :
    expression fields = .ok us ↔
      ∃ ws, Json.lookup fields (Text.codes "expression") = some (.text ws) ∧
        ws.all Text.isBlankCode = false ∧ Text.trimCodes ws = us := by
  unfold expression
  cases Json.lookup fields (Text.codes "expression") with
  | none => simp
  | some v =>
    cases v with
    | text ws => cases hb : ws.all Text.isBlankCode <;> simp [hb, -List.all_eq_false]
    | _ => simp

theorem ofBody_of_document {fields : List (Text.Codes × Json.Raw)}
    (h : document room body = .ok (.object fields)) :
    ofBody room body =
      (expression fields).mapError (refuse ["body", "expression"] · (subject fields)) := by
  rw [ofBody, h]
  rfl

/-- What a form gives for the text in it is the same text, trimmed. -/
theorem ofBody_of_sentText? (h : sentText? room body = some text) :
    ∃ us, ofBody room body = .ok us ∧ Text.ofCodes? us = some (Text.trim text) := by
  obtain ⟨fields, hd, he, hb⟩ := sentText?_eq_some_iff.1 h
  have hcodes : Text.ofCodes? (Text.codes text) = some text := Text.ofCodes?_eq_some_iff.2 rfl
  have hblank : (Text.codes text).all Text.isBlankCode = false := by
    rw [← Text.allBlank_ofCodes, Text.ofCodes_codes, hb]
  refine ⟨Text.trimCodes (Text.codes text), ?_, ?_⟩
  · rw [ofBody_of_document hd, expression_eq_ok_iff.2 ⟨_, he, hblank, rfl⟩]
    rfl
  · rw [Text.ofCodes?_trimCodes, hcodes, Option.map_some]

/-- A body without such a text is refused, or else a surrogate keeps its text from being one. -/
theorem ofBody_of_not_sentText? (h : sentText? room body = none) :
    (∃ f, ofBody room body = .error f) ∨
      ∃ us, ofBody room body = .ok us ∧ Text.ofCodes? us = none := by
  cases hd : document room body with
  | error f =>
    rw [ofBody, hd]
    exact .inl ⟨f, rfl⟩
  | ok v =>
    cases v with
    | object fields =>
      rw [ofBody_of_document hd]
      cases he : expression fields with
      | error c => exact .inl ⟨_, rfl⟩
      | ok us =>
        obtain ⟨ws, hw, hb, rfl⟩ := expression_eq_ok_iff.1 he
        refine .inr ⟨Text.trimCodes ws, rfl, ?_⟩
        -- the form is accepted, so its text would be the one sent, were there one
        cases hs : Text.ofCodes? ws with
        | none => rw [Text.ofCodes?_trimCodes, hs, Option.map_none]
        | some text =>
          rw [Text.ofCodes?_eq_some_iff] at hs
          subst hs
          have hblank : Text.allBlank text = false := by
            rw [← hb, ← Text.allBlank_ofCodes, Text.ofCodes_codes]
          rw [sentText?_eq_some_iff.2 ⟨fields, hd, hw, hblank⟩] at h
          cases h
    | _ =>
      rw [ofBody, hd]
      exact .inl ⟨_, rfl⟩

end Form

namespace Request

/-- The request has the method and the address of a route. -/
def Meets (r : Request) (route : Route) : Prop :=
  Target.path r.target = route.path ∧ r.verb = route.method

/-- The route whose method and address the request has. -/
def route? (r : Request) : Option Route :=
  (Route.ofPath? (Target.path r.target)).filter (·.method == r.verb)

def forwarded? (room : Nat) (r : Request) : Option Session.Request :=
  r.route?.bind fun
    | .evaluate => (Form.sentText? room r.body).map fun text => .evaluate (.text text)
    | .clear => some .clear
    | .undo => some .undo
    | .redo => some .redo
    | .state => some .state
    | .history => some .history
    | .index => none
    | .health => none

variable {room : Nat} {r : Request} {route : Route} {q : Session.Request}

theorem route?_eq_some_iff : r.route? = some route ↔ r.Meets route := by
  rw [route?, Option.filter_eq_some_iff]
  constructor
  · intro h
    obtain ⟨hp, hm⟩ := h
    exact ⟨(Route.path_of_ofPath? hp).symm, (beq_iff_eq.1 hm).symm⟩
  · intro h
    obtain ⟨hp, hm⟩ := h
    rw [hp, hm]
    exact ⟨Route.ofPath?_path route, beq_self_eq_true _⟩

end Request

namespace App

variable {room : Nat} {r : Request} {route : Route}

theorem dispatch_of_route? (h : r.route? = some route) :
    dispatch room r.verb r.target r.body = .ofRoute room r.body route := by
  obtain ⟨hp, hm⟩ := Request.route?_eq_some_iff.1 h
  unfold dispatch
  rw [hp, Route.ofPath?_path]
  exact if_pos hm

theorem dispatch_of_not_route? (h : r.route? = none) :
    dispatch room r.verb r.target r.body = .turnAway r.verb Page.notFound ∨
      dispatch room r.verb r.target r.body = .turnAway r.verb Page.methodNotAllowed := by
  unfold dispatch
  split
  next => exact .inl rfl
  next route hr =>
    have hm : r.verb ≠ route.method := by
      intro hm
      rw [Request.route?, hr, hm, Option.filter_some, if_pos (beq_self_eq_true _)] at h
      cases h
    exact .inr (if_neg hm)

/-- The session answers what it gets as it would answer what was forwarded. -/
theorem dispatch_of_forwarded? {q : Session.Request} (h : r.forwarded? room = some q) :
    ∃ q', dispatch room r.verb r.target r.body = .session q' ∧
      ∀ clock s, Session.step clock s q' = Session.step clock s q := by
  obtain ⟨route, hr, h⟩ := Option.bind_eq_some_iff.1 h
  rw [dispatch_of_route? hr]
  cases route with
  | evaluate =>
    obtain ⟨text, ht, rfl⟩ := Option.map_eq_some_iff.1 h
    obtain ⟨us, hb, hus⟩ := Form.ofBody_of_sentText? ht
    refine ⟨.evaluate (.text (Text.trim text)), ?_, fun clock s => Session.step_trim clock s text⟩
    rw [Dispatch.ofRoute, hb]
    simp [Dispatch.ofExpression, hus]
  | index => cases h
  | health => cases h
  | _ =>
    cases h
    exact ⟨_, rfl, fun _ _ => rfl⟩

theorem dispatch_of_not_forwarded? (h : r.forwarded? room = none) :
    ∃ reply, dispatch room r.verb r.target r.body = .reply reply := by
  cases hr : r.route? with
  | none =>
    obtain hd | hd := dispatch_of_not_route? hr
    · exact ⟨_, hd⟩
    · exact ⟨_, hd⟩
  | some route =>
    rw [dispatch_of_route? hr]
    rw [Request.forwarded?, hr, Option.bind_some] at h
    cases route with
    | index => exact ⟨_, rfl⟩
    | health => exact ⟨_, rfl⟩
    | evaluate =>
      rw [Dispatch.ofRoute]
      obtain ⟨f, hf⟩ | ⟨us, hb, hus⟩ := Form.ofBody_of_not_sentText? (Option.map_eq_none_iff.1 h)
      · rw [hf]
        exact ⟨_, rfl⟩
      · simp [hb, Dispatch.ofExpression, hus]
    | _ => cases h

end App

end Web

end DeskCalculator
