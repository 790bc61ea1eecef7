import DeskCalculator.Proofs.Omission
import DeskCalculator.Proofs.Web.Refinement

namespace DeskCalculator.Web

/-- The routes whose requests, when they succeed, change the session. -/
def Route.changes : Route → Bool
  | .evaluate => true
  | .clear => true
  | .undo => true
  | .redo => true
  | _ => false

/-- A route that changes the session has answered the request with success. -/
def Request.effective (r : Request) (out : Except Breakdown Response) : Bool :=
  r.route?.any Route.changes && out.toOption.any (·.reply.status == 200)

theorem Request.reads_of_forwarded? {room : Nat} {r : Request} {q : Session.Request}
    (h : r.forwarded? room = some q) (hr : r.route?.any Route.changes = false) :
    q = .state ∨ q = .history := by
  obtain ⟨route, hroute, h⟩ := Option.bind_eq_some_iff.1 h
  rw [hroute, Option.any_some] at hr
  cases route with
  | state =>
    cases h
    exact .inl rfl
  | history =>
    cases h
    exact .inr rfl
  | index => cases h
  | health => cases h
  | _ => cases hr

namespace App

variable {clock : Clock} {room : Nat} {app : App} {r : Request}

theorem handle_eq_of_session (h : (handle clock room app r).2.session = app.session) :
    (handle clock room app r).2 = app := by
  have ho := handle_origins clock room app r
  cases happ : (handle clock room app r).2 with
  | mk origins session =>
    rw [happ] at h ho
    cases h
    cases ho
    rfl

/-- Faults and answers to reads leave a session as it was, and all else has an effect. -/
theorem session_of_not_effective {q : Session.Request} (hf : r.forwarded? room = some q)
    {response : Response}
    (hreply : response.reply = sessionReply (Session.step clock app.session q).1)
    (h : r.effective (.ok response) = false) :
    (Session.step clock app.session q).2 = app.session := by
  obtain ⟨f, -, he⟩ | ⟨a, s', hs, he⟩ := Session.step_cases clock app.session q
  · rw [he]
  · have hstatus : response.reply.status = 200 := by
      rw [hreply, he]
      rfl
    have hr : r.route?.any Route.changes = false := by
      simpa [Request.effective, Except.toOption, hstatus] using h
    rw [he]
    obtain rfl | rfl := Request.reads_of_forwarded? hf hr
    · cases hs
      rfl
    · cases hs
      rfl

/-- A request without effect leaves everything as it was. -/
theorem handle_of_not_effective (h : r.effective (handle clock room app r).1 = false) :
    (handle clock room app r).2 = app := by
  cases hp : Origin.preflight? r with
  | some p => exact handle_of_preflight hp
  | none =>
    apply handle_eq_of_session
    obtain ⟨hreply, hsession⟩ := handle_of_not_preflight hp clock room app
    rw [hsession]
    cases hf : r.forwarded? room with
    | none =>
      obtain ⟨reply, -, ha⟩ := answer_of_not_forwarded? hf clock app.session
      rw [ha]
    | some q =>
      rw [answer_of_forwarded? hf] at hreply ⊢
      obtain ⟨response, hr, hresponse⟩ := map_eq_ok_iff.1 hreply
      rw [hr] at h
      exact session_of_not_effective hf hresponse h

theorem idleAt_of_not_effective {rs : List Request} {gone : Nat → Bool}
    (h : ∀ k r out, gone k = true → rs[k]? = some r →
      (trace (handle clock room) app rs)[k]? = some out → r.effective out.1 = false) :
    IdleAt (handle clock room) app rs gone := by
  intro k r hk hr
  apply handle_of_not_effective
  apply h k r _ hk hr
  rw [getElem?_trace, hr]
  rfl

/-- Requests without effect may be left out of a run, in any number and at any places: the others
are answered the same, and the run ends at the same session. -/
theorem run_without (clock : Clock) (room : Nat) (origins : List String) (rs : List Request)
    (gone : Nat → Bool)
    (h : ∀ k r out, gone k = true → rs[k]? = some r →
      (run clock room origins rs)[k]? = some out → r.effective out.1 = false) :
    run clock room origins (without gone rs) = without gone (run clock room origins rs) ∧
      finalState (handle clock room) (start clock origins) (without gone rs) =
        finalState (handle clock room) (start clock origins) rs := by
  have hidle : IdleAt (handle clock room) (start clock origins) rs gone := idleAt_of_not_effective h
  exact ⟨trace_without hidle, finalState_without hidle⟩

/-- Of four requests only the product takes effect; the refused ones before it leave no trace. -/
theorem run_without_refused :
    let clock := Clock.ticking 0 250000
    let product : Request :=
      ⟨"POST", "/api/calculator/evaluate", "\x7b\"expression\": \"2*3\"\x7d", none, none⟩
    let rs : List Request :=
      [⟨"POST", "/api/calculator/undo", "", none, none⟩,
        ⟨"POST", "/api/calculator/evaluate", "\x7b\"expression\": \"1/0\"\x7d", none, none⟩,
        product,
        ⟨"GET", "/api/calculator/state", "", none, none⟩]
    (run clock 100 ["*"] rs).map (·.1.toOption.map (·.reply.status)) =
        [some 400, some 400, some 200, some 200] ∧
      run clock 100 ["*"] [product] = without (· != 2) (run clock 100 ["*"] rs) := by
  intro clock product rs
  have hidle : ∀ k < 4, (k != 2) = true → ∀ r ∈ rs[k]?, ∀ out ∈ (run clock 100 ["*"] rs)[k]?,
      r.effective out.1 = false := by
    decide +kernel
  refine ⟨by decide +kernel, ?_⟩
  refine (run_without clock 100 ["*"] rs (· != 2) ?_).1
  intro k r out hk hr hout
  have hlt : k < 4 := (List.getElem?_eq_some_iff.1 hr).1
  exact hidle k hlt hk r hr out hout

end App

end DeskCalculator.Web
