import DeskCalculator.Proofs.Omission
import DeskCalculator.Web.App
import Mathlib.Data.List.Forall2

namespace DeskCalculator.Web

/-- A preflight only asks for leave; it names the method that it asks for, and an origin. -/
def Request.IsPreflight (r : Request) : Prop :=
  r.verb = "OPTIONS" ∧ r.origin.isSome = true ∧ r.asksFor.isSome = true

instance (r : Request) : Decidable r.IsPreflight := inferInstanceAs (Decidable (_ ∧ _ ∧ _))

/-- The second request is the first one but for its origin, which may also be new or be missing.
Both are preflights, or neither is. -/
structure Request.Readdressed (r r' : Request) : Prop where
  same : r' = { r with origin := r'.origin }
  preflight : r.IsPreflight ↔ r'.IsPreflight

theorem Origin.preflight?_eq_none_iff {r : Request} : preflight? r = none ↔ ¬ r.IsPreflight := by
  unfold preflight? Request.IsPreflight
  cases r.origin <;> cases r.asksFor <;> simp

namespace App

variable {clock : Clock} {room : Nat} {app app' : App} {r r' : Request} {rs rs' : List Request}

theorem answer_readdressed (h : r.Readdressed r') (s : Session) :
    answer clock room s r' = answer clock room s r := by
  have hdispatch : dispatch room r'.verb r'.target r'.body =
      dispatch room r.verb r.target r.body := by
    rw [h.same]
    rfl
  unfold answer
  rw [hdispatch]

theorem handle_of_isPreflight (h : r.IsPreflight) : (handle clock room app r).2 = app := by
  cases hp : Origin.preflight? r with
  | some p => exact handle_of_preflight hp
  | none => exact absurd h (Origin.preflight?_eq_none_iff.1 hp)

/-- One request to two interfaces with the same session. -/
theorem handle_readdressed (h : r.Readdressed r') (hs : app'.session = app.session) :
    (¬ r.IsPreflight → (handle clock room app' r').1.map Response.reply =
      (handle clock room app r).1.map Response.reply) ∧
      (handle clock room app' r').2.session = (handle clock room app r).2.session := by
  by_cases hl : r.IsPreflight
  · rw [handle_of_isPreflight hl, handle_of_isPreflight (h.preflight.1 hl)]
    exact ⟨fun hn => absurd hl hn, hs⟩
  · have hp : Origin.preflight? r = none := Origin.preflight?_eq_none_iff.2 hl
    have hp' : Origin.preflight? r' = none :=
      Origin.preflight?_eq_none_iff.2 fun hl' => hl (h.preflight.2 hl')
    obtain ⟨hreply, hsession⟩ := handle_of_not_preflight hp clock room app
    obtain ⟨hreply', hsession'⟩ := handle_of_not_preflight hp' clock room app'
    rw [hreply, hreply', hsession, hsession', hs, answer_readdressed h]
    exact ⟨fun _ => rfl, rfl⟩

/-- A run of such requests to two interfaces ends at the same session. -/
theorem finalState_readdressed (h : List.Forall₂ Request.Readdressed rs rs')
    (hs : app'.session = app.session) :
    (finalState (handle clock room) app' rs').session =
      (finalState (handle clock room) app rs).session := by
  induction h generalizing app app' with
  | nil => exact hs
  | cons hr _ ih => exact ih (handle_readdressed hr hs).2

theorem finalState_origins (clock : Clock) (room : Nat) (app : App) (rs : List Request) :
    (finalState (handle clock room) app rs).origins = app.origins := by
  induction rs generalizing app with
  | nil => rfl
  | cons r rs ih =>
    exact (ih (handle clock room app r).2).trans (handle_origins clock room app r)

theorem out_eq {origins : List String} {k : Nat} {out : Except Breakdown Response × App}
    (hr : rs[k]? = some r) (hout : (run clock room origins rs)[k]? = some out) :
    out =
      handle clock room (finalState (handle clock room) (start clock origins) (rs.take k)) r := by
  rw [run, getElem?_trace, hr] at hout
  exact (Option.some.inj hout).symm

/-- Runs from any origins. Whichever origins two interfaces admit, and whichever ones their
requests come from, all requests but preflights are answered the same, and the
sessions are the same after each request and at the end. Preflights change nothing. Every
response to a request with an origin allows everyone if everyone is admitted, and else that origin
if it is one of those admitted, and else none. -/
theorem run_readdressed (clock : Clock) (room : Nat) :
    (∀ origins origins' rs rs', List.Forall₂ Request.Readdressed rs rs' →
      (∀ (k : Nat) (r : Request) (out out' : Except Breakdown Response × App),
        rs[k]? = some r → (run clock room origins rs)[k]? = some out →
        (run clock room origins' rs')[k]? = some out' →
        (¬ r.IsPreflight → out'.1.map Response.reply = out.1.map Response.reply) ∧
          out'.2.session = out.2.session) ∧
      (finalState (handle clock room) (start clock origins') rs').session =
        (finalState (handle clock room) (start clock origins) rs).session) ∧
    ∀ (origins : List String) (rs : List Request) (k : Nat) (r : Request) out,
      rs[k]? = some r → (run clock room origins rs)[k]? = some out →
      (r.IsPreflight →
        out.2 = finalState (handle clock room) (start clock origins) (rs.take k)) ∧
      ∀ o response, r.origin = some o → out.1 = .ok response →
        response.allowOrigin =
          if "*" ∈ origins then some "*" else if o ∈ origins then some o else none := by
  constructor
  · intro origins origins' rs rs' h
    refine ⟨?_, finalState_readdressed h rfl⟩
    intro k r out out' hr hout hout'
    have hlength : k < rs'.length := by
      rw [← h.length_eq]
      exact (List.getElem?_eq_some_iff.1 hr).1
    obtain ⟨r', hr'⟩ : ∃ r', rs'[k]? = some r' := ⟨_, List.getElem?_eq_getElem hlength⟩
    have hreaddressed : r.Readdressed r' := by
      obtain ⟨hk, rfl⟩ := List.getElem?_eq_some_iff.1 hr
      obtain ⟨hk', rfl⟩ := List.getElem?_eq_some_iff.1 hr'
      exact h.get hk hk'
    rw [out_eq hr hout, out_eq hr' hout']
    exact handle_readdressed hreaddressed (finalState_readdressed (List.forall₂_take k h) rfl)
  · intro origins rs k r out hr hout
    rw [out_eq hr hout]
    constructor
    · intro hl
      exact handle_of_isPreflight hl
    · intro o response ho hresponse
      rw [handle_allowOrigin hresponse, ho, finalState_origins]
      rfl

/-- Of a sum, a preflight and a question for the state, the sum gets an origin, the preflight another
one and the question loses its own; now nobody is admitted. Only the preflight is answered
otherwise. -/
theorem run_readdressed_nobody :
    let clock := Clock.ticking 0 250000
    let sum : Request :=
      ⟨"POST", "/api/calculator/evaluate", "\x7b\"expression\": \"1+1\"\x7d", none, none⟩
    let preflight : Request := ⟨"OPTIONS", "/api/calculator/clear", "", some "http://a", some "POST"⟩
    let state : Request := ⟨"GET", "/api/calculator/state", "", some "http://a", none⟩
    let rs : List Request := [sum, preflight, state]
    let rs' : List Request := [{ sum with origin := some "http://b" },
      { preflight with origin := some "http://b" }, { state with origin := none }]
    List.Forall₂ Request.Readdressed rs rs' ∧
      (finalState (handle clock 100) (start clock []) rs').session =
        (finalState (handle clock 100) (start clock ["*"]) rs).session ∧
      (run clock 100 ["*"] rs).map (·.1.toOption.map (·.reply.status)) =
        [some 200, some 200, some 200] ∧
      (run clock 100 [] rs').map (·.1.toOption.map (·.reply.status)) =
        [some 200, some 400, some 200] := by
  intro clock sum preflight state rs rs'
  have h : List.Forall₂ Request.Readdressed rs rs' :=
    .cons ⟨rfl, by decide +kernel⟩ (.cons ⟨rfl, by decide +kernel⟩
      (.cons ⟨rfl, by decide +kernel⟩ .nil))
  refine ⟨h, ?_, by decide +kernel, by decide +kernel⟩
  exact ((run_readdressed clock 100).1 ["*"] [] rs rs' h).2

end App

end DeskCalculator.Web
