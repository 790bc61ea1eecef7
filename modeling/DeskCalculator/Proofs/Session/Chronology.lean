import DeskCalculator.Proofs.Session.Steps
import DeskCalculator.Proofs.Timestamp.Order

namespace DeskCalculator

/-- The first readings of a clock are times in UTC, each later than those before it. -/
structure Clock.Advances (clock : Clock) (readings : Nat) : Prop where
  valid : ∀ k < readings, (clock k).Valid
  utc : ∀ k < readings, (clock k).offset = some 0
  increasing : ∀ k < readings, ∀ j < k, (clock j).instant < (clock k).instant

namespace Session

/-- A request whose success records a new entry. -/
def Request.records : Request → Bool
  | .evaluate _ => true
  | .clear => true
  | _ => false

/-- How many requests of a run have recorded a new entry. -/
def recordings (rs : List Request) (out : List (Except Fault Answer × Session)) : Nat :=
  (rs.zip out).countP fun p => p.1.records && p.2.1.isOk

/-- The times of the entries are readings of the clock that have been made, in their order. -/
def Dated (clock : Clock) (s : Session) : Prop :=
  ∃ ks : List Nat, ks.Pairwise (· < ·) ∧ (∀ k ∈ ks, k < s.readings) ∧
    s.history.entries.map (·.createdAt) = ks.map clock

variable {clock : Clock} {s : Session}

theorem dated_start (clock : Clock) : Dated clock (start clock) :=
  ⟨[0], List.pairwise_singleton _ _, by simp [start_eq], rfl⟩

/-- What is recorded takes the next reading, wherever the history is cut off. -/
theorem Dated.record (h : Dated clock s) (c : Calculator) : Dated clock (s.record clock c) := by
  obtain ⟨ks, hsorted, hlt, htimes⟩ := h
  have hkept : ∀ k ∈ ks.take s.history.position, k < s.readings := by
    intro k hk
    exact hlt k (List.mem_of_mem_take hk)
  refine ⟨ks.take s.history.position ++ [s.readings], ?_, ?_, ?_⟩
  · rw [List.pairwise_append]
    refine ⟨hsorted.take, List.pairwise_singleton _ _, ?_⟩
    intro k hk n hn
    rw [List.mem_singleton.1 hn]
    exact hkept k hk
  · intro k hk
    rw [record_eq]
    obtain hk | hk := List.mem_append.1 hk
    · exact Nat.lt_succ_of_lt (hkept k hk)
    · rw [List.mem_singleton.1 hk]
      exact Nat.lt_succ_self _
  · change (s.history.entries.take s.history.position ++ [_]).map Snapshot.createdAt = _
    rw [List.map_append, List.map_take, htimes, List.map_append, List.map_take]
    rfl

theorem Dated.goTo (h : Dated clock s) {position : Nat} {r : Snapshot × History Snapshot}
    (hm : s.history.moveTo? position = some r) : Dated clock (s.goTo r) := by
  obtain ⟨he, -, -⟩ := History.moveTo?_entries hm
  obtain ⟨ks, hsorted, hlt, htimes⟩ := h
  refine ⟨ks, hsorted, hlt, ?_⟩
  change r.2.entries.map _ = _
  rw [he]
  exact htimes

theorem Dated.of_succeeds (h : Dated clock s) {r : Request} {a : Answer} {s' : Session}
    (hr : Succeeds clock s r a s') : Dated clock s' := by
  cases hr with
  | evaluate => exact h.record _
  | clear => exact h.record _
  | undo hu => exact h.goTo (History.undo?_eq_some_iff.1 hu).2
  | redo hr => exact h.goTo (History.redo?_eq_some_iff.1 hr).2
  | state => exact h
  | history => exact h

theorem dated_finalState (clock : Clock) (rs : List Request) :
    Dated clock (finalState (step clock) (start clock) rs) :=
  finalState_invariant (fun _ _ _ _ h hr => h.of_succeeds hr) rs (dated_start clock)

/-- Entries whose clock readings compare in a certain way compare in that way. -/
theorem Dated.pairwise (h : Dated clock s) {R : Timestamp → Timestamp → Prop}
    (hR : ∀ k < s.readings, ∀ j < k, R (clock j) (clock k)) :
    s.history.entries.Pairwise fun a b => R a.createdAt b.createdAt := by
  obtain ⟨ks, hsorted, hlt, htimes⟩ := h
  rw [← List.pairwise_map (f := Snapshot.createdAt), htimes, List.pairwise_map]
  apply hsorted.imp_of_mem
  intro j k _ hk hjk
  exact hR k (hlt k hk) j hjk

/-- One step reads the clock for a new entry only. -/
theorem readings_step (clock : Clock) (s : Session) (r : Request) :
    (step clock s r).2.readings =
      s.readings + (r.records && (step clock s r).1.isOk).toNat := by
  obtain ⟨f, -, he⟩ | ⟨a, s', hr, he⟩ := step_cases clock s r
  · rw [he]
    simp [Except.isOk, Except.toBool]
  · rw [he]
    cases hr <;> rfl

theorem readings_finalState (clock : Clock) (s : Session) (rs : List Request) :
    (finalState (step clock) s rs).readings =
      s.readings + recordings rs (trace (step clock) s rs) := by
  induction rs generalizing s with
  | nil => rfl
  | cons r rs ih =>
    have hstep := readings_step clock s r
    have hrest := ih (step clock s r).2
    have hcount : recordings (r :: rs) (trace (step clock) s (r :: rs)) =
        recordings rs (trace (step clock) (step clock s r).2 rs) +
          (r.records && (step clock s r).1.isOk).toNat := by
      rw [recordings, trace, List.zip_cons_cons, List.countP_cons]
      cases r.records && (step clock s r).1.isOk <;> rfl
    change (finalState (step clock) (step clock s r).2 rs).readings = _
    omega

/-- The texts of the times in an answer about the history, entry by entry. -/
def shownTimes? (v : Json Quantity) : Option (List String) := do
  let entries ← (v.get? "history").bind Json.items?
  entries.mapM fun e => (e.get? "timestamp").bind Json.text?

theorem shownTimes?_history (marked : List (Snapshot × Bool)) (info : History.Info) :
    shownTimes? (Answer.history marked info).toJson =
      some (marked.map (·.1.createdAt.text)) := by
  have hentries : ((Answer.history marked info).toJson.get? "history").bind Json.items? =
      some (marked.map fun p => .object (p.1.fields ++ [("is_current", .bool p.2)])) := by
    simp [Answer.toJson, Journal.markedJson, Json.get?, Json.lookup, Json.items?]
  have htime (p : Snapshot × Bool) :
      ((Json.object (p.1.fields ++ [("is_current", .bool p.2)])).get? "timestamp").bind Json.text? =
        some p.1.createdAt.text := by
    simp [Snapshot.fields, Json.get?, Json.lookup, Json.text?]
  rw [shownTimes?, hentries]
  simp only [Option.bind_eq_bind, Option.bind_some, List.mapM_map, Function.comp_def, htime]
  exact List.mapM_pure

theorem step_history (clock : Clock) (s : Session) :
    step clock s .history = (.ok (.history s.history.marked s.history.info), s) := rfl

/-- Wherever requests lead, failed ones included, the times of the entries go up along the history,
both as instants and as the texts in the answer about the history, and the clock has been read once
more than evaluations and clearings have succeeded. -/
theorem history_chronological {rs : List Request}
    (hs : finalState (step clock) (start clock) rs = s) (h : clock.Advances s.readings) :
    s.history.entries.Pairwise (fun a b => a.createdAt.instant < b.createdAt.instant) ∧
      s.readings = 1 + recordings rs (run clock rs) ∧
      ∃ marked info, (step clock s .history).1 = .ok (.history marked info) ∧
        marked.map (·.1) = s.history.entries ∧
        ∃ times, shownTimes? (Answer.history marked info).toJson = some times ∧
          times = marked.map (·.1.createdAt.text) ∧
          times.Pairwise fun x y => Text.Precedes x.toList y.toList := by
  have hdated : Dated clock s := hs ▸ dated_finalState clock rs
  have hreadings : s.readings = 1 + recordings rs (run clock rs) :=
    hs ▸ readings_finalState clock (start clock) rs
  have hentries : s.history.marked.map (·.1) = s.history.entries := s.history.map_fst_marked
  have hinstants := hdated.pairwise (R := fun t u => t.instant < u.instant) h.increasing
  have htexts := hdated.pairwise (R := fun t u => Text.Precedes t.text.toList u.text.toList) <| by
    intro k hk j hj
    have hj' : j < s.readings := Nat.lt_trans hj hk
    exact Timestamp.precedes_of_instant_lt (h.valid j hj') (h.valid k hk) (h.utc j hj')
      (h.utc k hk) (h.increasing k hk j hj)
  refine ⟨hinstants, hreadings, s.history.marked, s.history.info, rfl, hentries, _,
    shownTimes?_history _ _, rfl, ?_⟩
  rw [← hentries, List.pairwise_map] at htexts
  exact List.pairwise_map.2 htexts

/-- The turn of a year, where the time of the entry in the middle has no fraction. -/
theorem history_chronological_new_year :
    let clock := Clock.ticking 63839663999500000 250000
    let s := finalState (step clock) (start clock)
      [.evaluate (.text "1+1"), .evaluate (.text "1/0"), .undo, .evaluate (.text "2*3"), .clear]
    let times := ["2023-12-31T23:59:59.500000+00:00", "2024-01-01T00:00:00+00:00",
      "2024-01-01T00:00:00.250000+00:00"]
    clock.Advances s.readings ∧
      shownTimes? (Answer.history s.history.marked s.history.info).toJson = some times ∧
      times.Pairwise fun x y => Text.Precedes x.toList y.toList := by
  intro clock s times
  have hadvances : (Clock.ticking 63839663999500000 250000).Advances 4 :=
    ⟨by decide +kernel, by decide +kernel, by decide +kernel⟩
  have hreadings : s.readings = 4 := by decide +kernel
  have h : clock.Advances s.readings := by
    rw [hreadings]
    exact hadvances
  have hshown : shownTimes? (Answer.history s.history.marked s.history.info).toJson =
      some times := by
    decide +kernel
  obtain ⟨-, -, marked, info, ha, -, ts, hts, -, hsorted⟩ := history_chronological rfl h
  rw [step_history, Except.ok.injEq, Answer.history.injEq] at ha
  rw [← ha.1, ← ha.2, hshown, Option.some.injEq] at hts
  rw [← hts] at hsorted
  exact ⟨h, hshown, hsorted⟩

end Session

end DeskCalculator
