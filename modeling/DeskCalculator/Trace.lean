namespace DeskCalculator

variable {σ τ ι ω α β ε : Type}

/-- The answers along a run, each with the state after it. -/
def trace (step : σ → ι → ω × σ) (s : σ) : List ι → List (ω × σ)
  | [] => []
  | i :: is =>
    let r := step s i
    r :: trace step r.2 is

/-- The state after a run. -/
def finalState (step : σ → ι → ω × σ) (s : σ) (is : List ι) : σ :=
  is.foldl (fun s i => (step s i).2) s

theorem finalState_append (step : σ → ι → ω × σ) (s : σ) (is js : List ι) :
    finalState step s (is ++ js) = finalState step (finalState step s is) js := by
  simp [finalState]

/-- Operations on a state that can fail. What one has done to the state before it fails stays
done. -/
abbrev Operation (ε σ α : Type) := ExceptT ε (StateM σ) α

namespace Operation

/-- The outcome of an operation, and the state that it leaves. -/
def perform (op : Operation ε σ α) (s : σ) : Except ε α × σ := op s

/-- An operation on a part of a state. -/
def on (part : σ → τ) (replace : σ → τ → σ) (op : Operation ε τ α) : Operation ε σ α := fun s =>
  let (r, t) := op.perform (part s)
  (r, replace s t)

variable {op : Operation ε σ α} {s s' : σ}

theorem perform_bind_of_ok {a : α} (h : op.perform s = (.ok a, s')) (f : α → Operation ε σ β) :
    (op >>= f).perform s = (f a).perform s' := by
  change (ExceptT.bindCont f (op.perform s).1) (op.perform s).2 = _
  rw [h]
  rfl

theorem perform_bind_of_error {e : ε} (h : op.perform s = (.error e, s'))
    (f : α → Operation ε σ β) : (op >>= f).perform s = (.error e, s') := by
  change (ExceptT.bindCont f (op.perform s).1) (op.perform s).2 = _
  rw [h]
  rfl

/-- What has an outcome by itself leaves the state as it is. -/
theorem perform_lift (x : Except ε α) (s : σ) :
    (liftM x : Operation ε σ α).perform s = (x, s) := rfl

theorem perform_get (s : σ) : (get : Operation ε σ σ).perform s = (.ok s, s) := rfl

theorem perform_on {part : σ → τ} {replace : σ → τ → σ} {op : Operation ε τ α} {t : τ}
    {r : Except ε α} (h : op.perform (part s) = (r, t)) :
    (op.on part replace).perform s = (r, replace s t) := by
  change ((op.perform (part s)).1, replace s (op.perform (part s)).2) = _
  rw [h]

end Operation

end DeskCalculator
