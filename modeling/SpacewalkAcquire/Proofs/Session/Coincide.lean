import SpacewalkAcquire.Proofs.Session.RunFrom

/-!
# One computation from two states

* `Coincides x p p' succeeded failed` : from both states the computation `x` succeeds with one value, or fails with one
  failure, and the states after it are related;
* `Coincides.bind` and its like : computations one step after the other;
* `Coincides.of_leads` : what leads to a result that is known beforehand does so from both states.
-/

namespace SpacewalkAcquire.SessionT

variable {σ α β : Type}

/-- From `p` and from `p'` a computation has the same result, and the states after it are related. -/
def Coincides (x : SessionT (StateM σ) α) (p p' : Session × σ) (succeeded : α → Session × σ → Session × σ → Prop)
    (failed : Failure → Session × σ → Session × σ → Prop) : Prop :=
  (∃ a q q', x.runFrom p = (.ok a, q) ∧ x.runFrom p' = (.ok a, q') ∧ succeeded a q q') ∨
    ∃ e q q', x.runFrom p = (.error e, q) ∧ x.runFrom p' = (.error e, q') ∧ failed e q q'

namespace Coincides

variable {p p' : Session × σ} {x : SessionT (StateM σ) α} {f : α → SessionT (StateM σ) β}

protected theorem pure {a : α} {succeeded : α → Session × σ → Session × σ → Prop}
    {failed : Failure → Session × σ → Session × σ → Prop} (h : succeeded a p p') :
    Coincides (pure a) p p' succeeded failed := .inl ⟨a, p, p', rfl, rfl, h⟩

protected theorem throw {e : Failure} {succeeded : α → Session × σ → Session × σ → Prop}
    {failed : Failure → Session × σ → Session × σ → Prop} (h : failed e p p') :
    Coincides (throw e) p p' succeeded failed := .inr ⟨e, p, p', rfl, rfl, h⟩

theorem of_runFrom {a : α} {q q' : Session × σ} {succeeded : α → Session × σ → Session × σ → Prop}
    {failed : Failure → Session × σ → Session × σ → Prop} (hx : x.runFrom p = (.ok a, q))
    (hx' : x.runFrom p' = (.ok a, q')) (h : succeeded a q q') : Coincides x p p' succeeded failed :=
  .inl ⟨a, q, q', hx, hx', h⟩

protected theorem bind {succeeded : β → Session × σ → Session × σ → Prop}
    {failed : Failure → Session × σ → Session × σ → Prop}
    (h : Coincides x p p' (fun a q q' => Coincides (f a) q q' succeeded failed) failed) :
    Coincides (x >>= f) p p' succeeded failed := by
  unfold Coincides
  rw [runFrom_bind, runFrom_bind]
  rcases h with ⟨a, q, q', hq, hq', hrest⟩ | ⟨e, q, q', hq, hq', hfailed⟩
  · rw [hq, hq']
    exact hrest
  · rw [hq, hq']
    exact .inr ⟨e, q, q', rfl, rfl, hfailed⟩

protected theorem liftExcept {result : Except Failure α} {succeeded : α → Session × σ → Session × σ → Prop}
    {failed : Failure → Session × σ → Session × σ → Prop} (ok : ∀ a, result = .ok a → succeeded a p p')
    (error : ∀ e, result = .error e → failed e p p') :
    Coincides (liftExcept result : SessionT (StateM σ) α) p p' succeeded failed := by
  cases result with
  | ok a => exact .pure (ok a rfl)
  | error e => exact .throw (error e rfl)

protected theorem ofEnvironment {step : StateM σ (Except Failure α)}
    {succeeded : α → Session × σ → Session × σ → Prop} {failed : Failure → Session × σ → Session × σ → Prop}
    (h : (step p.2).1 = (step p'.2).1)
    (ok : ∀ a, (step p.2).1 = .ok a → succeeded a (p.1, (step p.2).2) (p'.1, (step p'.2).2))
    (error : ∀ e, (step p.2).1 = .error e → failed e (p.1, (step p.2).2) (p'.1, (step p'.2).2)) :
    Coincides (ofEnvironment step) p p' succeeded failed := by
  unfold Coincides
  rw [runFrom_ofEnvironment, runFrom_ofEnvironment, ← h]
  cases hvalue : (step p.2).1 with
  | ok a => exact .inl ⟨a, _, _, rfl, rfl, ok a hvalue⟩
  | error e => exact .inr ⟨e, _, _, rfl, rfl, error e hvalue⟩

protected theorem outcome {succeeded : Except Failure α → Session × σ → Session × σ → Prop}
    {failed : Failure → Session × σ → Session × σ → Prop}
    (h : Coincides x p p' (fun a q q' => succeeded (.ok a) q q') fun e q q' => succeeded (.error e) q q') :
    Coincides (ExceptT.lift x.run) p p' succeeded failed := by
  refine .inl ?_
  simp only [runFrom_outcome]
  rcases h with ⟨a, q, q', hq, hq', hs⟩ | ⟨e, q, q', hq, hq', hs⟩
  · rw [hq, hq']
    exact ⟨_, q, q', rfl, rfl, hs⟩
  · rw [hq, hq']
    exact ⟨_, q, q', rfl, rfl, hs⟩

theorem mono {succeeded succeeded' : α → Session × σ → Session × σ → Prop}
    {failed failed' : Failure → Session × σ → Session × σ → Prop} (h : Coincides x p p' succeeded failed)
    (hs : ∀ a q q', succeeded a q q' → succeeded' a q q') (hf : ∀ e q q', failed e q q' → failed' e q q') :
    Coincides x p p' succeeded' failed' := by
  rcases h with ⟨a, q, q', hq, hq', h⟩ | ⟨e, q, q', hq, hq', h⟩
  · exact .inl ⟨a, q, q', hq, hq', hs _ _ _ h⟩
  · exact .inr ⟨e, q, q', hq, hq', hf _ _ _ h⟩

theorem of_leads {result : Except Failure α} {S S' : α → Session × σ → Prop} {F F' : Session × σ → Prop}
    (h : x.Leads p (fun a q => result = .ok a ∧ S a q) fun e q => result = .error e ∧ F q)
    (h' : x.Leads p' (fun a q => result = .ok a ∧ S' a q) fun e q => result = .error e ∧ F' q) :
    Coincides x p p' (fun a q q' => S a q ∧ S' a q') fun _ q q' => F q ∧ F' q' := by
  rcases hq : x.runFrom p with ⟨e | a, q⟩ <;> rcases hq' : x.runFrom p' with ⟨e' | a', q'⟩
  · obtain ⟨rfl, hF⟩ := h.2 _ _ hq
    obtain ⟨he, hF'⟩ := h'.2 _ _ hq'
    cases he
    exact .inr ⟨e, q, q', hq, hq', hF, hF'⟩
  · have hok := (h'.1 _ _ hq').1
    rw [(h.2 _ _ hq).1] at hok
    cases hok
  · have hok := (h.1 _ _ hq).1
    rw [(h'.2 _ _ hq').1] at hok
    cases hok
  · obtain ⟨rfl, hS⟩ := h.1 _ _ hq
    obtain ⟨ha, hS'⟩ := h'.1 _ _ hq'
    cases ha
    exact .inl ⟨a, q, q', hq, hq', hS, hS'⟩

end Coincides

end SpacewalkAcquire.SessionT
