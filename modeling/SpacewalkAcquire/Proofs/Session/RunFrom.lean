import SpacewalkAcquire.Session

/-!
# Sessions in a world

* `SessionT.runFrom x p` : what the computation `x` gives from a session and a world, and the session and world after
  it;
* `runFrom_bind` and its like : the computation one step after the other; `runFrom_bind_ok` for one that succeeds;
* `Leads x p succeeded failed` : what holds after the computation, whether it succeeds or fails;
* `Session.runFrom_ensureServer` and its like : what is established is not looked for again.
-/

namespace SpacewalkAcquire

namespace SessionT

variable {σ α β : Type}

/-- The result of `x` from a session and a world, and the session and world after it. -/
def runFrom (x : SessionT (StateM σ) α) (p : Session × σ) : Except Failure α × (Session × σ) :=
  let after := x.run.run p.1 |>.run p.2
  (after.1.1, after.1.2, after.2)

variable (p : Session × σ)

@[simp] theorem runFrom_pure (a : α) : runFrom (pure a : SessionT (StateM σ) α) p = (.ok a, p) := rfl

@[simp] theorem runFrom_throw (e : Failure) : runFrom (throw e : SessionT (StateM σ) α) p = (.error e, p) := rfl

@[simp] theorem runFrom_get : runFrom (get : SessionT (StateM σ) Session) p = (.ok p.1, p) := rfl

@[simp] theorem runFrom_modify (f : Session → Session) :
    runFrom (modify f : SessionT (StateM σ) Unit) p = (.ok (), f p.1, p.2) := rfl

@[simp] theorem runFrom_ofEnvironment (step : StateM σ (Except Failure α)) :
    runFrom (ofEnvironment step) p = ((step p.2).1, p.1, (step p.2).2) := rfl

@[simp] theorem runFrom_outcome (x : SessionT (StateM σ) α) :
    runFrom (ExceptT.lift x.run : SessionT (StateM σ) (Except Failure α)) p = (.ok (x.runFrom p).1, (x.runFrom p).2) :=
  rfl

@[simp] theorem runFrom_liftExcept (x : Except Failure α) :
    runFrom (liftExcept x : SessionT (StateM σ) α) p = (x, p) := by
  cases x <;> rfl

/-- A failure of `x` ends the computation; otherwise `f` goes on from where `x` stands. -/
theorem runFrom_bind (x : SessionT (StateM σ) α) (f : α → SessionT (StateM σ) β) :
    runFrom (x >>= f) p = match runFrom x p with
      | (.ok a, q) => runFrom (f a) q
      | (.error e, q) => (.error e, q) := by
  have hrun : ((x >>= f).run.run p.1).run p.2 =
      ((ExceptT.bindCont f ((x.run.run p.1).run p.2).1.1).run ((x.run.run p.1).run p.2).1.2).run
        ((x.run.run p.1).run p.2).2 := rfl
  unfold runFrom
  rw [hrun]
  rcases (x.run.run p.1).run p.2 with ⟨⟨result, s⟩, w⟩
  cases result <;> rfl

theorem runFrom_bind_ok {x : SessionT (StateM σ) α} {f : α → SessionT (StateM σ) β} {p r : Session × σ} {b : β}
    (h : runFrom (x >>= f) p = (.ok b, r)) : ∃ a q, runFrom x p = (.ok a, q) ∧ runFrom (f a) q = (.ok b, r) := by
  rw [runFrom_bind] at h
  cases hx : runFrom x p with
  | mk result q =>
    rw [hx] at h
    cases result with
    | ok a => exact ⟨a, q, rfl, h⟩
    | error e => cases h

theorem discard_eq_bind (x : SessionT (StateM σ) α) : Functor.discard x = x >>= fun _ => pure () := by
  show Functor.mapConst () x = _
  rw [LawfulFunctor.map_const]
  show (fun _ => ()) <$> x = _
  rw [map_eq_pure_bind]

/-- What holds after `x`: one thing if it succeeds, another if it fails. -/
def Leads (x : SessionT (StateM σ) α) (p : Session × σ) (succeeded : α → Session × σ → Prop)
    (failed : Failure → Session × σ → Prop) : Prop :=
  (∀ a q, x.runFrom p = (.ok a, q) → succeeded a q) ∧ ∀ e q, x.runFrom p = (.error e, q) → failed e q

namespace Leads

variable {p : Session × σ} {x : SessionT (StateM σ) α} {f : α → SessionT (StateM σ) β}

protected theorem pure {a : α} {succeeded : α → Session × σ → Prop} {failed : Failure → Session × σ → Prop}
    (h : succeeded a p) : Leads (pure a) p succeeded failed := by
  refine ⟨fun b q hq => ?_, fun e q hq => ?_⟩
  · cases hq
    exact h
  · cases hq

protected theorem throw {e : Failure} {succeeded : α → Session × σ → Prop} {failed : Failure → Session × σ → Prop}
    (h : failed e p) : Leads (throw e) p succeeded failed := by
  refine ⟨fun b q hq => ?_, fun e q hq => ?_⟩
  · cases hq
  · cases hq
    exact h

theorem of_runFrom {a : α} {q : Session × σ} {succeeded : α → Session × σ → Prop}
    {failed : Failure → Session × σ → Prop}
    (hx : x.runFrom p = (.ok a, q)) (h : succeeded a q) : Leads x p succeeded failed := by
  refine ⟨fun b r hr => ?_, fun e r hr => ?_⟩
  · rw [hx] at hr
    cases hr
    exact h
  · rw [hx] at hr
    cases hr

protected theorem bind {succeeded : β → Session × σ → Prop} {failed : Failure → Session × σ → Prop}
    (h : Leads x p (fun a q => Leads (f a) q succeeded failed) failed) : Leads (x >>= f) p succeeded failed := by
  unfold Leads
  rw [runFrom_bind]
  rcases hx : x.runFrom p with ⟨result, q⟩
  cases result with
  | ok a => exact h.1 a q hx
  | error e =>
    refine ⟨fun b r hr => ?_, fun e r hr => ?_⟩
    · cases hr
    · cases hr
      exact h.2 _ _ hx

protected theorem get {succeeded : Session → Session × σ → Prop} {failed : Failure → Session × σ → Prop}
    (h : succeeded p.1 p) : Leads (get : SessionT (StateM σ) Session) p succeeded failed := by
  refine ⟨fun b q hq => ?_, fun e q hq => ?_⟩
  · rw [runFrom_get, Prod.mk.injEq, Except.ok.injEq] at hq
    rwa [← hq.1, ← hq.2]
  · cases hq

protected theorem modify {g : Session → Session} {succeeded : Unit → Session × σ → Prop}
    {failed : Failure → Session × σ → Prop} (h : succeeded () (g p.1, p.2)) :
    Leads (modify g : SessionT (StateM σ) Unit) p succeeded failed := by
  refine ⟨fun a q hq => ?_, fun e q hq => ?_⟩
  · cases hq
    exact h
  · cases hq

protected theorem ofEnvironment {step : StateM σ (Except Failure α)} {succeeded : α → Session × σ → Prop}
    {failed : Failure → Session × σ → Prop} (ok : ∀ a w, step p.2 = (.ok a, w) → succeeded a (p.1, w))
    (error : ∀ e w, step p.2 = (.error e, w) → failed e (p.1, w)) :
    Leads (ofEnvironment step) p succeeded failed := by
  refine ⟨fun a q hq => ?_, fun e q hq => ?_⟩
  · rw [runFrom_ofEnvironment, Prod.mk.injEq] at hq
    obtain ⟨hvalue, rfl⟩ := hq
    exact ok a _ (Prod.ext hvalue rfl)
  · rw [runFrom_ofEnvironment, Prod.mk.injEq] at hq
    obtain ⟨hvalue, rfl⟩ := hq
    exact error e _ (Prod.ext hvalue rfl)

protected theorem liftExcept {x : Except Failure α} {succeeded : α → Session × σ → Prop}
    {failed : Failure → Session × σ → Prop} (ok : ∀ a, x = .ok a → succeeded a p)
    (error : ∀ e, x = .error e → failed e p) : Leads (liftExcept x : SessionT (StateM σ) α) p succeeded failed := by
  refine ⟨fun a q hq => ?_, fun e q hq => ?_⟩
  · rw [runFrom_liftExcept, Prod.mk.injEq] at hq
    obtain ⟨hvalue, rfl⟩ := hq
    exact ok a hvalue
  · rw [runFrom_liftExcept, Prod.mk.injEq] at hq
    obtain ⟨hvalue, rfl⟩ := hq
    exact error e hvalue

protected theorem discard {succeeded : Unit → Session × σ → Prop} {failed : Failure → Session × σ → Prop}
    (h : Leads x p (fun _ q => succeeded () q) failed) : Leads (Functor.discard x) p succeeded failed := by
  rw [discard_eq_bind]
  exact .bind ⟨fun a q hq => .pure (h.1 a q hq), h.2⟩

protected theorem outcome {succeeded : Except Failure α → Session × σ → Prop}
    {failed : Failure → Session × σ → Prop}
    (h : Leads x p (fun a q => succeeded (.ok a) q) fun e q => succeeded (.error e) q) :
    Leads (ExceptT.lift x.run) p succeeded failed := by
  refine ⟨fun result q hq => ?_, fun e q hq => ?_⟩
  · rw [runFrom_outcome] at hq
    cases hq
    cases hr : x.runFrom p with
    | mk result q =>
      cases result with
      | ok a => exact h.1 a q hr
      | error e => exact h.2 e q hr
  · rw [runFrom_outcome] at hq
    cases hq

protected theorem and {succeeded succeeded' : α → Session × σ → Prop} {failed failed' : Failure → Session × σ → Prop}
    (h : Leads x p succeeded failed) (h' : Leads x p succeeded' failed') :
    Leads x p (fun a q => succeeded a q ∧ succeeded' a q) fun e q => failed e q ∧ failed' e q :=
  ⟨fun a q hq => ⟨h.1 a q hq, h'.1 a q hq⟩, fun e q hq => ⟨h.2 e q hq, h'.2 e q hq⟩⟩

theorem mono {succeeded succeeded' : α → Session × σ → Prop} {failed failed' : Failure → Session × σ → Prop}
    (h : Leads x p succeeded failed) (hs : ∀ a q, succeeded a q → succeeded' a q)
    (hf : ∀ e q, failed e q → failed' e q) : Leads x p succeeded' failed' :=
  ⟨fun a q hq => hs a q (h.1 a q hq), fun e q hq => hf e q (h.2 e q hq)⟩

theorem either {P : Session × σ → Prop} (h : Leads x p (fun _ q => P q) fun _ q => P q) : P (x.runFrom p).2 := by
  rcases hx : x.runFrom p with ⟨_ | _, q⟩
  · exact h.2 _ _ hx
  · exact h.1 _ _ hx

end Leads

end SessionT

/-! ## What is established is not looked for again -/

namespace Session

open SessionT

variable {σ : Type} {sources : Sources (StateM σ)} {p : Session × σ}

theorem runFrom_currentServer {server : Server} (h : p.1.server? = some server) :
    (currentServer : SessionT (StateM σ) Server).runFrom p = (.ok server, p) := by
  unfold currentServer
  rw [runFrom_bind, runFrom_get]
  dsimp only
  rw [h, runFrom_pure]

theorem runFrom_ensureServer {server : Server} (h : p.1.server? = some server) :
    (ensureServer sources).runFrom p = (.ok server, p) := by
  unfold ensureServer
  rw [runFrom_bind, runFrom_get]
  dsimp only
  rw [h, runFrom_pure]

theorem runFrom_ensureConnection {connection : Connection} (h : p.1.connection? = some connection) :
    (ensureConnection sources).runFrom p = (.ok connection, p) := by
  unfold ensureConnection
  rw [runFrom_bind, runFrom_get]
  dsimp only
  rw [h, runFrom_pure]

theorem runFrom_ensureConnection_ofServer (sources : Sources (StateM σ)) (server : Server) (w : σ) :
    (ensureConnection sources).runFrom (.ofServer server, w) = match sources.connect server w with
      | (.ok connection, w') => (.ok connection, { ofServer server with connection? := some connection }, w')
      | (.error e, w') => (.error e, .ofServer server, w') := by
  have hserver : (ensureServer sources).runFrom (.ofServer server, w) = (.ok server, .ofServer server, w) :=
    runFrom_ensureServer rfl
  unfold ensureConnection
  rw [runFrom_bind, runFrom_get]
  show ((ensureServer sources >>= _ : SessionT (StateM σ) Connection)).runFrom _ = _
  rw [runFrom_bind, hserver]
  dsimp only
  rw [runFrom_bind, runFrom_ofEnvironment]
  rcases sources.connect server w with ⟨_ | connection, w'⟩ <;> rfl

end Session

end SpacewalkAcquire
