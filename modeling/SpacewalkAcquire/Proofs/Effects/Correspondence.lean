import SpacewalkAcquire.Session

/-!
# Computations in corresponding monads

The program is written for every monad, so it cannot tell surroundings apart that correspond.

* `Correspondence m n` : a relation between computations of two monads that values and sequencing respect;
* `Correspondence.exceptT`, `stateT`, `session` : the relation for computations that fail, keep a state, use a session;
* `session_get`, `session_modify`, `session_throw`, `session_ofEnvironment` : what a session can do, in both monads.
-/

namespace SpacewalkAcquire

/-- A relation between computations in `m` and in `n` that values and sequencing respect. -/
structure Correspondence (m n : Type → Type) [Monad m] [Monad n] where
  Rel {α : Type} : m α → n α → Prop
  pure {α : Type} (a : α) : Rel (pure a) (pure a)
  bind {α β : Type} {x : m α} {y : n α} {f : α → m β} {g : α → n β} :
    Rel x y → (∀ a, Rel (f a) (g a)) → Rel (x >>= f) (y >>= g)

namespace Correspondence

variable {m n : Type → Type} [Monad m] [Monad n]

def exceptT (R : Correspondence m n) (ε : Type) : Correspondence (ExceptT ε m) (ExceptT ε n) where
  Rel x y := R.Rel x.run y.run
  pure a := R.pure (Except.ok a)
  bind hx hf := R.bind hx fun
    | .ok a => hf a
    | .error e => R.pure (Except.error e)

def stateT (R : Correspondence m n) (s : Type) : Correspondence (StateT s m) (StateT s n) where
  Rel x y := ∀ state, R.Rel (x.run state) (y.run state)
  pure a state := R.pure (a, state)
  bind hx hf state := R.bind (hx state) fun p => hf p.1 p.2

def session (R : Correspondence m n) : Correspondence (SessionT m) (SessionT n) := (R.stateT Session).exceptT Failure

variable (R : Correspondence m n)

theorem map [LawfulMonad m] [LawfulMonad n] {α β : Type} {x : m α} {y : n α} (h : R.Rel x y) (f : α → β) :
    R.Rel (f <$> x) (f <$> y) := by
  rw [map_eq_pure_bind, map_eq_pure_bind]
  exact R.bind h fun a => R.pure (f a)

theorem discard [LawfulMonad m] [LawfulMonad n] {α : Type} {x : m α} {y : n α} (h : R.Rel x y) :
    R.Rel (discard x) (discard y) := by
  show R.Rel (Functor.mapConst () x) (Functor.mapConst () y)
  rw [LawfulFunctor.map_const, LawfulFunctor.map_const]
  exact R.map h _

/-! ## What a failing computation can do -/

theorem exceptT_throw {ε α : Type} (e : ε) :
    (R.exceptT ε).Rel (throw e : ExceptT ε m α) (throw e : ExceptT ε n α) := by
  show R.Rel (Pure.pure (Except.error e)) (Pure.pure (Except.error e))
  exact R.pure _

theorem exceptT_monadLift [LawfulMonad m] [LawfulMonad n] {ε α : Type} {x : m α} {y : n α} (h : R.Rel x y) :
    (R.exceptT ε).Rel (liftM x : ExceptT ε m α) (liftM y : ExceptT ε n α) := by
  show R.Rel (Except.ok <$> x) (Except.ok <$> y)
  exact R.map h _

/-! ## What a session can do -/

theorem session_throw {α : Type} (e : Failure) :
    R.session.Rel (throw e : SessionT m α) (throw e : SessionT n α) := (R.stateT Session).exceptT_throw e

theorem session_liftExcept {α : Type} (x : Except Failure α) :
    R.session.Rel (liftExcept x : SessionT m α) (liftExcept x : SessionT n α) := by
  cases x with
  | ok a => exact R.session.pure a
  | error e => exact R.session_throw e

theorem session_get : R.session.Rel (get : SessionT m Session) (get : SessionT n Session) := by
  intro s
  show R.Rel (Pure.pure (s, s) >>= fun p => Pure.pure (Except.ok p.1, p.2)) _
  exact R.bind (R.pure _) fun p => R.pure _

theorem session_modify (f : Session → Session) :
    R.session.Rel (modify f : SessionT m Unit) (modify f : SessionT n Unit) := by
  intro s
  show R.Rel (Pure.pure ((), f s) >>= fun p => Pure.pure (Except.ok p.1, p.2)) _
  exact R.bind (R.pure _) fun p => R.pure _

theorem session_ofEnvironment {α : Type} {x : m (Except Failure α)} {y : n (Except Failure α)} (h : R.Rel x y) :
    R.session.Rel (SessionT.ofEnvironment x) (SessionT.ofEnvironment y) := by
  intro s
  show R.Rel (x >>= fun r => Pure.pure (r, s)) (y >>= fun r => Pure.pure (r, s))
  exact R.bind h fun r => R.pure _

/-- The outcome of `x.run`, failures included, as a value. -/
theorem session_outcome [LawfulMonad m] [LawfulMonad n] {α : Type} {x : SessionT m α} {y : SessionT n α}
    (h : R.session.Rel x y) : R.session.Rel (ExceptT.lift x.run) (ExceptT.lift y.run) :=
  (R.stateT Session).exceptT_monadLift h

end Correspondence

end SpacewalkAcquire
