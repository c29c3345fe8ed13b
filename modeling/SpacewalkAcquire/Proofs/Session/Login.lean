import SpacewalkAcquire.Proofs.Session.RunFrom
import SpacewalkAcquire.Transfer

/-!
# Who touches the credentials

* `LeavesLogin x` : the computation `x` leaves the credentials of the session as they are;
* `ensureConnection_leavesLogin`, `checkHost_leavesLogin`, `locate_leavesLogin`, … : everything but the login does;
* `isLoggedIn_of_ensureCredentials` : a login that succeeds is remembered.
-/

namespace SpacewalkAcquire

open SessionT

variable {σ α β : Type}

def LeavesLogin (x : SessionT (StateM σ) α) : Prop := ∀ p, (x.runFrom p).2.1.credentials? = p.1.credentials?

namespace LeavesLogin

protected theorem pure (a : α) : LeavesLogin (pure a : SessionT (StateM σ) α) := fun _ => rfl

protected theorem throw (e : Failure) : LeavesLogin (throw e : SessionT (StateM σ) α) := fun _ => rfl

protected theorem get : LeavesLogin (get : SessionT (StateM σ) Session) := fun _ => rfl

protected theorem modify {f : Session → Session} (h : ∀ s, (f s).credentials? = s.credentials?) :
    LeavesLogin (modify f : SessionT (StateM σ) Unit) := fun p => h p.1

theorem ofEnvironment (step : StateM σ (Except Failure α)) : LeavesLogin (SessionT.ofEnvironment step) := fun _ => rfl

theorem liftExcept (x : Except Failure α) : LeavesLogin (liftExcept x : SessionT (StateM σ) α) := by
  intro p
  rw [runFrom_liftExcept]

protected theorem bind {x : SessionT (StateM σ) α} {f : α → SessionT (StateM σ) β} (hx : LeavesLogin x)
    (hf : ∀ a, LeavesLogin (f a)) : LeavesLogin (x >>= f) := by
  intro p
  have h := hx p
  rw [runFrom_bind]
  revert h
  rcases x.runFrom p with ⟨result, q⟩
  intro h
  cases result with
  | error e => exact h
  | ok a => exact (hf a q).trans h

theorem discard {x : SessionT (StateM σ) α} (hx : LeavesLogin x) : LeavesLogin (Functor.discard x) := by
  rw [discard_eq_bind]
  exact hx.bind fun _ => .pure ()

end LeavesLogin

namespace Session

variable (sources : Sources (StateM σ))

theorem currentServer_leavesLogin : LeavesLogin (currentServer : SessionT (StateM σ) Server) := by
  unfold currentServer
  refine LeavesLogin.get.bind fun s => ?_
  cases s.server? with
  | some server => exact .pure _
  | none => exact .throw _

theorem ensureServer_leavesLogin : LeavesLogin (ensureServer sources) := by
  unfold ensureServer
  refine LeavesLogin.get.bind fun s => ?_
  cases s.server? with
  | some server => exact .pure _
  | none =>
    refine (LeavesLogin.ofEnvironment _).bind fun server => ?_
    exact .bind (.modify (by intro s; rfl)) fun _ => .pure _

theorem ensureChannels_leavesLogin : LeavesLogin (ensureChannels sources) := by
  unfold ensureChannels
  refine LeavesLogin.get.bind fun s => ?_
  cases s.channels? with
  | some channels => exact .pure _
  | none =>
    refine (ensureServer_leavesLogin sources).bind fun server => ?_
    refine (LeavesLogin.ofEnvironment _).bind fun channels => ?_
    refine (LeavesLogin.liftExcept _).discard.bind fun _ => ?_
    exact .bind (.modify (by intro s; rfl)) fun _ => .pure _

theorem baseChannel_leavesLogin : LeavesLogin (baseChannel sources) :=
  (ensureChannels_leavesLogin sources).bind fun _ => .liftExcept _

theorem ensureHeaders_leavesLogin : LeavesLogin (ensureHeaders : SessionT (StateM σ) (OrderedMap String String)) := by
  unfold ensureHeaders
  refine LeavesLogin.get.bind fun s => ?_
  cases s.headers? with
  | some headers => exact .pure _
  | none =>
    refine LeavesLogin.get.bind fun s => ?_
    cases s.credentials? with
    | none => exact .throw _
    | some credentials =>
      refine (LeavesLogin.liftExcept _).bind fun headers => ?_
      exact .bind (.modify (by intro s; rfl)) fun _ => .pure _

theorem ensureConnection_leavesLogin : LeavesLogin (ensureConnection sources) := by
  unfold ensureConnection
  refine LeavesLogin.get.bind fun s => ?_
  cases s.connection? with
  | some connection => exact .pure _
  | none =>
    refine (ensureServer_leavesLogin sources).bind fun server => ?_
    refine (LeavesLogin.ofEnvironment _).bind fun connection => ?_
    exact .bind (.modify (by intro s; rfl)) fun _ => .pure _

/-- Credentials that are given are kept. -/
theorem isLoggedIn_of_ensureCredentials {p q : Session × σ} {credentials : Credentials}
    (h : (ensureCredentials sources).runFrom p = (.ok credentials, q)) : q.1.isLoggedIn = true := by
  unfold ensureCredentials at h
  rw [runFrom_bind, runFrom_get] at h
  dsimp only at h
  cases hc : p.1.credentials? with
  | some known =>
    rw [hc, runFrom_pure, Prod.mk.injEq] at h
    rw [isLoggedIn, ← h.2, hc, Option.isSome_some]
  | none =>
    rw [hc] at h
    obtain ⟨server, _, -, h⟩ := runFrom_bind_ok h
    obtain ⟨answer, r, -, h⟩ := runFrom_bind_ok h
    cases answer with
    | none =>
      rw [runFrom_throw, Prod.mk.injEq] at h
      cases h.1
    | some given =>
      dsimp only at h
      split at h
      · rw [runFrom_bind, runFrom_throw, Prod.mk.injEq] at h
        cases h.1
      · rw [runFrom_bind, runFrom_modify] at h
        dsimp only at h
        rw [runFrom_pure, Prod.mk.injEq] at h
        rw [isLoggedIn, ← h.2, Option.isSome_some]

end Session

namespace Transfer

variable (sources : Sources (StateM σ))

theorem checkHost_leavesLogin (request : Request) : LeavesLogin (checkHost sources request) := by
  unfold checkHost
  refine (Session.ensureServer_leavesLogin sources).bind fun server => ?_
  split
  · exact .throw _
  · exact .pure _

theorem locate_leavesLogin (request : Request) : LeavesLogin (locate sources request) := by
  unfold locate
  refine (Session.baseChannel_leavesLogin sources).bind fun label => ?_
  refine Session.ensureHeaders_leavesLogin.bind fun headers => ?_
  refine (LeavesLogin.liftExcept _).bind fun headers => ?_
  refine Session.currentServer_leavesLogin.bind fun server => ?_
  refine (LeavesLogin.liftExcept _).bind fun address => ?_
  exact (Session.ensureConnection_leavesLogin sources).bind fun connection => .pure _

theorem ask_leavesLogin (env : Environment (StateM σ)) (uri : String) (connection : Connection)
    (content : Http.Request) : LeavesLogin (ask env uri connection content) := by
  unfold ask
  refine (LeavesLogin.ofEnvironment _).bind fun result => ?_
  cases result with
  | error why => exact .throw _
  | ok reply =>
    dsimp only
    split
    · exact .throw _
    · exact .pure _

theorem receive_leavesLogin (env : Environment (StateM σ)) (request : Request) (reply : Http.Reply) :
    LeavesLogin (receive env request reply) := (LeavesLogin.ofEnvironment _).bind fun _ => .pure _

end Transfer

end SpacewalkAcquire
