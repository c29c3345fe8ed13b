import SpacewalkAcquire.Proofs.Effects.Program
import SpacewalkAcquire.Proofs.Session.Steps

/-!
# What a session holds

* `Session.Operation`, `Session.after` : what can be asked of a session, and where any sequence of it leads;
* `Session.Sound`, `Session.Keeps` : what is in a session fits together, and stays once it is there;
* `Asked σ`, `Sources.asked` : sources that keep a log of the answers to logins and listings;
* `Session.Heard` : such a log holds what was refused, and then what the session has kept;
* `cache_sound` : all of this after every sequence of operations.
-/

namespace SpacewalkAcquire

/-- A world, and what was answered in it to logins and listings. -/
structure Asked (σ : Type) where
  world : σ
  logins : List (Except Failure (Option Credentials))
  listings : List (Except Failure (List Channel))

def Asked.new {σ : Type} (w : σ) : Asked σ := ⟨w, [], []⟩

/-- The same sources, with a log of the answers to `login` and `channels`. -/
def Sources.asked {σ : Type} (sources : Sources (StateM σ)) : Sources (StateM (Asked σ)) where
  configuration a :=
    let answer := sources.configuration a.world
    (answer.1, { a with world := answer.2 })
  accounts :=
    { login := fun server a =>
        let answer := sources.accounts.login server a.world
        (answer.1, { a with world := answer.2, logins := a.logins ++ [answer.1] })
      channels := fun server a =>
        let answer := sources.accounts.channels server a.world
        (answer.1, { a with world := answer.2, listings := a.listings ++ [answer.1] }) }
  connect server a :=
    let answer := sources.connect server a.world
    (answer.1, { a with world := answer.2 })

namespace Session

open SessionT

/-! ## Operations -/

/-- What can be asked of a session. -/
inductive Operation where
  | server
  | credentials
  | channels
  | baseChannel
  | headers
  | connection
  | close
  deriving DecidableEq, Repr

def Operation.perform {m : Type → Type} [Monad m] (sources : Sources m) : Operation → SessionT m Unit
  | server => discard <| ensureServer sources
  | credentials => discard <| ensureCredentials sources
  | channels => discard <| ensureChannels sources
  | baseChannel => discard <| Session.baseChannel sources
  | headers => discard ensureHeaders
  | connection => discard <| ensureConnection sources
  | close => Session.close

variable {σ : Type}

/-- Where a session and its world stand after `ops`, whether these fail or not. -/
def after (sources : Sources (StateM σ)) (ops : List Operation) (p : Session × σ) : Session × σ :=
  ops.foldl (fun p op => ((op.perform sources).runFrom p).2) p

def begin : Option Server → Session
  | none => .new
  | some server => .ofServer server

def withoutConnection (s : Session) : Session := { s with connection? := none }

theorem perform_steps (sources : Sources (StateM σ)) (op : Operation) (p : Session × σ) :
    (op.perform sources).Leads p
      (fun _ q => Steps sources p q ∨ op = .close ∧ q = (p.1.withoutConnection, p.2))
      (fun _ q => Steps sources p q ∧ UpToServer p.1 q.1) := by
  cases op with
  | server => exact .discard ((ensureServer_steps sources p).mono (fun _ _ h => .inl h.1) fun _ _ h => h)
  | credentials => exact .discard ((ensureCredentials_steps sources p).mono (fun _ _ h => .inl h.1) fun _ _ h => h)
  | channels => exact .discard ((ensureChannels_steps sources p).mono (fun _ _ h => .inl h.1) fun _ _ h => h)
  | baseChannel => exact .discard ((baseChannel_steps sources p).mono (fun _ _ h => .inl h.1) fun _ _ h => h)
  | headers => exact .discard ((ensureHeaders_steps sources p).mono (fun _ _ h => .inl h.1) fun _ _ h => h)
  | connection => exact .discard ((ensureConnection_steps sources p).mono (fun _ _ h => .inl h.1) fun _ _ h => h)
  | close => exact .modify (.inr ⟨rfl, rfl⟩)

theorem perform_cases (sources : Sources (StateM σ)) (op : Operation) (p : Session × σ) :
    let q := ((op.perform sources).runFrom p).2
    Steps sources p q ∨ op = .close ∧ q = (p.1.withoutConnection, p.2) :=
  Leads.either ((perform_steps sources op p).mono (fun _ _ h => h) fun _ _ h => .inl h.1)

/-- What every `Step` preserves, and giving up the connection, holds after all operations. -/
theorem after_induction {sources : Sources (StateM σ)} {motive : Session × σ → Prop}
    (step : ∀ {p q}, Step sources p q → motive p → motive q)
    (close : ∀ {p : Session × σ}, motive p → motive (p.1.withoutConnection, p.2)) (ops : List Operation)
    {p : Session × σ} (h : motive p) : motive (after sources ops p) := by
  induction ops generalizing p with
  | nil => exact h
  | cons op rest ih =>
    refine ih ?_
    have hcases := perform_cases sources op p
    dsimp only at hcases ⊢
    generalize ((op.perform sources).runFrom p).2 = q at hcases ⊢
    rcases hcases with hsteps | ⟨-, rfl⟩
    · induction hsteps with
      | refl => exact h
      | tail _ hstep ih => exact step hstep ih
    · exact close h

/-! ## What is in a session -/

/-- What is in a session fits together: credentials are not empty, channels have a base channel, and headers come from
the credentials. -/
structure Sound (s : Session) : Prop where
  credentials : ∀ credentials, s.credentials? = some credentials → credentials.isEmpty = false
  channels : ∀ channels, s.channels? = some channels → ∃ label, Channel.baseLabel channels = .ok label
  headers : ∀ headers, s.headers? = some headers →
    ∃ credentials, s.credentials? = some credentials ∧ credentials.headers = .ok headers

/-- What is in `s` stays in `t`. Only the connection may be gone. -/
structure Keeps (s t : Session) : Prop where
  server : ∀ server, s.server? = some server → t.server? = some server
  credentials : ∀ credentials, s.credentials? = some credentials → t.credentials? = some credentials
  channels : ∀ channels, s.channels? = some channels → t.channels? = some channels
  headers : ∀ headers, s.headers? = some headers → t.headers? = some headers

theorem sound_begin (known : Option Server) : (begin known).Sound := by
  cases known <;> exact ⟨fun _ h => (nomatch h), fun _ h => (nomatch h), fun _ h => (nomatch h)⟩

theorem Sound.withoutConnection {s : Session} (h : s.Sound) : s.withoutConnection.Sound :=
  ⟨h.credentials, h.channels, h.headers⟩

theorem Keeps.refl (s : Session) : s.Keeps s := ⟨fun _ h => h, fun _ h => h, fun _ h => h, fun _ h => h⟩

theorem Keeps.trans {s t u : Session} (h : s.Keeps t) (h' : t.Keeps u) : s.Keeps u :=
  ⟨fun x hx => h'.server x (h.server x hx), fun x hx => h'.credentials x (h.credentials x hx),
    fun x hx => h'.channels x (h.channels x hx), fun x hx => h'.headers x (h.headers x hx)⟩

theorem keeps_withoutConnection (s : Session) : s.Keeps s.withoutConnection :=
  ⟨fun _ h => h, fun _ h => h, fun _ h => h, fun _ h => h⟩

section Steps

variable {sources : Sources (StateM σ)} {p q : Session × σ}

/-- A `Step` fills what is empty with what fits. -/
theorem Step.sound (h : Step sources p q) (hp : p.1.Sound) : q.1.Sound := by
  cases h with
  | server | noServer | noCredentials | noChannels | connection | noConnection =>
    exact ⟨hp.credentials, hp.channels, hp.headers⟩
  | @credentials s _ _ _ given hnone _ _ hsome =>
    refine ⟨fun c hc => ?_, hp.channels, fun headers hheaders => ?_⟩
    · cases hc
      exact hsome
    · obtain ⟨c, hc, -⟩ := hp.headers headers hheaders
      rw [hnone] at hc
      cases hc
  | channels hnone _ _ hlabel =>
    refine ⟨hp.credentials, fun channels hchannels => ?_, hp.headers⟩
    cases hchannels
    exact ⟨_, hlabel⟩
  | headers hnone hcredentials hheaders =>
    refine ⟨hp.credentials, hp.channels, fun headers h => ?_⟩
    cases h
    exact ⟨_, hcredentials, hheaders⟩

/-- A `Step` fills nothing that is full. -/
theorem Step.keeps (h : Step sources p q) :
    p.1.Keeps q.1 ∧ ∀ connection, p.1.connection? = some connection → q.1.connection? = some connection := by
  have hfull {α : Type} {slot : Option α} {x y : α} (hnone : slot = none) (hx : slot = some x) : some y = some x := by
    rw [hnone] at hx
    cases hx
  cases h with
  | noServer | noCredentials | noChannels | noConnection => exact ⟨.refl _, fun _ h => h⟩
  | server hnone => exact ⟨{ Keeps.refl _ with server := fun _ h => hfull hnone h }, fun _ h => h⟩
  | credentials hnone => exact ⟨{ Keeps.refl _ with credentials := fun _ h => hfull hnone h }, fun _ h => h⟩
  | channels hnone => exact ⟨{ Keeps.refl _ with channels := fun _ h => hfull hnone h }, fun _ h => h⟩
  | headers hnone => exact ⟨{ Keeps.refl _ with headers := fun _ h => hfull hnone h }, fun _ h => h⟩
  | @connection s _ _ _ _ hnone =>
    have hkeeps : s.Keeps s := .refl s
    exact ⟨⟨hkeeps.server, hkeeps.credentials, hkeeps.channels, hkeeps.headers⟩, fun _ h => hfull hnone h⟩

theorem Steps.keeps (h : Steps sources p q) :
    p.1.Keeps q.1 ∧ ∀ connection, p.1.connection? = some connection → q.1.connection? = some connection := by
  induction h with
  | refl => exact ⟨.refl _, fun _ h => h⟩
  | tail _ hstep ih => exact ⟨ih.1.trans hstep.keeps.1, fun connection h => hstep.keeps.2 _ (ih.2 connection h)⟩

theorem keeps_after (ops : List Operation) : p.1.Keeps (after sources ops p).1 :=
  after_induction (motive := fun q => p.1.Keeps q.1) (fun hstep h => h.trans hstep.keeps.1)
    (fun h => h.trans (keeps_withoutConnection _)) ops (.refl _)

/-- `connection?` is given up by `close` alone. -/
theorem connection?_after {ops : List Operation} (hops : .close ∉ ops) {connection : Connection}
    (h : p.1.connection? = some connection) : (after sources ops p).1.connection? = some connection := by
  induction ops generalizing p with
  | nil => exact h
  | cons op rest ih =>
    rw [List.mem_cons, not_or] at hops
    refine ih hops.2 ?_
    rcases perform_cases sources op p with hsteps | ⟨hclose, -⟩
    · exact hsteps.keeps.2 connection h
    · exact (hops.1 hclose.symm).elim

end Steps

/-! ## What was asked -/

/-- `log` holds what was refused, and then what was `kept`, if anything. -/
def Refusals {α : Type} (accepts : α → Prop) (log : List α) (kept : Option α) : Prop :=
  ∃ refused, (∀ answer ∈ refused, ¬ accepts answer) ∧ log = refused ++ kept.toList

/-- Nothing is asked behind an answer that is accepted. -/
def LastIfAccepted {α : Type} (accepts : α → Prop) (log : List α) : Prop :=
  ∀ before answer behind, log = before ++ answer :: behind → accepts answer → behind = []

section Log

variable {α : Type} {accepts : α → Prop} {log : List α} {kept : Option α}

theorem Refusals.refuse {answer : α} (h : Refusals accepts log none) (hanswer : ¬ accepts answer) :
    Refusals accepts (log ++ [answer]) none := by
  obtain ⟨refused, hrefused, rfl⟩ := h
  refine ⟨refused ++ [answer], List.forall_mem_append.2 ⟨hrefused, List.forall_mem_singleton.2 hanswer⟩, ?_⟩
  simp

theorem Refusals.accept (h : Refusals accepts log none) (answer : α) :
    Refusals accepts (log ++ [answer]) (some answer) := by
  obtain ⟨refused, hrefused, rfl⟩ := h
  exact ⟨refused, hrefused, by simp⟩

theorem Refusals.lastIfAccepted (h : Refusals accepts log kept) : LastIfAccepted accepts log := by
  obtain ⟨refused, hrefused, rfl⟩ := h
  intro before answer behind hsplit haccepts
  rcases List.eq_nil_or_concat behind with rfl | ⟨init, last, rfl⟩
  · rfl
  · refine (hrefused answer ?_ haccepts).elim
    cases kept with
    | none =>
      rw [Option.toList_none, List.append_nil] at hsplit
      rw [hsplit]
      simp
    | some kept =>
      have hinit : refused = before ++ answer :: init := by
        have hsplit' : refused ++ [kept] = before ++ answer :: init ++ [last] := by simpa using hsplit
        exact (List.append_inj' hsplit' rfl).1
      rw [hinit]
      simp

end Log

/-- The logs hold what was refused, and then what the session has kept. -/
structure Heard (p : Session × Asked σ) : Prop where
  logins : Refusals AcceptsLogin p.2.logins (p.1.credentials?.map fun credentials => .ok (some credentials))
  listings : Refusals AcceptsListing p.2.listings (p.1.channels?.map .ok)

theorem heard_begin (known : Option Server) (w : σ) : Heard (begin known, .new w) := by
  cases known <;>
    exact ⟨⟨[], List.forall_mem_nil _, rfl⟩, ⟨[], List.forall_mem_nil _, rfl⟩⟩

section Asked

variable {sources : Sources (StateM σ)} {a a' : Asked σ} {server : Server}

theorem asked_configuration {result : Except Failure Server} (h : sources.asked.configuration a = (result, a')) :
    a'.logins = a.logins ∧ a'.listings = a.listings := by
  obtain ⟨-, rfl⟩ := Prod.mk.inj h
  exact ⟨rfl, rfl⟩

theorem asked_connect {result : Except Failure Connection} (h : sources.asked.connect server a = (result, a')) :
    a'.logins = a.logins ∧ a'.listings = a.listings := by
  obtain ⟨-, rfl⟩ := Prod.mk.inj h
  exact ⟨rfl, rfl⟩

theorem asked_login {answer : Except Failure (Option Credentials)}
    (h : sources.asked.accounts.login server a = (answer, a')) :
    a'.logins = a.logins ++ [answer] ∧ a'.listings = a.listings := by
  obtain ⟨rfl, rfl⟩ := Prod.mk.inj h
  exact ⟨rfl, rfl⟩

theorem asked_channels {answer : Except Failure (List Channel)}
    (h : sources.asked.accounts.channels server a = (answer, a')) :
    a'.logins = a.logins ∧ a'.listings = a.listings ++ [answer] := by
  obtain ⟨rfl, rfl⟩ := Prod.mk.inj h
  exact ⟨rfl, rfl⟩

/-- A `Step` asks because nothing was kept, and keeps what was answered. -/
theorem Step.heard {p q : Session × Asked σ} (h : Step sources.asked p q) (hp : Heard p) : Heard q := by
  obtain ⟨hlogins, hlistings⟩ := hp
  cases h with
  | server _ hread | noServer _ hread =>
    obtain ⟨hl, hc⟩ := asked_configuration hread
    exact ⟨hl ▸ hlogins, hc ▸ hlistings⟩
  | connection _ _ hread | noConnection _ _ hread =>
    obtain ⟨hl, hc⟩ := asked_connect hread
    exact ⟨hl ▸ hlogins, hc ▸ hlistings⟩
  | headers => exact ⟨hlogins, hlistings⟩
  | credentials hnone _ hlogin =>
    obtain ⟨hl, hc⟩ := asked_login hlogin
    rw [hnone] at hlogins
    exact ⟨hl ▸ hlogins.accept _, hc ▸ hlistings⟩
  | noCredentials hnone _ hlogin hrefused =>
    obtain ⟨hl, hc⟩ := asked_login hlogin
    rw [hnone] at hlogins
    refine ⟨?_, hc ▸ hlistings⟩
    rw [hl, hnone]
    exact hlogins.refuse hrefused
  | channels hnone _ hlisting =>
    obtain ⟨hl, hc⟩ := asked_channels hlisting
    rw [hnone] at hlistings
    exact ⟨hl ▸ hlogins, hc ▸ hlistings.accept _⟩
  | noChannels hnone _ hlisting hrefused =>
    obtain ⟨hl, hc⟩ := asked_channels hlisting
    rw [hnone] at hlistings
    refine ⟨hl ▸ hlogins, ?_⟩
    rw [hc, hnone]
    exact hlistings.refuse hrefused

end Asked

end Session

namespace Correspondence

variable {σ : Type}

def withoutLog (σ : Type) : Correspondence (StateM (Asked σ)) (StateM σ) where
  Rel x y := ∀ a, (x.run a).1 = (y.run a.world).1 ∧ (x.run a).2.world = (y.run a.world).2
  pure _ _ := ⟨rfl, rfl⟩
  bind {α β x y f g} hx hf a := by
    obtain ⟨hvalue, hworld⟩ := hx a
    have h := hf (x.run a).1 (x.run a).2
    rw [hworld] at h
    show (StateT.run (f (x.run a).1) (x.run a).2).1 = (StateT.run (g (y.run a.world).1) (y.run a.world).2).1 ∧
      (StateT.run (f (x.run a).1) (x.run a).2).2.world = (StateT.run (g (y.run a.world).1) (y.run a.world).2).2
    rwa [← hvalue]

theorem withoutLog_sources (sources : SpacewalkAcquire.Sources (StateM σ)) :
    (withoutLog σ).Sources sources.asked sources where
  configuration _ := ⟨rfl, rfl⟩
  login _ _ := ⟨rfl, rfl⟩
  channels _ _ := ⟨rfl, rfl⟩
  connect _ _ := ⟨rfl, rfl⟩

theorem perform_rel {m n : Type → Type} [Monad m] [Monad n] [LawfulMonad m] [LawfulMonad n] {R : Correspondence m n}
    {sources : SpacewalkAcquire.Sources m} {sources' : SpacewalkAcquire.Sources n} (h : R.Sources sources sources')
    (op : Session.Operation) : R.session.Rel (op.perform sources) (op.perform sources') := by
  cases op with
  | server => exact R.session.discard (ensureServer_rel h)
  | credentials => exact R.session.discard (ensureCredentials_rel h)
  | channels => exact R.session.discard (ensureChannels_rel h)
  | baseChannel => exact R.session.discard (baseChannel_rel h)
  | headers => exact R.session.discard ensureHeaders_rel
  | connection => exact R.session.discard (ensureConnection_rel h)
  | close => exact R.session_modify _

end Correspondence

namespace Session

open SessionT

variable {σ : Type}

theorem after_asked (sources : Sources (StateM σ)) (ops : List Operation) (s : Session) (a : Asked σ) :
    after sources ops (s, a.world) =
      ((after sources.asked ops (s, a)).1, (after sources.asked ops (s, a)).2.world) := by
  induction ops generalizing s a with
  | nil => rfl
  | cons op rest ih =>
    obtain ⟨hvalue, hworld⟩ := Correspondence.perform_rel (Correspondence.withoutLog_sources sources) op s a
    have hstep : ((op.perform sources).runFrom (s, a.world)).2 =
        (((op.perform sources.asked).runFrom (s, a)).2.1, ((op.perform sources.asked).runFrom (s, a)).2.2.world) :=
      Prod.ext (congrArg Prod.snd hvalue).symm hworld.symm
    show after sources rest ((op.perform sources).runFrom (s, a.world)).2 = _
    rw [hstep]
    exact ih _ _

/-- After any operations on a session, in any order and whatever they were answered: what is in the session fits
together, so that its channels have a label to give, and no further operations change it but for the connection, which
only a request for that gives up. An operation that fails leaves the session up to its configuration. No login comes
behind one that gave credentials, and no listing behind one with a base channel. -/
theorem cache_sound (sources : Sources (StateM σ)) (known : Option Server) (w : σ) (ops : List Operation) :
    let p := after sources.asked ops (begin known, .new w)
    after sources ops (begin known, w) = (p.1, p.2.world) ∧ p.1.Sound ∧
    (∀ channels q, (ensureChannels sources.asked).runFrom p = (.ok channels, q) →
      ∃ label, Channel.baseLabel channels = .ok label ∧ (baseChannel sources.asked).runFrom p = (.ok label, q)) ∧
    (∀ more, p.1.Keeps (after sources.asked more p).1 ∧ (.close ∉ more → ∀ connection,
      p.1.connection? = some connection → (after sources.asked more p).1.connection? = some connection)) ∧
    (∀ op e q, ((op : Operation).perform sources.asked).runFrom p = (.error e, q) → UpToServer p.1 q.1) ∧
    LastIfAccepted AcceptsLogin p.2.logins ∧ LastIfAccepted AcceptsListing p.2.listings := by
  intro p
  have hsound : p.1.Sound :=
    after_induction (motive := fun q => q.1.Sound) Step.sound Sound.withoutConnection ops (sound_begin known)
  have hheard : Heard p :=
    after_induction (motive := Heard) Step.heard (fun h => ⟨h.logins, h.listings⟩) ops (heard_begin known w)
  refine ⟨after_asked sources ops (begin known) (.new w), hsound, fun channels q h => ?_, fun more => ?_,
    fun op e q h => ?_, hheard.logins.lastIfAccepted, hheard.listings.lastIfAccepted⟩
  · obtain ⟨-, hchannels, hlabel⟩ := (ensureChannels_steps sources.asked p).1 channels q h
    have hbase : ∃ label, Channel.baseLabel channels = .ok label := by
      rcases hlabel with rfl | hlabel
      · exact hsound.channels channels hchannels
      · exact hlabel
    obtain ⟨label, hlabel⟩ := hbase
    refine ⟨label, hlabel, ?_⟩
    rw [baseChannel, runFrom_bind, h]
    dsimp only
    rw [runFrom_liftExcept, hlabel]
  · exact ⟨keeps_after more, fun hclose _ hconnection => connection?_after hclose hconnection⟩
  · exact ((perform_steps sources.asked op p).2 e q h).2

end Session

end SpacewalkAcquire
