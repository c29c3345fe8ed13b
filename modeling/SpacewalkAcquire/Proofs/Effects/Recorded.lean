import SpacewalkAcquire.Proofs.Effects.Program
import SpacewalkAcquire.Proofs.Session.RunFrom

/-!
# Records of a run

* `Recorded σ` : a world, the messages that the front end has taken, the HTTP exchanges, and the removals that failed;
* `Environment.recorded`, `Environment.record`, `Sources.recorded` : surroundings and a listener that keep the record;
* `Correspondence.forgetting` : keeping a record changes nothing else (`run_recorded`);
* `Correspondence.keeping` : what no step changes, a whole computation does not change;
* `Piped σ`, `Environment.piped`, `Sources.piped` : a world with a pipe that takes everything.
-/

namespace SpacewalkAcquire

def Sources.over {m n : Type → Type} [MonadLift m n] (sources : Sources m) : Sources n where
  configuration := liftM sources.configuration
  accounts := ⟨fun server => liftM (sources.accounts.login server), fun server => liftM (sources.accounts.channels server)⟩
  connect server := liftM (sources.connect server)

/-- A world, and what was recorded in it. -/
structure Recorded (σ : Type) where
  world : σ
  sent : List Message
  exchanges : List (Http.Request × Http.Answer)
  /-- The files that were to be removed, but could not be. -/
  kept : List String

namespace Recorded

variable {σ : Type}

def new (w : σ) : Recorded σ := ⟨w, [], [], []⟩

/-- A step of the world, of which nothing is recorded. -/
def quietly {α : Type} (step : StateM σ α) : StateM (Recorded σ) α := fun r =>
  ((step r.world).1, { r with world := (step r.world).2 })

instance : MonadLift (StateM σ) (StateM (Recorded σ)) := ⟨quietly⟩

end Recorded

abbrev Sources.recorded {σ : Type} (sources : Sources (StateM σ)) : Sources (StateM (Recorded σ)) := sources.over

namespace Environment

variable {σ : Type} (env : Environment (StateM σ))

/-- The environment that records its `exchanges`, and in `kept` its removals if they fail. -/
def recorded : Environment (StateM (Recorded σ)) :=
  { env.lift with
    exchange := fun connection request r =>
      let answer := env.exchange connection request r.world
      (answer.1, { r with world := answer.2, exchanges := r.exchanges ++ [(request, answer.1)] })
    removeFile := fun path r =>
      let removed := env.removeFile path r.world
      let failed := if removed.1.isOk then [] else [path]
      (removed.1, { r with world := removed.2, kept := r.kept ++ failed }) }

/-- Sends a message, and records it in `sent` if it is taken. -/
def record (message : Message) : StateM (Recorded σ) (Except Failure Unit) := fun r =>
  match env.send message r.world with
  | (.ok (), w) => (.ok (), { r with world := w, sent := r.sent ++ [message] })
  | (.error e, w) => (.error e, { r with world := w })

theorem record_of_ok {env : Environment (StateM σ)} {message : Message} {r : Recorded σ}
    (h : (env.send message r.world).1 = .ok ()) :
    env.record message r = (.ok (), { r with world := (env.send message r.world).2, sent := r.sent ++ [message] }) := by
  unfold record
  generalize env.send message r.world = sent at h
  obtain ⟨_ | _, w⟩ := sent
  · cases h
  · rfl

end Environment

/-- A world and what was written in it to a pipe that takes everything. -/
structure Piped (σ : Type) where
  world : σ
  written : Bytes

namespace Piped

variable {σ : Type}

def new (w : σ) : Piped σ := ⟨w, []⟩

instance : MonadLift (StateM σ) (StateM (Piped σ)) :=
  ⟨fun step p => ((step p.world).1, { p with world := (step p.world).2 })⟩

end Piped

def Environment.piped {σ : Type} (env : Environment (StateM σ)) : Environment (StateM (Piped σ)) :=
  { env.lift with
    write := fun bytes p => (.ok (), { p with written := p.written ++ bytes })
    flush := fun p => (.ok (), p) }

abbrev Sources.piped {σ : Type} (sources : Sources (StateM σ)) : Sources (StateM (Piped σ)) := sources.over

namespace Correspondence

/-- The same values, and the same world apart from the record. -/
def forgetting (σ : Type) : Correspondence (StateM (Recorded σ)) (StateM σ) where
  Rel x y := ∀ r, (x.run r).1 = (y.run r.world).1 ∧ (x.run r).2.world = (y.run r.world).2
  pure a r := ⟨rfl, rfl⟩
  bind {α β x y f g} hx hf r := by
    obtain ⟨hvalue, hworld⟩ := hx r
    have h := hf (x.run r).1 (x.run r).2
    rw [hworld] at h
    show (StateT.run (f (x.run r).1) (x.run r).2).1 = (StateT.run (g (y.run r.world).1) (y.run r.world).2).1 ∧
      (StateT.run (f (x.run r).1) (x.run r).2).2.world = (StateT.run (g (y.run r.world).1) (y.run r.world).2).2
    rwa [← hvalue]

/-- One computation twice, in which `f` of the world stays as it is. -/
def keeping {σ β : Type} (f : σ → β) : Correspondence (StateM σ) (StateM σ) where
  Rel x y := x = y ∧ ∀ w, f (x.run w).2 = f w
  pure a := ⟨rfl, fun _ => rfl⟩
  bind {α β' x y g g'} hx hg := by
    refine ⟨?_, fun w => ?_⟩
    · rw [hx.1, funext fun a => (hg a).1]
    · show f (StateT.run (g (x.run w).1) (x.run w).2).2 = f w
      rw [(hg _).2, hx.2]

variable {σ β α : Type}

theorem keeping_runFrom {f : σ → β} {x : SessionT (StateM σ) α} (h : (keeping f).session.Rel x x) (p : Session × σ) :
    f (x.runFrom p).2.2 = f p.2 := (h p.1).2 p.2

theorem keeping_leads {f : σ → β} {x : SessionT (StateM σ) α} (h : (keeping f).session.Rel x x) {p : Session × σ}
    {succeeded : α → Session × σ → Prop} {failed : Failure → Session × σ → Prop}
    (ok : ∀ a q, f q.2 = f p.2 → succeeded a q) (error : ∀ e q, f q.2 = f p.2 → failed e q) :
    x.Leads p succeeded failed := by
  have hkeep := keeping_runFrom h p
  refine ⟨fun a q hq => ok a q ?_, fun e q hq => error e q ?_⟩
  · rwa [hq] at hkeep
  · rwa [hq] at hkeep

theorem forgetting_runFrom {x : SessionT (StateM (Recorded σ)) α} {y : SessionT (StateM σ) α}
    (h : (forgetting σ).session.Rel x y) (s : Session) (r : Recorded σ) :
    (x.runFrom (s, r)).1 = (y.runFrom (s, r.world)).1 ∧ (x.runFrom (s, r)).2.1 = (y.runFrom (s, r.world)).2.1 ∧
      (x.runFrom (s, r)).2.2.world = (y.runFrom (s, r.world)).2.2 := by
  obtain ⟨hvalue, hworld⟩ := h s r
  exact ⟨congrArg Prod.fst hvalue, congrArg Prod.snd hvalue, hworld⟩

/-! ## Records change nothing else -/

theorem forgetting_quietly (step : StateM σ α) : (forgetting σ).Rel (liftM step : StateM (Recorded σ) α) step :=
  fun _ => ⟨rfl, rfl⟩

theorem forgetting_environments (env : Environment (StateM σ)) : (forgetting σ).Environments env.recorded env where
  readFile _ := forgetting_quietly _
  createFile _ := forgetting_quietly _
  appendFile _ _ := forgetting_quietly _
  flushFile _ := forgetting_quietly _
  removeFile _ _ := ⟨rfl, rfl⟩
  certificateFault _ := forgetting_quietly _
  exchange _ _ _ := ⟨rfl, rfl⟩

theorem forgetting_sources (sources : SpacewalkAcquire.Sources (StateM σ)) :
    (forgetting σ).Sources sources.recorded sources where
  configuration := forgetting_quietly _
  login _ := forgetting_quietly _
  channels _ := forgetting_quietly _
  connect _ := forgetting_quietly _

theorem forgetting_listeners (env : Environment (StateM σ)) : (forgetting σ).Listeners env.record env.send := by
  intro message r
  show (env.record message r).1 = (env.send message r.world).1 ∧
    (env.record message r).2.world = (env.send message r.world).2
  unfold Environment.record
  rcases env.send message r.world with ⟨_ | _, w⟩ <;> exact ⟨rfl, rfl⟩

/-! ## What is kept in a world is kept in its record -/

section Kept

variable {f : σ → β} {env : Environment (StateM σ)} {sources : SpacewalkAcquire.Sources (StateM σ)}

theorem keeping_quietly {step : StateM σ α} (h : (keeping f).Rel step step) :
    (keeping fun r : Recorded σ => f r.world).Rel (liftM step : StateM (Recorded σ) α) (liftM step) :=
  ⟨rfl, fun r => h.2 r.world⟩

theorem keeping_recorded_environments (h : (keeping f).Environments env env) :
    (keeping fun r : Recorded σ => f r.world).Environments env.recorded env.recorded where
  readFile path := keeping_quietly (h.readFile path)
  certificateFault content := keeping_quietly (h.certificateFault content)
  exchange connection request := ⟨rfl, fun r => (h.exchange connection request).2 r.world⟩
  createFile path := keeping_quietly (h.createFile path)
  appendFile path chunk := keeping_quietly (h.appendFile path chunk)
  flushFile path := keeping_quietly (h.flushFile path)
  removeFile path := ⟨rfl, fun r => (h.removeFile path).2 r.world⟩

theorem keeping_recorded_sources (h : (keeping f).Sources sources sources) :
    (keeping fun r : Recorded σ => f r.world).Sources sources.recorded sources.recorded where
  configuration := keeping_quietly h.configuration
  login server := keeping_quietly (h.login server)
  channels server := keeping_quietly (h.channels server)
  connect server := keeping_quietly (h.connect server)

theorem keeping_recorded_listeners (h : (keeping f).Listeners env.send env.send) :
    (keeping fun r : Recorded σ => f r.world).Listeners env.record env.record := by
  refine fun message => ⟨rfl, fun r => ?_⟩
  have hkeep : f (env.send message r.world).2 = f r.world := (h message).2 r.world
  show f (env.record message r).2.world = f r.world
  rw [← hkeep]
  unfold Environment.record
  rcases env.send message r.world with ⟨_ | _, w⟩ <;> rfl

end Kept

/-! ## What leaves the record alone -/

section Aside

variable {f : Recorded σ → β} (hf : ∀ r w, f { r with world := w } = f r)
include hf

/-- What does not depend on the world stays as it is when nothing is recorded. -/
theorem keeping_aside (step : StateM σ α) : (keeping f).Rel (liftM step : StateM (Recorded σ) α) (liftM step) :=
  ⟨rfl, fun r => hf r _⟩

theorem keeping_aside_reads (env : Environment (StateM σ)) : (keeping f).Reads env.recorded env.recorded where
  readFile _ := keeping_aside hf _
  certificateFault _ := keeping_aside hf _

theorem keeping_aside_writes (env : Environment (StateM σ)) (path : String) :
    (keeping f).WritesAt env.recorded env.recorded path where
  createFile := keeping_aside hf _
  appendFile _ := keeping_aside hf _
  flushFile := keeping_aside hf _

theorem keeping_aside_sources (sources : SpacewalkAcquire.Sources (StateM σ)) :
    (keeping f).Sources sources.recorded sources.recorded where
  configuration := keeping_aside hf _
  login _ := keeping_aside hf _
  channels _ := keeping_aside hf _
  connect _ := keeping_aside hf _

end Aside

theorem keeping_aside_listeners {f : Recorded σ → β} (hf : ∀ r w sent, f { r with world := w, sent := sent } = f r)
    (env : Environment (StateM σ)) : (keeping f).Listeners env.record env.record := by
  refine fun message => ⟨rfl, fun r => ?_⟩
  show f (env.record message r).2 = f r
  unfold Environment.record
  rcases env.send message r.world with ⟨_ | _, w⟩
  · exact hf r w r.sent
  · exact hf r w _

theorem keeping_sent_environments (env : Environment (StateM σ)) :
    (keeping Recorded.sent).Environments env.recorded env.recorded where
  toReads := keeping_aside_reads (fun _ _ => rfl) env
  createFile _ := ⟨rfl, fun _ => rfl⟩
  appendFile _ _ := ⟨rfl, fun _ => rfl⟩
  flushFile _ := ⟨rfl, fun _ => rfl⟩
  removeFile _ := ⟨rfl, fun _ => rfl⟩
  exchange _ _ := ⟨rfl, fun _ => rfl⟩

theorem keeping_sent_sources (sources : SpacewalkAcquire.Sources (StateM σ)) :
    (keeping Recorded.sent).Sources sources.recorded sources.recorded := keeping_aside_sources (fun _ _ => rfl) sources

theorem keeping_exchanges_changesAt (env : Environment (StateM σ)) (path : String) :
    (keeping Recorded.exchanges).ChangesAt env.recorded env.recorded path where
  toWritesAt := keeping_aside_writes (fun _ _ => rfl) env path
  removeFile := ⟨rfl, fun _ => rfl⟩

theorem keeping_exchanges_sources (sources : SpacewalkAcquire.Sources (StateM σ)) :
    (keeping Recorded.exchanges).Sources sources.recorded sources.recorded :=
  keeping_aside_sources (fun _ _ => rfl) sources

theorem keeping_exchanges_listeners (env : Environment (StateM σ)) :
    (keeping Recorded.exchanges).Listeners env.record env.record := keeping_aside_listeners (fun _ _ _ => rfl) env

theorem keeping_kept_queries (env : Environment (StateM σ)) :
    (keeping Recorded.kept).Queries env.recorded env.recorded where
  toReads := keeping_aside_reads (fun _ _ => rfl) env
  exchange _ _ := ⟨rfl, fun _ => rfl⟩

theorem keeping_kept_sources (sources : SpacewalkAcquire.Sources (StateM σ)) :
    (keeping Recorded.kept).Sources sources.recorded sources.recorded := keeping_aside_sources (fun _ _ => rfl) sources

theorem keeping_kept_listeners (env : Environment (StateM σ)) :
    (keeping Recorded.kept).Listeners env.record env.record := keeping_aside_listeners (fun _ _ _ => rfl) env

end Correspondence

open Correspondence in
/-- `run` does the same whether or not it is recorded. -/
theorem Method.run_recorded {σ : Type} (env : Environment (StateM σ)) (sources : Sources (StateM σ))
    (items : List (Except Failure Message)) (s : Session) (r : Recorded σ) :
    let recorded := (Method.run env.recorded sources.recorded items env.record).runFrom (s, r)
    let plain := (Method.run env sources items).runFrom (s, r.world)
    recorded.1 = plain.1 ∧ recorded.2.1 = plain.2.1 ∧ recorded.2.2.world = plain.2.2 :=
  forgetting_runFrom (run_rel (forgetting_environments env) (forgetting_sources sources) (forgetting_listeners env) items)
    s r

end SpacewalkAcquire
