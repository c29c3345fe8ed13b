import Mathlib.Logic.Relation
import SpacewalkAcquire.Proofs.Session.RunFrom

/-!
# What happens to a session

* `Session.Step sources` : one thing that happens to a session in its world: a source is asked, and what it gives is
  kept if it is of use, or headers are derived from credentials;
* `Session.Steps sources` : any number of them, one after the other;
* `Session.UpToServer s t` : `t` is `s`, but may know the configuration;
* `ensureServer_steps`, `ensureCredentials_steps`, … : whatever is ensured, nothing else happens; what is given is in
  the session then, and a failure leaves the session up to its configuration.
-/

namespace SpacewalkAcquire.Session

open SessionT

def AcceptsLogin (answer : Except Failure (Option Credentials)) : Prop :=
  ∃ credentials, answer = .ok (some credentials) ∧ credentials.isEmpty = false

def AcceptsListing (answer : Except Failure (List Channel)) : Prop :=
  ∃ channels label, answer = .ok channels ∧ Channel.baseLabel channels = .ok label

variable {σ : Type}

/-- One thing that happens to a session and the world around it. -/
inductive Step (sources : Sources (StateM σ)) : Session × σ → Session × σ → Prop
  | server {s : Session} {w w' : σ} {server : Server} (h : s.server? = none)
      (hread : sources.configuration w = (.ok server, w')) : Step sources (s, w) ({ s with server? := some server }, w')
  | noServer {s : Session} {w w' : σ} {e : Failure} (h : s.server? = none)
      (hread : sources.configuration w = (.error e, w')) : Step sources (s, w) (s, w')
  | credentials {s : Session} {w w' : σ} {server : Server} {credentials : Credentials} (h : s.credentials? = none)
      (hserver : s.server? = some server) (hlogin : sources.accounts.login server w = (.ok (some credentials), w'))
      (hsome : credentials.isEmpty = false) : Step sources (s, w) ({ s with credentials? := some credentials }, w')
  | noCredentials {s : Session} {w w' : σ} {server : Server} {answer : Except Failure (Option Credentials)}
      (h : s.credentials? = none) (hserver : s.server? = some server)
      (hlogin : sources.accounts.login server w = (answer, w')) (hrefused : ¬ AcceptsLogin answer) :
      Step sources (s, w) (s, w')
  | channels {s : Session} {w w' : σ} {server : Server} {channels : List Channel} {label : String}
      (h : s.channels? = none) (hserver : s.server? = some server)
      (hlisting : sources.accounts.channels server w = (.ok channels, w'))
      (hlabel : Channel.baseLabel channels = .ok label) :
      Step sources (s, w) ({ s with channels? := some channels }, w')
  | noChannels {s : Session} {w w' : σ} {server : Server} {answer : Except Failure (List Channel)}
      (h : s.channels? = none) (hserver : s.server? = some server)
      (hlisting : sources.accounts.channels server w = (answer, w')) (hrefused : ¬ AcceptsListing answer) :
      Step sources (s, w) (s, w')
  | headers {s : Session} {w : σ} {credentials : Credentials} {headers : OrderedMap String String}
      (h : s.headers? = none) (hcredentials : s.credentials? = some credentials)
      (hheaders : credentials.headers = .ok headers) : Step sources (s, w) ({ s with headers? := some headers }, w)
  | connection {s : Session} {w w' : σ} {server : Server} {connection : Connection} (h : s.connection? = none)
      (hserver : s.server? = some server) (hconnect : sources.connect server w = (.ok connection, w')) :
      Step sources (s, w) ({ s with connection? := some connection }, w')
  | noConnection {s : Session} {w w' : σ} {server : Server} {e : Failure} (h : s.connection? = none)
      (hserver : s.server? = some server) (hconnect : sources.connect server w = (.error e, w')) :
      Step sources (s, w) (s, w')

abbrev Steps (sources : Sources (StateM σ)) : Session × σ → Session × σ → Prop := Relation.ReflTransGen (Step sources)

/-- The same session, but the configuration may be known now. -/
def UpToServer (s t : Session) : Prop := t = s ∨ ∃ server, s.server? = none ∧ t = { s with server? := some server }

theorem UpToServer.credentials?_eq {s t : Session} (h : UpToServer s t) : t.credentials? = s.credentials? := by
  rcases h with rfl | ⟨server, -, rfl⟩ <;> rfl

theorem UpToServer.channels?_eq {s t : Session} (h : UpToServer s t) : t.channels? = s.channels? := by
  rcases h with rfl | ⟨server, -, rfl⟩ <;> rfl

theorem UpToServer.connection?_eq {s t : Session} (h : UpToServer s t) : t.connection? = s.connection? := by
  rcases h with rfl | ⟨server, -, rfl⟩ <;> rfl

theorem not_acceptsLogin_error (e : Failure) : ¬ AcceptsLogin (.error e) := by
  rintro ⟨credentials, h, -⟩
  cases h

theorem not_acceptsListing_error (e : Failure) : ¬ AcceptsListing (.error e) := by
  rintro ⟨channels, label, h, -⟩
  cases h

variable (sources : Sources (StateM σ)) (p : Session × σ)

theorem ensureServer_steps :
    (ensureServer sources).Leads p
      (fun server q => Steps sources p q ∧ UpToServer p.1 q.1 ∧ q.1.server? = some server)
      (fun _ q => Steps sources p q ∧ UpToServer p.1 q.1) := by
  unfold ensureServer
  refine .bind (.get ?_)
  cases hs : p.1.server? with
  | some server => exact .pure ⟨.refl, .inl rfl, hs⟩
  | none =>
    refine .bind (.ofEnvironment (fun server w hread => ?_) fun e w hread => ?_)
    · exact .bind (.modify (.pure ⟨.single (.server hs hread), .inr ⟨server, hs, rfl⟩, rfl⟩))
    · exact ⟨.single (.noServer hs hread), .inl rfl⟩

theorem ensureCredentials_steps :
    (ensureCredentials sources).Leads p (fun credentials q => Steps sources p q ∧ q.1.credentials? = some credentials)
      (fun _ q => Steps sources p q ∧ UpToServer p.1 q.1) := by
  unfold ensureCredentials
  refine .bind (.get ?_)
  cases hs : p.1.credentials? with
  | some credentials => exact .pure ⟨.refl, hs⟩
  | none =>
    refine .bind ((ensureServer_steps sources p).mono (fun server q ⟨hsteps, hq, hserver⟩ => ?_) fun _ _ h => h)
    have hnone : q.1.credentials? = none := hq.credentials?_eq.trans hs
    refine .bind (.ofEnvironment (fun answer w hlogin => ?_) fun e w hlogin => ?_)
    · cases answer with
      | none =>
        refine .throw ⟨hsteps.tail (.noCredentials hnone hserver hlogin ?_), hq⟩
        rintro ⟨credentials, h, -⟩
        cases h
      | some credentials =>
        dsimp only
        split
        · next hempty =>
          refine .bind (.throw ⟨hsteps.tail (.noCredentials hnone hserver hlogin ?_), hq⟩)
          rintro ⟨credentials', h, hsome⟩
          cases h
          rw [hempty] at hsome
          cases hsome
        · next hsome =>
          rw [Bool.not_eq_true] at hsome
          exact .bind (.modify (.pure ⟨hsteps.tail (.credentials hnone hserver hlogin hsome), rfl⟩))
    · exact ⟨hsteps.tail (.noCredentials hnone hserver hlogin (not_acceptsLogin_error e)), hq⟩

theorem ensureChannels_steps :
    (ensureChannels sources).Leads p
      (fun channels q => Steps sources p q ∧ q.1.channels? = some channels ∧
        (q = p ∨ ∃ label, Channel.baseLabel channels = .ok label))
      (fun _ q => Steps sources p q ∧ UpToServer p.1 q.1) := by
  unfold ensureChannels
  refine .bind (.get ?_)
  cases hs : p.1.channels? with
  | some channels => exact .pure ⟨.refl, hs, .inl rfl⟩
  | none =>
    refine .bind ((ensureServer_steps sources p).mono (fun server q ⟨hsteps, hq, hserver⟩ => ?_) fun _ _ h => h)
    have hnone : q.1.channels? = none := hq.channels?_eq.trans hs
    refine .bind (.ofEnvironment (fun channels w hlisting => ?_) fun e w hlisting => ?_)
    · refine .bind (.discard (.liftExcept (fun label hlabel => ?_) fun e hlabel => ?_))
      · have hstep := Step.channels hnone hserver hlisting hlabel
        exact .bind (.modify (.pure ⟨hsteps.tail hstep, rfl, .inr ⟨label, hlabel⟩⟩))
      · refine ⟨hsteps.tail (.noChannels hnone hserver hlisting ?_), hq⟩
        rintro ⟨channels', label, h, hlabel'⟩
        cases h
        rw [hlabel] at hlabel'
        cases hlabel'
    · exact ⟨hsteps.tail (.noChannels hnone hserver hlisting (not_acceptsListing_error e)), hq⟩

theorem baseChannel_steps :
    (baseChannel sources).Leads p
      (fun label q => Steps sources p q ∧ ∃ channels, q.1.channels? = some channels ∧
        Channel.baseLabel channels = .ok label)
      (fun _ q => Steps sources p q ∧ UpToServer p.1 q.1) := by
  unfold baseChannel
  refine .bind ((ensureChannels_steps sources p).mono (fun channels q ⟨hsteps, hq, hlabel⟩ => ?_) fun _ _ h => h)
  refine .liftExcept (fun label h => ⟨hsteps, channels, hq, h⟩) fun e he => ?_
  rcases hlabel with rfl | ⟨label, hlabel⟩
  · exact ⟨.refl, .inl rfl⟩
  · rw [hlabel] at he
    cases he

theorem ensureHeaders_steps :
    (ensureHeaders : SessionT (StateM σ) (OrderedMap String String)).Leads p
      (fun headers q => Steps sources p q ∧ q.1.headers? = some headers)
      (fun _ q => Steps sources p q ∧ UpToServer p.1 q.1) := by
  unfold ensureHeaders
  refine .bind (.get ?_)
  cases hs : p.1.headers? with
  | some headers => exact .pure ⟨.refl, hs⟩
  | none =>
    refine .bind (.get ?_)
    cases hc : p.1.credentials? with
    | none => exact .throw ⟨.refl, .inl rfl⟩
    | some credentials =>
      refine .bind (.liftExcept (fun headers hheaders => ?_) fun e _ => ⟨.refl, .inl rfl⟩)
      exact .bind (.modify (.pure ⟨.single (.headers hs hc hheaders), rfl⟩))

theorem ensureConnection_steps :
    (ensureConnection sources).Leads p (fun connection q => Steps sources p q ∧ q.1.connection? = some connection)
      (fun _ q => Steps sources p q ∧ UpToServer p.1 q.1) := by
  unfold ensureConnection
  refine .bind (.get ?_)
  cases hs : p.1.connection? with
  | some connection => exact .pure ⟨.refl, hs⟩
  | none =>
    refine .bind ((ensureServer_steps sources p).mono (fun server q ⟨hsteps, hq, hserver⟩ => ?_) fun _ _ h => h)
    have hnone : q.1.connection? = none := hq.connection?_eq.trans hs
    refine .bind (.ofEnvironment (fun connection w hconnect => ?_) fun e w hconnect => ?_)
    · exact .bind (.modify (.pure ⟨hsteps.tail (.connection hnone hserver hconnect), rfl⟩))
    · exact ⟨hsteps.tail (.noConnection hnone hserver hconnect), hq⟩

end SpacewalkAcquire.Session
