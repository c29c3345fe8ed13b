import SpacewalkAcquire.Proofs.Effects.Recorded
import SpacewalkAcquire.Proofs.Session.Login

/-!
# What is said before a body arrives

* `LogInNotes uri b a notes` : `notes` is what a successful login says, `b` and `a` whether one was logged in before
  and is after;
* `Progress uri b a notes` : `notes` is what a transfer may have said when it fails before its body is announced;
* `announce_sent` : a transfer says one or the other;
* `runFrom_receive` : the body is then stored without a word.
-/

namespace SpacewalkAcquire.Transfer

open SessionT

def loggingIn (uri : String) : Message := .status uri "Logging into the spacewalk server"

def loggedIn (uri : String) : Message := .status uri "Logged in"

def waiting (uri : String) : Message := .status uri "Waiting for headers"

/-- The notes of a login that succeeds, now or earlier. `before` and `after` tell whether the session is logged in. -/
inductive LogInNotes (uri : String) : (before after : Bool) → List Message → Prop
  | earlier : LogInNotes uri true true []
  | now : LogInNotes uri false true [loggingIn uri, loggedIn uri]

/-- The notes of a transfer that fails before its body is announced. -/
inductive Progress (uri : String) (before after : Bool) : List Message → Prop
  /-- The host is not served, or the front end is gone. -/
  | silent (h : before = true → after = true) : Progress uri before after []
  | refused (h : before = false) : Progress uri before after [loggingIn uri]
  | stopped {notes : List Message} (h : LogInNotes uri before after notes) : Progress uri before after notes
  | unanswered {notes : List Message} (h : LogInNotes uri before after notes) :
      Progress uri before after (notes ++ [waiting uri])

variable {σ : Type} {env : Environment (StateM σ)} {sources : Sources (StateM (Recorded σ))}

def announcement (uri : String) (reply : Http.Reply) : Message :=
  .uriStart uri reply.length? (reply.textHeader? "last-modified")

theorem record_sent (env : Environment (StateM σ)) (message : Message) (r : Recorded σ) :
    ((env.record message r).1 = .ok () ∧ (env.record message r).2.sent = r.sent ++ [message]) ∨
      (∃ e, (env.record message r).1 = .error e) ∧ (env.record message r).2.sent = r.sent := by
  unfold Environment.record
  rcases env.send message r.world with ⟨e | _, w⟩
  · exact .inr ⟨⟨e, rfl⟩, rfl⟩
  · exact .inl ⟨rfl, rfl⟩

/-- After `record` the message is the last one in `sent`; or it was not taken, and nothing is new. -/
theorem record_leads {p : Session × Recorded σ} (message : Message)
    {succeeded : Unit → Session × Recorded σ → Prop} {failed : Failure → Session × Recorded σ → Prop}
    (ok : ∀ r : Recorded σ, r.sent = p.2.sent ++ [message] → succeeded () (p.1, r))
    (error : ∀ (e : Failure) (r : Recorded σ), r.sent = p.2.sent → failed e (p.1, r)) :
    (ofEnvironment (env.record message)).Leads p succeeded failed := by
  unfold Leads
  rw [runFrom_ofEnvironment]
  rcases record_sent env message p.2 with ⟨hok, hsent⟩ | ⟨⟨e, herror⟩, hsent⟩
  · rw [hok]
    refine ⟨fun _ q hq => ?_, fun e q hq => ?_⟩
    · cases hq
      exact ok _ hsent
    · cases hq
  · rw [herror]
    refine ⟨fun _ q hq => ?_, fun e q hq => ?_⟩
    · cases hq
    · cases hq
      exact error _ _ hsent

/-- `x` says nothing and leaves the login alone. -/
def Quiet {α : Type} (x : SessionT (StateM (Recorded σ)) α) : Prop :=
  ∀ p, (x.runFrom p).2.2.sent = p.2.sent ∧ (x.runFrom p).2.1.isLoggedIn = p.1.isLoggedIn

theorem Quiet.intro {α : Type} {x : SessionT (StateM (Recorded σ)) α}
    (hsent : (Correspondence.keeping Recorded.sent).session.Rel x x) (hlogin : LeavesLogin x) : Quiet x := fun p =>
  ⟨Correspondence.keeping_runFrom hsent p, congrArg Option.isSome (hlogin p)⟩

theorem Quiet.leads {α : Type} {x : SessionT (StateM (Recorded σ)) α} (hx : Quiet x) {p : Session × Recorded σ}
    {succeeded : α → Session × Recorded σ → Prop} {failed : Failure → Session × Recorded σ → Prop}
    (ok : ∀ a q, q.2.sent = p.2.sent → q.1.isLoggedIn = p.1.isLoggedIn → succeeded a q)
    (error : ∀ e q, q.2.sent = p.2.sent → q.1.isLoggedIn = p.1.isLoggedIn → failed e q) : x.Leads p succeeded failed := by
  have h := hx p
  refine ⟨fun a q hq => ?_, fun e q hq => ?_⟩
  · rw [hq] at h
    exact ok a q h.1 h.2
  · rw [hq] at h
    exact error e q h.1 h.2

def outcome (reply : Http.Reply) (digest : ContentDigest) : Message.Outcome :=
  ⟨digest.size, reply.textHeader? "last-modified", digest.md5, digest.sha256⟩

theorem runFrom_checkHost {ρ : Type} (sources : Sources (StateM ρ)) {server : Server} (request : Request)
    {p : Session × ρ} (h : p.1.server? = some server) :
    (checkHost sources request).runFrom p = (if server.serves request.uri then .ok ()
      else .error (.hostMismatch (request.uri.hostText?.getD "") server.netloc), p) := by
  unfold checkHost
  rw [runFrom_bind, Session.runFrom_ensureServer h]
  dsimp only
  cases server.serves request.uri <;> rfl

theorem runFrom_receive {ρ : Type} (env : Environment (StateM ρ)) (request : Request) (reply : Http.Reply)
    (p : Session × ρ) :
    (receive env request reply).runFrom p =
      ((store env request.filename reply.body p.2).1.map (outcome reply), p.1,
        (store env request.filename reply.body p.2).2) := by
  unfold receive
  rw [runFrom_bind, runFrom_ofEnvironment]
  rcases store env request.filename reply.body p.2 with ⟨_ | digest, w⟩ <;> rfl

theorem ask_quiet (env : Environment (StateM σ)) (uri : String) (connection : Connection) (content : Http.Request) :
    Quiet (ask env.recorded uri connection content) :=
  .intro (Correspondence.ask_rel (Correspondence.keeping_sent_environments env).toQueries uri connection content)
    (ask_leavesLogin _ _ _ _)

theorem receive_quiet (env : Environment (StateM σ)) (request : Request) (reply : Http.Reply) :
    Quiet (receive env.recorded request reply) :=
  .intro (Correspondence.receive_rel ((Correspondence.keeping_sent_environments env).toChanges.at _) reply)
    (receive_leavesLogin _ _ _)

variable (h : (Correspondence.keeping Recorded.sent).Sources sources sources)
include h

theorem checkHost_quiet (request : Request) : Quiet (checkHost sources request) :=
  .intro (Correspondence.checkHost_rel h request) (checkHost_leavesLogin sources request)

theorem locate_quiet (request : Request) : Quiet (locate sources request) :=
  .intro (Correspondence.locate_rel h request) (locate_leavesLogin sources request)

theorem logIn_sent (uri : String) (p : Session × Recorded σ) :
    (logIn sources env.record uri).Leads p
      (fun _ q => ∃ notes, LogInNotes uri p.1.isLoggedIn q.1.isLoggedIn notes ∧ q.2.sent = p.2.sent ++ notes)
      (fun _ q => ∃ notes, Progress uri p.1.isLoggedIn q.1.isLoggedIn notes ∧ q.2.sent = p.2.sent ++ notes) := by
  unfold logIn
  refine .bind (.get ?_)
  cases hb : p.1.isLoggedIn with
  | true =>
    refine .pure ⟨[], ?_, (List.append_nil _).symm⟩
    rw [hb]
    exact .earlier
  | false =>
    refine .bind (record_leads _ (fun r hr => ?_) fun e r hr => ?_)
    · have hkeep := Correspondence.keeping_runFrom (Correspondence.ensureCredentials_rel h) (p.1, r)
      refine .bind (.discard ⟨fun credentials q hq => ?_, fun e q hq => ?_⟩)
      · rw [hq] at hkeep
        have ha := Session.isLoggedIn_of_ensureCredentials sources hq
        refine record_leads _ (fun r' hr' => ?_) fun e r' hr' => ?_
        · refine ⟨[loggingIn uri, loggedIn uri], ?_, ?_⟩
          · rw [ha]
            exact .now
          · rw [hr', hkeep, hr, List.append_assoc]
            rfl
        · refine ⟨[loggingIn uri], .refused rfl, ?_⟩
          rw [hr', hkeep, hr]
          rfl
      · rw [hq] at hkeep
        refine ⟨[loggingIn uri], .refused rfl, ?_⟩
        rw [hkeep, hr]
        rfl
    · refine ⟨[], .silent ?_, ?_⟩
      · intro hb'
        cases hb'
      · rw [hr, List.append_nil]

/-- Up to the announcement of the body, `announce` says what its stages say, in their order. -/
theorem announce_sent (request : Request) (p : Session × Recorded σ) :
    (announce env.recorded sources env.record request).Leads p
      (fun reply q => ∃ notes, LogInNotes request.uri.text p.1.isLoggedIn q.1.isLoggedIn notes ∧
        q.2.sent = p.2.sent ++ (notes ++ [waiting request.uri.text, announcement request.uri.text reply]))
      (fun _ q => ∃ notes, Progress request.uri.text p.1.isLoggedIn q.1.isLoggedIn notes ∧
        q.2.sent = p.2.sent ++ notes) := by
  unfold announce
  -- Stage by stage: what is said so far is carried along, and where a stage fails it is one of the cases of `Progress`.
  refine .bind ((checkHost_quiet h request).leads (fun _ q₁ hs₁ hb₁ => ?_) fun e q hs hb => ?_)
  · rw [← hs₁, ← hb₁]
    refine .bind ((logIn_sent h request.uri.text q₁).mono (fun _ q₂ ⟨notes, hnotes, hs₂⟩ => ?_) fun _ _ hq => hq)
    refine .bind ((locate_quiet h request).leads (fun found q₃ hs₃ hb₃ => ?_) fun e q hs hb => ?_)
    · rw [← hb₃] at hnotes
      refine .bind (record_leads _ (fun r hr => ?_) fun e r hr => ?_)
      · refine .bind ((ask_quiet _ _ _ _).leads (fun reply q₄ hs₄ hb₄ => ?_) fun e q hs hb => ?_)
        · rw [← hb₄] at hnotes
          refine .bind (record_leads _ (fun r' hr' => .pure ⟨notes, hnotes, ?_⟩) fun e r' hr' => ?_)
          · rw [hr', hs₄, hr, hs₃, hs₂]
            simp only [List.append_assoc]
            rfl
          · refine ⟨_, .unanswered hnotes, ?_⟩
            rw [hr', hs₄, hr, hs₃, hs₂, List.append_assoc]
            rfl
        · refine ⟨_, .unanswered (hb ▸ hnotes), ?_⟩
          rw [hs, hr, hs₃, hs₂, List.append_assoc]
          rfl
      · refine ⟨notes, .stopped hnotes, ?_⟩
        rw [hr, hs₃, hs₂]
    · refine ⟨notes, .stopped (hb ▸ hnotes), ?_⟩
      rw [hs, hs₂]
  · refine ⟨[], .silent ?_, ?_⟩
    · rw [hb]
      exact id
    · rw [hs, List.append_nil]

end SpacewalkAcquire.Transfer
