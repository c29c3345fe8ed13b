import SpacewalkAcquire.Proofs.Accounts.Trust
import SpacewalkAcquire.Proofs.Transfer.Twin

/-!
# Trust during a transfer

* `World.evidence w` : what it depends on whether a connection can be prepared in `w`;
* `Session.Guarded w₀ server p` : the session in `p` may have been used before, but as long as it may want to call the
  server, the evidence is that of `w₀`;
* `Session.Blames w₀ server e` : if `e` is a failure for want of trust, it is that of all calls in `w₀`;
* `fetch_guarded` : so it is for whatever failure a transfer ends with;
* `fetch_refused` : if calls fail for want of trust, so does every transfer from the server.
-/

namespace SpacewalkAcquire

open SessionT

/-! ## Evidence -/

/-- What it depends on whether a connection can be `prepared`. -/
def World.evidence (w : World) : FileTree × (Bytes → Option String) := (w.files, w.certificateFault)

theorem World.evidence_exchange (w : World) (request : Http.Request) :
    (w.exchange request).2.evidence = w.evidence := by
  unfold World.exchange
  cases w.server w.requests request <;> rfl

theorem World.callFault?_of_evidence {w w' : World} (h : w'.evidence = w.evidence) (server : Server) :
    w'.callFault? server = w.callFault? server :=
  callFault?_congr (congrArg Prod.fst h) (congrArg Prod.snd h) server

namespace Correspondence

open World

theorem keeping_evidence_queries : (keeping World.evidence).Queries environment environment where
  readFile _ := ⟨rfl, fun _ => rfl⟩
  certificateFault _ := ⟨rfl, fun _ => rfl⟩
  exchange _ request := ⟨rfl, fun w => w.evidence_exchange request⟩

theorem keeping_evidence_recorded :
    (keeping fun r : Recorded World => r.world.evidence).Queries environment.recorded environment.recorded where
  readFile _ := ⟨rfl, fun _ => rfl⟩
  certificateFault _ := ⟨rfl, fun _ => rfl⟩
  exchange _ request := ⟨rfl, fun r => r.world.evidence_exchange request⟩

theorem certificateFault_afterFiles (w : World) (result : Except FileError FileTree) :
    (w.afterFiles result).2.certificateFault = w.certificateFault := by cases result <;> rfl

theorem keeping_fault_changes :
    (keeping fun r : Recorded World => r.world.certificateFault).Changes environment.recorded environment.recorded where
  createFile _ := ⟨rfl, fun r => certificateFault_afterFiles r.world _⟩
  appendFile _ _ := ⟨rfl, fun r => certificateFault_afterFiles r.world _⟩
  flushFile _ := ⟨rfl, fun _ => rfl⟩
  removeFile _ := ⟨rfl, fun r => certificateFault_afterFiles r.world _⟩

end Correspondence

theorem World.send_eq (w : World) (message : Message) :
    environment.send message w = match w.outbox.write (Text.toUtf8 message.wire) with
      | (.error why, outbox) => (.error (.pipe "Failed to write to the front end" why), { w with outbox := outbox })
      | (.ok _, outbox) => match outbox.flush with
        | (.error why, outbox') => (.error (.pipe "Failed to flush output" why), { w with outbox := outbox' })
        | (.ok _, outbox') => (.ok (), { w with outbox := outbox' }) := by
  change (match (w.outbox.write (Text.toUtf8 message.wire)).1 with | .error _ => _ | .ok _ => _ : StateM World _)
    { w with outbox := (w.outbox.write (Text.toUtf8 message.wire)).2 } = _
  rcases w.outbox.write (Text.toUtf8 message.wire) with ⟨_ | _, outbox⟩
  · rfl
  · change (match outbox.flush.1 with | .error _ => _ | .ok _ => _ : StateM World _)
      { w with outbox := outbox.flush.2 } = _
    dsimp only
    rcases outbox.flush with ⟨_ | _, outbox'⟩ <;> rfl

/-- `send` changes no `evidence`, and does not fail for want of trust. -/
theorem World.send_trust (w : World) (message : Message) :
    (environment.send message w).2.evidence = w.evidence ∧
      ∀ e, (environment.send message w).1 = .error e → e.isTls = false := by
  rw [send_eq]
  rcases w.outbox.write (Text.toUtf8 message.wire) with ⟨why | _, outbox⟩
  · refine ⟨rfl, fun e he => ?_⟩
    cases he
    rfl
  · dsimp only
    rcases outbox.flush with ⟨why | _, outbox'⟩
    · refine ⟨rfl, fun e he => ?_⟩
      cases he
      rfl
    · exact ⟨rfl, fun e he => (nomatch he)⟩

theorem Channel.baseLabel_trust {channels : List Channel} {e : Failure} (h : baseLabel channels = .error e) :
    e.isTls = false := by
  obtain ⟨⟨reason, rfl⟩, -⟩ := baseLabel_error h
  rfl

namespace Session

/-- A session that may have been used before. As long as it may want to call the server, the evidence is that of `w₀`;
and if calls fail for want of trust in `w₀`, it is not logged in. -/
structure Guarded (w₀ : World) (server : Server) (p : Session × Recorded World) : Prop where
  known : p.1.server? = some server
  connected : p.1.connection?.isSome = true
  certificateFault : p.2.world.certificateFault = w₀.certificateFault
  files : p.1.credentials? = none ∨ p.1.channels? = none → p.2.world.files = w₀.files
  refused : ∀ e, w₀.callFault? server = some e → p.1.credentials? = none

/-- If the failure is one for want of trust, it is that of calls in `w₀`. -/
def Blames (w₀ : World) (server : Server) (e : Failure) : Prop := e.isTls = true → w₀.callFault? server = some e

theorem Blames.of_isTls_eq_false {w₀ : World} {server : Server} {e : Failure} (h : e.isTls = false) :
    Blames w₀ server e := fun htls => by
  rw [h] at htls
  cases htls

variable {decode : Http.Decoder} {w₀ : World} {server : Server} {p : Session × Recorded World}
  {configuration : StateM World (Except Failure Server)}

theorem Guarded.withWorld (h : Guarded w₀ server p) {r : Recorded World} (hr : r.world.evidence = p.2.world.evidence) :
    Guarded w₀ server (p.1, r) :=
  ⟨h.known, h.connected, (congrArg Prod.snd hr).trans h.certificateFault,
    fun hnone => (congrArg Prod.fst hr).trans (h.files hnone), h.refused⟩

theorem Guarded.callFault? (h : Guarded w₀ server p) (hfiles : p.2.world.files = w₀.files) :
    p.2.world.callFault? server = w₀.callFault? server :=
  World.callFault?_of_evidence (Prod.ext hfiles h.certificateFault) server

theorem Guarded.asked (h : Guarded w₀ server p) (hfiles : p.2.world.files = w₀.files) {α : Type}
    {step : ExceptT Failure (StateM World) α} (hkeep : (step.run.run p.2.world).2.evidence = p.2.world.evidence)
    (htrust : match p.2.world.callFault? server with
      | some e => step.run.run p.2.world = (.error e, p.2.world)
      | none => ∀ e w', step.run.run p.2.world = (.error e, w') → e.isTls = false)
    {answer : Except Failure α} {r : Recorded World} (hr : Recorded.quietly step.run p.2 = (answer, r)) :
    Guarded w₀ server (p.1, r) ∧ (∀ a, answer = .ok a → w₀.callFault? server = none) ∧
      ∀ e, answer = .error e → Blames w₀ server e ∧ ∀ e', w₀.callFault? server = some e' → e = e' := by
  obtain ⟨hanswer, rfl⟩ := Prod.mk.inj hr
  refine ⟨h.withWorld hkeep, ?_⟩
  rw [h.callFault? hfiles] at htrust
  subst hanswer
  cases hfault : w₀.callFault? server with
  | some e =>
    rw [hfault] at htrust
    have hfails : (step.run p.2.world).1 = .error e := congrArg Prod.fst htrust
    rw [hfails]
    refine ⟨fun _ ha => (nomatch ha), fun e' he' => ?_⟩
    cases he'
    exact ⟨fun _ => hfault, fun e' he' => Option.some.inj he'⟩
  | none =>
    rw [hfault] at htrust
    exact ⟨fun _ _ => rfl, fun e he => ⟨.of_isTls_eq_false (htrust e _ (Prod.ext he rfl)), fun e' he' => nomatch he'⟩⟩

variable (configuration) in
theorem ensureCredentials_guarded (h : Guarded w₀ server p) :
    (ensureCredentials (World.sources decode configuration)).Leads p
      (fun _ q => Guarded w₀ server q ∧ q.1.credentials?.isSome = true ∧ w₀.callFault? server = none)
      (fun e q => Guarded w₀ server q ∧ Blames w₀ server e ∧ ∀ e', w₀.callFault? server = some e' → e = e') := by
  unfold ensureCredentials
  refine .bind (.get ?_)
  cases hcredentials : p.1.credentials? with
  | some credentials =>
    refine .pure ⟨h, by rw [hcredentials]; rfl, ?_⟩
    cases hfault : w₀.callFault? server with
    | none => rfl
    | some e =>
      rw [h.refused e hfault] at hcredentials
      cases hcredentials
  | none =>
    have hfiles := h.files (.inl hcredentials)
    have hasked {answer : Except Failure (Option Credentials)} {r : Recorded World}
        (hr : Recorded.quietly (ServerAccount.login decode World.environment server).run p.2 = (answer, r)) :=
      h.asked hfiles ((Correspondence.login_rel Correspondence.keeping_evidence_queries server).2 p.2.world)
        (ServerAccount.login_trust server p.2.world) hr
    refine .bind (.of_runFrom (runFrom_ensureServer h.known) (.bind ?_))
    refine .ofEnvironment (fun answer r hr => ?_) fun e r hr => ?_
    · obtain ⟨hguarded, hgranted, -⟩ := hasked hr
      have hnone := hgranted _ rfl
      have hother {e : Failure} (he : e.isTls = false) :
          Guarded w₀ server (p.1, r) ∧ Blames w₀ server e ∧ ∀ e', w₀.callFault? server = some e' → e = e' :=
        ⟨hguarded, .of_isTls_eq_false he, fun e' he' => by rw [hnone] at he'; cases he'⟩
      cases answer with
      | none => exact .throw (hother rfl)
      | some credentials =>
        dsimp only
        split
        · exact .bind (.throw (hother rfl))
        · refine .bind (.modify (.pure ⟨?_, rfl, hnone⟩))
          refine ⟨hguarded.known, hguarded.connected, hguarded.certificateFault, fun _ => ?_, fun e he => ?_⟩
          · exact hguarded.files (.inl hcredentials)
          · rw [hnone] at he
            cases he
    · obtain ⟨hguarded, -, hrefused⟩ := hasked hr
      exact ⟨hguarded, hrefused e rfl⟩

variable (configuration) in
theorem ensureChannels_guarded (h : Guarded w₀ server p) :
    (ensureChannels (World.sources decode configuration)).Leads p
      (fun _ q => Guarded w₀ server q ∧ q.1.credentials? = p.1.credentials? ∧ q.1.channels?.isSome = true)
      (fun e q => Guarded w₀ server q ∧ Blames w₀ server e) := by
  unfold ensureChannels
  refine .bind (.get ?_)
  cases hchannels : p.1.channels? with
  | some channels => exact .pure ⟨h, rfl, by rw [hchannels]; rfl⟩
  | none =>
    have hfiles := h.files (.inr hchannels)
    have hasked {answer : Except Failure (List Channel)} {r : Recorded World}
        (hr : Recorded.quietly (ServerAccount.channels decode World.environment server).run p.2 = (answer, r)) :=
      h.asked hfiles ((Correspondence.channels_rel Correspondence.keeping_evidence_queries server).2 p.2.world)
        (ServerAccount.channels_trust server p.2.world) hr
    refine .bind (.of_runFrom (runFrom_ensureServer h.known) (.bind ?_))
    refine .ofEnvironment (fun channels r hr => ?_) fun e r hr => ?_
    · obtain ⟨hguarded, -⟩ := hasked hr
      refine .bind (.discard (.liftExcept (fun label hlabel => ?_) fun e he => ?_))
      · refine .bind (.modify (.pure ⟨?_, rfl, rfl⟩))
        refine ⟨hguarded.known, hguarded.connected, hguarded.certificateFault, fun _ => ?_, hguarded.refused⟩
        exact hguarded.files (.inr hchannels)
      · exact ⟨hguarded, .of_isTls_eq_false (Channel.baseLabel_trust he)⟩
    · obtain ⟨hguarded, -, hrefused⟩ := hasked hr
      exact ⟨hguarded, (hrefused e rfl).1⟩

end Session

/-! ## Stages -/

theorem Credentials.headers_trust {credentials : Credentials} {e : Failure} (h : credentials.headers = .error e) :
    e.isTls = false := by
  have hcollect (names : List String) (headers : OrderedMap String String)
      (h : Credentials.collect credentials headers names = .error e) : e.isTls = false := by
    induction names generalizing headers with
    | nil => cases h
    | cons name rest ih =>
      rw [Credentials.collect] at h
      split at h
      · exact ih _ h
      · cases h
        rfl
  unfold Credentials.headers at h
  rcases bind_eq_error.1 h with h | ⟨_, -, h⟩
  · exact hcollect _ _ h
  · cases h

theorem Server.contentAddress_trust {server : Server} {path : String} {e : Failure}
    (h : server.contentAddress path = .error e) : e.isTls = false := by
  unfold Server.contentAddress at h
  split at h
  · cases h
  · split at h <;> cases h
    rfl

namespace Transfer

open Session

variable {decode : Http.Decoder} {w₀ : World} {server : Server} {p : Session × Recorded World}
  {configuration : StateM World (Except Failure Server)}

theorem httpHeaders_trust {headers : OrderedMap String String} {e : Failure} (h : httpHeaders headers = .error e) :
    e.isTls = false := by
  obtain ⟨collected, header, -, h⟩ := exists_of_foldlM_eq_error h
  dsimp only at h
  split at h <;> cases h
  rfl

/-- What is recorded changes nothing for a `Guarded` session, whether or not it is taken. -/
theorem record_guarded (h : Guarded w₀ server p) (message : Message) :
    (ofEnvironment (World.environment.record message)).Leads p (fun _ q => Guarded w₀ server q ∧ q.1 = p.1)
      (fun e q => Guarded w₀ server q ∧ Blames w₀ server e) := by
  obtain ⟨hevidence, htrust⟩ := p.2.world.send_trust message
  refine .ofEnvironment (fun _ r hr => ?_) fun e r hr => ?_
  · unfold Environment.record at hr
    generalize World.environment.send message p.2.world = sent at hevidence hr
    rcases sent with ⟨_ | _, w⟩ <;> cases hr
    exact ⟨h.withWorld hevidence, rfl⟩
  · unfold Environment.record at hr
    generalize World.environment.send message p.2.world = sent at hevidence htrust hr
    rcases sent with ⟨_ | _, w⟩ <;> cases hr
    exact ⟨h.withWorld hevidence, .of_isTls_eq_false (htrust e rfl)⟩

variable (configuration) in
theorem logIn_guarded (h : Guarded w₀ server p) (uri : String) :
    (logIn (World.sources decode configuration) World.environment.record uri).Leads p
      (fun _ q => Guarded w₀ server q ∧ q.1.credentials?.isSome = true)
      (fun e q => Guarded w₀ server q ∧ Blames w₀ server e) := by
  unfold logIn
  refine .bind (.get ?_)
  cases hlogin : p.1.isLoggedIn with
  | true => exact .pure ⟨h, hlogin⟩
  | false =>
    refine .bind ((record_guarded h _).mono (fun _ q ⟨hq, _⟩ => .bind (.discard ?_)) fun _ _ he => he)
    refine (ensureCredentials_guarded configuration hq).mono ?_ ?_
    · rintro - q₁ ⟨hq₁, hlogged, -⟩
      refine (record_guarded hq₁ _).mono (fun _ q₂ ⟨hq₂, hsession⟩ => ⟨hq₂, ?_⟩) fun _ _ he => he
      rw [hsession]
      exact hlogged
    · rintro e q₁ ⟨hq₁, hblames, -⟩
      exact ⟨hq₁, hblames⟩

/-- From `locate` on no files are read any more. -/
theorem locate_guarded (h : Guarded w₀ server p) (hlogin : p.1.credentials?.isSome = true) (request : Request) :
    (locate (World.sources decode configuration) request).Leads p
      (fun _ q => Guarded w₀ server q ∧ q.1.Provided) (fun e q => Guarded w₀ server q ∧ Blames w₀ server e) := by
  unfold locate baseChannel
  refine .bind (.bind ((ensureChannels_guarded configuration h).mono ?_ fun _ _ he => he))
  rintro channels q ⟨hq, hkept, hlisted⟩
  rw [← hkept] at hlogin
  refine .liftExcept (fun label _ => .bind ?_) fun e he => ⟨hq, .of_isTls_eq_false ?_⟩
  · have hheaders : (ensureHeaders : SessionT (StateM (Recorded World)) _).Leads q
        (fun _ q' => Guarded w₀ server q' ∧ q'.1.Provided) (fun e q' => Guarded w₀ server q' ∧ Blames w₀ server e) := by
      unfold ensureHeaders
      refine .bind (.get ?_)
      cases q.1.headers? with
      | some headers => exact .pure ⟨hq, hlogin, hlisted⟩
      | none =>
        refine .bind (.get ?_)
        cases hcredentials : q.1.credentials? with
        | none => exact .throw ⟨hq, .of_isTls_eq_false rfl⟩
        | some credentials =>
          refine .bind (.liftExcept (fun headers _ => .bind (.modify (.pure ?_))) fun e he =>
            ⟨hq, .of_isTls_eq_false (Credentials.headers_trust he)⟩)
          exact ⟨⟨hq.known, hq.connected, hq.certificateFault, hq.files, hq.refused⟩, hlogin, hlisted⟩
    refine hheaders.mono (fun headers q' ⟨hq', hprovided⟩ => ?_) fun _ _ he => he
    refine .bind (.liftExcept (fun sent _ => .bind (.of_runFrom (runFrom_currentServer hq'.known) (.bind ?_)))
      fun e he => ⟨hq', .of_isTls_eq_false (httpHeaders_trust he)⟩)
    refine .liftExcept (fun address _ => .bind ?_)
      fun e he => ⟨hq', .of_isTls_eq_false (Server.contentAddress_trust he)⟩
    obtain ⟨connection, hconnection⟩ := Option.isSome_iff_exists.1 hq'.connected
    exact .of_runFrom (runFrom_ensureConnection hconnection) (.pure ⟨hq', hprovided⟩)
  · exact Channel.baseLabel_trust he

theorem ask_guarded (h : Guarded w₀ server p) (uri : String) (connection : Connection) (content : Http.Request) :
    (ask World.environment.recorded uri connection content).Leads p (fun _ q => Guarded w₀ server q ∧ q.1 = p.1)
      (fun e q => Guarded w₀ server q ∧ Blames w₀ server e) := by
  have hkeep := Correspondence.follow_rel (R := .keeping fun r : Recorded World => r.world.evidence)
    (Correspondence.keeping_evidence_recorded.exchange connection) (Http.longestChain - 1) content
  have hasked : Guarded w₀ server (p.1, (Http.send (World.environment.recorded.exchange connection) content p.2).2) :=
    h.withWorld (hkeep.2 p.2)
  unfold ask
  refine .bind (.ofEnvironment (fun result r hr => ?_) fun e r hr => ?_)
  · obtain ⟨-, rfl⟩ := Prod.mk.inj hr
    cases result with
    | error why => exact .throw ⟨hasked, .of_isTls_eq_false rfl⟩
    | ok reply =>
      dsimp only
      split
      · exact .throw ⟨hasked, .of_isTls_eq_false rfl⟩
      · exact .pure ⟨hasked, rfl⟩
  · cases (Prod.mk.inj hr).1

section Store

variable {σ : Type} {env : Environment (StateM σ)} {file : String} {body : Http.Body} {e : Failure}

theorem appendChunks_trust (chunks : List Bytes) {running : ContentDigest.Running} {w w' : σ}
    (h : (appendChunks env file running chunks).run.run w = (.error e, w')) : e.isTls = false := by
  induction chunks generalizing running w with
  | nil => cases h
  | cons chunk rest ih =>
    rw [appendChunks, run_bind_state, run_lift_state] at h
    generalize env.appendFile file chunk w = appended at h
    obtain ⟨_ | _, w₁⟩ := appended
    · cases h
      rfl
    · exact ih h

theorem write_trust {w w' : σ} (h : (write env file body).run.run w = (.error e, w')) : e.isTls = false := by
  rw [write, run_bind_state, run_lift_state] at h
  generalize env.createFile file w = created at h
  obtain ⟨_ | _, w₁⟩ := created
  · cases h
    rfl
  · dsimp only at h
    rw [run_bind_state] at h
    cases hchunks : (appendChunks env file .new body.chunks).run.run w₁ with
    | mk result w₂ =>
      rw [hchunks] at h
      cases result with
      | error e' =>
        cases h
        exact appendChunks_trust _ hchunks
      | ok running =>
        dsimp only at h
        split at h
        · cases h
          rfl
        · rw [run_bind_state, run_lift_state] at h
          generalize env.flushFile file w₂ = flushed at h
          obtain ⟨_ | _, w₃⟩ := flushed <;> cases h
          rfl

theorem store_trust {w : σ} (h : (store env file body w).1 = .error e) : e.isTls = false := by
  rw [store_eq] at h
  cases hwrite : (write env file body).run.run w with
  | mk result w' =>
    rw [hwrite] at h
    cases result with
    | ok digest => cases h
    | error e' =>
      cases h
      exact write_trust hwrite

end Store

/-- A session that is `Provided` with all for which files are read may change them. -/
theorem receive_guarded (h : Guarded w₀ server p) (hprovided : p.1.Provided) (request : Request) (reply : Http.Reply) :
    (receive World.environment.recorded request reply).Leads p (fun _ q => Guarded w₀ server q)
      (fun e q => Guarded w₀ server q ∧ Blames w₀ server e) := by
  have hkeep := Correspondence.store_rel (Correspondence.keeping_fault_changes.at request.filename) reply.body
  have hstored : Guarded w₀ server (p.1, (store World.environment.recorded request.filename reply.body p.2).2) := by
    refine ⟨h.known, h.connected, (hkeep.2 p.2).trans h.certificateFault, fun hnone => ?_, h.refused⟩
    obtain ⟨hcredentials, hchannels⟩ := hprovided
    rcases hnone with hnone | hnone
    · rw [hnone] at hcredentials
      cases hcredentials
    · rw [hnone] at hchannels
      cases hchannels
  unfold receive
  refine .bind (.ofEnvironment (fun digest r hr => ?_) fun e r hr => ?_)
  · rw [hr] at hstored
    exact .pure hstored
  · rw [hr] at hstored
    exact ⟨hstored, .of_isTls_eq_false (store_trust (congrArg Prod.fst hr))⟩

variable (configuration) in
/-- Whatever a transfer fails with, if that is for want of trust, it is the failure of all calls in `w₀`. -/
theorem fetch_guarded (h : Guarded w₀ server p) (request : Request) :
    (fetch World.environment.recorded (World.sources decode configuration) World.environment.record request).Leads p
      (fun _ q => Guarded w₀ server q) (fun e q => Guarded w₀ server q ∧ Blames w₀ server e) := by
  have hchecked : (checkHost (World.sources decode configuration) request).Leads p (fun _ q => q = p)
      (fun e q => q = p ∧ Blames w₀ server e) := by
    unfold Leads
    rw [runFrom_checkHost _ request h.known]
    split
    · exact ⟨fun _ q hq => (Prod.mk.inj hq).2.symm, fun _ q hq => nomatch (Prod.mk.inj hq).1⟩
    · refine ⟨fun _ q hq => (nomatch (Prod.mk.inj hq).1), fun e q hq => ?_⟩
      cases hq
      exact ⟨rfl, .of_isTls_eq_false rfl⟩
  unfold fetch announce
  refine .bind (.bind (hchecked.mono ?_ ?_))
  · rintro _ q rfl
    refine .bind ((logIn_guarded configuration h _).mono (fun _ q₁ ⟨h₁, hlogin⟩ => ?_) fun _ _ he => he)
    refine .bind ((locate_guarded h₁ hlogin request).mono (fun located q₂ ⟨h₂, hprovided⟩ => ?_) fun _ _ he => he)
    refine .bind ((record_guarded h₂ _).mono (fun _ q₃ ⟨h₃, hsession₃⟩ => ?_) fun _ _ he => he)
    refine .bind ((ask_guarded h₃ _ _ _).mono (fun reply q₄ ⟨h₄, hsession₄⟩ => ?_) fun _ _ he => he)
    refine .bind ((record_guarded h₄ _).mono (fun _ q₅ ⟨h₅, hsession₅⟩ => .pure ?_) fun _ _ he => he)
    rw [← hsession₃, ← hsession₄, ← hsession₅] at hprovided
    exact receive_guarded h₅ hprovided request reply
  · rintro e q ⟨rfl, hblames⟩
    exact ⟨h, hblames⟩

variable (configuration) in
/-- Where there is a `callFault?`, `fetch` fails for want of trust, unless the front end is gone. -/
theorem fetch_refused (h : Guarded w₀ server p) {e : Failure} (he : w₀.callFault? server = some e) {request : Request}
    (hserves : server.serves request.uri = true)
    (hopen : (World.environment.send (loggingIn request.uri.text) p.2.world).1 = .ok ()) :
    (fetch World.environment.recorded (World.sources decode configuration) World.environment.record request).Leads p
      (fun _ _ => False) (fun e' _ => e' = e) := by
  have hchecked := runFrom_checkHost (World.sources decode configuration) request h.known
  rw [if_pos hserves] at hchecked
  have hlogin : p.1.isLoggedIn = false := by rw [isLoggedIn, h.refused e he]; rfl
  have hsaid : (ofEnvironment (World.environment.record (loggingIn request.uri.text))).runFrom p =
      (.ok (), p.1, (World.environment.record (loggingIn request.uri.text) p.2).2) := by
    rw [runFrom_ofEnvironment, Environment.record_of_ok hopen]
  obtain ⟨hq, -⟩ := (record_guarded h _).1 _ _ hsaid
  have hlogIn : (logIn (World.sources decode configuration) World.environment.record request.uri.text).Leads p
      (fun _ _ => False) (fun e' _ => e' = e) := by
    unfold logIn
    refine .bind (.get ?_)
    rw [hlogin]
    refine .bind (.of_runFrom hsaid (.bind (.discard ?_)))
    refine (ensureCredentials_guarded configuration hq).mono ?_ ?_
    · rintro - q ⟨-, -, hnone⟩
      rw [hnone] at he
      cases he
    · rintro e' q ⟨-, -, hsame⟩
      exact hsame e he
  unfold fetch announce
  exact .bind (.bind (.of_runFrom hchecked (.bind (hlogIn.mono (fun _ _ hfalse => hfalse.elim) fun _ _ he' => he'))))

end Transfer

end SpacewalkAcquire
