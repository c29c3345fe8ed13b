import SpacewalkAcquire.Proofs.Transfer.Announce
import SpacewalkAcquire.Proofs.Transfer.Digest

/-!
# What is said about one message

* `Block message b a said` : `said` is a complete answer to an acquire message, whose last message is 201 or 400;
* `CutOff message b a said` : `said` is one that the front end did not take to its end;
* `acquire_sent` : an acquire message gets the one or the other.
-/

namespace SpacewalkAcquire.Method

open SessionT Transfer

/-- A complete answer to an acquire message. `before` and `after` tell whether the session is logged in. -/
inductive Block (message : Message) (before after : Bool) : List Message → Prop
  | rejected {failure : Failure} (h : Request.ofMessage message = .error failure)
      (hlogin : before = true → after = true) :
      Block message before after [.uriFailure (message.field? "URI") failure]
  | failed {request : Request} {notes : List Message} (failure : Failure) (h : Request.ofMessage message = .ok request)
      (hnotes : Progress request.uri.text before after notes) :
      Block message before after (notes ++ [.uriFailure (some request.uri.text) failure])
  | notStored {request : Request} {notes : List Message} (reply : Http.Reply) (failure : Failure)
      (h : Request.ofMessage message = .ok request) (hnotes : LogInNotes request.uri.text before after notes) :
      Block message before after (notes ++ [waiting request.uri.text, announcement request.uri.text reply,
        .uriFailure (some request.uri.text) failure])
  | stored {request : Request} {notes : List Message} (reply : Http.Reply) (h : Request.ofMessage message = .ok request)
      (hnotes : LogInNotes request.uri.text before after notes) :
      Block message before after (notes ++ [waiting request.uri.text, announcement request.uri.text reply,
        .uriDone request.uri.text request.filename (outcome reply (.of reply.body.chunks.flatten))])

/-- An answer to `message` whose end the front end did not take. -/
inductive CutOff (message : Message) (before after : Bool) : List Message → Prop
  | rejected (hlogin : before = true → after = true) : CutOff message before after []
  | failed {request : Request} {notes : List Message} (h : Request.ofMessage message = .ok request)
      (hnotes : Progress request.uri.text before after notes) : CutOff message before after notes
  | announced {request : Request} {notes : List Message} (reply : Http.Reply)
      (h : Request.ofMessage message = .ok request) (hnotes : LogInNotes request.uri.text before after notes) :
      CutOff message before after (notes ++ [waiting request.uri.text, announcement request.uri.text reply])

variable {σ : Type} {env : Environment (StateM σ)} {sources : Sources (StateM (Recorded σ))}

theorem receive_leads (request : Request) (reply : Http.Reply) (p : Session × Recorded σ) :
    (receive env.recorded request reply).Leads p
      (fun result q => result = outcome reply (.of reply.body.chunks.flatten) ∧ q.2.sent = p.2.sent ∧
        q.1.isLoggedIn = p.1.isLoggedIn)
      (fun _ q => q.2.sent = p.2.sent ∧ q.1.isLoggedIn = p.1.isLoggedIn) := by
  obtain ⟨hsent, hlogin⟩ := receive_quiet env request reply p
  have hrun := runFrom_receive env.recorded request reply p
  refine ⟨fun result q hq => ?_, fun e q hq => ?_⟩
  · rw [hq] at hsent hlogin
    refine ⟨?_, hsent, hlogin⟩
    rw [hq] at hrun
    cases hdigest : (store env.recorded request.filename reply.body p.2).1 with
    | ok digest =>
      rw [hdigest, Prod.mk.injEq] at hrun
      rw [← store_digest hdigest]
      exact Except.ok.inj hrun.1
    | error e =>
      rw [hdigest, Prod.mk.injEq] at hrun
      cases hrun.1
  · rw [hq] at hsent hlogin
    exact ⟨hsent, hlogin⟩

/-- Whether or not it goes well, `serve` says a `Block` with its final answer. -/
theorem serve_leads (h : (Correspondence.keeping Recorded.sent).Sources sources sources) {message : Message}
    {request : Request} (hrequest : Request.ofMessage message = .ok request) (p : Session × Recorded σ) :
    (serve env.recorded sources request env.record).Leads p
      (fun answer q => ∃ said, q.2.sent = p.2.sent ++ said ∧
        Block message p.1.isLoggedIn q.1.isLoggedIn (said ++ [answer]) ∧
        CutOff message p.1.isLoggedIn q.1.isLoggedIn said)
      (fun _ _ => False) := by
  unfold serve
  refine .bind (.outcome ?_)
  unfold fetch
  refine .bind ((announce_sent h request p).mono (fun reply q ⟨notes, hnotes, hs⟩ => ?_)
    fun e q ⟨notes, hnotes, hs⟩ => ?_)
  · refine (receive_leads request reply q).mono (fun result r hr => ?_) fun e r hr => ?_
    · obtain ⟨rfl, hsent, hlogin⟩ := hr
      rw [← hlogin] at hnotes
      refine .pure ⟨_, hsent.trans hs, ?_, .announced reply hrequest hnotes⟩
      rw [List.append_assoc]
      exact .stored reply hrequest hnotes
    · rw [← hr.2] at hnotes
      refine .pure ⟨_, hr.1.trans hs, ?_, .announced reply hrequest hnotes⟩
      rw [List.append_assoc]
      exact .notStored reply e hrequest hnotes
  · exact .pure ⟨notes, hs, .failed e hrequest hnotes, .failed hrequest hnotes⟩

/-- `acquire` gives a complete answer, as far as the front end takes it. -/
theorem acquire_sent (h : (Correspondence.keeping Recorded.sent).Sources sources sources) (message : Message)
    (p : Session × Recorded σ) :
    (acquire env.recorded sources message env.record).Leads p
      (fun _ q => ∃ said, Block message p.1.isLoggedIn q.1.isLoggedIn said ∧ q.2.sent = p.2.sent ++ said)
      (fun _ q => ∃ said, CutOff message p.1.isLoggedIn q.1.isLoggedIn said ∧ q.2.sent = p.2.sent ++ said) := by
  unfold acquire
  cases hrequest : Request.ofMessage message with
  | error failure =>
    refine record_leads _ (fun r hr => ⟨_, .rejected hrequest id, hr⟩) fun e r hr => ⟨[], .rejected id, ?_⟩
    rw [hr, List.append_nil]
  | ok request =>
    refine .bind ((serve_leads h hrequest p).mono (fun answer q ⟨said, hs, hblock, hcut⟩ => ?_)
      fun _ _ hfalse => hfalse.elim)
    refine record_leads answer (fun r hr => ⟨_, hblock, ?_⟩) fun e r hr => ⟨_, hcut, hr.trans hs⟩
    rw [hr, hs, List.append_assoc]

end SpacewalkAcquire.Method
