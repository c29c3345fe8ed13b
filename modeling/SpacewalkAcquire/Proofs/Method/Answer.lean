import SpacewalkAcquire.Proofs.Accounts.Answer
import SpacewalkAcquire.Proofs.Method.Contact
import SpacewalkAcquire.Proofs.XmlRpc.Encoding

/-!
# From the answer to a login to the requests of a run

* `Ledger.contents_eq_nil` : with credentials of which no request can be made, no document was asked for;
* `ledger_of_mem_runVisits` : every visit of a run leaves a session with its ledger;
* `Answered document members credentials` : all that becomes of a struct in the answer to a login;
* `credentials_of_answer` : that is what becomes of it.
-/

namespace SpacewalkAcquire

open SessionT Session Transfer

/-- No request can be made with these credentials: one that is `required` is missing, or cannot be sent. -/
def Credentials.IsUnusable (credentials : Credentials) : Prop :=
  ∀ headers sent, credentials.headers = .ok headers → httpHeaders headers ≠ .ok sent

section Ledger

variable {σ : Type} {decode : Http.Decoder} {server : Server} {errands : List (Errand decode server)}
  {p : Session × Recorded σ}

/-- A session whose credentials are `IsUnusable` has asked for no document, since it has never had others. -/
theorem Ledger.contents_eq_nil (h : Ledger server errands p) {credentials : Credentials}
    (hcredentials : p.1.credentials? = some credentials) (hunusable : credentials.IsUnusable) :
    Errand.contents errands = [] := by
  cases hcontents : Errand.contents errands with
  | nil => rfl
  | cons request rest =>
    obtain ⟨earlier, e, later, hsplit, hpurpose⟩ := mem_contents (hcontents ▸ List.mem_cons_self : request ∈ _)
    obtain ⟨credentials', channels, hcredentials', -, -, -, label, headers, sent, address, -, hheaders, hsent, -⟩ :=
      h.contents earlier e later request hsplit hpurpose
    cases hcredentials.symm.trans hcredentials'
    exact (hunusable headers sent hheaders hsent).elim

theorem ServerAccount.verb_callRequest (server : Server) (method : String) (parameters : List String) :
    (callRequest server method parameters).verb = .post := by
  unfold callRequest Http.Request.withHeader Http.Request.ofUrl
  cases Http.Request.authorization? server.base <;> rfl

theorem Errand.verb_of_contents (h : Errand.contents errands = []) {e : Errand decode server} (he : e ∈ errands) :
    e.purpose.content? = none ∧ e.request.verb = .post := by
  have hpurpose := List.filterMap_eq_nil_iff.1 h e he
  refine ⟨hpurpose, ?_⟩
  have hfits := e.fits
  cases hkind : e.purpose with
  | content request =>
    rw [hkind] at hpurpose
    cases hpurpose
  | login | listing =>
    rw [hkind] at hfits
    obtain ⟨identity, hrequest⟩ := hfits
    rw [hrequest]
    exact ServerAccount.verb_callRequest _ _ _

end Ledger

namespace Method

variable {σ : Type}

/-- Every visit of `runVisits` leaves a session with its ledger. -/
theorem ledger_of_mem_runVisits (decode : Http.Decoder) (env : Environment (StateM σ))
    (configuration : StateM σ (Except Failure Server))
    (items : List (Except Failure Message)) (known : Option Server) (w : σ) {v : Visit (Recorded σ)}
    (hv : v ∈ runVisits env.recorded (.atServer decode env configuration) env.record items
      (Session.begin known, .new w)) :
    ∃ (server : Server) (errands : List (Errand decode server)), Ledger server errands v.after := by
  obtain ⟨hstarted, -⟩ := start_ledger env configuration known w
  have hvisit := eq_visit_of_mem_runVisits hv
  rcases hstart : (start env.recorded (.atServer decode env configuration) env.record).runFrom
    (Session.begin known, Recorded.new w) with ⟨e | _, q⟩
  · rw [runVisits_of_error hstart] at hv
    cases hv
  · rw [runVisits_of_ok hstart] at hv
    obtain ⟨server, -, hledger⟩ := hstarted () q hstart
    have hbefore := forall_before (P := fun p => ∃ errands : List (Errand decode server), Ledger server errands p)
      (fun message p ⟨_, h⟩ => by
        obtain ⟨more, hmore, -⟩ := visit_ledger env configuration h message
        exact ⟨_, hmore⟩) items ⟨[], hledger⟩ v hv
    obtain ⟨errands, hbefore⟩ := hbefore
    obtain ⟨more, hafter, -⟩ := visit_ledger env configuration hbefore v.message
    rw [← hvisit] at hafter
    exact ⟨server, errands ++ more, hafter⟩

/-! ## Main result -/

/-- What becomes of a struct in the answer to a login. -/
structure Answered (document : String) (members : List (String × XmlRpc.Value)) (credentials : Credentials) : Prop where
  response : credentials.FromResponse document members
  headers : credentials.HeadersFrom members
  sent : credentials.Sent
  /-- A login that is answered so gives the credentials to the session, unless no member is a scalar: then the system is
  not registered, and the session stays as it is. -/
  session : ∀ {σ : Type} (decode : Http.Decoder) (env : Environment (StateM σ))
    (configuration : StateM σ (Except Failure Server)) {s : Session} {server : Server} {identity : String} {w w₁ w₂ : σ},
    s.server? = some server → s.credentials? = none →
    (ServerAccount.systemId env server).run.run w = (.ok (some identity), w₁) →
    (ServerAccount.call decode env server "up2date.login" [identity]).run.run w₁ = (.ok document, w₂) →
    (ensureCredentials (.ofEnvironment env (.xmlRpc decode env) configuration)).runFrom (s, w) =
      if ∀ p ∈ members, p.2.scalarText? = none then (.error .notRegistered, s, w₂)
      else (.ok credentials, { s with credentials? := some credentials }, w₂)
  /-- If no request can be made with the credentials, a run that holds them has sent none for a document: all that it
  has asked the server for was posted. -/
  unsent : credentials.IsUnusable → ∀ {σ : Type} (decode : Http.Decoder) (env : Environment (StateM σ))
    (configuration : StateM σ (Except Failure Server)) (items : List (Except Failure Message)) (known : Option Server)
    (w : σ), ∀ v ∈ runVisits env.recorded (.atServer decode env configuration) env.record items
      (Session.begin known, .new w),
    v.after.1.credentials? = some credentials →
    ∃ (server : Server) (errands : List (Errand decode server)), v.after.2.exchanges = Errand.exchangesOf errands ∧
      ∀ e ∈ errands, e.purpose.content? = none ∧ e.request.verb = .post

/-- From the answer to a login to the headers of a request: whatever members a struct in the answer has, in whatever
order, the credentials are its scalar members as they were received; headers are made of the five that are required, or
the first absent one is missed; all of them are sent, or no document is asked for. -/
theorem credentials_of_answer {document : String} {members : List (String × XmlRpc.Value)}
    (h : XmlRpc.decode document = .ok (.struct members)) :
    ∃ credentials, Credentials.ofValue? (.struct members) = some credentials ∧
      Answered document members credentials := by
  have hmembers := XmlRpc.nodup_of_decode h
  obtain ⟨credentials, hvalue⟩ : ∃ credentials, Credentials.ofValue? (.struct members) = some credentials := ⟨_, rfl⟩
  refine ⟨credentials, hvalue, Credentials.fromResponse h hvalue, Credentials.headersFrom hmembers hvalue,
    Credentials.sent credentials, ?_, ?_⟩
  · intro σ decode env configuration s server identity w w₁ w₂ hserver hnone hidentity hcall
    have hlogin := ServerAccount.run_login hidentity hcall h
    rw [hvalue] at hlogin
    rw [runFrom_ensureCredentials hserver hnone hlogin]
    exact if_congr (Credentials.isEmpty_iff hmembers hvalue) rfl rfl
  · intro hunusable σ decode env configuration items known w v hv hcredentials
    obtain ⟨server, errands, hledger⟩ := ledger_of_mem_runVisits decode env configuration items known w hv
    have hcontents := hledger.contents_eq_nil hcredentials hunusable
    exact ⟨server, errands, hledger.exchanges, fun e he => Errand.verb_of_contents hcontents he⟩

/-- An answer with its members in another order: some are more than asked for, one is no scalar when it is first named,
and one has the name of the header about redirects. -/
theorem credentials_of_answer_shuffled :
    let pairs : List (String × XmlRpc.Value) := [("X-RHN-Auth-Expire-Offset", .integer 3600 "+3600"),
      ("X-RHN-Auth", .null), ("X-RHN-Transport-Capability", .string "none"), ("X-RHN-Server-Id", .string "ID-1"),
      ("more", .struct [("X-RHN-Auth", .boolean true)]), ("X-RHN-Auth-User-Id", .string ""),
      ("X-RHN-Auth-Server-Time", .double 0x3FF8000000000000 "+1.5e0"), ("X-RHN-Auth", .string " <a>\t")]
    let document := XmlRpc.responseStart ++ (XmlRpc.Value.struct pairs).encode ++ "</param>"
    XmlRpc.decode document = .ok (.struct (XmlRpc.bindAll [] pairs)) ∧
      ∃ credentials, Credentials.ofValue? (.struct (XmlRpc.bindAll [] pairs)) = some credentials ∧
        Answered document (XmlRpc.bindAll [] pairs) credentials := by
  intro pairs document
  have hinteger : Text.readInteger? "+3600".toList = some 3600 := by decide
  have hdouble : Binary64.read? "+1.5e0" = some 0x3FF8000000000000 := by decide +kernel
  have hwritten : ∀ p ∈ pairs, p.2.IsWritten := by
    have hmore : ∀ p ∈ [("X-RHN-Auth", XmlRpc.Value.boolean true)], p.2.IsWritten :=
      List.forall_mem_singleton.2 (.boolean true)
    simpa [pairs] using ⟨.integer hinteger, .null, .string _, .string _, .struct (by decide) hmore, .string _,
      .double hdouble, .string _⟩
  have hdecode : XmlRpc.decode document = .ok (.struct (XmlRpc.bindAll [] pairs)) :=
    XmlRpc.decode_encodeMembers hwritten "</param>"
  exact ⟨hdecode, credentials_of_answer hdecode⟩

end Method

end SpacewalkAcquire
