import SpacewalkAcquire.Proofs.Accounts.Ledger
import SpacewalkAcquire.Proofs.Method.Files

/-!
# What a run asks of its server

* `ask_reached`, `announce_reached`, … : each stage of a transfer keeps the ledger of the session;
* `Dismissed` : a message is answered with a failure, and nothing else happens;
* `Contact` : what one visit asks of the server;
* `run_recording`, `run_ledger` : a run does the same when it is recorded, and it keeps the ledger of its session;
* `run_contact` : in every run each visit asks for one document at most, on the strength of the one login and the one
  listing that the session remembers, and for none if its message is of no use here.
-/

namespace SpacewalkAcquire.Method

open SessionT Session Transfer

variable {σ : Type} {decode : Http.Decoder} {server : Server} {env : Environment (StateM σ)}
  {configuration : StateM σ (Except Failure Server)}
  {errands : List (Errand decode server)} {contents : List Request} {p q : Session × Recorded σ}

/-! ## Stages -/

variable (env) in
theorem record_exchanges (message : Message) (r : Recorded σ) : (env.record message r).2.exchanges = r.exchanges :=
  (Correspondence.keeping_exchanges_listeners env message).2 r

theorem record_leads (message : Message) {succeeded : Unit → Session × Recorded σ → Prop}
    {failed : Failure → Session × Recorded σ → Prop}
    (ok : ∀ r : Recorded σ, r.exchanges = p.2.exchanges → succeeded () (p.1, r))
    (error : ∀ e (r : Recorded σ), r.exchanges = p.2.exchanges → failed e (p.1, r)) :
    (ofEnvironment (env.record message)).Leads p succeeded failed := by
  have hexchanges := record_exchanges env message p.2
  refine .ofEnvironment (fun _ r hr => ?_) fun e r hr => ?_
  · rw [hr] at hexchanges
    exact ok r hexchanges
  · rw [hr] at hexchanges
    exact error e r hexchanges

theorem record_reached (h : Reached errands contents p) (message : Message) :
    (ofEnvironment (env.record message)).Leads p (fun _ q => Reached errands contents q)
      (fun _ q => Reached errands contents q) :=
  record_leads message (fun _ hr => h.of_eq rfl hr) fun _ _ hr => h.of_eq rfl hr

theorem checkHost_reached (h : Reached errands contents p) (request : Request) :
    (checkHost (.atServer decode env configuration) request).Leads p (fun _ q => Reached errands contents q)
      (fun _ q => Reached errands contents q) := by
  unfold checkHost
  refine .bind ((ensureServer_steps _ p).mono (fun server' q ⟨hsteps, _⟩ => ?_) fun _ _ hq => h.steps hq.1)
  split
  · exact .throw (h.steps hsteps)
  · exact .pure (h.steps hsteps)

theorem logIn_reached (h : Reached errands contents p) (uri : String) :
    (logIn (.atServer decode env configuration) env.record uri).Leads p (fun _ q => Reached errands contents q)
      (fun _ q => Reached errands contents q) := by
  unfold logIn
  refine .bind (.get ?_)
  split
  · refine .bind ((record_reached h _).mono (fun _ q hq => ?_) fun _ _ hq => hq)
    refine .bind (.discard ((ensureCredentials_steps _ q).mono (fun _ r hr => ?_) fun _ _ hr => hq.steps hr.1))
    exact record_reached (hq.steps hr.1) _
  · exact .pure h

/-- With what `locate` gives the session is `Entitled` to the document. -/
theorem locate_reached (h : Reached errands [] p) (request : Request) :
    (locate (.atServer decode env configuration) request).Leads p
      (fun found q => ∃ more, Errand.contents more = [] ∧ Ledger server (errands ++ more) q ∧
        Entitled (errands ++ more) q.1 request found.2)
      (fun _ q => Reached errands [] q) := by
  unfold locate
  refine .bind ((baseChannel_steps _ p).mono (fun label q₁ ⟨hsteps₁, channels, hchannels, hlabel⟩ => ?_)
    fun _ _ hq => h.steps hq.1)
  have h₁ := h.steps hsteps₁
  refine .bind ((ensureHeaders_steps (.atServer decode env configuration) q₁).mono (fun headers q₂ ⟨hsteps₂, hheld⟩ => ?_)
    fun _ _ hq => h₁.steps hq.1)
  have h₂ := h₁.steps hsteps₂
  refine .bind (.liftExcept (fun sent hsent => ?_) fun _ _ => h₂)
  have ⟨_, _, hledger₂⟩ := h₂
  obtain ⟨credentials, hcredentials, hheaders⟩ := hledger₂.sound.headers headers hheld
  refine .bind (.of_runFrom (runFrom_currentServer hledger₂.server) ?_)
  refine .bind (.liftExcept (fun address haddress => ?_) fun _ _ => h₂)
  refine .bind ((ensureConnection_steps _ q₂).mono (fun connection q₃ ⟨hsteps₃, _⟩ => ?_) fun _ _ hq => h₂.steps hq.1)
  obtain ⟨more, hmore, hledger⟩ := h₂.steps hsteps₃
  have hcredentials' := hsteps₃.keeps.1.credentials _ hcredentials
  have hchannels' := hsteps₃.keeps.1.channels _ (hsteps₂.keeps.1.channels _ hchannels)
  refine .pure ⟨more, hmore, hledger, credentials, channels, hcredentials', hchannels', ?_, ?_, ?_⟩
  · exact hledger.credentials credentials hcredentials'
  · exact hledger.channels hchannels'
  · exact ⟨label, headers, sent, address, hlabel, hheaders, hsent, haddress, rfl⟩

/-- `ask` is one errand for the document of `request`. -/
theorem ask_reached {request : Request} {content : Http.Request} (h : Ledger server errands p)
    (hentitled : Entitled errands p.1 request content) (uri : String) (connection : Connection) :
    (ask env.recorded uri connection content).Leads p (fun _ q => Reached errands [request] q)
      (fun _ q => Reached errands [request] q) := by
  obtain ⟨chain, hexchanges, hchain⟩ := Http.chain_send env connection content p.2
  have hget : content.verb = .get := by
    obtain ⟨_, _, _, _, _, _, hcarries⟩ := hentitled
    exact hcarries.verb
  have hreached : Reached errands [request] (p.1, (Http.send (env.recorded.exchange connection) content p.2).2) := by
    refine ⟨[⟨.content request, content, chain, _, hget, hchain⟩], rfl, ?_⟩
    refine h.concat _ hexchanges (.refl _) h.sound (fun _ hc => .inl hc) (h.listed.other nofun) fun other hother => ?_
    cases hother
    exact hentitled
  unfold ask
  refine .bind (.ofEnvironment (fun result r hr => ?_) fun e r hr => ?_)
  · obtain ⟨-, rfl⟩ := Prod.mk.inj hr
    cases result with
    | error why => exact .throw hreached
    | ok reply =>
      dsimp only
      split
      · exact .throw hreached
      · exact .pure hreached
  · cases (Prod.mk.inj hr).1

/-- Errands that ask for the document of `request` at most. -/
def Fetches (errands : List (Errand decode server)) (request : Request) (q : Session × Recorded σ) : Prop :=
  Reached errands [] q ∨ Reached errands [request] q

theorem announce_reached (h : Reached errands [] p) (request : Request) :
    (announce env.recorded (.atServer decode env configuration) env.record request).Leads p
      (fun _ q => Fetches errands request q) (fun _ q => Fetches errands request q) := by
  unfold announce
  refine .bind ((checkHost_reached h request).mono (fun _ q₁ h₁ => ?_) fun _ _ h => .inl h)
  refine .bind ((logIn_reached h₁ _).mono (fun _ q₂ h₂ => ?_) fun _ _ h => .inl h)
  refine .bind ((locate_reached h₂ request).mono (fun found q₃ ⟨more, hmore, hledger, hentitled⟩ => ?_)
    fun _ _ h => .inl h)
  have h₃ : Reached errands [] q₃ := ⟨more, hmore, hledger⟩
  refine .bind (record_leads _ (fun r hr => ?_) fun _ r hr => .inl (h₃.of_eq rfl hr))
  have hledger' : Ledger server (errands ++ more) (q₃.1, r) := hledger.keep hr (.refl _) hledger.sound rfl rfl
  have hasked (q₄ : Session × Recorded σ) (h₄ : Reached (errands ++ more) [request] q₄) :
      Reached errands [request] q₄ := Reached.trans hmore h₄
  refine .bind ((ask_reached hledger' hentitled _ _).mono (fun reply q₄ h₄ => ?_) fun _ _ h => .inr (hasked _ h))
  refine .bind ((record_reached (hasked _ h₄) _).mono (fun _ _ h => ?_) fun _ _ h => .inr h)
  exact .pure (.inr h)

theorem receive_reached (h : Reached errands contents p) (request : Request) (reply : Http.Reply) :
    Reached errands contents ((receive env.recorded request reply).runFrom p).2 := by
  rw [runFrom_receive]
  exact h.of_eq rfl ((Correspondence.store_rel (Correspondence.keeping_exchanges_changesAt env _) _).2 p.2)

theorem fetch_reached (h : Ledger server errands p) (request : Request) :
    (fetch env.recorded (.atServer decode env configuration) env.record request).Leads p
      (fun _ q => Fetches errands request q) (fun _ q => Fetches errands request q) := by
  refine .bind ((announce_reached (.refl h) request).mono (fun reply q hq => ?_) fun _ _ hq => hq)
  have hreceived : Fetches errands request ((receive env.recorded request reply).runFrom q).2 :=
    hq.imp (receive_reached · request reply) (receive_reached · request reply)
  refine ⟨fun _ r hr => ?_, fun _ r hr => ?_⟩
  · rwa [hr] at hreceived
  · rwa [hr] at hreceived

theorem record_fetches {request : Request} (h : Fetches errands request p) (message : Message) :
    (ofEnvironment (env.record message)).Leads p (fun _ q => Fetches errands request q)
      (fun _ q => Fetches errands request q) := by
  rcases h with h | h
  · exact (record_reached h message).mono (fun _ _ h => .inl h) fun _ _ h => .inl h
  · exact (record_reached h message).mono (fun _ _ h => .inr h) fun _ _ h => .inr h

variable (env configuration) in
/-- `visit` keeps the ledger, and asks for the document of its message at most. -/
theorem visit_ledger (h : Ledger server errands p) (message : Message) :
    let v := visit env.recorded (.atServer decode env configuration) env.record message p
    ∃ more, Ledger server (errands ++ more) v.after ∧ (Errand.contents more = [] ∨
      ∃ request, Request.ofMessage message = .ok request ∧ Errand.contents more = [request]) := by
  intro v
  have hafter : v.after =
      ((acquire env.recorded (.atServer decode env configuration) message env.record).runFrom p).2 := rfl
  rw [hafter, acquire]
  cases hrequest : Request.ofMessage message with
  | error failure =>
    have hreached : Reached errands []
        ((ofEnvironment (env.record (.uriFailure (message.field? "URI") failure))).runFrom p).2 :=
      (record_reached (.refl h) _).either
    obtain ⟨more, hmore, hledger⟩ := hreached
    exact ⟨more, hledger, .inl hmore⟩
  | ok request =>
    have hfetches : Fetches errands request
        ((serve env.recorded (.atServer decode env configuration) request env.record >>= fun answer =>
          ofEnvironment (env.record answer)).runFrom p).2 := by
      refine Leads.either (.bind ?_)
      unfold serve
      refine .bind (.outcome ((fetch_reached h request).mono (fun _ q hq => ?_) fun _ q hq => ?_))
      · exact .pure (record_fetches hq _)
      · exact .pure (record_fetches hq _)
    rcases hfetches with ⟨more, hmore, hledger⟩ | ⟨more, hmore, hledger⟩
    · exact ⟨more, hledger, .inl hmore⟩
    · exact ⟨more, hledger, .inr ⟨request, rfl, hmore⟩⟩

/-! ## Messages of no use here -/

/-- A message is answered with the failure `answer`. Nothing else happens: the session stays as it is, nothing is
exchanged, and the world is left as the answer leaves it, so that no file has changed. -/
structure Dismissed (env : Environment (StateM σ)) (answer : Message) (v : Visit (Recorded σ)) : Prop where
  session : v.after.1 = v.before.1
  exchanges : v.exchanges = []
  said : v.said = match v.result with
    | .ok _ => [answer]
    | .error _ => []
  world : v.after.2.world = (env.send answer v.before.2.world).2
  files : ∀ files : σ → FileTree, env.UsesFiles files → files v.after.2.world = files v.before.2.world

theorem dismissed_of_record {v : Visit (Recorded σ)} {answer : Message}
    (h : (v.result, v.after) = (ofEnvironment (env.record answer)).runFrom v.before) : Dismissed env answer v := by
  rw [runFrom_ofEnvironment, Prod.mk.injEq] at h
  obtain ⟨hresult, hafter⟩ := h
  have hexchanges := record_exchanges env answer v.before.2
  have hworld : v.after.2.world = (env.send answer v.before.2.world).2 := by
    rw [hafter]
    exact (Correspondence.forgetting_listeners env answer v.before.2).2
  refine ⟨by rw [hafter], ?_, ?_, hworld, fun files henv => ?_⟩
  · rw [Visit.exchanges, hafter]
    dsimp only
    rw [hexchanges, List.drop_length]
  · rw [Visit.said, hafter, hresult]
    dsimp only
    unfold Environment.record
    rcases env.send answer v.before.2.world with ⟨_ | _, w⟩ <;> simp
  · rw [hworld]
    exact (keeping_files_send henv answer).2 _

variable (env) in
theorem dismissed_of_malformed (sources : Sources (StateM (Recorded σ))) {message : Message} {failure : Failure}
    (h : Request.ofMessage message = .error failure) (p : Session × Recorded σ) :
    Dismissed env (.uriFailure (message.field? "URI") failure) (visit env.recorded sources env.record message p) := by
  refine dismissed_of_record ?_
  have hacquire : acquire env.recorded sources message env.record =
      ofEnvironment (env.record (.uriFailure (message.field? "URI") failure)) := by
    unfold acquire
    rw [h]
  show (acquire env.recorded sources message env.record).runFrom p = _
  rw [hacquire]
  rfl

variable (env) in
theorem dismissed_of_elsewhere (sources : Sources (StateM (Recorded σ))) {message : Message} {request : Request}
    (h : Request.ofMessage message = .ok request) (hserver : p.1.server? = some server)
    (helsewhere : request.uri.hostText? ≠ server.base.hostText? ∨ request.uri.port? ≠ server.base.port?) :
    Dismissed env (.uriFailure (some request.uri.text) (.hostMismatch (request.uri.hostText?.getD "") server.netloc))
      (visit env.recorded sources env.record message p) := by
  have hserves : server.serves request.uri = false := by
    unfold Server.serves
    rcases helsewhere with hhost | hport
    · rw [decide_eq_false hhost, Bool.false_and]
    · rw [decide_eq_false hport, Bool.and_false]
  have hfetch : (fetch env.recorded sources env.record request).runFrom p =
      (.error (.hostMismatch (request.uri.hostText?.getD "") server.netloc), p) := by
    have hcheck := runFrom_checkHost sources request hserver
    rw [hserves, if_neg Bool.false_ne_true] at hcheck
    unfold fetch announce
    dsimp only
    rw [runFrom_bind, runFrom_bind, hcheck]
  have hserve : (serve env.recorded sources request env.record).runFrom p =
      (.ok (.uriFailure (some request.uri.text) (.hostMismatch (request.uri.hostText?.getD "") server.netloc)), p) := by
    unfold serve
    rw [runFrom_bind, runFrom_outcome, hfetch]
    rfl
  refine dismissed_of_record ?_
  show (acquire env.recorded sources message env.record).runFrom p = _
  unfold acquire
  rw [h]
  dsimp only
  rw [runFrom_bind, hserve]
  rfl

/-! ## Runs -/

/-- What a visit asks of the server: for the document of its message at most, and for nothing if the message is
malformed or meant for another server. -/
structure Contact (env : Environment (StateM σ)) (server : Server) (v : Visit (Recorded σ))
    (errands : List (Errand decode server)) : Prop where
  known : v.before.1.server? = some server
  exchanges : v.exchanges = Errand.exchangesOf errands
  contents : Errand.contents errands = [] ∨
    ∃ request, Request.ofMessage v.message = .ok request ∧ Errand.contents errands = [request]
  malformed : ∀ failure, Request.ofMessage v.message = .error failure →
    Dismissed env (.uriFailure (v.message.field? "URI") failure) v
  elsewhere : ∀ request, Request.ofMessage v.message = .ok request →
    request.uri.hostText? ≠ server.base.hostText? ∨ request.uri.port? ≠ server.base.port? →
    Dismissed env (.uriFailure (some request.uri.text)
      (.hostMismatch (request.uri.hostText?.getD "") server.netloc)) v

variable (env configuration) in
theorem visit_contact (h : Ledger server errands p) (message : Message) :
    ∃ more,
      Ledger server (errands ++ more)
        (visit env.recorded (.atServer decode env configuration) env.record message p).after ∧
      Contact env server (visit env.recorded (.atServer decode env configuration) env.record message p) more := by
  obtain ⟨more, hledger, hcontents⟩ := visit_ledger env configuration h message
  have hafter := hledger.exchanges
  have hmalformed (failure : Failure) (hfailure : Request.ofMessage message = .error failure) :=
    dismissed_of_malformed env (.atServer decode env configuration) hfailure p
  have helsewhere (request : Request) (hrequest : Request.ofMessage message = .ok request)
      (hother : request.uri.hostText? ≠ server.base.hostText? ∨ request.uri.port? ≠ server.base.port?) :=
    dismissed_of_elsewhere env (.atServer decode env configuration) hrequest h.server hother
  have hmessage : (visit env.recorded (.atServer decode env configuration) env.record message p).message = message := rfl
  have hbefore : (visit env.recorded (.atServer decode env configuration) env.record message p).before = p := rfl
  generalize visit env.recorded (.atServer decode env configuration) env.record message p = v at *
  subst hmessage
  refine ⟨more, hledger, ?_, ?_, hcontents, hmalformed, helsewhere⟩
  · rw [hbefore]
    exact h.server
  · rw [Visit.exchanges, hafter, hbefore, h.exchanges]
    simp only [Errand.exchangesOf, List.flatMap_append]
    exact List.drop_left

variable (env configuration) in
theorem visits_contact (items : List (Except Failure Message)) (h : Ledger server errands p) :
    ∃ parts,
      List.Forall₂ (Contact env server)
        (visits env.recorded (.atServer decode env configuration) env.record items p) parts ∧
      Ledger server (errands ++ parts.flatten)
        (standing p (visits env.recorded (.atServer decode env configuration) env.record items p)) := by
  revert errands
  refine visits_induction (motive := fun p vs => ∀ {errands : List (Errand decode server)}, Ledger server errands p →
      ∃ parts, List.Forall₂ (Contact env server) vs parts ∧ Ledger server (errands ++ parts.flatten) (standing p vs))
    (fun p errands h => ?_) (fun message p vs ih errands h => ?_) items p
  · exact ⟨[], .nil, by rwa [List.flatten_nil, List.append_nil]⟩
  · obtain ⟨part, hledger, hcontact⟩ := visit_contact env configuration h message
    obtain ⟨parts, hparts, hrest⟩ := ih hledger
    refine ⟨part :: parts, .cons hcontact hparts, ?_⟩
    rw [List.flatten_cons, ← List.append_assoc]
    exact hrest

/-- The configuration of a run: what was known beforehand, or else what is read in its world. -/
def configured (configuration : StateM σ (Except Failure Server)) (w : σ) : Option Server → Except Failure Server
  | some server => .ok server
  | none => (configuration w).1

theorem ensureServer_begin (known : Option Server) (r : Recorded σ) :
    (ensureServer (.atServer decode env configuration)).Leads (Session.begin known, r)
      (fun server q => configured configuration r.world known = .ok server ∧ q.1 = Session.begin (some server) ∧
        q.2.exchanges = r.exchanges)
      (fun _ q => q.2.exchanges = r.exchanges) := by
  unfold ensureServer
  refine .bind (.get ?_)
  cases known with
  | some server => exact .pure ⟨rfl, rfl, rfl⟩
  | none =>
    refine .bind (.ofEnvironment (fun server r' hr => ?_) fun e r' hr => ?_)
    · obtain ⟨hread, rfl⟩ := Prod.mk.inj hr
      exact .bind (.modify (.pure ⟨hread, rfl, rfl⟩))
    · obtain ⟨-, rfl⟩ := Prod.mk.inj hr
      rfl

variable (env configuration) in
/-- `start` asks the server for nothing. -/
theorem start_ledger (known : Option Server) (w : σ) :
    (start env.recorded (.atServer decode env configuration) env.record).Leads (Session.begin known, .new w)
      (fun _ q => ∃ server, configured configuration w known = .ok server ∧
        Ledger server ([] : List (Errand decode server)) q)
      (fun _ q => q.2.exchanges = []) := by
  unfold start ensureConnection
  refine .bind (.discard (.bind (.get ?_)))
  have hnone : (Session.begin known).connection? = none := by
    cases known <;> rfl
  dsimp only
  rw [hnone]
  refine .bind ((ensureServer_begin known _).mono (fun server q ⟨hserver, hsession, hexchanges⟩ => ?_) fun _ _ h => h)
  refine .bind (.ofEnvironment (fun connection r hr => ?_) fun e r hr => ?_)
  · have hconnect := connect_atServer hr
    have hledger : Ledger server ([] : List (Errand decode server)) ({ q.1 with connection? := some connection }, r) := by
      rw [hsession]
      exact .begin server (hconnect.trans hexchanges)
    refine .bind (.modify (.pure ?_))
    refine record_leads _ (fun r' hr' => ?_) fun _ r' hr' => hr'.trans hledger.exchanges
    exact ⟨server, hserver, hledger.keep hr' (.refl _) hledger.sound rfl rfl⟩
  · exact (connect_atServer hr).trans hexchanges

/-- A run at its server does the same whether or not it is recorded. -/
theorem run_recording (decode : Http.Decoder) (env : Environment (StateM σ))
    (configuration : StateM σ (Except Failure Server))
    (items : List (Except Failure Message)) (known : Option Server) (w : σ) :
    let recorded :=
      (run env.recorded (.atServer decode env configuration) items env.record).runFrom (Session.begin known, .new w)
    let plain := (run env (.ofEnvironment env (.xmlRpc decode env) configuration) items).runFrom (Session.begin known, w)
    recorded.1 = plain.1 ∧ recorded.2.1 = plain.2.1 ∧ recorded.2.2.world = plain.2.2 :=
  Correspondence.forgetting_runFrom (Correspondence.run_rel (Correspondence.forgetting_environments env)
    (Correspondence.ofEnvironment_rel decode (Correspondence.forgetting_environments env).toQueries
      (Correspondence.forgetting_quietly configuration))
    (Correspondence.forgetting_listeners env) items) (Session.begin known) (.new w)

/-- A run does not start and asks the server for nothing, or its visits keep the ledger of its session. -/
theorem run_ledger (decode : Http.Decoder) (env : Environment (StateM σ))
    (configuration : StateM σ (Except Failure Server))
    (items : List (Except Failure Message)) (known : Option Server) (w : σ) :
    let sources := Sources.atServer decode env configuration
    let recorded := (run env.recorded sources items env.record).runFrom (Session.begin known, .new w)
    let vs := runVisits env.recorded sources env.record items (Session.begin known, .new w)
    vs = [] ∧ recorded.2.2.exchanges = [] ∨
      ∃ (server : Server) (parts : List (List (Errand decode server))) (q : Session × Recorded σ),
        configured configuration w known = .ok server ∧ List.Forall₂ (Contact env server) vs parts ∧
        recorded.2.2.exchanges = Errand.exchangesOf parts.flatten ∧ Ledger server parts.flatten q := by
  intro sources recorded vs
  obtain ⟨hstarted, hfailed⟩ := start_ledger env configuration known w
  unfold recorded vs
  rcases hstart : (start env.recorded sources env.record).runFrom (Session.begin known, Recorded.new w) with ⟨e | _, q⟩
  · rw [runFrom_run_of_error hstart, runVisits_of_error hstart]
    exact .inl ⟨rfl, hfailed e q hstart⟩
  · obtain ⟨server, hserver, hledger⟩ := hstarted () q hstart
    obtain ⟨parts, hparts, hend⟩ := visits_contact env configuration items hledger
    rw [List.nil_append] at hend
    rw [runVisits_of_ok hstart]
    refine .inr ⟨server, parts, _, hserver, hparts, ?_, hend⟩
    rw [(runFrom_run hstart items).2, world_serveAll]
    exact hend.exchanges

end SpacewalkAcquire.Method
