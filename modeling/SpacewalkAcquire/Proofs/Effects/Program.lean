import SpacewalkAcquire.Method
import SpacewalkAcquire.Proofs.Effects.Correspondence

/-!
# The program in corresponding surroundings

* `Correspondence.Reads`, `Queries`, `Changes`, `Sources`, `Listeners` : what two programs do to files and servers
  corresponds, step by step;
* `announce_rel`, `receive_rel`, `run_rel` : then what they do as a whole corresponds.
-/

namespace SpacewalkAcquire

namespace Correspondence

variable {m n : Type → Type} [Monad m] [Monad n] (R : Correspondence m n)

/-- Every operation that only reads files corresponds. -/
structure Reads (env : Environment m) (env' : Environment n) : Prop where
  readFile (path : String) : R.Rel (env.readFile path) (env'.readFile path)
  certificateFault (content : Bytes) : R.Rel (env.certificateFault content) (env'.certificateFault content)

structure Queries (env : Environment m) (env' : Environment n) : Prop extends R.Reads env env' where
  exchange (connection : Connection) (request : Http.Request) :
    R.Rel (env.exchange connection request) (env'.exchange connection request)

/-- Every operation that puts content into the file `path` corresponds. -/
structure WritesAt (env : Environment m) (env' : Environment n) (path : String) : Prop where
  createFile : R.Rel (env.createFile path) (env'.createFile path)
  appendFile (chunk : Bytes) : R.Rel (env.appendFile path chunk) (env'.appendFile path chunk)
  flushFile : R.Rel (env.flushFile path) (env'.flushFile path)

structure ChangesAt (env : Environment m) (env' : Environment n) (path : String) : Prop extends
  R.WritesAt env env' path where
  removeFile : R.Rel (env.removeFile path) (env'.removeFile path)

structure Changes (env : Environment m) (env' : Environment n) : Prop where
  createFile (path : String) : R.Rel (env.createFile path) (env'.createFile path)
  appendFile (path : String) (chunk : Bytes) : R.Rel (env.appendFile path chunk) (env'.appendFile path chunk)
  flushFile (path : String) : R.Rel (env.flushFile path) (env'.flushFile path)
  removeFile (path : String) : R.Rel (env.removeFile path) (env'.removeFile path)

structure Environments (env : Environment m) (env' : Environment n) : Prop extends
  R.Queries env env', R.Changes env env'

/-- Everything a session gets from its sources corresponds. -/
structure Sources (sources : SpacewalkAcquire.Sources m) (sources' : SpacewalkAcquire.Sources n) : Prop where
  configuration : R.Rel sources.configuration sources'.configuration
  login (server : Server) : R.Rel (sources.accounts.login server) (sources'.accounts.login server)
  channels (server : Server) : R.Rel (sources.accounts.channels server) (sources'.accounts.channels server)
  connect (server : Server) : R.Rel (sources.connect server) (sources'.connect server)

/-- `say` and `say'` listen to the same messages in corresponding ways. -/
def Listeners (say : Message → m (Except Failure Unit)) (say' : Message → n (Except Failure Unit)) : Prop :=
  ∀ message, R.Rel (say message) (say' message)

variable {R} {env : Environment m} {env' : Environment n} {sources : SpacewalkAcquire.Sources m}
  {sources' : SpacewalkAcquire.Sources n} {say : Message → m (Except Failure Unit)}
  {say' : Message → n (Except Failure Unit)}

theorem Changes.at (h : R.Changes env env') (path : String) : R.ChangesAt env env' path :=
  ⟨⟨h.createFile path, h.appendFile path, h.flushFile path⟩, h.removeFile path⟩

/-! ## Exchanges -/

theorem follow_rel {exchange : Http.Request → m Http.Answer} {exchange' : Http.Request → n Http.Answer}
    (h : ∀ request, R.Rel (exchange request) (exchange' request)) (hops : Nat) (request : Http.Request) :
    R.Rel (Http.follow exchange hops request) (Http.follow exchange' hops request) := by
  induction hops using Nat.strongRecOn generalizing request with
  | ind hops ih =>
    rw [Http.follow, Http.follow]
    refine R.bind (h request) fun answer => ?_
    cases answer with
    | unreachable why => exact R.pure _
    | broken why => exact R.pure _
    | reply reply =>
      dsimp only
      cases Http.redirection? request reply with
      | none => exact R.pure _
      | some next =>
        cases hops with
        | zero => exact R.pure _
        | succ hops => exact ih hops (Nat.lt_succ_self hops) next

/-! ## Connections and accounts -/

/-- `env.send` corresponds if `env.write` and `env.flush` do. -/
theorem send_rel (hwrite : ∀ bytes, R.Rel (env.write bytes) (env'.write bytes)) (hflush : R.Rel env.flush env'.flush) :
    R.Listeners env.send env'.send := by
  intro message
  unfold Environment.send
  refine R.bind (hwrite _) fun written => ?_
  cases written with
  | error why => exact R.pure _
  | ok _ =>
    refine R.bind hflush fun flushed => ?_
    cases flushed <;> exact R.pure _

theorem readText_rel (h : R.Reads env env') (path : String) : R.Rel (env.readText path) (env'.readText path) := by
  unfold Environment.readText
  refine R.bind (h.readFile path) fun result => ?_
  cases result <;> exact R.pure _

theorem readCertificates_rel (h : R.Reads env env') (paths : List String) :
    R.Rel (readCertificates env paths) (readCertificates env' paths) := by
  induction paths with
  | nil => exact R.pure _
  | cons path rest ih =>
    unfold readCertificates
    refine R.bind (h.readFile path) fun result => ?_
    cases result with
    | error e => exact R.pure _
    | ok content =>
      refine R.bind (h.certificateFault content) fun fault => ?_
      cases fault with
      | some fault => exact R.pure _
      | none => exact R.bind ih fun _ => R.pure _

theorem prepare_rel (h : R.Reads env env') (server : Server) (encrypted : Bool) :
    R.Rel (Connection.prepare env server encrypted) (Connection.prepare env' server encrypted) := by
  unfold Connection.prepare
  split
  · exact R.pure _
  · split
    · exact R.pure _
    · exact R.bind (readCertificates_rel h _) fun _ => R.pure _

section Accounts

variable [LawfulMonad m] [LawfulMonad n] {decode : Http.Decoder}

theorem systemId_rel (h : R.Reads env env') (server : Server) :
    (R.exceptT Failure).Rel (ServerAccount.systemId env server) (ServerAccount.systemId env' server) := by
  unfold ServerAccount.systemId
  refine (R.exceptT Failure).bind (R.exceptT_monadLift (readText_rel h _)) fun result => ?_
  cases result with
  | ok identity => exact (R.exceptT Failure).pure _
  | error e =>
    cases e with
    | notFound => exact (R.exceptT Failure).pure _
    | _ => exact R.exceptT_throw _

theorem call_rel (h : R.Queries env env') (server : Server) (method : String) (parameters : List String) :
    (R.exceptT Failure).Rel (ServerAccount.call decode env server method parameters)
      (ServerAccount.call decode env' server method parameters) := by
  unfold ServerAccount.call
  refine (R.exceptT Failure).bind (prepare_rel h.toReads server _) fun connection => ?_
  refine (R.exceptT Failure).bind (R.exceptT_monadLift (follow_rel (h.exchange connection) _ _)) fun result => ?_
  cases result with
  | error why => exact R.exceptT_throw _
  | ok reply =>
    have hcontent := (R.exceptT Failure).pure (decode (reply.textHeader? "content-type") reply.body.chunks.flatten)
    have hbody : (R.exceptT Failure).Rel _ _ := (R.exceptT Failure).bind (R.exceptT_throw
      (.network s!"Failed to read {method} response: {Http.bodyFault}" (some Http.bodyFault))) fun (_ : PUnit) => hcontent
    dsimp only
    split
    · refine (R.exceptT Failure).bind (R.exceptT_throw _) fun _ => ?_
      split
      · exact hbody
      · exact hcontent
    · split
      · exact hbody
      · exact hcontent

theorem login_rel (h : R.Queries env env') (server : Server) :
    (R.exceptT Failure).Rel (ServerAccount.login decode env server) (ServerAccount.login decode env' server) := by
  unfold ServerAccount.login
  refine (R.exceptT Failure).bind (systemId_rel h.toReads server) fun identity => ?_
  cases identity with
  | none => exact (R.exceptT Failure).pure _
  | some identity =>
    refine (R.exceptT Failure).bind (call_rel h server _ _) fun document => ?_
    split
    · exact R.exceptT_throw _
    · exact (R.exceptT Failure).pure _

theorem channels_rel (h : R.Queries env env') (server : Server) :
    (R.exceptT Failure).Rel (ServerAccount.channels decode env server) (ServerAccount.channels decode env' server) := by
  unfold ServerAccount.channels
  refine (R.exceptT Failure).bind (systemId_rel h.toReads server) fun identity => ?_
  cases identity with
  | none => exact R.exceptT_throw _
  | some identity =>
    refine (R.exceptT Failure).bind (call_rel h server _ _) fun document => ?_
    split
    · exact R.exceptT_throw _
    · exact R.pure _

/-- The sources of a program correspond if `env` and `env'` do in what they ask. -/
theorem ofEnvironment_rel (decode : Http.Decoder) (h : R.Queries env env') {configuration : m (Except Failure Server)}
    {configuration' : n (Except Failure Server)} (hc : R.Rel configuration configuration') :
    R.Sources (.ofEnvironment env (Accounts.xmlRpc decode env) configuration)
      (.ofEnvironment env' (Accounts.xmlRpc decode env') configuration') where
  configuration := hc
  login server := login_rel h server
  channels server := channels_rel h server
  connect server := prepare_rel h.toReads server _

end Accounts

/-! ## Sessions -/

theorem currentServer_rel :
    R.session.Rel (Session.currentServer : SessionT m Server) (Session.currentServer : SessionT n Server) := by
  unfold Session.currentServer
  refine R.session.bind R.session_get fun s => ?_
  cases s.server? with
  | some server => exact R.session.pure _
  | none => exact R.session_throw _

theorem ensureServer_rel (h : R.Sources sources sources') :
    R.session.Rel (Session.ensureServer sources) (Session.ensureServer sources') := by
  unfold Session.ensureServer
  refine R.session.bind R.session_get fun s => ?_
  cases s.server? with
  | some server => exact R.session.pure _
  | none =>
    refine R.session.bind (R.session_ofEnvironment h.configuration) fun server => ?_
    exact R.session.bind (R.session_modify _) fun _ => R.session.pure _

theorem ensureCredentials_rel (h : R.Sources sources sources') :
    R.session.Rel (Session.ensureCredentials sources) (Session.ensureCredentials sources') := by
  unfold Session.ensureCredentials
  refine R.session.bind R.session_get fun s => ?_
  cases s.credentials? with
  | some credentials => exact R.session.pure _
  | none =>
    refine R.session.bind (ensureServer_rel h) fun server => ?_
    refine R.session.bind (R.session_ofEnvironment (h.login server)) fun answer => ?_
    cases answer with
    | none => exact R.session_throw _
    | some credentials =>
      have hkeep := R.session.bind (R.session_modify fun s => { s with credentials? := some credentials })
        fun _ => R.session.pure credentials
      dsimp only
      split
      · exact R.session.bind (R.session_throw _) fun _ => hkeep
      · exact hkeep

theorem ensureHeaders_rel :
    R.session.Rel (Session.ensureHeaders : SessionT m (OrderedMap String String))
      (Session.ensureHeaders : SessionT n (OrderedMap String String)) := by
  unfold Session.ensureHeaders
  refine R.session.bind R.session_get fun s => ?_
  cases s.headers? with
  | some headers => exact R.session.pure _
  | none =>
    refine R.session.bind R.session_get fun s => ?_
    cases s.credentials? with
    | none => exact R.session_throw _
    | some credentials =>
      refine R.session.bind (R.session_liftExcept _) fun headers => ?_
      exact R.session.bind (R.session_modify _) fun _ => R.session.pure _

theorem ensureConnection_rel (h : R.Sources sources sources') :
    R.session.Rel (Session.ensureConnection sources) (Session.ensureConnection sources') := by
  unfold Session.ensureConnection
  refine R.session.bind R.session_get fun s => ?_
  cases s.connection? with
  | some connection => exact R.session.pure _
  | none =>
    refine R.session.bind (ensureServer_rel h) fun server => ?_
    refine R.session.bind (R.session_ofEnvironment (h.connect server)) fun connection => ?_
    exact R.session.bind (R.session_modify _) fun _ => R.session.pure _

variable [LawfulMonad m] [LawfulMonad n]

theorem ensureChannels_rel (h : R.Sources sources sources') :
    R.session.Rel (Session.ensureChannels sources) (Session.ensureChannels sources') := by
  unfold Session.ensureChannels
  refine R.session.bind R.session_get fun s => ?_
  cases s.channels? with
  | some channels => exact R.session.pure _
  | none =>
    refine R.session.bind (ensureServer_rel h) fun server => ?_
    refine R.session.bind (R.session_ofEnvironment (h.channels server)) fun channels => ?_
    refine R.session.bind (R.session.discard (R.session_liftExcept _)) fun _ => ?_
    exact R.session.bind (R.session_modify _) fun _ => R.session.pure _

theorem baseChannel_rel (h : R.Sources sources sources') :
    R.session.Rel (Session.baseChannel sources) (Session.baseChannel sources') :=
  R.session.bind (ensureChannels_rel h) fun _ => R.session_liftExcept _

/-! ## Files -/

theorem appendChunks_rel {file : String} (h : R.WritesAt env env' file) (chunks : List Bytes)
    (running : ContentDigest.Running) :
    (R.exceptT Failure).Rel (Transfer.appendChunks env file running chunks)
      (Transfer.appendChunks env' file running chunks) := by
  induction chunks generalizing running with
  | nil => exact (R.exceptT Failure).pure _
  | cons chunk rest ih =>
    unfold Transfer.appendChunks
    refine (R.exceptT Failure).bind (R.exceptT_monadLift (h.appendFile chunk)) fun result => ?_
    cases result with
    | error e => exact R.exceptT_throw _
    | ok _ => exact ih _

theorem write_rel {file : String} (h : R.WritesAt env env' file) (body : Http.Body) :
    (R.exceptT Failure).Rel (Transfer.write env file body) (Transfer.write env' file body) := by
  unfold Transfer.write
  refine (R.exceptT Failure).bind (R.exceptT_monadLift (h.createFile)) fun result => ?_
  cases result with
  | error e => exact R.exceptT_throw _
  | ok _ =>
    refine (R.exceptT Failure).bind (appendChunks_rel h body.chunks _) fun running => ?_
    split
    · exact R.exceptT_throw _
    · refine (R.exceptT Failure).bind (R.exceptT_monadLift (h.flushFile)) fun result => ?_
      cases result with
      | error e => exact R.exceptT_throw _
      | ok _ => exact (R.exceptT Failure).pure _

theorem store_rel {file : String} (h : R.ChangesAt env env' file) (body : Http.Body) :
    R.Rel (Transfer.store env file body) (Transfer.store env' file body) := by
  unfold Transfer.store
  refine R.bind (write_rel h.toWritesAt body) fun result => ?_
  cases result with
  | ok digest => exact R.pure _
  | error failure => exact R.bind (R.discard (h.removeFile)) fun _ => R.pure _

/-! ## Transfers -/

omit [LawfulMonad m] [LawfulMonad n] in
theorem checkHost_rel (h : R.Sources sources sources') (request : Request) :
    R.session.Rel (Transfer.checkHost sources request) (Transfer.checkHost sources' request) := by
  unfold Transfer.checkHost
  refine R.session.bind (ensureServer_rel h) fun server => ?_
  split
  · exact R.session_throw _
  · exact R.session.pure _

theorem logIn_rel (h : R.Sources sources sources') (hs : R.Listeners say say') (uri : String) :
    R.session.Rel (Transfer.logIn sources say uri) (Transfer.logIn sources' say' uri) := by
  unfold Transfer.logIn
  refine R.session.bind R.session_get fun s => ?_
  split
  · refine R.session.bind (R.session_ofEnvironment (hs _)) fun _ => ?_
    refine R.session.bind (R.session.discard (ensureCredentials_rel h)) fun _ => ?_
    exact R.session_ofEnvironment (hs _)
  · exact R.session.pure _

theorem locate_rel (h : R.Sources sources sources') (request : Request) :
    R.session.Rel (Transfer.locate sources request) (Transfer.locate sources' request) := by
  unfold Transfer.locate
  refine R.session.bind (baseChannel_rel h) fun label => ?_
  refine R.session.bind ensureHeaders_rel fun headers => ?_
  refine R.session.bind (R.session_liftExcept _) fun headers => ?_
  refine R.session.bind currentServer_rel fun server => ?_
  refine R.session.bind (R.session_liftExcept _) fun address => ?_
  exact R.session.bind (ensureConnection_rel h) fun connection => R.session.pure _

theorem ask_rel (h : R.Queries env env') (uri : String) (connection : Connection) (content : Http.Request) :
    R.session.Rel (Transfer.ask env uri connection content) (Transfer.ask env' uri connection content) := by
  unfold Transfer.ask
  have hsend := R.map (follow_rel (h.exchange connection) (Http.longestChain - 1) content)
    (Except.ok : Except String Http.Reply → Except Failure (Except String Http.Reply))
  refine R.session.bind (R.session_ofEnvironment hsend) fun result => ?_
  cases result with
  | error why => exact R.session_throw _
  | ok reply =>
    dsimp only
    split
    · exact R.session_throw _
    · exact R.session.pure _

theorem announce_rel (he : R.Queries env env') (h : R.Sources sources sources') (hs : R.Listeners say say')
    (request : Request) :
    R.session.Rel (Transfer.announce env sources say request) (Transfer.announce env' sources' say' request) := by
  unfold Transfer.announce
  refine R.session.bind (checkHost_rel h request) fun _ => ?_
  refine R.session.bind (logIn_rel h hs _) fun _ => ?_
  refine R.session.bind (locate_rel h request) fun found => ?_
  refine R.session.bind (R.session_ofEnvironment (hs _)) fun _ => ?_
  refine R.session.bind (ask_rel he _ _ _) fun reply => ?_
  exact R.session.bind (R.session_ofEnvironment (hs _)) fun _ => R.session.pure _

theorem receive_rel {request : Request} (h : R.ChangesAt env env' request.filename) (reply : Http.Reply) :
    R.session.Rel (Transfer.receive env request reply) (Transfer.receive env' request reply) :=
  R.session.bind (R.session_ofEnvironment (store_rel h _)) fun _ => R.session.pure _

theorem fetch_rel (he : R.Environments env env') (h : R.Sources sources sources') (hs : R.Listeners say say')
    (request : Request) :
    R.session.Rel (Transfer.fetch env sources say request) (Transfer.fetch env' sources' say' request) :=
  R.session.bind (announce_rel he.toQueries h hs request) fun reply => receive_rel (he.toChanges.at _) reply

/-! ## Runs -/

theorem acquire_rel (he : R.Environments env env') (h : R.Sources sources sources') (hs : R.Listeners say say')
    (message : Message) :
    R.session.Rel (Method.acquire env sources message say) (Method.acquire env' sources' message say') := by
  unfold Method.acquire
  cases Request.ofMessage message with
  | error failure => exact R.session_ofEnvironment (hs _)
  | ok request =>
    refine R.session.bind ?_ fun answer => R.session_ofEnvironment (hs _)
    refine R.session.bind (R.session_outcome (fetch_rel he h hs request)) fun result => ?_
    cases result <;> exact R.session.pure _

theorem start_rel (env : Environment m) (env' : Environment n) (h : R.Sources sources sources')
    (hs : R.Listeners say say') : R.session.Rel (Method.start env sources say) (Method.start env' sources' say') :=
  R.session.bind (R.session.discard (ensureConnection_rel h)) fun _ => R.session_ofEnvironment (hs _)

theorem step_rel (he : R.Environments env env') (h : R.Sources sources sources') (hs : R.Listeners say say')
    (item : Except Failure Message) :
    R.session.Rel (Method.step env sources item say) (Method.step env' sources' item say') := by
  unfold Method.step
  split
  · unfold Method.handle
    split
    · exact R.session.bind (acquire_rel he h hs _) fun _ => R.session.pure _
    · exact R.session.pure _
  · exact R.session.pure _
  · exact R.session.bind (R.session_modify _) fun _ => R.session_throw _

theorem serveAll_rel (he : R.Environments env env') (h : R.Sources sources sources') (hs : R.Listeners say say')
    (items : List (Except Failure Message)) :
    R.session.Rel (Method.serveAll env sources items say) (Method.serveAll env' sources' items say') := by
  induction items with
  | nil => exact R.session.pure _
  | cons item rest ih =>
    refine R.session.bind (step_rel he h hs item) fun flow => ?_
    cases flow with
    | proceed => exact ih
    | stop code => exact R.session.pure _

theorem run_rel (he : R.Environments env env') (h : R.Sources sources sources') (hs : R.Listeners say say')
    (items : List (Except Failure Message)) :
    R.session.Rel (Method.run env sources items say) (Method.run env' sources' items say') := by
  refine R.session.bind (start_rel env env' h hs) fun _ => ?_
  refine R.session.bind (serveAll_rel he h hs items) fun code => ?_
  exact R.session.bind (R.session_modify _) fun _ => R.session.pure _

end Correspondence

end SpacewalkAcquire
