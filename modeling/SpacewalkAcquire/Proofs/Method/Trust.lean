import SpacewalkAcquire.Http.Charset
import SpacewalkAcquire.Proofs.Method.Named
import SpacewalkAcquire.Proofs.Server.Accepted
import SpacewalkAcquire.Proofs.Transfer.Trust

/-!
# Trust over a run

* `Message.BlamesTls` : a 400 that says that something is wrong with certificates;
* `World.Open` : the pipe to the front end takes everything;
* `visit_guarded`, `visit_refused` : what a visit says about certificates, and when it does;
* `run_trust` : when a run that has started says so;
* `run_trust_late` : that it can.
-/

namespace SpacewalkAcquire

open SessionT

/-! ## Messages -/

namespace Message

/-- A 400 whose wording is that of a failure that `isTls`. -/
def BlamesTls (m : Message) : Prop :=
  m.code = Kind.uriFailure.code ∧ ∃ wording, m.field? "Message" = some ("BadTlsConfig: " ++ wording)

theorem wording_uriFailure (uri : Option String) (failure : Failure) :
    (uriFailure uri failure).field? "Message" = some failure.report := by
  simp [uriFailure, field?_set, field?_setIfSome]

theorem isTls_of_report {failure : Failure} {wording : String} (h : failure.report = "BadTlsConfig: " ++ wording) :
    failure.isTls = true := by
  have hhead : failure.report.toList.head? = some 'B' := by
    rw [h, String.toList_append]
    rfl
  cases failure with
  | tls reason => rfl
  | httpStatus status reason drain =>
    have hne : (toString status.toNat).toList ≠ [] := by
      rw [Nat.toString_eq_repr, Nat.toList_repr]
      exact Nat.toDigits_ne_nil
    change (toString status.toNat ++ toString "  " ++ toString reason).toList.head? = _ at hhead
    rw [String.toList_append, String.toList_append, List.append_assoc, List.head?_append_of_ne_nil _ hne] at hhead
    exact absurd (Text.mem_toString_nat (List.mem_of_mem_head? hhead)) (by decide)
  | _ =>
    simp only [Failure.report, Failure.category, String.toList_append, List.head?_append, Option.or_eq_some_iff] at hhead
    rcases hhead with (hhead | ⟨hhead, -⟩) | ⟨hhead, -⟩ <;> exact absurd hhead (by decide)

theorem blamesTls_uriFailure_iff (uri : Option String) (failure : Failure) :
    (uriFailure uri failure).BlamesTls ↔ failure.isTls = true := by
  refine ⟨fun ⟨_, wording, h⟩ => ?_, fun h => ⟨code_uriFailure _ _, ?_⟩⟩
  · rw [wording_uriFailure, Option.some.injEq] at h
    exact isTls_of_report h
  · cases failure with
    | tls reason => exact ⟨(Failure.tls reason).message, wording_uriFailure _ _⟩
    | _ => cases h

end Message

/-! ## The pipe -/

/-- Whether the pipe to the front end has a limit, and which flushes fail. -/
def World.hindrance (w : World) : Bool × List Nat := (w.outbox.room.isSome, w.outbox.failing)

def World.Open (w : World) : Prop := w.hindrance = (false, [])

theorem World.send_open {w : World} (h : w.Open) (message : Message) : (environment.send message w).1 = .ok () := by
  obtain ⟨files, fault, server, requests, written, room, flushes, failing⟩ := w
  obtain ⟨hroom, hfailing⟩ := Prod.mk.inj h
  dsimp only at hroom hfailing
  rw [Option.isSome_eq_false_iff, Option.isNone_iff_eq_none] at hroom
  subst hroom hfailing
  rfl

namespace Correspondence

open World

theorem hindrance_afterFiles (w : World) (result : Except FileError FileTree) :
    (w.afterFiles result).2.hindrance = w.hindrance := by cases result <;> rfl

theorem hindrance_exchange (w : World) (request : Http.Request) : (w.exchange request).2.hindrance = w.hindrance := by
  unfold World.exchange
  cases w.server w.requests request <;> rfl

theorem hindrance_write (o : Outbox) (bytes : Bytes) :
    (o.write bytes).2.room.isSome = o.room.isSome ∧ (o.write bytes).2.failing = o.failing := by
  unfold Outbox.write
  cases o.room <;> exact ⟨rfl, rfl⟩

theorem keeping_hindrance_listeners : (keeping World.hindrance).Listeners environment.send environment.send :=
  send_rel (fun bytes => ⟨rfl, fun w => Prod.ext (hindrance_write w.outbox bytes).1 (hindrance_write w.outbox bytes).2⟩)
    ⟨rfl, fun _ => rfl⟩

theorem keeping_hindrance_environment : (keeping World.hindrance).Environments environment environment where
  readFile _ := ⟨rfl, fun _ => rfl⟩
  certificateFault _ := ⟨rfl, fun _ => rfl⟩
  exchange _ request := ⟨rfl, fun w => hindrance_exchange w request⟩
  createFile _ := ⟨rfl, fun w => hindrance_afterFiles w _⟩
  appendFile _ _ := ⟨rfl, fun w => hindrance_afterFiles w _⟩
  flushFile _ := ⟨rfl, fun _ => rfl⟩
  removeFile _ := ⟨rfl, fun w => hindrance_afterFiles w _⟩

theorem keeping_hindrance_sources (decode : Http.Decoder) {configuration : StateM World (Except Failure Server)}
    (h : ∀ w, (configuration w).2.hindrance = w.hindrance) :
    (keeping World.hindrance).Sources (.ofEnvironment environment (.xmlRpc decode environment) configuration)
      (.ofEnvironment environment (.xmlRpc decode environment) configuration) :=
  ofEnvironment_rel decode keeping_hindrance_environment.toQueries ⟨rfl, h⟩

end Correspondence

namespace Method

open Session Transfer

variable {decode : Http.Decoder} {w₀ : World} {server : Server} {configuration : StateM World (Except Failure Server)}
  {message : Message} {p : Session × Recorded World}

theorem CutOff.code {before after : Bool} {said : List Message} (h : CutOff message before after said) :
    ∀ m ∈ said, m.code ≠ Message.Kind.uriFailure.code := by
  have hstatus {m : Message} (hm : m.code = Message.Kind.status.code) : m.code ≠ Message.Kind.uriFailure.code := by
    rw [hm]
    decide
  cases h with
  | rejected => exact fun _ hm => absurd hm List.not_mem_nil
  | failed _ hnotes => exact fun _ hm => hstatus (code_of_mem_progress hnotes hm)
  | announced reply _ hnotes =>
    refine List.forall_mem_append.2 ⟨fun _ hm => hstatus (code_of_mem_logInNotes hnotes hm), ?_⟩
    refine List.forall_mem_cons.2 ⟨hstatus rfl, List.forall_mem_singleton.2 ?_⟩
    rw [code_announcement]
    decide

/-- What `ofMessage` fails with is no want of trust. -/
theorem ofMessage_trust {failure : Failure} (h : Request.ofMessage message = .error failure) :
    failure.isTls = false := by
  unfold Request.ofMessage at h
  split at h
  · cases h
    rfl
  · rcases bind_eq_error.1 h with h | ⟨raw, -, h⟩
    · unfold Request.required at h
      split at h <;> cases h
      rfl
    · split at h
      · rcases bind_eq_error.1 h with h | ⟨_, -, h⟩
        · cases h
        · rcases bind_eq_error.1 h with h | ⟨_, -, h⟩
          · unfold Request.required at h
            split at h <;> cases h
            rfl
          · cases h
      · cases h
        rfl

variable (configuration) in
theorem serve_guarded (h : Guarded w₀ server p) (request : Request) :
    (serve World.environment.recorded (World.sources decode configuration) request World.environment.record).Leads p
      (fun answer q => Guarded w₀ server q ∧ (answer.BlamesTls → ∃ e, w₀.callFault? server = some e ∧
        answer = .uriFailure (some request.uri.text) e))
      (fun _ _ => False) := by
  unfold serve
  refine .bind (.outcome ((fetch_guarded configuration h request).mono (fun result q hq => .pure ⟨hq, ?_⟩)
    fun e q ⟨hq, hblames⟩ => .pure ⟨hq, fun hm => ⟨e, ?_, rfl⟩⟩))
  · rintro ⟨hcode, -⟩
    rw [Message.code_uriDone] at hcode
    exact absurd hcode (by decide)
  · exact hblames ((Message.blamesTls_uriFailure_iff _ _).1 hm)

/-- What is said of certificates in answer to a message is that calls fail for want of trust in `w₀`. -/
def SaysOfCalls (w₀ : World) (server : Server) (said : List Message) : Prop :=
  ∀ m ∈ said, m.BlamesTls → ∃ e, w₀.callFault? server = some e ∧ m.field? "Message" = some e.report

theorem SaysOfCalls.of_code {said : List Message} (h : ∀ m ∈ said, m.code ≠ Message.Kind.uriFailure.code) :
    SaysOfCalls w₀ server said := fun m hm hblames => absurd hblames.1 (h m hm)

theorem SaysOfCalls.concat {said : List Message} (h : SaysOfCalls w₀ server said) {answer : Message}
    (hanswer : answer.BlamesTls → ∃ e, w₀.callFault? server = some e ∧ answer.field? "Message" = some e.report) :
    SaysOfCalls w₀ server (said ++ [answer]) :=
  List.forall_mem_append.2 ⟨h, List.forall_mem_singleton.2 hanswer⟩

theorem record_says (h : Guarded w₀ server p) {sent said : List Message} (hsent : p.2.sent = sent ++ said)
    (hsaid : SaysOfCalls w₀ server said) {answer : Message}
    (hanswer : answer.BlamesTls → ∃ e, w₀.callFault? server = some e ∧ answer.field? "Message" = some e.report) :
    let P (q : Session × Recorded World) := Guarded w₀ server q ∧ SaysOfCalls w₀ server (q.2.sent.drop sent.length)
    (ofEnvironment (World.environment.record answer)).Leads p (fun _ q => P q) (fun _ q => P q) := by
  intro P
  have hrecorded : (ofEnvironment (World.environment.record answer)).Leads p
      (fun _ q => q.2.sent = p.2.sent ++ [answer]) (fun _ q => q.2.sent = p.2.sent) :=
    Transfer.record_leads answer (fun _ hr => hr) fun _ _ hr => hr
  refine ((record_guarded h answer).and hrecorded).mono ?_ ?_
  · rintro - q ⟨⟨hq, -⟩, hr⟩
    refine ⟨hq, ?_⟩
    rw [hr, hsent, List.append_assoc, List.drop_left]
    exact hsaid.concat hanswer
  · rintro - q ⟨⟨hq, -⟩, hr⟩
    refine ⟨hq, ?_⟩
    rw [hr, hsent, List.drop_left]
    exact hsaid

variable (decode configuration) in
theorem visit_guarded (h : Guarded w₀ server p) (message : Message) :
    let v := visit World.environment.recorded (World.sources decode configuration) World.environment.record message p
    Guarded w₀ server v.after ∧ SaysOfCalls w₀ server v.said := by
  refine Leads.either (P := fun q => Guarded w₀ server q ∧ SaysOfCalls w₀ server (q.2.sent.drop p.2.sent.length)) ?_
  unfold acquire
  cases hrequest : Request.ofMessage message with
  | error failure =>
    refine record_says h (List.append_nil _).symm (fun _ hm => absurd hm List.not_mem_nil) fun hblames => ?_
    have htls := (Message.blamesTls_uriFailure_iff _ _).1 hblames
    rw [ofMessage_trust hrequest] at htls
    cases htls
  | ok request =>
    have hsources := Correspondence.keeping_sent_sources (Sources.ofEnvironment World.environment
      (.xmlRpc decode World.environment) configuration)
    refine .bind (((serve_guarded configuration h request).and (serve_leads hsources hrequest p)).mono ?_
      fun _ _ hfalse => hfalse.1.elim)
    rintro answer q ⟨⟨hq, hanswer⟩, said, hsent, -, hcut⟩
    refine record_says hq hsent (.of_code hcut.code) fun hblames => ?_
    obtain ⟨e, he, rfl⟩ := hanswer hblames
    exact ⟨e, he, Message.wording_uriFailure _ _⟩

/-! ## Open worlds -/

section Pipe

theorem record_open (hopen : p.2.world.Open) (message : Message) :
    (ofEnvironment (World.environment.record message)).Leads p
      (fun _ q => q.2.world.Open ∧ q.2.sent = p.2.sent ++ [message]) (fun _ _ => False) := by
  have hkeep : (World.environment.send message p.2.world).2.hindrance = p.2.world.hindrance :=
    (Correspondence.keeping_hindrance_listeners message).2 p.2.world
  have hsaid := Environment.record_of_ok (World.send_open hopen message)
  refine .ofEnvironment (fun _ r hr => ?_) fun e r hr => ?_
  · rw [hsaid] at hr
    cases hr
    exact ⟨hkeep.trans hopen, rfl⟩
  · rw [hsaid] at hr
    cases hr

variable (decode) (hconfiguration : ∀ w, (configuration w).2.hindrance = w.hindrance)

include hconfiguration

theorem fetch_open (hopen : p.2.world.Open) (request : Request) :
    (fetch World.environment.recorded (World.sources decode configuration) World.environment.record request).Leads p
      (fun _ q => q.2.world.Open) (fun _ q => q.2.world.Open) := by
  have hkeep := Correspondence.fetch_rel
    (Correspondence.keeping_recorded_environments Correspondence.keeping_hindrance_environment)
    (Correspondence.keeping_recorded_sources (Correspondence.keeping_hindrance_sources decode hconfiguration))
    (Correspondence.keeping_recorded_listeners Correspondence.keeping_hindrance_listeners) request
  exact Correspondence.keeping_leads hkeep (fun _ _ hq => hq.trans hopen) fun _ _ hq => hq.trans hopen

/-- In a world that is `Open` every message is answered. -/
theorem visit_open (hopen : p.2.world.Open) (message : Message) :
    let v := visit World.environment.recorded (World.sources decode configuration) World.environment.record message p
    v.result = .ok () ∧ v.after.2.world.Open := by
  have hsaid {q : Session × Recorded World} (hq : q.2.world.Open) (answer : Message) :
      (ofEnvironment (World.environment.record answer)).Leads q (fun _ r => r.2.world.Open) (fun _ _ => False) :=
    (record_open hq answer).mono (fun _ _ h => h.1) fun _ _ hfalse => hfalse
  have hacquire : (acquire World.environment.recorded (World.sources decode configuration) message
      World.environment.record).Leads p (fun _ q => q.2.world.Open) (fun _ _ => False) := by
    unfold acquire
    cases Request.ofMessage message with
    | error failure => exact hsaid hopen _
    | ok request =>
      unfold serve
      exact .bind (.bind (.outcome ((fetch_open decode hconfiguration hopen request).mono
        (fun _ _ hq => .pure (hsaid hq _))
        fun _ _ hq => .pure (hsaid hq _))))
  unfold visit
  rcases hrun : (acquire World.environment.recorded (World.sources decode configuration) message
    World.environment.record).runFrom p with ⟨_ | _, q⟩
  · exact (hacquire.2 _ _ hrun).elim
  · exact ⟨rfl, hacquire.1 _ _ hrun⟩

/-- Where there is a `callFault?`, the answer to a request for a document of the server says so. -/
theorem visit_refused (h : Guarded w₀ server p) (hopen : p.2.world.Open) {e : Failure}
    (he : w₀.callFault? server = some e) {request : Request} (hrequest : Request.ofMessage message = .ok request)
    (hserves : server.serves request.uri = true) :
    let v := visit World.environment.recorded (World.sources decode configuration) World.environment.record message p
    .uriFailure (some request.uri.text) e ∈ v.said := by
  have hserved : (serve World.environment.recorded (World.sources decode configuration) request
      World.environment.record).Leads p
      (fun answer q => answer = .uriFailure (some request.uri.text) e ∧ q.2.world.Open) (fun _ _ => False) := by
    unfold serve
    refine .bind (.outcome (((fetch_refused configuration h he hserves (World.send_open hopen _)).and
      (fetch_open decode hconfiguration hopen request)).mono (fun _ _ hq => hq.1.elim)
      fun e' q ⟨hsame, hq⟩ => .pure ⟨?_, hq⟩))
    rw [hsame]
  have hsources := Correspondence.keeping_sent_sources (Sources.ofEnvironment World.environment
    (.xmlRpc decode World.environment) configuration)
  refine Leads.either (P := fun q : Session × Recorded World =>
    .uriFailure (some request.uri.text) e ∈ q.2.sent.drop p.2.sent.length) ?_
  unfold acquire
  rw [hrequest]
  refine .bind ((hserved.and (serve_leads hsources hrequest p)).mono ?_ fun _ _ hfalse => hfalse.1.elim)
  rintro answer q ⟨⟨rfl, hq⟩, said, hsent, -⟩
  refine (record_open hq _).mono (fun _ r ⟨_, hr⟩ => ?_) fun _ _ hfalse => hfalse.elim
  rw [hr, hsent, List.append_assoc, List.drop_left]
  exact List.mem_append_right _ List.mem_cons_self

end Pipe

/-! ## Runs -/

section Run

variable (decode) (configuration) (server) (w : World)

/-- A run whose first connection cannot be `prepared` fails, and leaves session and world as they are. -/
theorem runFrom_run_of_prepared_eq_error {e : Failure} (h : w.prepared server server.useTls = .error e)
    (items : List (Except Failure Message)) :
    (run World.environment (.ofEnvironment World.environment (.xmlRpc decode World.environment) configuration)
      items).runFrom
      (.ofServer server, w) = (.error e, .ofServer server, w) := by
  refine runFrom_run_of_error ?_ items
  have hconnect : Connection.prepare World.environment server server.useTls w = (.error e, w) := by
    rw [World.prepare_eq, h]
  rw [runFrom_start, runFrom_ensureConnection_ofServer]
  dsimp only [Sources.ofEnvironment]
  rw [hconnect]

theorem ensureConnection_begun :
    (ensureConnection (World.sources decode configuration)).Leads (.ofServer server, .new w)
      (fun connection q => w.prepared server server.useTls = .ok connection ∧
        q = ({ ofServer server with connection? := some connection }, .new w))
      (fun e _ => w.prepared server server.useTls = .error e) := by
  have hconnect : (World.sources decode configuration).connect server (Recorded.new w) =
      (w.prepared server server.useTls, .new w) := by
    show Recorded.quietly (Connection.prepare World.environment server server.useTls) _ = _
    unfold Recorded.quietly
    rw [World.prepare_eq]
    rfl
  unfold Leads
  rw [runFrom_ensureConnection_ofServer, hconnect]
  cases w.prepared server server.useTls with
  | ok connection =>
    refine ⟨fun c q hq => ?_, fun e q hq => nomatch (Prod.mk.inj hq).1⟩
    cases hq
    exact ⟨rfl, rfl⟩
  | error e' =>
    refine ⟨fun c q hq => (nomatch (Prod.mk.inj hq).1), fun e q hq => ?_⟩
    cases hq
    rfl

theorem start_guarded :
    (start World.environment.recorded (World.sources decode configuration) World.environment.record).Leads
      (.ofServer server, .new w)
      (fun _ q => Guarded w server q ∧ ∃ connection, w.prepared server server.useTls = .ok connection)
      (fun _ _ => True) := by
  refine .bind (.discard ((ensureConnection_begun decode server configuration w).mono ?_ fun _ _ _ => trivial))
  rintro connection _ ⟨hconnection, rfl⟩
  refine (record_guarded ⟨rfl, rfl, rfl, fun _ => rfl, fun _ _ => rfl⟩ _).mono ?_ fun _ _ _ => trivial
  exact fun _ _ hq => ⟨hq.1, connection, hconnection⟩

/-- In a world that is `Open`, `start` succeeds if connections are not encrypted. -/
theorem start_open (hopen : w.Open) (hplain : server.useTls = false) :
    (start World.environment.recorded (World.sources decode configuration) World.environment.record).Leads
      (.ofServer server, .new w) (fun _ q => q.2.world.Open) (fun _ _ => False) := by
  refine .bind (.discard ((ensureConnection_begun decode server configuration w).mono ?_ fun e _ he => ?_))
  · rintro connection _ ⟨-, rfl⟩
    exact (record_open hopen _).mono (fun _ _ hq => hq.1) fun _ _ hfalse => hfalse
  · rw [hplain] at he
    cases he

theorem before_guarded (items : List (Except Failure Message)) :
    ∀ v ∈ runVisits World.environment.recorded (World.sources decode configuration) World.environment.record items
      (.ofServer server, .new w),
      Guarded w server v.before ∧ ∃ connection, w.prepared server server.useTls = .ok connection := by
  rcases hstart : (start World.environment.recorded (World.sources decode configuration) World.environment.record).runFrom
    (.ofServer server, .new w) with ⟨e | _, q⟩
  · rw [runVisits_of_error hstart]
    exact fun _ hv => absurd hv List.not_mem_nil
  · rw [runVisits_of_ok hstart]
    obtain ⟨hq, hconnection⟩ := (start_guarded decode server configuration w).1 _ _ hstart
    have hguarded := forall_before (P := Guarded w server)
      (fun message p hp => (visit_guarded decode configuration hp message).1) items hq
    exact fun v hv => ⟨hguarded v hv, hconnection⟩

theorem before_open (hconfiguration : ∀ w, (configuration w).2.hindrance = w.hindrance) (hopen : w.Open)
    (hplain : server.useTls = false) (items : List (Except Failure Message)) :
    let vs := runVisits World.environment.recorded (World.sources decode configuration) World.environment.record items
      (.ofServer server, .new w)
    vs.map Visit.message = requests items ∧ ∀ v ∈ vs, v.before.2.world.Open := by
  have hstart := start_open decode server configuration w hopen hplain
  rcases hrun : (start World.environment.recorded (World.sources decode configuration) World.environment.record).runFrom
    (.ofServer server, .new w) with ⟨e | _, q⟩
  · exact (hstart.2 _ _ hrun).elim
  · rw [runVisits_of_ok hrun]
    have hbefore := forall_before (P := fun q : Session × Recorded World => q.2.world.Open) (fun message p hp =>
      (visit_open decode hconfiguration hp message).2) items (hstart.1 _ _ hrun)
    refine ⟨(runFrom_serveAll fun v hv => ?_).1, hbefore⟩
    rw [eq_visit_of_mem hv]
    exact (visit_open decode hconfiguration (hbefore v hv) v.message).1

end Run

/-- Every run that cannot prepare its first connection fails at once: nothing is said, written or asked. A run that
can, whatever comes in and however files, server and front end behave, says in a 400 that something is wrong with
certificates only if the configuration asks for content without TLS from a server whose address asks for TLS; then it
says what is wrong with them for calls. And if the front end takes everything, it says so to every request for a
document of this server. -/
theorem run_trust (decode : Http.Decoder) (server : Server) (w : World) (ending : Message.Ending) (input : Bytes) :
    let env := World.environment
    let sources := Sources.ofEnvironment env (.xmlRpc decode env) (pure Sources.noConfiguration)
    let items := Message.readAll ending input
    let vs := runVisits env.recorded sources.recorded env.record items (.ofServer server, .new w)
    (∀ e, w.prepared server server.useTls = .error e →
      e.isTls = true ∧ (run env sources items).runFrom (.ofServer server, w) = (.error e, .ofServer server, w)) ∧
    (∀ m ∈ transcript env sources items (.ofServer server, w), m.BlamesTls →
      server.base.scheme = "https" ∧ server.useTls = false ∧
        (∀ settings, Server.ofSettings settings = .ok server → settings.flag "useNoSSLForPackages" = true) ∧
        ∃ e, w.callFault? server = some e ∧ m.field? "Message" = some e.report) ∧
    (w.Open → server.useTls = false → ∀ e, w.callFault? server = some e →
      vs.map Visit.message = requests items ∧
        ∀ v ∈ vs, ∀ request, Request.ofMessage v.message = .ok request → server.serves request.uri = true →
          .uriFailure (some request.uri.text) e ∈ v.said) := by
  intro env sources items vs
  have hguarded := before_guarded decode server (pure Sources.noConfiguration) w items
  refine ⟨fun e he => ⟨(World.prepared_eq_error he).2, runFrom_run_of_prepared_eq_error _ _ _ _ he items⟩,
    fun m hm hblames => ?_, fun hopen hplain e he => ?_⟩
  · obtain ⟨greeting, hgreeting, hsaid⟩ := exists_transcript_eq env sources items (.ofServer server) w
    rw [hsaid, List.mem_append, List.mem_flatMap] at hm
    rcases hm with hm | ⟨v, hv, hm⟩
    · rcases hgreeting with rfl | rfl
      · cases hm
      · rw [List.mem_singleton.1 hm] at hblames
        exact absurd hblames.1 (by decide)
    · obtain ⟨hbefore, connection, hconnection⟩ := hguarded v hv
      have hvisit := (visit_guarded decode (pure Sources.noConfiguration) hbefore v.message).2
      rw [← eq_visit_of_mem_runVisits hv] at hvisit
      obtain ⟨e, he, hmessage⟩ := hvisit m hm hblames
      obtain ⟨hscheme, hprepared, -⟩ := World.callFault?_eq_some he
      have hplain : server.useTls = false := by
        by_contra htls
        rw [Bool.not_eq_false] at htls
        rw [htls, hprepared] at hconnection
        cases hconnection
      refine ⟨hscheme, hplain, fun settings hsettings => ?_, e, he, hmessage⟩
      by_contra hflag
      have htls := (Server.ofSettings_eq_ok hsettings).useTls.2 ⟨hscheme, Bool.not_eq_true _ ▸ hflag⟩
      rw [hplain] at htls
      cases htls
  · have hconfiguration (w : World) :
        ((pure Sources.noConfiguration : StateM World _) w).2.hindrance = w.hindrance := rfl
    obtain ⟨hmessages, hbefore⟩ :=
      before_open decode server (pure Sources.noConfiguration) w hconfiguration hopen hplain items
    refine ⟨hmessages, fun v hv request hrequest hserves => ?_⟩
    have hvisit := visit_refused decode hconfiguration (hguarded v hv).1 (hbefore v hv) he hrequest hserves
    rw [← eq_visit_of_mem_runVisits hv] at hvisit
    exact hvisit

/-- The configuration is accepted and the first connection is prepared, but then there is a 400 that says that something
is wrong with certificates. -/
theorem run_trust_late :
    let env := World.environment
    let file := Settings.Location.standardFile
    let settings := Text.toUtf8 "serverURL=https://h/XMLRPC\nuseNoSSLForPackages=1\nsystemIdPath=/systemid\n"
    let files := (FileTree.empty.withFile ["etc", "sysconfig", "rhn", "up2date"] settings).withFile ["systemid"]
      (Text.toUtf8 "ID-1")
    let w : World := ⟨files, fun _ => none, fun _ _ => .unreachable "", [], .unlimited⟩
    let sources := Sources.ofEnvironment env (.xmlRpc Http.contentText env) (pure Sources.noConfiguration)
    let items := Message.readAll .closed
      (Text.toUtf8 "600 URI Acquire\nURI: spacewalk://h/Release\nFilename: Release\n\n")
    ¬ ∀ server, (Server.load env file w).1 = .ok server →
      (∃ connection, ((ensureConnection sources).runFrom (.ofServer server, w)).1 = .ok connection) →
      ∀ m ∈ transcript env sources items (.ofServer server, w), ¬ m.BlamesTls := by
  intro env file settings files w sources items h
  let base : Url := ⟨"https", some ⟨"", none, .name "h", none⟩, .segments ["XMLRPC"], false, none, none⟩
  let server : Server := ⟨base, false, [], "/systemid", none⟩
  let request := Message.acquire "spacewalk://h/Release" "Release"
  have hitems : items = [.ok request] := by
    have hwire : request.wire = "600 URI Acquire\nURI: spacewalk://h/Release\nFilename: Release\n\n" := by
      decide +kernel
    show Message.readAll .closed (Text.toUtf8 _) = _
    rw [← hwire]
    exact Message.readAll_wire (Message.wireSafe_acquire ⟨by decide, rfl⟩ ⟨by decide, rfl⟩)
  have hload : (Server.load env file w).1 = .ok server := eq_ok_of_toOption (by decide +kernel)
  have hconnection : ((ensureConnection sources).runFrom (.ofServer server, w)).1 = .ok ⟨none, none⟩ :=
    eq_ok_of_toOption (by decide +kernel)
  have hsaid : transcript env sources items (.ofServer server, w) = [.capabilities,
      .status "spacewalk://h/Release" "Logging into the spacewalk server",
      .uriFailure (some "spacewalk://h/Release") (.tls "no CA certificate configured")] := by
    rw [hitems]
    decide +kernel
  have hlate := h server hload ⟨_, hconnection⟩
    (.uriFailure (some "spacewalk://h/Release") (.tls "no CA certificate configured"))
  exact hlate (by rw [hsaid]; simp) ((Message.blamesTls_uriFailure_iff _ _).2 rfl)

end Method

end SpacewalkAcquire
