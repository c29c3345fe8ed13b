import SpacewalkAcquire.Http.Charset
import SpacewalkAcquire.Proofs.Method.Files
import SpacewalkAcquire.Proofs.Method.Grammar
import SpacewalkAcquire.Proofs.Session.Cache
import SpacewalkAcquire.Proofs.Transfer.Twin
import SpacewalkAcquire.Proofs.XmlRpc.Encoding

/-!
# The order of requests

* `Visit.told` : what is said during a visit, logins apart;
* `MeantApart t m m'` : the files for two messages are apart;
* `visit_twins` : what a message leads to depends on nothing but the files on the way to its destination;
* `visits_alone` : so each of some messages leads to what it would lead to if it were the only one;
* `run_order` : hence a run over the same messages in another order gives the same answers, files and exit code.
-/

namespace SpacewalkAcquire

instance (t : FileTree) (path path' : String) : Decidable (t.Apart path path') := inferInstanceAs (Decidable (_ ∧ _))

namespace Method

open SessionT Session Transfer

/-- What was said during a visit, logins apart. -/
def Visit.told {σ : Type} (v : Visit (Recorded σ)) : List Message := v.said.filter fun message => !isAboutLogin message

def Destined (t : FileTree) (message : Message) (place : Place) : Prop :=
  ∃ request, Request.ofMessage message = .ok request ∧ place = t.destination request.filename

def MeantApart (t : FileTree) (message message' : Message) : Prop :=
  ∀ request request', Request.ofMessage message = .ok request → Request.ofMessage message' = .ok request' →
    t.Apart request.filename request'.filename

instance (t : FileTree) (message message' : Message) : Decidable (MeantApart t message message') :=
  match h : Request.ofMessage message, h' : Request.ofMessage message' with
  | .error _, _ => .isTrue fun _ _ hrequest => by
    rw [h] at hrequest
    cases hrequest
  | .ok _, .error _ => .isTrue fun _ _ _ hrequest' => by
    rw [h'] at hrequest'
    cases hrequest'
  | .ok request, .ok request' => decidable_of_iff (t.Apart request.filename request'.filename) <| by
    refine ⟨fun hapart _ _ hrequest hrequest' => ?_, fun hapart => hapart request request' h h'⟩
    rw [h] at hrequest
    rw [h'] at hrequest'
    cases hrequest
    cases hrequest'
    exact hapart

/-- `t` and `t'` agree on the way to the destination of `message`, if it has one. -/
def AgreeFor (message : Message) (t t' : FileTree) : Prop :=
  ∀ request, Request.ofMessage message = .ok request → FileTree.AgreeOnWay request.filename t t'

/-- `t` and `t'` agree everywhere but at the destinations of `messages`. -/
structure AgreeBut (messages : List Message) (t t' : FileTree) : Prop where
  workingDirectory : t'.workingDirectory = t.workingDirectory
  sealed : t'.sealed = t.sealed
  node : ∀ place, (∀ message ∈ messages, ¬ Destined t message place) → t'.node? place = t.node? place

variable {t t' t'' : FileTree} {message message' : Message} {messages : List Message}

theorem MeantApart.symm (h : MeantApart t message message') : MeantApart t message' message :=
  fun request request' hrequest hrequest' => (h request' request hrequest' hrequest).symm

theorem destined_congr (h : t'.workingDirectory = t.workingDirectory) {place : Place} :
    Destined t' message place ↔ Destined t message place := by
  unfold Destined
  simp only [FileTree.destination_congr h]

theorem meantApart_congr (h : t'.workingDirectory = t.workingDirectory) :
    MeantApart t' message message' ↔ MeantApart t message message' := by
  unfold MeantApart FileTree.Apart
  simp only [FileTree.destination_congr h, FileTree.way_congr h]

theorem AgreeFor.symm (h : AgreeFor message t t') : AgreeFor message t' t :=
  fun request hrequest => (h request hrequest).symm

theorem AgreeFor.trans (h : AgreeFor message t t') (h' : AgreeFor message t' t'') : AgreeFor message t t'' :=
  fun request hrequest => (h request hrequest).trans (h' request hrequest)

theorem AgreeFor.node (h : AgreeFor message t t') {place : Place} (hplace : Destined t message place) :
    t'.node? place = t.node? place := by
  obtain ⟨request, hrequest, rfl⟩ := hplace
  exact (h request hrequest).node _ (t.destination_mem_way _)

/-- What happens at the destinations of messages that are `MeantApart` does not matter to a message. -/
theorem AgreeBut.agreeFor (h : AgreeBut messages t t') (hapart : ∀ m ∈ messages, MeantApart t m message) :
    AgreeFor message t t' := by
  refine fun request hrequest => ⟨h.workingDirectory, h.sealed, fun place hplace => h.node place fun m hm hdestined => ?_⟩
  obtain ⟨request', hrequest', rfl⟩ := hdestined
  exact (hapart m hm request' request hrequest' hrequest).1 hplace

theorem AgreeBut.cons (h : AgreeBut [message] t t') (h' : AgreeBut messages t' t'') :
    AgreeBut (message :: messages) t t'' := by
  refine ⟨h'.workingDirectory.trans h.workingDirectory, h'.sealed.trans h.sealed, fun place hplace => ?_⟩
  rw [List.forall_mem_cons] at hplace
  rw [h'.node place fun m hm => ?_, h.node place ?_]
  · exact List.forall_mem_singleton.2 hplace.1
  · rw [destined_congr h.workingDirectory]
    exact hplace.2 m hm

/-! ## Visits -/

variable {decode : Http.Decoder} {w₀ : World} {server : Server} {connection : Connection}
  {configuration : StateM World (Except Failure Server)}
  {b b' : List Message} {p p' : Session × Recorded World}

variable (configuration) in
/-- What `acquire` leads to does not depend on what the session had established before. -/
theorem acquire_twins (h : Twin decode w₀ server connection (AgreeFor message) b b' p p') :
    (acquire World.environment.recorded (World.sources decode configuration) message
      World.environment.record).Coincides p p'
      (fun _ q q' => Twin decode w₀ server connection (AgreeFor message) b b' q q') (fun _ _ _ => False) := by
  unfold acquire
  cases hrequest : Request.ofMessage message with
  | error failure => exact say_twins h (silent_uriFailure _ failure) fun _ _ h => h
  | ok request =>
    have hfetch := fetch_twins configuration (h.mono fun _ _ hagree => hagree request hrequest)
    have hanswered {q q' : Session × Recorded World}
        (hq : Twin decode w₀ server connection (FileTree.AgreeOnWay request.filename) b b' q q') :
        Twin decode w₀ server connection (AgreeFor message) b b' q q' := by
      refine hq.mono fun _ _ hagree request' hrequest' => ?_
      rw [hrequest, Except.ok.injEq] at hrequest'
      exact hrequest' ▸ hagree
    unfold serve
    refine .bind (.bind (.outcome (hfetch.mono (fun outcome q q' hq => .pure ?_) fun failure q q' hq => .pure ?_)))
    · exact say_twins hq (silent_uriDone _ _ outcome) fun _ _ h => hanswered h
    · exact say_twins hq (silent_uriFailure _ failure) fun _ _ h => hanswered h

/-- What a visit that succeeds says is a `Block`. -/
theorem said_visit
    (hok : (visit World.environment.recorded (World.sources decode configuration) World.environment.record message
      p).result = .ok ()) :
    let v := visit World.environment.recorded (World.sources decode configuration) World.environment.record message p
    v.after.2.sent = p.2.sent ++ v.said ∧ Block message p.1.isLoggedIn v.after.1.isLoggedIn v.said := by
  intro v
  obtain ⟨said, hblock, hsaid⟩ := visit_block (Correspondence.keeping_sent_sources _) hok
  have hdrop : v.said = said := by
    show v.after.2.sent.drop p.2.sent.length = said
    rw [hsaid, List.drop_left]
  rw [hdrop]
  exact ⟨hsaid, hblock⟩

theorem told_visit
    (hok : (visit World.environment.recorded (World.sources decode configuration) World.environment.record message
      p).result = .ok ()) :
    let v := visit World.environment.recorded (World.sources decode configuration) World.environment.record message p
    v.after.2.told = p.2.told ++ v.told := by
  intro v
  rw [Visit.told, Recorded.told, (said_visit hok).1, List.filter_append]
  rfl

theorem Block.exists_answer {before after : Bool} {said : List Message} (h : Block message before after said) :
    ∃ notes answer, said = notes ++ [answer] ∧ isAboutLogin answer = false ∧
      (answer.code = Message.Kind.uriDone.code ∨ answer.code = Message.Kind.uriFailure.code) := by
  have hfailure (uri : Option String) (failure : Failure) : isAboutLogin (.uriFailure uri failure) = false ∧
      ((Message.uriFailure uri failure).code = Message.Kind.uriDone.code ∨
        (Message.uriFailure uri failure).code = Message.Kind.uriFailure.code) :=
    ⟨isAboutLogin_eq_false (silent_uriFailure uri failure), .inr (Message.code_uriFailure _ _)⟩
  have hsplit (notes : List Message) (x y z : Message) : notes ++ [x, y, z] = notes ++ [x, y] ++ [z] := by simp
  cases h with
  | rejected => exact ⟨[], _, rfl, hfailure _ _⟩
  | failed => exact ⟨_, _, rfl, hfailure _ _⟩
  | notStored => exact ⟨_, _, hsplit _ _ _ _, hfailure _ _⟩
  | stored =>
    exact ⟨_, _, hsplit _ _ _ _, isAboutLogin_eq_false (silent_uriDone _ _ _), .inl (Message.code_uriDone _ _ _)⟩

theorem exists_answer_visit (hok : (visit World.environment.recorded (World.sources decode configuration)
      World.environment.record message p).result = .ok ()) :
    let v := visit World.environment.recorded (World.sources decode configuration) World.environment.record message p
    ∃ answer, v.told.getLast? = some answer ∧
      (answer.code = Message.Kind.uriDone.code ∨ answer.code = Message.Kind.uriFailure.code) := by
  intro v
  obtain ⟨notes, answer, hsaid, hanswer, hcode⟩ := (said_visit hok).2.exists_answer
  refine ⟨answer, ?_, hcode⟩
  rw [Visit.told, hsaid, List.filter_append, List.filter_cons_of_pos (by simp [hanswer]), List.filter_nil]
  exact List.getLast?_concat ..

variable (configuration) in
/-- A visit says the same, logins apart, and leaves the same at its destination, whatever the session had established
before and whatever has become of other files. -/
theorem visit_twins (hp : Resumes decode w₀ server connection p) (hp' : Resumes decode w₀ server connection p')
    (h : AgreeFor message p.2.world.files p'.2.world.files) :
    let v := visit World.environment.recorded (World.sources decode configuration) World.environment.record message p
    let v' := visit World.environment.recorded (World.sources decode configuration) World.environment.record message p'
    v'.result = .ok () ∧ v'.told = v.told ∧ Resumes decode w₀ server connection v'.after ∧
      AgreeFor message v.after.2.world.files v'.after.2.world.files := by
  intro v v'
  rcases acquire_twins configuration (.begin hp hp' h) with
    ⟨_, q, q', hq, hq', htwin⟩ | ⟨_, _, _, -, -, hfalse⟩
  · have hok : v.result = .ok () := congrArg Prod.fst hq
    have hok' : v'.result = .ok () := congrArg Prod.fst hq'
    have hafter : v.after = q := congrArg Prod.snd hq
    have hafter' : v'.after = q' := congrArg Prod.snd hq'
    obtain ⟨said, hsaid, hsaid'⟩ := htwin.told
    rw [← hafter, told_visit hok] at hsaid
    rw [← hafter', told_visit hok'] at hsaid'
    have htold : v.told = said := List.append_cancel_left hsaid
    have htold' : v'.told = said := List.append_cancel_left hsaid'
    rw [hafter, hafter']
    exact ⟨hok', htold'.trans htold.symm, htwin.right, htwin.files⟩
  · exact hfalse.elim

/-- A visit changes nothing but what is at the destination of `message`. -/
theorem visit_agreeBut (decode : Http.Decoder) (hconfiguration : ∀ w, (configuration w).2.files = w.files)
    (message : Message) (p : Session × Recorded World) :
    AgreeBut [message] p.2.world.files
      (visit World.environment.recorded (World.sources decode configuration) World.environment.record message
        p).after.2.world.files := by
  have hsound := visit_files World.usesFiles
    (Sources.leaveFiles_ofEnvironment decode World.usesFiles hconfiguration) message p
  refine ⟨hsound.workingDirectory, hsound.sealed, fun place hplace => hsound.elsewhere place ?_⟩
  rintro ⟨request, target, hrequest, hlocate, rfl⟩
  exact hplace message (List.mem_singleton.2 rfl) ⟨request, hrequest, FileTree.place_of_locate hlocate⟩

/-- Each of some messages whose files are apart leads to what it would lead to from `b` if it were the only one. -/
theorem visits_alone (hconfiguration : ∀ w, (configuration w).2.files = w.files) {b : Session × Recorded World}
    (hb : Resumes decode w₀ server connection b) (hacquire : ∀ m ∈ messages, m.code = Message.Kind.uriAcquire.code)
    (hapart : messages.Pairwise (MeantApart b.2.world.files)) (hp : Resumes decode w₀ server connection p)
    (hworking : p.2.world.files.workingDirectory = b.2.world.files.workingDirectory)
    (hagree : ∀ m ∈ messages, AgreeFor m b.2.world.files p.2.world.files) :
    let vs := visits World.environment.recorded (World.sources decode configuration) World.environment.record
      (messages.map .ok) p
    let alone m := visit World.environment.recorded (World.sources decode configuration) World.environment.record m b
    (∀ v ∈ vs, v.result = .ok ()) ∧
      vs.map (fun v => (v.message, v.told)) = messages.map (fun m => (m, (alone m).told)) ∧
      (∀ m ∈ messages, AgreeFor m (alone m).after.2.world.files (standing p vs).2.world.files) ∧
      AgreeBut messages p.2.world.files (standing p vs).2.world.files := by
  intro vs alone
  induction messages generalizing p with
  | nil => exact ⟨fun v hv => absurd hv List.not_mem_nil, rfl, fun m hm => absurd hm List.not_mem_nil,
    rfl, rfl, fun _ _ => rfl⟩
  | cons message rest ih =>
    rw [List.forall_mem_cons] at hacquire hagree
    obtain ⟨hapart₁, hapart⟩ := List.pairwise_cons.1 hapart
    obtain ⟨hok, htold, hafter, hhere⟩ := visit_twins configuration hb hp hagree.1
    have hchange := visit_agreeBut decode hconfiguration message p
    have hvs : vs = _ := visits_cons hacquire.1 hok (rest.map .ok)
    have hworking' := hchange.workingDirectory.trans hworking
    have hrest := ih hacquire.2 hapart hafter hworking' fun m hm => (hagree.2 m hm).trans <|
      hchange.agreeFor fun m' hm' => by
        rw [List.mem_singleton.1 hm', meantApart_congr hworking]
        exact hapart₁ m hm
    obtain ⟨hresults, hsaid, hothers, helsewhere⟩ := hrest
    rw [hvs]
    refine ⟨List.forall_mem_cons.2 ⟨hok, hresults⟩, ?_, ?_, hchange.cons helsewhere⟩
    · rw [List.map_cons, List.map_cons, hsaid, htold]
      rfl
    · refine List.forall_mem_cons.2 ⟨hhere.trans (helsewhere.agreeFor fun m hm => ?_), hothers⟩
      rw [meantApart_congr hworking']
      exact (hapart₁ m hm).symm

/-! ## Runs -/

/-- `start` leaves the files alone, and the world as steady as it is. -/
theorem start_alike (decode : Http.Decoder) {w : World} (hw : w.Steady) (file : String) (known : Option Server) :
    let q := ((start World.environment.recorded (World.sources decode (Server.load World.environment file))
      World.environment.record).runFrom (begin known, .new w)).2
    World.Alike w q.2.world ∧ q.2.world.files = w.files := by
  intro q
  have hqueries := Correspondence.alike_queries w w.files
  have hsources := Correspondence.ofEnvironment_rel decode hqueries
    ((Correspondence.alike w _).map (Correspondence.readText_rel hqueries.toReads file) (Server.ofFile file))
  have hstart :=
    Correspondence.start_rel World.environment World.environment hsources (Correspondence.alike_listeners w _)
  have hrecording := Correspondence.start_rel World.environment.recorded World.environment
    (Correspondence.forgetting_sources (.ofEnvironment World.environment (.xmlRpc decode World.environment)
      (Server.load World.environment file))) (Correspondence.forgetting_listeners World.environment)
  obtain ⟨-, -, hworld⟩ := Correspondence.forgetting_runFrom hrecording (begin known) (Recorded.new w)
  obtain ⟨-, halike, -, hfiles, -⟩ := hstart (begin known) w w hw.alike hw.alike ⟨rfl, rfl⟩
  rw [show q.2.world = _ from hworld]
  exact ⟨halike, hfiles⟩

/-- Behind `start` the session has its configuration and a connection, and nothing else yet. -/
theorem start_session (sources : Sources (StateM (Recorded World))) (known : Option Server) (r : Recorded World) :
    (start World.environment.recorded sources World.environment.record).Leads (begin known, r)
      (fun _ q => ∃ server connection, q.1 = ⟨some server, none, none, none, some connection⟩) (fun _ _ => True) := by
  have hserver : (ensureServer sources).Leads (begin known, r)
      (fun server q => q.1 = ⟨some server, none, none, none, none⟩) fun _ _ => True := by
    unfold ensureServer
    refine .bind (.get ?_)
    cases known with
    | some server => exact .pure rfl
    | none => exact .bind (.ofEnvironment (fun server r _ => .bind (.modify (.pure rfl))) fun _ _ _ => trivial)
  have hnone : (begin known).connection? = none := by cases known <;> rfl
  unfold start ensureConnection
  refine .bind (.discard (.bind (.get ?_)))
  dsimp only
  rw [hnone]
  refine .bind (hserver.mono (fun server q hq => ?_) fun _ _ _ => trivial)
  refine .bind (.ofEnvironment (fun connection r _ => .bind (.modify (.pure ?_))) fun _ _ _ => trivial)
  refine .ofEnvironment (fun _ r _ => ⟨server, connection, ?_⟩) fun _ _ _ => trivial
  rw [hq]

theorem start_resumes {w : World} (hw : w.Steady) (file : String) (known : Option Server) {b : Session × Recorded World}
    (hstart : (start World.environment.recorded (World.sources decode (Server.load World.environment file))
      World.environment.record).runFrom (begin known, .new w) = (.ok (), b)) :
    b.2.world.files = w.files ∧ ∃ server connection, Resumes decode b.2.world server connection b := by
  have hworld := start_alike decode hw file known
  rw [hstart] at hworld
  obtain ⟨server, connection, hsession⟩ := (start_session _ known (.new w)).1 _ _ hstart
  refine ⟨hworld.2, server, connection, hworld.1.steady, hworld.1.steady.alike, ?_, ?_, ?_, ?_, ?_, fun _ => rfl⟩ <;>
    simp [hsession]

theorem read_eq_of_agree {messages' : List Message} (hperm : messages.Perm messages')
    (hagree : ∀ m ∈ messages, AgreeFor m t' t'') (h : AgreeBut messages t t') (h' : AgreeBut messages' t t'')
    (path : String) : t''.read path = t'.read path := by
  refine FileTree.read_congr ⟨h'.workingDirectory.trans h.workingDirectory.symm, h'.sealed.trans h.sealed.symm,
    fun place _ => ?_⟩
  by_cases hplace : ∃ m ∈ messages, Destined t m place
  · obtain ⟨m, hm, hdestined⟩ := hplace
    rw [← destined_congr h.workingDirectory] at hdestined
    exact (hagree m hm).node hdestined
  · rw [h.node place fun m hm hdestined => hplace ⟨m, hm, hdestined⟩,
      h'.node place fun m hm hdestined => hplace ⟨m, hperm.mem_iff.2 hm, hdestined⟩]

/-- A run over messages whose files are apart: each of them leads to what it would lead to from the start of the run if
it were the only one. -/
theorem run_alone {b : Session × Recorded World} {s : Session} {r : Recorded World}
    (hstart : (start World.environment.recorded (World.sources decode configuration) World.environment.record).runFrom
      (s, r) = (.ok (), b))
    (hconfiguration : ∀ w, (configuration w).2.files = w.files) (hb : Resumes decode w₀ server connection b)
    (hacquire : ∀ m ∈ messages, m.code = Message.Kind.uriAcquire.code)
    (hapart : messages.Pairwise (MeantApart b.2.world.files)) :
    let after := (run World.environment.recorded (World.sources decode configuration) (messages.map .ok)
      World.environment.record).runFrom (s, r)
    let vs := runVisits World.environment.recorded (World.sources decode configuration) World.environment.record
      (messages.map .ok) (s, r)
    let alone m := visit World.environment.recorded (World.sources decode configuration) World.environment.record m b
    exitCode after.1 = success ∧ vs.map Visit.message = messages ∧
      vs.map (fun v => (v.message, v.told)) = messages.map (fun m => (m, (alone m).told)) ∧
      (∀ m ∈ messages, AgreeFor m (alone m).after.2.world.files after.2.2.world.files) ∧
      AgreeBut messages b.2.world.files after.2.2.world.files := by
  intro after vs alone
  obtain ⟨hresults, htold, hhere, helsewhere⟩ := visits_alone hconfiguration hb hacquire hapart hb rfl
    fun m _ _ _ => .refl _ _
  obtain ⟨hrequests, hremainder⟩ := requests_map_ok hacquire
  obtain ⟨hmessages, hserved⟩ := runFrom_serveAll hresults
  obtain ⟨hcode, hend⟩ := runFrom_serveAll_remainder World.environment.recorded (World.sources decode configuration)
    World.environment.record (messages.map .ok) (standing b (visits World.environment.recorded
      (World.sources decode configuration) World.environment.record (messages.map .ok) b))
  obtain ⟨hresult, hworld⟩ := runFrom_run hstart (messages.map .ok)
  rw [← hserved] at hcode hend
  have hvs : vs = visits World.environment.recorded (World.sources decode configuration) World.environment.record
      (messages.map .ok) b := runVisits_of_ok hstart _
  have hafter : after.2.2 = (standing b vs).2 := by rw [hworld, hend, hvs]
  refine ⟨?_, ?_, ?_, ?_, ?_⟩
  · rw [hresult, hcode, hremainder]
    rfl
  · rw [hvs, hmessages, hrequests]
  · rw [hvs]
    exact htold
  · rw [hafter, hvs]
    exact hhere
  · rw [hafter, hvs]
    exact helsewhere

/-- Requests do not interfere. A server answers each request by itself, and the files for the messages are apart: none
is the other or stands above it. Then each message gets the answer that it would get if it were the only one, in
whatever order they come; only what is said about the login may stand with another one. All files read the same
afterwards, and the exit code is the same. What a login reads needs no exception: where a body is stored, the login is
over. -/
theorem run_order (decode : Http.Decoder) (file : String) (known : Option Server) {w : World} (hw : w.Steady)
    {messages messages' : List Message}
    (hperm : messages.Perm messages') (hacquire : ∀ m ∈ messages, m.code = Message.Kind.uriAcquire.code)
    (hapart : messages.Pairwise (MeantApart w.files)) :
    let env := World.environment
    let sources := Sources.ofEnvironment env (.xmlRpc decode env) (Server.load env file)
    let items (ms : List Message) : List (Except Failure Message) := ms.map .ok
    let plain ms := (run env sources (items ms)).runFrom (begin known, w)
    let recorded ms := (run env.recorded sources.recorded (items ms) env.record).runFrom (begin known, .new w)
    let vs ms := runVisits env.recorded sources.recorded env.record (items ms) (begin known, .new w)
    let answers ms := (vs ms).map fun v => (v.message, v.told)
    (∀ ms, (recorded ms).1 = (plain ms).1 ∧ (recorded ms).2.2.world = (plain ms).2.2) ∧
      answers messages = messages.flatMap (fun m => answers [m]) ∧
      answers messages' = messages'.flatMap (fun m => answers [m]) ∧
      (∀ v ∈ vs messages, ∃ answer, v.told.getLast? = some answer ∧
        (answer.code = Message.Kind.uriDone.code ∨ answer.code = Message.Kind.uriFailure.code)) ∧
      (∀ path, (plain messages').2.2.files.read path = (plain messages).2.2.files.read path) ∧
      exitCode (plain messages').1 = exitCode (plain messages).1 ∧
      (exitCode (plain messages).1 = success → (vs messages).map Visit.message = messages) := by
  intro env sources items plain recorded vs answers
  have hconfiguration : ∀ w, (Server.load env file w).2.files = w.files :=
    ((Correspondence.keeping World.files).map (Correspondence.readText_rel World.usesFiles.queries.toReads file) _).2
  have hrecording (ms : List Message) : (recorded ms).1 = (plain ms).1 ∧ (recorded ms).2.2.world = (plain ms).2.2 := by
    obtain ⟨hresult, -, hworld⟩ := run_recorded env sources (items ms) (begin known) (.new w)
    exact ⟨hresult, hworld⟩
  have hacquire' : ∀ m ∈ messages', m.code = Message.Kind.uriAcquire.code := fun m hm => hacquire m (hperm.mem_iff.2 hm)
  have hapart' := hapart.perm hperm fun h => h.symm
  rcases hstart : (start env.recorded (World.sources decode (Server.load env file)) env.record).runFrom
    (begin known, Recorded.new w) with ⟨e | _, b⟩
  · have hnone (ms : List Message) : vs ms = [] := runVisits_of_error hstart _
    have hstopped (ms : List Message) : (plain ms).1 = .error e ∧ (plain ms).2.2 = b.2.world := by
      obtain ⟨hresult, hworld⟩ := hrecording ms
      have hrun : recorded ms = (.error e, b) := runFrom_run_of_error hstart (items ms)
      rw [← hresult, ← hworld, hrun]
      exact ⟨rfl, rfl⟩
    have hsilent (ms : List Message) : answers ms = [] := by
      unfold answers
      rw [hnone]
      rfl
    refine ⟨hrecording, ?_, ?_, ?_, fun path => ?_, ?_, fun hsuccess => ?_⟩
    · simp [hsilent]
    · simp [hsilent]
    · simp [hnone]
    · rw [(hstopped messages).2, (hstopped messages').2]
    · rw [(hstopped messages).1, (hstopped messages').1]
    · rw [(hstopped messages).1] at hsuccess
      cases hsuccess
  · obtain ⟨hfiles, server, connection, hb⟩ := start_resumes hw file known hstart
    let alone (m : Message) := visit env.recorded sources.recorded env.record m b
    have hrun (ms : List Message) (hms : ∀ m ∈ ms, m.code = Message.Kind.uriAcquire.code)
        (hmsApart : ms.Pairwise (MeantApart w.files)) :
        exitCode (plain ms).1 = success ∧ (vs ms).map Visit.message = ms ∧
          answers ms = ms.map (fun m => (m, (alone m).told)) ∧
          (∀ m ∈ ms, AgreeFor m (alone m).after.2.world.files (plain ms).2.2.files) ∧
          AgreeBut ms b.2.world.files (plain ms).2.2.files := by
      rw [← (hrecording ms).1, ← (hrecording ms).2]
      rw [← hfiles] at hmsApart
      exact run_alone hstart hconfiguration hb hms hmsApart
    have hone (ms : List Message) (hms : ∀ m ∈ ms, m.code = Message.Kind.uriAcquire.code) :
        ms.map (fun m => (m, (alone m).told)) = ms.flatMap fun m => answers [m] := by
      rw [List.map_eq_flatMap]
      refine List.flatMap_congr fun m hm => ?_
      have hm' : ∀ m' ∈ [m], m'.code = Message.Kind.uriAcquire.code := List.forall_mem_singleton.2 (hms m hm)
      exact (hrun [m] hm' (List.pairwise_singleton _ _)).2.2.1.symm
    obtain ⟨hcode, hmessages, htold, hhere, helsewhere⟩ := hrun messages hacquire hapart
    obtain ⟨hcode', -, htold', hhere', helsewhere'⟩ := hrun messages' hacquire' hapart'
    refine ⟨hrecording, htold.trans (hone _ hacquire), htold'.trans (hone _ hacquire'), fun v hv => ?_, fun path => ?_,
      hcode'.trans hcode.symm, fun _ => hmessages⟩
    · have hmem : (v.message, v.told) ∈ answers messages := List.mem_map_of_mem hv
      rw [htold] at hmem
      obtain ⟨m, -, hm⟩ := List.mem_map.1 hmem
      rw [← (Prod.mk.inj hm).2]
      exact exists_answer_visit (visit_twins _ hb hb fun _ _ => .refl _ _).1
    · refine read_eq_of_agree hperm (fun m hm => ?_) helsewhere helsewhere' path
      exact (hhere m hm).symm.trans (hhere' m (hperm.mem_iff.1 hm))

/-- Two messages in both orders, with a server that knows the system. -/
theorem run_order_swapped :
    let env := World.environment
    let server : Server := ⟨⟨"http", some ⟨"", none, .name "h", none⟩, .segments ["XMLRPC"], false, none, none⟩,
      false, [], Server.standardSystemIdFile, none⟩
    let credentials : XmlRpc.Value := .struct (Credentials.required.map fun name => (name, .string "1"))
    let channels : XmlRpc.Value := .array [.struct [("label", .string "base")]]
    let document (v : XmlRpc.Value) : Bytes :=
      Text.toUtf8 ("<methodResponse><params><param>" ++ v.encode ++ "</param></params></methodResponse>")
    let answer (_ : List Http.Request) (r : Http.Request) : Http.Answer :=
      let body := if r.verb = .get then [72, 105]
        else document (if r.body = Text.toUtf8 (XmlRpc.call "up2date.login" ["ID-1"]) then credentials else channels)
      .reply ⟨200, [], .sized body.length, [body]⟩
    let files := FileTree.empty.withFile ["etc", "sysconfig", "rhn", "systemid"] (Text.toUtf8 "ID-1")
    let w : World := ⟨files, fun _ => none, answer, [], .unlimited⟩
    let message (name : String) : Message :=
      ((Message.ofKind .uriAcquire).set "URI" ("spacewalk://h/" ++ name)).set "Filename" ("/" ++ name)
    let messages := [message "a", message "b"]
    let sources :=
      Sources.ofEnvironment env (.xmlRpc Http.contentText env) (Server.load env Settings.Location.standardFile)
    let plain ms := (run env sources (List.map .ok ms)).runFrom (begin (some server), w)
    let vs ms := runVisits env.recorded sources.recorded env.record (List.map .ok ms) (begin (some server), .new w)
    let answers ms := (vs ms).map fun v => (v.message, v.told)
    w.Steady ∧ messages.Perm messages.reverse ∧ (∀ m ∈ messages, m.code = Message.Kind.uriAcquire.code) ∧
      messages.Pairwise (MeantApart w.files) ∧
      answers messages = messages.flatMap (fun m => answers [m]) ∧
      answers messages.reverse = messages.reverse.flatMap (fun m => answers [m]) ∧
      (∀ path, (plain messages.reverse).2.2.files.read path = (plain messages).2.2.files.read path) ∧
      exitCode (plain messages.reverse).1 = exitCode (plain messages).1 := by
  intro env server credentials channels document answer files w message messages sources plain vs answers
  have hsteady : w.Steady := ⟨fun _ _ => rfl, rfl, rfl⟩
  have hperm : messages.Perm messages.reverse := (List.reverse_perm messages).symm
  have hacquire : ∀ m ∈ messages, m.code = Message.Kind.uriAcquire.code := by decide +kernel
  have hapart : messages.Pairwise (MeantApart w.files) := by decide +kernel
  obtain ⟨-, hanswers, hanswers', -, hfiles, hcode, -⟩ :=
    run_order Http.contentText Settings.Location.standardFile (some server) hsteady hperm hacquire hapart
  exact ⟨hsteady, hperm, hacquire, hapart, hanswers, hanswers', hfiles, hcode⟩

end Method

end SpacewalkAcquire
