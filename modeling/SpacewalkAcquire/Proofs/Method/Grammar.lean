import SpacewalkAcquire.Proofs.Message.RoundTrip
import SpacewalkAcquire.Proofs.Method.Logins

/-!
# The output of a run

* `transcript` : the messages that the front end takes in a run;
* `written_eq_wires` : what is written is their wire forms;
* `visits_blocks` : the visits of a run say one block each, and over all of them there is one login at most;
* `run_output` : the transcript is the capabilities and one block for each request.
-/

namespace SpacewalkAcquire.Method

open SessionT Transfer

def wires (messages : List Message) : Bytes := messages.flatMap fun message => Text.toUtf8 message.wire

theorem wires_append (a b : List Message) : wires (a ++ b) = wires a ++ wires b := List.flatMap_append

/-- The messages that the front end takes in a `run`. -/
def transcript {σ : Type} (env : Environment (StateM σ)) (sources : Sources (StateM σ))
    (items : List (Except Failure Message)) (p : Session × σ) : List Message :=
  ((run env.recorded sources.recorded items env.record).runFrom (p.1, .new p.2)).2.2.sent

section Written

variable {σ : Type} (env : Environment (StateM σ)) (sources : Sources (StateM σ))

def Agrees (r : Recorded (Piped σ)) : Prop := r.world.written = wires r.sent

theorem record_piped (message : Message) (r : Recorded (Piped σ)) :
    env.piped.record message r = (.ok (), { r with
      world := ⟨r.world.world, r.world.written ++ Text.toUtf8 message.wire⟩, sent := r.sent ++ [message] }) := rfl

theorem agrees_record (message : Message) (r : Recorded (Piped σ)) :
    Agrees (env.piped.record message r).2 = Agrees r := by
  rw [record_piped]
  apply propext
  unfold Agrees
  rw [wires_append]
  simp [wires]

theorem keeping_agrees_environments :
    (Correspondence.keeping (Agrees (σ := σ))).Environments env.piped.recorded env.piped.recorded where
  readFile _ := ⟨rfl, fun _ => rfl⟩
  createFile _ := ⟨rfl, fun _ => rfl⟩
  appendFile _ _ := ⟨rfl, fun _ => rfl⟩
  flushFile _ := ⟨rfl, fun _ => rfl⟩
  removeFile _ := ⟨rfl, fun _ => rfl⟩
  certificateFault _ := ⟨rfl, fun _ => rfl⟩
  exchange _ _ := ⟨rfl, fun _ => rfl⟩

theorem keeping_agrees_sources :
    (Correspondence.keeping (Agrees (σ := σ))).Sources sources.piped.recorded sources.piped.recorded where
  configuration := ⟨rfl, fun _ => rfl⟩
  login _ := ⟨rfl, fun _ => rfl⟩
  channels _ := ⟨rfl, fun _ => rfl⟩
  connect _ := ⟨rfl, fun _ => rfl⟩

theorem result_of_mem_visits {items : List (Except Failure Message)} {p : Session × Recorded (Piped σ)}
    {sources : Sources (StateM (Recorded (Piped σ)))} {v : Visit (Recorded (Piped σ))}
    (hv : v ∈ visits env.piped.recorded sources env.piped.record items p) : v.result = .ok () := by
  rw [eq_visit_of_mem hv]
  exact result_visit (fun message r => congrArg Prod.fst (record_piped env message r)) _ _

/-- What `run` writes is the wire forms of its `transcript`. -/
theorem written_eq_wires (items : List (Except Failure Message)) (s : Session) (w : σ) :
    ((run env.piped sources.piped items).runFrom (s, .new w)).2.2.written =
      wires (transcript env.piped sources.piped items (s, .new w)) := by
  obtain ⟨-, -, hworld⟩ := run_recorded env.piped sources.piped items s (.new (.new w))
  have hkeep := Correspondence.keeping_runFrom
    (Correspondence.run_rel (keeping_agrees_environments env) (keeping_agrees_sources sources)
      (fun message => ⟨rfl, agrees_record env message⟩) items) (s, Recorded.new (Piped.new w))
  have hagrees : Agrees (Recorded.new (Piped.new w)) := rfl
  rw [← hkeep] at hagrees
  exact (congrArg Piped.written hworld).symm.trans hagrees

end Written

/-! ## The blocks of a run -/

section Blocks

variable {σ : Type} {env : Environment (StateM σ)} {sources : Sources (StateM (Recorded σ))}

theorem visit_block (h : (Correspondence.keeping Recorded.sent).Sources sources sources) {message : Message}
    {p : Session × Recorded σ} (hok : (visit env.recorded sources env.record message p).result = .ok ()) :
    ∃ said, Block message p.1.isLoggedIn (visit env.recorded sources env.record message p).after.1.isLoggedIn said ∧
      (visit env.recorded sources env.record message p).after.2.sent = p.2.sent ++ said :=
  (acquire_sent h message p).1 () _ (Prod.ext hok rfl)

/-- Each of some visits that succeed says a `Block`, and what they say together is `LoginOnce`. -/
theorem visits_blocks (h : (Correspondence.keeping Recorded.sent).Sources sources sources)
    (items : List (Except Failure Message)) (p : Session × Recorded σ) :
    let vs := visits env.recorded sources env.record items p
    (∀ v ∈ vs, v.result = .ok ()) → ∃ blocks : List (List Message),
      List.Forall₂ (fun message said => ∃ before after, Block message before after said) (vs.map Visit.message) blocks ∧
      (standing p vs).2.sent = p.2.sent ++ blocks.flatten ∧
      LoginOnce p.1.isLoggedIn (standing p vs).1.isLoggedIn blocks.flatten := by
  intro vs
  refine visits_induction (motive := fun p vs => (∀ v ∈ vs, v.result = .ok ()) → ∃ blocks : List (List Message),
    List.Forall₂ (fun message said => ∃ before after, Block message before after said) (vs.map Visit.message) blocks ∧
    (standing p vs).2.sent = p.2.sent ++ blocks.flatten ∧
    LoginOnce p.1.isLoggedIn (standing p vs).1.isLoggedIn blocks.flatten) ?_ ?_ items p
  · intro p _
    refine ⟨[], .nil, (List.append_nil _).symm, .of_silent id fun m hm => absurd hm List.not_mem_nil⟩
  · intro message p vs ih hok
    obtain ⟨said, hblock, hsaid⟩ := visit_block h (hok _ List.mem_cons_self)
    obtain ⟨blocks, hblocks, hsent, honce⟩ := ih fun v hv => hok v (List.mem_cons_of_mem _ hv)
    refine ⟨said :: blocks, .cons ⟨_, _, hblock⟩ hblocks, ?_, ?_⟩
    · show (standing _ vs).2.sent = _
      rw [hsent, hsaid, List.flatten_cons, List.append_assoc]
    · rw [List.flatten_cons]
      exact hblock.loginOnce.append honce

end Blocks

/-! ## Whole runs -/

section Run

variable {σ : Type} {env : Environment (StateM σ)} {sources : Sources (StateM σ)}
  {say : Message → StateM σ (Except Failure Unit)}

theorem runFrom_start (env : Environment (StateM σ)) (sources : Sources (StateM σ))
    (say : Message → StateM σ (Except Failure Unit)) (p : Session × σ) :
    (start env sources say).runFrom p = match (Session.ensureConnection sources).runFrom p with
      | (.ok _, q) => ((say .capabilities q.2).1, q.1, (say .capabilities q.2).2)
      | (.error e, q) => (.error e, q) := by
  unfold start
  rw [runFrom_bind, discard_eq_bind, runFrom_bind]
  rcases (Session.ensureConnection sources).runFrom p with ⟨_ | _, q⟩ <;> rfl

theorem silent_capabilities : beginsLogin .capabilities = false ∧ endsLogin .capabilities = false :=
  silent_of_code_ne (by decide)

variable {items : List (Except Failure Message)} {s : Session} {w : σ} {q : Session × Recorded (Piped σ)}

theorem transcript_of_error {e : Failure}
    (hc : (Session.ensureConnection sources.piped.recorded).runFrom (s, .new (.new w)) = (.error e, q)) :
    transcript env.piped sources.piped items (s, .new w) = [] ∧
      exitCode ((run env.piped.recorded sources.piped.recorded items env.piped.record).runFrom (s, .new (.new w))).1 =
        fatal := by
  have hquiet := Correspondence.keeping_runFrom
    (Correspondence.ensureConnection_rel (Correspondence.keeping_sent_sources sources.piped))
    (s, Recorded.new (Piped.new w))
  have hstart := runFrom_start env.piped.recorded sources.piped.recorded env.piped.record (s, Recorded.new (Piped.new w))
  rw [hc] at hquiet hstart
  have hrun := runFrom_run_of_error hstart items
  unfold transcript
  rw [hrun]
  exact ⟨hquiet, rfl⟩

/-- With a connection, a `transcript` is the capabilities and one `Block` for each request before the first other item;
what stands behind the requests decides the exit code. -/
theorem transcript_of_ok {connection : Connection}
    (hc : (Session.ensureConnection sources.piped.recorded).runFrom (s, .new (.new w)) = (.ok connection, q)) :
    ∃ blocks : List (List Message),
      transcript env.piped sources.piped items (s, .new w) = .capabilities :: blocks.flatten ∧
      List.Forall₂ (fun message said => ∃ before after, Block message before after said) (requests items) blocks ∧
      (∃ before after, LoginOnce before after blocks.flatten) ∧
      exitCode ((run env.piped.recorded sources.piped.recorded items env.piped.record).runFrom (s, .new (.new w))).1 =
        endCode (remainder items) := by
  have hsources := Correspondence.keeping_sent_sources sources.piped
  have hquiet := Correspondence.keeping_runFrom (Correspondence.ensureConnection_rel hsources)
    (s, Recorded.new (Piped.new w))
  have hstart := runFrom_start env.piped.recorded sources.piped.recorded env.piped.record (s, Recorded.new (Piped.new w))
  rw [hc] at hquiet hstart
  dsimp only at hstart
  rw [record_piped] at hstart
  have hrun := runFrom_run hstart items
  have hok (p) : ∀ v ∈ visits env.piped.recorded sources.piped.recorded env.piped.record items p, v.result = .ok () :=
    fun _ hv => result_of_mem_visits env hv
  obtain ⟨hmessages, hserve⟩ := runFrom_serveAll (hok _)
  obtain ⟨blocks, hblocks, hsent, honce⟩ := visits_blocks hsources items _ (hok _)
  obtain ⟨hcode, hworld⟩ := runFrom_serveAll_remainder env.piped.recorded sources.piped.recorded
    env.piped.record items (standing _ _)
  refine ⟨blocks, ?_, hmessages ▸ hblocks, ⟨_, _, honce⟩, hrun.1.symm ▸ hserve.symm ▸ hcode⟩
  show ((run env.piped.recorded sources.piped.recorded items env.piped.record).runFrom _).2.2.sent = _
  rw [hrun.2, hserve, hworld, hsent]
  show (q.2.sent ++ [.capabilities]) ++ _ = _
  rw [hquiet]
  rfl

variable (env sources) in
/-- The two sorts of transcripts, by whether there is a connection. -/
theorem run_transcript (items : List (Except Failure Message)) (s : Session) (w : σ) :
    let after := (run env.piped sources.piped items).runFrom (s, .new w)
    let sent := transcript env.piped sources.piped items (s, .new w)
    match ((Session.ensureConnection sources.piped).runFrom (s, .new w)).1 with
    | .error _ => sent = [] ∧ exitCode after.1 = fatal
    | .ok _ => ∃ blocks : List (List Message),
        sent = .capabilities :: blocks.flatten ∧
        List.Forall₂ (fun message said => ∃ before after, Block message before after said) (requests items) blocks ∧
        (∃ before after, LoginOnce before after blocks.flatten) ∧ exitCode after.1 = endCode (remainder items) := by
  intro after sent
  -- What is recorded does not change the run, so both the connection and the exit code can be read off the record.
  have hafter : _ = after.1 := (run_recorded env.piped sources.piped items s (.new (.new w))).1
  have hconnection : _ = ((Session.ensureConnection sources.piped).runFrom (s, .new w)).1 :=
    (Correspondence.forgetting_runFrom (Correspondence.ensureConnection_rel
      (Correspondence.forgetting_sources sources.piped)) s (Recorded.new (Piped.new w))).1
  rw [← hconnection, ← hafter]
  rcases hc : (Session.ensureConnection sources.piped.recorded).runFrom (s, .new (.new w)) with ⟨e | connection, q⟩
  · exact transcript_of_error hc
  · exact transcript_of_ok hc

end Run

/-- Whatever comes in, and however files and servers behave: what a run writes is the wire forms of the messages that
it sends. Without a connection these are none. Otherwise they are the capabilities and one block for each request
before the first other item, with one successful login at most, and what stands behind the requests decides the exit
code. -/
theorem run_output {σ : Type} (env : Environment (StateM σ)) (sources : Sources (StateM σ)) (ending : Message.Ending)
    (input : Bytes) (s : Session) (w : σ) :
    let items := Message.readAll ending input
    let after := (run env.piped sources.piped items).runFrom (s, .new w)
    let sent := transcript env.piped sources.piped items (s, .new w)
    after.2.2.written = wires sent ∧
    match ((Session.ensureConnection sources.piped).runFrom (s, .new w)).1 with
    | .error _ => sent = [] ∧ exitCode after.1 = fatal
    | .ok _ => ∃ blocks : List (List Message),
        sent = .capabilities :: blocks.flatten ∧
        List.Forall₂ (fun message said => ∃ before after, Block message before after said) (requests items) blocks ∧
        sent.countP endsLogin ≤ 1 ∧
        sent.Pairwise (fun m m' => endsLogin m = true → beginsLogin m' = false) ∧
        exitCode after.1 = endCode (remainder items) ∧ (exitCode after.1 = success ↔ remainder items = []) := by
  intro items after sent
  refine ⟨written_eq_wires env sources items s w, ?_⟩
  have hrun := run_transcript env sources items s w
  change match ((Session.ensureConnection sources.piped).runFrom (s, .new w)).1 with
    | .error _ => sent = [] ∧ exitCode after.1 = fatal
    | .ok _ => ∃ blocks : List (List Message), sent = .capabilities :: blocks.flatten ∧ _ at hrun
  split at hrun
  · exact hrun
  · obtain ⟨blocks, hsent, hblocks, ⟨before, after', honce⟩, hexit⟩ := hrun
    refine ⟨blocks, hsent, hblocks, ?_, ?_, hexit, hexit ▸ endCode_eq_success_iff _⟩
    · rw [hsent, List.countP_cons_of_neg (by rw [silent_capabilities.2]; exact Bool.false_ne_true)]
      exact honce.once
    · rw [hsent, List.pairwise_cons]
      refine ⟨fun m _ hends => ?_, honce.order⟩
      rw [silent_capabilities.2] at hends
      cases hends

end SpacewalkAcquire.Method
