import SpacewalkAcquire.Http.Charset
import SpacewalkAcquire.Proofs.Http.Chain
import SpacewalkAcquire.Proofs.Http.Reply
import SpacewalkAcquire.Proofs.Message.Fields
import SpacewalkAcquire.Proofs.Message.Sendable
import SpacewalkAcquire.Proofs.Method.Logins
import SpacewalkAcquire.Proofs.Transfer.Store
import SpacewalkAcquire.Proofs.World
import SpacewalkAcquire.Proofs.XmlRpc.Encoding

/-!
# Files of a run

* `FilesSound message before after said exchanges kept` : what the answer to a message says about its file is so, given
  the files before and after it, the exchanges for it, and the files that could not be removed;
* `announce_files` : up to the announcement of a body no file is touched;
* `visit_files`, `run_files` : the answer to every message of every run is sound.
-/

namespace SpacewalkAcquire

open SessionT

abbrev Sources.LeaveFiles {σ : Type} (sources : Sources (StateM σ)) (files : σ → FileTree) : Prop :=
  (Correspondence.keeping files).Sources sources sources

theorem Environment.UsesFiles.queries {σ : Type} {env : Environment (StateM σ)} {files : σ → FileTree}
    (h : env.UsesFiles files) : (Correspondence.keeping files).Queries env env where
  readFile path := ⟨rfl, h.readFile path⟩
  certificateFault content := ⟨rfl, h.certificateFault content⟩
  exchange connection request := ⟨rfl, h.exchange connection request⟩

theorem Sources.leaveFiles_ofEnvironment {σ : Type} (decode : Http.Decoder) {env : Environment (StateM σ)}
    {files : σ → FileTree} (h : env.UsesFiles files) {configuration : StateM σ (Except Failure Server)}
    (hc : ∀ w, files (configuration w).2 = files w) :
    (Sources.ofEnvironment env (Accounts.xmlRpc decode env) configuration).LeaveFiles files :=
  Correspondence.ofEnvironment_rel decode h.queries ⟨rfl, hc⟩

namespace Method

open Transfer

def IsDestination (message : Message) (t : FileTree) (place : Place) : Prop :=
  ∃ request target, Request.ofMessage message = .ok request ∧ t.locate request.filename = .ok target ∧
    place = target.place

/-- What was `said` in answer to a message is so, given the files before and after it, the exchanges for it, and the
files that could not be removed. -/
structure FilesSound (message : Message) (before after : FileTree) (said : List Message)
    (exchanges : List (Http.Request × Http.Answer)) (kept : List String) : Prop where
  /-- With a 201, the file holds the body that was received last, and its size and digests are reported; if a size was
  announced, it was this one. -/
  stored : ∀ done ∈ said, done.code = Message.Kind.uriDone.code → ∃ request last reply,
    Request.ofMessage message = .ok request ∧ exchanges.getLast? = some (last, .reply reply) ∧
    after.read request.filename = .ok reply.body.chunks.flatten ∧
    done.field? "Size" = some (toString reply.body.chunks.flatten.length) ∧
    done.field? "MD5-Hash" = some (hexText (Md5.hash.digest reply.body.chunks.flatten)) ∧
    done.field? "MD5Sum-Hash" = some (hexText (Md5.hash.digest reply.body.chunks.flatten)) ∧
    done.field? "SHA256-Hash" = some (hexText (Sha256.hash.digest reply.body.chunks.flatten)) ∧
    ∀ start ∈ said, start.code = Message.Kind.uriStart.code → ∀ size, start.field? "Size" = some size →
      done.field? "Size" = some size
  /-- Unless a body was announced, nothing has changed. -/
  untouched : (∀ m ∈ said, m.code ≠ Message.Kind.uriStart.code) → after = before
  /-- With a 400, nothing has changed but the destination. That is gone, unless it is among the files `kept`. -/
  lost : (∃ m ∈ said, m.code = Message.Kind.uriFailure.code) → ∀ place, after.node? place = before.node? place ∨
    IsDestination message before place ∧
      (after.node? place = none ∨ ∃ request, Request.ofMessage message = .ok request ∧ request.filename ∈ kept)
  elsewhere : ∀ place, ¬ IsDestination message before place → after.node? place = before.node? place
  workingDirectory : after.workingDirectory = before.workingDirectory
  sealed : after.sealed = before.sealed

theorem FilesSound.of_eq {message : Message} {t : FileTree} {said : List Message}
    {exchanges : List (Http.Request × Http.Answer)} {kept : List String}
    (h : ∀ m ∈ said, m.code ≠ Message.Kind.uriDone.code) : FilesSound message t t said exchanges kept :=
  ⟨fun m hm hcode => (h m hm hcode).elim, fun _ => rfl, fun _ _ => .inl rfl, fun _ _ => rfl, rfl, rfl⟩

section Recorded

variable {σ : Type} {env : Environment (StateM σ)} {sources : Sources (StateM σ)} {files : σ → FileTree}

theorem keeping_files_send (h : env.UsesFiles files) : (Correspondence.keeping files).Listeners env.send env.send :=
  Correspondence.send_rel (fun bytes => ⟨rfl, h.write bytes⟩) ⟨rfl, h.flush⟩

theorem keeping_files_listeners (h : env.UsesFiles files) :
    (Correspondence.keeping fun r : Recorded σ => files r.world).Listeners env.record env.record :=
  Correspondence.keeping_recorded_listeners (keeping_files_send h)

theorem ask_exchanges (uri : String) (connection : Connection) (content : Http.Request) (p : Session × Recorded σ) :
    (ask env.recorded uri connection content).Leads p
      (fun reply q => reply.status = Http.okStatus ∧ ∃ chain last, q.2.exchanges = p.2.exchanges ++ chain ∧
        chain.getLast? = some (last, .reply reply))
      (fun _ _ => True) := by
  unfold ask
  refine .bind ⟨fun result q hq => ?_, fun _ _ _ => trivial⟩
  cases result with
  | error why => exact .throw trivial
  | ok reply =>
    have hsent : Http.send (env.recorded.exchange connection) content p.2 = (.ok reply, q.2) := by
      rw [runFrom_ofEnvironment, Prod.mk.injEq, Prod.mk.injEq] at hq
      exact Prod.ext (Except.ok.inj hq.1) hq.2.2
    obtain ⟨chain, hexchanges, hchain⟩ := Http.chain_send env connection content p.2
    rw [hsent] at hexchanges hchain
    obtain ⟨last, hlast⟩ := hchain.getLast?_of_ok
    dsimp only
    split
    · exact .throw trivial
    · next hstatus =>
      exact .pure ⟨not_not.1 hstatus, chain, last, hexchanges, hlast⟩

variable (env) in
/-- The reply that `announce` gives is the last thing recorded. -/
theorem announce_exchanges (request : Request) (p : Session × Recorded σ) :
    (announce env.recorded sources.recorded env.record request).Leads p
      (fun reply q => reply.status = Http.okStatus ∧ ∃ chain last, q.2.exchanges = p.2.exchanges ++ chain ∧
        chain.getLast? = some (last, .reply reply))
      (fun _ _ => True) := by
  have hsources := Correspondence.keeping_exchanges_sources sources
  have hrecord (message) := (Correspondence.keeping Recorded.exchanges).session_ofEnvironment
    (Correspondence.keeping_exchanges_listeners env message)
  unfold announce
  refine .bind (Correspondence.keeping_leads (Correspondence.checkHost_rel hsources request) (fun _ q₁ h₁ => ?_)
    fun _ _ _ => trivial)
  refine .bind (Correspondence.keeping_leads (Correspondence.logIn_rel hsources
    (Correspondence.keeping_exchanges_listeners env) _) (fun _ q₂ h₂ => ?_) fun _ _ _ => trivial)
  refine .bind (Correspondence.keeping_leads (Correspondence.locate_rel hsources request) (fun found q₃ h₃ => ?_)
    fun _ _ _ => trivial)
  refine .bind (Correspondence.keeping_leads (hrecord _) (fun _ q₄ h₄ => ?_) fun _ _ _ => trivial)
  refine .bind ((ask_exchanges _ _ _ q₄).mono (fun reply q₅ ⟨hstatus, chain, last, h₅, hlast⟩ => ?_) fun _ _ h => h)
  refine .bind (Correspondence.keeping_leads (hrecord _) (fun _ q₆ h₆ => .pure ?_) fun _ _ _ => trivial)
  refine ⟨hstatus, chain, last, ?_, hlast⟩
  rw [h₆, h₅, h₄, h₃, h₂, h₁]

/-- `announce` touches no file. -/
theorem announce_files (henv : env.UsesFiles files) (hsources : sources.LeaveFiles files) (request : Request)
    (p : Session × Recorded σ) {succeeded : Http.Reply → Session × Recorded σ → Prop}
    {failed : Failure → Session × Recorded σ → Prop}
    (ok : ∀ reply q, files q.2.world = files p.2.world ∧ q.2.kept = p.2.kept → succeeded reply q)
    (error : ∀ e q, files q.2.world = files p.2.world ∧ q.2.kept = p.2.kept → failed e q) :
    (announce env.recorded sources.recorded env.record request).Leads p succeeded failed := by
  have hfiles := Correspondence.announce_rel henv.recorded.queries (Correspondence.keeping_recorded_sources hsources)
    (keeping_files_listeners henv) request
  have hkept := Correspondence.announce_rel (Correspondence.keeping_kept_queries env)
    (Correspondence.keeping_kept_sources sources) (Correspondence.keeping_kept_listeners env) request
  exact ((Correspondence.keeping_leads hfiles (fun _ _ h => h) fun _ _ h => h).and
    (Correspondence.keeping_leads hkept (fun _ _ h => h) fun _ _ h => h)).mono ok error

variable (env) in
theorem kept_write (file : String) (body : Http.Body) (r : Recorded σ) :
    ((write env.recorded file body).run.run r).2.kept = r.kept :=
  (Correspondence.write_rel (R := Correspondence.keeping Recorded.kept)
    (Correspondence.keeping_aside_writes (fun _ _ => rfl) env file) body).2 r

theorem kept_removeFile {file : String} {r r' : Recorded σ} {e : FileError}
    (h : env.recorded.removeFile file r = (.error e, r')) : r'.kept = r.kept ++ [file] := by
  obtain ⟨hvalue, rfl⟩ := Prod.mk.inj h
  have hfailed : (env.removeFile file r.world).1.isOk = false := congrArg Except.isOk hvalue
  show r.kept ++ (if (env.removeFile file r.world).1.isOk then [] else [file]) = r.kept ++ [file]
  rw [hfailed, if_neg Bool.false_ne_true]

/-- `receive` puts a body into its file as a whole, or the body is `Lost`. -/
theorem receive_files (henv : env.UsesFiles files) (request : Request) (reply : Http.Reply) (p : Session × Recorded σ) :
    (receive env.recorded request reply).Leads p
      (fun result q => (q.2.sent = p.2.sent ∧ q.2.exchanges = p.2.exchanges) ∧ reply.body.complete = true ∧
        result = outcome reply (.of reply.body.chunks.flatten) ∧ ∃ target,
        FileTree.Writing (files p.2.world) request.filename target reply.body.chunks.flatten (files q.2.world))
      (fun _ q => (q.2.sent = p.2.sent ∧ q.2.exchanges = p.2.exchanges) ∧
        Lost request.filename (files p.2.world) (files q.2.world) (q.2.kept = p.2.kept ++ [request.filename])) := by
  have hsent := (receive_quiet env request reply p).1
  have hexchanges := Correspondence.keeping_runFrom (Correspondence.receive_rel
    (Correspondence.keeping_exchanges_changesAt env request.filename) reply) p
  have hstore := store_files henv.recorded request.filename reply.body p.2
  have hwritten := kept_write env request.filename reply.body p.2
  have hdigest (digest) (h : (store env.recorded request.filename reply.body p.2).1 = .ok digest) := store_digest h
  unfold Leads
  rw [runFrom_receive] at hsent hexchanges ⊢
  generalize store env.recorded request.filename reply.body p.2 = stored at hstore hsent hexchanges hdigest ⊢
  obtain ⟨result, r⟩ := stored
  dsimp only at hsent hexchanges hstore
  refine ⟨fun a q hq => ?_, fun e q hq => ?_⟩
  · cases result with
    | error e => cases hq
    | ok digest =>
      cases hq
      obtain ⟨target, hw, hcomplete⟩ := hstore
      obtain rfl := hdigest digest rfl
      exact ⟨⟨hsent, hexchanges⟩, hcomplete, rfl, target, hw⟩
  · cases result with
    | ok digest => cases hq
    | error e =>
      cases hq
      refine ⟨⟨hsent, hexchanges⟩, hstore.imp fun ⟨e', hremove⟩ => ?_⟩
      rw [kept_removeFile hremove, hwritten]

/-! ## One message -/

theorem code_of_mem_logInNotes {uri : String} {before after : Bool} {notes : List Message}
    (h : LogInNotes uri before after notes) {m : Message} (hm : m ∈ notes) : m.code = Message.Kind.status.code := by
  cases h with
  | earlier => cases hm
  | now =>
    rcases List.mem_pair.1 hm with rfl | rfl <;> rfl

theorem code_of_mem_progress {uri : String} {before after : Bool} {notes : List Message}
    (h : Progress uri before after notes) {m : Message} (hm : m ∈ notes) : m.code = Message.Kind.status.code := by
  cases h with
  | silent => cases hm
  | refused =>
    rw [List.mem_singleton.1 hm]
    rfl
  | stopped h => exact code_of_mem_logInNotes h hm
  | unanswered h =>
    rcases List.mem_append.1 hm with hm | hm
    · exact code_of_mem_logInNotes h hm
    · rw [List.mem_singleton.1 hm]
      rfl

theorem code_announcement (uri : String) (reply : Http.Reply) :
    (announcement uri reply).code = Message.Kind.uriStart.code := Message.code_uriStart _ _ _

section Answers

variable {message : Message} {request : Request} (hrequest : Request.ofMessage message = .ok request)
  {t t' : FileTree} {said : List Message} {exchanges : List (Http.Request × Http.Answer)} {kept : List String}
  {reply : Http.Reply}
  (hannounced : announcement request.uri.text reply ∈ said)
include hrequest hannounced

/-- What is said about a body that was stored is so, whether or not the front end takes the end of it. -/
theorem filesSound_of_stored {last : Http.Request} {target : FileTree.Target}
    (hstatus : reply.status = Http.okStatus) (hlast : exchanges.getLast? = some (last, .reply reply))
    (hw : FileTree.Writing t request.filename target reply.body.chunks.flatten t')
    (hcomplete : reply.body.complete = true)
    (hsaid : ∀ m ∈ said, m.code = Message.Kind.status.code ∨ m = announcement request.uri.text reply ∨
      m = .uriDone request.uri.text request.filename (outcome reply (.of reply.body.chunks.flatten))) :
    FilesSound message t t' said exchanges kept := by
  refine ⟨fun done hdone hcode => ?_, fun h => ?_, fun ⟨m, hm, hcode⟩ => ?_, fun place hplace => ?_,
    hw.elsewhere.workingDirectory, hw.elsewhere.sealed⟩
  · rcases hsaid done hdone with h | rfl | rfl
    · rw [h] at hcode
      cases hcode
    · rw [code_announcement] at hcode
      cases hcode
    · obtain ⟨hmd5, hmd5sum, hsha256⟩ := Message.hashes_uriDone request.uri.text request.filename
        (outcome reply (.of reply.body.chunks.flatten))
      refine ⟨request, last, reply, hrequest, hlast, hw.read_eq, Message.size_uriDone _ _ _, hmd5, hmd5sum, hsha256,
        fun start hstart hcode' size hsize => ?_⟩
      rcases hsaid start hstart with h | rfl | rfl
      · rw [h] at hcode'
        cases hcode'
      · rw [announcement, Message.size_uriStart, Option.map_eq_some_iff] at hsize
        obtain ⟨n, hn, rfl⟩ := hsize
        rw [Message.size_uriDone, ← Http.Reply.length_content hstatus hcomplete hn]
        rfl
      · rw [Message.code_uriDone] at hcode'
        cases hcode'
  · exact (h _ hannounced (code_announcement _ _)).elim
  · rcases hsaid m hm with h | rfl | rfl
    · rw [h] at hcode
      cases hcode
    · rw [code_announcement] at hcode
      cases hcode
    · rw [Message.code_uriDone] at hcode
      cases hcode
  · exact hw.elsewhere.node place fun e => hplace ⟨request, target, hrequest, hw.located, e⟩

/-- What is said about a body that was `Lost` is so. -/
theorem filesSound_of_lost (hlost : Lost request.filename t t' (request.filename ∈ kept))
    (hsaid : ∀ m ∈ said, m.code ≠ Message.Kind.uriDone.code) : FilesSound message t t' said exchanges kept := by
  rcases hlost with rfl | ⟨target, hlocate, hoff, hgone⟩
  · exact .of_eq hsaid
  refine ⟨fun done hdone hcode => (hsaid done hdone hcode).elim, fun h => ?_, fun _ place => ?_, fun place hplace => ?_,
    hoff.workingDirectory, hoff.sealed⟩
  · exact (h _ hannounced (code_announcement _ _)).elim
  · by_cases hplace : place = target.place
    · rw [hplace]
      exact .inr ⟨⟨request, target, hrequest, hlocate, rfl⟩, hgone.imp_right fun hkept => ⟨request, hrequest, hkept⟩⟩
    · exact .inl (hoff.node place hplace)
  · exact hoff.node place fun e => hplace ⟨request, target, hrequest, hlocate, e⟩

end Answers

/-- The front end has heard what was `said`, with the final answer or without it. -/
def Heard (said : List Message) (answer : Message) (heard : List Message) : Prop :=
  heard = said ∨ heard = said ++ [answer]

theorem Heard.forall_mem {said heard : List Message} {answer : Message} (h : Heard said answer heard)
    {P : Message → Prop} (hsaid : ∀ m ∈ said, P m) (hanswer : P answer) : ∀ m ∈ heard, P m := by
  rcases h with rfl | rfl
  · exact hsaid
  · exact List.forall_mem_append.2 ⟨hsaid, List.forall_mem_singleton.2 hanswer⟩

theorem Heard.mem {said heard : List Message} {answer m : Message} (h : Heard said answer heard) (hm : m ∈ said) :
    m ∈ heard := by
  rcases h with rfl | rfl
  · exact hm
  · exact List.mem_append_left _ hm

theorem code_ne_uriDone {uri : String} {reply : Http.Reply} {m : Message}
    (h : m.code = Message.Kind.status.code ∨ m = announcement uri reply) : m.code ≠ Message.Kind.uriDone.code := by
  rcases h with h | rfl
  · rw [h]
    decide
  · rw [code_announcement]
    decide

theorem code_uriFailure_ne_uriDone (uri : Option String) (failure : Failure) :
    (Message.uriFailure uri failure).code ≠ Message.Kind.uriDone.code := by
  rw [Message.code_uriFailure]
  decide

/-- Whatever of its messages `serve` gets through to the front end, what was heard is so. -/
theorem serve_files (henv : env.UsesFiles files) (hsources : sources.LeaveFiles files) {message : Message}
    {request : Request} (hrequest : Request.ofMessage message = .ok request) (p : Session × Recorded σ) :
    (serve env.recorded sources.recorded request env.record).Leads p
      (fun answer q => ∃ said, q.2.sent = p.2.sent ++ said ∧ ∀ heard, Heard said answer heard →
        FilesSound message (files p.2.world) (files q.2.world) heard (q.2.exchanges.drop p.2.exchanges.length)
          (q.2.kept.drop p.2.kept.length))
      (fun _ _ => False) := by
  unfold serve
  refine .bind (.outcome ?_)
  unfold fetch
  have hannounce := (announce_sent (Correspondence.keeping_sent_sources sources) request p).and
    ((announce_exchanges env request p).and (announce_files henv hsources request p (fun _ _ h => h) fun _ _ h => h))
  refine .bind (hannounce.mono
    (fun reply q ⟨⟨notes, hnotes, hs⟩, ⟨hstatus, chain, last, hchain, hlast⟩, hfiles, hkept⟩ => ?_)
    fun e q ⟨⟨notes, hnotes, hs⟩, _, hfiles, _⟩ => ?_)
  · have hdrop : (p.2.exchanges ++ chain).drop p.2.exchanges.length = chain := List.drop_left
    have hcode : ∀ m ∈ notes ++ [waiting request.uri.text, announcement request.uri.text reply],
        m.code = Message.Kind.status.code ∨ m = announcement request.uri.text reply := by
      refine List.forall_mem_append.2 ⟨fun m hm => .inl (code_of_mem_logInNotes hnotes hm), ?_⟩
      exact List.forall_mem_cons.2 ⟨.inl rfl, List.forall_mem_singleton.2 (.inr rfl)⟩
    have hannounced : announcement request.uri.text reply ∈
        notes ++ [waiting request.uri.text, announcement request.uri.text reply] :=
      List.mem_append_right _ (List.mem_cons_of_mem _ List.mem_cons_self)
    refine (receive_files henv request reply q).mono
      (fun result r ⟨⟨hsent, hexchanges⟩, hcomplete, hresult, target, hw⟩ => ?_)
      fun e r ⟨⟨hsent, hexchanges⟩, hlost⟩ => ?_
    · refine .pure ⟨_, hsent.trans hs, fun heard hheard => ?_⟩
      rw [hexchanges, hchain, hdrop, ← hfiles]
      refine filesSound_of_stored hrequest (hheard.mem hannounced) hstatus hlast hw hcomplete
        (hheard.forall_mem (fun m hm => (hcode m hm).imp_right .inl) ?_)
      rw [hresult]
      exact .inr (.inr rfl)
    · refine .pure ⟨_, hsent.trans hs, fun heard hheard => ?_⟩
      rw [← hfiles]
      refine filesSound_of_lost hrequest (hheard.mem hannounced) (hlost.imp fun hkept' => ?_)
        (hheard.forall_mem (fun m hm => code_ne_uriDone (hcode m hm)) (code_uriFailure_ne_uriDone _ _))
      rw [hkept', hkept, List.drop_left]
      exact List.mem_singleton_self _
  · refine .pure ⟨notes, hs, fun heard hheard => ?_⟩
    rw [hfiles]
    refine .of_eq (hheard.forall_mem (fun m hm => ?_) (code_uriFailure_ne_uriDone _ _))
    rw [code_of_mem_progress hnotes hm]
    decide

theorem record_files (henv : env.UsesFiles files) (message : Message) (p : Session × Recorded σ) :
    (ofEnvironment (env.record message)).Leads p
      (fun _ q => q.2.sent = p.2.sent ++ [message] ∧ (q.2.exchanges, q.2.kept) = (p.2.exchanges, p.2.kept) ∧
        files q.2.world = files p.2.world)
      (fun _ q => q.2.sent = p.2.sent ∧ (q.2.exchanges, q.2.kept) = (p.2.exchanges, p.2.kept) ∧
        files q.2.world = files p.2.world) := by
  have hrest := (Correspondence.keeping fun r : Recorded σ => (r.exchanges, r.kept)).session_ofEnvironment
    (Correspondence.keeping_aside_listeners (fun _ _ _ => rfl) env message)
  have hfiles := (Correspondence.keeping fun r : Recorded σ => files r.world).session_ofEnvironment
    (keeping_files_listeners henv message)
  exact (record_leads message (fun _ h => h) fun _ _ h => h).and
    ((Correspondence.keeping_leads hrest (fun _ _ h => h) fun _ _ h => h).and
      (Correspondence.keeping_leads hfiles (fun _ _ h => h) fun _ _ h => h))

theorem visit_files (henv : env.UsesFiles files) (hsources : sources.LeaveFiles files) (message : Message)
    (p : Session × Recorded σ) :
    let v := visit env.recorded sources.recorded env.record message p
    FilesSound message (files p.2.world) (files v.after.2.world) (v.after.2.sent.drop p.2.sent.length)
      (v.after.2.exchanges.drop p.2.exchanges.length) (v.after.2.kept.drop p.2.kept.length) := by
  refine Leads.either (P := fun q : Session × Recorded σ => FilesSound message (files p.2.world) (files q.2.world)
    (q.2.sent.drop p.2.sent.length) (q.2.exchanges.drop p.2.exchanges.length) (q.2.kept.drop p.2.kept.length)) ?_
  unfold acquire
  cases hrequest : Request.ofMessage message with
  | error failure =>
    refine (record_files henv _ p).mono (fun _ q ⟨hs, _, hf⟩ => ?_) fun _ q ⟨hs, _, hf⟩ => ?_
    · rw [hs, hf, List.drop_left]
      refine .of_eq fun m hm => ?_
      rw [List.mem_singleton.1 hm]
      exact code_uriFailure_ne_uriDone _ _
    · rw [hs, hf, List.drop_length]
      exact .of_eq fun m hm => absurd hm List.not_mem_nil
  | ok request =>
    refine .bind ((serve_files henv hsources hrequest p).mono (fun answer q ⟨said, hs, hsound⟩ => ?_)
      fun _ _ h => h.elim)
    refine (record_files henv answer q).mono (fun _ r ⟨hs', hrest, hf⟩ => ?_) fun _ r ⟨hs', hrest, hf⟩ => ?_
    · obtain ⟨hexchanges, hkept⟩ := Prod.mk.inj hrest
      rw [hs', hexchanges, hkept, hf, hs, List.append_assoc, List.drop_left]
      exact hsound _ (.inr rfl)
    · obtain ⟨hexchanges, hkept⟩ := Prod.mk.inj hrest
      rw [hs', hexchanges, hkept, hf, hs, List.drop_left]
      exact hsound _ (.inl rfl)

end Recorded

def Visit.said {σ : Type} (v : Visit (Recorded σ)) : List Message := v.after.2.sent.drop v.before.2.sent.length

def Visit.exchanges {σ : Type} (v : Visit (Recorded σ)) : List (Http.Request × Http.Answer) :=
  v.after.2.exchanges.drop v.before.2.exchanges.length

def Visit.kept {σ : Type} (v : Visit (Recorded σ)) : List String := v.after.2.kept.drop v.before.2.kept.length

namespace CutShort

/-- A server that knows this system. Its documents have two bytes, but only that of `/a` arrives as a whole. -/
def reply (_ : List Http.Request) (r : Http.Request) : Http.Answer :=
  let struct (members : List (String × String)) : String :=
    "<value><struct>" ++ String.join (members.map fun p =>
      "<member><name>" ++ p.1 ++ "</name><value>" ++ p.2 ++ "</value></member>") ++ "</struct></value>"
  let response (value : String) : Http.Reply :=
    let body := Text.toUtf8 ("<methodResponse><params><param>" ++ value ++ "</param>")
    ⟨200, [("content-type", Text.toUtf8 "text/xml; charset=us-ascii")], .sized body.length, [body]⟩
  if r.verb = .get then .reply ⟨200, [], .sized 2, if r.url.pathText = "/a" then [[72], [], [105]] else [[72]]⟩
  else if r.body = Text.toUtf8 (XmlRpc.call "up2date.login" ["ID-1"]) then
    .reply (response (struct (Credentials.required.map fun name => (name, "1"))))
  else .reply (response ("<value><array><data>" ++ struct [("label", "base")] ++ "</data></array></value>"))

/-- There is a file in a directory from which nothing can be removed. -/
def world : World :=
  let files := FileTree.empty.withFile ["etc", "sysconfig", "rhn", "systemid"] (Text.toUtf8 "ID-1")
  ⟨{ files.withFile ["spool", "b"] [1] with «sealed» := [["spool"]] }, fun _ => none, reply, [], .unlimited⟩

def server : Server :=
  ⟨⟨"http", some ⟨"", none, .name "h", none⟩, .segments ["XMLRPC"], false, none, none⟩, false, [],
    Server.standardSystemIdFile, none⟩

def sources : Sources (StateM World) :=
  .ofEnvironment World.environment (.xmlRpc Http.contentText World.environment) (pure Sources.noConfiguration)

def messages : List Message := ["/a", "/b", "/spool/b"].map fun path => .acquire ("spacewalk://h" ++ path) path

def input : Bytes := messages.flatMap fun m => Text.toUtf8 m.wire

end CutShort

end Method

end SpacewalkAcquire
