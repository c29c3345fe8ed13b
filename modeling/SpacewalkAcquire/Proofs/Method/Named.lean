import SpacewalkAcquire.Proofs.Method.Framing
import SpacewalkAcquire.Proofs.Method.Files
import SpacewalkAcquire.Proofs.Url.Normal

/-!
# The URIs that answers carry

* `answerUri message` : the URI in the answers to a message, which is not always the one that the message carries;
* `said_uri` : all that is said about a message carries it, whether or not the front end takes the last of it;
* `sent_eq_flatMap_said` : a run says the capabilities, and what it says about each message;
* `run_naming` : in which runs the front end hears its own URI;
* `run_naming_normalized` : one in which it does not.
-/

namespace SpacewalkAcquire

/-- `request.uri` is read from the field `URI`. -/
theorem Request.read_uri {message : Message} {request : Request} {uri : String} (huri : message.field? "URI" = some uri)
    (h : Request.ofMessage message = .ok request) : Url.read uri = .ok request.uri := by
  unfold Request.ofMessage at h
  split at h
  · cases h
  · rw [bind_eq_ok] at h
    obtain ⟨raw, hraw, h⟩ := h
    obtain rfl : uri = raw := Option.some.inj (huri.symm.trans (Request.field?_of_required hraw))
    split at h
    · next hread =>
      rw [bind_eq_ok] at h
      obtain ⟨_, hpure, h⟩ := h
      cases hpure
      rw [bind_eq_ok] at h
      obtain ⟨filename, -, h⟩ := h
      cases h
      exact hread
    · cases h

namespace Message

theorem uri_status (uri note : String) : (status uri note).field? "URI" = some uri := by
  simp [status, field?_set]

theorem uri_uriStart (uri : String) (size : Option Nat) (lastModified : Option String) :
    (uriStart uri size lastModified).field? "URI" = some uri := by
  simp [uriStart, field?_set, field?_setIfSome]

theorem uri_uriDone (uri filename : String) (outcome : Outcome) :
    (uriDone uri filename outcome).field? "URI" = some uri := by
  simp [uriDone, field?_set, field?_setIfSome]

theorem uri_uriFailure (uri : Option String) (failure : Failure) : (uriFailure uri failure).field? "URI" = uri := by
  simp [uriFailure, field?_set, field?_setIfSome, field?_ofKind]

end Message

namespace Method

open SessionT Transfer

/-- The field `URI` in the answers to a message: as its request writes it, or as the message carries it if it is no
request. -/
def answerUri (message : Message) : Option String :=
  match Request.ofMessage message with
  | .ok request => some request.uri.text
  | .error _ => message.field? "URI"

theorem answerUri_of_ok {message : Message} {request : Request} (h : Request.ofMessage message = .ok request) :
    answerUri message = some request.uri.text := by
  rw [answerUri, h]

theorem answerUri_eq_iff {message : Message} {uri : String} (huri : message.field? "URI" = some uri) :
    answerUri message = some uri ↔ ∀ request, Request.ofMessage message = .ok request → request.uri.text = uri := by
  unfold answerUri
  split
  · next request hrequest =>
    rw [Option.some.injEq, hrequest]
    refine ⟨fun h request' h' => ?_, fun h => h request rfl⟩
    cases h'
    exact h
  · next hrequest =>
    rw [hrequest]
    exact ⟨fun _ _ h => (nomatch h), fun _ => huri⟩

section Said

variable {message : Message} {before after : Bool} {said : List Message}

theorem uri_logInNotes {uri : String} (h : LogInNotes uri before after said) :
    ∀ m ∈ said, m.field? "URI" = some uri := by
  cases h with
  | earlier => exact fun _ hm => absurd hm List.not_mem_nil
  | now => exact List.forall_mem_cons.2 ⟨Message.uri_status _ _, List.forall_mem_singleton.2 (Message.uri_status _ _)⟩

theorem uri_progress {uri : String} (h : Progress uri before after said) : ∀ m ∈ said, m.field? "URI" = some uri := by
  cases h with
  | silent => exact fun _ hm => absurd hm List.not_mem_nil
  | refused => exact List.forall_mem_singleton.2 (Message.uri_status _ _)
  | stopped h => exact uri_logInNotes h
  | unanswered h =>
    exact List.forall_mem_append.2 ⟨uri_logInNotes h, List.forall_mem_singleton.2 (Message.uri_status _ _)⟩

theorem uri_announced {uri : String} {notes : List Message} (h : LogInNotes uri before after notes)
    (reply : Http.Reply) : ∀ m ∈ notes ++ [waiting uri, announcement uri reply], m.field? "URI" = some uri :=
  List.forall_mem_append.2 ⟨uri_logInNotes h, List.forall_mem_cons.2
    ⟨Message.uri_status _ _, List.forall_mem_singleton.2 (Message.uri_uriStart _ _ _)⟩⟩

/-- All messages of a `Block` carry the `answerUri`. -/
theorem Block.uri (h : Block message before after said) : ∀ m ∈ said, m.field? "URI" = answerUri message := by
  have hanswered {uri : String} {notes : List Message} {reply : Http.Reply} {answer : Message}
      (hnotes : LogInNotes uri before after notes) (hanswer : answer.field? "URI" = some uri) :
      ∀ m ∈ notes ++ [waiting uri, announcement uri reply, answer], m.field? "URI" = some uri := by
    rw [show notes ++ [waiting uri, announcement uri reply, answer] =
      (notes ++ [waiting uri, announcement uri reply]) ++ [answer] by simp]
    exact List.forall_mem_append.2 ⟨uri_announced hnotes reply, List.forall_mem_singleton.2 hanswer⟩
  cases h with
  | rejected hrequest _ =>
    rw [answerUri, hrequest]
    exact List.forall_mem_singleton.2 (Message.uri_uriFailure _ _)
  | failed failure hrequest hnotes =>
    rw [answerUri_of_ok hrequest]
    exact List.forall_mem_append.2 ⟨uri_progress hnotes, List.forall_mem_singleton.2 (Message.uri_uriFailure _ _)⟩
  | notStored reply failure hrequest hnotes =>
    rw [answerUri_of_ok hrequest]
    exact hanswered hnotes (Message.uri_uriFailure _ _)
  | stored reply hrequest hnotes =>
    rw [answerUri_of_ok hrequest]
    exact hanswered hnotes (Message.uri_uriDone _ _ _)

theorem CutOff.uri (h : CutOff message before after said) : ∀ m ∈ said, m.field? "URI" = answerUri message := by
  cases h with
  | rejected => exact fun _ hm => absurd hm List.not_mem_nil
  | failed hrequest hnotes =>
    rw [answerUri_of_ok hrequest]
    exact uri_progress hnotes
  | announced reply hrequest hnotes =>
    rw [answerUri_of_ok hrequest]
    exact uri_announced hnotes reply

end Said

section Run

variable {σ : Type} {env : Environment (StateM σ)} {sources : Sources (StateM (Recorded σ))}

variable (env) in
/-- All that is said during a visit carries the `answerUri`, and what was said before stays said. -/
theorem said_uri (h : (Correspondence.keeping Recorded.sent).Sources sources sources) (message : Message)
    (p : Session × Recorded σ) :
    let v := visit env.recorded sources env.record message p
    v.after.2.sent = p.2.sent ++ v.said ∧ ∀ m ∈ v.said, m.field? "URI" = answerUri message := by
  have hsaid {said : List Message} {q : Session × Recorded σ} (huri : ∀ m ∈ said, m.field? "URI" = answerUri message)
      (hsent : q.2.sent = p.2.sent ++ said) : q.2.sent = p.2.sent ++ q.2.sent.drop p.2.sent.length ∧
      ∀ m ∈ q.2.sent.drop p.2.sent.length, m.field? "URI" = answerUri message := by
    rw [hsent, List.drop_left]
    exact ⟨rfl, huri⟩
  refine Leads.either (P := fun q : Session × Recorded σ => q.2.sent = p.2.sent ++ q.2.sent.drop p.2.sent.length ∧
    ∀ m ∈ q.2.sent.drop p.2.sent.length, m.field? "URI" = answerUri message) ?_
  exact (acquire_sent h message p).mono (fun _ q ⟨said, hblock, hsent⟩ => hsaid hblock.uri hsent)
    fun _ q ⟨said, hcut, hsent⟩ => hsaid hcut.uri hsent

theorem sent_eq_flatMap_said {p : Session × Recorded σ} {vs : List (Visit (Recorded σ))} (hchained : Chained p vs)
    (h : ∀ v ∈ vs, v.after.2.sent = v.before.2.sent ++ v.said) :
    (standing p vs).2.sent = p.2.sent ++ vs.flatMap Visit.said := by
  induction vs generalizing p with
  | nil => exact (List.append_nil _).symm
  | cons v rest ih =>
    obtain ⟨hbefore, hrest⟩ := hchained
    have hv := h v List.mem_cons_self
    rw [hbefore] at hv
    show (standing v.after rest).2.sent = _
    rw [ih hrest fun w hw => h w (List.mem_cons_of_mem _ hw), hv, List.flatMap_cons, List.append_assoc]

variable (env) in
/-- `start` says the capabilities, or nothing if it fails. -/
theorem sent_start (h : (Correspondence.keeping Recorded.sent).Sources sources sources) (s : Session) (w : σ) :
    let begun := ((start env.recorded sources env.record).runFrom (s, .new w)).2
    begun.2.sent = [] ∨ begun.2.sent = [.capabilities] := by
  have hquiet := Correspondence.keeping_runFrom (Correspondence.ensureConnection_rel h) (s, Recorded.new w)
  rw [runFrom_start]
  generalize (Session.ensureConnection sources).runFrom (s, Recorded.new w) = connected at hquiet ⊢
  obtain ⟨_ | _, q⟩ := connected
  · exact .inl hquiet
  · change q.2.sent = [] at hquiet
    dsimp only
    unfold Environment.record
    rcases env.send .capabilities q.2.world with ⟨_ | _, w'⟩
    · exact .inl hquiet
    · refine .inr ?_
      rw [hquiet]
      rfl

theorem said_runVisits {sources : Sources (StateM σ)} {items : List (Except Failure Message)} {p : Session × Recorded σ}
    {v : Visit (Recorded σ)} (hv : v ∈ runVisits env.recorded sources.recorded env.record items p) :
    v.after.2.sent = v.before.2.sent ++ v.said ∧ ∀ m ∈ v.said, m.field? "URI" = answerUri v.message := by
  have hsaid := said_uri env (Correspondence.keeping_sent_sources sources) v.message v.before
  rw [← eq_visit_of_mem_runVisits hv] at hsaid
  exact hsaid

/-- Apart from `capabilities`, a run says what it says during its visits. -/
theorem exists_transcript_eq (env : Environment (StateM σ)) (sources : Sources (StateM σ))
    (items : List (Except Failure Message)) (s : Session) (w : σ) :
    ∃ greeting, (greeting = [] ∨ greeting = [.capabilities]) ∧ transcript env sources items (s, w) =
      greeting ++ (runVisits env.recorded sources.recorded env.record items (s, .new w)).flatMap Visit.said := by
  obtain ⟨hchained, hend⟩ := run_visits env.recorded sources.recorded env.record items (s, .new w)
  refine ⟨_, sent_start env (Correspondence.keeping_sent_sources sources) s w, ?_⟩
  rw [transcript, hend]
  exact sent_eq_flatMap_said hchained fun v hv => (said_runVisits hv).1

end Run

/-- In every run, whatever comes in, and however files, server and front end behave: apart from the capabilities a run
says what it says during its visits, and all that it says during a visit carries `answerUri`. So the front end hears
its own URI there, character for character, exactly if the message is no request or its URI is written as it is read.
For a URI with a plain host and without query and fragment this is so exactly if the pieces of its path are normal. -/
theorem run_naming {σ : Type} (env : Environment (StateM σ)) (sources : Sources (StateM σ)) (ending : Message.Ending)
    (input : Bytes) (s : Session) (w : σ) :
    let items := Message.readAll ending input
    let vs := runVisits env.recorded sources.recorded env.record items (s, .new w)
    (∃ greeting, (greeting = [] ∨ greeting = [.capabilities]) ∧
      transcript env sources items (s, w) = greeting ++ vs.flatMap Visit.said) ∧
    ∀ v ∈ vs, (∀ m ∈ v.said, m.field? "URI" = answerUri v.message) ∧
      ∀ uri, v.message.field? "URI" = some uri →
        ((∀ m ∈ v.said, m.field? "URI" = some uri) ↔
          v.said = [] ∨ ∀ request, Request.ofMessage v.message = .ok request → request.uri.text = uri) ∧
        ∀ host path, Host.IsPlain host → (∀ c ∈ path, Url.endsPath c = false) →
          uri = String.ofList ("spacewalk://".toList ++ host ++ '/' :: path) →
          ((∀ m ∈ v.said, m.field? "URI" = some uri) ↔
            v.said = [] ∨ (∃ failure, Request.ofMessage v.message = .error failure) ∨
              ∀ piece ∈ Text.splitOn '/' path, Path.IsNormal piece) := by
  intro items vs
  refine ⟨exists_transcript_eq env sources items s w, fun v hv => ⟨(said_runVisits hv).2, fun uri huri => ?_⟩⟩
  have hnamed : (∀ m ∈ v.said, m.field? "URI" = some uri) ↔
      v.said = [] ∨ ∀ request, Request.ofMessage v.message = .ok request → request.uri.text = uri := by
    rw [← answerUri_eq_iff huri]
    by_cases hempty : v.said = []
    · rw [hempty]
      exact ⟨fun _ => .inl rfl, fun _ _ hm => absurd hm List.not_mem_nil⟩
    · obtain ⟨m, hm⟩ := List.exists_mem_of_ne_nil _ hempty
      refine ⟨fun h => .inr (((said_runVisits hv).2 m hm).symm.trans (h m hm)), fun h m' hm' => ?_⟩
      exact ((said_runVisits hv).2 m' hm').trans (h.resolve_left hempty)
  refine ⟨hnamed, fun host path hhost hpath hsent => hnamed.trans (or_congr_right ?_)⟩
  obtain ⟨url, hread, htext⟩ := Url.text_read_eq_iff hhost hpath
  rw [← hsent] at hread htext
  cases hrequest : Request.ofMessage v.message with
  | error failure => exact ⟨fun _ => .inl ⟨failure, rfl⟩, fun _ _ h => (nomatch h)⟩
  | ok request =>
    obtain rfl : url = request.uri := Except.ok.inj (hread.symm.trans (Request.read_uri huri hrequest))
    rw [← htext]
    refine ⟨fun h => .inr (h request rfl), fun h request' h' => ?_⟩
    cases h'
    exact h.resolve_left fun ⟨_, hfailure⟩ => (nomatch hfailure)

/-- The front end asks for a URI with a dot segment, and nothing that it hears carries this URI. -/
theorem run_naming_normalized :
    let base : Url := ⟨"http", some ⟨"", none, .name "h", none⟩, .segments ["XMLRPC"], false, none, none⟩
    let sources : Sources (StateM World) :=
      ⟨pure (.ok ⟨base, false, [], Server.standardSystemIdFile, none⟩),
        ⟨fun _ => pure (.ok none), fun _ => pure (.ok [])⟩, fun _ => pure (.ok ⟨none, none⟩)⟩
    let items := Message.readAll .closed
      (Text.toUtf8 "600 URI Acquire\nURI: spacewalk://h/./Release\nFilename: Release\n\n")
    let w : World := ⟨.empty, fun _ => none, fun _ _ => .unreachable "", [], .unlimited⟩
    let vs := runVisits World.environment.recorded sources.recorded World.environment.record items (.new, .new w)
    ¬ ∀ v ∈ vs, ∀ uri, v.message.field? "URI" = some uri → uri ≠ "" → ∀ m ∈ v.said, m.field? "URI" = some uri := by
  intro base sources items w vs h
  let request := Message.acquire "spacewalk://h/./Release" "Release"
  have hitems : items = [.ok request] := by
    have hwire : request.wire = "600 URI Acquire\nURI: spacewalk://h/./Release\nFilename: Release\n\n" := by
      decide +kernel
    show Message.readAll .closed (Text.toUtf8 _) = _
    rw [← hwire]
    exact Message.readAll_wire (Message.wireSafe_acquire ⟨by decide, rfl⟩ ⟨by decide, rfl⟩)
  have hvs : vs.map (fun v => (v.message, v.said)) = [(request,
      [.status "spacewalk://h/Release" "Logging into the spacewalk server",
        .uriFailure (some "spacewalk://h/Release") .notRegistered])] := by
    show (runVisits _ _ _ items _).map _ = _
    rw [hitems]
    decide +kernel
  have hmem : (request, _) ∈ vs.map (fun v => (v.message, v.said)) := hvs ▸ List.mem_cons_self
  obtain ⟨v, hv, heq⟩ := List.mem_map.1 hmem
  rw [Prod.mk.injEq] at heq
  have hfirst := h v hv "spacewalk://h/./Release" (by rw [heq.1]; rfl) (by decide)
    (.status "spacewalk://h/Release" "Logging into the spacewalk server") (by rw [heq.2]; exact List.mem_cons_self)
  rw [Message.uri_status, Option.some.injEq] at hfirst
  exact absurd hfirst (by decide)

end Method

end SpacewalkAcquire
