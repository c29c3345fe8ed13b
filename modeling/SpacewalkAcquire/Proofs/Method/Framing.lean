import SpacewalkAcquire.Proofs.Message.Sendable
import SpacewalkAcquire.Proofs.Method.Grammar
import SpacewalkAcquire.Proofs.Url.OneLine
import SpacewalkAcquire.World

/-!
# The output of a run, read back

* `Block.sendable` : an answer to a message that was read is sendable;
* `sendable_transcript` : so is all that a run says;
* `run_framing` : what a run writes is read back as what it says, exactly if no report of a failure leaves its line;
* `run_framing_fault` : the report of a server's fault can leave its line.
-/

namespace SpacewalkAcquire

theorem Bindings.mem_of_get? {κ ν : Type} [DecidableEq κ] {m : Bindings κ ν} {key : κ} {value : ν}
    (h : m.get? key = some value) : (key, value) ∈ m := by
  induction m with
  | nil => cases h
  | cons p rest ih =>
    rw [Bindings.get?] at h
    split at h
    · next hkey =>
      cases h
      rw [← hkey]
      exact List.mem_cons_self
    · exact List.mem_cons_of_mem _ (ih h)

theorem Message.WireSafe.field_line {m : Message} (h : m.WireSafe) {name value : String}
    (hf : m.field? name = some value) : '\n' ∉ value.toList := (h.2 _ (Bindings.mem_of_get? hf)).2.2.1

theorem hexDigit_ne_lineFeed (n : Nat) : hexDigit n ≠ '\n' := by
  unfold hexDigit
  split <;> exact Text.ofNat_ne_lineFeed (by omega)

theorem lineFeed_not_mem_hexText (bytes : Bytes) : '\n' ∉ (hexText bytes).toList := by
  rw [hexText, String.toList_ofList]
  intro hm
  obtain ⟨b, -, hm⟩ := List.mem_flatMap.1 hm
  rcases List.mem_pair.1 hm with hm | hm <;> exact hexDigit_ne_lineFeed _ hm.symm

theorem Http.Reply.lineFeed_not_mem_textHeader {reply : Http.Reply} {name value : String}
    (h : reply.textHeader? name = some value) : '\n' ∉ value.toList := by
  unfold Http.Reply.textHeader? at h
  simp only [Option.bind_eq_bind, Option.bind_eq_some_iff] at h
  obtain ⟨bytes, -, h⟩ := h
  split at h
  · next hall =>
    have hbytes := Text.ofUtf8?_eq_some_iff.1 h
    rw [← Text.lineFeed_mem_toUtf8_iff]
    intro hm
    rw [hbytes, List.all_eq_true] at hall
    exact absurd (hall 10 hm) (by decide)
  · cases h

theorem Request.field?_of_required {m : Message} {name value : String} (h : Request.required m name = .ok value) :
    m.field? name = some value := by
  unfold Request.required Request.nonEmpty? at h
  split at h
  · next hv =>
    cases h
    exact (Option.filter_eq_some_iff.1 hv).1
  · cases h

/-- The URI and the filename of a message that was read are on one line. -/
theorem Request.lines_of_ofMessage {message : Message} {request : Request} (hm : message.WireSafe)
    (h : Request.ofMessage message = .ok request) : '\n' ∉ request.uri.text.toList ∧ '\n' ∉ request.filename.toList := by
  unfold Request.ofMessage at h
  split at h
  · cases h
  · rw [bind_eq_ok] at h
    obtain ⟨raw, -, h⟩ := h
    split at h
    · next uri huri =>
      rw [bind_eq_ok] at h
      obtain ⟨uri', huri', h⟩ := h
      cases huri'
      rw [bind_eq_ok] at h
      obtain ⟨filename, hfilename, h⟩ := h
      cases h
      exact ⟨(Url.oneLine_read huri).text, hm.field_line (Request.field?_of_required hfilename)⟩
    · cases h

namespace Method

open Transfer Message

section Block

variable {uri : String} (huri : '\n' ∉ uri.toList) {before after : Bool} {said : List Message}
include huri

theorem sendable_loggingIn : (loggingIn uri).Sendable := sendable_status huri (by decide)

theorem sendable_loggedIn : (loggedIn uri).Sendable := sendable_status huri (by decide)

theorem sendable_waiting : (waiting uri).Sendable := sendable_status huri (by decide)

theorem sendable_announcement (reply : Http.Reply) : (announcement uri reply).Sendable :=
  sendable_uriStart huri _ fun _ hv => reply.lineFeed_not_mem_textHeader hv

theorem sendable_logInNotes (h : LogInNotes uri before after said) : ∀ m ∈ said, m.Sendable := by
  cases h with
  | earlier => exact fun _ hm => absurd hm List.not_mem_nil
  | now =>
    exact List.forall_mem_cons.2 ⟨sendable_loggingIn huri, List.forall_mem_singleton.2 (sendable_loggedIn huri)⟩

theorem sendable_progress (h : Progress uri before after said) : ∀ m ∈ said, m.Sendable := by
  cases h with
  | silent => exact fun _ hm => absurd hm List.not_mem_nil
  | refused => exact List.forall_mem_singleton.2 (sendable_loggingIn huri)
  | stopped h => exact sendable_logInNotes huri h
  | unanswered h =>
    exact List.forall_mem_append.2 ⟨sendable_logInNotes huri h, List.forall_mem_singleton.2 (sendable_waiting huri)⟩

end Block

/-- All messages of a `Block` are `Sendable`. -/
theorem Block.sendable {message : Message} {before after : Bool} {said : List Message} (hm : message.WireSafe)
    (h : Block message before after said) : ∀ m ∈ said, m.Sendable := by
  cases h with
  | rejected _ _ =>
    exact List.forall_mem_singleton.2 (sendable_uriFailure (fun _ hv => hm.field_line hv) _)
  | failed failure hrequest hnotes =>
    obtain ⟨huri, -⟩ := Request.lines_of_ofMessage hm hrequest
    refine List.forall_mem_append.2 ⟨sendable_progress huri hnotes, List.forall_mem_singleton.2 ?_⟩
    exact sendable_uriFailure (fun _ hv => Option.some.inj hv ▸ huri) failure
  | notStored reply failure hrequest hnotes =>
    obtain ⟨huri, -⟩ := Request.lines_of_ofMessage hm hrequest
    refine List.forall_mem_append.2 ⟨sendable_logInNotes huri hnotes, List.forall_mem_cons.2 ⟨sendable_waiting huri, ?_⟩⟩
    refine List.forall_mem_cons.2 ⟨sendable_announcement huri reply, List.forall_mem_singleton.2 ?_⟩
    exact sendable_uriFailure (fun _ hv => Option.some.inj hv ▸ huri) failure
  | stored reply hrequest hnotes =>
    obtain ⟨huri, hfilename⟩ := Request.lines_of_ofMessage hm hrequest
    refine List.forall_mem_append.2 ⟨sendable_logInNotes huri hnotes, List.forall_mem_cons.2 ⟨sendable_waiting huri, ?_⟩⟩
    refine List.forall_mem_cons.2 ⟨sendable_announcement huri reply, List.forall_mem_singleton.2 ?_⟩
    exact sendable_uriDone huri hfilename (fun _ hv => reply.lineFeed_not_mem_textHeader hv)
      (lineFeed_not_mem_hexText _) (lineFeed_not_mem_hexText _)

theorem mem_of_mem_requests {items : List (Except Failure Message)} {message : Message} (h : message ∈ requests items) :
    .ok message ∈ items := by
  fun_induction requests items with
  | case1 first rest hcode ih =>
    rcases List.mem_cons.1 h with rfl | h
    · exact List.mem_cons_self
    · exact List.mem_cons_of_mem _ (ih h)
  | case2 => cases h
  | case3 => cases h

/-- All messages of a `transcript` are `Sendable`. -/
theorem sendable_transcript {σ : Type} (env : Environment (StateM σ)) (sources : Sources (StateM σ))
    (ending : Message.Ending) (input : Bytes) (s : Session) (w : σ) :
    ∀ m ∈ transcript env.piped sources.piped (readAll ending input) (s, .new w), m.Sendable := by
  have hrun := run_transcript env sources (readAll ending input) s w
  dsimp only at hrun
  split at hrun
  · rw [hrun.1]
    exact fun _ hm => absurd hm List.not_mem_nil
  · obtain ⟨blocks, hsent, hblocks, -⟩ := hrun
    rw [hsent]
    refine List.forall_mem_cons.2 ⟨sendable_capabilities, fun m hm => ?_⟩
    obtain ⟨said, hsaid, hm⟩ := List.mem_flatten.1 hm
    obtain ⟨message, hmessage, before, after, hblock⟩ := exists_of_mem_right hblocks hsaid
    exact hblock.sendable (wireSafe_of_mem_readAll (mem_of_mem_requests hmessage)) m hm

/-- What a run writes is read back as what it says, message for message, exactly if no report of a failure leaves its
line. Nothing but the wording of such a report can leave its line. -/
theorem run_framing {σ : Type} (env : Environment (StateM σ)) (sources : Sources (StateM σ)) (ending : Message.Ending)
    (input : Bytes) (s : Session) (w : σ) :
    let items := readAll ending input
    let sent := transcript env.piped sources.piped items (s, .new w)
    let written := ((run env.piped sources.piped items).runFrom (s, .new w)).2.2.written
    ((∃ read, readAll .closed written = read.map .ok ∧ List.Forall₂ Returned sent read) ↔
      ∀ m ∈ sent, m.code = Kind.uriFailure.code → m.Contained) ∧
    ∀ m ∈ sent, ∀ field ∈ m.fields.entries, '\n' ∈ field.2.toList →
      m.code = Kind.uriFailure.code ∧ field.1 = "Message" := by
  intro items sent written
  have hsendable : ∀ m ∈ sent, m.Sendable := sendable_transcript env sources ending input s w
  have hwritten : written = wires sent := written_eq_wires env sources items s w
  refine ⟨?_, fun m hm field hf hline => ((hsendable m hm).wording field hf hline).1⟩
  rw [hwritten, wires, readAll_wires_iff fun m hm => (hsendable m hm).headed]
  refine ⟨fun h m hm _ => h m hm, fun h m hm => ?_⟩
  by_cases hcode : m.code = Kind.uriFailure.code
  · exact h m hm hcode
  · exact (hsendable m hm).contained hcode

/-- A fault of the server that has a line feed in its wording does leave its line: the 400 for a login that ends with
it does not come back as it was sent, but with a field more. -/
theorem run_framing_fault :
    let base : Url := ⟨"http", some ⟨"", none, .name "h", none⟩, .segments ["XMLRPC"], false, none, none⟩
    let fault : Failure := .authentication "Login failed: server fault 1: no\nFailReason: yes"
    let sources : Sources (StateM World) :=
      ⟨pure (.ok ⟨base, false, [], Server.standardSystemIdFile, none⟩),
        ⟨fun _ => pure (.error fault), fun _ => pure (.ok [])⟩, fun _ => pure (.ok ⟨none, none⟩)⟩
    let items := readAll .closed (Text.toUtf8 "600 URI Acquire\nURI: spacewalk://h/a\nFilename: a\n\n")
    let w : World := ⟨.empty, fun _ => none, fun _ _ => .unreachable "", [], .unlimited⟩
    let sent := transcript World.environment.piped sources.piped items (.new, .new w)
    let written := ((run World.environment.piped sources.piped items).runFrom (.new, .new w)).2.2.written
    ¬ ∃ read, readAll .closed written = read.map .ok ∧ List.Forall₂ Returned sent read := by
  intro base fault sources items w sent written ⟨back, hback, hreturned⟩
  have hsendable : ∀ m ∈ sent, m.Sendable := sendable_transcript World.environment sources _ _ _ _
  have hwritten : written = wires sent := written_eq_wires World.environment sources items .new w
  rw [hwritten] at hback
  have hcontained := (readAll_wires_iff fun m hm => (hsendable m hm).headed).1 ⟨back, hback, hreturned⟩
  let request : Message := ⟨600, "URI Acquire", ⟨[("URI", "spacewalk://h/a"), ("Filename", "a")], by decide⟩⟩
  have hitems : items = [.ok request] := by
    have hline : ∀ m ∈ [request], m.OneLine := by
      refine List.forall_mem_singleton.2 ⟨by decide, List.forall_mem_cons.2 ⟨tidy_uri, ?_⟩, by decide⟩
      exact List.forall_mem_singleton.2 ⟨⟨by decide, rfl⟩, by decide⟩
    have htidied : request.tidied = request := by decide +kernel
    have hwire : [request].flatMap (fun m => Text.toUtf8 m.wire) =
        Text.toUtf8 "600 URI Acquire\nURI: spacewalk://h/a\nFilename: a\n\n" := by decide +kernel
    show readAll .closed _ = _
    rw [← hwire, readAll_wires hline, List.map_singleton, htidied]
    rfl
  let report := Message.uriFailure (some "spacewalk://h/a") fault
  have hsent : sent = [.capabilities, .status "spacewalk://h/a" "Logging into the spacewalk server", report] := by
    show transcript _ _ items _ = _
    rw [hitems]
    decide +kernel
  have hmem : report ∈ sent := by
    rw [hsent]
    exact List.mem_cons_of_mem _ (List.mem_cons_of_mem _ List.mem_cons_self)
  exact (hcontained report hmem).2 _ rfl (by decide +kernel)

end Method

end SpacewalkAcquire
