import SpacewalkAcquire.Http.Charset
import SpacewalkAcquire.Proofs.Http.Redirect
import SpacewalkAcquire.Proofs.Method.Contact
import SpacewalkAcquire.World

/-!
# Where requests go

* `Addressed server r` : a request goes to the host of the server, and to the port of what it is for;
* `Journey server exchanges` : a request that is addressed so, and the redirects behind it;
* `Errand.journey` : every errand in the ledger of a session is a journey;
* `run_journeys` : all that a run exchanges is a sequence of journeys.
-/

namespace SpacewalkAcquire

/-- A request goes to the host of `server`: a call to the port of its address, a request for content to the port of the
address of content. -/
structure Addressed (server : Server) (r : Http.Request) : Prop where
  host : r.url.hostText? = server.base.hostText?
  port : match r.verb with
    | .post => r.url.effectivePort? = server.base.effectivePort?
    | .get => ∃ path address, server.contentAddress path = .ok address ∧
        r.url.effectivePort? = address.effectivePort?

/-- A request that is `Addressed` to the server, and what redirects make of it: each further request goes where the
reply to the one before it says, and there are not too many of them. -/
structure Journey (server : Server) (exchanges : List (Http.Request × Http.Answer)) : Prop where
  start : ∃ r answer rest, exchanges = (r, answer) :: rest ∧ Addressed server r
  redirects : exchanges.IsChain Http.Redirects
  length : exchanges.length ≤ Http.longestChain

namespace Url

theorem host?_withoutUserinfo (u : Url) : u.withoutUserinfo.host? = u.host? := by
  unfold host? withoutUserinfo
  cases u.authority <;> rfl

theorem port?_withoutUserinfo (u : Url) : u.withoutUserinfo.port? = u.port? := by
  unfold port? withoutUserinfo
  cases u.authority <;> rfl

theorem authority_withPath (u : Url) (path : String) : (u.withPath path).authority = u.authority := by
  unfold withPath
  split
  · rfl
  · dsimp only
    split
    · rfl
    · split <;> rfl

theorem authority_withoutTail (u : Url) : u.withoutTail.authority = u.authority := by
  unfold withoutTail settle
  split <;> rfl

theorem host?_of_authority {u v : Url} (h : u.authority = v.authority) : u.host? = v.host? := by
  unfold host?
  rw [h]

/-- `withScheme?` keeps the host. -/
theorem host?_of_withScheme {u v : Url} {scheme : String} (h : u.withScheme? scheme = some v) : v.host? = u.host? := by
  unfold withScheme? at h
  split at h
  · cases h
  · split at h
    · cases h
    · split at h
      · cases h
      · cases h
        unfold host?
        cases u.authority <;> rfl

end Url

theorem Server.host?_contentAddress {server : Server} {path : String} {address : Url}
    (h : server.contentAddress path = .ok address) : address.hostText? = server.base.hostText? := by
  have hpath (u : Url) : ((u.withPath path).withoutTail).hostText? = u.hostText? :=
    congrArg (Option.map Host.text)
      (Url.host?_of_authority ((Url.authority_withoutTail _).trans (Url.authority_withPath u path)))
  unfold contentAddress at h
  split at h
  · cases h
    exact hpath _
  · split at h
    · next url hurl =>
      cases h
      rw [hpath, Url.hostText?, Url.host?_of_withScheme hurl]
      rfl
    · cases h

/-- `ofUrl` keeps host, port and verb, whatever becomes of the user in the URL. -/
theorem Http.Request.place_ofUrl (verb : Http.Verb) (url : Url) :
    (ofUrl verb url).url.hostText? = url.hostText? ∧ (ofUrl verb url).url.effectivePort? = url.effectivePort? ∧
      (ofUrl verb url).verb = verb := by
  unfold ofUrl
  split
  · refine ⟨?_, ?_, rfl⟩
    · rw [Url.hostText?, Url.host?_withoutUserinfo]
      rfl
    · rw [Url.effectivePort?, Url.port?_withoutUserinfo]
      rfl
  · exact ⟨rfl, rfl, rfl⟩

/-! ## Errands -/

namespace Errand

variable {σ : Type} {decode : Http.Decoder} {server : Server} {errands : List (Errand decode server)}
  {p : Session × Recorded σ}

theorem addressed_call (server : Server) (method : String) (parameters : List String) :
    Addressed server (ServerAccount.callRequest server method parameters) := by
  obtain ⟨hhost, hport, hverb⟩ := Http.Request.place_ofUrl .post server.base
  have hrequest : (ServerAccount.callRequest server method parameters).url = (Http.Request.ofUrl .post server.base).url ∧
      (ServerAccount.callRequest server method parameters).verb = (Http.Request.ofUrl .post server.base).verb :=
    ⟨rfl, rfl⟩
  refine ⟨by rw [hrequest.1, hhost], ?_⟩
  rw [hrequest.2, hverb, hrequest.1]
  exact hport

theorem addressed_content {path : String} {address : Url} (haddress : server.contentAddress path = .ok address)
    (headers : OrderedMap String String) : Addressed server (Transfer.contentRequest address headers) := by
  obtain ⟨hhost, hport, -⟩ := Http.Request.place_ofUrl .get address
  refine ⟨?_, ?_⟩
  · rw [Transfer.url_contentRequest, hhost, Server.host?_contentAddress haddress]
  · rw [Transfer.verb_contentRequest]
    refine ⟨path, address, haddress, ?_⟩
    rw [Transfer.url_contentRequest, hport]

theorem addressed (h : Ledger server errands p) {e : Errand decode server} (he : e ∈ errands) :
    Addressed server e.request := by
  have hfits := e.fits
  cases hpurpose : e.purpose with
  | login | listing =>
    rw [hpurpose] at hfits
    obtain ⟨identity, hrequest⟩ := hfits
    rw [hrequest]
    exact addressed_call server _ _
  | content request =>
    obtain ⟨earlier, later, rfl⟩ := List.append_of_mem he
    obtain ⟨_, _, _, _, _, _, label, headers, sent, address, -, -, -, haddress, hrequest⟩ :=
      h.contents earlier e later request rfl hpurpose
    rw [hrequest]
    exact addressed_content haddress sent

theorem journey (h : Ledger server errands p) {e : Errand decode server} (he : e ∈ errands) :
    Journey server e.exchanges := by
  obtain ⟨answer, rest, hexchanges⟩ := e.chain.exists_cons
  exact ⟨⟨_, answer, rest, hexchanges, addressed h he⟩, e.chain.isChain, e.chain.length_le⟩

end Errand

namespace Method

open Session

variable {σ : Type}

/-- In every run, whatever comes in and however files, server and front end behave: what is exchanged is a sequence of
journeys. So a request goes to the server that is configured, unless the reply to the request before it redirects: then
it goes where that reply says. Recording changes nothing. -/
theorem run_journeys (decode : Http.Decoder) (env : Environment (StateM σ))
    (configuration : StateM σ (Except Failure Server))
    (ending : Message.Ending) (input : Bytes) (known : Option Server) (w : σ) :
    let items := Message.readAll ending input
    let recorded := (run env.recorded (.atServer decode env configuration) items env.record).runFrom (begin known, .new w)
    let plain := (run env (.ofEnvironment env (.xmlRpc decode env) configuration) items).runFrom (begin known, w)
    (recorded.1 = plain.1 ∧ recorded.2.1 = plain.2.1 ∧ recorded.2.2.world = plain.2.2) ∧
      (recorded.2.2.exchanges = [] ∨
        ∃ (server : Server) (journeys : List (List (Http.Request × Http.Answer))),
          configured configuration w known = .ok server ∧
          recorded.2.2.exchanges = journeys.flatten ∧ ∀ journey ∈ journeys, Journey server journey) := by
  intro items recorded plain
  refine ⟨run_recording decode env configuration items known w, ?_⟩
  rcases run_ledger decode env configuration items known w with
    ⟨-, hnothing⟩ | ⟨server, parts, q, hserver, -, hexchanges, hledger⟩
  · exact .inl hnothing
  · refine .inr ⟨server, parts.flatten.map Errand.exchanges, hserver, ?_, fun journey hjourney => ?_⟩
    · rw [hexchanges, Errand.exchangesOf, List.flatMap_def]
    · obtain ⟨e, he, rfl⟩ := List.mem_map.1 hjourney
      exact Errand.journey hledger he

/-- Redirects do lead away from the server, and what is secret goes with them: a login that is answered with a
redirect to another host is sent there as it is, with the identity of the system. -/
theorem run_leaves_server :
    ¬ ∀ (w : World) (server : Server) (input : Bytes) (identity : String),
      w.files.read server.systemIdFile = .ok (Text.toUtf8 identity) →
      ∀ e ∈ ((run World.environment.recorded (.atServer Http.contentText World.environment (pure (.ok server)))
        (Message.readAll .closed input) World.environment.record).runFrom
          (begin (some server), .new w)).2.2.exchanges,
        Text.toUtf8 identity <:+: e.1.body → e.1.url.hostText? = server.base.hostText? := by
  intro h
  let base : Url := ⟨"http", some ⟨"", none, .name "h", none⟩, .segments ["XMLRPC"], false, none, none⟩
  let server : Server := ⟨base, false, [], Server.standardSystemIdFile, none⟩
  let redirecting (_ : List Http.Request) (r : Http.Request) : Http.Answer :=
    if r.url.hostText? = some "h" then
      .reply ⟨307, [("location", Text.toUtf8 "http://elsewhere/")], .sized 0, []⟩
    else .unreachable "no route"
  let files := FileTree.empty.withFile ["etc", "sysconfig", "rhn", "systemid"] (Text.toUtf8 "ID-1")
  let w : World := ⟨files, fun _ => none, redirecting, [], .unlimited⟩
  let input := Text.toUtf8 "600 URI Acquire\nURI: spacewalk://h/a\nFilename: a\n\n"
  have hread : w.files.read server.systemIdFile = .ok (Text.toUtf8 "ID-1") := eq_ok_of_toOption (by decide +kernel)
  have helsewhere : (((run World.environment.recorded (.atServer Http.contentText World.environment (pure (.ok server)))
      (Message.readAll .closed input) World.environment.record).runFrom
        (begin (some server), .new w)).2.2.exchanges.map fun e => (e.1.url.hostText?, e.1.body)) =
      [(some "h", Text.toUtf8 (XmlRpc.call "up2date.login" ["ID-1"])),
        (some "elsewhere", Text.toUtf8 (XmlRpc.call "up2date.login" ["ID-1"]))] := by decide +kernel
  have hmem := List.mem_cons_of_mem (some "h", Text.toUtf8 (XmlRpc.call "up2date.login" ["ID-1"]))
    (List.mem_singleton.2 (rfl : (some "elsewhere", Text.toUtf8 (XmlRpc.call "up2date.login" ["ID-1"])) = _))
  rw [← helsewhere] at hmem
  obtain ⟨e, he, hplace⟩ := List.mem_map.1 hmem
  obtain ⟨hhost, hbody⟩ := Prod.mk.inj hplace
  have hcarries : Text.toUtf8 "ID-1" <:+: e.1.body := by
    rw [hbody]
    decide +kernel
  have hhost' := h w server input "ID-1" hread e he hcarries
  rw [hhost] at hhost'
  exact absurd hhost' (by decide +kernel)

end Method

end SpacewalkAcquire
