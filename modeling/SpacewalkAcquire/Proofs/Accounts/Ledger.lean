import SpacewalkAcquire.Proofs.Accounts.Errand
import SpacewalkAcquire.Proofs.Accounts.Headers
import SpacewalkAcquire.Proofs.Session.Cache

/-!
# Errands of a session

* `Sources.atServer` : the sources of a recorded session whose accounts are those of its server;
* `Errand.Resolves e label` : the errand is a listing with a base channel of that label;
* `Listed errands channels?` : the channels of a session are those of the first such listing, behind which there is
  none;
* `Carries` : a request for a document has its headers from credentials and its path from channels;
* `Ledger server errands p` : the errands so far are all that was exchanged; what the session holds comes from them, and
  documents were asked for with what logins and listings before had given;
* `Ledger.step`, `Reached.steps` : whatever happens to a session adds errands to the ledger, none of them for a
  document;
* `Ledger.authorized` : all documents are asked for on the strength of one login and one listing.
-/

namespace SpacewalkAcquire

open Session Transfer

variable {σ : Type} {decode : Http.Decoder} {server : Server}

/-- The sources of a recorded session: its accounts are those of the server, and `configuration` is read. -/
def Sources.atServer (decode : Http.Decoder) (env : Environment (StateM σ))
    (configuration : StateM σ (Except Failure Server)) : Sources (StateM (Recorded σ)) :=
  .ofEnvironment env.recorded (.xmlRpc decode env.recorded) (liftM configuration)

/-! ## Listings -/

/-- The errand is a listing, with a base channel `label`. -/
def Errand.Resolves (e : Errand decode server) (label : String) : Prop :=
  e.purpose = .listing ∧ ∃ v, e.value? = some v ∧ (Channel.listOfValue v >>= Channel.baseLabel) = .ok label

theorem Errand.resolves_iff {e : Errand decode server} {label : String} :
    e.Resolves label ↔ ∃ channels, e.Lists channels ∧ Channel.baseLabel channels = .ok label := by
  constructor
  · rintro ⟨hpurpose, v, hvalue, hlabel⟩
    obtain ⟨channels, hlist, hbase⟩ := bind_eq_ok.1 hlabel
    exact ⟨channels, ⟨hpurpose, v, hvalue, hlist⟩, hbase⟩
  · rintro ⟨channels, ⟨hpurpose, v, hvalue, hlist⟩, hbase⟩
    exact ⟨hpurpose, v, hvalue, bind_eq_ok.2 ⟨channels, hlist, hbase⟩⟩

/-- What listings have given: if the session has no channels, none had a base channel; its channels are those of a
listing before which none had a base channel, and behind which there is no listing. -/
def Listed (errands : List (Errand decode server)) : Option (List Channel) → Prop
  | none => ∀ e ∈ errands, ∀ label, ¬ e.Resolves label
  | some channels => ∃ before listing behind, errands = before ++ listing :: behind ∧
      (∀ e ∈ before, ∀ label, ¬ e.Resolves label) ∧ listing.Lists channels ∧ ∀ e ∈ behind, e.purpose ≠ .listing

namespace Listed

variable {errands : List (Errand decode server)} {e : Errand decode server} {channels : List Channel}

theorem other {channels? : Option (List Channel)} (h : Listed errands channels?) (he : e.purpose ≠ .listing) :
    Listed (errands ++ [e]) channels? := by
  cases channels? with
  | none => exact List.forall_mem_append.2 ⟨h, List.forall_mem_singleton.2 fun _ hresolves => he hresolves.1⟩
  | some channels =>
    obtain ⟨before, listing, behind, rfl, hbefore, hlists, hbehind⟩ := h
    exact ⟨before, listing, behind ++ [e], by simp, hbefore, hlists,
      List.forall_mem_append.2 ⟨hbehind, List.forall_mem_singleton.2 he⟩⟩

theorem refuse (h : Listed errands none) (he : ∀ label, ¬ e.Resolves label) : Listed (errands ++ [e]) none :=
  List.forall_mem_append.2 ⟨h, List.forall_mem_singleton.2 he⟩

theorem accept (h : Listed errands none) (he : e.Lists channels) : Listed (errands ++ [e]) (some channels) :=
  ⟨errands, e, [], rfl, h, he, List.forall_mem_nil _⟩

theorem exists_lists (h : Listed errands (some channels)) : ∃ e ∈ errands, e.Lists channels := by
  obtain ⟨before, listing, behind, rfl, -, hlists, -⟩ := h
  exact ⟨listing, by simp, hlists⟩

end Listed

/-! ## Documents -/

/-- A request for the document of `request` has its headers from credentials and its path from channels. -/
def Carries (server : Server) (credentials : Credentials) (channels : List Channel) (request : Request)
    (content : Http.Request) : Prop :=
  ∃ label headers sent address, Channel.baseLabel channels = .ok label ∧ credentials.headers = .ok headers ∧
    httpHeaders headers = .ok sent ∧
    server.contentAddress (DocumentPath.toBackend request.uri.pathText label) = .ok address ∧
    content = contentRequest address sent

/-- A document is asked for with credentials and channels of `s`, both of which `earlier` errands have given. -/
def Entitled (earlier : List (Errand decode server)) (s : Session) (request : Request) (content : Http.Request) :
    Prop :=
  ∃ credentials channels, s.credentials? = some credentials ∧ s.channels? = some channels ∧
    (∃ e ∈ earlier, e.LogsIn credentials) ∧ (∃ e ∈ earlier, e.Lists channels) ∧
    Carries server credentials channels request content

/-- What is between a session and its server: nothing but `errands`. -/
structure Ledger (server : Server) (errands : List (Errand decode server)) (p : Session × Recorded σ) : Prop where
  server : p.1.server? = some server
  sound : p.1.Sound
  exchanges : p.2.exchanges = Errand.exchangesOf errands
  credentials : ∀ credentials, p.1.credentials? = some credentials → ∃ e ∈ errands, e.LogsIn credentials
  listed : Listed errands p.1.channels?
  contents : ∀ earlier e later request, errands = earlier ++ e :: later → e.purpose = .content request →
    Entitled earlier p.1 request e.request

theorem Carries.verb {credentials : Credentials} {channels : List Channel} {request : Request} {content : Http.Request}
    (h : Carries server credentials channels request content) : content.verb = .get := by
  obtain ⟨label, headers, sent, address, -, -, -, -, rfl⟩ := h
  exact verb_contentRequest address sent

theorem Entitled.keeps {earlier : List (Errand decode server)} {s t : Session} {request : Request}
    {content : Http.Request}
    (h : Entitled earlier s request content) (hkeeps : s.Keeps t) : Entitled earlier t request content := by
  obtain ⟨credentials, channels, hcredentials, hchannels, hrest⟩ := h
  exact ⟨credentials, channels, hkeeps.credentials _ hcredentials, hkeeps.channels _ hchannels, hrest⟩

namespace Ledger

variable {errands : List (Errand decode server)} {p q : Session × Recorded σ}

theorem channels (h : Ledger server errands p) {channels : List Channel} (hchannels : p.1.channels? = some channels) :
    ∃ e ∈ errands, e.Lists channels := by
  have hlisted := h.listed
  rw [hchannels] at hlisted
  exact hlisted.exists_lists

theorem begin (server : Server) {connection? : Option Connection} {r : Recorded σ} (h : r.exchanges = []) :
    Ledger server ([] : List (Errand decode server))
      ({ Session.begin (some server) with connection? := connection? }, r) where
  server := rfl
  sound := ⟨fun _ h => (nomatch h), fun _ h => (nomatch h), fun _ h => (nomatch h)⟩
  exchanges := h
  credentials _ h := nomatch h
  listed := List.forall_mem_nil _
  contents earlier e later request hsplit _ := by simp at hsplit

theorem keep (h : Ledger server errands p) (hexchanges : q.2.exchanges = p.2.exchanges) (hkeeps : p.1.Keeps q.1)
    (hsound : q.1.Sound) (hcredentials : q.1.credentials? = p.1.credentials?)
    (hchannels : q.1.channels? = p.1.channels?) : Ledger server errands q where
  server := hkeeps.server _ h.server
  sound := hsound
  exchanges := hexchanges.trans h.exchanges
  credentials := by rw [hcredentials]; exact h.credentials
  listed := by rw [hchannels]; exact h.listed
  contents earlier e later request hsplit hpurpose := (h.contents earlier e later request hsplit hpurpose).keeps hkeeps

theorem concat (h : Ledger server errands p) (e : Errand decode server)
    (hexchanges : q.2.exchanges = p.2.exchanges ++ e.exchanges) (hkeeps : p.1.Keeps q.1) (hsound : q.1.Sound)
    (hcredentials : ∀ credentials, q.1.credentials? = some credentials →
      p.1.credentials? = some credentials ∨ e.LogsIn credentials)
    (hlisted : Listed (errands ++ [e]) q.1.channels?)
    (hcontent : ∀ request, e.purpose = .content request → Entitled errands q.1 request e.request) :
    Ledger server (errands ++ [e]) q where
  server := hkeeps.server _ h.server
  sound := hsound
  exchanges := by
    rw [hexchanges, h.exchanges]
    simp [Errand.exchangesOf]
  credentials credentials hc := by
    rcases hcredentials credentials hc with hc | he
    · obtain ⟨e', hmem, he'⟩ := h.credentials credentials hc
      exact ⟨e', List.mem_append_left _ hmem, he'⟩
    · exact ⟨e, List.mem_concat_self, he⟩
  listed := hlisted
  contents earlier e' later request hsplit hpurpose := by
    rcases List.eq_nil_or_concat later with rfl | ⟨later, last, rfl⟩
    · obtain ⟨rfl, hlast⟩ := List.append_inj' hsplit rfl
      cases hlast
      exact hcontent request hpurpose
    · have hinit : errands = earlier ++ e' :: later := by
        have hsplit' : errands ++ [e] = earlier ++ e' :: later ++ [last] := by simpa using hsplit
        exact (List.append_inj' hsplit' rfl).1
      exact (h.contents earlier e' later request hinit hpurpose).keeps hkeeps

end Ledger

/-- From a ledger with `errands` the session has come here, with errands for the documents `contents`. -/
def Reached (errands : List (Errand decode server)) (contents : List Request) (q : Session × Recorded σ) : Prop :=
  ∃ more, Errand.contents more = contents ∧ Ledger server (errands ++ more) q

theorem Reached.refl {errands : List (Errand decode server)} {p : Session × Recorded σ} (h : Ledger server errands p) :
    Reached errands [] p := ⟨[], rfl, by rwa [List.append_nil]⟩

theorem Reached.trans {errands more : List (Errand decode server)} {contents contents' : List Request}
    {q : Session × Recorded σ} (hmore : Errand.contents more = contents) (h : Reached (errands ++ more) contents' q) :
    Reached errands (contents ++ contents') q := by
  obtain ⟨rest, rfl, hledger⟩ := h
  refine ⟨more ++ rest, ?_, by rwa [← List.append_assoc]⟩
  rw [Errand.contents, List.filterMap_append, ← hmore]
  rfl

section Steps

variable {env : Environment (StateM σ)} {configuration : StateM σ (Except Failure Server)}
  {errands : List (Errand decode server)} {p q : Session × Recorded σ}

theorem connect_atServer {server' : Server} {r r' : Recorded σ} {result : Except Failure Connection}
    (h : (Sources.atServer decode env configuration).connect server' r = (result, r')) : r'.exchanges = r.exchanges := by
  have hexchanges := ServerAccount.prepare_exchanges env server' server'.useTls r
  have hrun : Connection.prepare env.recorded server' server'.useTls r = (result, r') := h
  rwa [hrun] at hexchanges

theorem Ledger.reached_concat (h : Ledger server errands p) (e : Errand decode server)
    (hpurpose : e.purpose.content? = none)
    (hexchanges : q.2.exchanges = p.2.exchanges ++ e.exchanges) (hkeeps : p.1.Keeps q.1) (hsound : q.1.Sound)
    (hcredentials : ∀ credentials, q.1.credentials? = some credentials →
      p.1.credentials? = some credentials ∨ e.LogsIn credentials)
    (hlisted : Listed (errands ++ [e]) q.1.channels?) : Reached errands [] q := by
  refine ⟨[e], ?_, h.concat e hexchanges hkeeps hsound hcredentials hlisted fun request hrequest => ?_⟩
  · rw [Errand.contents, List.filterMap_cons, hpurpose]
    rfl
  · rw [hrequest] at hpurpose
    cases hpurpose

/-- Every `Step` of a session keeps its ledger. -/
theorem Ledger.step (h : Ledger server errands p) (hstep : Step (.atServer decode env configuration) p q) :
    Reached errands [] q := by
  have hkeeps := hstep.keeps.1
  have hsound := hstep.sound h.sound
  have hknown {server' : Server} (hserver : p.1.server? = some server') : server' = server :=
    Option.some.inj (hserver.symm.trans h.server)
  cases hstep with
  | server hnone | noServer hnone =>
    have hserver := h.server
    rw [hnone] at hserver
    cases hserver
  | headers => exact .refl (h.keep rfl hkeeps hsound rfl rfl)
  | connection _ _ hconnect | noConnection _ _ hconnect =>
    exact .refl (h.keep (connect_atServer hconnect) hkeeps hsound rfl rfl)
  | @credentials s _ _ server' given hnone hserver hlogin =>
    obtain rfl := hknown hserver
    rcases ServerAccount.login_errand env server' hlogin with ⟨-, hanswer⟩ | ⟨e, hpurpose, hexchanges, hgiven⟩
    · exact (hanswer given rfl).elim
    · refine h.reached_concat e (by rw [hpurpose]; rfl) hexchanges hkeeps hsound (fun c hc => ?_)
        (h.listed.other (by rw [hpurpose]; nofun))
      cases hc
      exact .inr (hgiven given rfl)
  | @noCredentials s _ _ server' answer hnone hserver hlogin =>
    obtain rfl := hknown hserver
    rcases ServerAccount.login_errand env server' hlogin with ⟨hexchanges, -⟩ | ⟨e, hpurpose, hexchanges, -⟩
    · exact .refl (h.keep hexchanges hkeeps hsound rfl rfl)
    · exact h.reached_concat e (by rw [hpurpose]; rfl) hexchanges hkeeps hsound (fun _ hc => .inl hc)
        (h.listed.other (by rw [hpurpose]; nofun))
  | @channels s _ _ server' given label hnone hserver hlisting =>
    obtain rfl := hknown hserver
    have hlisted : Listed errands none := hnone ▸ h.listed
    rcases ServerAccount.channels_errand env server' hlisting with ⟨-, hanswer⟩ | ⟨e, hpurpose, hexchanges, hgiven⟩
    · exact (hanswer given rfl).elim
    · exact h.reached_concat e (by rw [hpurpose]; rfl) hexchanges hkeeps hsound (fun _ hc => .inl hc)
        (hlisted.accept ((hgiven given).1 rfl))
  | @noChannels s _ _ server' answer hnone hserver hlisting hrefused =>
    obtain rfl := hknown hserver
    have hlisted : Listed errands none := hnone ▸ h.listed
    rcases ServerAccount.channels_errand env server' hlisting with ⟨hexchanges, -⟩ | ⟨e, hpurpose, hexchanges, hgiven⟩
    · exact .refl (h.keep hexchanges hkeeps hsound rfl rfl)
    · refine h.reached_concat e (by rw [hpurpose]; rfl) hexchanges hkeeps hsound (fun _ hc => .inl hc) ?_
      show Listed (errands ++ [e]) s.channels?
      rw [hnone]
      refine hlisted.refuse fun label hresolves => hrefused ?_
      obtain ⟨channels, hlists, hlabel⟩ := Errand.resolves_iff.1 hresolves
      exact ⟨channels, label, (hgiven channels).2 hlists, hlabel⟩

theorem Reached.of_eq {contents : List Request} (h : Reached errands contents p) (hsession : q.1 = p.1)
    (hexchanges : q.2.exchanges = p.2.exchanges) : Reached errands contents q := by
  obtain ⟨more, hmore, hledger⟩ := h
  refine ⟨more, hmore, hledger.keep hexchanges ?_ ?_ ?_ ?_⟩
  · rw [hsession]
    exact .refl _
  · rw [hsession]
    exact hledger.sound
  · rw [hsession]
  · rw [hsession]

/-- What `Steps` lead to is reached with the same errands. -/
theorem Reached.steps {contents : List Request} (h : Reached errands contents p)
    (hsteps : Steps (.atServer decode env configuration) p q) : Reached errands contents q := by
  induction hsteps with
  | refl => exact h
  | tail _ hstep ih =>
    obtain ⟨more, hmore, hledger⟩ := ih
    have hreached := Reached.trans hmore (hledger.step hstep)
    rwa [List.append_nil] at hreached

end Steps

/-! ## One login and one listing -/

/-- The credentials of an errand that `LogsIn` are the scalars in the struct of its `value?`. -/
theorem Errand.LogsIn.answer {e : Errand decode server} {credentials : Credentials} (h : e.LogsIn credentials) :
    ∃ members, e.value? = some (.struct members) ∧ ∀ name,
      (Bindings.get? members name).bind XmlRpc.Value.scalarText? = credentials.get? name := by
  obtain ⟨-, v, hvalue, hv⟩ := h
  obtain ⟨members, rfl, hget⟩ := Credentials.get?_ofValue hv
  have hvalue' := hvalue
  rw [Errand.value?] at hvalue'
  obtain ⟨document, -, hdecode⟩ := Option.bind_eq_some_iff.1 hvalue'
  have hdecoded : XmlRpc.decode document = .ok (.struct members) := by
    cases hd : XmlRpc.decode document with
    | error e =>
      rw [hd] at hdecode
      cases hdecode
    | ok v =>
      rw [hd] at hdecode
      cases hdecode
      rfl
  exact ⟨members, hvalue, fun name => (hget (XmlRpc.nodup_of_decode hdecoded) name).symm⟩

theorem mem_contents {errands : List (Errand decode server)} {request : Request}
    (h : request ∈ Errand.contents errands) :
    ∃ earlier e later, errands = earlier ++ e :: later ∧ e.purpose = .content request := by
  obtain ⟨e, he, hrequest⟩ := List.mem_filterMap.1 h
  obtain ⟨earlier, later, hsplit⟩ := List.append_of_mem he
  refine ⟨earlier, e, later, hsplit, ?_⟩
  cases hpurpose : e.purpose with
  | content request' =>
    rw [hpurpose] at hrequest
    cases hrequest
    rfl
  | _ =>
    rw [hpurpose] at hrequest
    cases hrequest

end SpacewalkAcquire
