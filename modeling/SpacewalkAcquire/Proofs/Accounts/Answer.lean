import SpacewalkAcquire.Proofs.Accounts.Headers
import SpacewalkAcquire.Proofs.Session.RunFrom
import SpacewalkAcquire.Proofs.XmlRpc.Scalars

/-!
# What becomes of the answer to a login

* `Credentials.FromResponse` : credentials are the scalar members of a response as it was received;
* `Credentials.HeadersFrom` : headers are made of all required credentials, or the first absent one is missed, in
  whatever order the members came;
* `Credentials.Sent` : all headers are sent, or the first that no header can hold is refused;
* `Session.runFrom_ensureCredentials` : credentials are kept unless there are none.
-/

namespace SpacewalkAcquire

open XmlRpc (Value)

/-- A member `name` is a scalar with the text `text`. -/
def HasText (members : List (String × Value)) (name text : String) : Prop :=
  ∃ v, (name, v) ∈ members ∧ v.scalarText? = some text

theorem hasText_iff {members : List (String × Value)} (hmembers : (members.map Prod.fst).Nodup) (name text : String) :
    HasText members name text ↔ (Bindings.get? members name).bind Value.scalarText? = some text := by
  rw [Option.bind_eq_some_iff]
  exact exists_congr fun v => and_congr_left fun _ => (Bindings.get?_eq_some_iff hmembers).symm

theorem HasText.unique {members : List (String × Value)} (hmembers : (members.map Prod.fst).Nodup)
    {name text text' : String} (h : HasText members name text) (h' : HasText members name text') : text = text' :=
  Option.some.inj (((hasText_iff hmembers name text).1 h).symm.trans ((hasText_iff hmembers name text').1 h'))

namespace Credentials

variable {members : List (String × Value)} {credentials : Credentials}

theorem headers_congr {credentials credentials' : Credentials}
    (h : ∀ name ∈ required, credentials.get? name = credentials'.get? name) :
    credentials.headers = credentials'.headers := by
  have hcollect (names : List String) (hnames : ∀ name ∈ names, credentials.get? name = credentials'.get? name)
      (collected : OrderedMap String String) :
      collect credentials collected names = collect credentials' collected names := by
    induction names generalizing collected with
    | nil => rfl
    | cons name rest ih =>
      obtain ⟨hname, hrest⟩ := List.forall_mem_cons.1 hnames
      rw [collect, collect, hname]
      cases credentials'.get? name with
      | none => rfl
      | some text => exact ih hrest _
  unfold headers
  rw [hcollect required h]

/-! ## Credentials in an answer -/

section Members

variable (hmembers : (members.map Prod.fst).Nodup) (h : ofValue? (.struct members) = some credentials)

include hmembers h

theorem entries_ofValue :
    credentials.entries = members.filterMap fun p => p.2.scalarText?.map fun text => (p.1, text) := by
  cases h
  exact OrderedMap.entries_ofList ((Bindings.keys_filterMap_sublist _ members).nodup hmembers)

/-- `get?` finds the text of a scalar member with that name, and nothing else. -/
theorem get?_eq_some_iff (name text : String) : credentials.get? name = some text ↔ HasText members name text := by
  obtain ⟨_, hstruct, hget⟩ := get?_ofValue h
  cases hstruct
  rw [hget hmembers, hasText_iff hmembers]

/-- `isEmpty` says that no member is a scalar. -/
theorem isEmpty_iff : credentials.isEmpty = true ↔ ∀ p ∈ members, p.2.scalarText? = none := by
  rw [OrderedMap.isEmpty, entries_ofValue hmembers h, List.isEmpty_iff, List.filterMap_eq_nil_iff]
  simp only [Option.map_eq_none_iff]

/-! ## Headers made of credentials -/

theorem isNone_get?_iff (name : String) :
    (credentials.get? name).isNone = true ↔ ∀ text, ¬ HasText members name text := by
  rw [Option.isNone_iff_eq_none, Option.eq_none_iff_forall_ne_some]
  exact forall_congr' fun text => not_congr (get?_eq_some_iff hmembers h name text)

theorem exists_headers_iff :
    (∃ headers, credentials.headers = .ok headers) ↔ ∀ name ∈ required, ∃ text, HasText members name text := by
  have hget (name : String) : (∃ text, credentials.get? name = some text) ↔ ∃ text, HasText members name text :=
    exists_congr fun text => get?_eq_some_iff hmembers h name text
  constructor
  · rintro ⟨headers, hheaders⟩ name hname
    exact (hget name).1 ((entries_headers hheaders).1 name hname)
  · intro htexts
    rcases headers_cases credentials with ⟨headers, hheaders, -⟩ | ⟨name, hname, -⟩
    · exact ⟨headers, hheaders⟩
    · have habsent := List.find?_some hname
      obtain ⟨text, htext⟩ := (hget name).2 (htexts name (List.mem_of_find?_eq_some hname))
      rw [htext] at habsent
      cases habsent

theorem headers_eq_ok_iff (headers : OrderedMap String String) :
    credentials.headers = .ok headers ↔ ∃ text : String → String,
      (∀ name ∈ required, HasText members name (text name)) ∧
        headers.entries = (required.map fun name => (name, text name)) ++ [redirectCapability] := by
  constructor
  · intro hheaders
    obtain ⟨hsome, hentries⟩ := entries_headers hheaders
    refine ⟨fun name => (credentials.get? name).getD "", fun name hname => ?_, hentries⟩
    obtain ⟨text, htext⟩ := hsome name hname
    dsimp only
    rw [htext, Option.getD_some]
    exact (get?_eq_some_iff hmembers h name text).1 htext
  · rintro ⟨text, htext, hentries⟩
    have hheld : ∀ name ∈ required, credentials.get? name = some (text name) := fun name hname =>
      (get?_eq_some_iff hmembers h name _).2 (htext name hname)
    have htexts : credentials.texts = required.map fun name => (name, text name) :=
      List.map_congr_left fun name hname => by rw [hheld name hname, Option.getD_some]
    obtain ⟨headers', hheaders'⟩ := (exists_headers_iff hmembers h).2 fun name hname => ⟨_, htext name hname⟩
    have hentries' := (entries_headers hheaders').2
    rw [htexts, ← hentries] at hentries'
    rw [hheaders', OrderedMap.ext hentries']

theorem find?_isNone_iff (names : List String) (name : String) :
    names.find? (fun name => (credentials.get? name).isNone) = some name ↔ ∃ before after,
      names = before ++ name :: after ∧ (∀ earlier ∈ before, ∃ text, HasText members earlier text) ∧
        ∀ text, ¬ HasText members name text := by
  have hpresent (earlier : String) :
      (!(credentials.get? earlier).isNone) = true ↔ ∃ text, HasText members earlier text := by
    rw [Bool.not_eq_true', ← Bool.not_eq_true, isNone_get?_iff hmembers h, not_forall]
    exact exists_congr fun text => not_not
  rw [List.find?_eq_some_iff_append]
  constructor
  · rintro ⟨habsent, before, after, hsplit, hbefore⟩
    exact ⟨before, after, hsplit, fun earlier hearlier => (hpresent earlier).1 (hbefore earlier hearlier),
      (isNone_get?_iff hmembers h name).1 habsent⟩
  · rintro ⟨before, after, hsplit, hbefore, habsent⟩
    exact ⟨(isNone_get?_iff hmembers h name).2 habsent, before, after, hsplit,
      fun earlier hearlier => (hpresent earlier).2 (hbefore earlier hearlier)⟩

theorem headers_eq_error_iff (failure : Failure) :
    credentials.headers = .error failure ↔ ∃ before name after, required = before ++ name :: after ∧
      (∀ earlier ∈ before, ∃ text, HasText members earlier text) ∧ (∀ text, ¬ HasText members name text) ∧
        failure = .missingCredential name := by
  constructor
  · intro hfailure
    rcases headers_cases credentials with ⟨_, hheaders, -⟩ | ⟨name, hname, hmissing⟩
    · cases hfailure.symm.trans hheaders
    · cases hfailure.symm.trans hmissing
      obtain ⟨before, after, hsplit, hbefore, habsent⟩ := (find?_isNone_iff hmembers h _ _).1 hname
      exact ⟨before, name, after, hsplit, hbefore, habsent, rfl⟩
  · rintro ⟨before, name, after, hsplit, hbefore, habsent, rfl⟩
    have hfirst := (find?_isNone_iff hmembers h required name).2 ⟨before, after, hsplit, hbefore, habsent⟩
    rcases headers_cases credentials with ⟨_, -, hsome, -⟩ | ⟨name', hname', hmissing⟩
    · obtain ⟨text, htext⟩ := hsome name (List.mem_of_find?_eq_some hfirst)
      exact (habsent text ((get?_eq_some_iff hmembers h name text).1 htext)).elim
    · cases hfirst.symm.trans hname'
      exact hmissing

theorem headers_perm {members' : List (String × Value)} {credentials' : Credentials} (hperm : members'.Perm members)
    (h' : ofValue? (.struct members') = some credentials') : credentials'.headers = credentials.headers := by
  have hmembers' : (members'.map Prod.fst).Nodup := (hperm.map Prod.fst).nodup_iff.2 hmembers
  refine headers_congr fun name _ => Option.ext fun text => ?_
  rw [get?_eq_some_iff hmembers' h', get?_eq_some_iff hmembers h]
  exact exists_congr fun v => and_congr_left fun _ => hperm.mem_iff

/-- Headers are the five `required` credentials and `redirectCapability`, whatever else was received; or else the first
required credential that is no scalar member is missed. -/
structure HeadersFrom (members : List (String × Value)) (credentials : Credentials) : Prop where
  succeeds : (∃ headers, credentials.headers = .ok headers) ↔ ∀ name ∈ required, ∃ text, HasText members name text
  complete : ∀ headers, credentials.headers = .ok headers ↔ ∃ text : String → String,
    (∀ name ∈ required, HasText members name (text name)) ∧
      headers.entries = (required.map fun name => (name, text name)) ++ [redirectCapability]
  size : ∀ headers, credentials.headers = .ok headers → headers.size = 6
  missing : ∀ failure, credentials.headers = .error failure ↔ ∃ before name after,
    required = before ++ name :: after ∧ (∀ earlier ∈ before, ∃ text, HasText members earlier text) ∧
      (∀ text, ¬ HasText members name text) ∧ failure = .missingCredential name
  /-- The order of the members does not matter. -/
  order : ∀ {members' credentials'}, members'.Perm members → ofValue? (.struct members') = some credentials' →
    credentials'.headers = credentials.headers

theorem headersFrom : HeadersFrom members credentials where
  succeeds := exists_headers_iff hmembers h
  complete := headers_eq_ok_iff hmembers h
  size headers hheaders := by
    have hlength := congrArg List.length (keys_headers hheaders)
    rwa [List.length_map] at hlength
  missing := headers_eq_error_iff hmembers h
  order hperm h' := headers_perm hmembers h hperm h'

end Members

/-- Credentials are the scalar members of the response `document`, in the order and with the texts in which they were
received. -/
structure FromResponse (document : String) (members : List (String × Value)) (credentials : Credentials) : Prop where
  /-- Repeated names stand where they first came, with the value that came last. -/
  received : ∃ pairs, XmlRpc.Received document pairs ∧ members.map Prod.fst = (pairs.map Prod.fst).eraseDups ∧
    ∀ name, Bindings.get? members name = pairs.reverse.lookup name
  texts : ∀ {content v}, XmlRpc.Content content v → ∀ text, v.scalarText? = some text ↔ XmlRpc.Tells content text
  entries : credentials.entries = members.filterMap fun p => p.2.scalarText?.map fun text => (p.1, text)
  isEmpty : credentials.isEmpty = true ↔ ∀ p ∈ members, p.2.scalarText? = none

theorem fromResponse {document : String} (hdecode : XmlRpc.decode document = .ok (.struct members))
    (h : ofValue? (.struct members) = some credentials) : FromResponse document members credentials where
  received := XmlRpc.received_of_decode hdecode
  texts := XmlRpc.tells_iff
  entries := entries_ofValue (XmlRpc.nodup_of_decode hdecode) h
  isEmpty := isEmpty_iff (XmlRpc.nodup_of_decode hdecode) h

/-! ## Headers on the wire -/

/-- The headers of a session are sent as they are, each under its `wireName`, or the first of them that no header can
hold is refused. -/
structure Sent (credentials : Credentials) : Prop where
  kept : ∀ headers, credentials.headers = .ok headers → (∀ header ∈ headers.entries, Transfer.IsSendable header) →
    ∃ sent, Transfer.httpHeaders headers = .ok sent ∧
      sent.entries = headers.entries.map fun header => (Transfer.wireName header.1, header.2)
  refused : ∀ headers, credentials.headers = .ok headers → (¬ ∀ header ∈ headers.entries, Transfer.IsSendable header) →
    ∃ before header after, headers.entries = before ++ header :: after ∧
      (∀ earlier ∈ before, Transfer.IsSendable earlier) ∧ ¬ Transfer.IsSendable header ∧
      Transfer.httpHeaders headers = .error (Transfer.refusal header)

theorem sent (credentials : Credentials) : Sent credentials := by
  refine ⟨fun headers hheaders hsendable => ?_, fun headers hheaders hnot => ?_⟩
  · rcases Transfer.httpHeaders_of_headers hheaders with ⟨sent, hsent, -, hentries⟩ | ⟨header, hheader, -⟩
    · exact ⟨sent, hsent, hentries⟩
    · have hrefused : ¬ Transfer.IsSendable header := by simpa using List.find?_some hheader
      exact (hrefused (hsendable header (List.mem_of_find?_eq_some hheader))).elim
  · rcases Transfer.httpHeaders_of_headers hheaders with ⟨_, -, hsendable, -⟩ | ⟨header, hheader, hrefused⟩
    · exact (hnot hsendable).elim
    · obtain ⟨hfirst, before, after, hsplit, hbefore⟩ := List.find?_eq_some_iff_append.1 hheader
      exact ⟨before, header, after, hsplit, by simpa using hbefore, by simpa using hfirst, hrefused⟩

end Credentials

/-! ## Credentials in a session -/

namespace Session

open SessionT

variable {σ : Type}

/-- A login that gives credentials fills `credentials?`, unless it gives none at all: then it is `notRegistered`. -/
theorem runFrom_ensureCredentials {sources : Sources (StateM σ)} {s : Session} {server : Server}
    (hserver : s.server? = some server) (hnone : s.credentials? = none) {w w' : σ} {credentials : Credentials}
    (hlogin : sources.accounts.login server w = (.ok (some credentials), w')) :
    (ensureCredentials sources).runFrom (s, w) =
      if credentials.isEmpty then (.error .notRegistered, s, w')
      else (.ok credentials, { s with credentials? := some credentials }, w') := by
  have hensure : (ensureServer sources).runFrom (s, w) = (.ok server, s, w) := runFrom_ensureServer hserver
  unfold ensureCredentials
  rw [runFrom_bind, runFrom_get]
  dsimp only
  rw [hnone]
  dsimp only
  rw [runFrom_bind, hensure]
  dsimp only
  rw [runFrom_bind, runFrom_ofEnvironment, hlogin]
  dsimp only
  cases credentials.isEmpty <;> rfl

end Session

namespace ServerAccount

variable {σ : Type} {decode : Http.Decoder} {env : Environment (StateM σ)} {server : Server}

/-- `login` gives the credentials in the answer to its `call`. -/
theorem run_login {identity document : String} {v : Value} {w w₁ w₂ : σ}
    (hidentity : (systemId env server).run.run w = (.ok (some identity), w₁))
    (hcall : (call decode env server "up2date.login" [identity]).run.run w₁ = (.ok document, w₂))
    (hdecode : XmlRpc.decode document = .ok v) :
    (login decode env server).run.run w = (.ok (Credentials.ofValue? v), w₂) := by
  unfold login
  rw [run_bind_state, hidentity]
  dsimp only
  rw [run_bind_state, hcall]
  dsimp only
  rw [hdecode]
  rfl

end ServerAccount

end SpacewalkAcquire
