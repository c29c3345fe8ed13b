import SpacewalkAcquire.Proofs.Effects.Failing
import SpacewalkAcquire.Proofs.Http.Chain

/-!
# Errands to the server

* `Errand decode server` : a request to the server for a purpose, the exchanges that served it and its redirects, and
  the result;
* `Errand.value?` : the value with which the server has answered a call;
* `login_errand`, `channels_errand` : a login and a listing do one errand at most, and what they give is in its answer.
-/

namespace SpacewalkAcquire

/-- What the server is asked for. -/
inductive Purpose where
  | login
  | listing
  | content (request : Request)

def Purpose.content? : Purpose → Option Request
  | content request => some request
  | _ => none

/-- A request to `server` is of a kind that fits the purpose. -/
def Purpose.Fits (server : Server) : Purpose → Http.Request → Prop
  | login, r => ∃ identity, r = ServerAccount.callRequest server "up2date.login" [identity]
  | listing, r => ∃ identity, r = ServerAccount.callRequest server "up2date.listChannels" [identity]
  | content _, r => r.verb = .get

/-- One errand to the server. -/
structure Errand (decode : Http.Decoder) (server : Server) where
  purpose : Purpose
  request : Http.Request
  exchanges : List (Http.Request × Http.Answer)
  result : Except String Http.Reply
  fits : purpose.Fits server request
  chain : Http.Chain (Http.longestChain - 1) request exchanges result

namespace Errand

variable {decode : Http.Decoder} {server : Server}

/-- The text of a reply that reports success and is complete. -/
def document? (e : Errand decode server) : Option String :=
  match e.result with
  | .ok reply =>
    if Http.isSuccess reply.status && reply.body.complete then
      some (decode (reply.textHeader? "content-type") reply.body.chunks.flatten)
    else none
  | .error _ => none

def value? (e : Errand decode server) : Option XmlRpc.Value :=
  e.document?.bind fun document => (XmlRpc.decode document).toOption

def LogsIn (e : Errand decode server) (credentials : Credentials) : Prop :=
  e.purpose = .login ∧ ∃ v, e.value? = some v ∧ Credentials.ofValue? v = some credentials

def Lists (e : Errand decode server) (channels : List Channel) : Prop :=
  e.purpose = .listing ∧ ∃ v, e.value? = some v ∧ Channel.listOfValue v = .ok channels

/-- The requests of the front end for which documents are asked, errand by errand. -/
def contents (errands : List (Errand decode server)) : List Request := errands.filterMap fun e => e.purpose.content?

def exchangesOf (errands : List (Errand decode server)) :
    List (Http.Request × Http.Answer) := errands.flatMap Errand.exchanges

end Errand

/-! ## Calls -/

namespace ServerAccount

variable {σ : Type} {decode : Http.Decoder} (env : Environment (StateM σ)) (server : Server)

theorem keeping_exchanges_reads :
    (Correspondence.keeping Recorded.exchanges).Reads env.recorded env.recorded :=
  Correspondence.keeping_aside_reads (fun _ _ => rfl) env

theorem prepare_exchanges (encrypted : Bool) (r : Recorded σ) :
    (Connection.prepare env.recorded server encrypted r).2.exchanges = r.exchanges :=
  (Correspondence.prepare_rel (keeping_exchanges_reads env) server encrypted).2 r

theorem systemId_exchanges (r : Recorded σ) :
    ((systemId env.recorded server).run.run r).2.exchanges = r.exchanges :=
  (Correspondence.systemId_rel (keeping_exchanges_reads env) server).2 r

/-- What `call` makes of what became of its request. -/
def answerOf (decode : Http.Decoder) (method : String) : Except String Http.Reply → Except Failure String
  | .error why => .error (.network s!"{method} request failed: {why}" (some why))
  | .ok reply =>
    if !Http.isSuccess reply.status then
      .error (.network s!"{method} returned status {Http.statusText reply.status}" none)
    else if !reply.body.complete then
      .error (.network s!"Failed to read {method} response: {Http.bodyFault}" (some Http.bodyFault))
    else .ok (decode (reply.textHeader? "content-type") reply.body.chunks.flatten)

/-- `call` runs `Connection.prepare` and `Http.send`, and hands the reply to `answerOf`. -/
theorem run_call {ρ : Type} (env : Environment (StateM ρ)) (method : String) (parameters : List String) (w : ρ) :
    (call decode env server method parameters).run.run w =
      match Connection.prepare env server (server.base.scheme = "https") w with
      | (.ok connection, w₁) =>
        let sent := Http.send (env.exchange connection) (callRequest server method parameters) w₁
        (answerOf decode method sent.1, sent.2)
      | (.error e, w₁) => (.error e, w₁) := by
  have hprepare : (ExceptT.mk (Connection.prepare env server (server.base.scheme = "https"))).run.run w =
    Connection.prepare env server (server.base.scheme = "https") w := rfl
  unfold call
  rw [run_bind_state, hprepare]
  rcases Connection.prepare env server (server.base.scheme = "https") w with ⟨failure | connection, w₁⟩
  · rfl
  · dsimp only
    have hsend : (ExceptT.lift (ε := Failure) (Http.send (env.exchange connection)
        (callRequest server method parameters))).run.run w₁ =
      (.ok (Http.send (env.exchange connection) (callRequest server method parameters) w₁).1,
        (Http.send (env.exchange connection) (callRequest server method parameters) w₁).2) := rfl
    rw [run_bind_state, hsend]
    dsimp only
    rcases Http.send (env.exchange connection) (callRequest server method parameters) w₁ with ⟨why | reply, w₂⟩
    · rfl
    · dsimp only [answerOf]
      cases Http.isSuccess reply.status
      · rfl
      · cases reply.body.complete <;> rfl

theorem answerOf_eq_ok_iff {server : Server} {e : Errand decode server} {method document : String} :
    answerOf decode method e.result = .ok document ↔ e.document? = some document := by
  unfold answerOf Errand.document?
  cases e.result with
  | error why => exact ⟨fun h => (nomatch h), fun h => (nomatch h)⟩
  | ok reply =>
    dsimp only
    cases Http.isSuccess reply.status
    · exact ⟨fun h => (nomatch h), fun h => (nomatch h)⟩
    · cases reply.body.complete
      · exact ⟨fun h => (nomatch h), fun h => (nomatch h)⟩
      · exact ⟨fun h => congrArg some (Except.ok.inj h), fun h => congrArg Except.ok (Option.some.inj h)⟩

/-- `call` does one errand at most; what text it gives is the errand's `document?`. -/
theorem call_errand {purpose : Purpose} {method : String} {parameters : List String}
    (hfits : purpose.Fits server (callRequest server method parameters)) {r r' : Recorded σ}
    {result : Except Failure String} (h : (call decode env.recorded server method parameters).run.run r = (result, r')) :
    (r'.exchanges = r.exchanges ∧ ∃ e, result = .error e) ∨
      ∃ e : Errand decode server, e.purpose = purpose ∧ r'.exchanges = r.exchanges ++ e.exchanges ∧
        ∀ document, result = .ok document ↔ e.document? = some document := by
  have hprepare := prepare_exchanges env server (server.base.scheme = "https") r
  rw [run_call] at h
  generalize Connection.prepare env.recorded server (server.base.scheme = "https") r = prepared at h hprepare
  obtain ⟨failure | connection, r₁⟩ := prepared
  · cases h
    exact .inl ⟨hprepare, failure, rfl⟩
  · obtain ⟨hresult, rfl⟩ := Prod.mk.inj h
    obtain ⟨chain, hexchanges, hchain⟩ := Http.chain_send env connection (callRequest server method parameters) r₁
    let e : Errand decode server := ⟨purpose, _, chain, _, hfits, hchain⟩
    refine .inr ⟨e, rfl, ?_, fun document => ?_⟩
    · rw [hexchanges, hprepare]
    · rw [← hresult]
      exact answerOf_eq_ok_iff (e := e)

/-- A call of `method` for this system, and what `read` makes of the value of its answer. A system without identity gets
`unregistered`. -/
def ask {α ρ : Type} (decode : Http.Decoder) (env : Environment (StateM ρ)) (method : String)
    (unregistered : Except Failure α)
    (refusal : XmlRpc.ResponseError → Failure) (read : XmlRpc.Value → Except Failure α) :
    ExceptT Failure (StateM ρ) α := do
  match ← systemId env server with
  | none => ExceptT.mk (pure unregistered)
  | some identity =>
    let document ← call decode env server method [identity]
    match XmlRpc.decode document with
    | .error e => throw (refusal e)
    | .ok v => ExceptT.mk (pure (read v))

theorem login_eq_ask {ρ : Type} (env : Environment (StateM ρ)) :
    login decode env server = ask server decode env "up2date.login" (.ok none)
      (fun e => .authentication s!"Login failed: {e.message}") fun v => .ok (Credentials.ofValue? v) := by
  refine bind_congr fun identity => ?_
  cases identity with
  | none => rfl
  | some identity => exact bind_congr fun document => rfl

theorem channels_eq_ask {ρ : Type} (env : Environment (StateM ρ)) :
    channels decode env server = ask server decode env "up2date.listChannels" (.error .notRegistered)
      (fun e => .channelResolution s!"listChannels failed: {e.message}") Channel.listOfValue := by
  refine bind_congr fun identity => ?_
  cases identity with
  | none => rfl
  | some identity => exact bind_congr fun document => rfl

/-- `ask` does one errand at most; it gives what `read` makes of the errand's `value?`. -/
theorem ask_errand {α : Type} (purpose : Purpose) {method : String} {unregistered : Except Failure α}
    {refusal : XmlRpc.ResponseError → Failure} {read : XmlRpc.Value → Except Failure α}
    (hfits : ∀ identity, purpose.Fits server (callRequest server method [identity])) {r r' : Recorded σ}
    {answer : Except Failure α}
    (h : (ask server decode env.recorded method unregistered refusal read).run.run r = (answer, r')) :
    (r'.exchanges = r.exchanges ∧ (answer = unregistered ∨ ∃ e, answer = .error e)) ∨
      ∃ e : Errand decode server, e.purpose = purpose ∧ r'.exchanges = r.exchanges ++ e.exchanges ∧
        ∀ a, answer = .ok a ↔ ∃ v, e.value? = some v ∧ read v = .ok a := by
  have hsystemId := systemId_exchanges env server r
  unfold ask at h
  rw [run_bind_state] at h
  generalize (systemId env.recorded server).run.run r = identified at h hsystemId
  obtain ⟨failure | _ | identity, r₁⟩ := identified
  · cases h
    exact .inl ⟨hsystemId, .inr ⟨failure, rfl⟩⟩
  · cases h
    exact .inl ⟨hsystemId, .inl rfl⟩
  · dsimp only at h hsystemId
    rw [run_bind_state] at h
    cases hcall : (call decode env.recorded server method [identity]).run.run r₁ with
    | mk called r₂ =>
    rw [hcall] at h
    rcases call_errand env server (hfits identity) hcall with
      ⟨hexchanges, failure, rfl⟩ | ⟨e, hpurpose, hexchanges, hdocument⟩
    · cases h
      exact .inl ⟨hexchanges.trans hsystemId, .inr ⟨failure, rfl⟩⟩
    · rw [hsystemId] at hexchanges
      refine .inr ⟨e, hpurpose, ?_⟩
      have hvalue (v : XmlRpc.Value) :
          e.value? = some v ↔ ∃ document, called = .ok document ∧ XmlRpc.decode document = .ok v := by
        rw [Errand.value?, Option.bind_eq_some_iff]
        exact exists_congr fun document => and_congr (hdocument document).symm
          ⟨eq_ok_of_toOption, fun hdecode => by rw [hdecode]; rfl⟩
      have hanswer : r' = r₂ ∧ ∀ a, answer = .ok a ↔
          ∃ document, called = .ok document ∧ ∃ v, XmlRpc.decode document = .ok v ∧ read v = .ok a := by
        cases called with
        | error failure =>
          cases h
          exact ⟨rfl, fun a => by simp⟩
        | ok document =>
          dsimp only at h
          cases hdecode : XmlRpc.decode document with
          | error what =>
            rw [hdecode] at h
            cases h
            exact ⟨rfl, fun a => by simp [hdecode]⟩
          | ok v =>
            rw [hdecode] at h
            cases h
            exact ⟨rfl, fun a => by simp [hdecode]⟩
      obtain ⟨rfl, hanswer⟩ := hanswer
      refine ⟨hexchanges, fun a => (hanswer a).trans ⟨?_, ?_⟩⟩
      · rintro ⟨document, hcalled, v, hdecode, ha⟩
        exact ⟨v, (hvalue v).2 ⟨document, hcalled, hdecode⟩, ha⟩
      · rintro ⟨v, hv, ha⟩
        obtain ⟨document, hcalled, hdecode⟩ := (hvalue v).1 hv
        exact ⟨document, hcalled, v, hdecode, ha⟩

/-- `login` does one errand at most; if it gives credentials, that errand `LogsIn`. -/
theorem login_errand {r r' : Recorded σ} {answer : Except Failure (Option Credentials)}
    (h : (login decode env.recorded server).run.run r = (answer, r')) :
    (r'.exchanges = r.exchanges ∧ ∀ credentials, answer ≠ .ok (some credentials)) ∨
      ∃ e : Errand decode server, e.purpose = .login ∧ r'.exchanges = r.exchanges ++ e.exchanges ∧
        ∀ credentials, answer = .ok (some credentials) → e.LogsIn credentials := by
  rw [login_eq_ask] at h
  rcases ask_errand env server .login (fun identity => ⟨identity, rfl⟩) h with
    ⟨hexchanges, hanswer⟩ | ⟨e, hpurpose, hexchanges, hread⟩
  · refine .inl ⟨hexchanges, fun credentials hc => ?_⟩
    rcases hanswer with rfl | ⟨failure, rfl⟩ <;> cases hc
  · refine .inr ⟨e, hpurpose, hexchanges, fun credentials hc => ?_⟩
    obtain ⟨v, hvalue, hv⟩ := (hread _).1 hc
    exact ⟨hpurpose, v, hvalue, Except.ok.inj hv⟩

theorem channels_errand {r r' : Recorded σ} {answer : Except Failure (List Channel)}
    (h : (channels decode env.recorded server).run.run r = (answer, r')) :
    (r'.exchanges = r.exchanges ∧ ∀ channels, answer ≠ .ok channels) ∨
      ∃ e : Errand decode server, e.purpose = .listing ∧ r'.exchanges = r.exchanges ++ e.exchanges ∧
        ∀ channels, answer = .ok channels ↔ e.Lists channels := by
  rw [channels_eq_ask] at h
  rcases ask_errand env server .listing (fun identity => ⟨identity, rfl⟩) h with
    ⟨hexchanges, hanswer⟩ | ⟨e, hpurpose, hexchanges, hread⟩
  · refine .inl ⟨hexchanges, fun channels hc => ?_⟩
    rcases hanswer with rfl | ⟨failure, rfl⟩ <;> cases hc
  · refine .inr ⟨e, hpurpose, hexchanges, fun channels => ?_⟩
    rw [hread channels, Errand.Lists, and_iff_right hpurpose]

end ServerAccount

end SpacewalkAcquire
