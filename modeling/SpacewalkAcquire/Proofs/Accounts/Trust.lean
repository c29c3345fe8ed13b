import SpacewalkAcquire.Proofs.Accounts.Channels
import SpacewalkAcquire.Proofs.Accounts.Errand
import SpacewalkAcquire.Proofs.World

/-!
# Trust in a world

Whom a connection trusts is looked up when it is prepared, in the files as they are then.

* `Failure.isTls` : a failure for want of trust;
* `World.prepared w server encrypted` : the connection that is prepared in `w`, or the failure to do so;
* `World.callFault? w server` : why no call to the server is made in `w`, if that is for want of trust;
* `ServerAccount.ask_trust`, `login_trust`, `channels_trust` : then it is the failure of every call, and otherwise no
  failure of a call is one of trust.
-/

namespace SpacewalkAcquire

def Failure.isTls : Failure → Bool
  | .tls _ => true
  | _ => false

namespace World

/-! ## Connections -/

def certificates (w : World) : List String → Except Failure (List Bytes)
  | [] => .ok []
  | file :: rest =>
    match w.files.read file with
    | .error e => .error (.tls s!"cannot read CA certificate {file}: {e.message}")
    | .ok content =>
      match w.certificateFault content with
      | some fault => .error (.tls s!"invalid CA certificate {file}: {fault}")
      | none => (w.certificates rest).map (content :: ·)

/-- The connection that is prepared in a world, or the failure to do so. -/
def prepared (w : World) (server : Server) (encrypted : Bool) : Except Failure Connection :=
  if !encrypted then .ok ⟨none, server.timeout⟩
  else if server.certificateFiles.isEmpty then .error (.tls "no CA certificate configured")
  else (w.certificates server.certificateFiles).map fun trusted => ⟨some trusted, server.timeout⟩

theorem readCertificates_eq (w : World) (files : List String) :
    readCertificates environment files w = (w.certificates files, w) := by
  induction files with
  | nil => rfl
  | cons file rest ih =>
    rw [readCertificates, certificates]
    change (match w.files.read file with | .error _ => _ | .ok _ => _ : StateM World _) w = _
    cases w.files.read file with
    | error e => rfl
    | ok content =>
      change (match w.certificateFault content with | some _ => _ | none => _ : StateM World _) w = _
      dsimp only
      cases w.certificateFault content with
      | some fault => rfl
      | none =>
        change ((readCertificates environment rest w).1.map (content :: ·), (readCertificates environment rest w).2) = _
        rw [ih]

theorem prepare_eq (w : World) (server : Server) (encrypted : Bool) :
    Connection.prepare environment server encrypted w = (w.prepared server encrypted, w) := by
  unfold Connection.prepare prepared
  cases encrypted
  · rfl
  · cases server.certificateFiles.isEmpty
    · change ((readCertificates environment server.certificateFiles w).1.map _,
        (readCertificates environment server.certificateFiles w).2) = _
      rw [readCertificates_eq]
      rfl
    · rfl

variable {w w' : World}

theorem certificates_congr (hfiles : w'.files = w.files) (hfault : w'.certificateFault = w.certificateFault)
    (files : List String) : w'.certificates files = w.certificates files := by
  induction files with
  | nil => rfl
  | cons file rest ih => rw [certificates, certificates, hfiles, hfault, ih]

theorem prepared_congr (hfiles : w'.files = w.files) (hfault : w'.certificateFault = w.certificateFault)
    (server : Server) (encrypted : Bool) : w'.prepared server encrypted = w.prepared server encrypted := by
  rw [prepared, prepared, certificates_congr hfiles hfault]

theorem isTls_of_certificates {files : List String} {e : Failure} (h : w.certificates files = .error e) :
    e.isTls = true := by
  induction files with
  | nil => cases h
  | cons file rest ih =>
    rw [certificates] at h
    split at h
    · cases h
      rfl
    · split at h
      · cases h
        rfl
      · cases hrest : w.certificates rest with
        | ok trusted =>
          rw [hrest] at h
          cases h
        | error e' =>
          rw [hrest] at h
          cases h
          exact ih hrest

/-- `prepared` fails only for want of trust, and then the connection was to be encrypted. -/
theorem prepared_eq_error {server : Server} {encrypted : Bool} {e : Failure}
    (h : w.prepared server encrypted = .error e) : encrypted = true ∧ e.isTls = true := by
  unfold prepared at h
  cases encrypted with
  | false => cases h
  | true =>
    refine ⟨rfl, ?_⟩
    rw [Bool.not_true, if_neg Bool.false_ne_true] at h
    split at h
    · cases h
      rfl
    · cases hrest : w.certificates server.certificateFiles with
      | ok trusted =>
        rw [hrest] at h
        cases h
      | error e' =>
        rw [hrest] at h
        cases h
        exact isTls_of_certificates hrest

/-! ## Calls -/

def textOf (w : World) (path : String) : Except FileError String :=
  (w.files.read path).bind fun content => (Text.ofUtf8? content).elim (.error .notText) .ok

theorem readText_eq (w : World) (path : String) : environment.readText path w = (w.textOf path, w) := by
  have hread : environment.readFile path w = (w.files.read path, w) := rfl
  simp only [textOf, Environment.readText, bind, StateT.bind, hread]
  cases w.files.read path <;> rfl

/-- Why no call to `server` is made, if that is for want of trust: there is an identity to present, but no connection
can be `prepared` for it. -/
def callFault? (w : World) (server : Server) : Option Failure :=
  match w.textOf server.systemIdFile, w.prepared server (server.base.scheme = "https") with
  | .ok _, .error e => some e
  | _, _ => none

theorem callFault?_congr (hfiles : w'.files = w.files) (hfault : w'.certificateFault = w.certificateFault)
    (server : Server) : w'.callFault? server = w.callFault? server := by
  rw [callFault?, callFault?, textOf, textOf, hfiles, prepared_congr hfiles hfault]

/-- A `callFault?` is there only if the address of the server asks for encryption. -/
theorem callFault?_eq_some {server : Server} {e : Failure} (h : w.callFault? server = some e) :
    server.base.scheme = "https" ∧ w.prepared server true = .error e ∧ e.isTls = true ∧
      ∃ identity, w.textOf server.systemIdFile = .ok identity := by
  unfold callFault? at h
  split at h
  · next identity e' hidentity hprepared =>
    cases h
    obtain ⟨hscheme, htls⟩ := prepared_eq_error hprepared
    rw [hscheme] at hprepared
    exact ⟨of_decide_eq_true hscheme, hprepared, htls, identity, hidentity⟩
  · cases h

end World

namespace ServerAccount

open World

variable {decode : Http.Decoder}

theorem run_systemId (server : Server) (w : World) :
    (systemId environment server).run.run w = match w.textOf server.systemIdFile with
      | .ok identity => (.ok (some identity), w)
      | .error .notFound => (.ok none, w)
      | .error e => (.error (.pipe s!"Failed to read system id {server.systemIdFile}" e.message), w) := by
  have hread : (liftM (environment.readText server.systemIdFile) : ExceptT Failure (StateM World) _).run.run w =
      (.ok (w.textOf server.systemIdFile), w) := by
    rw [run_lift_state, readText_eq]
  rw [systemId, run_bind_state, hread]
  dsimp only
  rcases w.textOf server.systemIdFile with e | identity
  · cases e <;> rfl
  · rfl

/-- No failure of `answerOf` is one for want of trust. -/
theorem answerOf_trust {method : String} {result : Except String Http.Reply} {e : Failure}
    (h : answerOf decode method result = .error e) : e.isTls = false := by
  unfold answerOf at h
  split at h
  · cases h
    rfl
  · split at h
    · cases h
      rfl
    · split at h
      · cases h
        rfl
      · cases h

/-- `ask` fails with the `callFault?` if there is one, and else not for want of trust. -/
theorem ask_trust {α : Type} (server : Server) {method : String} {unregistered : Except Failure α}
    {refusal : XmlRpc.ResponseError → Failure} {read : XmlRpc.Value → Except Failure α}
    (hunregistered : ∀ e, unregistered = .error e → e.isTls = false) (hrefusal : ∀ why, (refusal why).isTls = false)
    (hread : ∀ v e, read v = .error e → e.isTls = false) (w : World) :
    match w.callFault? server with
    | some e => (ask server decode environment method unregistered refusal read).run.run w = (.error e, w)
    | none => ∀ e w', (ask server decode environment method unregistered refusal read).run.run w = (.error e, w') →
        e.isTls = false := by
  unfold callFault? ask
  rw [run_bind_state, run_systemId]
  cases w.textOf server.systemIdFile with
  | error e =>
    intro e' w' h
    cases e with
    | notFound => exact hunregistered e' (congrArg Prod.fst h)
    | _ =>
      cases h
      rfl
  | ok identity =>
    dsimp only
    rw [run_bind_state, run_call, prepare_eq]
    cases w.prepared server (server.base.scheme = "https") with
    | error e => rfl
    | ok connection =>
      intro e w' h
      dsimp only at h
      generalize Http.send (environment.exchange connection) (callRequest server method [identity]) w = sent at h
      cases hanswer : answerOf decode method sent.1 with
      | error e' =>
        rw [hanswer] at h
        cases h
        exact answerOf_trust hanswer
      | ok document =>
        rw [hanswer] at h
        dsimp only at h
        cases hdecode : XmlRpc.decode document with
        | error why =>
          rw [hdecode] at h
          cases h
          exact hrefusal why
        | ok v =>
          rw [hdecode] at h
          exact hread v e (congrArg Prod.fst h)

theorem login_trust (server : Server) (w : World) :
    match w.callFault? server with
    | some e => (login decode environment server).run.run w = (.error e, w)
    | none => ∀ e w', (login decode environment server).run.run w = (.error e, w') → e.isTls = false := by
  rw [login_eq_ask]
  refine ask_trust server (fun _ h => ?_) (fun _ => rfl) (fun _ _ h => ?_) w <;> cases h

theorem listOfValue_trust {v : XmlRpc.Value} {e : Failure} (h : Channel.listOfValue v = .error e) :
    e.isTls = false := by
  obtain ⟨reason, rfl⟩ := Channel.listOfValue_error h
  rfl

theorem channels_trust (server : Server) (w : World) :
    match w.callFault? server with
    | some e => (channels decode environment server).run.run w = (.error e, w)
    | none => ∀ e w', (channels decode environment server).run.run w = (.error e, w') → e.isTls = false := by
  rw [channels_eq_ask]
  refine ask_trust server (fun _ h => ?_) (fun _ => rfl) (fun _ _ => listOfValue_trust) w
  cases h
  rfl

end ServerAccount

end SpacewalkAcquire
