import SpacewalkAcquire.Proofs.Method.Logins
import SpacewalkAcquire.Proofs.Session.Coincide
import SpacewalkAcquire.Proofs.World.Alike

/-!
# Sessions that are resumed

* `Recorded.told r` : what was said, logins apart;
* `World.credentials decode w server`, `World.channels decode w server` : what a session takes from a login and from a
  listing in `w`;
* `Resumes decode w₀ server connection p` : the session in `p` may have been used before, but it holds nothing that is
  not to be had in `w₀`, and the files are those of `w₀` as long as it may want to read them;
* `ensureCredentials_resumes`, `ensureChannels_resumes`, `ensureHeaders_resumes` : so whatever was established before,
  one gets what is to be had in `w₀`.
-/

namespace SpacewalkAcquire

open SessionT

def Recorded.told {σ : Type} (r : Recorded σ) :
    List Message := r.sent.filter fun message => !Method.isAboutLogin message

/-- The credentials that a session takes from the answer to a login. -/
def Credentials.ofLogin : Except Failure (Option Credentials) → Except Failure Credentials
  | .ok (some credentials) => if credentials.isEmpty then .error .notRegistered else .ok credentials
  | .ok none => .error .notRegistered
  | .error e => .error e

def Channel.ofListing : Except Failure (List Channel) → Except Failure (List Channel)
  | .ok channels => (baseLabel channels).map fun _ => channels
  | .error e => .error e

namespace World

abbrev sources (decode : Http.Decoder) (configuration : StateM World (Except Failure Server)) :
    Sources (StateM (Recorded World)) :=
  (Sources.ofEnvironment environment (.xmlRpc decode environment) configuration).recorded

/-- The credentials that a session takes from a login in the world `w`. -/
def credentials (decode : Http.Decoder) (w : World) (server : Server) : Except Failure Credentials :=
  Credentials.ofLogin ((ServerAccount.login decode environment server).run w).1

def channels (decode : Http.Decoder) (w : World) (server : Server) : Except Failure (List Channel) :=
  Channel.ofListing ((ServerAccount.channels decode environment server).run w).1

end World

namespace Session

/-- A session that may have been used before. It holds nothing but what is to be had in `w₀`, and the files are those
of `w₀` as long as a login or a listing may still read them. -/
structure Resumes (decode : Http.Decoder) (w₀ : World) (server : Server) (connection : Connection)
    (p : Session × Recorded World) : Prop where
  base : w₀.Steady
  world : World.Alike w₀ p.2.world
  known : p.1.server? = some server
  connected : p.1.connection? = some connection
  credentials : ∀ credentials, p.1.credentials? = some credentials → w₀.credentials decode server = .ok credentials
  headers : ∀ headers, p.1.headers? = some headers →
    ∃ credentials, p.1.credentials? = some credentials ∧ credentials.headers = .ok headers
  channels : ∀ channels, p.1.channels? = some channels → w₀.channels decode server = .ok channels
  files : p.1.credentials? = none ∨ p.1.channels? = none → p.2.world.files = w₀.files

/-- From `p` to `q` nothing was said except about a login, and the files are as they were. -/
structure Still (p q : Session × Recorded World) : Prop where
  told : q.2.told = p.2.told
  files : q.2.world.files = p.2.world.files

variable {decode : Http.Decoder} {w₀ : World} {server : Server} {connection : Connection}
  {configuration : StateM World (Except Failure Server)}
  {p : Session × Recorded World}

theorem Still.refl (p : Session × Recorded World) : Still p p := ⟨rfl, rfl⟩

theorem Still.trans {p q r : Session × Recorded World} (h : Still p q) (h' : Still q r) : Still p r :=
  ⟨h'.told.trans h.told, h'.files.trans h.files⟩

theorem Resumes.withWorld (h : Resumes decode w₀ server connection p) {r : Recorded World}
    (hworld : World.Alike w₀ r.world)
    (hfiles : r.world.files = p.2.world.files) : Resumes decode w₀ server connection (p.1, r) :=
  ⟨h.base, hworld, h.known, h.connected, h.credentials, h.headers, h.channels, fun hnone => hfiles.trans (h.files hnone)⟩

theorem Resumes.withCredentials (h : Resumes decode w₀ server connection p) (hnone : p.1.credentials? = none)
    {credentials : Credentials} (hcredentials : w₀.credentials decode server = .ok credentials) :
    Resumes decode w₀ server connection ({ p.1 with credentials? := some credentials }, p.2) := by
  refine ⟨h.base, h.world, h.known, h.connected, fun given hgiven => ?_, fun headers hheaders => ?_, h.channels,
    fun _ => h.files (.inl hnone)⟩
  · cases hgiven
    exact hcredentials
  · obtain ⟨given, hgiven, -⟩ := h.headers headers hheaders
    rw [hnone] at hgiven
    cases hgiven

theorem Resumes.withHeaders (h : Resumes decode w₀ server connection p) {credentials : Credentials}
    (hcredentials : p.1.credentials? = some credentials) {headers : OrderedMap String String}
    (hheaders : credentials.headers = .ok headers) :
    Resumes decode w₀ server connection ({ p.1 with headers? := some headers }, p.2) := by
  refine ⟨h.base, h.world, h.known, h.connected, h.credentials, fun given hgiven => ?_, h.channels, h.files⟩
  cases hgiven
  exact ⟨credentials, hcredentials, hheaders⟩

theorem Resumes.withChannels (h : Resumes decode w₀ server connection p) (hnone : p.1.channels? = none)
    {channels : List Channel} (hchannels : w₀.channels decode server = .ok channels) :
    Resumes decode w₀ server connection ({ p.1 with channels? := some channels }, p.2) := by
  refine ⟨h.base, h.world, h.known, h.connected, h.credentials, h.headers, fun given hgiven => ?_,
    fun _ => h.files (.inr hnone)⟩
  cases hgiven
  exact hchannels

/-- What only reads and asks does so as in `w₀` if the files are still those of `w₀`. -/
theorem Resumes.asked (h : Resumes decode w₀ server connection p) {α : Type} {step : StateM World α}
    (hstep : (Correspondence.alike w₀ fun t t' => t = w₀.files ∧ t' = w₀.files).Rel step step)
    (hfiles : p.2.world.files = w₀.files) {a : α} {r : Recorded World} (hr : Recorded.quietly step p.2 = (a, r)) :
    (step w₀).1 = a ∧ Resumes decode w₀ server connection (p.1, r) ∧ Still p (p.1, r) := by
  obtain ⟨hvalue, halike, -, hafter, -⟩ := hstep _ w₀ h.world h.base.alike ⟨hfiles, rfl⟩
  obtain ⟨rfl, rfl⟩ := Prod.mk.inj hr
  have hsame := hafter.trans hfiles.symm
  exact ⟨hvalue.symm, h.withWorld halike hsame, rfl, hsame⟩

/-- A session that is logged in has the credentials of a login in `w₀`; any other one gets them. -/
theorem ensureCredentials_resumes (h : Resumes decode w₀ server connection p) :
    (ensureCredentials (World.sources decode configuration)).Leads p
      (fun credentials q => w₀.credentials decode server = .ok credentials ∧
        (Resumes decode w₀ server connection q ∧ q.1.credentials? = some credentials) ∧ Still p q)
      (fun e q => w₀.credentials decode server = .error e ∧ Resumes decode w₀ server connection q ∧ Still p q) := by
  unfold ensureCredentials
  refine .bind (.get ?_)
  cases hcredentials : p.1.credentials? with
  | some credentials => exact .pure ⟨h.credentials _ hcredentials, ⟨h, hcredentials⟩, .refl p⟩
  | none =>
    have hlogin {answer : Except Failure (Option Credentials)} {r : Recorded World}
        (hr : Recorded.quietly (ServerAccount.login decode World.environment server).run p.2 = (answer, r)) :=
      h.asked (Correspondence.login_rel (Correspondence.alike_queries w₀ _) server) (h.files (.inl hcredentials)) hr
    refine .bind (.of_runFrom (runFrom_ensureServer h.known)
      (.bind (.ofEnvironment (fun answer r hr => ?_) fun e r hr => ?_)))
    · obtain ⟨hvalue, hresumes, hstill⟩ := hlogin hr
      have hgranted : w₀.credentials decode server = Credentials.ofLogin (.ok answer) :=
        congrArg Credentials.ofLogin hvalue
      cases answer with
      | none => exact .throw ⟨hgranted, hresumes, hstill⟩
      | some credentials =>
        rw [Credentials.ofLogin] at hgranted
        dsimp only
        split
        · next hempty =>
          rw [if_pos hempty] at hgranted
          exact .bind (.throw ⟨hgranted, hresumes, hstill⟩)
        · next hsome =>
          rw [if_neg hsome] at hgranted
          have hkept := hresumes.withCredentials hcredentials hgranted
          exact .bind (.modify (.pure ⟨hgranted, ⟨hkept, rfl⟩, hstill.told, hstill.files⟩))
    · obtain ⟨hvalue, hresumes, hstill⟩ := hlogin hr
      exact ⟨congrArg Credentials.ofLogin hvalue, hresumes, hstill⟩

/-- A session that has listed its channels has those of a listing in `w₀`; any other one gets them. The credentials stay
as they are. -/
theorem ensureChannels_resumes (h : Resumes decode w₀ server connection p) :
    (ensureChannels (World.sources decode configuration)).Leads p
      (fun channels q => w₀.channels decode server = .ok channels ∧
        (Resumes decode w₀ server connection q ∧ q.1.credentials? = p.1.credentials? ∧ q.1.channels? = some channels) ∧
        Still p q)
      (fun e q => w₀.channels decode server = .error e ∧ Resumes decode w₀ server connection q ∧ Still p q) := by
  unfold ensureChannels
  refine .bind (.get ?_)
  cases hchannels : p.1.channels? with
  | some channels => exact .pure ⟨h.channels _ hchannels, ⟨h, rfl, hchannels⟩, .refl p⟩
  | none =>
    have hlist {answer : Except Failure (List Channel)} {r : Recorded World}
        (hr : Recorded.quietly (ServerAccount.channels decode World.environment server).run p.2 = (answer, r)) :=
      h.asked (Correspondence.channels_rel (Correspondence.alike_queries w₀ _) server) (h.files (.inr hchannels)) hr
    refine .bind (.of_runFrom (runFrom_ensureServer h.known)
      (.bind (.ofEnvironment (fun channels r hr => ?_) fun e r hr => ?_)))
    · obtain ⟨hvalue, hresumes, hstill⟩ := hlist hr
      have hlisted : w₀.channels decode server = Channel.ofListing (.ok channels) := congrArg Channel.ofListing hvalue
      rw [Channel.ofListing] at hlisted
      refine .bind (.discard (.liftExcept (fun label hlabel => ?_) fun e he => ?_))
      · rw [hlabel] at hlisted
        have hkept := hresumes.withChannels hchannels hlisted
        exact .bind (.modify (.pure ⟨hlisted, ⟨hkept, rfl, rfl⟩, hstill.told, hstill.files⟩))
      · rw [he] at hlisted
        exact ⟨hlisted, hresumes, hstill⟩
    · obtain ⟨hvalue, hresumes, hstill⟩ := hlist hr
      exact ⟨congrArg Channel.ofListing hvalue, hresumes, hstill⟩

/-- `ensureHeaders` gives the headers of the credentials, now or earlier. -/
theorem ensureHeaders_resumes (h : Resumes decode w₀ server connection p) {credentials : Credentials}
    (hcredentials : p.1.credentials? = some credentials) :
    (ensureHeaders : SessionT (StateM (Recorded World)) (OrderedMap String String)).Leads p
      (fun headers q => credentials.headers = .ok headers ∧ (Resumes decode w₀ server connection q ∧
        q.1.credentials? = p.1.credentials? ∧ q.1.channels? = p.1.channels?) ∧ Still p q)
      (fun e q => credentials.headers = .error e ∧ Resumes decode w₀ server connection q ∧ Still p q) := by
  unfold ensureHeaders
  refine .bind (.get ?_)
  cases hheaders : p.1.headers? with
  | some headers =>
    obtain ⟨given, hgiven, hvalue⟩ := h.headers headers hheaders
    rw [hcredentials] at hgiven
    cases hgiven
    exact .pure ⟨hvalue, ⟨h, rfl, rfl⟩, .refl p⟩
  | none =>
    refine .bind (.get ?_)
    rw [hcredentials]
    refine .bind (.liftExcept (fun headers hvalue => ?_) fun e he => ⟨he, h, .refl p⟩)
    exact .bind (.modify (.pure ⟨hvalue, ⟨h.withHeaders hcredentials hvalue, hcredentials, rfl⟩, rfl, rfl⟩))

end Session

end SpacewalkAcquire
