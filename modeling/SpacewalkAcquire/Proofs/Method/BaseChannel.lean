import SpacewalkAcquire.Proofs.Accounts.Channels
import SpacewalkAcquire.Proofs.Method.Contact

/-!
# The base channel of a run

* `Errand.Fruitless` : an errand that is not for a document, and no listing with a base channel;
* `Errand.Directed label` : an errand behind a listing: no listing, and for a document at a path made with that label;
* `Channelled errands` : nothing but fruitless errands before the first listing with a base channel, and behind it
  errands that are directed by its label;
* `Ledger.channelled` : so are the errands in the ledger of a session;
* `run_baseChannel` : what a listing says of the base channel, and that all documents of a run are asked for with what
  the first listing with a base channel has said.
-/

namespace SpacewalkAcquire

open Transfer

variable {σ : Type} {decode : Http.Decoder} {server : Server}

namespace Errand

/-- The errand is not for a document, and it is no listing that `Resolves` to a label. -/
def Fruitless (e : Errand decode server) : Prop := e.purpose.content? = none ∧ ∀ label, ¬ e.Resolves label

/-- The errand is no listing; if it is for a document, the path of the document is made with `label`. -/
def Directed (e : Errand decode server) (label : String) : Prop :=
  e.purpose ≠ .listing ∧ ∀ request, e.purpose = .content request → ∃ address headers,
    server.contentAddress (DocumentPath.toBackend request.uri.pathText label) = .ok address ∧
      e.request = contentRequest address headers

theorem exists_of_content {e : Errand decode server} (h : e.purpose.content? ≠ none) :
    ∃ request, e.purpose = .content request := by
  cases hpurpose : e.purpose with
  | content request => exact ⟨request, rfl⟩
  | _ =>
    rw [hpurpose] at h
    exact (h rfl).elim

end Errand

/-- Errands of which the first listing with a base channel, if there is one, decides where documents are asked for: none
is asked for before it, no listing comes behind it, and all paths behind it are made with its label. -/
def Channelled (errands : List (Errand decode server)) : Prop :=
  (∀ e ∈ errands, e.Fruitless) ∨ ∃ before listing behind label, errands = before ++ listing :: behind ∧
    (∀ e ∈ before, e.Fruitless) ∧ listing.Resolves label ∧ ∀ e ∈ behind, e.Directed label

/-- Documents are asked for with the channels of the session, which are those of the first listing that `Resolves` to a
label. -/
theorem Ledger.channelled {errands : List (Errand decode server)} {p : Session × Recorded σ}
    (h : Ledger server errands p) : Channelled errands := by
  have hlisted := h.listed
  cases hchannels : p.1.channels? with
  | none =>
    rw [hchannels] at hlisted
    refine .inl fun e he => ⟨?_, hlisted e he⟩
    by_contra hcontent
    obtain ⟨request, hpurpose⟩ := Errand.exists_of_content hcontent
    obtain ⟨earlier, later, hsplit⟩ := List.append_of_mem he
    obtain ⟨_, _, -, hsome, -⟩ := h.contents earlier e later request hsplit hpurpose
    rw [hchannels] at hsome
    cases hsome
  | some channels =>
    rw [hchannels] at hlisted
    obtain ⟨before, listing, behind, rfl, hbefore, hlists, hbehind⟩ := hlisted
    obtain ⟨label, hlabel⟩ := h.sound.channels channels hchannels
    have hentitled (earlier later : List (Errand decode server)) {e : Errand decode server} {request : Request}
        (hsplit : before ++ listing :: behind = earlier ++ e :: later) (hpurpose : e.purpose = .content request) :
        (∃ e' ∈ earlier, e'.Resolves label) ∧ ∃ address headers,
          server.contentAddress (DocumentPath.toBackend request.uri.pathText label) = .ok address ∧
            e.request = contentRequest address headers := by
      obtain ⟨_, _, -, hsome, -, ⟨e', he', hlists'⟩, label', _, sent, address, hlabel', -, -, haddress, hrequest⟩ :=
        h.contents earlier e later request hsplit hpurpose
      cases hchannels.symm.trans hsome
      cases hlabel.symm.trans hlabel'
      exact ⟨⟨e', he', Errand.resolves_iff.2 ⟨channels, hlists', hlabel⟩⟩, address, sent, haddress, hrequest⟩
    refine .inr ⟨before, listing, behind, label, rfl, fun e he => ⟨?_, hbefore e he⟩,
      Errand.resolves_iff.2 ⟨channels, hlists, hlabel⟩, fun e he => ⟨hbehind e he, fun request hpurpose => ?_⟩⟩
    · by_contra hcontent
      obtain ⟨request, hpurpose⟩ := Errand.exists_of_content hcontent
      obtain ⟨earlier, later, rfl⟩ := List.append_of_mem he
      obtain ⟨⟨e', he', hresolves⟩, -⟩ := hentitled earlier (later ++ listing :: behind) (by simp) hpurpose
      exact hbefore e' (List.mem_append_left _ he') label hresolves
    · obtain ⟨earlier, later, rfl⟩ := List.append_of_mem he
      exact (hentitled (before ++ listing :: earlier) later (by simp) hpurpose).2

namespace Method

/-- From the answer to a listing to the paths of documents: in every value of a response the base channel is that of the
last item without a parent, or its resolution fails for want of one or for a bad item. And in every run, whatever comes
in and however files, server and front end behave, no document is asked for before a listing was answered with a base
channel; all documents are asked for at paths that are made with the label from the first such listing, and there is no
other listing behind it. Recording changes nothing. -/
theorem run_baseChannel (decode : Http.Decoder) (env : Environment (StateM σ))
    (configuration : StateM σ (Except Failure Server))
    (ending : Message.Ending) (input : Bytes) (known : Option Server) (w : σ) :
    let items := Message.readAll ending input
    let sources := Sources.atServer decode env configuration
    let recorded := (run env.recorded sources items env.record).runFrom (Session.begin known, .new w)
    let plain := (run env (.ofEnvironment env (.xmlRpc decode env) configuration) items).runFrom (Session.begin known, w)
    let vs := runVisits env.recorded sources env.record items (Session.begin known, .new w)
    (∀ document v, XmlRpc.decode document = .ok v → Channel.Resolution v) ∧
      (recorded.1 = plain.1 ∧ recorded.2.1 = plain.2.1 ∧ recorded.2.2.world = plain.2.2) ∧
      (vs = [] ∧ recorded.2.2.exchanges = [] ∨
        ∃ (server : Server) (parts : List (List (Errand decode server))), configured configuration w known = .ok server ∧
          List.Forall₂ (Contact env server) vs parts ∧ recorded.2.2.exchanges = Errand.exchangesOf parts.flatten ∧
          Channelled parts.flatten) := by
  intro items sources recorded plain vs
  refine ⟨fun document v => Channel.resolution, run_recording decode env configuration items known w, ?_⟩
  rcases run_ledger decode env configuration items known w with
    hnothing | ⟨server, parts, q, hserver, hparts, hexchanges, hledger⟩
  · exact .inl hnothing
  · exact .inr ⟨server, parts, hserver, hparts, hexchanges, hledger.channelled⟩

end Method

end SpacewalkAcquire
