import SpacewalkAcquire.Proofs.Effects.Failing
import SpacewalkAcquire.Proofs.OrderedMap
import SpacewalkAcquire.Proofs.XmlRpc.Scalars
import SpacewalkAcquire.Transfer

/-!
# From the answer to a login to the headers of a request

* `Credentials.get?_ofValue` : credentials are the scalar members of the answer;
* `Credentials.headers_cases` : headers are the required credentials, in order, or the first absent one is missed;
* `Transfer.httpHeaders_of_headers` : all of them are sent, or the first that no header can hold is refused;
* `Transfer.headers_contentRequest` : a request for content carries them as they are.
-/

namespace SpacewalkAcquire

/-! ## More on bindings -/

namespace Bindings

variable {κ ν : Type} [DecidableEq κ]

theorem get?_of_not_mem {m : Bindings κ ν} {key : κ} (h : key ∉ m.map Prod.fst) : m.get? key = none := by
  induction m with
  | nil => rfl
  | cons p rest ih =>
    rw [List.map_cons, List.mem_cons, not_or] at h
    rw [get?, if_neg (Ne.symm h.1), ih h.2]

theorem get?_eq_some_iff {m : Bindings κ ν} (h : (m.map Prod.fst).Nodup) {key : κ} {value : ν} :
    m.get? key = some value ↔ (key, value) ∈ m := by
  induction m with
  | nil => exact ⟨fun h => (nomatch h), fun h => (nomatch h)⟩
  | cons p rest ih =>
    obtain ⟨k, v⟩ := p
    rw [List.map_cons, List.nodup_cons] at h
    rw [get?, List.mem_cons, Prod.mk.injEq]
    by_cases hkey : k = key
    · subst hkey
      have hnot : (k, value) ∉ rest := fun hm => h.1 (List.mem_map.2 ⟨(k, value), hm, rfl⟩)
      rw [if_pos rfl, Option.some.injEq]
      exact ⟨fun hv => .inl ⟨rfl, hv.symm⟩, fun hv => hv.elim (fun hv => hv.2.symm) fun hm => (hnot hm).elim⟩
    · rw [if_neg hkey, ih h.2]
      exact ⟨.inr, fun hv => hv.elim (fun hv => (hkey hv.1.symm).elim) id⟩

theorem get?_filterMap {μ : Type} {f : ν → Option μ} {m : Bindings κ ν} (hm : (m.map Prod.fst).Nodup) (key : κ) :
    get? (m.filterMap fun p => (f p.2).map fun x => (p.1, x)) key = (m.get? key).bind f := by
  induction m with
  | nil => rfl
  | cons p rest ih =>
    rw [List.map_cons, List.nodup_cons] at hm
    rw [List.filterMap_cons, get?]
    by_cases hkey : p.1 = key
    · rw [if_pos hkey, Option.bind_some]
      cases hf : f p.2 with
      | none =>
        have hrest : get? rest key = none := get?_of_not_mem (hkey ▸ hm.1)
        rw [Option.map_none]
        exact (ih hm.2).trans (by rw [hrest, Option.bind_none])
      | some x =>
        rw [Option.map_some]
        dsimp only
        rw [get?, if_pos hkey]
    · rw [if_neg hkey]
      cases hf : f p.2 with
      | none => exact ih hm.2
      | some x =>
        rw [Option.map_some]
        dsimp only
        rw [get?, if_neg hkey, ih hm.2]

omit [DecidableEq κ] in
theorem keys_filterMap_sublist {μ : Type} (f : ν → Option μ) (m : Bindings κ ν) :
    ((m.filterMap fun p => (f p.2).map fun x => (p.1, x)).map Prod.fst).Sublist (m.map Prod.fst) := by
  induction m with
  | nil => exact .slnil
  | cons p rest ih =>
    rw [List.filterMap_cons]
    cases f p.2 with
    | none => exact ih.cons p.1
    | some x => exact ih.cons_cons p.1

end Bindings

namespace OrderedMap

variable {κ ν : Type} [DecidableEq κ]

theorem entries_ofList {pairs : List (κ × ν)} (h : (pairs.map Prod.fst).Nodup) : (ofList pairs).entries = pairs := by
  have hdistinct : ((empty : OrderedMap κ ν).entries.map Prod.fst ++ pairs.map Prod.fst).Nodup := h
  have hfold := foldl_insert id empty hdistinct
  simpa [ofList, empty] using hfold

end OrderedMap

/-! ## Credentials in an answer -/

namespace Credentials

theorem get?_ofValue {v : XmlRpc.Value} {credentials : Credentials} (h : ofValue? v = some credentials) :
    ∃ members, v = .struct members ∧ ((members.map Prod.fst).Nodup → ∀ name,
      credentials.get? name = (Bindings.get? members name).bind XmlRpc.Value.scalarText?) := by
  cases v with
  | struct members =>
    refine ⟨members, rfl, fun hmembers name => ?_⟩
    cases h
    have hnodup : ((members.filterMap fun p => p.2.scalarText?.map fun text => (p.1, text)).map Prod.fst).Nodup :=
      (Bindings.keys_filterMap_sublist _ members).nodup hmembers
    rw [OrderedMap.get?, OrderedMap.entries_ofList hnodup]
    exact Bindings.get?_filterMap hmembers name
  | _ => cases h

def texts (credentials : Credentials) : List (String × String) :=
  required.map fun name => (name, (credentials.get? name).getD "")

/-- The credentials of `names` are all there and are collected with their texts, or the first absent one is missed. -/
theorem collect_cases (credentials : Credentials) (names : List String) (collected : OrderedMap String String) :
    (∀ name ∈ names, ∃ text, credentials.get? name = some text) ∧ collect credentials collected names =
      .ok (collected.insertAll (names.map fun name => (name, (credentials.get? name).getD ""))) ∨
    ∃ name, names.find? (fun name => (credentials.get? name).isNone) = some name ∧
      collect credentials collected names = .error (.missingCredential name) := by
  induction names generalizing collected with
  | nil => exact .inl ⟨List.forall_mem_nil _, rfl⟩
  | cons name rest ih =>
    rw [collect, List.find?_cons, List.map_cons]
    cases hname : credentials.get? name with
    | none => exact .inr ⟨name, rfl, rfl⟩
    | some text =>
      rcases ih (collected.insert name text) with ⟨hrest, hcollect⟩ | ⟨missed, hmissed, hcollect⟩
      · exact .inl ⟨List.forall_mem_cons.2 ⟨⟨text, hname⟩, hrest⟩, hcollect⟩
      · exact .inr ⟨missed, hmissed, hcollect⟩

theorem keys_texts (credentials : Credentials) : credentials.texts.map Prod.fst = required := by
  simp [texts, Function.comp_def]

/-- All `required` credentials are there, and the headers are their texts and `redirectCapability`; or the first of them
that is absent is missed. -/
theorem headers_cases (credentials : Credentials) :
    (∃ headers, credentials.headers = .ok headers ∧
      (∀ name ∈ required, ∃ text, credentials.get? name = some text) ∧
      headers.entries = credentials.texts ++ [redirectCapability]) ∨
    ∃ name, required.find? (fun name => (credentials.get? name).isNone) = some name ∧
      credentials.headers = .error (.missingCredential name) := by
  unfold headers
  rcases collect_cases credentials required .empty with ⟨hsome, hcollect⟩ | ⟨name, hname, hcollect⟩
  · have hentries : (OrderedMap.ofList credentials.texts).entries = credentials.texts :=
      OrderedMap.entries_ofList (by rw [keys_texts]; decide)
    have hnew : redirectCapability.1 ∉ (OrderedMap.ofList credentials.texts).entries.map Prod.fst := by
      rw [hentries, keys_texts]
      decide
    refine .inl ⟨_, by rw [hcollect]; rfl, hsome, (Bindings.insert_of_not_mem hnew _).trans ?_⟩
    rw [hentries]
  · exact .inr ⟨name, hname, by rw [hcollect]; rfl⟩

theorem entries_headers {credentials : Credentials} {headers : OrderedMap String String}
    (h : credentials.headers = .ok headers) :
    (∀ name ∈ required, ∃ text, credentials.get? name = some text) ∧
      headers.entries = credentials.texts ++ [redirectCapability] := by
  rcases headers_cases credentials with ⟨headers', hheaders', hcomplete⟩ | ⟨_, -, hmissing⟩
  · cases h.symm.trans hheaders'
    exact hcomplete
  · cases h.symm.trans hmissing

theorem keys_headers {credentials : Credentials} {headers : OrderedMap String String}
    (h : credentials.headers = .ok headers) : headers.entries.map Prod.fst = required ++ [redirectCapability.1] := by
  rw [(entries_headers h).2, List.map_append, keys_texts]
  rfl

end Credentials

namespace Transfer

def wireName (name : String) : String := String.ofList (Text.asciiLower name.toList)

def IsSendable (header : String × String) : Prop := ∀ c ∈ header.2.toList, isHeaderChar c = true

instance (header : String × String) : Decidable (IsSendable header) :=
  List.decidableBAll (fun c => isHeaderChar c = true) header.2.toList

def refusal (header : String × String) : Failure :=
  .authentication s!"Invalid value for {wireName header.1}: failed to parse header value"

/-- Headers are collected under their `wireName`, unless one is not `IsSendable`. -/
theorem httpHeaders_cases (headers : OrderedMap String String) :
    (∀ header ∈ headers.entries, IsSendable header) ∧
      httpHeaders headers = .ok (.ofList (headers.entries.map fun header => (wireName header.1, header.2))) ∨
    ∃ header, headers.entries.find? (fun header => ¬ IsSendable header) = some header ∧
      httpHeaders headers = .error (refusal header) := by
  unfold httpHeaders OrderedMap.ofList
  generalize OrderedMap.empty = collected
  generalize headers.entries = entries
  induction entries generalizing collected with
  | nil => exact .inl ⟨List.forall_mem_nil _, rfl⟩
  | cons header rest ih =>
    have hall : header.2.toList.all isHeaderChar = true ↔ IsSendable header := List.all_eq_true
    rw [List.foldlM_cons, List.find?_cons]
    by_cases hsend : IsSendable header
    · rw [if_pos (hall.2 hsend), decide_eq_false (not_not_intro hsend)]
      rcases ih (collected.insert (wireName header.1) header.2) with ⟨hrest, hsent⟩ | ⟨refused, hrefused, hfailed⟩
      · exact .inl ⟨List.forall_mem_cons.2 ⟨hsend, hrest⟩, hsent⟩
      · exact .inr ⟨refused, hrefused, hfailed⟩
    · rw [if_neg (mt hall.1 hsend), decide_eq_true hsend]
      exact .inr ⟨header, rfl, rfl⟩

theorem nodup_wireNames {credentials : Credentials} {headers : OrderedMap String String}
    (h : credentials.headers = .ok headers) :
    ((headers.entries.map fun header => (wireName header.1, header.2)).map Prod.fst).Nodup := by
  have hwire : (headers.entries.map fun header => (wireName header.1, header.2)).map Prod.fst =
      (headers.entries.map Prod.fst).map wireName := by
    simp [Function.comp_def]
  rw [hwire, Credentials.keys_headers h]
  decide

/-- Headers are all sent under their `wireName`, with their values, or one of the values is not `IsSendable`. -/
theorem httpHeaders_of_headers {credentials : Credentials} {headers : OrderedMap String String}
    (h : credentials.headers = .ok headers) :
    (∃ sent, httpHeaders headers = .ok sent ∧ (∀ header ∈ headers.entries, IsSendable header) ∧
      sent.entries = headers.entries.map fun header => (wireName header.1, header.2)) ∨
    ∃ header, headers.entries.find? (fun header => ¬ IsSendable header) = some header ∧
      httpHeaders headers = .error (refusal header) := by
  rcases httpHeaders_cases headers with ⟨hsend, hsent⟩ | hrefused
  · exact .inl ⟨_, hsent, hsend, OrderedMap.entries_ofList (nodup_wireNames h)⟩
  · exact .inr hrefused

/-- `withHeaders` changes nothing else of a request. -/
theorem withHeaders_eq (r : Http.Request) (headers : OrderedMap String String) :
    r.withHeaders headers =
      { r with headers := headers.entries.foldl (fun m p => m.insert p.1 p.2) r.headers } := by
  unfold Http.Request.withHeaders
  generalize headers.entries = entries
  induction entries generalizing r with
  | nil => rfl
  | cons p rest ih => exact ih (r.withHeader p.1 p.2)

theorem verb_contentRequest (address : Url) (headers : OrderedMap String String) :
    (contentRequest address headers).verb = .get := by
  rw [contentRequest, withHeaders_eq]
  unfold Http.Request.ofUrl
  cases Http.Request.authorization? address <;> rfl

theorem url_contentRequest (address : Url) (headers : OrderedMap String String) :
    (contentRequest address headers).url = (Http.Request.ofUrl .get address).url := by
  rw [contentRequest, withHeaders_eq]

end Transfer

end SpacewalkAcquire
