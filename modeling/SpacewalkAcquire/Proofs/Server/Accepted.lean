import SpacewalkAcquire.Proofs.Url.Authority
import SpacewalkAcquire.Server

/-!
# Accepted configurations

What a configuration promises that was read from a settings file.

* `Settings.Sound`, `Settings.sound_read` : no list of a settings file has an empty item;
* `Server.addressOf_eq_ok`, `addressOf_of_text`, `ofSettings_eq_ok` : what it takes for settings to be accepted;
* `Server.Accepted settings` : what an accepted configuration has to do with its settings;
* `Server.contentAddress_eq_ok` : the address of a content path, which there always is;
* `Server.ContentAt authority` : how such an address relates to the configuration;
* `Server.accepted_contentAt` : both, for every settings file and every path.
-/

namespace SpacewalkAcquire

/-! ## Settings -/

namespace Settings

def Sound (settings : Settings) : Prop := ∀ key items, settings.get? key = some (.list items) → "" ∉ items

theorem nonEmpty_read {raw : List Char} {items : List String} (h : Setting.read raw = .list items) : "" ∉ items := by
  unfold Setting.read at h
  dsimp only at h
  split at h
  · cases h
    intro hm
    obtain ⟨piece, hpiece, hempty⟩ := List.mem_map.1 hm
    have hne : piece ≠ [] := of_decide_eq_true (List.mem_filter.1 hpiece).2
    exact hne (String.ofList_eq_empty_iff.1 hempty)
  · split at h <;> cases h

theorem Sound.insert {settings : Settings} (h : settings.Sound) {line : List Char} {key : String} {value : Setting}
    (hline : Line.read line = .binding key value) : Sound (settings.insert key value) := by
  intro key' items hget
  rw [OrderedMap.get?_insert] at hget
  split at hget
  · cases hget
    unfold Line.read at hline
    dsimp only at hline
    split at hline
    · cases hline
    · split at hline
      · cases hline
      · split at hline
        · cases hline
        · split at hline
          · cases hline
          · injection hline with _ hvalue
            exact nonEmpty_read hvalue
  · exact h key' items hget

theorem Sound.readLines {number : Nat} {settings settings' : Settings} {lines : List (List Char)}
    (h : settings.Sound) (hread : readLines number settings lines = .ok settings') : settings'.Sound := by
  induction lines generalizing number settings with
  | nil =>
    cases hread
    exact h
  | cons line rest ih =>
    rw [Settings.readLines] at hread
    split at hread
    · exact ih h hread
    · cases hread
    · next hline => exact ih (h.insert hline) hread

theorem sound_read {content : String} {settings : Settings} (h : read content = .ok settings) : settings.Sound :=
  Sound.readLines (fun _ _ hget => by cases hget) h

theorem toString_int_ne_empty (n : Int) : toString n ≠ "" := by
  intro hempty
  have hchars : (toString n).toList = [] := by rw [hempty]; rfl
  rw [Int.toString_eq_repr, Int.repr_eq_if] at hchars
  split at hchars
  · rw [Nat.toList_repr] at hchars
    exact Nat.toDigits_ne_nil hchars
  · simp at hchars

theorem empty_not_mem_list {settings : Settings} (h : settings.Sound) (key : String) : "" ∉ settings.list key := by
  unfold list
  split
  · next items hget => exact h key items hget
  · split
    · exact List.not_mem_nil
    · next hs => exact fun hm => hs (by rw [← List.mem_singleton.1 hm]; rfl)
  · next n _ =>
    exact fun hm => toString_int_ne_empty n (List.mem_singleton.1 hm).symm
  · exact List.not_mem_nil

end Settings

/-! ## The configuration -/

namespace Server

variable {settings : Settings} {server : Server}

theorem addressOf_eq_ok {base : Url} (h : addressOf settings = .ok base) :
    ∃ raw, settings.text? "serverURL" = some raw ∧ Url.read raw = .ok base ∧
      (base.scheme = "http" ∨ base.scheme = "https") := by
  unfold addressOf at h
  dsimp only at h
  split at h
  · next raw htext =>
    rw [pure_bind] at h
    split at h
    · next url hread =>
      rw [pure_bind] at h
      split at h
      · cases h
      · next hscheme =>
        split at h
        · cases h
        · cases h
          refine ⟨raw, htext, hread, ?_⟩
          by_contra hneither
          rw [not_or] at hneither
          exact hscheme (by simpa using hneither)
    · cases h
  · cases h

theorem isSome_defaultPort {base : Url} (h : base.scheme = "http" ∨ base.scheme = "https") :
    (Url.defaultPort? base.scheme).isSome = true := by
  rcases h with h | h <;> rw [h] <;> rfl

theorem addressOf_of_text {base : Url} {url : String} (htext : settings.text? "serverURL" = some url)
    (hurl : Url.read url = .ok base) (hscheme : base.scheme = "http" ∨ base.scheme = "https") :
    addressOf settings = .ok base := by
  have hhost : base.host?.isNone = false := by
    rw [← Option.not_isSome, (Url.onNetwork_read hurl (isSome_defaultPort hscheme)).host_isSome]
    rfl
  have hknown : (base.scheme ≠ "http" && base.scheme ≠ "https") = false := by
    rcases hscheme with hscheme | hscheme <;> rw [hscheme] <;> rfl
  unfold addressOf
  rw [htext]
  dsimp only
  rw [pure_bind, hurl]
  dsimp only
  rw [pure_bind, hknown, hhost]
  rfl

/-- What a configuration that `ofSettings` accepts has to do with its settings. -/
structure Accepted (settings : Settings) (server : Server) : Prop where
  address : addressOf settings = .ok server.base
  useTls : server.useTls = true ↔ server.base.scheme = "https" ∧ settings.flag "useNoSSLForPackages" = false
  certificateFiles : server.certificateFiles = settings.list "sslCACert"
  certified : server.useTls = true → server.certificateFiles ≠ []
  timeout : ∀ n, server.timeout = some n → 1 ≤ n

theorem ofSettings_eq_ok (h : ofSettings settings = .ok server) : Accepted settings server := by
  unfold ofSettings at h
  rw [bind_eq_ok] at h
  obtain ⟨base, hbase, h⟩ := h
  dsimp only at h
  split at h
  · cases h
  · next hcertified =>
    cases h
    refine ⟨hbase, by simp, rfl, fun htls hnone => hcertified ?_, fun n hn => ?_⟩
    · rw [Bool.and_eq_true, List.isEmpty_iff]
      exact ⟨htls, hnone⟩
    · obtain ⟨i, -, hi⟩ := Option.bind_eq_some_iff.1 hn
      split at hi
      · cases hi
        omega
      · cases hi

/-- What a client may rely on in a configuration. -/
structure Sound (settings : Settings) (server : Server) : Prop where
  scheme : server.base.scheme = "http" ∨ server.base.scheme = "https"
  host : ∃ host, server.base.hostText? = some host ∧ host ≠ ""
  useTls : server.useTls = true ↔ server.base.scheme = "https" ∧ settings.flag "useNoSSLForPackages" = false
  certified : server.useTls = true → server.certificateFiles ≠ []
  certificateFiles : "" ∉ server.certificateFiles
  timeout : ∀ n, server.timeout = some n → 1 ≤ n

theorem Accepted.defaultPort_isSome (h : Accepted settings server) :
    (Url.defaultPort? server.base.scheme).isSome = true := by
  obtain ⟨raw, -, -, hscheme⟩ := addressOf_eq_ok h.address
  exact isSome_defaultPort hscheme

theorem Accepted.onNetwork (h : Accepted settings server) : server.base.OnNetwork := by
  obtain ⟨raw, -, hread, -⟩ := addressOf_eq_ok h.address
  exact Url.onNetwork_read hread h.defaultPort_isSome

theorem Accepted.sound (h : Accepted settings server) (hsettings : settings.Sound) : server.Sound settings := by
  obtain ⟨raw, -, -, hscheme⟩ := addressOf_eq_ok h.address
  refine ⟨hscheme, h.onNetwork.exists_hostText, h.useTls, h.certified, ?_, h.timeout⟩
  rw [h.certificateFiles]
  exact Settings.empty_not_mem_list hsettings _

/-! ## Content addresses -/

/-- Where the content of a server is found: its host and its user, by TLS or not as it wants it, at its written port or
else at the default one. -/
structure Holds (server : Server) (u : Url) : Prop where
  scheme : u.scheme = if server.useTls then "https" else "http"
  host : u.host? = server.base.host?
  userinfo : u.authority.map (fun a => (a.username, a.password)) =
    server.base.authority.map fun a => (a.username, a.password)
  port : u.effectivePort? = (server.base.port? <|> Url.defaultPort? u.scheme)

/-- There is a URL that `Holds` the content, and the address of a path differs from it in the path only: the case that
the scheme cannot be exchanged does not arise. -/
theorem Accepted.exists_site (h : Accepted settings server) :
    ∃ site : Url, site.OnNetwork ∧ server.Holds site ∧
      ∀ path, server.contentAddress path = .ok (site.withPath path).withoutTail := by
  obtain ⟨raw, -, -, hscheme⟩ := addressOf_eq_ok h.address
  by_cases hkeep : (server.useTls || server.base.scheme = "http") = true
  · refine ⟨server.base, h.onNetwork, ⟨?_, rfl, rfl, rfl⟩, fun path => ?_⟩
    · cases htls : server.useTls with
      | true => exact (h.useTls.1 htls).1
      | false => simpa [htls] using hkeep
    · rw [contentAddress, if_pos hkeep]
      rfl
  · rw [Bool.or_eq_true, not_or, Bool.not_eq_true, decide_eq_true_iff] at hkeep
    have hhttp : (Url.defaultPort? "http").isSome = true := rfl
    obtain ⟨site, hsite, hnetwork, hplain, hhost, huserinfo, hport⟩ :=
      h.onNetwork.exists_withScheme (Url.isSpecial_of_defaultPort h.defaultPort_isSome) hhttp
    refine ⟨site, hnetwork, ⟨?_, hhost, huserinfo, by rw [hplain]; exact hport⟩, fun path => ?_⟩
    · rw [hkeep.1]
      exact hplain
    · rw [contentAddress, if_neg (by simpa using hkeep), hsite]
      rfl

/-- The address of a content path: where the server holds its content, with an authority that does not depend on the
path, and nothing but a path behind it. Cutting the written form at its marks gives these parts back. -/
structure ContentAt (server : Server) (authority : String) (u : Url) : Prop extends server.Holds u where
  text : u.text = u.scheme ++ "://" ++ authority ++ u.pathText
  path : u.pathText.toList.head? = some '/'
  pathChars : ∀ c ∈ u.pathText.toList, Percent.IsCoded Percent.path c ∧ c ≠ '\\'
  query : u.query = none
  fragment : u.fragment = none

theorem Holds.contentAt {site : Url} (hsite : server.Holds site) (hnetwork : site.OnNetwork)
    (hport : (Url.defaultPort? site.scheme).isSome = true) {authority : String}
    (hauthority : site.authorityText = "//" ++ authority) (path : String) :
    server.ContentAt authority (site.withPath path).withoutTail := by
  have hclean := Path.clean_read true (Url.significant path.toList)
  have hslash : Percent.IsCoded Percent.path '/' ∧ '/' ≠ '\\' := by decide
  rw [hnetwork.withoutTail_withPath hport]
  refine ⟨⟨hsite.scheme, hsite.host, hsite.userinfo, hsite.port⟩, ?_, Path.head?_text (Path.read_ne_nil _), ?_, rfl, rfl⟩
  · have hsame (path : UrlPath) (query fragment : Option String) :
        { site with path := path, query := query, fragment := fragment : Url }.authorityText = site.authorityText := rfl
    have hmarks : (":" : String) ++ "//" = "://" := by decide
    rw [Url.text, hsame, hauthority, ← hmarks]
    simp only [Url.pathText, String.append_assoc, String.append_empty]
  · intro c hc
    rcases hclean.mem_text hc with rfl | ⟨hcoded, hdivides⟩
    · exact hslash
    · refine ⟨hcoded, ?_⟩
      rintro rfl
      exact absurd hdivides (by decide)

/-- Every settings file that is accepted gives a configuration that can be relied on, and then every path has an
address, which the path cannot lead elsewhere. -/
theorem sound_contentAt {content : String} (hsettings : Settings.read content = .ok settings)
    (hserver : ofSettings settings = .ok server) :
    server.Sound settings ∧
      ∃ authority : String, (∀ d ∈ ['/', '\\', '?', '#'], d ∉ authority.toList) ∧
        ∀ path, ∃ u, server.contentAddress path = .ok u ∧ server.ContentAt authority u := by
  have h := ofSettings_eq_ok hserver
  refine ⟨h.sound (Settings.sound_read hsettings), ?_⟩
  obtain ⟨site, hnetwork, hsite, haddress⟩ := h.exists_site
  obtain ⟨authority, hauthority, hmarks⟩ := hnetwork.exists_authorityText
  have hdelimiters : ∀ d ∈ ['/', '\\', '?', '#'], d ∈ Host.delimiters ∧ d ≠ '@' := List.all_iff_forall_prop.1 (by decide)
  have hport : (Url.defaultPort? site.scheme).isSome = true := by
    rw [hsite.scheme]
    cases server.useTls <;> rfl
  refine ⟨authority, fun d hd => hmarks d (hdelimiters d hd).1 (hdelimiters d hd).2, fun path => ?_⟩
  exact ⟨_, haddress path, hsite.contentAt hnetwork hport hauthority path⟩

/-- Content over plain HTTP although the address is one of TLS: the port stays, now as the default one, and marks in
the path stay in the path. -/
theorem sound_contentAt_noTls :
    let settings : Settings :=
      .ofList [("serverURL", .text "https://u:p@h:80/XMLRPC"), ("useNoSSLForPackages", .integer 1)]
    let base : Url :=
      ⟨"https", some ⟨"u", some "p", .name "h", some 80⟩, .segments ["XMLRPC"], false, none, none⟩
    let server : Server := ⟨base, false, [], standardSystemIdFile, none⟩
    Settings.read "serverURL=https://u:p@h:80/XMLRPC\nuseNoSSLForPackages=1\n" = .ok settings ∧
      ofSettings settings = .ok server ∧
      (server.Sound settings ∧
        ∃ authority : String, (∀ d ∈ ['/', '\\', '?', '#'], d ∉ authority.toList) ∧
          ∀ path, ∃ u, server.contentAddress path = .ok u ∧ server.ContentAt authority u) ∧
      (server.contentAddress "//x/..\\@y:1?z#").map Url.text = .ok "http://u:p@h//@y:1%3Fz%23" := by
  intro settings base server
  have hsettings : Settings.read "serverURL=https://u:p@h:80/XMLRPC\nuseNoSSLForPackages=1\n" = .ok settings :=
    eq_ok_of_toOption (by decide +kernel)
  have hserver : ofSettings settings = .ok server := eq_ok_of_toOption (by decide +kernel)
  exact ⟨hsettings, hserver, sound_contentAt hsettings hserver, eq_ok_of_toOption (by decide +kernel)⟩

end Server

end SpacewalkAcquire
