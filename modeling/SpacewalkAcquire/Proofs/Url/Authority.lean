import SpacewalkAcquire.Proofs.Effects.Failing
import SpacewalkAcquire.Proofs.Url.Host
import SpacewalkAcquire.Proofs.Url.Path

/-!
# URLs with an authority

* `Authority.Lacks d`, `Url.lacks_readAuthority` : an authority that was read has no delimiter in its parts;
  `Url.not_mem_authorityText` : nor in its written form, but for the at sign;
* `Url.read_hierarchy_or_bare` : how a URL was read, unless its scheme is `file`;
* `Url.OnNetwork` : what every URL with the scheme of a network host has; `Url.onNetwork_read`;
* `Url.OnNetwork.exists_withScheme`, `withoutTail_withPath` : another scheme and another path for such a URL.
-/

namespace SpacewalkAcquire

/-! ## Characters of an authority -/

structure Authority.Lacks (a : Authority) (d : Char) : Prop where
  username : d ∉ a.username.toList
  password : ∀ password, a.password = some password → d ∉ password.toList
  host : d ∉ a.host.text.toList

namespace Url

section Delimiters

variable {d : Char} (hd : d ∈ Host.delimiters)
include hd

theorem not_mem_encode_userinfo (cs : List Char) : d ∉ (String.ofList (Percent.encode Percent.userinfo cs)).toList := by
  have hset : ∀ d ∈ Host.delimiters, Percent.userinfo d = true := List.all_iff_forall_prop.1 (by decide)
  rw [String.toList_ofList]
  intro hm
  rcases Percent.mem_encode hm with ⟨-, hcoded⟩ | hm
  · exact absurd ((hset d hd).symm.trans hcoded.2) (by decide)
  · exact Host.not_mem_escapes_of_delimiter hd hm

theorem not_mem_readUserinfo {special : Bool} {cs rest : List Char} {username : String} {password : Option String}
    (h : readUserinfo special cs = .ok (username, password, rest)) :
    d ∉ username.toList ∧ ∀ password', password = some password' → d ∉ password'.toList := by
  have hempty : d ∉ "".toList := List.not_mem_nil
  unfold readUserinfo at h
  dsimp only at h
  split at h
  · cases h
    exact ⟨hempty, fun _ hp => nomatch hp⟩
  · split at h
    · cases h
    · cases h
      exact ⟨hempty, fun _ hp => nomatch hp⟩
  · split at h
    · cases h
      exact ⟨not_mem_encode_userinfo hd _, fun _ hp => nomatch hp⟩
    · cases h
      exact ⟨not_mem_encode_userinfo hd _, fun _ hp => nomatch hp⟩
    · cases h
      refine ⟨not_mem_encode_userinfo hd _, fun password hp => ?_⟩
      cases hp
      exact not_mem_encode_userinfo hd _

theorem lacks_readAuthority {scheme : String} {cs rest : List Char} {a : Authority}
    (h : readAuthority scheme cs = .ok (a, rest)) : a.Lacks d := by
  unfold readAuthority at h
  rw [bind_eq_ok] at h
  obtain ⟨⟨username, password, cs'⟩, huserinfo, h⟩ := h
  obtain ⟨husername, hpassword⟩ := not_mem_readUserinfo hd huserinfo
  dsimp only at h
  split at h
  · cases h
  · rw [bind_eq_ok] at h
    obtain ⟨host, hhost, h⟩ := h
    split at h
    · cases h
    · rw [bind_eq_ok] at h
      obtain ⟨⟨port, rest'⟩, -, h⟩ := h
      dsimp only at h
      split at h
      · cases h
      · cases h
        exact ⟨husername, hpassword, Host.not_mem_read hd hhost⟩

theorem not_mem_colon : d ∉ ":".toList := by
  have h : ∀ d ∈ Host.delimiters, d ∉ ":".toList := List.all_iff_forall_prop.1 (by decide)
  exact h d hd

theorem not_mem_portText (port : Option UInt16) : d ∉ (portText port).toList := by
  cases port with
  | none => exact List.not_mem_nil
  | some n =>
    rw [portText, String.toList_append, List.mem_append, not_or]
    exact ⟨not_mem_colon hd, Text.not_mem_toString_nat (Host.not_isDigit_of_delimiter hd)⟩

theorem not_mem_authorityText (hat : d ≠ '@') {a : Authority} (ha : a.Lacks d) :
    d ∉ (userinfoText a ++ a.host.text ++ portText a.port).toList := by
  have hat' : d ∉ "@".toList := by simpa using hat
  have huserinfo : d ∉ (userinfoText a).toList := by
    unfold userinfoText
    split
    · exact List.not_mem_nil
    · rw [String.toList_append, List.mem_append, not_or]
      exact ⟨ha.username, hat'⟩
    · next password hp =>
      simp only [String.toList_append, List.mem_append, not_or]
      exact ⟨⟨⟨ha.username, not_mem_colon hd⟩, ha.password password hp⟩, hat'⟩
  simp only [String.toList_append, List.mem_append, not_or]
  exact ⟨⟨huserinfo, ha.host⟩, not_mem_portText hd a.port⟩

end Delimiters

/-! ## Reading -/

/-- What `readHierarchy` gives: an authority, and the path and tail behind it. -/
theorem readHierarchy_eq_ok {scheme : String} {cs : List Char} {u : Url} (h : readHierarchy scheme cs = .ok u) :
    ∃ a rest, readAuthority scheme cs = .ok (a, rest) ∧ u = readPathAndTail scheme (some a) rest := by
  unfold readHierarchy at h
  rw [bind_eq_ok] at h
  obtain ⟨⟨a, rest⟩, ha, h⟩ := h
  cases h
  exact ⟨a, rest, ha, rfl⟩

theorem scheme_of_readFile {cs : List Char} {u : Url} (h : readFile cs = .ok u) : u.scheme = "file" := by
  unfold readFile at h
  split at h
  · unfold readLocalHost at h
    dsimp only at h
    split at h
    · cases h
      rfl
    · split at h
      · cases h
        rfl
      · rw [bind_eq_ok] at h
        obtain ⟨host, -, h⟩ := h
        split at h <;> cases h <;> rfl
  · cases h
    rfl
  · cases h
    rfl

/-- A URL whose scheme is not `file` has an authority and what was read behind it, or no authority. The latter is not
possible for special schemes. -/
theorem read_hierarchy_or_bare {s : String} {u : Url} (h : read s = .ok u) (hfile : u.scheme ≠ "file") :
    (∃ cs a rest, readAuthority u.scheme cs = .ok (a, rest) ∧ u = readPathAndTail u.scheme (some a) rest) ∨
      isSpecial u.scheme = false ∧ u.authority = none := by
  have hhierarchy {scheme : String} {cs : List Char} (h : readHierarchy scheme cs = .ok u) :
      ∃ cs a rest, readAuthority u.scheme cs = .ok (a, rest) ∧ u = readPathAndTail u.scheme (some a) rest := by
    obtain ⟨a, rest, ha, rfl⟩ := readHierarchy_eq_ok h
    exact ⟨cs, a, rest, ha, rfl⟩
  unfold read at h
  split at h
  · next scheme behind _ =>
    unfold readBehindScheme at h
    dsimp only at h
    split at h
    · exact absurd (scheme_of_readFile h) hfile
    · split at h
      · exact .inl (hhierarchy h)
      · next hspecial =>
        rw [Bool.not_eq_true] at hspecial
        split at h
        · exact .inl (hhierarchy h)
        · cases h
          exact .inr ⟨hspecial, rfl⟩
        · cases h
          exact .inr ⟨hspecial, rfl⟩
  · cases h

theorem named_readAuthority {scheme : String} {cs rest : List Char} {a : Authority} (hspecial : isSpecial scheme = true)
    (h : readAuthority scheme cs = .ok (a, rest)) : a.host.Named := by
  unfold readAuthority at h
  rw [bind_eq_ok] at h
  obtain ⟨⟨username, password, cs'⟩, -, h⟩ := h
  dsimp only at h
  split at h
  · cases h
  · rw [bind_eq_ok] at h
    obtain ⟨host, hhost, h⟩ := h
    rw [hspecial] at hhost
    split at h
    · cases h
    · rw [bind_eq_ok] at h
      obtain ⟨⟨port, rest'⟩, -, h⟩ := h
      dsimp only at h
      split at h
      · cases h
      · cases h
        exact Host.named_readSpecial hhost

/-- The URL of a host on a network: its authority names the host and has no delimiters in its parts, and its path is
divided into segments. -/
structure OnNetwork (u : Url) : Prop where
  authority : ∃ a, u.authority = some a ∧ a.host.Named ∧ ∀ d ∈ Host.delimiters, a.Lacks d
  path : ∃ segments, u.path = .segments segments

theorem isSpecial_of_defaultPort {scheme : String} (h : (defaultPort? scheme).isSome = true) :
    isSpecial scheme = true := by
  rw [isSpecial, h, Bool.true_or]

theorem ne_file_of_defaultPort {scheme : String} (h : (defaultPort? scheme).isSome = true) : scheme ≠ "file" := by
  rintro rfl
  exact absurd h (by decide)

/-- Every URL whose scheme has a `defaultPort?` is `OnNetwork`. -/
theorem onNetwork_read {s : String} {u : Url} (h : read s = .ok u) (hport : (defaultPort? u.scheme).isSome = true) :
    u.OnNetwork := by
  have hspecial := isSpecial_of_defaultPort hport
  rcases read_hierarchy_or_bare h (ne_file_of_defaultPort hport) with ⟨cs, a, rest, ha, hu⟩ | ⟨hnot, -⟩
  · rw [hu]
    exact ⟨⟨a, rfl, named_readAuthority hspecial ha, fun d hd => lacks_readAuthority hd ha⟩, _, rfl⟩
  · exact absurd (hspecial.symm.trans hnot) (by decide)

/-! ## Other schemes and paths -/

namespace OnNetwork

variable {u : Url}

theorem host_isSome (h : u.OnNetwork) : u.host?.isSome = true := by
  obtain ⟨a, ha, hnamed, -⟩ := h.authority
  rw [host?, ha]
  dsimp only
  rw [if_neg hnamed.1]
  rfl

theorem exists_hostText (h : u.OnNetwork) : ∃ host, u.hostText? = some host ∧ host ≠ "" := by
  obtain ⟨a, ha, hnamed, -⟩ := h.authority
  refine ⟨a.host.text, ?_, hnamed.2⟩
  rw [hostText?, host?, ha]
  dsimp only
  rw [if_neg hnamed.1]
  rfl

/-- Between schemes of hosts on a network `withScheme?` never fails. A written port remains in force, and where there is
none the new scheme decides. -/
theorem exists_withScheme (h : u.OnNetwork) (hu : isSpecial u.scheme = true) {scheme : String}
    (hscheme : (defaultPort? scheme).isSome = true) :
    ∃ v, u.withScheme? scheme = some v ∧ v.OnNetwork ∧ v.scheme = scheme ∧ v.host? = u.host? ∧
      v.authority.map (fun a => (a.username, a.password)) = u.authority.map (fun a => (a.username, a.password)) ∧
      v.effectivePort? = (u.port? <|> defaultPort? scheme) := by
  have hhost : u.host?.isNone = false := by simp [← Option.not_isSome, h.host_isSome]
  have hfile := ne_file_of_defaultPort hscheme
  obtain ⟨a, ha, hnamed, hlacks⟩ := h.authority
  let b : Authority := { a with port := a.port.filter fun p => defaultPort? scheme ≠ some p }
  have hb : ∀ d ∈ Host.delimiters, b.Lacks d := fun d hd =>
    ⟨(hlacks d hd).username, (hlacks d hd).password, (hlacks d hd).host⟩
  refine ⟨{ u with scheme := scheme, authority := some b }, ?_, ⟨⟨b, rfl, hnamed, hb⟩, h.path⟩, rfl, ?_, ?_, ?_⟩
  · rw [withScheme?, isSpecial_of_defaultPort hscheme, hu, hhost, ha]
    simp [hfile, b]
  · rw [host?, host?, ha]
  · rw [ha]
    rfl
  · change (a.port.filter _ <|> defaultPort? scheme) = (u.authority.bind Authority.port <|> defaultPort? scheme)
    rw [ha]
    cases hp : a.port with
    | none => simp [hp]
    | some p =>
      by_cases hdefault : defaultPort? scheme = some p <;> simp [hp, hdefault, Option.filter]

/-- `withPath` puts the segments that the text spells in place of the path; the rest of the URL in front of it stays. -/
theorem withoutTail_withPath (h : u.OnNetwork) (hport : (defaultPort? u.scheme).isSome = true) (path : String) :
    (u.withPath path).withoutTail =
      { u with
        path := .segments (Path.read true (significant path.toList))
        query := none
        fragment := none } := by
  obtain ⟨segments, hsegments⟩ := h.path
  have hspecial := isSpecial_of_defaultPort hport
  rw [withPath, hsegments]
  simp [ne_file_of_defaultPort hport, hspecial, withoutTail, settle]

/-- Behind its two slashes, `authorityText` has no delimiter but `@`. -/
theorem exists_authorityText (h : u.OnNetwork) :
    ∃ authority : String, u.authorityText = "//" ++ authority ∧
      ∀ d ∈ Host.delimiters, d ≠ '@' → d ∉ authority.toList := by
  obtain ⟨a, ha, -, hlacks⟩ := h.authority
  refine ⟨userinfoText a ++ a.host.text ++ portText a.port, ?_, fun d hd hat => ?_⟩
  · rw [authorityText, ha]
    simp [String.append_assoc]
  · exact not_mem_authorityText hd hat (hlacks d hd)

end OnNetwork

end Url

end SpacewalkAcquire
