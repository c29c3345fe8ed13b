import SpacewalkAcquire.Proofs.Url.Authority
import SpacewalkAcquire.Proofs.Url.Normal

/-!
# A host and a port

* `Host.text_read_eq_iff` : the two readings of a host have the same written form exactly if it is in brackets, or is
  written as the special reading writes it;
* `Url.IsHostPort cs` : the text of an authority without user information; `Url.writtenHost`, `Url.writtenPort?` : its
  parts;
* `Url.readAuthority_hostPort`, `Url.read_hostPort` : what is read of it, whatever follows; of the scheme only its sort
  and its default port matter.
-/

namespace SpacewalkAcquire

theorem Percent.isCoded_of_not_mem_encode {set : Char → Bool} {cs : List Char} (h : '%' ∉ encode set cs) :
    ∀ c ∈ cs, IsCoded set c := by
  intro c hc
  by_contra hnot
  refine h (List.mem_flatMap.2 ⟨c, hc, ?_⟩)
  obtain ⟨b, bytes, hbytes⟩ := List.exists_cons_of_ne_nil (String.utf8EncodeChar_ne_nil (c := c))
  rw [encodeChar, if_neg (by simpa [IsCoded] using hnot), hbytes, List.flatMap_cons, encodeByte]
  exact List.mem_cons_self

/-! ## The two readings of a host -/

namespace Host

variable {cs : List Char} {host host' : Host}

/-- A host that is not in brackets is written by `readSpecial` with nothing that `readOpaque` would encode, and with no
escapes. -/
theorem isCoded_readSpecial (hbracket : cs.head? ≠ some '[') (h : readSpecial cs = .ok host) :
    ∀ c ∈ host.text.toList, Percent.IsCoded Percent.controls c ∧ c ≠ '%' := by
  have hdigit {c : Char} (hc : c.isDigit = true) : Percent.IsCoded Percent.controls c ∧ c ≠ '%' := by
    have hdigits : ∀ n < 58, 48 ≤ n → Percent.IsCoded Percent.controls (Char.ofNat n) ∧ Char.ofNat n ≠ '%' := by decide
    obtain ⟨hleast, hmost⟩ := Char.isDigit_iff_toNat.1 hc
    rw [← Char.ofNat_toNat c]
    exact hdigits _ (Nat.lt_succ_of_le hmost) hleast
  unfold readSpecial at h
  split at h
  · exact absurd rfl hbracket
  · split at h
    · cases h
    · next domain hdomain =>
      split at h
      · cases h
      · split at h
        · split at h
          · next a _ =>
            cases h
            intro c hc
            rcases mem_ipv4Text hc with hc | rfl
            · exact hdigit hc
            · decide
          · cases h
        · cases h
          intro c hc
          have hascii : c.toNat < 0x80 := of_decide_eq_true (Domain.isAscii_of_mem_toAscii hdomain hc)
          refine ⟨⟨hascii, ?_⟩, ?_⟩
          · rw [Bool.eq_false_iff]
            intro hcontrol
            refine Domain.not_mem_toAscii (d := c) ?_ hdomain hc
            simp only [Percent.controls, Bool.or_eq_true, decide_eq_true_eq] at hcontrol
            simp only [Domain.isForbidden, Bool.or_eq_true, decide_eq_true_eq]
            rcases hcontrol with hcontrol | hcontrol
            · exact .inl (.inl (Nat.le_of_lt hcontrol))
            · exact .inl (.inr hcontrol)
          · rintro rfl
            exact Domain.not_mem_toAscii (by decide) hdomain hc

theorem text_read_eq_iff (hspecial : readSpecial cs = .ok host) (hverbatim : readOpaque cs = .ok host') :
    host'.text = host.text ↔ cs.head? = some '[' ∨ host.text = String.ofList cs := by
  by_cases hbracket : cs.head? = some '['
  · obtain ⟨rest, rfl⟩ := List.head?_eq_some_iff.1 hbracket
    have hsame : host' = host := Except.ok.inj (hverbatim.symm.trans hspecial)
    rw [hsame]
    exact iff_of_true rfl (.inl hbracket)
  · have hcoded := isCoded_readSpecial hbracket hspecial
    rw [or_iff_right hbracket]
    unfold readOpaque at hverbatim
    split at hverbatim
    · cases hverbatim
      exact eq_comm
    · exact absurd rfl hbracket
    · split at hverbatim
      · cases hverbatim
      · cases hverbatim
        show String.ofList (Percent.encode Percent.controls cs) = _ ↔ _
        constructor
        · intro htext
          have hescapes : '%' ∉ Percent.encode Percent.controls cs := by
            intro hm
            rw [← htext, String.toList_ofList] at hcoded
            exact (hcoded '%' hm).2 rfl
          rw [← htext, Percent.encode_eq_self (Percent.isCoded_of_not_mem_encode hescapes)]
        · intro htext
          rw [htext, String.toList_ofList] at hcoded
          rw [htext, Percent.encode_eq_self fun c hc => (hcoded c hc).1]

end Host

/-! ## The text of an authority -/

namespace Url

/-- The marks that end an authority, and `@`, which ends its user information. -/
def authorityMarks : List Char := ['/', '\\', '?', '#', '@']

instance (c : Char) : Decidable (Counts c) := inferInstanceAs (Decidable (¬ _))

/-- The text of an authority without user information: not empty, without blanks, control characters and
`authorityMarks`. -/
def IsHostPort (cs : List Char) : Prop := cs ≠ [] ∧ ∀ c ∈ cs, Counts c ∧ c ∉ authorityMarks

instance (cs : List Char) : Decidable (IsHostPort cs) :=
  @instDecidableAnd _ _ _ (List.decidableBAll (fun c => Counts c ∧ c ∉ authorityMarks) cs)

/-- What follows an authority: nothing, or a path, a query or a fragment. -/
def EndsAuthority (cs : List Char) : Prop := ∀ c ∈ cs.head?, c ∈ ['/', '?', '#']

def writtenHost (cs : List Char) : List Char := (cutHost false false cs).1

def portOf? (digits : List Char) : Option UInt16 :=
  if digits.isEmpty then none else (Text.readUnsigned? 65535 digits).map UInt16.ofNat

/-- The port behind a host, if there is a colon and digits behind that. -/
def portBehind? : List Char → Option UInt16
  | ':' :: digits => portOf? digits
  | _ => none

def writtenPort? (cs : List Char) : Option UInt16 := portBehind? (cutHost false false cs).2

section

variable {special inside : Bool} {scheme : String} {cs digits rest behind : List Char}

theorem not_ends_of_not_mark {c : Char} (h : c ∉ authorityMarks) (special : Bool) :
    isSlash special c = false ∧ endsPath c = false := by
  simp only [authorityMarks, List.mem_cons, List.not_mem_nil, or_false, not_or] at h
  obtain ⟨hslash, hback, hquery, hfragment, -⟩ := h
  simp [isSlash, endsPath, hslash, hback, hquery, hfragment]

theorem EndsAuthority.ends (h : EndsAuthority rest) {c : Char} (hc : c ∈ rest.head?) (special : Bool) :
    (isSlash special c || endsPath c) = true := by
  have hmark := h c hc
  simp only [List.mem_cons, List.not_mem_nil, or_false] at hmark
  rcases hmark with rfl | rfl | rfl <;> cases special <;> rfl

/-- Without its marks an authority is cut by `cutHost` in the same way behind every scheme, whatever follows. -/
theorem cutHost_append (hcs : ∀ c ∈ cs, c ∉ authorityMarks) (hrest : EndsAuthority rest) :
    cutHost special inside (cs ++ rest) = ((cutHost false inside cs).1, (cutHost false inside cs).2 ++ rest) := by
  induction cs generalizing inside with
  | nil =>
    cases rest with
    | nil => rfl
    | cons c rest =>
      have hends := hrest.ends (c := c) rfl special
      show cutHost special inside (c :: rest) = ([], c :: rest)
      rw [cutHost, if_pos (by rw [Bool.or_assoc, hends, Bool.or_true])]
  | cons c cs ih =>
    have hc := not_ends_of_not_mark (hcs c List.mem_cons_self)
    rw [List.cons_append, cutHost, cutHost, (hc special).1, (hc false).1,
      ih fun d hd => hcs d (List.mem_cons_of_mem _ hd)]
    split <;> rfl

theorem mem_of_mem_cutHost {c : Char} (h : c ∈ (cutHost special inside cs).2) : c ∈ cs := by
  induction cs generalizing inside with
  | nil => cases h
  | cons d cs ih =>
    rw [cutHost] at h
    split at h
    · exact h
    · exact List.mem_cons_of_mem _ (ih h)

theorem cutHost_behind (hcs : ∀ c ∈ cs, c ∉ authorityMarks) :
    (cutHost false inside cs).2 = [] ∨ ∃ digits, (cutHost false inside cs).2 = ':' :: digits := by
  induction cs generalizing inside with
  | nil => exact .inl rfl
  | cons c cs ih =>
    have hc := not_ends_of_not_mark (hcs c List.mem_cons_self) false
    rw [cutHost, hc.1, hc.2]
    split
    · next hcolon =>
      simp only [Bool.or_false, Bool.and_eq_true, beq_iff_eq] at hcolon
      exact .inr ⟨cs, by rw [hcolon.1]⟩
    · exact ih fun d hd => hcs d (List.mem_cons_of_mem _ hd)

/-- A port is that of all the digits, and `none` if it is the default one of the scheme. -/
theorem readPort_append {port : Option UInt16} (hdigits : ∀ c ∈ digits, c ∉ authorityMarks) (hrest : EndsAuthority rest)
    (h : readPort scheme (digits ++ rest) = .ok (port, behind)) :
    port = (portOf? digits).filter fun p => defaultPort? scheme ≠ some p := by
  have hend : ∀ c ∈ rest.head?, c.isDigit = false := by
    intro c hc
    have hmark := hrest c hc
    simp only [List.mem_cons, List.not_mem_nil, or_false] at hmark
    rcases hmark with rfl | rfl | rfl <;> rfl
  have htake : rest.takeWhile Char.isDigit = [] := by
    cases rest with
    | nil => rfl
    | cons c rest => exact List.takeWhile_cons_of_neg (by rw [hend c rfl]; decide)
  have hall : digits.dropWhile Char.isDigit = [] := by
    by_contra hne
    obtain ⟨c, more, hmore⟩ := List.exists_cons_of_ne_nil hne
    have hc := not_ends_of_not_mark (hdigits c ((List.dropWhile_suffix _).subset (hmore ▸ List.mem_cons_self))) true
    have hdrop : (digits ++ rest).dropWhile Char.isDigit = c :: (more ++ rest) := by
      rw [List.dropWhile_append, hmore]
      rfl
    unfold readPort at h
    dsimp only at h
    rw [hdrop, if_pos (by simp [hc])] at h
    cases h
  have hdigit : ∀ c ∈ digits, c.isDigit = true := List.dropWhile_eq_nil_iff.1 hall
  unfold readPort at h
  dsimp only at h
  rw [List.takeWhile_append_of_pos hdigit, htake, List.append_nil] at h
  split at h
  · cases h
  · unfold portOf?
    split at h
    · next hempty =>
      cases h
      rw [if_pos hempty]
      rfl
    · next hne =>
      rw [if_neg hne]
      split at h
      · cases h
      · next n hn =>
        cases h
        rw [hn]
        by_cases hdefault : defaultPort? scheme = some (UInt16.ofNat n) <;> simp [hdefault, Option.filter]

theorem cutPort_append {tail : List Char} {port : Option UInt16} (htail : tail = [] ∨ ∃ digits, tail = ':' :: digits)
    (hmarks : ∀ c ∈ tail, c ∉ authorityMarks) (hrest : EndsAuthority rest)
    (h : cutPort scheme (tail ++ rest) = .ok (port, behind)) :
    port = (portBehind? tail).filter fun p => defaultPort? scheme ≠ some p := by
  rcases htail with rfl | ⟨digits, rfl⟩
  · rw [List.nil_append] at h
    have hcolon : ∀ more, rest ≠ ':' :: more := by
      rintro more rfl
      exact absurd (hrest ':' rfl) (by decide)
    unfold cutPort at h
    split at h
    · next more => exact absurd rfl (hcolon more)
    · cases h
      rfl
  · exact readPort_append (fun c hc => hmarks c (List.mem_cons_of_mem _ hc)) hrest h

/-- What `readAuthority` finds in the text of an authority, whatever follows it: its host as the sort of the scheme has
it, and its port unless that is the default one of the scheme. -/
theorem readAuthority_hostPort {a : Authority} (hcs : IsHostPort cs) (hrest : EndsAuthority rest)
    (h : readAuthority scheme (cs ++ rest) = .ok (a, behind)) :
    Host.read (isSpecial scheme) (writtenHost cs) = .ok a.host ∧
      a.port = (writtenPort? cs).filter fun p => defaultPort? scheme ≠ some p := by
  have hmarks : ∀ c ∈ cs, c ∉ authorityMarks := fun c hc => (hcs.2 c hc).2
  have huserinfo : readUserinfo (isSpecial scheme) (cs ++ rest) = .ok ("", none, cs ++ rest) := by
    refine readUserinfo_of_not_mem (fun c hc => ⟨?_, ?_⟩) fun c hc => hrest.ends hc _
    · rw [Bool.or_eq_false_iff]
      exact not_ends_of_not_mark (hmarks c hc) _
    · rintro rfl
      exact hmarks '@' hc (by decide)
  unfold readAuthority at h
  rw [bind_eq_ok] at h
  obtain ⟨⟨username, password, cs'⟩, hread, h⟩ := h
  rw [huserinfo] at hread
  cases hread
  dsimp only at h
  rw [cutHost_append hmarks hrest] at h
  split at h
  · cases h
  · rw [bind_eq_ok] at h
    obtain ⟨host, hhost, h⟩ := h
    split at h
    · cases h
    · rw [bind_eq_ok] at h
      obtain ⟨⟨port, behind'⟩, hport, h⟩ := h
      dsimp only at h hport
      split at h
      · cases h
      · cases h
        have hbehind : ∀ c ∈ (cutHost false false cs).2, c ∉ authorityMarks := fun c hc =>
          hmarks c (mem_of_mem_cutHost hc)
        exact ⟨hhost, cutPort_append (cutHost_behind hmarks) hbehind hrest hport⟩

theorem EndsAuthority.keptPath (h : EndsAuthority rest) : EndsAuthority (keptPath rest) := by
  cases rest with
  | nil => exact h
  | cons c rest =>
    have hmark := h c rfl
    have hcounts : Counts c := by
      simp only [List.mem_cons, List.not_mem_nil, or_false] at hmark
      rcases hmark with rfl | rfl | rfl <;> decide
    have htrim : Text.trimEndWith (fun c => c.toNat ≤ 0x20) (c :: rest) =
        c :: Text.trimEndWith (fun c => c.toNat ≤ 0x20) rest :=
      Text.trimEndWith_append_cons_of_neg (decide_eq_false hcounts) [] rest
    have hkept : Url.keptPath (c :: rest) = c :: Url.keptPath rest := by
      rw [Url.keptPath, htrim]
      exact significant_append_of_counts (List.forall_mem_singleton.2 hcounts) _
    rw [hkept]
    rintro _ ⟨⟩
    exact hmark

/-- The authority of a URL that is written with a host and a port. -/
theorem read_hostPort {u : Url} (hscheme : scheme ∈ ["http", "https", "spacewalk"]) (hcs : IsHostPort cs)
    (hrest : EndsAuthority rest) (h : read (String.ofList (scheme.toList ++ "://".toList ++ cs ++ rest)) = .ok u) :
    u.scheme = scheme ∧ ∃ a, u.authority = some a ∧ Host.read (isSpecial scheme) (writtenHost cs) = .ok a.host ∧
      a.port = (writtenPort? cs).filter fun p => defaultPort? scheme ≠ some p := by
  have hslash : ∀ c ∈ cs.head?, isSlash true c = false := fun c hc =>
    (not_ends_of_not_mark (hcs.2 c (List.mem_of_mem_head? hc)).2 true).1
  rw [read_eq_readHierarchy hscheme (fun c hc => (hcs.2 c hc).1) hcs.1 hslash] at h
  obtain ⟨a, behind, ha, rfl⟩ := readHierarchy_eq_ok h
  exact ⟨rfl, a, rfl, readAuthority_hostPort hcs hrest.keptPath ha⟩

end

theorem hostText?_eq_some_iff {u : Url} {a : Authority} (ha : u.authority = some a) {text : String}
    (htext : text ≠ "") : u.hostText? = some text ↔ a.host.text = text := by
  rw [hostText?, host?, ha]
  dsimp only
  by_cases hempty : a.host = .empty
  · rw [if_pos hempty, hempty]
    exact iff_of_false (Option.some_ne_none text).symm htext.symm
  · rw [if_neg hempty]
    exact Option.some_inj

end Url

end SpacewalkAcquire
