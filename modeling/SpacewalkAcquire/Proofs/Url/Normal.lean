import SpacewalkAcquire.Proofs.Text.Trim
import SpacewalkAcquire.Proofs.Url.Below

/-!
# URIs in normal form

* `Url.readUserinfo_of_not_mem` : an authority without user information;
* `Host.IsPlain`, `Url.readAuthority_plain` : a host that is written as it is read;
* `Url.read_eq_readHierarchy` : a URL is read from its authority on;
* `Path.IsNormal`, `Path.text_read_eq_iff` : pieces of a path that are written as they are read, and no other ones;
* `Url.text_read_eq_iff` : so a URI of the front end is written as it is read exactly if its pieces are normal.
-/

namespace SpacewalkAcquire

theorem Percent.encode_eq_self {set : Char → Bool} {cs : List Char} (h : ∀ c ∈ cs, IsCoded set c) :
    encode set cs = cs := by
  induction cs with
  | nil => rfl
  | cons c rest ih =>
    have hc := h c List.mem_cons_self
    show encodeChar set c ++ encode set rest = _
    rw [ih fun d hd => h d (List.mem_cons_of_mem _ hd), encodeChar, if_pos (by simp [hc.1, hc.2]), List.singleton_append]

/-! ## Paths -/

namespace Path

/-- A piece of a path that is read as it is: of path characters, and no dot. -/
def IsNormal (piece : List Char) : Prop := (∀ c ∈ piece, Percent.IsCoded Percent.path c) ∧ IsPlain piece

instance (piece : List Char) : Decidable (IsNormal piece) :=
  inferInstanceAs (Decidable (_ ∧ isDoubleDot piece = false ∧ isSingleDot piece = false))

theorem add_normal {piece : List Char} (h : IsNormal piece) (segments : List String) (last : Bool) :
    add segments piece last = segments ++ [String.ofList piece] := by
  rw [add, h.2.1, h.2.2, Percent.encode_eq_self h.1]
  rfl

theorem extend_normal {pieces : List (List Char)} (h : ∀ piece ∈ pieces, IsNormal piece) (segments : List String) :
    extend segments pieces = segments ++ pieces.map String.ofList := by
  induction pieces generalizing segments with
  | nil => exact (List.append_nil _).symm
  | cons piece rest ih =>
    have hpiece := h piece List.mem_cons_self
    by_cases hrest : rest = []
    · subst hrest
      exact add_normal hpiece segments true
    · rw [extend_cons hrest, add_normal hpiece, ih fun p hp => h p (List.mem_cons_of_mem _ hp), List.append_assoc]
      rfl

theorem text_pieces (cs : List Char) :
    (UrlPath.segments ((Text.splitOn '/' cs).map String.ofList)).text.toList = '/' :: cs := by
  have hjoin (pieces : List (List Char)) (h : pieces ≠ []) :
      (UrlPath.segments (pieces.map String.ofList)).text.toList = '/' :: List.intercalate ['/'] pieces := by
    induction pieces with
    | nil => exact absurd rfl h
    | cons piece rest ih =>
      have hcons : (UrlPath.segments ((piece :: rest).map String.ofList)).text.toList =
          '/' :: (piece ++ (UrlPath.segments (rest.map String.ofList)).text.toList) := by
        simp [UrlPath.text, String.toList_join]
      rw [hcons]
      cases rest with
      | nil => simp [UrlPath.text, List.intercalate]
      | cons next more =>
        rw [ih (List.cons_ne_nil _ _), List.intercalate_cons_cons, List.append_assoc, List.singleton_append]
  rw [hjoin _ (Text.splitOn_ne_nil _ _), Text.splitOn_flatten]

theorem isCoded_of_normal {cs : List Char} (h : ∀ piece ∈ Text.splitOn '/' cs, IsNormal piece) :
    ∀ c ∈ cs, Percent.IsCoded Percent.path c := by
  intro c hc
  have hslash : Percent.IsCoded Percent.path '/' := by decide
  rw [← Text.splitOn_flatten '/' cs] at hc
  rcases Text.mem_intercalate hc with hc | ⟨piece, hpiece, hc⟩
  · rw [List.mem_singleton.1 hc]
    exact hslash
  · exact (h piece hpiece).1 c hc

/-- A path is written as it is read exactly if its pieces are all `IsNormal`. -/
theorem text_read_eq_iff (cs kept : List Char) (hkept : (∀ c ∈ cs, Percent.IsCoded Percent.path c) → kept = cs) :
    (UrlPath.segments (read false ('/' :: kept))).text.toList = '/' :: cs ↔
      ∀ piece ∈ Text.splitOn '/' cs, IsNormal piece := by
  refine ⟨fun h piece hpiece => ?_, fun h => ?_⟩
  · have hclean := clean_read false ('/' :: kept)
    have hsplit := splitOn_text hclean
    rw [h, Text.splitOn, if_pos rfl, List.cons.injEq] at hsplit
    rw [hsplit.2, List.mem_map] at hpiece
    obtain ⟨segment, hsegment, rfl⟩ := hpiece
    obtain ⟨hchars, hdots⟩ := hclean segment hsegment
    exact ⟨fun c hc => (hchars c hc).1, hdots⟩
  · rw [hkept (isCoded_of_normal h), read, if_neg (by simp)]
    show (UrlPath.segments (extend [] (Text.splitOn '/' cs))).text.toList = _
    rw [extend_normal h, List.nil_append, text_pieces]

end Path

/-! ## Hosts -/

def Host.IsPlain (host : List Char) : Prop :=
  host ≠ [] ∧ ∀ c ∈ host, isForbidden c = false ∧ Percent.IsCoded Percent.controls c

instance (host : List Char) : Decidable (Host.IsPlain host) := inferInstanceAs (Decidable (_ ∧ _))

namespace Url

theorem readUserinfo_of_not_mem {special : Bool} {cs rest : List Char}
    (hcs : ∀ c ∈ cs, (isSlash special c || endsPath c) = false ∧ c ≠ '@')
    (hrest : ∀ c ∈ rest.head?, (isSlash special c || endsPath c) = true) :
    readUserinfo special (cs ++ rest) = .ok ("", none, cs ++ rest) := by
  have htake : (cs ++ rest).takeWhile (fun c => !(isSlash special c || endsPath c)) = cs := by
    rw [List.takeWhile_append_of_pos fun c hc => by rw [(hcs c hc).1]; rfl]
    cases rest with
    | nil => exact List.append_nil cs
    | cons c rest =>
      rw [List.takeWhile_cons_of_neg (by rw [hrest c rfl]; decide), List.append_nil]
  have hat : cutLastAt cs = none := by
    rw [cutLastAt, Text.cutAt_eq_none_iff.2 fun hm => (hcs _ (List.mem_reverse.1 hm)).2 rfl]
    rfl
  unfold readUserinfo
  dsimp only
  rw [htake, hat]

section Plain

variable {host : List Char} (h : Host.IsPlain host)
include h

theorem readOpaque_plain : Host.readOpaque host = .ok (.name (String.ofList host)) := by
  obtain ⟨hne, hchars⟩ := h
  have hany : host.any Host.isForbidden = false := by
    simpa using fun c hc => (hchars c hc).1
  have hencode := Percent.encode_eq_self fun c hc => (hchars c hc).2
  unfold Host.readOpaque
  split
  · exact absurd rfl hne
  · exact absurd (hchars '[' List.mem_cons_self).1 (by decide)
  · rw [hany, hencode]
    rfl

theorem not_mem_plain {c : Char} (hc : Host.isForbidden c = true) : c ∉ host := fun hm => by
  rw [(h.2 c hm).1] at hc
  cases hc

theorem cutHost_plain (rest : List Char) : cutHost false false (host ++ '/' :: rest) = (host, '/' :: rest) := by
  have hchars := h.2
  clear h
  induction host with
  | nil => rfl
  | cons c cs ih =>
    have hc : c ≠ ':' ∧ c ≠ '/' ∧ c ≠ '?' ∧ c ≠ '#' ∧ c ≠ '[' := by
      refine ⟨?_, ?_, ?_, ?_, ?_⟩ <;> rintro rfl <;> exact absurd (hchars _ List.mem_cons_self).1 (by decide)
    rw [List.cons_append, cutHost, if_neg (by simp [isSlash, endsPath, hc])]
    simp [hc, ih fun d hd => hchars d (List.mem_cons_of_mem _ hd)]

theorem readAuthority_plain (rest : List Char) :
    readAuthority "spacewalk" (host ++ '/' :: rest) = .ok (bareHost (.name (String.ofList host)), '/' :: rest) := by
  have huserinfo : readUserinfo false (host ++ '/' :: rest) = .ok ("", none, host ++ '/' :: rest) := by
    refine readUserinfo_of_not_mem (fun c hc => ?_) (by rintro _ ⟨⟩; rfl)
    have hslash : c ≠ '/' := fun e => not_mem_plain h rfl (e ▸ hc)
    have hmarks : c ≠ '?' ∧ c ≠ '#' := ⟨fun e => not_mem_plain h rfl (e ▸ hc), fun e => not_mem_plain h rfl (e ▸ hc)⟩
    exact ⟨by simp [isSlash, endsPath, hslash, hmarks], fun e => not_mem_plain h rfl (e ▸ hc)⟩
  have hhost : Host.read false host = .ok (.name (String.ofList host)) := readOpaque_plain h
  unfold readAuthority
  rw [show isSpecial "spacewalk" = false from rfl]
  dsimp only
  rw [huserinfo]
  dsimp only [bind, Except.bind]
  rw [cutHost_plain h]
  dsimp only
  rw [hhost]
  rfl

end Plain

/-- A path as it is read from the end of a text. -/
def keptPath (path : List Char) : List Char := significant (Text.trimEndWith (fun c => c.toNat ≤ 0x20) path)

def Counts (c : Char) : Prop := ¬ c.toNat ≤ 0x20

theorem counts_of_ne_space {c : Char} (hcontrol : Percent.controls c = false) (hspace : c ≠ ' ') : Counts c := by
  simp only [Percent.controls, Bool.or_eq_false_iff, decide_eq_false_iff_not] at hcontrol
  have hne : c.toNat ≠ 32 := fun e => hspace (Char.toNat_inj.1 e)
  unfold Counts
  omega

theorem counts_of_isCoded {c : Char} (h : Percent.IsCoded Percent.path c) : Counts c := by
  refine counts_of_ne_space ?_ fun e => absurd (e ▸ h.2 : Percent.path ' ' = false) (by decide)
  have hpath := h.2
  rw [Percent.path, Percent.fragment, Bool.or_eq_false_iff, Bool.or_eq_false_iff] at hpath
  exact hpath.1.1

theorem Counts.not_isIgnored {c : Char} (h : Counts c) : isIgnored c = false := by
  simp only [isIgnored, Bool.or_eq_false_iff, beq_eq_false_iff_ne]
  refine ⟨⟨?_, ?_⟩, ?_⟩ <;> rintro rfl <;> exact h (by decide)

theorem significant_append_of_counts {a : List Char} (h : ∀ c ∈ a, Counts c) (b : List Char) :
    significant (a ++ b) = a ++ significant b := by
  rw [significant, List.filter_append, List.filter_eq_self.2 fun c hc => by rw [(h c hc).not_isIgnored]; rfl]
  rfl

theorem keptPath_eq_self {path : List Char} (h : ∀ c ∈ path, Percent.IsCoded Percent.path c) :
    keptPath path = path := by
  have hcounts : ∀ c ∈ path, Counts c := fun c hc => counts_of_isCoded (h c hc)
  have htrim : Text.trimEndWith (fun c => c.toNat ≤ 0x20) path = path :=
    Text.trimEndWith_eq_self fun c hc => decide_eq_false (hcounts c (List.mem_of_getLast? hc))
  have hsignificant := significant_append_of_counts hcounts []
  rw [List.append_nil] at hsignificant
  rw [keptPath, htrim, hsignificant]
  exact List.append_nil _

theorem counts_slash : Counts '/' := by
  unfold Counts
  decide

/-- A URL is read as its scheme says from its authority on, if the authority starts with no slash. Blanks and control
characters around the URL do not count; those that do not count within it are taken out. -/
theorem read_eq_readHierarchy {scheme : String} (hscheme : scheme ∈ ["http", "https", "spacewalk"]) {front : List Char}
    (hcounts : ∀ c ∈ front, Counts c) (hne : front ≠ []) (hslash : ∀ c ∈ front.head?, isSlash true c = false)
    (behind : List Char) :
    read (String.ofList (scheme.toList ++ "://".toList ++ front ++ behind)) =
      readHierarchy scheme (front ++ keptPath behind) := by
  have hcut (rest : List Char) : cutScheme? (scheme.toList ++ ':' :: rest) = some (scheme, rest) := by
    simp only [List.mem_cons, List.not_mem_nil, or_false] at hscheme
    rcases hscheme with rfl | rfl | rfl
    all_goals
      rw [cutScheme?, Text.cutAt_eq_some_iff.2 ⟨rfl, by decide⟩]
      rfl
  have hread {cs : List Char} (hcs : ∀ c ∈ cs.head?, isSlash true c = false) {rest : List Char}
      (hrest : significant rest = '/' :: '/' :: cs) : readBehindScheme scheme rest = readHierarchy scheme cs := by
    have hdrop : ('/' :: '/' :: cs).dropWhile (isSlash true) = cs := by
      rw [List.dropWhile_cons_of_pos rfl, List.dropWhile_cons_of_pos rfl]
      cases cs with
      | nil => rfl
      | cons c cs => rw [List.dropWhile_cons_of_neg (by rw [hcs c rfl]; decide)]
    simp only [List.mem_cons, List.not_mem_nil, or_false] at hscheme
    rw [readBehindScheme, hrest]
    rcases hscheme with rfl | rfl | rfl
    · exact congrArg (readHierarchy "http") hdrop
    · exact congrArg (readHierarchy "https") hdrop
    · rfl
  have htrimmed : trimmed (String.ofList (scheme.toList ++ "://".toList ++ front ++ behind)) =
      scheme.toList ++ ':' :: ("//".toList ++ front ++ Text.trimEndWith (fun c => c.toNat ≤ 0x20) behind) := by
    obtain ⟨init, last, rfl⟩ := List.eq_nil_or_concat front |>.resolve_left hne
    have hlast : Counts last := hcounts last (by simp)
    obtain ⟨first, more, hfirst, hfirst'⟩ : ∃ first more, scheme.toList = first :: more ∧ Counts first := by
      simp only [List.mem_cons, List.not_mem_nil, or_false] at hscheme
      rcases hscheme with rfl | rfl | rfl
      all_goals exact ⟨_, _, rfl, by unfold Counts; decide⟩
    rw [trimmed, String.toList_ofList, hfirst]
    have hinput : first :: more ++ "://".toList ++ init.concat last ++ behind =
        first :: (more ++ "://".toList ++ init) ++ last :: behind := by simp
    rw [hinput, Text.trimWith_cons_append_cons_of_neg (decide_eq_false hfirst') (decide_eq_false hlast)]
    simp
  rw [read, htrimmed, hcut]
  have hslashes : ∀ c ∈ "//".toList ++ front, Counts c :=
    List.forall_mem_append.2 ⟨by simpa using counts_slash, hcounts⟩
  refine hread ?_ ?_
  · obtain ⟨c, cs, rfl⟩ := List.exists_cons_of_ne_nil hne
    exact hslash
  · rw [significant_append_of_counts hslashes]
    rfl

/-- Behind a plain host, `read` finds a path and nothing else, if no mark of a query or fragment is in it. -/
theorem read_plain {host path : List Char} (hhost : Host.IsPlain host) (hpath : ∀ c ∈ path, endsPath c = false) :
    read (String.ofList ("spacewalk://".toList ++ host ++ '/' :: path)) =
      .ok ⟨"spacewalk", some (bareHost (.name (String.ofList host))), .segments (Path.read false ('/' :: keptPath path)),
        false, none, none⟩ := by
  have hkept : ∀ c ∈ '/' :: keptPath path, (!endsPath c) = true := by
    refine List.forall_mem_cons.2 ⟨by decide, fun c hc => ?_⟩
    rw [hpath c (Text.mem_of_mem_trimEndWith (List.mem_of_mem_filter hc))]
    rfl
  have hcounts : ∀ c ∈ host ++ ['/'], Counts c := by
    refine List.forall_mem_append.2 ⟨fun c hc => ?_, List.forall_mem_singleton.2 counts_slash⟩
    obtain ⟨hallowed, hcoded⟩ := hhost.2 c hc
    exact counts_of_ne_space hcoded.2 fun e => absurd (e ▸ hallowed : Host.isForbidden ' ' = false) (by decide)
  have hslash : ∀ c ∈ (host ++ ['/']).head?, isSlash true c = false := by
    obtain ⟨first, more, rfl⟩ := List.exists_cons_of_ne_nil hhost.1
    rintro _ ⟨⟩
    have hfirst := (hhost.2 first List.mem_cons_self).1
    simp only [isSlash, Bool.true_and, Bool.or_eq_false_iff, beq_eq_false_iff_ne]
    constructor <;> rintro rfl <;> exact absurd hfirst (by decide)
  have hread :=
    read_eq_readHierarchy (show "spacewalk" ∈ ["http", "https", "spacewalk"] by decide) hcounts (by simp) hslash path
  have htext : "spacewalk".toList ++ "://".toList ++ (host ++ ['/']) ++ path =
      "spacewalk://".toList ++ host ++ '/' :: path := by simp
  rw [htext] at hread
  rw [hread, List.append_assoc, List.singleton_append, readHierarchy, readAuthority_plain hhost]
  show Except.ok (readPathAndTail _ _ ('/' :: keptPath path)) = _
  rw [readPathAndTail, List.takeWhile_eq_self_iff.2 hkept, List.dropWhile_eq_nil_iff.2 hkept]
  rfl

theorem text_plain (host : List Char) (path : UrlPath) :
    (text ⟨"spacewalk", some (bareHost (.name (String.ofList host))), path, false, none, none⟩).toList =
      "spacewalk://".toList ++ host ++ path.text.toList := by
  have huserinfo : userinfoText (bareHost (.name (String.ofList host))) = "" := rfl
  simp only [text, authorityText, huserinfo]
  simp [bareHost, Host.text, portText]

/-- A URI of the front end with a plain host is written as it is read exactly if the pieces of its path are all
`IsNormal`. -/
theorem text_read_eq_iff {host path : List Char} (hhost : Host.IsPlain host) (hpath : ∀ c ∈ path, endsPath c = false) :
    let s := String.ofList ("spacewalk://".toList ++ host ++ '/' :: path)
    ∃ uri, read s = .ok uri ∧ (uri.text = s ↔ ∀ piece ∈ Text.splitOn '/' path, Path.IsNormal piece) := by
  intro s
  have hs : s.toList = "spacewalk://".toList ++ host ++ '/' :: path := String.toList_ofList
  refine ⟨_, read_plain hhost hpath, ?_⟩
  rw [← Path.text_read_eq_iff path _ keptPath_eq_self, ← String.toList_inj, hs, text_plain, List.append_cancel_left_eq]

end Url

end SpacewalkAcquire
