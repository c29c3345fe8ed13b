import SpacewalkAcquire.Proofs.Effects.Failing
import SpacewalkAcquire.Proofs.Url.Authority

/-!
# URLs stay on one line

* `Percent.lineFeed_not_mem_encode` : a component has no line feed, whatever it encodes;
* `Path.OneLine`, `LocalPath.Reading.OneLine` : nor have paths;
* `Url.oneLine_read`, `Url.OneLine.text` : nor has the written form of a URL that was read.
-/

namespace SpacewalkAcquire

theorem Percent.lineFeed_not_mem_encode {set : Char → Bool} (h : set '\n' = true) (cs : List Char) :
    '\n' ∉ Percent.encode set cs := by
  intro hm
  rcases Percent.mem_encode hm with ⟨-, hcoded⟩ | hm
  · exact absurd (h.symm.trans hcoded.2) (by decide)
  · exact absurd hm (by decide)

theorem Host.lineFeed_mem_delimiters : '\n' ∈ Host.delimiters := by decide

/-! ## Paths -/

def Path.OneLine (segments : List String) : Prop := ∀ segment ∈ segments, '\n' ∉ segment.toList

namespace Path

theorem oneLine_read (special : Bool) (cs : List Char) : OneLine (read special cs) := by
  refine forall_mem_read List.not_mem_nil fun piece _ _ _ => ?_
  rw [String.toList_ofList]
  exact Percent.lineFeed_not_mem_encode rfl piece

theorem OneLine.text {segments : List String} (h : OneLine segments) :
    '\n' ∉ (UrlPath.segments segments).text.toList := by
  rw [UrlPath.text, String.toList_join]
  intro hm
  obtain ⟨piece, hpiece, hm⟩ := List.mem_flatMap.1 hm
  obtain ⟨segment, hs, rfl⟩ := List.mem_map.1 hpiece
  rw [String.toList_append, List.mem_append] at hm
  rcases hm with hm | hm
  · exact absurd hm (by decide)
  · exact h segment hs hm

end Path

namespace LocalPath.Reading

def OneLine (r : Reading) : Prop := '\n' ∉ r.before

theorem lineFeed_not_mem_readRuns (runs : List (List Char)) {before segment : List Char} (hb : '\n' ∉ before)
    (hs : '\n' ∉ segment) : '\n' ∉ (readRuns before segment runs).1 ∧ '\n' ∉ (readRuns before segment runs).2 := by
  induction runs generalizing before segment with
  | nil => exact ⟨hb, hs⟩
  | cons run rest ih =>
    have hcoded : '\n' ∉ Percent.encode Percent.path run := Percent.lineFeed_not_mem_encode rfl run
    rw [readRuns]
    split
    · refine ih ?_ ?_
      · rw [List.mem_append, not_or]
        exact ⟨fun hm => hs (List.mem_of_mem_take hm), hb⟩
      · rw [List.mem_append, List.mem_cons, not_or, not_or]
        exact ⟨fun hm => hs (List.mem_of_mem_drop hm), by decide, hcoded⟩
    · refine ih hb ?_
      rw [List.mem_append, not_or]
      exact ⟨hs, hcoded⟩

theorem dropSlash_subset (before : List Char) : dropSlash before ⊆ before := by
  unfold dropSlash
  split
  · dsimp only
    split
    · exact List.subset_cons_self _ _
    · exact List.Subset.refl _
  · exact List.Subset.refl _

theorem dropSegment_subset (before : List Char) : dropSegment before ⊆ before := by
  unfold dropSegment
  split
  · exact List.Subset.refl _
  · exact (List.dropWhile_sublist _).subset

theorem lineFeed_not_mem_ascend {before : List Char} (h : '\n' ∉ before) (last : Bool) : '\n' ∉ ascend before last := by
  have habove : '\n' ∉ dropSegment (dropSlash before) :=
    fun hm => h (dropSlash_subset before (dropSegment_subset _ hm))
  unfold ascend
  dsimp only
  split
  · exact habove
  · rw [List.mem_cons, not_or]
    exact ⟨by decide, habove⟩

theorem OneLine.add {r : Reading} (h : r.OneLine) (piece : List Char) (last : Bool) : (r.add piece last).OneLine := by
  obtain ⟨hbefore, hsegment⟩ := lineFeed_not_mem_readRuns (runs piece) h List.not_mem_nil
  unfold Reading.add
  generalize readRuns r.before [] (runs piece) = read at hbefore hsegment
  obtain ⟨before, segment⟩ := read
  dsimp only at hbefore hsegment ⊢
  split
  · exact lineFeed_not_mem_ascend hbefore last
  · split
    · exact hbefore
    · show '\n' ∉ _ ++ _ ++ before
      rw [List.mem_append, List.mem_append, List.mem_reverse, not_or, not_or]
      refine ⟨⟨by cases last <;> decide, fun hm => ?_⟩, hbefore⟩
      split at hm
      · rcases List.mem_append.1 hm with hm | hm
        · exact hsegment (List.mem_of_mem_take hm)
        · exact absurd hm (by decide)
      · exact hsegment hm

theorem OneLine.addAll {r : Reading} (h : r.OneLine) (pieces : List (List Char)) : (r.addAll pieces).OneLine := by
  fun_induction Reading.addAll r pieces with
  | case1 => exact h
  | case2 => exact h.add _ _
  | case3 _ _ _ _ ih => exact ih (h.add _ _)

theorem OneLine.segments {r : Reading} (h : r.OneLine) : Path.OneLine r.segments := by
  intro segment hs
  obtain ⟨piece, hpiece, rfl⟩ := List.mem_map.1 hs
  rw [String.toList_ofList]
  intro hm
  exact h (List.mem_reverse.1 ((List.dropWhile_sublist _).subset (Text.mem_of_mem_splitOn hpiece hm)))

end LocalPath.Reading

namespace LocalPath

theorem oneLine_read {start : Reading} (h : start.OneLine) (cs : List Char) : (read start cs).OneLine := h.addAll _

theorem oneLine_unread : Reading.unread.OneLine := List.not_mem_nil

theorem oneLine_rooted : Reading.rooted.OneLine := by
  show '\n' ∉ ['/']
  decide

theorem oneLine_readBehindHost (cs : List Char) : (readBehindHost cs).OneLine := by
  unfold readBehindHost
  split <;> exact oneLine_read oneLine_rooted _

end LocalPath

/-! ## URLs -/

namespace Url

structure OneLine (u : Url) : Prop where
  scheme : '\n' ∉ u.scheme.toList
  authority : ∀ a, u.authority = some a → a.Lacks '\n'
  path : '\n' ∉ u.path.text.toList
  query : ∀ query, u.query = some query → '\n' ∉ query.toList
  fragment : ∀ fragment, u.fragment = some fragment → '\n' ∉ fragment.toList

theorem toLower_ne_lineFeed {c : Char} (h : c ≠ '\n') : c.toLower ≠ '\n' := by
  intro hlower
  change (if hupper : 65 ≤ c.val ∧ c.val ≤ 90 then (⟨c.val + 32, _⟩ : Char) else c) = '\n' at hlower
  split at hlower
  · next hupper =>
    have hle : c.val.toNat ≤ 90 := UInt32.le_iff_toNat_le.1 hupper.2
    have hten : (c.val + 32).toNat = 10 := congrArg Char.toNat hlower
    rw [UInt32.toNat_add] at hten
    change (c.val.toNat + 32) % 2 ^ 32 = 10 at hten
    omega
  · exact h hlower

theorem lineFeed_not_mem_cutScheme {cs rest : List Char} {scheme : String} (h : cutScheme? cs = some (scheme, rest)) :
    '\n' ∉ scheme.toList := by
  unfold cutScheme? at h
  split at h
  · split at h
    · next first more hname =>
      split at h
      · next hchars =>
        cases h
        rw [Bool.and_eq_true, List.all_eq_true] at hchars
        rw [String.toList_ofList, Text.asciiLower, List.mem_map]
        rintro ⟨c, hc, hlower⟩
        refine toLower_ne_lineFeed (fun e => ?_) hlower
        subst e
        rcases List.mem_cons.1 hc with rfl | hc
        · exact absurd hchars.1 (by decide)
        · exact absurd (hchars.2 _ hc) (by decide)
      · cases h
    · cases h
  · cases h

theorem lineFeed_not_mem_readTail (special : Bool) (cs : List Char) :
    (∀ query, (readTail special cs).1 = some query → '\n' ∉ query.toList) ∧
      ∀ fragment, (readTail special cs).2 = some fragment → '\n' ∉ fragment.toList := by
  have hcoded {set : Char → Bool} (hset : set '\n' = true) (part : List Char) :
      '\n' ∉ (String.ofList (Percent.encode set part)).toList := by
    rw [String.toList_ofList]
    exact Percent.lineFeed_not_mem_encode hset part
  have hquery : (if special then Percent.specialQuery else Percent.query) '\n' = true := by cases special <;> rfl
  unfold readTail
  dsimp only
  cases Text.cutAt '#' cs with
  | none =>
    dsimp only
    split
    · refine ⟨fun query hq => ?_, fun fragment hf => nomatch hf⟩
      cases hq
      exact hcoded hquery _
    · exact ⟨fun query hq => (nomatch hq), fun fragment hf => (nomatch hf)⟩
  | some parts =>
    dsimp only
    split
    · refine ⟨fun query hq => ?_, fun fragment hf => ?_⟩
      · cases hq
        exact hcoded hquery _
      · cases hf
        exact hcoded rfl _
    · refine ⟨fun query hq => (nomatch hq), fun fragment hf => ?_⟩
      cases hf
      exact hcoded rfl _

theorem oneLine_readPathAndTail {scheme : String} {authority : Option Authority} (hscheme : '\n' ∉ scheme.toList)
    (hauthority : ∀ a, authority = some a → a.Lacks '\n') (cs : List Char) :
    (readPathAndTail scheme authority cs).OneLine := by
  obtain ⟨hquery, hfragment⟩ := lineFeed_not_mem_readTail (isSpecial scheme) (cs.dropWhile fun c => !endsPath c)
  exact ⟨hscheme, hauthority, (Path.oneLine_read _ _).text, hquery, hfragment⟩

theorem oneLine_readHierarchy {scheme : String} {cs : List Char} {u : Url} (hscheme : '\n' ∉ scheme.toList)
    (h : readHierarchy scheme cs = .ok u) : u.OneLine := by
  unfold readHierarchy at h
  rw [bind_eq_ok] at h
  obtain ⟨⟨authority, rest⟩, hauthority, h⟩ := h
  cases h
  refine oneLine_readPathAndTail hscheme (fun a ha => ?_) rest
  cases ha
  exact lacks_readAuthority Host.lineFeed_mem_delimiters hauthority

theorem oneLine_readLocal {host : Host} (hhost : '\n' ∉ host.text.toList) {readPath : List Char → LocalPath.Reading}
    (hpath : ∀ cs, (readPath cs).OneLine) (cs : List Char) : (readLocal host readPath cs).OneLine := by
  obtain ⟨hquery, hfragment⟩ := lineFeed_not_mem_readTail true (significant (cs.dropWhile fun c => !endsPath c))
  have hscheme : '\n' ∉ "file".toList := by decide
  refine ⟨hscheme, fun a ha => ?_, (hpath _).segments.text, hquery, hfragment⟩
  cases ha
  refine ⟨List.not_mem_nil, fun _ hp => (nomatch hp), ?_⟩
  show '\n' ∉ (ite _ Host.empty host).text.toList
  split
  · exact List.not_mem_nil
  · exact hhost

theorem oneLine_readLocalHost {cs : List Char} {u : Url} (h : readLocalHost cs = .ok u) : u.OneLine := by
  have hempty : '\n' ∉ Host.empty.text.toList := List.not_mem_nil
  have hrooted := oneLine_readLocal hempty (LocalPath.oneLine_read LocalPath.oneLine_rooted)
  unfold readLocalHost at h
  dsimp only at h
  split at h
  · cases h
    exact hrooted _
  · have hhost (host : Host) (hm : '\n' ∉ host.text.toList) :
        (readLocal host LocalPath.readBehindHost (cs.dropWhile fun c => !(isSlash true c || endsPath c))).OneLine :=
      oneLine_readLocal hm LocalPath.oneLine_readBehindHost _
    split at h
    · cases h
      exact hrooted _
    · rw [bind_eq_ok] at h
      obtain ⟨host, hread, h⟩ := h
      split at h
      · cases h
        exact hrooted _
      · cases h
        exact hhost host (Host.not_mem_readSpecial Host.lineFeed_mem_delimiters hread)

theorem oneLine_readFile {cs : List Char} {u : Url} (h : readFile cs = .ok u) : u.OneLine := by
  have hempty : '\n' ∉ Host.empty.text.toList := List.not_mem_nil
  unfold readFile at h
  split at h
  · exact oneLine_readLocalHost h
  · cases h
    exact oneLine_readLocal hempty (LocalPath.oneLine_read LocalPath.oneLine_unread) _
  · cases h
    exact oneLine_readLocal hempty (LocalPath.oneLine_read LocalPath.oneLine_rooted) _

theorem oneLine_readBehindScheme {scheme : String} {cs : List Char} {u : Url} (hscheme : '\n' ∉ scheme.toList)
    (h : readBehindScheme scheme cs = .ok u) : u.OneLine := by
  have hnone : ∀ a, (none : Option Authority) = some a → a.Lacks '\n' := fun _ ha => nomatch ha
  unfold readBehindScheme at h
  dsimp only at h
  split at h
  · exact oneLine_readFile h
  · split at h
    · exact oneLine_readHierarchy hscheme h
    · split at h
      · exact oneLine_readHierarchy hscheme h
      · cases h
        exact oneLine_readPathAndTail hscheme hnone _
      · cases h
        obtain ⟨hquery, hfragment⟩ := lineFeed_not_mem_readTail false ((significant cs).dropWhile fun c => !endsPath c)
        refine ⟨hscheme, hnone, ?_, hquery, hfragment⟩
        show '\n' ∉ (String.ofList _).toList
        rw [String.toList_ofList]
        exact Percent.lineFeed_not_mem_encode rfl _

/-- A URL that was read stays on one line. -/
theorem oneLine_read {s : String} {u : Url} (h : read s = .ok u) : u.OneLine := by
  unfold read at h
  split at h
  · next hscheme => exact oneLine_readBehindScheme (lineFeed_not_mem_cutScheme hscheme) h
  · cases h

theorem OneLine.text {u : Url} (h : u.OneLine) : '\n' ∉ u.text.toList := by
  unfold Url.text
  simp only [String.toList_append, List.mem_append, not_or]
  refine ⟨⟨⟨⟨⟨h.scheme, by decide⟩, ?_⟩, h.path⟩, ?_⟩, ?_⟩
  · unfold authorityText
    split
    · next a ha =>
      have hauthority := not_mem_authorityText Host.lineFeed_mem_delimiters (by decide) (h.authority a ha)
      simp only [String.toList_append, List.mem_append, not_or] at hauthority ⊢
      exact ⟨⟨⟨by decide, hauthority.1.1⟩, hauthority.1.2⟩, hauthority.2⟩
    · split <;> decide
  · split
    · next query hq =>
      rw [String.toList_append, List.mem_append, not_or]
      exact ⟨by decide, h.query query hq⟩
    · exact List.not_mem_nil
  · split
    · next fragment hf =>
      rw [String.toList_append, List.mem_append, not_or]
      exact ⟨by decide, h.fragment fragment hf⟩
    · exact List.not_mem_nil

end Url

end SpacewalkAcquire
