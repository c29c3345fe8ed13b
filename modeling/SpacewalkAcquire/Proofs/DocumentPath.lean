import SpacewalkAcquire.Proofs.DocumentPath.Segments
import SpacewalkAcquire.Proofs.Url.Below

/-!
# Document paths piece by piece

* `Exchanged` : two paths that differ in one plain piece between slashes at most;
* `exchanged_defaultChannel`, `exchanged_architecture` : each rewriting exchanges one piece or none;
* `Under p rest` : a path under the root of the front end, with `rest` behind it;
* `Under.toBackend` : the server's path of such a path lies under the server's root, and leads above it as the path did.
-/

namespace SpacewalkAcquire.DocumentPath

/-! ## Exchanged pieces -/

/-- A piece of a path, whatever the path is divided at: no dot, and every character counts. -/
structure IsName (piece : List Char) : Prop where
  plain : Path.IsPlain piece
  chars : ∀ c ∈ piece, Url.isSlash true c = false ∧ Url.isIgnored c = false

theorem IsName.divided_eq {piece : List Char} (h : IsName piece) : Path.divided piece = [piece] := by
  have hmap : Path.slashes true piece = piece := by
    refine (List.map_congr_left fun c hc => ?_).trans (List.map_id _)
    have hc := (h.chars c hc).1
    rw [if_neg (by rintro hb; rw [beq_iff_eq.1 hb] at hc; exact absurd hc (by decide))]
    rfl
  rw [Path.divided, hmap]
  exact Text.splitOn_of_not_mem fun hm => absurd (h.chars _ hm).1 (by decide)

theorem divided_append (a b : List Char) :
    Path.divided (a ++ '/' :: b) = Path.divided a ++ Path.divided b := by
  have hmap : Path.slashes true (a ++ '/' :: b) = Path.slashes true a ++ '/' :: Path.slashes true b := by
    simp [Path.slashes]
  rw [Path.divided, hmap, Text.splitOn_append_cons]
  rfl

/-- `p` and `p'` differ in one name between slashes at most, and that is not `dists`. -/
def Exchanged (p p' : List Char) : Prop :=
  p' = p ∨ ∃ a name name' b, IsName name ∧ IsName name' ∧ name ≠ "dists".toList ∧
    p = a ++ '/' :: (name ++ '/' :: b) ∧ p' = a ++ '/' :: (name' ++ '/' :: b)

/-- A path is the root of the front end and `rest` behind it, all of whose characters count. -/
structure Under (p rest : List Char) : Prop where
  eq : p = frontRoot.toList ++ rest
  counts : ∀ c ∈ rest, Url.isIgnored c = false

theorem frontRoot_eq_append {a b : List Char} (h : frontRoot.toList = a ++ '/' :: b) :
    (a = [] ∧ b = "dists/".toList) ∨ (a = "/dists".toList ∧ b = []) := by
  have hchars : frontRoot.toList = ['/', 'd', 'i', 's', 't', 's', '/'] := rfl
  rw [hchars] at h
  simpa [List.cons_eq_append_iff] using h

theorem divided_name {name : List Char} (h : IsName name) (b : List Char) :
    Path.divided (name ++ '/' :: b) = name :: Path.divided b := by
  rw [divided_append, h.divided_eq, List.singleton_append]

/-- A name that is not `dists` lies behind `frontRoot`: at its end, or behind a slash of the rest. -/
theorem behind_frontRoot {a name b rest : List Char} (hname : IsName name) (hroot : name ≠ "dists".toList)
    (h : a ++ '/' :: (name ++ '/' :: b) = frontRoot.toList ++ rest) :
    (a ++ ['/'] = frontRoot.toList ∧ rest = name ++ '/' :: b) ∨
      ∃ more, a = frontRoot.toList ++ more ∧ rest = more ++ '/' :: (name ++ '/' :: b) := by
  have hslash : '/' ∉ name := fun hm => absurd (hname.chars _ hm).1 (by decide)
  rcases List.append_eq_append_iff.1 h with ⟨inside, hinside, hbehind⟩ | ⟨more, ha, hrest⟩
  · cases inside with
    | nil => exact .inr ⟨[], by simpa using hinside.symm, by simpa using hbehind.symm⟩
    | cons c inside =>
      obtain ⟨rfl, hnames⟩ := List.cons.inj hbehind
      rcases frontRoot_eq_append hinside with ⟨rfl, rfl⟩ | ⟨rfl, rfl⟩
      · -- The name would be that of the root itself.
        exact absurd (Text.append_cons_inj hslash (by decide) hnames).1 hroot
      · exact .inl ⟨rfl, hnames.symm⟩
  · exact .inr ⟨more, ha, hrest⟩

/-- An exchanged path is under `frontRoot`, too, and its pieces stay below if and only if those of the path did. -/
theorem Exchanged.under {p p' rest : List Char} (he : Exchanged p p') (h : Under p rest) :
    ∃ rest', Under p' rest' ∧ Path.staysBelow 0 (Path.divided rest') = Path.staysBelow 0 (Path.divided rest) := by
  rcases he with rfl | ⟨a, name, name', b, hname, hname', hroot, hp, rfl⟩
  · exact ⟨rest, h, rfl⟩
  have hnamed {c : Char} (hb : ∀ c ∈ b, Url.isIgnored c = false) (hc : c ∈ name' ++ '/' :: b) :
      Url.isIgnored c = false := by
    rcases List.mem_append.1 hc with hc | hc
    · exact (hname'.chars c hc).2
    · rcases List.mem_cons.1 hc with rfl | hc
      · rfl
      · exact hb c hc
  rcases behind_frontRoot hname hroot (hp.symm.trans h.eq) with ⟨ha, rfl⟩ | ⟨more, rfl, rfl⟩
  · refine ⟨name' ++ '/' :: b, ⟨?_, fun c hc => hnamed (fun c hc => h.counts c ?_) hc⟩, ?_⟩
    · rw [← ha, List.append_assoc]
      rfl
    · exact List.mem_append_right _ (List.mem_cons_of_mem _ hc)
    · rw [divided_name hname, divided_name hname']
      exact Path.staysBelow_exchange hname'.plain hname.plain 0 [] _
  · refine ⟨more ++ '/' :: (name' ++ '/' :: b), ⟨List.append_assoc _ _ _, fun c hc => ?_⟩, ?_⟩
    · rcases List.mem_append.1 hc with hm | hm
      · exact h.counts c (List.mem_append_left _ hm)
      · rcases List.mem_cons.1 hm with rfl | hm
        · rfl
        · refine hnamed (fun c hc => h.counts c ?_) hm
          exact List.mem_append_right _ (List.mem_cons_of_mem _ (List.mem_append_right _ (List.mem_cons_of_mem _ hc)))
    · rw [divided_append more, divided_append more, divided_name hname, divided_name hname']
      exact Path.staysBelow_exchange hname'.plain hname.plain 0 _ _

/-! ## The rewriting -/

/-- A channel's label that can stand in a path: of letters, digits, hyphens, underscores and dots, and no dot itself. -/
def IsPlainLabel (label : String) : Prop :=
  label ≠ "." ∧ label ≠ ".." ∧
    ∀ c ∈ label.toList, (c.isAlphanum || c == '-' || c == '_' || c == '.') = true

instance (label : String) : Decidable (IsPlainLabel label) :=
  @instDecidableAnd _ _ _ (@instDecidableAnd _ _ _ (List.decidableBAll
    (fun c => (c.isAlphanum || c == '-' || c == '_' || c == '.') = true) label.toList))

def pathMarks : List Char := ['/', '\\', '\t', '\n', '\r']

theorem counts_of_not_mem {c : Char} (h : c ∉ pathMarks) : Url.isSlash true c = false ∧ Url.isIgnored c = false := by
  simpa [pathMarks, Url.isSlash, Url.isIgnored, and_assoc] using h

theorem isName_label {label : String} (h : IsPlainLabel label) : IsName label.toList := by
  obtain ⟨hsingle, hdouble, hchars⟩ := h
  have hmarks : ∀ c ∈ pathMarks, (c.isAlphanum || c == '-' || c == '_' || c == '.') = false :=
    List.all_iff_forall_prop.1 (by decide)
  have hdot {dot : List Char} (hm : dot ∈ Path.dots) (hsub : dot ⊆ label.toList) : dot = ['.'] := by
    simp only [Path.dots, List.mem_cons, List.not_mem_nil, or_false] at hm
    rcases hm with rfl | rfl | rfl
    · rfl
    · exact absurd (hchars '%' (hsub List.mem_cons_self)) (by decide)
    · exact absurd (hchars '%' (hsub List.mem_cons_self)) (by decide)
  refine ⟨⟨?_, ?_⟩, fun c hc => counts_of_not_mem fun hm => ?_⟩
  · rw [Bool.eq_false_iff]
    intro h
    simp only [Path.isDoubleDot, List.any_eq_true, beq_iff_eq] at h
    obtain ⟨a, ha, b, hb, hab⟩ := h
    obtain rfl := hdot ha (hab ▸ List.subset_append_left a b)
    obtain rfl := hdot hb (hab ▸ List.subset_append_right _ b)
    exact hdouble (String.toList_inj.1 hab)
  · rw [Bool.eq_false_iff]
    intro h
    have hm : label.toList ∈ Path.dots := List.contains_iff_mem.1 h
    exact hsingle (String.toList_inj.1 (hdot hm (List.Subset.refl _)))
  · exact absurd (hchars c hc) (by rw [hmarks c hm]; decide)

theorem isName_architecture {name : List Char} (h : ∀ c ∈ name, isArchitectureChar c = true) :
    IsName ("binary-".toList ++ name) := by
  have hstart : ∀ c ∈ "binary-".toList, c ∉ pathMarks := List.all_iff_forall_prop.1 (by decide)
  have hmarks : ∀ c ∈ pathMarks, isArchitectureChar c = false := List.all_iff_forall_prop.1 (by decide)
  refine ⟨⟨?_, ?_⟩, fun c hc => counts_of_not_mem fun hm => ?_⟩
  · simp [Path.isDoubleDot, Path.dots]
  · simp [Path.isSingleDot, Path.dots]
  · rcases List.mem_append.1 hc with hc | hc
    · exact hstart c hc hm
    · exact absurd (h c hc) (by rw [hmarks c hm]; decide)

theorem exchanged_defaultChannel {label : String} (h : IsPlainLabel label) (p : List Char) :
    Exchanged p (Text.replaceFirst defaultChannel.toList (channelPart label).toList p) := by
  have hmain : IsName "main".toList := isName_label (by decide)
  have hreplaced := Text.replaceFirst_first defaultChannel.toList (channelPart label).toList p
  generalize Text.replaceFirst defaultChannel.toList (channelPart label).toList p = p' at hreplaced ⊢
  cases hreplaced with
  | @found a part b hpart hp _ =>
    refine .inr ⟨a ++ "dists".toList ++ '/' :: "channels:".toList, _, _, b, hmain, isName_label h, by decide, ?_, ?_⟩
    · rw [hp, hpart, defaultChannel_chars]
      simp only [List.append_assoc, List.cons_append, List.nil_append]
    · rw [channelPart_chars]
      simp only [List.append_assoc, List.cons_append, List.nil_append]
  | absent => exact .inl rfl

theorem exchanged_architecture (p : List Char) : Exchanged p (replaceArchitecture p) := by
  have hdata : IsName "repodata".toList := isName_label (by decide)
  have hreplaced := replaceArchitecture_first p
  generalize replaceArchitecture p = p' at hreplaced ⊢
  cases hreplaced with
  | @found a part b hpart hp _ =>
    obtain ⟨s, hs, rfl⟩ := hpart
    obtain ⟨name, hname, rfl⟩ := isArchitecture_iff.1 hs
    refine .inr ⟨a, _, _, b, isName_architecture hname, hdata, by simp, ?_, ?_⟩
    · rw [hp]
      simp only [List.append_assoc, List.cons_append, List.nil_append]
    · rw [channelData_chars]
      simp only [List.append_assoc, List.cons_append, List.nil_append]
  | absent => exact .inl rfl

/-- `toBackend` puts a path from under `frontRoot` under `backendRoot`, and keeps whether it stays below. -/
theorem Under.toBackend {path label : String} {rest : List Char} (h : Under path.toList rest)
    (hlabel : IsPlainLabel label) :
    ∃ rest', DocumentPath.toBackend path label = String.ofList (backendRoot.toList ++ rest') ∧
      (∀ c ∈ rest', Url.isIgnored c = false) ∧
      Path.staysBelow 0 (Path.divided rest') = Path.staysBelow 0 (Path.divided rest) := by
  obtain ⟨labelled, hlabelled, hsame⟩ := (exchanged_defaultChannel hlabel _).under h
  obtain ⟨rest', hrest', hsame'⟩ := (exchanged_architecture _).under hlabelled
  refine ⟨rest', ?_, hrest'.counts, hsame'.trans hsame⟩
  rw [DocumentPath.toBackend, replaceRoot, Text.stripStart?_eq_some_iff.2 hrest'.eq]

end SpacewalkAcquire.DocumentPath
