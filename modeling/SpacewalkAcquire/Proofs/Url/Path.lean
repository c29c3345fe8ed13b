import SpacewalkAcquire.Proofs.Url.Domain
import SpacewalkAcquire.Proofs.Url.Percent
import SpacewalkAcquire.Url.Read

/-!
# What the path of a URL is made of

* `Path.forall_mem_extend` : a segment is empty, or the coded form of a piece that is no dot;
* `Path.Clean special` : segments of path characters, with nothing in them that divides and none of them a dot;
* `Path.read_ne_nil`, `Path.clean_read` : the segments of a path that was read;
* `Path.head?_text`, `Path.mem_text` : their written form starts with a slash and has no other characters than theirs.
-/

namespace SpacewalkAcquire

namespace Path

variable {P : String → Prop} {segments : List String}

theorem ascend_subset (segments : List String) : ascend segments ⊆ segments := by
  unfold ascend
  split
  · split
    · exact List.Subset.refl _
    · exact List.dropLast_subset _
  · exact List.Subset.refl _

theorem forall_mem_add (h : ∀ segment ∈ segments, P segment) (hempty : P "") {piece : List Char}
    (hpiece : isDoubleDot piece = false → isSingleDot piece = false →
      P (String.ofList (Percent.encode Percent.path piece))) (last : Bool) :
    ∀ segment ∈ add segments piece last, P segment := by
  have happend {ss : List String} (hs : ∀ segment ∈ ss, P segment) {more : String} (hmore : P more) :
      ∀ segment ∈ ss ++ [more], P segment := by
    intro segment hsegment
    rcases List.mem_append.1 hsegment with hsegment | hsegment
    · exact hs segment hsegment
    · rw [List.mem_singleton.1 hsegment]
      exact hmore
  have hascend : ∀ segment ∈ ascend segments, P segment := fun segment hs => h segment (ascend_subset _ hs)
  unfold add
  split
  · split
    · exact happend hascend hempty
    · exact hascend
  · next hdouble =>
    split
    · split
      · exact happend h hempty
      · exact h
    · next hsingle => exact happend h (hpiece (by simpa using hdouble) (by simpa using hsingle))

theorem forall_mem_extend (h : ∀ segment ∈ segments, P segment) (hempty : P "") {pieces : List (List Char)}
    (hpieces : ∀ piece ∈ pieces, isDoubleDot piece = false → isSingleDot piece = false →
      P (String.ofList (Percent.encode Percent.path piece))) :
    ∀ segment ∈ extend segments pieces, P segment := by
  fun_induction extend segments pieces with
  | case1 => exact h
  | case2 segments piece => exact forall_mem_add h hempty (hpieces piece List.mem_cons_self) true
  | case3 segments piece rest _ ih =>
    refine ih (forall_mem_add h hempty (hpieces piece List.mem_cons_self) false) ?_
    exact fun piece' hpiece' => hpieces piece' (List.mem_cons_of_mem _ hpiece')

theorem forall_mem_read {special : Bool} {cs : List Char} (hempty : P "")
    (hpieces : ∀ piece ∈ pieces (slashes special cs), isDoubleDot piece = false → isSingleDot piece = false →
      P (String.ofList (Percent.encode Percent.path piece))) :
    ∀ segment ∈ read special cs, P segment := by
  have hnone : ∀ segment ∈ ([] : List String), P segment := fun _ hs => absurd hs List.not_mem_nil
  unfold read
  split
  · split
    · intro segment hs
      rw [List.mem_singleton.1 hs]
      exact hempty
    · exact hnone
  · exact forall_mem_extend hnone hempty hpieces

theorem add_last_ne_nil (segments : List String) (piece : List Char) : add segments piece true ≠ [] := by
  unfold add
  split
  · simp
  · split <;> simp

theorem extend_ne_nil {pieces : List (List Char)} (h : pieces ≠ []) (segments : List String) :
    extend segments pieces ≠ [] := by
  fun_induction extend segments pieces with
  | case1 => exact absurd rfl h
  | case2 segments piece => exact add_last_ne_nil segments piece
  | case3 _ _ rest hrest ih => exact ih (fun hnil => hrest hnil)

theorem pieces_ne_nil (cs : List Char) : pieces cs ≠ [] := by
  unfold pieces
  split <;> exact Text.splitOn_ne_nil _ _

/-- For special schemes `read` gives a segment, whatever the text. -/
theorem read_ne_nil (cs : List Char) : read true cs ≠ [] := by
  unfold read
  split
  · simp
  · exact extend_ne_nil (pieces_ne_nil _) _

/-! ## Clean segments -/

/-- Segments of path characters without a slash, or what counts as one; and none of them is a dot or two. -/
def Clean (special : Bool) (segments : List String) : Prop :=
  ∀ segment ∈ segments, (∀ c ∈ segment.toList, Percent.IsCoded Percent.path c ∧ Url.isSlash special c = false) ∧
    isDoubleDot segment.toList = false ∧ isSingleDot segment.toList = false

theorem slash_not_mem_of_mem_pieces {cs piece : List Char} (hp : piece ∈ pieces cs) : '/' ∉ piece := by
  unfold pieces at hp
  split at hp <;> exact Text.not_mem_of_mem_splitOn hp

theorem mem_of_mem_pieces {cs piece : List Char} (hp : piece ∈ pieces cs) {c : Char} (hc : c ∈ piece) : c ∈ cs := by
  unfold pieces at hp
  split at hp
  · exact List.mem_cons_of_mem _ (Text.mem_of_mem_splitOn hp hc)
  · exact Text.mem_of_mem_splitOn hp hc

theorem isSlash_of_mem_pieces {special : Bool} {cs piece : List Char} (hp : piece ∈ pieces (slashes special cs))
    {c : Char} (hc : c ∈ piece) : Url.isSlash special c = false := by
  have hslash : c ≠ '/' := fun e => slash_not_mem_of_mem_pieces hp (e ▸ hc)
  cases special with
  | false => simpa [Url.isSlash] using hslash
  | true =>
    obtain ⟨d, -, hd⟩ := List.mem_map.1 (mem_of_mem_pieces hp hc)
    have hbackslash : c ≠ '\\' := by
      rintro rfl
      split at hd
      · exact absurd hd (by decide)
      · next hne => exact hne (by simpa using hd)
    simpa [Url.isSlash, hbackslash] using hslash

theorem eq_of_encode_eq_escapedDot {cs rest : List Char} {x : Char} (hx : x = 'e' ∨ x = 'E')
    (h : Percent.encode Percent.path cs = '%' :: '2' :: x :: rest) :
    ∃ behind, cs = '%' :: '2' :: x :: behind ∧ Percent.encode Percent.path behind = rest := by
  have hne : x ≠ '%' := by rcases hx with rfl | rfl <;> decide
  rcases Percent.encode_eq_cons h with ⟨cs₁, rfl, h₁⟩ | ⟨d, b, hd, hb, hprefix⟩
  · obtain ⟨cs₂, rfl, h₂⟩ := Percent.encode_eq_cons_of_ne (by decide) h₁
    obtain ⟨cs₃, rfl, h₃⟩ := Percent.encode_eq_cons_of_ne hne h₂
    exact ⟨cs₃, rfl, h₃⟩
  · exact absurd hprefix (Percent.not_encodeByte_prefix (by decide) hd hb hx rest)

/-- A dot in a segment was there before the segment was coded. -/
theorem eq_of_encode_eq_dot {cs dot rest : List Char} (hdot : dot ∈ dots)
    (h : Percent.encode Percent.path cs = dot ++ rest) :
    ∃ behind, cs = dot ++ behind ∧ Percent.encode Percent.path behind = rest := by
  simp only [dots, List.mem_cons, List.not_mem_nil, or_false] at hdot
  rcases hdot with rfl | rfl | rfl
  · exact Percent.encode_eq_cons_of_ne (by decide) h
  · exact eq_of_encode_eq_escapedDot (.inl rfl) h
  · exact eq_of_encode_eq_escapedDot (.inr rfl) h

theorem isSingleDot_of_encode {cs : List Char} (h : isSingleDot (Percent.encode Percent.path cs) = true) :
    isSingleDot cs = true := by
  have hdot : Percent.encode Percent.path cs ∈ dots := List.contains_iff_mem.1 h
  obtain ⟨behind, hcs, hbehind⟩ := eq_of_encode_eq_dot hdot (List.append_nil _).symm
  rw [Percent.eq_nil_of_encode_eq_nil hbehind, List.append_nil] at hcs
  rw [← hcs] at hdot
  exact List.contains_iff_mem.2 hdot

theorem isDoubleDot_of_encode {cs : List Char} (h : isDoubleDot (Percent.encode Percent.path cs) = true) :
    isDoubleDot cs = true := by
  simp only [isDoubleDot, List.any_eq_true, beq_iff_eq] at h ⊢
  obtain ⟨a, ha, b, hb, h⟩ := h
  obtain ⟨cs₁, rfl, h₁⟩ := eq_of_encode_eq_dot ha h
  obtain ⟨cs₂, rfl, h₂⟩ := eq_of_encode_eq_dot hb (h₁.trans (List.append_nil b).symm)
  rw [Percent.eq_nil_of_encode_eq_nil h₂, List.append_nil]
  exact ⟨a, ha, b, hb, rfl⟩

/-- What `read` gives is `Clean`. -/
theorem clean_read (special : Bool) (cs : List Char) : Clean special (read special cs) := by
  have hescapes : ∀ c ∈ Percent.escapes, Url.isSlash special c = false := by
    cases special <;> exact List.all_iff_forall_prop.1 (by decide)
  refine forall_mem_read ⟨fun c hc => absurd hc List.not_mem_nil, by decide, by decide⟩ ?_
  intro piece hpiece hdouble hsingle
  rw [String.toList_ofList]
  refine ⟨fun c hc => ⟨Percent.isCoded_path_of_mem_encode hc, ?_⟩, ?_, ?_⟩
  · exact (Percent.mem_encode hc).elim (fun hm => isSlash_of_mem_pieces hpiece hm.1) (hescapes c)
  · exact Bool.eq_false_iff.2 fun h => Bool.eq_false_iff.1 hdouble (isDoubleDot_of_encode h)
  · exact Bool.eq_false_iff.2 fun h => Bool.eq_false_iff.1 hsingle (isSingleDot_of_encode h)

/-! ## The written form -/

theorem Clean.mem_text {special : Bool} (h : Clean special segments) {c : Char}
    (hc : c ∈ (UrlPath.segments segments).text.toList) :
    c = '/' ∨ Percent.IsCoded Percent.path c ∧ Url.isSlash special c = false := by
  rw [UrlPath.text, String.toList_join] at hc
  obtain ⟨piece, hpiece, hc⟩ := List.mem_flatMap.1 hc
  obtain ⟨segment, hs, rfl⟩ := List.mem_map.1 hpiece
  rw [String.toList_append, List.mem_append] at hc
  rcases hc with hc | hc
  · exact .inl (by simpa using hc)
  · exact .inr ((h segment hs).1 c hc)

theorem head?_text (h : segments ≠ []) : (UrlPath.segments segments).text.toList.head? = some '/' := by
  obtain ⟨segment, rest, rfl⟩ := List.exists_cons_of_ne_nil h
  simp [UrlPath.text, String.toList_join]

end Path

end SpacewalkAcquire
