import SpacewalkAcquire.Proofs.Text.Split
import SpacewalkAcquire.Proofs.Url.Path

/-!
# Paths that stay below their start

* `Path.divided cs` : the pieces between slashes and backslashes;
* `Path.staysBelow depth pieces` : no piece leads above the place that lies `depth` segments above the start;
* `Path.extend_below` : segments in front of such pieces are kept, and more come behind them;
* `Path.staysBelow_exchange` : pieces that are no dots can be exchanged;
* `Path.splitOn_text` : the pieces of a written path are its segments, so that none of them is a dot.
-/

namespace SpacewalkAcquire

namespace Path

/-! ## Depth -/

/-- The pieces between slashes and backslashes. -/
def divided (cs : List Char) : List (List Char) := Text.splitOn '/' (slashes true cs)

/-- How many segments lie between a place and the start of a path, after one more `piece`. -/
def depthAfter (depth : Nat) (piece : List Char) : Nat :=
  if isDoubleDot piece then depth - 1 else if isSingleDot piece then depth else depth + 1

/-- No piece leads above the place that lies `depth` segments above the start. -/
def staysBelow (depth : Nat) : List (List Char) → Bool
  | [] => true
  | piece :: rest => (!isDoubleDot piece || decide (0 < depth)) && staysBelow (depthAfter depth piece) rest

theorem staysBelow_of_no_dots {pieces : List (List Char)} (h : ∀ piece ∈ pieces, isDoubleDot piece = false)
    (depth : Nat) : staysBelow depth pieces = true := by
  induction pieces generalizing depth with
  | nil => rfl
  | cons piece rest ih =>
    rw [staysBelow, h piece List.mem_cons_self, ih fun p hp => h p (List.mem_cons_of_mem _ hp)]
    rfl

def IsPlain (piece : List Char) : Prop := isDoubleDot piece = false ∧ isSingleDot piece = false

theorem staysBelow_exchange {piece piece' : List Char} (h : IsPlain piece) (h' : IsPlain piece') (depth : Nat)
    (before behind : List (List Char)) :
    staysBelow depth (before ++ piece :: behind) = staysBelow depth (before ++ piece' :: behind) := by
  induction before generalizing depth with
  | nil => simp [staysBelow, depthAfter, h.1, h.2, h'.1, h'.2]
  | cons first rest ih => rw [List.cons_append, List.cons_append, staysBelow, staysBelow, ih]

/-! ## Segments -/

variable (root : List String) {below : List String} {depth : Nat}

theorem ascend_below (h : below ≠ []) :
    ∃ below', ascend (root ++ below) = root ++ below' ∧ below.length - 1 ≤ below'.length := by
  unfold ascend
  split
  · split
    · exact ⟨below, rfl, Nat.sub_le _ _⟩
    · exact ⟨below.dropLast, List.dropLast_append_of_ne_nil h, Nat.le_of_eq List.length_dropLast.symm⟩
  · exact ⟨below, rfl, Nat.sub_le _ _⟩

theorem add_below {piece : List Char} (hdepth : depth ≤ below.length) (hpiece : isDoubleDot piece = true → 0 < depth)
    (last : Bool) : ∃ below', add (root ++ below) piece last = root ++ below' ∧
      depthAfter depth piece ≤ below'.length ∧ (last = true → below' ≠ []) := by
  have hcons (ss : List String) (s : String) : ss ++ [s] ≠ [] := by simp
  unfold add depthAfter
  split
  · next hdouble =>
    have hpos := hpiece hdouble
    have hne : below ≠ [] := by
      rintro rfl
      exact absurd hdepth (Nat.not_le.2 hpos)
    obtain ⟨below', hbelow', hlength⟩ := ascend_below root hne
    rw [hbelow']
    split
    · refine ⟨below' ++ [""], List.append_assoc _ _ _, ?_, fun _ => hcons _ _⟩
      rw [List.length_append]
      omega
    · next hlast => exact ⟨below', rfl, by omega, fun h => absurd h hlast⟩
  · split
    · split
      · refine ⟨below ++ [""], List.append_assoc _ _ _, ?_, fun _ => hcons _ _⟩
        rw [List.length_append]
        omega
      · next hlast => exact ⟨below, rfl, hdepth, fun h => absurd h hlast⟩
    · refine ⟨below ++ [_], List.append_assoc _ _ _, ?_, fun _ => hcons _ _⟩
      rw [List.length_append]
      exact Nat.succ_le_succ hdepth

theorem extend_cons {pieces : List (List Char)} (h : pieces ≠ []) (segments : List String) (piece : List Char) :
    extend segments (piece :: pieces) = extend (add segments piece false) pieces := by
  cases pieces with
  | nil => exact absurd rfl h
  | cons next rest => rfl

/-- Pieces that stay below take nothing away of the segments `root`, and the last of them adds one. -/
theorem extend_below {pieces : List (List Char)} (hne : pieces ≠ []) (hdepth : depth ≤ below.length)
    (h : staysBelow depth pieces = true) :
    ∃ below', extend (root ++ below) pieces = root ++ below' ∧ below' ≠ [] := by
  induction pieces generalizing depth below with
  | nil => exact absurd rfl hne
  | cons piece rest ih =>
    rw [staysBelow, Bool.and_eq_true, Bool.or_eq_true, Bool.not_eq_true', decide_eq_true_eq] at h
    have hpiece (hdouble : isDoubleDot piece = true) : 0 < depth :=
      h.1.resolve_left fun hnot => Bool.noConfusion (hdouble.symm.trans hnot)
    by_cases hrest : rest = []
    · subst hrest
      obtain ⟨below', hadd, -, hlast⟩ := add_below root hdepth hpiece true
      exact ⟨below', hadd, hlast rfl⟩
    · obtain ⟨below', hadd, hdepth', -⟩ := add_below root hdepth hpiece false
      rw [extend_cons hrest, hadd]
      exact ih hrest hdepth' h.2

/-! ## Written paths -/

/-- The pieces of a written path are its segments, behind an empty one in front of the first slash. -/
theorem splitOn_text {special : Bool} {segments : List String} (h : Clean special segments) :
    Text.splitOn '/' (UrlPath.segments segments).text.toList = [] :: segments.map String.toList := by
  induction segments with
  | nil => rfl
  | cons segment rest ih =>
    have hslash : '/' ∉ segment.toList := fun hm =>
      absurd ((h segment List.mem_cons_self).1 '/' hm).2 (by simp [Url.isSlash])
    have htext : (UrlPath.segments (segment :: rest)).text.toList =
        '/' :: (segment.toList ++ (UrlPath.segments rest).text.toList) := by
      simp [UrlPath.text, String.toList_join]
    have hrest := ih fun s hs => h s (List.mem_cons_of_mem _ hs)
    rw [htext, Text.splitOn, if_pos rfl, Text.splitOn_append hslash hrest, List.append_nil, List.map_cons]

end Path

end SpacewalkAcquire
