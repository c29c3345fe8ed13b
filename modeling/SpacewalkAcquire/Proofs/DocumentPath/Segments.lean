import Mathlib.Data.List.Infix
import SpacewalkAcquire.DocumentPath
import SpacewalkAcquire.Proofs.Text.Replace
import SpacewalkAcquire.Proofs.Text.Split

/-!
# The segments of a document path

* `segments p` : the segments of a path, as its slashes divide it;
* `architectures p`, `defaultChannels p` : how many segments for an architecture it encloses in slashes, and at how many
  places the default channel stands in it;
* `exists_enclosed`, `exists_defaultChannel` : there is one to be found if the number is not zero;
* `replaceArchitecture_first` : the first enclosed segment for an architecture is replaced, slashes included;
* `defaultChannels_eq` : the default channel, too, is a matter of segments: one that ends in `dists`, and then
  `channels:` and `main`, with a slash behind them;
* `architectures_enclosed`, `defaultsAlong_exchange` : both numbers when one segment is exchanged.
-/

namespace SpacewalkAcquire.DocumentPath

/-- The segments of a path: what stands before, between and behind each `/`. -/
def segments (p : List Char) : List (List Char) := Text.splitOn '/' p

def isArchitecture (segment : List Char) : Bool :=
  match Text.stripStart? "binary-".toList segment with
  | some name => name.all isArchitectureChar
  | none => false

/-- The number of segments for an architecture that a path encloses in slashes. -/
def architectures (p : List Char) : Nat := (segments p).tail.dropLast.countP isArchitecture

/-- The number of places at which `defaultChannel` stands in a path. -/
def defaultChannels (p : List Char) : Nat := p.tails.countP fun rest => defaultChannel.toList.isPrefixOf rest

/-! ## The parts of paths, segment by segment -/

theorem defaultChannel_chars : defaultChannel.toList =
    "dists".toList ++ '/' :: ("channels:".toList ++ '/' :: ("main".toList ++ ['/'])) := by
  decide +kernel

theorem channelPart_chars (label : String) : (channelPart label).toList =
    "dists".toList ++ '/' :: ("channels:".toList ++ '/' :: (label.toList ++ ['/'])) := by
  have hstart : "dists/channels:/".toList = "dists".toList ++ '/' :: ("channels:".toList ++ ['/']) := by
    decide +kernel
  have hend : "/".toList = ['/'] := by decide +kernel
  change ("dists/channels:/" ++ label ++ "/").toList = _
  rw [String.toList_append, String.toList_append, hstart, hend]
  simp only [List.append_assoc, List.cons_append, List.nil_append]

theorem channelData_chars : channelData.toList = '/' :: ("repodata".toList ++ ['/']) := by decide +kernel

theorem frontRoot_chars : frontRoot.toList = '/' :: ("dists".toList ++ ['/']) := by decide +kernel

/-! ## The first segment for an architecture -/

theorem isArchitecture_iff {segment : List Char} : isArchitecture segment = true ↔
    ∃ name, (∀ c ∈ name, isArchitectureChar c = true) ∧ segment = "binary-".toList ++ name := by
  unfold isArchitecture
  constructor
  · intro h
    split at h
    · next name hname => exact ⟨name, List.all_eq_true.1 h, Text.stripStart?_eq_some_iff.1 hname⟩
    · cases h
  · rintro ⟨name, hname, rfl⟩
    rw [Text.stripStart?_append]
    exact List.all_eq_true.2 hname

theorem slash_not_mem_of_isArchitecture {segment : List Char} (h : isArchitecture segment = true) : '/' ∉ segment := by
  obtain ⟨name, hname, rfl⟩ := isArchitecture_iff.1 h
  rw [List.mem_append, not_or]
  exact ⟨by decide, fun hm => absurd (hname _ hm) (by decide)⟩

def IsArchitecturePart (part : List Char) : Prop := ∃ s, isArchitecture s = true ∧ part = '/' :: (s ++ ['/'])

theorem architectureRest?_eq_some_iff {cs rest : List Char} :
    architectureRest? cs = some rest ↔ ∃ s, isArchitecture s = true ∧ cs = '/' :: (s ++ '/' :: rest) := by
  have hstart : "/binary-".toList = '/' :: "binary-".toList := by decide +kernel
  unfold architectureRest?
  constructor
  · intro h
    split at h
    · next behind hbehind =>
      have hrest : behind.dropWhile isArchitectureChar = '/' :: rest := Text.stripStart?_eq_some_iff.1 h
      have hname : ∀ c ∈ behind.takeWhile isArchitectureChar, isArchitectureChar c = true :=
        List.all_eq_true.1 List.all_takeWhile
      refine ⟨_, isArchitecture_iff.2 ⟨_, hname, rfl⟩, ?_⟩
      rw [Text.stripStart?_eq_some_iff.1 hbehind, hstart, List.append_assoc, ← hrest, List.takeWhile_append_dropWhile,
        List.cons_append]
    · cases h
  · rintro ⟨s, hs, rfl⟩
    obtain ⟨name, hname, rfl⟩ := isArchitecture_iff.1 hs
    have hstrip : Text.stripStart? "/binary-".toList ('/' :: ("binary-".toList ++ name ++ '/' :: rest)) =
        some (name ++ '/' :: rest) := by
      rw [Text.stripStart?_eq_some_iff, hstart, List.cons_append, List.append_assoc]
    rw [hstrip]
    dsimp only
    rw [List.dropWhile_append_of_pos hname, List.dropWhile_cons_of_neg (by decide)]
    rfl

/-- `replaceArchitecture` replaces the first part that is an `IsArchitecturePart`. -/
theorem replaceArchitecture_first (cs : List Char) :
    Text.FirstReplaced IsArchitecturePart channelData.toList cs (replaceArchitecture cs) := by
  have hstart {cs : List Char} (h : architectureRest? cs = none) {part : List Char} (hpart : IsArchitecturePart part)
      (behind : List Char) : cs ≠ part ++ behind := by
    obtain ⟨s, hs, rfl⟩ := hpart
    rintro rfl
    have hpart : '/' :: (s ++ ['/']) ++ behind = '/' :: (s ++ '/' :: behind) := by simp
    rw [architectureRest?_eq_some_iff.2 ⟨s, hs, hpart⟩] at h
    cases h
  induction cs with
  | nil => exact .nil fun ⟨s, _, h⟩ => nomatch h
  | cons c cs ih =>
    unfold replaceArchitecture
    split
    · next rest h =>
      obtain ⟨s, hs, hcs⟩ := architectureRest?_eq_some_iff.1 h
      have hpart : c :: cs = '/' :: (s ++ ['/']) ++ rest := by simpa using hcs
      rw [hpart]
      exact .head ⟨s, hs, rfl⟩ rest
    · next h => exact ih.cons fun part behind hpart => hstart h hpart behind

/-! ## Enclosed segments -/

theorem segments_ne_nil (p : List Char) : segments p ≠ [] := Text.splitOn_ne_nil '/' p

theorem segments_divided (a b : List Char) : segments (a ++ '/' :: b) = segments a ++ segments b :=
  Text.splitOn_append_cons a b

theorem segments_behind {s : List Char} (h : '/' ∉ s) (b : List Char) :
    segments (s ++ '/' :: b) = s :: segments b := by
  rw [segments_divided, segments, Text.splitOn_of_not_mem h, List.singleton_append]

theorem segments_enclosed {s : List Char} (h : '/' ∉ s) (a b : List Char) :
    segments (a ++ '/' :: (s ++ '/' :: b)) = segments a ++ s :: segments b := by
  rw [segments_divided, segments_behind h]

theorem architectures_enclosed {s : List Char} (h : '/' ∉ s) (a b : List Char) :
    architectures (a ++ '/' :: (s ++ '/' :: b)) = (segments a).tail.countP isArchitecture +
      ((segments b).dropLast.countP isArchitecture + if isArchitecture s then 1 else 0) := by
  have henclosed : (segments a ++ s :: segments b).tail.dropLast =
      (segments a).tail ++ s :: (segments b).dropLast := by
    rw [List.tail_append_of_ne_nil (segments_ne_nil a), List.dropLast_append_cons,
      List.dropLast_cons_of_ne_nil (segments_ne_nil b)]
  rw [architectures, segments_enclosed h, henclosed, List.countP_append, List.countP_cons]

theorem exists_enclosed {p : List Char} (h : architectures p ≠ 0) :
    ∃ a s b, isArchitecture s = true ∧ p = a ++ '/' :: (s ++ '/' :: b) := by
  obtain ⟨s, hmem, hs⟩ := List.countP_pos_iff.1 (Nat.pos_of_ne_zero h)
  obtain ⟨before, behind, hsplit⟩ := List.append_of_mem hmem
  obtain ⟨first, rest, hsegments⟩ := List.exists_cons_of_ne_nil (segments_ne_nil p)
  rw [hsegments, List.tail_cons] at hsplit
  rcases List.eq_nil_or_concat rest with rfl | ⟨init, last, rfl⟩
  · simp at hsplit
  · rw [List.concat_eq_append] at hsegments hsplit
    rw [List.dropLast_concat] at hsplit
    have hp := Text.splitOn_flatten '/' p
    have hparts : first :: (before ++ s :: behind ++ [last]) = (first :: before) ++ ([s] ++ (behind ++ [last])) := by
      simp
    rw [← segments, hsegments, hsplit, hparts, Text.intercalate_append (by simp) (by simp),
      Text.intercalate_append (by simp) (by simp), List.intercalate_singleton] at hp
    exact ⟨_, s, _, hs, hp.symm⟩

/-! ## Default channels -/

theorem exists_defaultChannel {p : List Char} (h : defaultChannels p ≠ 0) :
    ∃ a b, p = a ++ defaultChannel.toList ++ b := by
  obtain ⟨rest, hrest, hstart⟩ := List.countP_pos_iff.1 (Nat.pos_of_ne_zero h)
  obtain ⟨a, rfl⟩ := (List.mem_tails _ _).1 hrest
  obtain ⟨b, rfl⟩ := List.isPrefixOf_iff_prefix.1 hstart
  exact ⟨a, b, (List.append_assoc _ _ _).symm⟩

/-- Segments that begin with the default channel, the first of them perhaps with more in front. -/
def startsDefault : List (List Char) → Bool
  | last :: part :: channel :: _ :: _ =>
    "dists".toList.isSuffixOf last && part == "channels:".toList && channel == "main".toList
  | _ => false

def defaultsAlong : List (List Char) → Nat
  | [] => 0
  | s :: rest => (if startsDefault (s :: rest) then 1 else 0) + defaultsAlong rest

theorem startsDefault_iff {s : List Char} {rest : List (List Char)} : startsDefault (s :: rest) = true ↔
    "dists".toList <:+ s ∧ ∃ next more, rest = "channels:".toList :: "main".toList :: next :: more := by
  unfold startsDefault
  split
  · next heq =>
    cases heq
    simp [List.isSuffixOf_iff_suffix, and_assoc]
  · next hlong =>
    refine ⟨fun h => (nomatch h), ?_⟩
    rintro ⟨-, next, more, rfl⟩
    exact (hlong _ _ _ _ _ rfl).elim

theorem startsDefault_of_not_suffix {s : List Char} (h : ¬ "dists".toList <:+ s) (rest : List (List Char)) :
    startsDefault (s :: rest) = false := by
  rw [← Bool.not_eq_true, startsDefault_iff]
  exact fun hstart => h hstart.1

theorem defaultsAlong_cons_of_not_suffix {s : List Char} (h : ¬ "dists".toList <:+ s) (rest : List (List Char)) :
    defaultsAlong (s :: rest) = defaultsAlong rest := by
  rw [defaultsAlong, startsDefault_of_not_suffix h]
  exact Nat.zero_add _

theorem defaultChannel_prefix_iff {p : List Char} : defaultChannel.toList <+: p ↔
    ∃ next rest, segments p = "dists".toList :: "channels:".toList :: "main".toList :: next :: rest := by
  constructor
  · rintro ⟨b, rfl⟩
    obtain ⟨next, rest, hb⟩ := List.exists_cons_of_ne_nil (segments_ne_nil b)
    refine ⟨next, rest, ?_⟩
    rw [defaultChannel_chars]
    simp only [List.append_assoc, List.cons_append, List.nil_append]
    rw [segments_behind (by decide), segments_behind (by decide), segments_behind (by decide), hb]
  · rintro ⟨next, rest, hp⟩
    have hflat := Text.splitOn_flatten '/' p
    rw [← segments, hp, List.intercalate_cons_cons, List.intercalate_cons_cons, List.intercalate_cons_cons] at hflat
    rw [← hflat, defaultChannel_chars]
    simp

/-- One more character in the first segment: `defaultChannel` begins there, or where it began before. -/
theorem startsDefault_cons_char {c : Char} {cs s : List Char} {rest : List (List Char)} (hc : c ≠ '/')
    (hcs : segments cs = s :: rest) :
    (if startsDefault ((c :: s) :: rest) then 1 else 0) =
      (if startsDefault (s :: rest) then 1 else 0) + if defaultChannel.toList.isPrefixOf (c :: cs) then 1 else 0 := by
  have hsegments : segments (c :: cs) = (c :: s) :: rest := by
    rw [segments, Text.splitOn, if_neg hc, ← segments, hcs]
  have hstart : defaultChannel.toList.isPrefixOf (c :: cs) = true ↔ "dists".toList = c :: s ∧
      ∃ next more, rest = "channels:".toList :: "main".toList :: next :: more := by
    rw [List.isPrefixOf_iff_prefix, defaultChannel_prefix_iff, hsegments]
    simp [eq_comm]
  have heither : startsDefault ((c :: s) :: rest) =
      (startsDefault (s :: rest) || defaultChannel.toList.isPrefixOf (c :: cs)) := by
    rw [Bool.eq_iff_iff, Bool.or_eq_true, startsDefault_iff, startsDefault_iff, hstart, List.suffix_cons_iff,
      or_comm, or_and_right]
  have hapart : startsDefault (s :: rest) = true → defaultChannel.toList.isPrefixOf (c :: cs) = false := fun h => by
    rw [← Bool.not_eq_true, hstart]
    rintro ⟨hwhole, -⟩
    have hlength := (startsDefault_iff.1 h).1.length_le
    rw [hwhole, List.length_cons] at hlength
    omega
  rw [heither]
  cases hstart : startsDefault (s :: rest) with
  | true => rw [hapart hstart]; rfl
  | false => rw [Bool.false_or, if_neg Bool.false_ne_true, Nat.zero_add]

theorem defaultChannels_cons (c : Char) (cs : List Char) : defaultChannels (c :: cs) =
    defaultChannels cs + if defaultChannel.toList.isPrefixOf (c :: cs) then 1 else 0 := by
  rw [defaultChannels, List.tails_cons, List.countP_cons]
  rfl

/-- `defaultChannels`, counted segment by segment. -/
theorem defaultChannels_eq (p : List Char) : defaultChannels p = defaultsAlong (segments p) := by
  induction p with
  | nil => decide +kernel
  | cons c cs ih =>
    rw [defaultChannels_cons, ih]
    by_cases hc : c = '/'
    · subst hc
      have hstart : defaultChannel.toList.isPrefixOf ('/' :: cs) = false := by
        rw [defaultChannel_chars]
        rfl
      have hsegments : segments ('/' :: cs) = [] :: segments cs := segments_behind List.not_mem_nil cs
      rw [hstart, hsegments, defaultsAlong_cons_of_not_suffix (by decide)]
      rfl
    · obtain ⟨s, rest, hcs⟩ := List.exists_cons_of_ne_nil (segments_ne_nil cs)
      have hsegments : segments (c :: cs) = (c :: s) :: rest := by
        rw [segments, Text.splitOn, if_neg hc, ← segments, hcs]
      rw [hsegments, hcs, defaultsAlong, defaultsAlong, startsDefault_cons_char hc hcs]
      omega

/-! ## Exchanged segments -/

/-- Where `front` begins the default channel as before, only the exchanged segments count. -/
theorem defaultsAlong_exchange {old new : List (List Char)}
    (h : ∀ front, front ≠ [] → startsDefault (front ++ old) = startsDefault (front ++ new)) (front : List (List Char)) :
    defaultsAlong (front ++ old) + defaultsAlong new = defaultsAlong (front ++ new) + defaultsAlong old := by
  induction front with
  | nil => exact Nat.add_comm _ _
  | cons s front ih =>
    have hstart := h (s :: front) (List.cons_ne_nil _ _)
    simp only [List.cons_append] at hstart ⊢
    rw [defaultsAlong, defaultsAlong, hstart]
    omega

end SpacewalkAcquire.DocumentPath
