import Mathlib.Logic.Function.Iterate
import SpacewalkAcquire.Proofs.DocumentPath.Segments

/-!
# Rewriting a document path again

What one pass of `toBackend` leaves of the segments for an architecture and of the default channels, and what that
means for one pass after the other.

* `Transparent label` : a label that can stand in a path as a segment and is taken for nothing else there;
* `toBackend_counts`, `iterate_counts` : what one pass, and what many of them, leave of both;
* `Settled label p` : nothing is left to rewrite, so `toBackend` leaves the path alone (`Settled.toBackend_eq`);
* `toBackend_converges` : every pass takes a segment and a channel away, and a path settles as soon as both are gone.
-/

namespace SpacewalkAcquire.DocumentPath

/-- A label that is a segment of its own in a path, none for an architecture, and does not end as `frontRoot` does. -/
structure Transparent (label : List Char) : Prop where
  slash : '/' ∉ label
  architecture : isArchitecture label = false
  root : ¬ "dists".toList <:+ label

/-! ## The default channel is replaced -/

theorem channelPart_main : channelPart "main" = defaultChannel := by decide +kernel

theorem segments_channelPart (a b : List Char) : ∃ before last, "dists".toList <:+ last ∧
    ∀ label : String, '/' ∉ label.toList → segments (a ++ (channelPart label).toList ++ b) =
      before ++ last :: "channels:".toList :: label.toList :: segments b := by
  obtain ⟨before, last, hlast⟩ := Text.splitOn_append_of_not_mem (c := '/') (b := "dists".toList) (by decide) a
  refine ⟨before, last ++ "dists".toList, List.suffix_append _ _, fun label hlabel => ?_⟩
  have hparts : a ++ (channelPart label).toList ++ b =
      (a ++ "dists".toList) ++ '/' :: ("channels:".toList ++ '/' :: (label.toList ++ '/' :: b)) := by
    rw [channelPart_chars]
    simp only [List.append_assoc, List.cons_append, List.nil_append]
  rw [hparts, segments_divided, segments_behind (by decide), segments_behind hlabel, segments, hlast]
  simp

theorem architectures_channelPart {label : String} (h : '/' ∉ label.toList)
    (harchitecture : isArchitecture label.toList = false) (a b : List Char) :
    architectures (a ++ (channelPart label).toList ++ b) = architectures (a ++ defaultChannel.toList ++ b) := by
  have hparts (label : String) : a ++ (channelPart label).toList ++ b =
      (a ++ "dists/channels:".toList) ++ '/' :: (label.toList ++ '/' :: b) := by
    have hstart : "dists/channels:".toList = "dists".toList ++ '/' :: "channels:".toList := by decide +kernel
    rw [channelPart_chars, hstart]
    simp only [List.append_assoc, List.cons_append, List.nil_append]
  rw [← channelPart_main, hparts, hparts, architectures_enclosed h, architectures_enclosed (by decide), harchitecture]
  rfl

/-- Behind the front end's root and `channels:` it does not matter for what stands before which segment follows. -/
theorem startsDefault_exchange_channel (front : List (List Char)) (hfront : front ≠ []) (last part old new : List Char)
    (rest : List (List Char)) : startsDefault (front ++ last :: part :: old :: rest) =
      startsDefault (front ++ last :: part :: new :: rest) := by
  match front, hfront with
  | [_], _ => rfl
  | [_, _], _ => rfl
  | [_, _, _], _ => rfl
  | _ :: _ :: _ :: _ :: _, _ => rfl

theorem defaultsAlong_channel {last label : List Char} (hlabel : ¬ "dists".toList <:+ label)
    (rest : List (List Char)) : defaultsAlong (last :: "channels:".toList :: label :: rest) =
      (if startsDefault (last :: "channels:".toList :: label :: rest) then 1 else 0) + defaultsAlong rest := by
  rw [defaultsAlong, defaultsAlong_cons_of_not_suffix (by decide), defaultsAlong_cons_of_not_suffix hlabel]

/-- With a label other than `main` in its place, the default channel is gone. -/
theorem defaultChannels_channelPart {label : String} (h : Transparent label.toList) (hmain : label ≠ "main")
    (a b : List Char) :
    defaultChannels (a ++ defaultChannel.toList ++ b) = defaultChannels (a ++ (channelPart label).toList ++ b) + 1 := by
  obtain ⟨before, last, hlast, hsegments⟩ := segments_channelPart a b
  obtain ⟨next, rest, hb⟩ := List.exists_cons_of_ne_nil (segments_ne_nil b)
  have hexchange := defaultsAlong_exchange (fun front hfront => startsDefault_exchange_channel front hfront last
    "channels:".toList "main".toList label.toList (segments b)) before
  have hmainroot : ¬ "dists".toList <:+ "main".toList := by decide
  have hold : startsDefault (last :: "channels:".toList :: "main".toList :: segments b) = true := by
    rw [startsDefault_iff, hb]
    exact ⟨hlast, next, rest, rfl⟩
  have hnew : startsDefault (last :: "channels:".toList :: label.toList :: segments b) = false := by
    rw [← Bool.not_eq_true, startsDefault_iff, hb]
    rintro ⟨-, _, _, heq⟩
    have hlabel : label.toList = "main".toList := (List.cons.inj (List.cons.inj heq).2).1
    exact hmain (String.toList_inj.1 hlabel)
  rw [defaultsAlong_channel hmainroot, defaultsAlong_channel h.root, hold, hnew] at hexchange
  rw [defaultChannels_eq, defaultChannels_eq, ← channelPart_main, hsegments "main" (by decide),
    hsegments label h.slash]
  simp only [if_true, Bool.false_eq_true, if_false] at hexchange
  omega

/-! ## A segment for an architecture is replaced -/

theorem architectures_architecture {s : List Char} (h : isArchitecture s = true) (a b : List Char) :
    architectures (a ++ '/' :: (s ++ '/' :: b)) = architectures (a ++ '/' :: ("repodata".toList ++ '/' :: b)) + 1 := by
  rw [architectures_enclosed (slash_not_mem_of_isArchitecture h), architectures_enclosed (by decide), h]
  rfl

/-- Neither `channels:` nor `main`: no default channel goes on with such a segment, though one may begin with it. -/
structure Unlisted (s : List Char) : Prop where
  part : s ≠ "channels:".toList
  channel : s ≠ "main".toList

theorem unlisted_architecture {s : List Char} (h : isArchitecture s = true) : Unlisted s := by
  constructor <;> (rintro rfl; revert h; decide)

theorem startsDefault_exchange {old new : List Char} (hold : Unlisted old) (hnew : Unlisted new)
    (rest front : List (List Char)) (hfront : front ≠ []) :
    startsDefault (front ++ old :: rest) = startsDefault (front ++ new :: rest) := by
  have hpart {s : List Char} (h : Unlisted s) : (s == "channels:".toList) = false := beq_eq_false_iff_ne.2 h.part
  have hchannel {s : List Char} (h : Unlisted s) : (s == "main".toList) = false := beq_eq_false_iff_ne.2 h.channel
  match front, hfront, rest with
  | [_], _, [] => rfl
  | [_], _, [_] => rfl
  | [_], _, _ :: _ :: _ =>
    simp only [List.singleton_append, startsDefault, hpart hold, hpart hnew, Bool.and_false, Bool.false_and]
  | [_, _], _, [] => rfl
  | [_, _], _, _ :: _ =>
    simp only [List.cons_append, List.nil_append, startsDefault, hchannel hold, hchannel hnew, Bool.and_false]
  | [_, _, _], _, _ => rfl
  | _ :: _ :: _ :: _ :: _, _, _ => rfl

theorem defaultChannels_architecture {s : List Char} (h : isArchitecture s = true) (a b : List Char) :
    defaultChannels (a ++ '/' :: ("repodata".toList ++ '/' :: b)) ≤ defaultChannels (a ++ '/' :: (s ++ '/' :: b)) := by
  have hdata : ¬ "dists".toList <:+ "repodata".toList := by decide
  have hexchange := defaultsAlong_exchange (startsDefault_exchange (unlisted_architecture h)
    (⟨by decide, by decide⟩ : Unlisted "repodata".toList) (segments b)) (segments a)
  rw [defaultChannels_eq, defaultChannels_eq, segments_enclosed (slash_not_mem_of_isArchitecture h),
    segments_enclosed (by decide)]
  rw [defaultsAlong_cons_of_not_suffix hdata, defaultsAlong] at hexchange
  omega

/-! ## The root is replaced -/

theorem segments_frontRoot (rest : List Char) :
    segments (frontRoot.toList ++ rest) = [] :: "dists".toList :: segments rest := by
  rw [frontRoot_chars]
  simp only [List.cons_append, List.append_assoc, List.nil_append]
  rw [← List.nil_append ('/' :: _), segments_behind List.not_mem_nil, segments_behind (by decide)]

theorem segments_backendRoot (rest : List Char) : segments (backendRoot.toList ++ rest) =
    [] :: "XMLRPC".toList :: "GET-REQ".toList :: "dists".toList :: segments rest := by
  have hchars : backendRoot.toList =
      '/' :: ("XMLRPC".toList ++ '/' :: ("GET-REQ".toList ++ '/' :: ("dists".toList ++ ['/']))) := by decide +kernel
  rw [hchars]
  simp only [List.cons_append, List.append_assoc, List.nil_append]
  rw [← List.nil_append ('/' :: _), segments_behind List.not_mem_nil, segments_behind (by decide),
    segments_behind (by decide), segments_behind (by decide)]

theorem architectures_root (rest : List Char) :
    architectures (backendRoot.toList ++ rest) = architectures (frontRoot.toList ++ rest) := by
  obtain ⟨next, more, hrest⟩ := List.exists_cons_of_ne_nil (segments_ne_nil rest)
  rw [architectures, architectures, segments_backendRoot, segments_frontRoot, hrest]
  rfl

theorem defaultChannels_root (rest : List Char) :
    defaultChannels (backendRoot.toList ++ rest) = defaultChannels (frontRoot.toList ++ rest) := by
  rw [defaultChannels_eq, defaultChannels_eq, segments_backendRoot, segments_frontRoot,
    defaultsAlong_cons_of_not_suffix (s := []) (by decide), defaultsAlong_cons_of_not_suffix (s := []) (by decide),
    defaultsAlong_cons_of_not_suffix (by decide), defaultsAlong_cons_of_not_suffix (by decide)]

/-! ## One pass -/

variable {label : String}

/-- `replaceFirst` takes one default channel away, and keeps all segments for architectures. -/
theorem replaceFirst_counts (h : Transparent label.toList) (p : List Char) :
    let q := Text.replaceFirst defaultChannel.toList (channelPart label).toList p
    architectures q = architectures p ∧ (label ≠ "main" → defaultChannels q = defaultChannels p - 1) := by
  intro q
  have hreplaced : Text.FirstReplaced (· = defaultChannel.toList) (channelPart label).toList p q :=
    Text.replaceFirst_first _ _ p
  clear_value q
  cases hreplaced with
  | @found a part b hpart hp _ =>
    rw [hp, hpart]
    refine ⟨architectures_channelPart h.slash h.architecture a b, fun hmain => ?_⟩
    rw [defaultChannels_channelPart h hmain a b, Nat.add_sub_cancel]
  | absent hnone =>
    refine ⟨rfl, fun _ => ?_⟩
    have hzero : defaultChannels p = 0 := by
      by_contra hne
      obtain ⟨a, b, hp⟩ := exists_defaultChannel hne
      exact hnone a _ b rfl hp
    rw [hzero]

/-- `replaceArchitecture` takes one segment for an architecture away, and brings no default channel. -/
theorem replaceArchitecture_counts (p : List Char) :
    architectures (replaceArchitecture p) = architectures p - 1 ∧
      defaultChannels (replaceArchitecture p) ≤ defaultChannels p := by
  have hreplaced := replaceArchitecture_first p
  generalize replaceArchitecture p = q at hreplaced ⊢
  cases hreplaced with
  | @found a part b hpart hp _ =>
    obtain ⟨s, hs, rfl⟩ := hpart
    have hold : p = a ++ '/' :: (s ++ '/' :: b) := by simpa using hp
    have hnew : a ++ channelData.toList ++ b = a ++ '/' :: ("repodata".toList ++ '/' :: b) := by
      rw [channelData_chars]
      simp only [List.append_assoc, List.cons_append, List.nil_append]
    rw [hold, hnew, architectures_architecture hs, Nat.add_sub_cancel]
    exact ⟨rfl, defaultChannels_architecture hs a b⟩
  | absent hnone =>
    refine ⟨?_, Nat.le_refl _⟩
    have hzero : architectures p = 0 := by
      by_contra hne
      obtain ⟨a, s, b, hs, hp⟩ := exists_enclosed hne
      exact hnone a _ b ⟨s, hs, rfl⟩ (by simpa using hp)
    rw [hzero]

theorem replaceRoot_counts (p : List Char) :
    architectures (replaceRoot p) = architectures p ∧ defaultChannels (replaceRoot p) = defaultChannels p ∧
      ¬ frontRoot.toList <+: replaceRoot p := by
  unfold replaceRoot
  split
  · next rest hrest =>
    rw [Text.stripStart?_eq_some_iff.1 hrest]
    refine ⟨architectures_root rest, defaultChannels_root rest, fun ⟨more, hmore⟩ => ?_⟩
    have hfront := segments_frontRoot more
    rw [hmore, segments_backendRoot] at hfront
    exact absurd (List.cons.inj (List.cons.inj hfront).2).1 (by decide)
  · next hnone =>
    refine ⟨rfl, rfl, fun ⟨rest, hrest⟩ => ?_⟩
    rw [Text.stripStart?_eq_some_iff.2 hrest.symm] at hnone
    cases hnone

theorem toList_toBackend (path label : String) : (toBackend path label).toList =
    replaceRoot (replaceArchitecture
      (Text.replaceFirst defaultChannel.toList (channelPart label).toList path.toList)) := by
  rw [toBackend, String.toList_ofList]

/-- What one pass of `toBackend` takes away. -/
theorem toBackend_counts (h : Transparent label.toList) (path : String) :
    architectures (toBackend path label).toList = architectures path.toList - 1 ∧
      (label ≠ "main" → defaultChannels (toBackend path label).toList ≤ defaultChannels path.toList - 1) ∧
      ¬ frontRoot.toList <+: (toBackend path label).toList := by
  obtain ⟨hfirst, hchannels⟩ := replaceFirst_counts h path.toList
  obtain ⟨hsecond, hfewer⟩ := replaceArchitecture_counts
    (Text.replaceFirst defaultChannel.toList (channelPart label).toList path.toList)
  obtain ⟨hthird, hsame, hroot⟩ := replaceRoot_counts (replaceArchitecture
    (Text.replaceFirst defaultChannel.toList (channelPart label).toList path.toList))
  rw [toList_toBackend]
  refine ⟨by rw [hthird, hsecond, hfirst], fun hmain => ?_, hroot⟩
  rw [hsame, ← hchannels hmain]
  exact hfewer

/-! ## One pass after the other -/

/-- What `n + 1` passes of `toBackend` take away. -/
theorem iterate_counts (h : Transparent label.toList) (path : String) (n : Nat) :
    let q := ((toBackend · label)^[n + 1] path).toList
    architectures q = architectures path.toList - (n + 1) ∧
      (label ≠ "main" → defaultChannels q ≤ defaultChannels path.toList - (n + 1)) ∧ ¬ frontRoot.toList <+: q := by
  induction n with
  | zero => exact toBackend_counts h path
  | succ n ih =>
    obtain ⟨harchitectures, hchannels, -⟩ := ih
    obtain ⟨harchitectures', hchannels', hroot⟩ := toBackend_counts h ((toBackend · label)^[n + 1] path)
    rw [Function.iterate_succ_apply']
    refine ⟨by omega, fun hmain => ?_, hroot⟩
    have := hchannels hmain
    have := hchannels' hmain
    omega

/-- Nothing is left in `p` that a pass with `label` would rewrite. -/
structure Settled (label : String) (p : List Char) : Prop where
  root : ¬ frontRoot.toList <+: p
  architectures : architectures p = 0
  channels : label = "main" ∨ defaultChannels p = 0

theorem replaceFirst_of_settled {p : List Char} (h : Settled label p) :
    Text.replaceFirst defaultChannel.toList (channelPart label).toList p = p := by
  have hreplaced := Text.replaceFirst_first defaultChannel.toList (channelPart label).toList p
  generalize Text.replaceFirst defaultChannel.toList (channelPart label).toList p = q at hreplaced ⊢
  cases hreplaced with
  | @found a part b hpart hp _ =>
    rcases h.channels with rfl | hzero
    · rw [hp, hpart, channelPart_main]
    · refine absurd hzero (Nat.ne_of_gt (List.countP_pos_iff.2 ⟨defaultChannel.toList ++ b, ?_, ?_⟩))
      · exact (List.mem_tails _ _).2 ⟨a, by rw [hp, hpart, List.append_assoc]⟩
      · exact List.isPrefixOf_iff_prefix.2 (List.prefix_append _ _)
  | absent => rfl

theorem replaceArchitecture_of_settled {p : List Char} (h : Settled label p) : replaceArchitecture p = p := by
  have hreplaced := replaceArchitecture_first p
  generalize replaceArchitecture p = q at hreplaced ⊢
  cases hreplaced with
  | @found a part b hpart hp _ =>
    obtain ⟨s, hs, rfl⟩ := hpart
    have hold : p = a ++ '/' :: (s ++ '/' :: b) := by simpa using hp
    have hzero := h.architectures
    rw [hold, architectures_architecture hs] at hzero
    cases hzero
  | absent => rfl

theorem Settled.toBackend_eq {path : String} (h : Settled label path.toList) : toBackend path label = path := by
  apply String.toList_inj.1
  rw [toList_toBackend, replaceFirst_of_settled h, replaceArchitecture_of_settled h, replaceRoot]
  split
  · next rest hrest => exact (h.root ⟨rest, (Text.stripStart?_eq_some_iff.1 hrest).symm⟩).elim
  · rfl

/-- A path is `Settled` after as many passes as it has default channels and segments for architectures, and one at
least. -/
theorem settled_iterate (h : Transparent label.toList) {path : String} {n : Nat} (hn : 1 ≤ n)
    (hchannels : defaultChannels path.toList ≤ n) (harchitectures : architectures path.toList ≤ n) :
    Settled label ((toBackend · label)^[n] path).toList := by
  obtain ⟨n, rfl⟩ := Nat.exists_eq_add_of_le' hn
  obtain ⟨harchitectures', hchannels', hroot⟩ := iterate_counts h path n
  refine ⟨hroot, by omega, ?_⟩
  by_cases hmain : label = "main"
  · exact .inl hmain
  · exact .inr (by have := hchannels' hmain; omega)

/-- Every pass takes one segment for an architecture away and, unless the label is that of the default channel itself,
at least one default channel, as long as there are any; and it leaves no path under the front end's root. So nothing
changes any more after as many passes as there are segments and default channels, and one at least. -/
theorem toBackend_converges (h : Transparent label.toList) (path : String) :
    let pass := fun path => toBackend path label
    let passes := max 1 (max (defaultChannels path.toList) (architectures path.toList))
    ¬ frontRoot.toList <+: (pass path).toList ∧
      architectures (pass path).toList = architectures path.toList - 1 ∧
      (label ≠ "main" → defaultChannels (pass path).toList ≤ defaultChannels path.toList - 1) ∧
      pass (pass^[passes] path) = pass^[passes] path ∧
      (defaultChannels path.toList ≤ 1 → architectures path.toList ≤ 1 → pass (pass path) = pass path) := by
  intro pass passes
  obtain ⟨harchitectures, hchannels, hroot⟩ := toBackend_counts h path
  refine ⟨hroot, harchitectures, hchannels, ?_, fun hone hone' => ?_⟩
  · exact (settled_iterate h (by omega) (by omega) (by omega)).toBackend_eq
  · exact (settled_iterate h (Nat.le_refl 1) hone hone').toBackend_eq

/-- A default channel that begins within a segment for an architecture, and another such segment next to one. -/
theorem toBackend_converges_adjacent :
    let pass := fun path => toBackend path "base"
    let path := "/binary-dists/channels:/main/binary-i386/binary-amd64/Packages"
    Transparent "base".toList ∧ defaultChannels path.toList = 1 ∧ architectures path.toList = 3 ∧
      pass (pass^[3] path) = pass^[3] path := by
  intro pass path
  have hlabel : Transparent "base".toList := ⟨by decide, by decide, by decide⟩
  have hchannels : defaultChannels path.toList = 1 := by decide +kernel
  have harchitectures : architectures path.toList = 3 := by decide +kernel
  obtain ⟨-, -, -, hfixed, -⟩ := toBackend_converges hlabel path
  rw [hchannels, harchitectures] at hfixed
  exact ⟨hlabel, hchannels, harchitectures, hfixed⟩

end SpacewalkAcquire.DocumentPath
