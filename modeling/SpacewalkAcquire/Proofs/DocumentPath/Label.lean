import SpacewalkAcquire.Proofs.DocumentPath.Passes

/-!
# The label in the place of the default channel

A path that begins with the default channel gets the label of the base channel and, behind it, the place of the channel
data instead of the first segment for an architecture.

* `replaceArchitecture_behind` : the first segment between slashes is replaced, or the next one is looked at;
* `toBackend_defaultChannel` : the label survives if and only if it is not itself a segment for an architecture;
* `toBackend_defaultChannel_lost` : with a label that is one, the label is what is replaced.
-/

namespace SpacewalkAcquire.DocumentPath

theorem architectureRest?_of_ne_slash {c : Char} (h : c ≠ '/') (cs : List Char) :
    architectureRest? (c :: cs) = none := by
  rw [Option.eq_none_iff_forall_ne_some]
  intro rest hrest
  obtain ⟨s, -, hcs⟩ := architectureRest?_eq_some_iff.1 hrest
  exact h (List.cons.inj hcs).1

theorem replaceArchitecture_append {s : List Char} (h : '/' ∉ s) (rest : List Char) :
    replaceArchitecture (s ++ rest) = s ++ replaceArchitecture rest := by
  induction s with
  | nil => rfl
  | cons c s ih =>
    rw [List.mem_cons, not_or] at h
    rw [List.cons_append, replaceArchitecture, architectureRest?_of_ne_slash (Ne.symm h.1)]
    dsimp only
    rw [ih h.2, List.cons_append]

/-- A segment between two slashes is replaced together with them if it `isArchitecture`, and kept otherwise. -/
theorem replaceArchitecture_behind {s : List Char} (h : '/' ∉ s) (rest : List Char) :
    replaceArchitecture ('/' :: (s ++ '/' :: rest)) =
      if isArchitecture s then channelData.toList ++ rest else '/' :: (s ++ replaceArchitecture ('/' :: rest)) := by
  rw [replaceArchitecture]
  split
  · next behind hbehind =>
    obtain ⟨s', hs', hcs⟩ := architectureRest?_eq_some_iff.1 hbehind
    obtain ⟨rfl, rfl⟩ := Text.append_cons_inj h (slash_not_mem_of_isArchitecture hs') (List.cons.inj hcs).2
    rw [if_pos hs']
  · next hnone =>
    have hs : isArchitecture s ≠ true := fun hs => by
      rw [architectureRest?_eq_some_iff.2 ⟨s, hs, rfl⟩] at hnone
      cases hnone
    rw [if_neg hs, replaceArchitecture_append h]

def channelRoot : String := "/XMLRPC/GET-REQ/dists/channels:/"

theorem channelRoot_chars : channelRoot.toList = backendRoot.toList ++ ("channels:".toList ++ ['/']) := by
  decide +kernel

/-- Behind the root and `channels:`, only `label` and what follows it can be replaced. -/
theorem toList_toBackend_defaultChannel (label rest : String) :
    (toBackend ("/" ++ defaultChannel ++ rest) label).toList =
      backendRoot.toList ++
        ("channels:".toList ++ replaceArchitecture ('/' :: (label.toList ++ '/' :: rest.toList))) := by
  have hpath : ("/" ++ defaultChannel ++ rest).toList = '/' :: (defaultChannel.toList ++ rest.toList) := by
    have hslash : "/".toList = ['/'] := by decide +kernel
    rw [String.toList_append, String.toList_append, hslash]
    rfl
  have hfirst : Text.replaceFirst defaultChannel.toList (channelPart label).toList
      ('/' :: (defaultChannel.toList ++ rest.toList)) = '/' :: ((channelPart label).toList ++ rest.toList) := by
    have hnone : Text.stripStart? defaultChannel.toList ('/' :: (defaultChannel.toList ++ rest.toList)) = none := by
      rw [defaultChannel_chars]
      rfl
    rw [Text.replaceFirst, hnone]
    exact congrArg _ (Text.replaceFirst_append _ _ _)
  have hparts : '/' :: ((channelPart label).toList ++ rest.toList) =
      '/' :: ("dists".toList ++ '/' :: ("channels:".toList ++ '/' :: (label.toList ++ '/' :: rest.toList))) := by
    rw [channelPart_chars]
    simp only [List.append_assoc, List.cons_append, List.nil_append]
  have hroot (rest : List Char) : replaceRoot ('/' :: ("dists".toList ++ '/' :: rest)) = backendRoot.toList ++ rest := by
    have hfront : '/' :: ("dists".toList ++ '/' :: rest) = frontRoot.toList ++ rest := by
      rw [frontRoot_chars]
      simp only [List.cons_append, List.append_assoc, List.nil_append]
    rw [replaceRoot, hfront, Text.stripStart?_append]
  rw [toList_toBackend, hpath, hfirst, hparts, replaceArchitecture_behind (by decide), if_neg (by decide),
    replaceArchitecture_behind (by decide), if_neg (by decide)]
  exact hroot _

/-- The label takes the place of the default channel, and it stays there, with the first segment for an architecture
replaced behind it, if and only if it is not itself such a segment. Otherwise the label is what is replaced. -/
theorem toBackend_defaultChannel {label : String} (h : '/' ∉ label.toList) (rest : String) :
    let path := "/" ++ defaultChannel ++ rest
    ∃ r, Text.FirstReplaced IsArchitecturePart channelData.toList ('/' :: rest.toList) r ∧
      (toBackend path label = channelRoot ++ label ++ String.ofList r ↔ isArchitecture label.toList = false) ∧
      (isArchitecture label.toList = true → toBackend path label = channelRoot ++ "repodata/" ++ rest) := by
  intro path
  have hbackend := toList_toBackend_defaultChannel label rest
  rw [replaceArchitecture_behind h] at hbackend
  refine ⟨_, replaceArchitecture_first ('/' :: rest.toList), ⟨fun heq => ?_, fun hlabel => ?_⟩, fun hlabel => ?_⟩
  · rw [← Bool.not_eq_true]
    intro hlabel
    obtain ⟨name, -, hname⟩ := isArchitecture_iff.1 hlabel
    rw [if_pos hlabel, heq, String.toList_append, String.toList_append, channelRoot_chars, channelData_chars,
      hname] at hbackend
    simp at hbackend
  · rw [hlabel, if_neg Bool.false_ne_true] at hbackend
    apply String.toList_inj.1
    have hrest : (String.ofList (replaceArchitecture ('/' :: rest.toList))).toList = _ := String.toList_ofList
    rw [hbackend, String.toList_append, String.toList_append, hrest, channelRoot_chars]
    simp only [List.append_assoc, List.cons_append, List.nil_append]
  · have hdata : "repodata/".toList = "repodata".toList ++ ['/'] := by decide +kernel
    rw [if_pos hlabel, channelData_chars] at hbackend
    apply String.toList_inj.1
    rw [hbackend, String.toList_append, String.toList_append, channelRoot_chars, hdata]
    simp only [List.append_assoc, List.cons_append, List.nil_append]

/-- A label that only begins like a segment for an architecture, in front of two such segments. -/
theorem toBackend_defaultChannel_similar :
    let path := "/" ++ defaultChannel ++ "binary-i386/binary-amd64/Packages"
    '/' ∉ "binary-x86.64".toList ∧
      ∃ r, Text.FirstReplaced IsArchitecturePart channelData.toList
          ('/' :: "binary-i386/binary-amd64/Packages".toList) r ∧
        (toBackend path "binary-x86.64" = channelRoot ++ "binary-x86.64" ++ String.ofList r ↔
          isArchitecture "binary-x86.64".toList = false) ∧
        (isArchitecture "binary-x86.64".toList = true →
          toBackend path "binary-x86.64" = channelRoot ++ "repodata/" ++ "binary-i386/binary-amd64/Packages") :=
  ⟨by decide, toBackend_defaultChannel (by decide) _⟩

/-- A label of letters, digits, hyphens, underscores and dots can be lost. -/
theorem toBackend_defaultChannel_lost :
    ¬ ∀ (label rest : String) (r : List Char), label ≠ "" →
      (∀ c ∈ label.toList, (c.isAlphanum || c == '-' || c == '_' || c == '.') = true) →
      Text.FirstReplaced IsArchitecturePart channelData.toList ('/' :: rest.toList) r →
      toBackend ("/" ++ defaultChannel ++ rest) label = channelRoot ++ label ++ String.ofList r := by
  intro h
  have hkept := h "binary-x" "Release" _ (by decide) (List.all_eq_true.1 (by decide))
    (replaceArchitecture_first ('/' :: "Release".toList))
  exact absurd hkept (by decide +kernel)

end SpacewalkAcquire.DocumentPath
