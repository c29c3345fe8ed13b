import SpacewalkAcquire.Proofs.Message.Framing

/-!
# Blank lines bring the reader back into step

* `EndsBlank input` : the input is empty, or its last line is complete and blank;
* `EndsBlank.exists_line` : it is one line at the end, or a line and more that ends so;
* `readFields_append`, `read_append` : what is read of such an input does not depend on what follows it;
* `readAll_append` : what is read of it together with more is what is read of the one and then of the other.
-/

namespace SpacewalkAcquire.Message

/-- Nothing, or a last line that is complete and blank: carriage returns alone stand before its line feed. -/
inductive EndsBlank : Bytes → Prop
  | nil : EndsBlank []
  | blankLine {lines returns : Bytes} (hlines : lines = [] ∨ lines.getLast? = some 10)
      (hreturns : ∀ b ∈ returns, b = 13) :
      EndsBlank (lines ++ (returns ++ [10]))

variable {ending : Ending} {input line returns rest a : Bytes}

/-! ## Lines -/

theorem lineText_returns (h : ∀ b ∈ returns, b = 13) : lineText (returns ++ [10]) = .ok "" := by
  have hempty : lineText [10] = .ok "" := by
    rw [← Text.toUtf8_lineFeed, lineText, Text.readUtf8, Text.ofUtf8?_toUtf8]
    rfl
  rw [List.eq_replicate_iff.2 ⟨rfl, h⟩]
  exact (lineText_append_returns [] returns.length).trans hempty

theorem EndsBlank.exists_line (h : EndsBlank a) (ha : a ≠ []) :
    ∃ line rest, (10 : UInt8) ∉ line ∧ a = line ++ 10 :: rest ∧
    EndsBlank rest ∧ (rest = [] → lineText (line ++ [10]) = .ok "") := by
  obtain - | ⟨hlines, hreturns⟩ := h
  · exact absurd rfl ha
  next lines returns =>
    rcases hlines with rfl | hlast
    · exact ⟨returns, [], fun hm => absurd (hreturns _ hm) (by decide), rfl, .nil, fun _ => lineText_returns hreturns⟩
    · obtain ⟨line, more, rfl, hline⟩ := List.eq_append_cons_of_mem (List.mem_of_getLast? hlast)
      refine ⟨line, more ++ (returns ++ [10]), hline, by simp, .blankLine ?_ hreturns, fun hnil => by simp at hnil⟩
      rw [List.getLast?_append_of_ne_nil _ (List.cons_ne_nil _ _)] at hlast
      cases more with
      | nil => exact .inl rfl
      | cons b more => exact .inr hlast

/-! ## One message -/

/-- `readFields` ends at the latest with the blank line of `a`, whatever follows. -/
theorem readFields_append (m : Message) (h : EndsBlank a) (ha : a ≠ []) :
    ∃ value rest, EndsBlank rest ∧ ∀ ending b, readFields ending m (a ++ b) = .item value (rest ++ b) := by
  -- On the length, since the next line is cut off the front and `EndsBlank` speaks of the end.
  induction hlength : a.length using Nat.strong_induction_on generalizing a m with
  | _ n ih =>
    obtain ⟨line, rest, hline, rfl, hrest, hlast⟩ := h.exists_line ha
    have hread (ending : Ending) (b : Bytes) := readFields_eq ending m (line ++ 10 :: (rest ++ b))
    simp only [nextLine_cons hline] at hread
    simp only [List.append_assoc, List.cons_append, hread]
    cases htext : lineText (line ++ [10]) with
    | error failure => exact ⟨.error failure, rest, hrest, fun _ _ => rfl⟩
    | ok text =>
      by_cases hempty : text.isEmpty
      · exact ⟨.ok m, rest, hrest, fun _ _ => if_pos hempty⟩
      · simp only [if_neg hempty]
        cases hfield : ofFieldLine text with
        | error failure => exact ⟨.error failure, rest, hrest, fun _ _ => rfl⟩
        | ok field =>
          have hne : rest ≠ [] := fun hnil => hempty <| by
            rw [hlast hnil] at htext
            cases htext
            rfl
          refine ih rest.length ?_ (m.set field.1 field.2) hrest hne rfl
          rw [← hlength, List.length_append, List.length_cons]
          omega

/-- Either nothing can be read of `a`, or an item and what is left of `a`, which ends in a blank line again. -/
theorem read_append (h : EndsBlank a) :
    (∀ ending b, read ending (a ++ b) = read ending b) ∨
      ∃ value rest, EndsBlank rest ∧ ∀ ending b, read ending (a ++ b) = .item value (rest ++ b) := by
  induction hlength : a.length using Nat.strong_induction_on generalizing a with
  | _ n ih =>
    by_cases ha : a = []
    · subst ha
      exact .inl fun _ _ => rfl
    obtain ⟨line, rest, hline, rfl, hrest, hlast⟩ := h.exists_line ha
    have hread (ending : Ending) (b : Bytes) := read_eq ending (line ++ 10 :: (rest ++ b))
    simp only [nextLine_cons hline] at hread
    simp only [List.append_assoc, List.cons_append, hread]
    cases htext : lineText (line ++ [10]) with
    | error failure => exact .inr ⟨.error failure, rest, hrest, fun _ _ => rfl⟩
    | ok text =>
      by_cases hempty : text.isEmpty
      · simp only [if_pos hempty]
        refine ih rest.length ?_ hrest rfl
        rw [← hlength, List.length_append, List.length_cons]
        omega
      · simp only [if_neg hempty]
        cases hstatus : ofStatusLine text with
        | error failure => exact .inr ⟨.error failure, rest, hrest, fun _ _ => rfl⟩
        | ok m =>
          have hne : rest ≠ [] := fun hnil => hempty <| by
            rw [hlast hnil] at htext
            cases htext
            rfl
          exact .inr (readFields_append m hrest hne)

/-! ## All messages -/

/-- A blank line brings the reader back into step: what `readAll` gives for an input `a` that ends in one, with anything
behind it, is what it gives for `a` alone and then what it gives for the rest. -/
theorem readAll_append (h : EndsBlank a) (ending : Ending) (b : Bytes) :
    readAll ending (a ++ b) = readAll .closed a ++ readAll ending b := by
  induction hlength : a.length using Nat.strong_induction_on generalizing a with
  | _ n ih =>
    rcases read_append h with hnothing | ⟨value, rest, hrest, hitem⟩
    · have halone := readAll_congr (hnothing .closed [])
      rw [List.append_nil, readAll_nil] at halone
      rw [readAll_congr (hnothing ending b), halone]
      rfl
    · have halone := hitem .closed []
      rw [List.append_nil, List.append_nil] at halone
      rw [readAll_of_item (hitem ending b), readAll_of_item halone, List.cons_append,
        ih rest.length (hlength ▸ read_length halone) hrest rfl]

/-- A message with an error in the middle and one without any, a blank line between them: the second one is read. -/
theorem readAll_append_broken :
    let broken := Text.toUtf8 "600 URI Acquire\nURI u\nFilename: a\n\r\n"
    let m := plain 601 "Configuration"
    EndsBlank broken ∧ readAll .closed (broken ++ Text.toUtf8 m.wire) = readAll .closed broken ++ [.ok m] := by
  intro broken m
  have hlines : broken = Text.toUtf8 "600 URI Acquire\nURI u\nFilename: a\n" ++ ([13] ++ [10]) := by
    show Text.toUtf8 ("600 URI Acquire\nURI u\nFilename: a\n" ++ "\r\n") = _
    rw [Text.toUtf8_append]
    rfl
  have hends : EndsBlank broken := by
    rw [hlines]
    exact .blankLine (.inr rfl) (by simp)
  have hm : m.WireSafe := ⟨⟨by decide, by decide⟩, nofun⟩
  refine ⟨hends, ?_⟩
  rw [readAll_append hends, readAll_wire hm]

end SpacewalkAcquire.Message
