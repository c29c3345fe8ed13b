import SpacewalkAcquire.Proofs.Message.Framing

/-!
# Carriage returns before line feeds

* `Padded x y` : `y` is `x` with carriage returns put before line feeds;
* `Padded.exists_line` : the first lines of the two differ by carriage returns at the end, or the two are the same;
* `Next.Alike` : the same was read, and what is left differs by such carriage returns only;
* `nextLine_alike`, `readFields_alike`, `read_alike` : so it is for lines, fields and messages;
* `readAll_padded` : all that is read of the two is the same.
-/

namespace SpacewalkAcquire.Message

/-- The second input is the first one with any number of carriage returns put before any of its line feeds. -/
inductive Padded : Bytes → Bytes → Prop
  | nil : Padded [] []
  | keep (b : UInt8) {x y : Bytes} (h : Padded x y) : Padded (b :: x) (b :: y)
  | lineFeed (n : Nat) {x y : Bytes} (h : Padded x y) : Padded (10 :: x) (List.replicate n 13 ++ 10 :: y)

variable {ending : Ending} {x y line : Bytes}

theorem Padded.behind (h : Padded x y) : ∀ front, Padded (front ++ x) (front ++ y)
  | [] => h
  | b :: front => .keep b (h.behind front)

theorem Padded.refl (x : Bytes) : Padded x x := by
  simpa using Padded.nil.behind x

theorem Padded.exists_line (h : Padded x y) :
    (10 ∉ x ∧ y = x) ∨ ∃ line n rest rest', (10 : UInt8) ∉ line ∧ x = line ++ 10 :: rest ∧
      y = line ++ List.replicate n 13 ++ 10 :: rest' ∧ Padded rest rest' := by
  induction h with
  | nil => exact .inl ⟨List.not_mem_nil, rfl⟩
  | lineFeed n h => exact .inr ⟨[], n, _, _, List.not_mem_nil, rfl, rfl, h⟩
  | @keep b x y h ih =>
    by_cases hb : b = 10
    · subst hb
      exact .inr ⟨[], 0, x, y, List.not_mem_nil, rfl, rfl, h⟩
    · rcases ih with ⟨hx, rfl⟩ | ⟨line, n, rest, rest', hline, rfl, rfl, hrest⟩
      · exact .inl ⟨List.not_mem_cons_of_ne_of_not_mem (Ne.symm hb) hx, rfl⟩
      · exact .inr ⟨b :: line, n, rest, rest', List.not_mem_cons_of_ne_of_not_mem (Ne.symm hb) hline, rfl, rfl, hrest⟩

/-! ## Reading -/

/-- The same was read, and the inputs that are left differ by carriage returns before line feeds only. -/
inductive Next.Alike {α : Type} : Next α → Next α → Prop
  | stop (failure : Option Failure) : Alike (.stop failure) (.stop failure)
  | item (value : Except Failure α) {rest rest' : Bytes} (h : Padded rest rest') :
    Alike (.item value rest) (.item value rest')

theorem Next.Alike.refl {α : Type} : ∀ a : Next α, a.Alike a
  | .stop failure => .stop failure
  | .item value rest => .item value (.refl rest)

theorem nextLine_alike (ending : Ending) (h : Padded x y) : (nextLine ending x).Alike (nextLine ending y) := by
  rcases h.exists_line with ⟨-, rfl⟩ | ⟨line, n, rest, rest', hline, rfl, rfl, hrest⟩
  · exact .refl _
  · have hreturns : (10 : UInt8) ∉ line ++ List.replicate n 13 := by simp [hline]
    rw [nextLine_cons hline, nextLine_cons hreturns, lineText_append_returns]
    exact .item _ hrest

theorem readFields_alike (ending : Ending) (m : Message) (h : Padded x y) :
    (readFields ending m x).Alike (readFields ending m y) := by
  -- On the length of what is left, as the reader goes on behind each line.
  induction hlength : x.length using Nat.strong_induction_on generalizing x y m with
  | _ n ih =>
    rw [readFields_eq ending m x, readFields_eq ending m y]
    have hline := nextLine_alike ending h
    generalize hx : nextLine ending x = a at hline
    generalize nextLine ending y = b at hline
    cases hline with
    | stop failure =>
      cases failure with
      | none => exact .item _ .nil
      | some failure => exact .stop _
    | @item value rest rest' hrest =>
      cases value with
      | error failure => exact .item _ hrest
      | ok line =>
        dsimp only
        split
        · exact .item _ hrest
        · cases ofFieldLine line with
          | error failure => exact .item _ hrest
          | ok field => exact ih rest.length (hlength ▸ nextLine_length hx) _ hrest rfl

/-- From padded inputs `read` gives the same, and leaves padded inputs. -/
theorem read_alike (ending : Ending) (h : Padded x y) : (read ending x).Alike (read ending y) := by
  induction hlength : x.length using Nat.strong_induction_on generalizing x y with
  | _ n ih =>
    rw [read_eq ending x, read_eq ending y]
    have hline := nextLine_alike ending h
    generalize hx : nextLine ending x = a at hline
    generalize nextLine ending y = b at hline
    cases hline with
    | stop failure => exact .stop _
    | @item value rest rest' hrest =>
      cases value with
      | error failure => exact .item _ hrest
      | ok line =>
        dsimp only
        split
        · exact ih rest.length (hlength ▸ nextLine_length hx) hrest rfl
        · cases ofStatusLine line with
          | error failure => exact .item _ hrest
          | ok m => exact readFields_alike ending m hrest

/-- Carriage returns before line feeds change nothing of what `readAll` gives: the same messages with their fields in
the same order, and the same errors with the same wording, however the input ends. -/
theorem readAll_padded (h : Padded x y) (ending : Ending) : readAll ending x = readAll ending y := by
  induction hlength : x.length using Nat.strong_induction_on generalizing x y with
  | _ n ih =>
    have hread := read_alike ending h
    generalize hx : read ending x = a at hread
    generalize hy : read ending y = b at hread
    cases hread with
    | stop failure => rw [readAll_of_stop hx, readAll_of_stop hy]
    | item value hrest =>
      rw [readAll_of_item hx, readAll_of_item hy, ih _ (hlength ▸ read_length hx) hrest rfl]

/-- A status line without a code, a line that stops within a character, a blank line, and a last line without a line
feed: one carriage return, two, none and three before the four line feeds. -/
theorem readAll_padded_broken :
    let cutOff : Bytes := [0xE2, 0x82]
    let x := Text.toUtf8 "x1 Bad" ++ 10 :: (cutOff ++ 10 :: 10 :: (Text.toUtf8 "600 URI Acquire" ++ 10 ::
      Text.toUtf8 "URI: a"))
    let y := Text.toUtf8 "x1 Bad" ++ 13 :: 10 :: (cutOff ++ 13 :: 13 :: 10 :: 10 :: (Text.toUtf8 "600 URI Acquire" ++
      13 :: 13 :: 13 :: 10 :: Text.toUtf8 "URI: a"))
    Padded x y ∧ readAll .closed x = readAll .closed y := by
  intro cutOff x y
  have hpadded : Padded x y :=
    .behind (.lineFeed 1 (.behind (.lineFeed 2 (.lineFeed 0 (.behind (.lineFeed 3 (.refl _)) _))) _)) _
  exact ⟨hpadded, readAll_padded hpadded .closed⟩

end SpacewalkAcquire.Message
