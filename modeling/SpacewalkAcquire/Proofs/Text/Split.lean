import SpacewalkAcquire.Text.Split

/-!
# The pieces of a text

* `splitOn_eq`, `length_splitOn` : the pieces between the occurrences of a character, and how many there are;
* `splitOn_append_cons`, `splitOn_append`, `splitOn_append_of_not_mem` : the pieces of a text that is put together;
* `append_cons_inj` : the first occurrence of a character divides a text in one way;
* `intercalate_append` : putting pieces together in two parts.
-/

namespace SpacewalkAcquire.Text

variable {c : Char}

theorem append_cons_inj {a a' b b' : List Char} (ha : c ∉ a) (ha' : c ∉ a') (h : a ++ c :: b = a' ++ c :: b') :
    a = a' ∧ b = b' := by
  have hcut := cutAt_eq_some_iff.2 ⟨h, ha'⟩
  rw [cutAt_eq_some_iff.2 ⟨rfl, ha⟩, Option.some.injEq, Prod.mk.injEq] at hcut
  exact hcut

theorem splitOn_eq (c : Char) (cs : List Char) : splitOn c cs = cs.splitOn c := by
  induction cs with
  | nil => rfl
  | cons x xs ih =>
    rw [splitOn, List.splitOn_cons_eq_if_modifyHead, ih]
    by_cases h : x = c
    · rw [if_pos h, if_pos (beq_iff_eq.2 h)]
    · rw [if_neg h, if_neg fun heq => h (beq_iff_eq.1 heq)]
      cases hpieces : xs.splitOn c with
      | nil => exact absurd hpieces (List.splitOn_ne_nil c xs)
      | cons piece rest => rfl

theorem splitOn_append_cons (a b : List Char) : splitOn c (a ++ c :: b) = splitOn c a ++ splitOn c b := by
  rw [splitOn_eq, splitOn_eq, splitOn_eq, List.splitOn_append_cons_self]

theorem splitOn_append {a : List Char} (h : c ∉ a) {b piece : List Char} {rest : List (List Char)}
    (hb : splitOn c b = piece :: rest) : splitOn c (a ++ b) = (a ++ piece) :: rest := by
  induction a with
  | nil => exact hb
  | cons x xs ih =>
    rw [List.mem_cons, not_or] at h
    rw [List.cons_append, splitOn, if_neg (Ne.symm h.1), ih h.2]
    rfl

theorem splitOn_of_not_mem {a : List Char} (h : c ∉ a) : splitOn c a = [a] := by
  rw [splitOn_eq, List.splitOn_eq_singleton h]

theorem splitOn_append_of_not_mem {b : List Char} (h : c ∉ b) (a : List Char) :
    ∃ before last, splitOn c (a ++ b) = before ++ [last ++ b] := by
  induction a with
  | nil => exact ⟨[], [], by rw [List.nil_append, splitOn_of_not_mem h]; rfl⟩
  | cons x xs ih =>
    obtain ⟨before, last, hpieces⟩ := ih
    rw [List.cons_append, splitOn, hpieces]
    by_cases hx : x = c
    · exact ⟨[] :: before, last, if_pos hx⟩
    · rw [if_neg hx]
      cases before with
      | nil => exact ⟨[], x :: last, rfl⟩
      | cons piece before => exact ⟨(x :: piece) :: before, last, rfl⟩

theorem intercalate_append {a b : List (List Char)} (ha : a ≠ []) (hb : b ≠ []) :
    [c].intercalate (a ++ b) = [c].intercalate a ++ c :: [c].intercalate b := by
  induction a with
  | nil => exact (ha rfl).elim
  | cons piece a ih =>
    obtain ⟨first, rest, rfl⟩ := List.exists_cons_of_ne_nil hb
    cases a with
    | nil => simp
    | cons next a => simpa using ih (List.cons_ne_nil next a)

theorem length_splitOn (c : Char) (cs : List Char) : (splitOn c cs).length = cs.count c + 1 := by
  induction cs with
  | nil => rfl
  | cons x xs ih =>
    rw [splitOn]
    split
    · next h => rw [List.length_cons, ih, h, List.count_cons_self]
    · next h =>
      rw [List.count_cons_of_ne h, ← ih]
      cases hpieces : splitOn c xs with
      | nil => exact absurd hpieces (splitOn_ne_nil c xs)
      | cons piece rest => rfl

end SpacewalkAcquire.Text
