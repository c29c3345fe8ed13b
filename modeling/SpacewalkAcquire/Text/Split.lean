/-!
# Cutting text

* `Text.cutAt c cs` : the parts before and after the first `c`;
* `Text.splitOn c cs` : the pieces between the occurrences of `c`, one more than there are occurrences;
* `Text.lines cs` : the pieces that `'\n'` ends, a carriage return before it left out;
* `Text.replaceFirst old new cs`, `Text.stripStart? start cs` : on whole substrings.

`cutAt_eq_some_iff`, `cutAt_eq_none_iff` and `splitOn_flatten` say what the pieces are.
-/

namespace SpacewalkAcquire.Text

/-- The parts before and after the first `c`. -/
def cutAt (c : Char) : List Char → Option (List Char × List Char)
  | [] => none
  | x :: xs => if x = c then some ([], xs) else (cutAt c xs).map fun p => (x :: p.1, p.2)

theorem cutAt_eq_some_iff {c : Char} {cs a b : List Char} :
    cutAt c cs = some (a, b) ↔ cs = a ++ c :: b ∧ c ∉ a := by
  induction cs generalizing a with
  | nil => simp [cutAt]
  | cons x xs ih =>
    by_cases h : x = c
    · subst h
      simp only [cutAt, if_true, Option.some.injEq, Prod.mk.injEq]
      constructor
      · rintro ⟨rfl, rfl⟩; simp
      · rintro ⟨e, hn⟩
        cases a with
        | nil => simp_all
        | cons y ys => simp_all
    · simp only [cutAt, h, if_false, Option.map_eq_some_iff, Prod.mk.injEq, Prod.exists]
      constructor
      · rintro ⟨a', b', hc, rfl, rfl⟩
        obtain ⟨rfl, hn⟩ := ih.1 hc
        exact ⟨rfl, by simp [hn, Ne.symm h]⟩
      · rintro ⟨e, hn⟩
        cases a with
        | nil => simp_all
        | cons y ys =>
          simp only [List.cons_append, List.cons.injEq] at e
          obtain ⟨rfl, e⟩ := e
          exact ⟨ys, b, ih.2 ⟨e, fun hm => hn (by simp [hm])⟩, rfl, rfl⟩

theorem cutAt_eq_none_iff {c : Char} {cs : List Char} : cutAt c cs = none ↔ c ∉ cs := by
  induction cs with
  | nil => simp [cutAt]
  | cons x xs ih =>
    by_cases h : x = c
    · simp [cutAt, h]
    · simp [cutAt, h, ih, Ne.symm h]

def splitOn (c : Char) : List Char → List (List Char)
  | [] => [[]]
  | x :: xs =>
    if x = c then [] :: splitOn c xs
    else match splitOn c xs with
      | [] => [[x]]
      | piece :: rest => (x :: piece) :: rest

theorem splitOn_ne_nil (c : Char) (cs : List Char) : splitOn c cs ≠ [] := by
  cases cs with
  | nil => simp [splitOn]
  | cons x xs =>
    unfold splitOn
    split
    · simp
    · split <;> simp

theorem splitOn_flatten (c : Char) (cs : List Char) : List.intercalate [c] (splitOn c cs) = cs := by
  induction cs with
  | nil => simp [splitOn, List.intercalate]
  | cons x xs ih =>
    unfold splitOn
    split
    · next h =>
      subst h
      cases hs : splitOn x xs with
      | nil => exact absurd hs (splitOn_ne_nil _ _)
      | cons p ps => rw [hs] at ih; rw [← ih]; simp [List.intercalate, List.intersperse]
    · cases hs : splitOn c xs with
      | nil => exact absurd hs (splitOn_ne_nil _ _)
      | cons p ps =>
        rw [hs] at ih
        rw [← ih]
        cases ps <;> simp [List.intercalate, List.intersperse]

def dropReturn (line : List Char) : List Char :=
  if line.getLast? = some '\r' then line.dropLast else line

/-- The lines of a text: every `'\n'` ends one, together with a carriage return before it; what follows the last
`'\n'` is a line unless it is empty. -/
def lines (cs : List Char) : List (List Char) :=
  let pieces := splitOn '\n' cs
  let last := pieces.getLastD []
  pieces.dropLast.map dropReturn ++ if last.isEmpty then [] else [last]

def stripStart? : List Char → List Char → Option (List Char)
  | [], cs => some cs
  | _ :: _, [] => none
  | s :: start, c :: cs => if s = c then stripStart? start cs else none

theorem stripStart?_eq_some_iff {start cs rest : List Char} :
    stripStart? start cs = some rest ↔ cs = start ++ rest := by
  induction start generalizing cs with
  | nil => simp [stripStart?, eq_comm]
  | cons s start ih =>
    cases cs with
    | nil => simp [stripStart?]
    | cons c cs =>
      by_cases h : s = c
      · subst h; simp [stripStart?, ih]
      · simp [stripStart?, h, Ne.symm h]

def replaceFirst (old new : List Char) (cs : List Char) : List Char :=
  match stripStart? old cs with
  | some rest => new ++ rest
  | none => match cs with
    | [] => []
    | c :: cs => c :: replaceFirst old new cs

def asciiLower (cs : List Char) : List Char := cs.map Char.toLower

end SpacewalkAcquire.Text
