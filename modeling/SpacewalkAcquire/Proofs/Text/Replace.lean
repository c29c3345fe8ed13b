import SpacewalkAcquire.Text.Split

/-!
# The first part of a kind is replaced

* `FirstReplaced P new cs cs'` : `cs'` is `cs` with the first part of it that is in `P` replaced by `new`, if there is
  one, and nothing else changed;
* `FirstReplaced.head`, `FirstReplaced.cons` : the part stands at the start of a text, or behind its first character;
* `replaceFirst_first` : `replaceFirst` does this for one text.
-/

namespace SpacewalkAcquire.Text

variable {P : List Char → Prop} {old new : List Char}

/-- The first part of a text that is in `P` is replaced by another, if there is one. -/
inductive FirstReplaced (P : List Char → Prop) (new cs : List Char) : List Char → Prop
  /-- A part is there, and none begins before it. -/
  | found {before part behind : List Char} (h : P part) (hcs : cs = before ++ part ++ behind)
      (hfirst : ∀ before' part' behind', P part' → cs = before' ++ part' ++ behind' →
        before.length ≤ before'.length) :
      FirstReplaced P new cs (before ++ new ++ behind)
  | absent (h : ∀ before part behind, P part → cs ≠ before ++ part ++ behind) : FirstReplaced P new cs cs

theorem FirstReplaced.head {part : List Char} (h : P part) (behind : List Char) :
    FirstReplaced P new (part ++ behind) (new ++ behind) := by
  show FirstReplaced P new (part ++ behind) ([] ++ new ++ behind)
  exact .found h rfl fun _ _ _ _ _ => Nat.zero_le _

theorem FirstReplaced.cons {c : Char} {cs cs' : List Char} (h : FirstReplaced P new cs cs')
    (hstart : ∀ part behind, P part → c :: cs ≠ part ++ behind) : FirstReplaced P new (c :: cs) (c :: cs') := by
  have hbehind {before part behind : List Char} (hpart : P part) (hcs : c :: cs = before ++ part ++ behind) :
      ∃ rest, before = c :: rest ∧ cs = rest ++ part ++ behind := by
    cases before with
    | nil => exact (hstart part behind hpart hcs).elim
    | cons x rest =>
      obtain ⟨rfl, hrest⟩ := List.cons.inj hcs
      exact ⟨rest, rfl, hrest⟩
  cases h with
  | @found before part behind hpart hcs hfirst =>
    show FirstReplaced P new (c :: cs) (c :: before ++ new ++ behind)
    refine .found hpart (congrArg (c :: ·) hcs) fun before' part' behind' hpart' hcs' => ?_
    obtain ⟨rest, rfl, hrest⟩ := hbehind hpart' hcs'
    exact Nat.succ_le_succ (hfirst rest part' behind' hpart' hrest)
  | absent h =>
    refine .absent fun before part behind hpart hcs => ?_
    obtain ⟨rest, rfl, hrest⟩ := hbehind hpart hcs
    exact h rest part behind hpart hrest

theorem FirstReplaced.nil (h : ¬ P []) : FirstReplaced P new [] [] := by
  refine .absent fun before part behind hpart hcs => h ?_
  obtain ⟨hparts, -⟩ := List.append_eq_nil_iff.1 hcs.symm
  rwa [(List.append_eq_nil_iff.1 hparts).2] at hpart

theorem stripStart?_append (start rest : List Char) : stripStart? start (start ++ rest) = some rest :=
  stripStart?_eq_some_iff.2 rfl

theorem replaceFirst_append (old new rest : List Char) : replaceFirst old new (old ++ rest) = new ++ rest := by
  unfold replaceFirst
  rw [stripStart?_append]

/-- `replaceFirst` replaces the first occurrence of `old`. -/
theorem replaceFirst_first (old new cs : List Char) : FirstReplaced (· = old) new cs (replaceFirst old new cs) := by
  have hstart {cs : List Char} (h : stripStart? old cs = none) {part : List Char} (hpart : part = old)
      (behind : List Char) : cs ≠ part ++ behind := by
    rintro rfl
    rw [hpart, stripStart?_append] at h
    cases h
  induction cs with
  | nil =>
    unfold replaceFirst
    split
    · next rest h =>
      rw [stripStart?_eq_some_iff.1 h]
      exact .head (P := (· = old)) rfl rest
    · next h => exact .nil fun hpart => hstart h hpart [] rfl
  | cons c cs ih =>
    unfold replaceFirst
    split
    · next rest h =>
      rw [stripStart?_eq_some_iff.1 h]
      exact .head (P := (· = old)) rfl rest
    · next h => exact ih.cons fun part behind hpart => hstart h hpart behind

end SpacewalkAcquire.Text
