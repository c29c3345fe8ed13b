import Mathlib.Data.List.DropRight
import SpacewalkAcquire.Text.Blank

/-!
# What trimming leaves

* `trimEndWith_append_cons_of_neg` : a trim at the end does not look behind a character that stays;
* `trimWith_trimEndWith_of_imp` : a trim takes what a weaker trim at the end leaves;
* `trimWith_flatMap` : a trim of characters written one by one takes away the same characters;
* `all_of_not_mem_trimEndWith` : what stands behind a character that is taken away is taken away, too;
* `trim_trim`, `trim_eq_self_iff` : trimmed texts are those that neither start nor end with white space.
-/

namespace SpacewalkAcquire.Text

variable {p q : Char → Bool} {c : Char} {cs : List Char}

theorem trimEndWith_eq_rdropWhile (p : Char → Bool) (cs : List Char) : trimEndWith p cs = cs.rdropWhile p := rfl

theorem dropWhile_append_cons_of_neg (h : p c = false) (as bs : List Char) :
    (as ++ c :: bs).dropWhile p = as.dropWhile p ++ c :: bs := by
  induction as with
  | nil => simp [h]
  | cons a as ih =>
    rw [List.cons_append]
    cases ha : p a
    · simp [ha]
    · rw [List.dropWhile_cons_of_pos ha, List.dropWhile_cons_of_pos ha, ih]

theorem trimEndWith_append_cons_of_neg (h : p c = false) (as bs : List Char) :
    trimEndWith p (as ++ c :: bs) = as ++ c :: trimEndWith p bs := by
  unfold trimEndWith
  rw [List.reverse_append, List.reverse_cons, List.append_assoc, List.singleton_append,
    dropWhile_append_cons_of_neg h]
  simp

theorem trimEndWith_eq_self (h : ∀ c, cs.getLast? = some c → p c = false) : trimEndWith p cs = cs := by
  rw [trimEndWith_eq_rdropWhile, List.rdropWhile_eq_self_iff]
  intro hne
  rw [h _ (List.getLast?_eq_some_getLast hne)]
  simp

theorem getLast?_trimEndWith (h : (trimEndWith p cs).getLast? = some c) : p c = false := by
  have hne : trimEndWith p cs ≠ [] := by
    intro e
    rw [e] at h
    cases h
  rw [List.getLast?_eq_some_getLast hne, Option.some.injEq] at h
  rw [← h, ← Bool.not_eq_true]
  exact List.rdropWhile_last_not p cs hne

theorem exists_append_trimEndWith (p : Char → Bool) (cs : List Char) :
    ∃ tail, cs = trimEndWith p cs ++ tail ∧ ∀ c ∈ tail, p c = true :=
  ⟨cs.rtakeWhile p, List.rdropWhile_append_rtakeWhile.symm, fun _ hc => List.mem_rtakeWhile_imp hc⟩

theorem trimEndWith_append_of_all (cs : List Char) {tail : List Char} (h : ∀ c ∈ tail, p c = true) :
    trimEndWith p (cs ++ tail) = trimEndWith p cs := by
  unfold trimEndWith
  rw [List.reverse_append, List.dropWhile_append_of_pos (by simpa using h)]

theorem trimWith_cons_append_cons_of_neg {d : Char} (hd : p d = false) (hc : p c = false) (as bs : List Char) :
    trimWith p (d :: as ++ c :: bs) = d :: as ++ c :: trimEndWith p bs := by
  rw [trimWith, List.cons_append, List.dropWhile_cons_of_neg (by rw [hd]; exact Bool.false_ne_true), ← List.cons_append,
    trimEndWith_append_cons_of_neg hc]

theorem mem_of_mem_trimEndWith (h : c ∈ trimEndWith p cs) : c ∈ cs := (List.rdropWhile_prefix p cs).subset h

theorem mem_of_mem_trimWith (h : c ∈ trimWith p cs) : c ∈ cs :=
  (List.dropWhile_suffix p).subset (mem_of_mem_trimEndWith h)

theorem trimWith_cons_of_pos (h : p c = true) (cs : List Char) : trimWith p (c :: cs) = trimWith p cs := by
  unfold trimWith
  rw [List.dropWhile_cons_of_pos h]

theorem trimWith_append_of_all (cs : List Char) {tail : List Char} (h : ∀ c ∈ tail, p c = true) :
    trimWith p (cs ++ tail) = trimWith p cs := by
  unfold trimWith
  rw [List.dropWhile_append]
  split
  · next he =>
    rw [List.isEmpty_iff] at he
    rw [he, List.dropWhile_eq_nil_iff.2 h]
  · exact trimEndWith_append_of_all _ h

/-- `trimWith p` leaves nothing of members of `p`, and something of any other text. -/
theorem trimWith_eq_nil_iff : trimWith p cs = [] ↔ ∀ c ∈ cs, p c = true := by
  constructor
  · intro h
    induction cs with
    | nil => exact List.forall_mem_nil _
    | cons c cs ih =>
      cases hc : p c
      · rw [trimWith, List.dropWhile_cons_of_neg (by rw [hc]; exact Bool.false_ne_true), ← List.nil_append (c :: cs),
          trimEndWith_append_cons_of_neg hc] at h
        cases h
      · rw [trimWith_cons_of_pos hc] at h
        exact List.forall_mem_cons.2 ⟨hc, ih h⟩
  · intro h
    rw [trimWith, List.dropWhile_eq_nil_iff.2 h, trimEndWith_nil]

/-- A trim of `p` takes what a weaker trim at the end, of `q`, leaves. -/
theorem trimWith_trimEndWith_of_imp (h : ∀ c, q c = true → p c = true) (cs : List Char) :
    trimWith p (trimEndWith q cs) = trimWith p cs := by
  obtain ⟨tail, hcs, ht⟩ := exists_append_trimEndWith q cs
  have hp : ∀ c ∈ tail, p c = true := fun c hc => h c (ht c hc)
  rw [← trimWith_append_of_all _ hp, ← hcs]

/-- What stands behind a character that a trim at the end takes away is taken away, too. -/
theorem all_of_not_mem_trimEndWith {line rest : List Char} (h : c ∉ trimEndWith p (line ++ c :: rest)) :
    ∀ d ∈ rest, p d = true := by
  obtain ⟨tail, hcs, ht⟩ := exists_append_trimEndWith p (line ++ c :: rest)
  generalize trimEndWith p (line ++ c :: rest) = kept at h hcs
  rcases List.append_eq_append_iff.1 hcs with ⟨middle, rfl, hrest⟩ | ⟨middle, rfl, rfl⟩
  · cases middle with
    | nil =>
      rw [List.nil_append] at hrest
      exact fun d hd => ht d (hrest ▸ List.mem_cons_of_mem _ hd)
    | cons a middle =>
      rw [List.cons_append, List.cons.injEq] at hrest
      exact absurd (List.mem_append_right _ (hrest.1 ▸ List.mem_cons_self)) h
  · exact fun d hd => ht d (List.mem_append_right _ (List.mem_cons_of_mem _ hd))

theorem head?_dropWhile_eq_some (h : (cs.dropWhile p).head? = some c) : p c = false := by
  have := List.head?_dropWhile_not p cs
  rw [h] at this
  simpa using this

theorem head?_trimWith (h : (trimWith p cs).head? = some c) : p c = false := by
  have hpre : trimWith p cs <+: cs.dropWhile p := List.rdropWhile_prefix p _
  obtain ⟨tail, ht⟩ := hpre
  apply head?_dropWhile_eq_some
  rw [← ht, List.head?_append, h]
  rfl

theorem trimWith_eq_self_iff :
    trimWith p cs = cs ↔ (∀ c, cs.head? = some c → p c = false) ∧ (∀ c, cs.getLast? = some c → p c = false) := by
  constructor
  · intro h
    refine ⟨fun c hc => ?_, fun c hc => ?_⟩
    · rw [← h] at hc
      exact head?_trimWith hc
    · rw [← h] at hc
      exact getLast?_trimEndWith hc
  · rintro ⟨hh, hl⟩
    unfold trimWith
    have hd : cs.dropWhile p = cs := by
      cases cs with
      | nil => rfl
      | cons a as => rw [List.dropWhile_cons_of_neg (by rw [hh a rfl]; simp)]
    rw [hd, trimEndWith_eq_self hl]

theorem trimWith_trimWith (p : Char → Bool) (cs : List Char) : trimWith p (trimWith p cs) = trimWith p cs :=
  trimWith_eq_self_iff.2 ⟨fun _ hc => head?_trimWith hc, fun _ hc => getLast?_trimEndWith hc⟩

/-! ## Characters written one by one -/

/-- How `f` writes characters: a member of `p` as itself, any other one by at least one character, and only by such that
stay. -/
structure KeepsTrim (p : Char → Bool) (f : Char → List Char) : Prop where
  taken : ∀ {c}, p c = true → f c = [c]
  stays : ∀ {c}, p c = false → f c ≠ [] ∧ ∀ x ∈ f c, p x = false

variable {f : Char → List Char}

theorem KeepsTrim.reverse (h : KeepsTrim p f) : KeepsTrim p (List.reverse ∘ f) where
  taken hc := by
    rw [Function.comp_apply, h.taken hc]
    rfl
  stays hc := by simpa using h.stays hc

theorem KeepsTrim.dropWhile_flatMap (h : KeepsTrim p f) (cs : List Char) :
    (cs.flatMap f).dropWhile p = (cs.dropWhile p).flatMap f := by
  induction cs with
  | nil => rfl
  | cons c cs ih =>
    rw [List.flatMap_cons]
    cases hc : p c
    · obtain ⟨hne, hstays⟩ := h.stays hc
      obtain ⟨x, xs, hx⟩ := List.exists_cons_of_ne_nil hne
      have hhead : ¬ p x = true := by rw [hstays x (hx ▸ List.mem_cons_self)]; exact Bool.false_ne_true
      rw [List.dropWhile_cons_of_neg (by rw [hc]; exact Bool.false_ne_true), List.flatMap_cons, hx, List.cons_append,
        List.dropWhile_cons_of_neg hhead]
    · rw [h.taken hc, List.singleton_append, List.dropWhile_cons_of_pos hc, List.dropWhile_cons_of_pos hc, ih]

theorem KeepsTrim.trimEndWith_flatMap (h : KeepsTrim p f) (cs : List Char) :
    trimEndWith p (cs.flatMap f) = (trimEndWith p cs).flatMap f := by
  unfold trimEndWith
  rw [List.reverse_flatMap, h.reverse.dropWhile_flatMap, List.reverse_flatMap]
  simp [Function.comp_def]

/-- A trim of characters that `f` writes takes the same characters away. -/
theorem trimWith_flatMap (h : KeepsTrim p f) (cs : List Char) :
    trimWith p (cs.flatMap f) = (trimWith p cs).flatMap f := by
  unfold trimWith
  rw [h.dropWhile_flatMap, h.trimEndWith_flatMap]

/-! ## White space -/

@[simp] theorem toList_trim (s : String) : (trim s).toList = trimWith isBlank s.toList := by
  simp [trim]

theorem trim_trim (s : String) : trim (trim s) = trim s := by
  apply String.toList_inj.1
  simp [trimWith_trimWith]

theorem trim_eq_self_iff {s : String} :
    trim s = s ↔ (∀ c, s.toList.head? = some c → isBlank c = false) ∧
      (∀ c, s.toList.getLast? = some c → isBlank c = false) := by
  rw [← trimWith_eq_self_iff, ← String.toList_inj, toList_trim]

theorem mem_of_mem_trim {s : String} {c : Char} (h : c ∈ (trim s).toList) : c ∈ s.toList := by
  rw [toList_trim] at h
  exact mem_of_mem_trimWith h

end SpacewalkAcquire.Text
