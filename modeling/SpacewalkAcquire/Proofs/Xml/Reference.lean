import SpacewalkAcquire.Proofs.Text.Trim
import SpacewalkAcquire.Xml.Token

/-!
# References are resolved

* `unescape_of_not_mem` : a text without ampersand stands for itself;
* `Written c cs` : the character `c` is written as itself or as a reference; `unescape_flatMap` undoes that;
* `canonical s` : the text `s` with markup characters by name, and the white space of the reader by number; nothing in
  it is markup or white space (`not_markup_of_mem_canonical`), and it stands for `s` (`unescape_canonical`);
* `unescape_escape`, `escape_injective`, `keepsTrim_escapeChar` : escaped texts, whose white space is that of the text.
-/

namespace SpacewalkAcquire.Xml

def numbered (c : Char) : List Char := '&' :: '#' :: (Nat.toDigits 10 c.toNat ++ [';'])

def canonicalChar (c : Char) : List Char := if isSpace c then numbered c else escapeChar c

/-- The text with its markup characters by name and the white space of the reader by number. -/
def canonical (s : String) : String := String.ofList (s.toList.flatMap canonicalChar)

theorem unescapeFrom_of_not_mem {cs : List Char} (h : '&' ∉ cs) (size position : Nat) :
    unescapeFrom size position none cs = .ok cs := by
  induction cs generalizing position with
  | nil => rfl
  | cons c cs ih =>
    rw [List.mem_cons, not_or] at h
    rw [unescapeFrom, if_neg (Ne.symm h.1), ih h.2]
    rfl

theorem unescape_of_not_mem {cs : List Char} (h : '&' ∉ cs) : unescape cs = .ok (String.ofList cs) := by
  rw [unescape, unescapeFrom_of_not_mem h]
  rfl

theorem unescapeFrom_name {name : List Char} (h : ∀ c ∈ name, c ≠ ';' ∧ c ≠ '&') (size first : Nat)
    (gathered : List Char) (position : Nat) (rest : List Char) : ∃ last,
      unescapeFrom size position (some (first, gathered)) (name ++ ';' :: rest) = (do
        let x ← resolve first last (gathered.reverse ++ name)
        return x :: (← unescapeFrom size (last + 1) none rest)) := by
  induction name generalizing gathered position with
  | nil =>
    refine ⟨position, ?_⟩
    rw [List.nil_append, unescapeFrom, if_pos rfl, List.append_nil]
  | cons c name ih =>
    obtain ⟨hsemicolon, hampersand⟩ := h c List.mem_cons_self
    obtain ⟨last, hlast⟩ := ih (fun c hc => h c (List.mem_cons_of_mem _ hc)) (c :: gathered) (position + c.utf8Size)
    refine ⟨last, ?_⟩
    rw [List.cons_append, unescapeFrom, if_neg hsemicolon, if_neg hampersand, hlast, List.reverse_cons,
      List.append_assoc, List.singleton_append]

/-- A reference that `resolve` knows, wherever it is, is replaced by its character. -/
theorem unescapeFrom_reference {name : List Char} {c : Char} (h : ∀ c ∈ name, c ≠ ';' ∧ c ≠ '&')
    (hc : ∀ first last, resolve first last name = .ok c) {size : Nat} {rest out : List Char}
    (hrest : ∀ position, unescapeFrom size position none rest = .ok out) (position : Nat) :
    unescapeFrom size position none ('&' :: (name ++ ';' :: rest)) = .ok (c :: out) := by
  obtain ⟨last, hlast⟩ := unescapeFrom_name h size position [] (position + 1) rest
  rw [unescapeFrom, if_pos rfl, hlast, List.reverse_nil, List.nil_append, hc, hrest]
  rfl

theorem resolve_numbered {c : Char} (h : isSpace c = true) (first last : Nat) :
    resolve first last ('#' :: Nat.toDigits 10 c.toNat) = .ok c := by
  simp only [isSpace, Bool.or_eq_true, beq_iff_eq] at h
  rcases h with ((rfl | rfl) | rfl) | rfl <;> rfl

theorem resolve_named {c : Char} {name : String} (h : nameOf? c = some name) (first last : Nat) :
    resolve first last name.toList = .ok c := by
  unfold nameOf? at h
  split at h <;> cases h <;> rfl

/-- A character that neither begins markup or a reference, nor ends one, nor is white space of the reader. -/
def IsBare (c : Char) : Prop := c ≠ '<' ∧ c ≠ '&' ∧ c ≠ ';' ∧ isSpace c = false

instance (c : Char) : Decidable (IsBare c) := by unfold IsBare; infer_instance

theorem bare_of_all {cs : List Char} (h : cs.all (fun c => decide (IsBare c)) = true) : ∀ c ∈ cs, IsBare c :=
  fun c hc => of_decide_eq_true (List.all_eq_true.1 h c hc)

theorem bare_of_numbered {c : Char} (h : isSpace c = true) : ∀ x ∈ '#' :: Nat.toDigits 10 c.toNat, IsBare x := by
  simp only [isSpace, Bool.or_eq_true, beq_iff_eq] at h
  rcases h with ((rfl | rfl) | rfl) | rfl <;> exact bare_of_all (by decide)

theorem bare_of_named {c : Char} {name : String} (h : nameOf? c = some name) : ∀ x ∈ name.toList, IsBare x := by
  unfold nameOf? at h
  split at h <;> cases h <;> exact bare_of_all (by decide)

theorem nameOf?_lt : nameOf? '<' ≠ none := by decide

theorem nameOf?_amp : nameOf? '&' ≠ none := by decide

/-! ## Characters written one by one -/

/-- `c` is written as itself, or as a reference that stands for it. -/
inductive Written (c : Char) : List Char → Prop
  | itself (hlt : c ≠ '<') (hamp : c ≠ '&') : Written c [c]
  | reference {name : List Char} (hname : ∀ x ∈ name, IsBare x)
      (hresolve : ∀ first last, resolve first last name = .ok c) : Written c ('&' :: (name ++ [';']))

theorem written_escapeChar (c : Char) : Written c (escapeChar c) := by
  rw [escapeChar]
  cases hname : nameOf? c with
  | none =>
    refine .itself ?_ ?_
    · rintro rfl
      exact nameOf?_lt hname
    · rintro rfl
      exact nameOf?_amp hname
  | some name => exact .reference (bare_of_named hname) (resolve_named hname)

theorem written_canonicalChar (c : Char) : Written c (canonicalChar c) := by
  rw [canonicalChar]
  split
  · next hspace => exact .reference (bare_of_numbered hspace) (resolve_numbered hspace)
  · exact written_escapeChar c

/-- What is written starts no markup, and holds white space only if it is white space that is written as itself. -/
theorem Written.not_markup {c x : Char} {cs : List Char} (h : Written c cs) (hx : x ∈ cs) :
    x ≠ '<' ∧ (isSpace x = true → x = c ∧ cs = [c]) := by
  cases h with
  | itself hlt hamp =>
    rw [List.mem_singleton] at hx
    subst hx
    exact ⟨hlt, fun _ => ⟨rfl, rfl⟩⟩
  | reference hname hresolve =>
    have hbare : x ≠ '<' ∧ Xml.isSpace x = false := by
      rw [List.mem_cons, List.mem_append, List.mem_singleton] at hx
      rcases hx with rfl | hx | rfl
      · decide
      · exact ⟨(hname x hx).1, (hname x hx).2.2.2⟩
      · decide
    refine ⟨hbare.1, fun hspace => ?_⟩
    rw [hbare.2] at hspace
    cases hspace

theorem Written.ne_nil {c : Char} {cs : List Char} (h : Written c cs) : cs ≠ [] := by
  cases h <;> exact List.cons_ne_nil _ _

variable {f : Char → List Char}

theorem lt_not_mem_flatMap (h : ∀ c, Written c (f c)) (cs : List Char) : '<' ∉ cs.flatMap f := by
  intro hlt
  obtain ⟨c, -, hc⟩ := List.mem_flatMap.1 hlt
  exact ((h c).not_markup hc).1 rfl

theorem unescapeFrom_flatMap (h : ∀ c, Written c (f c)) (cs : List Char) (size position : Nat) :
    unescapeFrom size position none (cs.flatMap f) = .ok cs := by
  induction cs generalizing position with
  | nil => rfl
  | cons c cs ih =>
    have hc := h c
    rw [List.flatMap_cons]
    generalize f c = written at hc ⊢
    cases hc with
    | itself _ hamp =>
      rw [List.singleton_append, unescapeFrom, if_neg hamp, ih]
      rfl
    | reference hname hresolve =>
      rw [List.cons_append, List.append_assoc, List.singleton_append]
      exact unescapeFrom_reference (fun x hx => ⟨(hname x hx).2.2.1, (hname x hx).2.1⟩) hresolve ih position

/-- A text whose characters are `Written` one by one by `f` stands for that text. -/
theorem unescape_flatMap (h : ∀ c, Written c (f c)) (cs : List Char) :
    unescape (cs.flatMap f) = .ok (String.ofList cs) := by
  rw [unescape, unescapeFrom_flatMap h]
  rfl

/-! ## Canonical texts -/

theorem not_markup_of_mem_canonical {s : String} {c : Char} (h : c ∈ (canonical s).toList) :
    c ≠ '<' ∧ isSpace c = false := by
  rw [canonical, String.toList_ofList] at h
  obtain ⟨x, -, hc⟩ := List.mem_flatMap.1 h
  obtain ⟨hlt, hspace⟩ := (written_canonicalChar x).not_markup hc
  refine ⟨hlt, ?_⟩
  rw [← Bool.not_eq_true]
  intro hcspace
  obtain ⟨rfl, hself⟩ := hspace hcspace
  rw [canonicalChar, if_pos hcspace, numbered] at hself
  cases hself

/-- A `canonical` text stands for the text from which it was made. -/
theorem unescape_canonical (s : String) : unescape (canonical s).toList = .ok s := by
  rw [canonical, String.toList_ofList, unescape_flatMap written_canonicalChar, String.ofList_toList]

/-! ## Escaped texts -/

theorem toList_escape (s : String) : (escape s).toList = s.toList.flatMap escapeChar := String.toList_ofList

theorem lt_not_mem_escape (s : String) : '<' ∉ (escape s).toList :=
  toList_escape s ▸ lt_not_mem_flatMap written_escapeChar s.toList

/-- An `escape` of a text stands for the text. -/
theorem unescape_escape (s : String) : unescape (escape s).toList = .ok s := by
  rw [toList_escape, unescape_flatMap written_escapeChar, String.ofList_toList]

theorem escape_injective : Function.Injective escape := fun s t h => by
  have hs := unescape_escape s
  rw [h, unescape_escape] at hs
  exact (Except.ok.inj hs).symm

theorem nameOf?_of_isSpace {c : Char} (h : isSpace c = true) : nameOf? c = none := by
  simp only [isSpace, Bool.or_eq_true, beq_iff_eq] at h
  rcases h with ((rfl | rfl) | rfl) | rfl <;> decide

theorem keepsTrim_escapeChar : Text.KeepsTrim isSpace escapeChar where
  taken hc := by rw [escapeChar, nameOf?_of_isSpace hc]
  stays {c} hc := by
    refine ⟨(written_escapeChar c).ne_nil, fun x hx => ?_⟩
    rw [← Bool.not_eq_true]
    intro hspace
    rw [(((written_escapeChar c).not_markup hx).2 hspace).1, hc] at hspace
    cases hspace

end SpacewalkAcquire.Xml
