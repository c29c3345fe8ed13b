import Mathlib.Data.Nat.Digits.Defs
import SpacewalkAcquire.Text.Binary64
import SpacewalkAcquire.Text.Blank

/-!
# What numerals are made of

* `IsNumeralChar` : letters, digits, signs and the point; none of them is white space (`isBlank_of_isNumeralChar`);
* `numeral_of_readInteger?`, `Binary64.numeral_of_read?` : a text that spells a number consists of them;
* `SpellsInteger`, `readInteger?_eq_some_iff` : the number that a text spells.
-/

namespace SpacewalkAcquire

namespace Text

def IsNumeralChar (c : Char) : Prop := c.isAlphanum = true ∨ c = '+' ∨ c = '-' ∨ c = '.'

theorem isNumeralChar_of_isDigit {c : Char} (h : c.isDigit = true) : IsNumeralChar c := by
  refine .inl ?_
  rw [Char.isAlphanum, h, Bool.or_true]

theorem toNat_of_isAlphanum {c : Char} (h : c.isAlphanum = true) : 48 ≤ c.toNat ∧ c.toNat ≤ 122 := by
  change ((decide (65 ≤ c.val ∧ c.val ≤ 90) || (decide (97 ≤ c.val) && decide (c.val ≤ 122))) ||
    (decide (48 ≤ c.val) && decide (c.val ≤ 57))) = true at h
  simp only [Bool.or_eq_true, Bool.and_eq_true, decide_eq_true_eq, UInt32.le_iff_toNat_le] at h
  change ((65 ≤ c.toNat ∧ c.toNat ≤ 90) ∨ (97 ≤ c.toNat ∧ c.toNat ≤ 122)) ∨ (48 ≤ c.toNat ∧ c.toNat ≤ 57) at h
  omega

theorem isBlank_of_isNumeralChar {c : Char} (h : IsNumeralChar c) : isBlank c = false := by
  rcases h with h | rfl | rfl | rfl
  · obtain ⟨hlow, hhigh⟩ := toNat_of_isAlphanum h
    rw [← Bool.not_eq_true]
    intro hblank
    simp only [isBlank, Bool.or_eq_true, Bool.and_eq_true, decide_eq_true_eq, beq_iff_eq] at hblank
    omega
  · decide
  · decide
  · decide

def IsNumeral (cs : List Char) : Prop := ∀ c ∈ cs, IsNumeralChar c

theorem IsNumeral.cons {c : Char} {cs : List Char} (hc : IsNumeralChar c) (h : IsNumeral cs) : IsNumeral (c :: cs) :=
  List.forall_mem_cons.2 ⟨hc, h⟩

theorem IsNumeral.append {as bs : List Char} (ha : IsNumeral as) (hb : IsNumeral bs) : IsNumeral (as ++ bs) :=
  List.forall_mem_append.2 ⟨ha, hb⟩

theorem numeral_of_readDigits? {cs : List Char} (h : readDigits? cs ≠ none) : IsNumeral cs := by
  unfold readDigits? at h
  split at h
  · exact (h rfl).elim
  · next hcs =>
    simp only [Bool.or_eq_true, Bool.not_eq_true', not_or, Bool.not_eq_false, List.isEmpty_iff, List.all_eq_true] at hcs
    exact fun c hc => isNumeralChar_of_isDigit (hcs.2 c hc)

theorem numeral_of_readInteger? {cs : List Char} {n : Int} (h : readInteger? cs = some n) : IsNumeral cs := by
  unfold readInteger? readSigned? at h
  obtain ⟨hvalue, -⟩ := Option.filter_eq_some_iff.1 h
  split at hvalue
  · next rest =>
    refine (numeral_of_readDigits? fun hnone => ?_ : IsNumeral rest).cons (.inr (.inr (.inl rfl)))
    rw [hnone] at hvalue
    cases hvalue
  · next rest =>
    refine (numeral_of_readDigits? fun hnone => ?_ : IsNumeral rest).cons (.inr (.inl rfl))
    rw [hnone] at hvalue
    cases hvalue
  · refine numeral_of_readDigits? fun hnone => ?_
    rw [hnone] at hvalue
    cases hvalue

/-! ## What numerals stand for -/

variable {cs : List Char}

/-- Digits that stand for `n` in base ten, the last one for the ones. -/
def SpellsNat (cs : List Char) (n : Nat) : Prop :=
  cs ≠ [] ∧ (∀ c ∈ cs, c.isDigit = true) ∧ Nat.ofDigits 10 (cs.reverse.map digitValue) = n

theorem readDigits?_eq_some_iff {n : Nat} : readDigits? cs = some n ↔ SpellsNat cs n := by
  have hvalue : cs.foldl (fun n c => 10 * n + digitValue c) 0 = Nat.ofDigits 10 (cs.reverse.map digitValue) := by
    rw [Nat.ofDigits_eq_foldr, List.foldr_map, List.foldr_reverse]
    simp [Nat.add_comm]
  unfold readDigits? SpellsNat
  rw [hvalue]
  split
  · next h =>
    refine ⟨fun hn => (nomatch hn), fun ⟨hne, hdigits, _⟩ => ?_⟩
    rw [Bool.or_eq_true, List.isEmpty_iff, Bool.not_eq_true', ← Bool.not_eq_true, List.all_eq_true] at h
    exact (h.elim hne fun hsome => hsome hdigits).elim
  · next h =>
    rw [Bool.or_eq_true, List.isEmpty_iff, Bool.not_eq_true', ← Bool.not_eq_true, List.all_eq_true, not_or, not_not] at h
    rw [Option.some.injEq]
    exact ⟨fun hn => ⟨h.1, h.2, hn⟩, fun hn => hn.2.2⟩

/-- A number of sixty-four bits with a sign, written as `cs`. -/
def SpellsInteger (cs : List Char) (n : Int) : Prop :=
  (-2 ^ 63 ≤ n ∧ n < 2 ^ 63) ∧ ∃ sign digits, ∃ k : Nat, cs = sign ++ digits ∧ SpellsNat digits k ∧
    (sign = [] ∧ n = k ∨ sign = ['+'] ∧ n = k ∨ sign = ['-'] ∧ n = -k)

theorem readInteger?_eq_some_iff {n : Int} : readInteger? cs = some n ↔ SpellsInteger cs n := by
  have hplain (digits : List Char) :
      (readDigits? digits).map Int.ofNat = some n ↔ ∃ k : Nat, SpellsNat digits k ∧ n = k := by
    rw [Option.map_eq_some_iff]
    simp only [readDigits?_eq_some_iff, eq_comm (b := n)]
    rfl
  have hminus (digits : List Char) : ((do let k ← readDigits? digits; pure (k : Int)).map fun k => -k) = some n ↔
      ∃ k : Nat, SpellsNat digits k ∧ n = -k := by
    simp only [← readDigits?_eq_some_iff]
    cases readDigits? digits <;> simp [eq_comm]
  unfold readInteger? readSigned? SpellsInteger
  rw [Option.filter_eq_some_iff, and_comm, Bool.and_eq_true, decide_eq_true_eq, decide_eq_true_eq]
  refine and_congr_right fun _ => ⟨fun h => ?_, ?_⟩
  · split at h
    · next rest =>
      obtain ⟨k, hk, hn⟩ := (hminus rest).1 h
      exact ⟨['-'], rest, k, rfl, hk, .inr (.inr ⟨rfl, hn⟩)⟩
    · next rest =>
      obtain ⟨k, hk, hn⟩ := (hplain rest).1 h
      exact ⟨['+'], rest, k, rfl, hk, .inr (.inl ⟨rfl, hn⟩)⟩
    · obtain ⟨k, hk, hn⟩ := (hplain cs).1 h
      exact ⟨[], cs, k, rfl, hk, .inl ⟨rfl, hn⟩⟩
  · rintro ⟨sign, digits, k, rfl, hk, ⟨rfl, hn⟩ | ⟨rfl, hn⟩ | ⟨rfl, hn⟩⟩
    · -- No digit is a sign.
      rw [List.nil_append]
      split
      · exact absurd (hk.2.1 _ List.mem_cons_self) (by decide)
      · exact absurd (hk.2.1 _ List.mem_cons_self) (by decide)
      · exact (hplain digits).2 ⟨k, hk, hn⟩
    · exact (hplain digits).2 ⟨k, hk, hn⟩
    · exact (hminus digits).2 ⟨k, hk, hn⟩

/-- A text spells one number at the most. -/
theorem SpellsInteger.eq {m n : Int} (hm : SpellsInteger cs m) (hn : SpellsInteger cs n) : m = n := by
  rw [← readInteger?_eq_some_iff] at hm hn
  exact Option.some.inj (hm.symm.trans hn)

end Text

namespace Binary64

open Text (IsNumeralChar IsNumeral)

theorem numeral_of_readExponent? {cs : List Char} (h : readExponent? cs ≠ none) : IsNumeral cs := by
  unfold readExponent? at h
  split at h
  · exact List.forall_mem_nil _
  · next e rest =>
    split at h
    · exact (h rfl).elim
    · next he =>
      have hletter : IsNumeralChar e := by
        by_cases hsmall : e = 'e'
        · exact .inl (hsmall ▸ by decide)
        · by_cases hcapital : e = 'E'
          · exact .inl (hcapital ▸ by decide)
          · exact (he (by simp [hsmall, hcapital])).elim
      refine IsNumeral.cons hletter ?_
      split at h
      · refine (Text.numeral_of_readDigits? fun hnone => h ?_).cons (.inr (.inr (.inl rfl)))
        rw [hnone]
        rfl
      · refine (Text.numeral_of_readDigits? fun hnone => h ?_).cons (.inr (.inl rfl))
        rw [hnone]
        rfl
      · refine Text.numeral_of_readDigits? fun hnone => h ?_
        rw [hnone]
        rfl

theorem numeral_takeWhile_isDigit (cs : List Char) : IsNumeral (cs.takeWhile Char.isDigit) := fun _ hc =>
  Text.isNumeralChar_of_isDigit (List.all_eq_true.1 List.all_takeWhile _ hc)

theorem numeral_of_tail {refused : Prop} [Decidable refused] {tail : List Char} {bits : UInt64}
    {f : Int → Option UInt64} (h : (if refused then none else (readExponent? tail).bind f) = some bits) :
    IsNumeral tail := by
  refine numeral_of_readExponent? fun hnone => ?_
  rw [hnone, Option.bind_none, ite_self] at h
  cases h

theorem numeral_of_readNumber? {cs : List Char} {bits : UInt64} (h : readNumber? cs = some bits) : IsNumeral cs := by
  have hcs : cs.takeWhile Char.isDigit ++ cs.dropWhile Char.isDigit = cs := List.takeWhile_append_dropWhile
  have hwhole := numeral_takeWhile_isDigit cs
  unfold readNumber? at h
  dsimp only at h
  generalize cs.takeWhile Char.isDigit = whole at h hcs hwhole
  generalize cs.dropWhile Char.isDigit = behind at h hcs
  subst hcs
  refine hwhole.append ?_
  split at h
  next rest =>
    have htail : IsNumeral (rest.dropWhile Char.isDigit) := numeral_of_tail h
    have hrest := (numeral_takeWhile_isDigit rest).append htail
    rw [List.takeWhile_append_dropWhile] at hrest
    exact hrest.cons (.inr (.inr (.inr rfl)))
  next => exact numeral_of_tail h

theorem isAlphanum_of_toLower {c : Char} (h : c.toLower.isAlphanum = true) : c.isAlphanum = true := by
  by_cases hupper : 65 ≤ c.val ∧ c.val ≤ 90
  · have hisUpper : c.isUpper = true := decide_eq_true hupper
    show (c.isUpper || c.isLower || c.isDigit) = true
    rw [hisUpper, Bool.true_or, Bool.true_or]
  · have hsame : c.toLower = c := dif_neg hupper
    rwa [hsame] at h

theorem numeral_of_toLower {cs word : List Char} (h : cs.map Char.toLower = word)
    (hword : word.all Char.isAlphanum = true) : IsNumeral cs := by
  subst h
  exact fun c hc => .inl (isAlphanum_of_toLower (List.all_eq_true.1 hword _ (List.mem_map_of_mem hc)))

theorem numeral_of_readMagnitude? {cs : List Char} {bits : UInt64} (h : readMagnitude? cs = some bits) :
    IsNumeral cs := by
  unfold readMagnitude? at h
  dsimp only at h
  split at h
  · next hword =>
    rw [Bool.or_eq_true, decide_eq_true_eq, decide_eq_true_eq] at hword
    rcases hword with hword | hword
    · exact numeral_of_toLower hword (by decide)
    · exact numeral_of_toLower hword (by decide)
  · split at h
    · next hword => exact numeral_of_toLower hword (by decide)
    · exact numeral_of_readNumber? h

/-- What `read?` takes for a number is a numeral. -/
theorem numeral_of_read? {text : String} {bits : UInt64} (h : read? text = some bits) : IsNumeral text.toList := by
  unfold read? at h
  split at h
  · next rest hcs =>
    rw [hcs]
    cases hrest : readMagnitude? rest with
    | none =>
      rw [hrest] at h
      cases h
    | some magnitude => exact (numeral_of_readMagnitude? hrest).cons (.inr (.inr (.inl rfl)))
  · next rest hcs =>
    rw [hcs]
    exact (numeral_of_readMagnitude? h).cons (.inr (.inl rfl))
  · exact numeral_of_readMagnitude? h

end Binary64

end SpacewalkAcquire
