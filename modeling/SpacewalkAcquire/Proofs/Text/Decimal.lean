import SpacewalkAcquire.Text.Numeral

/-!
# Decimals read back

* `mem_toString_nat` : a number is written with digits;
* `readCode?_toString` : a message code that is written is read back.
-/

namespace SpacewalkAcquire.Text

theorem mem_toString_nat {n : Nat} {c : Char} (h : c ∈ (toString n).toList) : c.isDigit = true := by
  rw [Nat.toString_eq_repr, Nat.toList_repr] at h
  exact Nat.isDigit_of_mem_toDigits (by decide) (by decide) h

theorem not_mem_toString_nat {n : Nat} {c : Char} (h : c.isDigit = false) : c ∉ (toString n).toList := by
  intro hm
  rw [mem_toString_nat hm] at h
  cases h

theorem readDigits?_toString (n : Nat) : readDigits? (toString n).toList = some n := by
  have hall : (toString n).toList.all Char.isDigit = true := List.all_eq_true.2 fun _ h => mem_toString_nat h
  rw [Nat.toString_eq_repr, Nat.toList_repr] at *
  have hne : (Nat.toDigits 10 n).isEmpty = false := List.isEmpty_eq_false_iff.2 Nat.toDigits_ne_nil
  rw [readDigits?, hne, hall]
  exact congrArg some Nat.ofDigitChars_ten_toDigits

theorem readUnsigned?_toString {top n : Nat} (h : n ≤ top) : readUnsigned? top (toString n).toList = some n := by
  have hplus : '+' ∉ (toString n).toList := not_mem_toString_nat rfl
  unfold readUnsigned?
  split
  · next he =>
    rw [he] at hplus
    simp at hplus
  · simp only [readDigits?_toString]
    simp [h]

theorem readCode?_toString (code : UInt16) : readCode? (toString code.toNat).toList = some code := by
  have h : code.toNat ≤ 65535 := Nat.le_of_lt_succ code.toNat_lt
  rw [readCode?, readUnsigned?_toString h]
  simp

end SpacewalkAcquire.Text
