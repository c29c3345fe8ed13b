import Mathlib.Data.List.Basic
import Mathlib.Data.List.Induction
import SpacewalkAcquire.Text.Utf8

/-!
# Line feeds in UTF-8

* `toUtf8_append` : the UTF-8 form of a text is that of its parts, one after the other;
* `lineFeed_mem_toUtf8_iff` : a byte 10 is always a line feed, never a part of another character;
* `eq_append_ascii`, `eq_append_lineFeed` : a text whose UTF-8 form ends in an ASCII byte, such as 10, ends in that
  character, and without it is the UTF-8 form of a text (`exists_toUtf8_of_append`).
-/

namespace SpacewalkAcquire.Text

theorem toUtf8_eq_flatMap (s : String) : toUtf8 s = s.toList.flatMap String.utf8EncodeChar := by
  change s.toByteArray.data.toList = _
  rw [← String.utf8Encode_toList, List.utf8Encode, List.data_toByteArray]

@[simp] theorem toUtf8_append (s t : String) : toUtf8 (s ++ t) = toUtf8 s ++ toUtf8 t := by
  simp [toUtf8_eq_flatMap]

@[simp] theorem toUtf8_lineFeed : toUtf8 "\n" = [10] := by
  rw [toUtf8_eq_flatMap]
  rfl

/-- A byte of `c` is `c` itself, if that is ASCII, or at least 128. -/
theorem mem_utf8EncodeChar {c : Char} {b : UInt8} (h : b ∈ String.utf8EncodeChar c) :
    b.toNat = c.toNat ∨ 128 ≤ b.toNat := by
  have hv : c.val.toNat = c.toNat := rfl
  unfold String.utf8EncodeChar at h
  simp only [hv] at h
  split_ifs at h with h1 h2 h3
  · rw [List.mem_singleton] at h
    subst h
    left
    rw [UInt8.toNat_ofNat']
    omega
  all_goals
    right
    simp only [List.mem_cons, List.not_mem_nil, or_false] at h
    rcases h with rfl | rfl | rfl | rfl <;> rw [UInt8.toNat_ofNat'] <;> omega

theorem lineFeed_mem_utf8EncodeChar_iff {c : Char} : (10 : UInt8) ∈ String.utf8EncodeChar c ↔ c = '\n' := by
  constructor
  · intro h
    rcases mem_utf8EncodeChar h with h | h
    · exact Char.toNat_inj.1 h.symm
    · simp at h
  · rintro rfl
    decide

theorem lineFeed_mem_toUtf8_iff {s : String} : (10 : UInt8) ∈ toUtf8 s ↔ '\n' ∈ s.toList := by
  rw [toUtf8_eq_flatMap, List.mem_flatMap]
  constructor
  · rintro ⟨c, hc, hb⟩
    rw [← lineFeed_mem_utf8EncodeChar_iff.1 hb]
    exact hc
  · intro h
    exact ⟨'\n', h, lineFeed_mem_utf8EncodeChar_iff.2 rfl⟩

theorem ofNat_ne_lineFeed {n : Nat} (h : 10 < n) : Char.ofNat n ≠ '\n' := by
  intro he
  have hnat := congrArg Char.toNat he
  by_cases hvalid : n.isValidChar
  · rw [Char.ofNat, dif_pos hvalid] at hnat
    change n = 10 at hnat
    omega
  · rw [Char.ofNat, dif_neg hvalid] at hnat
    cases hnat

theorem eq_append_ascii {s : String} {line : Bytes} {b : UInt8} (hb : b.toNat < 128) (h : toUtf8 s = line ++ [b]) :
    ∃ t c, s = t ++ String.singleton c ∧ c.toNat = b.toNat ∧ toUtf8 t = line := by
  rcases List.eq_nil_or_concat s.toList with hs | ⟨cs, c, hs⟩
  · rw [toUtf8_eq_flatMap, hs] at h
    simp at h
  · rw [List.concat_eq_append] at hs
    have hbytes : cs.flatMap String.utf8EncodeChar ++ String.utf8EncodeChar c = line ++ [b] := by
      rw [← h, toUtf8_eq_flatMap, hs]
      simp
    have hlast : (String.utf8EncodeChar c).getLast? = some b := by
      have := congrArg List.getLast? hbytes
      rwa [List.getLast?_append_of_ne_nil _ String.utf8EncodeChar_ne_nil, List.getLast?_concat] at this
    have hc : c.toNat = b.toNat := by
      rcases mem_utf8EncodeChar (List.mem_of_getLast? hlast) with hc | hc
      · exact hc.symm
      · omega
    refine ⟨String.ofList cs, c, ?_, hc, ?_⟩
    · apply String.toList_inj.1
      rw [hs, String.toList_append, String.toList_ofList, String.toList_singleton]
    · have hencode : String.utf8EncodeChar c = [b] := by
        have hv : c.val.toNat = c.toNat := rfl
        show ite _ _ _ = _
        rw [hv, if_pos (by omega), hc, UInt8.ofNat_toNat]
      rw [hencode] at hbytes
      rw [toUtf8_eq_flatMap, String.toList_ofList]
      exact List.append_cancel_right hbytes

theorem exists_toUtf8_of_append {s : String} {line tail : Bytes} (htail : ∀ b ∈ tail, b.toNat < 128)
    (h : toUtf8 s = line ++ tail) : ∃ t, toUtf8 t = line := by
  induction tail using List.reverseRecOn generalizing s with
  | nil => exact ⟨s, by rwa [List.append_nil] at h⟩
  | append_singleton tail b ih =>
    rw [← List.append_assoc] at h
    obtain ⟨t, -, -, -, ht⟩ := eq_append_ascii (htail b List.mem_concat_self) h
    exact ih (fun b hb => htail b (List.mem_append_left _ hb)) ht

theorem eq_append_lineFeed {s : String} {line : Bytes} (h : toUtf8 s = line ++ [10]) :
    ∃ t, s = t ++ "\n" ∧ toUtf8 t = line := by
  obtain ⟨t, c, rfl, hc, ht⟩ := eq_append_ascii (by decide) h
  obtain rfl : c = '\n' := Char.toNat_inj.1 hc
  exact ⟨t, rfl, ht⟩

end SpacewalkAcquire.Text
