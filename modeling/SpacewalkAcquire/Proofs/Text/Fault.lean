import Mathlib.Data.Nat.Basic
import Mathlib.Tactic.SplitIfs
import SpacewalkAcquire.Proofs.Text.LineFeed

/-!
# Where bytes are no UTF-8

* `leadingByte?_cases` : how many bytes follow a first byte, and what the next one may be;
* `Completes p bytes` : bytes that complete a character begun; `Completes.exists_char` : it is one then;
* `faultFrom_begun` : a character begun is completed, or the fault is found in it, whatever ASCII follows;
* `faultFrom_append` : so bytes are the UTF-8 form of a text, or their fault is the same whatever ASCII follows.
-/

namespace SpacewalkAcquire.Text

variable {a b : UInt8} {bytes : Bytes} {p : Partial} {missing low high : Nat}

def StartsAscii (bytes : Bytes) : Prop := ∃ b rest, bytes = b :: rest ∧ b.toNat < 0x80

/-! ## Characters -/

/-- The bytes that follow a first byte are one to three, and the next one is a continuation that makes the encoding
neither too long, nor one of a surrogate, nor of a number beyond the last character. -/
theorem leadingByte?_cases {n : Nat} (h : leadingByte? n = some (missing, low, high)) :
    0x80 ≤ low ∧ high ≤ 0xBF ∧
      (missing = 1 ∧ (0xC2 ≤ n ∧ n ≤ 0xDF) ∨
        missing = 2 ∧ (0xE0 ≤ n ∧ n ≤ 0xEF) ∧ (n = 0xE0 → 0xA0 ≤ low) ∧ (n = 0xED → high ≤ 0x9F) ∨
        missing = 3 ∧ (0xF0 ≤ n ∧ n ≤ 0xF4) ∧ (n = 0xF0 → 0x90 ≤ low) ∧ (n = 0xF4 → high ≤ 0x8F)) := by
  unfold leadingByte? at h
  split_ifs at h <;> cases h <;> omega

theorem utf8EncodeChar_one (ha : a.toNat < 0x80) : ∃ x, String.utf8EncodeChar x = [a] := by
  have hvalid : a.toNat.isValidChar := .inl (by omega)
  have hv : (Char.ofNatAux _ hvalid).val.toNat = a.toNat := rfl
  refine ⟨.ofNatAux _ hvalid, ?_⟩
  show ite _ _ _ = _
  rw [hv, if_pos (by omega), UInt8.ofNat_toNat]

theorem utf8EncodeChar_two (ha : 0xC2 ≤ a.toNat ∧ a.toNat ≤ 0xDF) (hb : 0x80 ≤ b.toNat ∧ b.toNat ≤ 0xBF) :
    ∃ x, String.utf8EncodeChar x = [a, b] := by
  have hvalid : (a.toNat % 32 * 64 + b.toNat % 64).isValidChar := .inl (by omega)
  have hv : (Char.ofNatAux _ hvalid).val.toNat = a.toNat % 32 * 64 + b.toNat % 64 := rfl
  refine ⟨.ofNatAux _ hvalid, ?_⟩
  show ite _ _ _ = _
  rw [hv, if_neg (by omega), if_pos (by omega)]
  simp only [List.cons.injEq, ← UInt8.toNat_inj, UInt8.toNat_ofNat', and_true]
  omega

theorem utf8EncodeChar_three {c : UInt8} (ha : 0xE0 ≤ a.toNat ∧ a.toNat ≤ 0xEF)
    (hb : 0x80 ≤ b.toNat ∧ b.toNat ≤ 0xBF) (hlow : a.toNat = 0xE0 → 0xA0 ≤ b.toNat)
    (hhigh : a.toNat = 0xED → b.toNat ≤ 0x9F) (hc : 0x80 ≤ c.toNat ∧ c.toNat ≤ 0xBF) :
    ∃ x, String.utf8EncodeChar x = [a, b, c] := by
  have hvalid : (a.toNat % 16 * 4096 + b.toNat % 64 * 64 + c.toNat % 64).isValidChar := by
    unfold Nat.isValidChar
    omega
  have hv : (Char.ofNatAux _ hvalid).val.toNat = a.toNat % 16 * 4096 + b.toNat % 64 * 64 + c.toNat % 64 := rfl
  refine ⟨.ofNatAux _ hvalid, ?_⟩
  show ite _ _ _ = _
  rw [hv, if_neg (by omega), if_neg (by omega), if_pos (by omega)]
  simp only [List.cons.injEq, ← UInt8.toNat_inj, UInt8.toNat_ofNat', and_true]
  omega

theorem utf8EncodeChar_four {c d : UInt8} (ha : 0xF0 ≤ a.toNat ∧ a.toNat ≤ 0xF4)
    (hb : 0x80 ≤ b.toNat ∧ b.toNat ≤ 0xBF) (hlow : a.toNat = 0xF0 → 0x90 ≤ b.toNat)
    (hhigh : a.toNat = 0xF4 → b.toNat ≤ 0x8F) (hc : 0x80 ≤ c.toNat ∧ c.toNat ≤ 0xBF)
    (hd : 0x80 ≤ d.toNat ∧ d.toNat ≤ 0xBF) : ∃ x, String.utf8EncodeChar x = [a, b, c, d] := by
  have hvalid : (a.toNat % 8 * 262144 + b.toNat % 64 * 4096 + c.toNat % 64 * 64 + d.toNat % 64).isValidChar := by
    unfold Nat.isValidChar
    omega
  have hv : (Char.ofNatAux _ hvalid).val.toNat =
    a.toNat % 8 * 262144 + b.toNat % 64 * 4096 + c.toNat % 64 * 64 + d.toNat % 64 := rfl
  refine ⟨.ofNatAux _ hvalid, ?_⟩
  show ite _ _ _ = _
  rw [hv, if_neg (by omega), if_neg (by omega), if_neg (by omega)]
  simp only [List.cons.injEq, ← UInt8.toNat_inj, UInt8.toNat_ofNat', and_true]
  omega

/-! ## Characters begun -/

/-- Bytes that complete a character begun, of which `Partial` tells what is missing. -/
inductive Completes : Partial → Bytes → Prop
  | last {p : Partial} {b : UInt8} (hlast : p.missing ≤ 1) (hb : p.low ≤ b.toNat ∧ b.toNat ≤ p.high) : Completes p [b]
  | more {p : Partial} {b : UInt8} {bytes : Bytes} (hmore : 1 < p.missing) (hb : p.low ≤ b.toNat ∧ b.toNat ≤ p.high)
    (hbytes : Completes ⟨p.missing - 1, 0x80, 0xBF, 0⟩ bytes) : Completes p (b :: bytes)

theorem Completes.eq_singleton (h : Completes p bytes) (hlast : p.missing ≤ 1) :
    ∃ b, bytes = [b] ∧ p.low ≤ b.toNat ∧ b.toNat ≤ p.high := by
  cases h with
  | last _ hb => exact ⟨_, rfl, hb⟩
  | more hmore => omega

theorem Completes.eq_cons (h : Completes p bytes) (hmore : 1 < p.missing) :
    ∃ b rest, bytes = b :: rest ∧ (p.low ≤ b.toNat ∧ b.toNat ≤ p.high) ∧
      Completes ⟨p.missing - 1, 0x80, 0xBF, 0⟩ rest := by
  cases h with
  | last hlast => omega
  | more _ hb hbytes => exact ⟨_, _, rfl, hb, hbytes⟩

/-- A first byte and bytes that complete it are the UTF-8 form of a character. -/
theorem Completes.exists_char (hlead : leadingByte? a.toNat = some (missing, low, high))
    (h : Completes ⟨missing, low, high, 0⟩ bytes) : ∃ x, String.utf8EncodeChar x = a :: bytes := by
  obtain ⟨hlow, hhigh, ⟨rfl, ha⟩ | ⟨rfl, ha, hfirst, hlast⟩ | ⟨rfl, ha, hfirst, hlast⟩⟩ := leadingByte?_cases hlead
  · obtain ⟨b, rfl, hb⟩ := h.eq_singleton le_rfl
    exact utf8EncodeChar_two ha ⟨Nat.le_trans hlow hb.1, Nat.le_trans hb.2 hhigh⟩
  · obtain ⟨b, _, rfl, hb, hrest⟩ := h.eq_cons (Nat.lt_succ_self 1)
    obtain ⟨c, rfl, hc⟩ := hrest.eq_singleton le_rfl
    exact utf8EncodeChar_three ha ⟨Nat.le_trans hlow hb.1, Nat.le_trans hb.2 hhigh⟩
      (fun h => Nat.le_trans (hfirst h) hb.1)
      (fun h => Nat.le_trans hb.2 (hlast h)) hc
  · obtain ⟨b, _, rfl, hb, hrest⟩ := h.eq_cons (Nat.lt_of_sub_eq_succ rfl)
    obtain ⟨c, _, rfl, hc, hrest⟩ := hrest.eq_cons (Nat.lt_succ_self 1)
    obtain ⟨d, rfl, hd⟩ := hrest.eq_singleton le_rfl
    exact utf8EncodeChar_four ha ⟨Nat.le_trans hlow hb.1, Nat.le_trans hb.2 hhigh⟩
      (fun h => Nat.le_trans (hfirst h) hb.1)
      (fun h => Nat.le_trans hb.2 (hlast h)) hc hd

/-- A character begun is completed by what comes next, or the fault is found there, whatever ASCII follows. -/
theorem faultFrom_begun (index seen : Nat) (hlow : 0x80 ≤ p.low) (bytes : Bytes) :
    (∃ front behind index', bytes = front ++ behind ∧ Completes p front ∧ ∀ rest,
      faultFrom index seen (some p) (bytes ++ rest) = faultFrom index' 0 none (behind ++ rest)) ∨
    ∃ fault, ∀ rest, StartsAscii rest → faultFrom index seen (some p) (bytes ++ rest) = fault := by
  induction bytes generalizing seen p with
  | nil =>
    refine .inr ⟨⟨index, some seen⟩, ?_⟩
    rintro _ ⟨b, rest, rfl, hb⟩
    rw [List.nil_append, faultFrom, if_neg (by omega)]
  | cons b bytes ih =>
    simp only [List.cons_append, faultFrom]
    by_cases hb : p.low ≤ b.toNat ∧ b.toNat ≤ p.high
    · simp only [if_pos hb]
      by_cases hlast : p.missing ≤ 1
      · simp only [if_pos hlast]
        exact .inl ⟨[b], bytes, _, rfl, .last hlast hb, fun _ => rfl⟩
      · simp only [if_neg hlast]
        rcases ih (p := ⟨p.missing - 1, 0x80, 0xBF, 0⟩) (seen + 1) le_rfl with
          ⟨front, behind, index', rfl, hfront, hread⟩ | hfault
        · exact .inl ⟨b :: front, behind, index', rfl, .more (by omega) hb hfront, hread⟩
        · exact .inr hfault
    · simp only [if_neg hb]
      exact .inr ⟨_, fun _ _ => rfl⟩

/-! ## Texts -/

theorem toUtf8_of_chars {x : Char} {t : String} {front behind : Bytes} (hx : String.utf8EncodeChar x = front)
    (ht : toUtf8 t = behind) : toUtf8 (String.singleton x ++ t) = front ++ behind := by
  rw [toUtf8_append, ht, toUtf8_eq_flatMap, String.toList_singleton, List.flatMap_singleton, hx]

/-- Bytes are the UTF-8 form of a text, or their fault is the same whatever ASCII follows. -/
theorem faultFrom_append (index : Nat) (bytes : Bytes) :
    (∃ t, toUtf8 t = bytes) ∨
      ∃ fault, ∀ rest, StartsAscii rest → faultFrom index 0 none (bytes ++ rest) = fault := by
  -- On the length, since a whole character is taken off the front.
  induction hlength : bytes.length using Nat.strong_induction_on generalizing bytes index with
  | _ n ih =>
    cases bytes with
    | nil => exact .inl ⟨"", rfl⟩
    | cons b bytes =>
      rw [List.length_cons] at hlength
      simp only [List.cons_append, faultFrom]
      by_cases hascii : b.toNat < 0x80
      · simp only [if_pos hascii]
        refine (ih bytes.length (by omega) (index + 1) bytes rfl).imp_left ?_
        rintro ⟨t, ht⟩
        obtain ⟨x, hx⟩ := utf8EncodeChar_one hascii
        exact ⟨_, toUtf8_of_chars hx ht⟩
      · simp only [if_neg hascii]
        cases hlead : leadingByte? b.toNat with
        | none => exact .inr ⟨_, fun _ _ => rfl⟩
        | some bounds =>
          obtain ⟨missing, low, high⟩ := bounds
          dsimp only
          rcases faultFrom_begun (p := ⟨missing, low, high, 0⟩) index 1 (leadingByte?_cases hlead).1 bytes with
            ⟨front, behind, index', rfl, hfront, hread⟩ | hfault
          · simp only [hread]
            rw [List.length_append] at hlength
            refine (ih behind.length (by omega) index' behind rfl).imp_left ?_
            rintro ⟨t, ht⟩
            obtain ⟨x, hx⟩ := hfront.exists_char hlead
            exact ⟨_, toUtf8_of_chars hx ht⟩
          · exact .inr hfault

end SpacewalkAcquire.Text
