import Mathlib.Data.Bool.AllAny
import SpacewalkAcquire.Proofs.Text.LineFeed
import SpacewalkAcquire.Url.Percent

/-!
# What percent encoding leaves

* `Percent.IsCoded set c` : a character that a component may hold; `Percent.escapes` : those of which escapes are made;
* `Percent.mem_encode` : a component has nothing else;
* `Percent.encode_eq_cons` : how a component starts; `Percent.not_encodeByte_prefix` : not with the escape of a dot.
-/

namespace SpacewalkAcquire

namespace Percent

/-- A character that a component may hold: of ASCII, and not in `set`. -/
def IsCoded (set : Char → Bool) (c : Char) : Prop := c.toNat < 0x80 ∧ set c = false

instance (set : Char → Bool) (c : Char) : Decidable (IsCoded set c) := inferInstanceAs (Decidable (_ ∧ _))

def escapes : List Char := '%' :: "0123456789ABCDEF".toList

theorem hexDigit_mem_escapes {n : Nat} (h : n < 16) : hexDigit n ∈ escapes := by
  have hall : ∀ n < 16, hexDigit n ∈ escapes := by decide
  exact hall n h

theorem encodeByte_subset (b : UInt8) : encodeByte b ⊆ escapes := by
  have hb : b.toNat < 256 := b.toNat_lt
  intro c hc
  simp only [encodeByte, List.mem_cons, List.not_mem_nil, or_false] at hc
  rcases hc with rfl | rfl | rfl
  · exact List.mem_cons_self
  · exact hexDigit_mem_escapes (by omega)
  · exact hexDigit_mem_escapes (by omega)

variable {set : Char → Bool} {cs : List Char} {c : Char}

/-- What `encode` gives was there before and could stay, or is in `escapes`. -/
theorem mem_encode (h : c ∈ encode set cs) : c ∈ cs ∧ IsCoded set c ∨ c ∈ escapes := by
  obtain ⟨d, hd, hc⟩ := List.mem_flatMap.1 h
  unfold encodeChar at hc
  split at hc
  · next hkept =>
    rw [List.mem_singleton.1 hc]
    exact .inl ⟨hd, by simpa [IsCoded] using hkept⟩
  · obtain ⟨b, -, hc⟩ := List.mem_flatMap.1 hc
    exact .inr (encodeByte_subset b hc)

/-- `encode` starts with a character of the text as it is, or with the escape of a byte. -/
theorem encode_eq_cons {rest : List Char} (h : encode set cs = c :: rest) :
    (∃ behind, cs = c :: behind ∧ encode set behind = rest) ∨
      ∃ d b, ¬ IsCoded set d ∧ b ∈ String.utf8EncodeChar d ∧ encodeByte b <+: c :: rest := by
  cases cs with
  | nil => cases h
  | cons d behind =>
    change encodeChar set d ++ encode set behind = c :: rest at h
    unfold encodeChar at h
    split at h
    · rw [List.singleton_append, List.cons.injEq] at h
      exact .inl ⟨behind, by rw [h.1], h.2⟩
    · next hkept =>
      refine .inr ?_
      obtain ⟨b, bytes, hbytes⟩ := List.exists_cons_of_ne_nil (String.utf8EncodeChar_ne_nil (c := d))
      rw [hbytes, List.flatMap_cons, List.append_assoc] at h
      refine ⟨d, b, fun hd => hkept ?_, hbytes ▸ List.mem_cons_self, _, h⟩
      simpa [IsCoded] using hd

theorem eq_nil_of_encode_eq_nil (h : encode set cs = []) : cs = [] := by
  cases cs with
  | nil => rfl
  | cons d behind =>
    have hd : encodeChar set d = [] := (List.append_eq_nil_iff.1 h).1
    unfold encodeChar at hd
    split at hd
    · cases hd
    · obtain ⟨b, bytes, hbytes⟩ := List.exists_cons_of_ne_nil (String.utf8EncodeChar_ne_nil (c := d))
      rw [hbytes] at hd
      cases hd

theorem encode_eq_cons_of_ne {rest : List Char} (hc : c ≠ '%') (h : encode set cs = c :: rest) :
    ∃ behind, cs = c :: behind ∧ encode set behind = rest := by
  refine (encode_eq_cons h).resolve_right ?_
  rintro ⟨d, b, -, -, hprefix⟩
  exact hc (List.cons_prefix_cons.1 hprefix).1.symm

/-- The escape of a byte in a character that cannot stay is not that of a dot. -/
theorem not_encodeByte_prefix {d : Char} {b : UInt8} (hdot : IsCoded set '.') (hd : ¬ IsCoded set d)
    (hb : b ∈ String.utf8EncodeChar d) {x : Char} (hx : x = 'e' ∨ x = 'E') (rest : List Char) :
    ¬ encodeByte b <+: '%' :: '2' :: x :: rest := by
  intro hprefix
  simp only [encodeByte, List.cons_prefix_cons, List.nil_prefix, and_true, true_and] at hprefix
  obtain ⟨hhigh, hlow⟩ := hprefix
  have hbound : b.toNat < 256 := b.toNat_lt
  have htwo : ∀ n < 16, hexDigit n = '2' → n = 2 := by decide
  have hlast : ∀ n < 16, hexDigit n = 'e' ∨ hexDigit n = 'E' → n = 14 := by decide
  have hbyte : b.toNat = '.'.toNat := by
    have h2 := htwo _ (by omega) hhigh
    have h14 := hlast _ (by omega) (hlow ▸ hx)
    change b.toNat = 46
    omega
  rcases Text.mem_utf8EncodeChar hb with h | h
  · exact hd (Char.toNat_inj.1 (hbyte.symm.trans h) ▸ hdot)
  · rw [hbyte] at h
    exact absurd h (by decide)

theorem isCoded_path_of_mem_encode (h : c ∈ encode path cs) : IsCoded path c := by
  have hescapes : ∀ c ∈ escapes, IsCoded path c := List.all_iff_forall_prop.1 (by decide)
  exact (mem_encode h).elim And.right (hescapes c)

end Percent

end SpacewalkAcquire
