import Mathlib.Data.Bool.AllAny
import SpacewalkAcquire.Proofs.Text.LineFeed
import SpacewalkAcquire.Url.Domain

/-!
# What domains do not hold

* `Punycode.mem_encode` : what Punycode is made of;
* `Punycode.Foreign d` : an ASCII character that is no digit of Punycode and not its hyphen;
* `Punycode.Foreign.not_mem_encode`, `Punycode.not_mem_decode` : Punycode adds none, in either direction;
* `Domain.mem_toAscii` : what the ASCII form of a domain is made of; `Domain.not_mem_toAscii`,
  `Domain.isAscii_of_mem_toAscii` : it has no forbidden character and none beyond ASCII, whatever bytes it comes from.
-/

namespace SpacewalkAcquire

theorem Text.mem_of_mem_splitOn {c d : Char} {cs piece : List Char} (hp : piece ∈ Text.splitOn c cs) (hd : d ∈ piece) :
    d ∈ cs := by
  induction cs generalizing piece with
  | nil =>
    rw [Text.splitOn, List.mem_singleton] at hp
    rwa [hp] at hd
  | cons x xs ih =>
    unfold Text.splitOn at hp
    split at hp
    · rcases List.mem_cons.1 hp with rfl | hp
      · cases hd
      · exact List.mem_cons_of_mem _ (ih hp hd)
    · split at hp
      · next hnil => exact (Text.splitOn_ne_nil c xs hnil).elim
      · next first rest hs =>
        rcases List.mem_cons.1 hp with rfl | hp
        · rcases List.mem_cons.1 hd with rfl | hd
          · exact List.mem_cons_self
          · exact List.mem_cons_of_mem _ (ih (hs ▸ List.mem_cons_self) hd)
        · exact List.mem_cons_of_mem _ (ih (hs ▸ List.mem_cons_of_mem _ hp) hd)

theorem Text.not_mem_of_mem_splitOn {c : Char} {cs piece : List Char} (hp : piece ∈ Text.splitOn c cs) : c ∉ piece := by
  induction cs generalizing piece with
  | nil =>
    rw [Text.splitOn, List.mem_singleton] at hp
    rw [hp]
    exact List.not_mem_nil
  | cons x xs ih =>
    unfold Text.splitOn at hp
    split at hp
    · rcases List.mem_cons.1 hp with rfl | hp
      · exact List.not_mem_nil
      · exact ih hp
    · next hx =>
      split at hp
      · next hnil => exact (Text.splitOn_ne_nil c xs hnil).elim
      · next first rest hsplit =>
        rw [hsplit] at ih
        rcases List.mem_cons.1 hp with rfl | hp
        · rw [List.mem_cons, not_or]
          exact ⟨Ne.symm hx, ih List.mem_cons_self⟩
        · exact ih (List.mem_cons_of_mem _ hp)

theorem Text.mem_intercalate {separator : List Char} {pieces : List (List Char)} {d : Char}
    (h : d ∈ List.intercalate separator pieces) : d ∈ separator ∨ ∃ piece ∈ pieces, d ∈ piece := by
  induction pieces with
  | nil => cases h
  | cons piece rest ih =>
    cases rest with
    | nil =>
      rw [List.intercalate_singleton] at h
      exact .inr ⟨piece, List.mem_cons_self, h⟩
    | cons next rest =>
      rw [List.intercalate_cons_cons, List.mem_append, List.mem_append] at h
      rcases h with (h | h) | h
      · exact .inr ⟨piece, List.mem_cons_self, h⟩
      · exact .inl h
      · exact (ih h).imp_right fun ⟨part, hpart, hd⟩ => ⟨part, List.mem_cons_of_mem _ hpart, hd⟩

theorem exists_of_mem_mapM {α β : Type} {f : α → Option β} {as : List α} {bs : List β} (h : as.mapM f = some bs) {b : β}
    (hb : b ∈ bs) : ∃ a ∈ as, f a = some b := by
  induction as generalizing bs with
  | nil =>
    cases h
    cases hb
  | cons a as ih =>
    rw [List.mapM_cons] at h
    simp only [Option.bind_eq_bind, Option.bind_eq_some_iff] at h
    obtain ⟨b', hb', bs', hbs', h⟩ := h
    cases h
    rcases List.mem_cons.1 hb with rfl | hb
    · exact ⟨a, List.mem_cons_self, hb'⟩
    · obtain ⟨a', ha', hf⟩ := ih hbs' hb
      exact ⟨a', List.mem_cons_of_mem _ ha', hf⟩

namespace Punycode

/-- An ASCII character that Punycode does not write of its own. -/
structure Foreign (d : Char) : Prop where
  ascii : d.toNat < firstInserted
  no_digit : ∀ n < base, digit n ≠ d
  no_hyphen : d ≠ '-'

variable {d : Char}

/-- The last digit of a number is below its `threshold`, and the others fit into the `base`. -/
theorem mem_digits {bias place number : Nat} {c : Char} (h : c ∈ digits bias place number) :
    ∃ n < base, c = digit n := by
  have hthreshold (bias place : Nat) : threshold bias place ≤ 26 := Nat.min_le_left _ _
  fun_induction digits bias place number with
  | case1 place number _ hlast =>
    have ht := hthreshold bias place
    exact ⟨number, by unfold base; omega, List.mem_singleton.1 h⟩
  | case2 place number t _ ih =>
    rcases List.mem_cons.1 h with rfl | h
    · have ht : t ≤ 26 := hthreshold bias place
      have hmod : (number - t) % (base - t) < base - t := Nat.mod_lt _ (by unfold base; omega)
      exact ⟨_, by omega, rfl⟩
    · exact ih h

/-- `insertions` are written in digits. -/
theorem mem_insertions {label : List Char} {ascii n : Nat} {w : Writing} {c : Char}
    (h : c ∈ (insertions label ascii n w).written) : c ∈ w.written ∨ ∃ n < base, c = digit n := by
  unfold insertions at h
  induction label generalizing w with
  | nil => exact .inl h
  | cons d cs ih =>
    rw [List.foldl_cons] at h
    rcases ih h with h | hdigit
    · split at h
      · exact .inl h
      · split at h
        · rcases List.mem_append.1 h with h | h
          · exact .inr (mem_digits (List.mem_reverse.1 h))
          · exact .inl h
        · exact .inl h
    · exact .inr hdigit

theorem mem_encodeFrom {label : List Char} {ascii least : Nat} {w : Writing} {others : List Nat} {c : Char}
    (h : c ∈ encodeFrom label ascii least w others) : c ∈ w.written ∨ ∃ n < base, c = digit n := by
  induction others generalizing least w with
  | nil => exact .inl (List.mem_reverse.1 h)
  | cons n rest ih =>
    rw [encodeFrom] at h
    rcases ih h with h | hdigit
    · have hwritten := mem_insertions (w := { w with passed := w.passed + (n - least) * (w.count + 1) }) h
      exact hwritten
    · exact .inr hdigit

/-- `encode` gives the ASCII characters of `label`, and what Punycode writes of its own. -/
theorem mem_encode {label : List Char} {c : Char} (h : c ∈ encode label) :
    (c ∈ label ∧ isAscii c = true) ∨ c = '-' ∨ ∃ n < base, c = digit n := by
  unfold encode at h
  dsimp only at h
  rcases List.mem_append.1 h with h | h
  · split at h
    · cases h
    · rw [List.mem_append, List.mem_filter, List.mem_singleton] at h
      exact h.imp_right .inl
  · rcases mem_encodeFrom (w := ⟨[], 0, _, _⟩) h with h | hdigit
    · cases h
    · exact .inr (.inr hdigit)

theorem Foreign.not_mem_encode (hd : Foreign d) {label : List Char} (h : d ∉ label) : d ∉ encode label := by
  intro hm
  rcases mem_encode hm with ⟨hm, -⟩ | hhyphen | ⟨n, hn, hdigit⟩
  · exact h hm
  · exact hd.no_hyphen hhyphen
  · exact hd.no_digit n hn hdigit.symm

theorem isAscii_of_mem_encode {label : List Char} {c : Char} (h : c ∈ encode label) : isAscii c = true := by
  have hdigits : ∀ n < base, isAscii (digit n) = true := by decide
  rcases mem_encode h with ⟨-, hascii⟩ | rfl | ⟨n, hn, rfl⟩
  · exact hascii
  · decide
  · exact hdigits n hn

/-- `decodeFrom` inserts characters beyond ASCII only. -/
theorem not_mem_decodeFrom (hascii : d.toNat < firstInserted) {label cs decoded : List Char} {least place bias : Nat}
    {isFirst : Bool} (hleast : firstInserted ≤ least) (hlabel : d ∉ label)
    (h : decodeFrom label least place bias isFirst cs = some decoded) : d ∉ decoded := by
  fun_induction decodeFrom label least place bias isFirst cs with
  | case1 =>
    cases h
    exact hlabel
  | case2 => cases h
  | case3 => cases h
  | case4 _ least _ _ _ _ _ _ _ _ _ _ n c hc _ ih =>
    -- The least possible character never falls, so what is inserted stays beyond ASCII.
    have hn : firstInserted ≤ n := Nat.le_trans hleast (Nat.le_add_right _ _)
    refine ih hn (fun hm => ?_) h
    rcases List.mem_append.1 hm with hm | hm
    · exact hlabel (List.mem_of_mem_take hm)
    · rcases List.mem_cons.1 hm with hm | hm
      · rw [← not_not.1 hc, ← hm] at hn
        exact absurd hascii (Nat.not_lt.2 hn)
      · exact hlabel (List.mem_of_mem_drop hm)

theorem not_mem_decode (hascii : d.toNat < firstInserted) {cs decoded : List Char} (hcs : d ∉ cs)
    (h : decode? cs = some decoded) : d ∉ decoded := by
  unfold decode? at h
  split at h
  · cases h
  · split at h
    · next last first hc =>
      obtain ⟨e, -⟩ := Text.cutAt_eq_some_iff.1 hc
      have hfirst : d ∉ first.reverse := by
        intro hm
        rw [List.mem_reverse] at hm
        refine hcs (List.mem_reverse.1 ?_)
        rw [e]
        exact List.mem_append_right _ (List.mem_cons_of_mem _ hm)
      split at h
      · exact not_mem_decodeFrom hascii (Nat.le_refl _) List.not_mem_nil h
      · exact not_mem_decodeFrom hascii (Nat.le_refl _) hfirst h
    · exact not_mem_decodeFrom hascii (Nat.le_refl _) List.not_mem_nil h

end Punycode

namespace Domain

open Punycode (Foreign)

variable {d : Char}

theorem foreign_of_isForbidden (h : isForbidden d = true) : Foreign d := by
  have hascii : ∀ c ∈ ['%', '#', '/', ':', '<', '>', '?', '@', '[', '\\', ']', '^', '|'],
      c.toNat < Punycode.firstInserted := List.all_iff_forall_prop.1 (by decide)
  have hdigit : ∀ n < Punycode.base, isForbidden (Punycode.digit n) = false := by decide
  refine ⟨?_, fun n hn he => ?_, ?_⟩
  · unfold isForbidden at h
    simp only [Bool.or_eq_true, decide_eq_true_eq, beq_iff_eq, List.contains_iff_mem] at h
    rcases h with (h | h) | h
    · exact Nat.lt_of_le_of_lt h (by decide)
    · rw [h]
      decide
    · exact hascii d h
  · rw [← he, hdigit n hn] at h
    cases h
  · rintro rfl
    exact absurd h (by decide)

theorem not_mem_decodeLabel (hd : Foreign d) {label decoded : List Char} (hlabel : d ∉ label)
    (h : decodeLabel? label = some decoded) : d ∉ decoded := by
  unfold decodeLabel? at h
  split at h
  · split at h
    · cases h
      exact hlabel
    · cases h
  · next coded hc =>
    rw [Text.stripStart?_eq_some_iff.1 hc, List.mem_append, not_or] at hlabel
    split at h
    · cases h
    · next decoded' hdecoded =>
      split at h
      · cases h
        split at hdecoded
        · exact Punycode.not_mem_decode hd.ascii hlabel.2 hdecoded
        · cases hdecoded
      · cases h

theorem not_mem_encodeLabel (hd : Foreign d) {label coded : List Char} (hlabel : d ∉ label)
    (h : encodeLabel? label = some coded) : d ∉ coded := by
  have hstart : d ∉ codedStart := by
    have hx : d ≠ 'x' := fun e => hd.no_digit 23 (by decide) (e ▸ by decide)
    have hn : d ≠ 'n' := fun e => hd.no_digit 13 (by decide) (e ▸ by decide)
    simp [codedStart, hx, hn, hd.no_hyphen]
  unfold encodeLabel? at h
  split at h
  · cases h
    exact hlabel
  · split at h
    · cases h
      rw [List.mem_append, not_or]
      exact ⟨hstart, hd.not_mem_encode hlabel⟩
    · cases h

theorem isAscii_of_mem_encodeLabel {label coded : List Char} {c : Char} (h : encodeLabel? label = some coded)
    (hc : c ∈ coded) : Punycode.isAscii c = true := by
  have hstart : ∀ c ∈ codedStart, Punycode.isAscii c = true := List.all_iff_forall_prop.1 (by decide)
  unfold encodeLabel? at h
  split at h
  · next hascii =>
    cases h
    exact List.all_eq_true.1 hascii c hc
  · split at h
    · cases h
      rcases List.mem_append.1 hc with hc | hc
      · exact hstart c hc
      · exact Punycode.isAscii_of_mem_encode hc
    · cases h

theorem mem_toAscii {bytes : Bytes} {domain : String} (h : toAscii? bytes = some domain) {c : Char}
    (hc : c ∈ domain.toList) : c = '.' ∨ ∃ normal piece label coded, normal.any isForbidden = false ∧
      piece ∈ Text.splitOn '.' normal ∧ decodeLabel? piece = some label ∧ encodeLabel? label = some coded ∧
      c ∈ coded := by
  unfold toAscii? at h
  simp only [Option.bind_eq_bind, Option.bind_eq_some_iff] at h
  obtain ⟨name, -, normal, -, h⟩ := h
  split at h
  · cases h
  · next hforbidden =>
    rw [Option.bind_eq_some_iff] at h
    obtain ⟨labels, hlabels, h⟩ := h
    split at h
    · rw [Option.map_eq_some_iff] at h
      obtain ⟨coded, hcoded, rfl⟩ := h
      rw [String.toList_ofList] at hc
      rcases Text.mem_intercalate hc with hc | ⟨part, hpart, hc⟩
      · exact .inl (List.mem_singleton.1 hc)
      · obtain ⟨label, hlabel, hpart⟩ := exists_of_mem_mapM hcoded hpart
        obtain ⟨piece, hpiece, hlabel⟩ := exists_of_mem_mapM hlabels hlabel
        exact .inr ⟨normal, piece, label, part, Bool.not_eq_true _ ▸ hforbidden, hpiece, hlabel, hpart, hc⟩
    · cases h

theorem not_mem_toAscii (hd : isForbidden d = true) {bytes : Bytes} {domain : String}
    (h : toAscii? bytes = some domain) : d ∉ domain.toList := by
  have hforeign := foreign_of_isForbidden hd
  intro hm
  rcases mem_toAscii h hm with rfl | ⟨normal, piece, label, coded, hallowed, hpiece, hlabel, hcoded, hm⟩
  · exact absurd hd (by decide)
  · -- Mapping might give anything, but a name with a forbidden character is refused after it.
    have hnormal : d ∉ normal := fun hm => by
      rw [List.any_eq_true.2 ⟨_, hm, hd⟩] at hallowed
      cases hallowed
    have hpiece' : d ∉ piece := fun hm => hnormal (Text.mem_of_mem_splitOn hpiece hm)
    exact not_mem_encodeLabel hforeign (not_mem_decodeLabel hforeign hpiece' hlabel) hcoded hm

theorem isAscii_of_mem_toAscii {bytes : Bytes} {domain : String} (h : toAscii? bytes = some domain) {c : Char}
    (hc : c ∈ domain.toList) : Punycode.isAscii c = true := by
  rcases mem_toAscii h hc with rfl | ⟨_, _, _, _, -, -, -, hcoded, hc⟩
  · decide
  · exact isAscii_of_mem_encodeLabel hcoded hc

end Domain

end SpacewalkAcquire
