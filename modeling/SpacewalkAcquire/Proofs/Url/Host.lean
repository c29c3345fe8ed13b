import SpacewalkAcquire.Proofs.Text.Decimal
import SpacewalkAcquire.Proofs.Url.Domain
import SpacewalkAcquire.Proofs.Url.Percent
import SpacewalkAcquire.Url.Basic

/-!
# The written form of a host

* `Host.Named`, `Host.named_readSpecial` : the host behind a special scheme has a written form that is not empty;
* `Host.delimiters` : characters that no host may hold;
* `Host.not_mem_read` : the written form of a host that was read has no delimiter.
-/

namespace SpacewalkAcquire

def Host.Named (host : Host) : Prop := host ≠ .empty ∧ host.text ≠ ""

namespace Host

theorem named_ipv4 (a : Ipv4) : (Host.ipv4 a).Named := by
  refine ⟨Host.noConfusion, fun hempty => ?_⟩
  have hpoint : '.' ∈ (toString ".").toList := by decide
  have hdot : '.' ∈ a.text.toList := by simp [Ipv4.text, hpoint]
  rw [show a.text = "" from hempty] at hdot
  exact absurd hdot List.not_mem_nil

theorem named_ipv6 (a : Ipv6) : (Host.ipv6 a).Named := by
  refine ⟨Host.noConfusion, fun hempty => ?_⟩
  have hbracket : '[' ∈ (Host.ipv6 a).text.toList := by simp [Host.text]
  rw [hempty] at hbracket
  exact absurd hbracket List.not_mem_nil

theorem named_readSpecial {cs : List Char} {host : Host} (h : readSpecial cs = .ok host) : host.Named := by
  unfold readSpecial at h
  split at h
  · unfold readBrackets at h
    split at h
    · split at h
      · cases h
        exact named_ipv6 _
      · cases h
    · cases h
  · split at h
    · cases h
    · next domain _ =>
      split at h
      · cases h
      · next hdomain =>
        split at h
        · split at h
          · cases h
            exact named_ipv4 _
          · cases h
        · cases h
          exact ⟨Host.noConfusion, fun hempty => hdomain (by rw [show domain = "" from hempty]; rfl)⟩

/-! ## Delimiters -/

/-- What an opaque host must not hold, less what an IP address is written with. No host holds any of it. -/
def delimiters : List Char := ['\x00', '\t', '\n', '\r', ' ', '#', '/', '<', '>', '?', '@', '\\', '^', '|']

variable {d : Char}

theorem not_isDigit_of_delimiter (hd : d ∈ delimiters) : d.isDigit = false := by
  have h : ∀ d ∈ delimiters, d.isDigit = false := List.all_iff_forall_prop.1 (by decide)
  exact h d hd

theorem not_mem_escapes_of_delimiter (hd : d ∈ delimiters) : d ∉ Percent.escapes := by
  have h : ∀ d ∈ delimiters, d ∉ Percent.escapes := List.all_iff_forall_prop.1 (by decide)
  exact h d hd

theorem not_mem_toDigits (hd : d ∈ delimiters) (base n : Nat) : d ∉ Nat.toDigits base n := by
  have hdigits : ∀ d ∈ delimiters, d ∉ "0123456789abcdef*".toList := List.all_iff_forall_prop.1 (by decide)
  have hdigit (n : Nat) : n.digitChar ≠ d := Nat.digitChar_ne d (by simpa [and_assoc] using hdigits d hd)
  have hcore (fuel : Nat) : ∀ (n : Nat) {cs : List Char}, d ∉ cs → d ∉ Nat.toDigitsCore base fuel n cs := by
    induction fuel with
    | zero => exact fun _ _ h => h
    | succ fuel ih =>
      intro n cs h
      have hcons : d ∉ (n % base).digitChar :: cs := by
        rw [List.mem_cons, not_or]
        exact ⟨(hdigit _).symm, h⟩
      rw [Nat.toDigitsCore]
      split
      · exact hcons
      · exact ih _ hcons
  exact hcore _ n List.not_mem_nil

theorem mem_ipv4Text {a : Ipv4} {c : Char} (h : c ∈ a.text.toList) : c.isDigit = true ∨ c = '.' := by
  have hnumber {n : Nat} (h : c ∈ (toString n).toList) : c.isDigit = true ∨ c = '.' := .inl (Text.mem_toString_nat h)
  have hdot (h : c ∈ (toString ".").toList) : c.isDigit = true ∨ c = '.' := .inr (List.mem_singleton.1 h)
  unfold Ipv4.text at h
  simp only [String.toList_append, List.mem_append] at h
  rcases h with (((((h | h) | h) | h) | h) | h) | h
  · exact hnumber h
  · exact hdot h
  · exact hnumber h
  · exact hdot h
  · exact hnumber h
  · exact hdot h
  · exact hnumber h

theorem not_mem_ipv4Text (hd : d ∈ delimiters) (a : Ipv4) : d ∉ a.text.toList := by
  intro hm
  rcases mem_ipv4Text hm with hdigit | rfl
  · rw [not_isDigit_of_delimiter hd] at hdigit
    cases hdigit
  · exact absurd hd (by decide)

theorem not_mem_ipv6Pieces (hd : d ∈ delimiters) (ps : List UInt16) :
    d ∉ (String.intercalate ":" (ps.map Ipv6.pieceText)).toList := by
  have hcolon : ∀ d ∈ delimiters, d ∉ ":".toList := List.all_iff_forall_prop.1 (by decide)
  rw [String.toList_intercalate]
  intro hm
  rcases Text.mem_intercalate hm with hm | ⟨piece, hpiece, hm⟩
  · exact hcolon d hd hm
  · rw [List.map_map, List.mem_map] at hpiece
    obtain ⟨p, -, rfl⟩ := hpiece
    rw [Function.comp_apply, Ipv6.pieceText, String.toList_ofList] at hm
    exact not_mem_toDigits hd 16 _ hm

theorem not_mem_ipv6Text (hd : d ∈ delimiters) (a : Ipv6) : d ∉ a.text.toList := by
  have hcolons : ∀ d ∈ delimiters, d ∉ "::".toList := List.all_iff_forall_prop.1 (by decide)
  unfold Ipv6.text
  dsimp only
  split
  · rw [String.toList_append, String.toList_append, List.mem_append, List.mem_append, not_or, not_or]
    exact ⟨⟨not_mem_ipv6Pieces hd _, hcolons d hd⟩, not_mem_ipv6Pieces hd _⟩
  · exact not_mem_ipv6Pieces hd _

theorem not_mem_readBrackets (hd : d ∈ delimiters) {cs : List Char} {host : Host} (h : readBrackets cs = .ok host) :
    d ∉ host.text.toList := by
  have hbrackets : ∀ d ∈ delimiters, d ∉ "[".toList ∧ d ∉ "]".toList := List.all_iff_forall_prop.1 (by decide)
  unfold readBrackets at h
  split at h
  · split at h
    · next a _ =>
      cases h
      rw [text, String.toList_append, String.toList_append, List.mem_append, List.mem_append, not_or, not_or]
      exact ⟨⟨(hbrackets d hd).1, not_mem_ipv6Text hd a⟩, (hbrackets d hd).2⟩
    · cases h
  · cases h

theorem not_mem_readOpaque (hd : d ∈ delimiters) {cs : List Char} {host : Host} (h : readOpaque cs = .ok host) :
    d ∉ host.text.toList := by
  have hforbidden : ∀ d ∈ delimiters, isForbidden d = true := List.all_iff_forall_prop.1 (by decide)
  unfold readOpaque at h
  split at h
  · cases h
    exact List.not_mem_nil
  · exact not_mem_readBrackets hd h
  · split at h
    · cases h
    · next hallowed =>
      cases h
      rw [text, String.toList_ofList]
      intro hm
      rcases Percent.mem_encode hm with ⟨hm, -⟩ | hm
      · exact hallowed (List.any_eq_true.2 ⟨d, hm, hforbidden d hd⟩)
      · exact not_mem_escapes_of_delimiter hd hm

theorem not_mem_readSpecial (hd : d ∈ delimiters) {cs : List Char} {host : Host} (h : readSpecial cs = .ok host) :
    d ∉ host.text.toList := by
  have hforbidden : ∀ d ∈ delimiters, Domain.isForbidden d = true := List.all_iff_forall_prop.1 (by decide)
  unfold readSpecial at h
  split at h
  · exact not_mem_readBrackets hd h
  · split at h
    · cases h
    · next domain hdomain =>
      split at h
      · cases h
      · split at h
        · split at h
          · cases h
            exact not_mem_ipv4Text hd _
          · cases h
        · cases h
          exact Domain.not_mem_toAscii (hforbidden d hd) hdomain

theorem not_mem_read (hd : d ∈ delimiters) {special : Bool} {cs : List Char} {host : Host}
    (h : Host.read special cs = .ok host) : d ∉ host.text.toList := by
  cases special with
  | false => exact not_mem_readOpaque hd h
  | true => exact not_mem_readSpecial hd h

end Host

end SpacewalkAcquire
