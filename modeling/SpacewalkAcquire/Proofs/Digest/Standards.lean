import SpacewalkAcquire.Proofs.Digest.Chunks
import SpacewalkAcquire.Proofs.Digest.MessageDigest
import SpacewalkAcquire.Proofs.Digest.SecureHash

/-!
# Standard digests of chunks

* `ContentDigest.of_eq` : the digests of a byte string are those of the standards;
* `ContentDigest.Running.finish_chunks` : in whatever chunks it is fed, its length and these digests come out.
-/

namespace SpacewalkAcquire.ContentDigest

/-- The digests of a byte string are those of `MessageDigest.hash` and `SecureHash.hash` for its bits, in hexadecimal
digits. -/
theorem of_eq (content : Bytes) :
    of content = ⟨content.length, Bits.hex (MessageDigest.hash.digest (Bits.ofBytes content)),
      Bits.hex (SecureHash.hash.digest (Bits.ofBytes content))⟩ := by
  rw [of, Bits.hexText_eq, Bits.hexText_eq, MessageDigest.realizes.digest_eq, SecureHash.realizes.digest_eq]

namespace Running

theorem Holds.foldl_update {r : Running} {message : Bytes} (hr : r.Holds message) (chunks : List Bytes) :
    (chunks.foldl Running.update r).Holds (message ++ chunks.flatten) := by
  induction chunks generalizing r message with
  | nil => rwa [List.flatten_nil, List.append_nil]
  | cons chunk rest ih =>
    rw [List.foldl_cons, List.flatten_cons, ← List.append_assoc]
    exact ih (hr.update chunk)

/-- Wherever a byte string of less than `2 ^ 61` bytes is cut, feeding the chunks gives what feeding all of it at once
gives: its length and its digests by the standards. After each update the size is the length of what was fed. -/
theorem finish_chunks (chunks : List Bytes) (h : chunks.flatten.length < 2 ^ 61) :
    let fed := chunks.foldl update new
    fed.finish = (new.update chunks.flatten).finish ∧
      fed.finish.size = chunks.flatten.length ∧
      fed.finish.md5 = Bits.hex (MessageDigest.hash.digest (Bits.ofBytes chunks.flatten)) ∧
      (SecureHash.digest? (Bits.ofBytes chunks.flatten)).map Bits.hex = some fed.finish.sha256 ∧
      ∀ n, ((chunks.take n).foldl update new).size = (chunks.take n).flatten.length := by
  have hshort : (Bits.ofBytes chunks.flatten).length < 2 ^ 64 := by
    rw [Bits.length_ofBytes]
    omega
  have hfed : (chunks.foldl update new).Holds chunks.flatten := holds_new.foldl_update chunks
  have hwhole : (new.update chunks.flatten).Holds chunks.flatten := holds_new.update chunks.flatten
  intro fed
  refine ⟨hfed.finish_eq.trans hwhole.finish_eq.symm, ?_, ?_, ?_, fun n => ?_⟩
  · rw [hfed.finish_eq, of_eq]
  · rw [hfed.finish_eq, of_eq]
  · rw [hfed.finish_eq, of_eq, SecureHash.digest?, if_pos hshort, Option.map_some]
  · exact (holds_new.foldl_update (chunks.take n)).size

/-- With 60 bytes, in two chunks and an empty one between them, the padding goes on into a second block. -/
theorem finish_chunks_spilling :
    let chunks : List Bytes := [List.replicate 30 0x61, [], List.replicate 30 0x61]
    chunks.flatten.length < 2 ^ 61 ∧
      Bits.hex (MessageDigest.hash.digest (Bits.ofBytes chunks.flatten)) = "cc7ed669cf88f201c3297c6a91e1d18d" ∧
      (SecureHash.digest? (Bits.ofBytes chunks.flatten)).map Bits.hex =
        some "11ee391211c6256460b6ed375957fadd8061cafbb31daf967db875aebd5aaad4" := by
  intro chunks
  have hlength : chunks.flatten.length < 2 ^ 61 := by decide
  have hfinish : (chunks.foldl update new).finish = ⟨60, "cc7ed669cf88f201c3297c6a91e1d18d",
      "11ee391211c6256460b6ed375957fadd8061cafbb31daf967db875aebd5aaad4"⟩ := by
    decide +kernel
  obtain ⟨-, -, hmd5, hsha256, -⟩ := finish_chunks chunks hlength
  rw [hfinish] at hmd5 hsha256
  exact ⟨hlength, hmd5.symm, hsha256⟩

end Running

end SpacewalkAcquire.ContentDigest
