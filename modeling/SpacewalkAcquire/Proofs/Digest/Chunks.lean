import SpacewalkAcquire.Digest.Content

/-!
# Digests of chunks

* `BlockHash.absorb_append` : complete blocks may be compressed as soon as they are there;
* `BlockHash.State.Holds` : a state holds a message;
* `ContentDigest.Running.Holds.finish_eq` : digests of what was fed bit by bit are those of the whole message.
-/

namespace SpacewalkAcquire

namespace BlockHash

variable {σ : Type} (h : BlockHash σ)

/-- `absorb` can stop anywhere: what it leaves over goes in front of the rest. -/
theorem absorb_append (chain : σ) (bytes more : Bytes) :
    h.absorb chain (bytes ++ more) =
      h.absorb (h.absorb chain bytes).1 ((h.absorb chain bytes).2 ++ more) := by
  fun_induction BlockHash.absorb h chain bytes with
  | case1 chain bytes hshort => rfl
  | case2 chain bytes hlong ih =>
    have hlength : blockSize ≤ bytes.length := by
      rw [List.length_take] at hlong
      omega
    rw [← ih, absorb, List.take_append_of_le_length hlength, dif_neg hlong, List.drop_append_of_le_length hlength]

namespace State

/-- The state holds `message`: its blocks are compressed, and the bytes of an incomplete one wait. -/
structure Holds (s : State σ) (message : Bytes) : Prop where
  absorbed : h.absorb h.start message = (s.chain, s.pending)
  size : s.size = message.length

variable {h} {s : State σ} {message : Bytes}

theorem holds_new : (new h).Holds h [] := ⟨by rw [absorb, dif_pos (by decide)]; rfl, rfl⟩

theorem Holds.update (hs : s.Holds h message) (chunk : Bytes) : (s.update h chunk).Holds h (message ++ chunk) := by
  refine ⟨?_, ?_⟩
  · rw [absorb_append, hs.absorbed]
    rfl
  · show s.size + chunk.length = _
    rw [hs.size, List.length_append]

theorem Holds.digest_eq (hs : s.Holds h message) : s.digest h = h.digest message := by
  rw [State.digest, BlockHash.digest, absorb_append h h.start message, hs.absorbed, hs.size]

end State

end BlockHash

namespace ContentDigest.Running

structure Holds (r : Running) (message : Bytes) : Prop where
  md5 : r.md5.Holds Md5.hash message
  sha256 : r.sha256.Holds Sha256.hash message
  size : r.size = message.length

variable {r : Running} {message : Bytes}

theorem holds_new : new.Holds [] := ⟨BlockHash.State.holds_new, BlockHash.State.holds_new, rfl⟩

theorem Holds.update (hr : r.Holds message) (chunk : Bytes) : (r.update chunk).Holds (message ++ chunk) := by
  refine ⟨hr.md5.update chunk, hr.sha256.update chunk, ?_⟩
  show r.size + chunk.length = _
  rw [hr.size, List.length_append]

theorem Holds.finish_eq (hr : r.Holds message) : r.finish = ContentDigest.of message := by
  rw [finish, of, hr.md5.digest_eq, hr.sha256.digest_eq, hr.size]

end ContentDigest.Running

end SpacewalkAcquire
