import SpacewalkAcquire.Text.Utf8

/-!
# Block hashes

A `BlockHash` compresses a message in blocks of 64 bytes into a chaining value. The message is closed by the byte
`0x80`, as many zeros as complete a block, and its length in bits.

* `BlockHash.digest` : the digest of a whole message;
* `BlockHash.State` : a chaining value and the bytes of an incomplete block; `State.update` takes further bytes,
  `State.digest` closes the message.
-/

namespace SpacewalkAcquire

/-- A hash that compresses blocks of 64 bytes. -/
structure BlockHash (σ : Type) where
  start : σ
  compress : σ → Bytes → σ
  lengthBytes : Nat → Bytes
  output : σ → Bytes

namespace BlockHash

variable {σ : Type}

def blockSize : Nat := 64

/-- The number of zeros that close a message of `size` bytes. -/
def zeroCount (size : Nat) : Nat := (119 - size % 64) % 64

/-- What closes a message of a length: the byte `0x80`, zeros, and the length in bits. -/
def closing (h : BlockHash σ) (size : Nat) : Bytes :=
  0x80 :: (List.replicate (zeroCount size) 0 ++ h.lengthBytes (8 * size))

/-- Compresses all complete blocks of `bytes`; those of an incomplete one are left. -/
def absorb (h : BlockHash σ) (chain : σ) (bytes : Bytes) : σ × Bytes :=
  if _h : (bytes.take blockSize).length < blockSize then (chain, bytes)
  else absorb h (h.compress chain (bytes.take blockSize)) (bytes.drop blockSize)
termination_by bytes.length
decreasing_by
  simp only [blockSize, List.length_take, List.length_drop] at _h ⊢
  omega

def digest (h : BlockHash σ) (message : Bytes) : Bytes :=
  h.output (h.absorb h.start (message ++ h.closing message.length)).1

/-- A message fed so far. -/
structure State (σ : Type) where
  chain : σ
  pending : Bytes
  size : Nat

namespace State

def new (h : BlockHash σ) : State σ := ⟨h.start, [], 0⟩

def update (h : BlockHash σ) (s : State σ) (chunk : Bytes) : State σ :=
  let (chain, pending) := h.absorb s.chain (s.pending ++ chunk)
  ⟨chain, pending, s.size + chunk.length⟩

def digest (h : BlockHash σ) (s : State σ) : Bytes :=
  h.output (h.absorb s.chain (s.pending ++ h.closing s.size)).1

end State

end BlockHash

/-- A word of 32 bits, its least byte first. -/
def wordOfBytes : Bytes → UInt32
  | [] => 0
  | b :: rest => b.toUInt32 ||| (wordOfBytes rest <<< 8)

def bytesOfWord (w : UInt32) : Bytes :=
  [w.toUInt8, (w >>> 8).toUInt8, (w >>> 16).toUInt8, (w >>> 24).toUInt8]

/-- The eight bytes of a number modulo `2 ^ 64`, the least first. -/
def bytesOfLength (n : Nat) : Bytes := (List.range 8).map fun i => UInt8.ofNat (n / Nat.pow 256 i)

/-- The words of a block, each of four bytes that `order` arranges with the least first. -/
def blockWords (order : Bytes → Bytes) (block : Bytes) : List UInt32 :=
  (List.range 16).map fun i => wordOfBytes (order ((block.drop (4 * i)).take 4))

def rotateLeft (w : UInt32) (n : UInt32) : UInt32 := (w <<< n) ||| (w >>> (32 - n))

def rotateRight (w : UInt32) (n : UInt32) : UInt32 := (w >>> n) ||| (w <<< (32 - n))

end SpacewalkAcquire
