import SpacewalkAcquire.Digest.Md5
import SpacewalkAcquire.Digest.Sha256

/-!
# Digests of content

`ContentDigest` is the length, MD5 and SHA-256 of a byte string, the digests in small hexadecimal digits.
`ContentDigest.of` takes a whole byte string; `ContentDigest.Running` is fed in chunks.
-/

namespace SpacewalkAcquire

def hexDigit (n : Nat) : Char := if n < 10 then Char.ofNat (48 + n) else Char.ofNat (87 + n)

def hexText (bytes : Bytes) : String :=
  String.ofList (bytes.flatMap fun b => [hexDigit (b.toNat / 16), hexDigit (b.toNat % 16)])

/-- Length and digests of a byte string. -/
structure ContentDigest where
  size : Nat
  md5 : String
  sha256 : String
  deriving DecidableEq, Repr

namespace ContentDigest

def of (content : Bytes) : ContentDigest :=
  ⟨content.length, hexText (Md5.hash.digest content), hexText (Sha256.hash.digest content)⟩

/-- Both digests of the bytes fed so far. -/
structure Running where
  md5 : BlockHash.State Md5.Chain
  sha256 : BlockHash.State Sha256.Chain
  size : Nat

namespace Running

def new : Running := ⟨.new Md5.hash, .new Sha256.hash, 0⟩

def update (r : Running) (chunk : Bytes) : Running :=
  ⟨r.md5.update Md5.hash chunk, r.sha256.update Sha256.hash chunk, r.size + chunk.length⟩

def finish (r : Running) : ContentDigest :=
  ⟨r.size, hexText (r.md5.digest Md5.hash), hexText (r.sha256.digest Sha256.hash)⟩

end Running

end ContentDigest

end SpacewalkAcquire
