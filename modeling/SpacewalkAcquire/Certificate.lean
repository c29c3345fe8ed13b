import SpacewalkAcquire.Text.Base64
import SpacewalkAcquire.Text.Blank
import SpacewalkAcquire.Text.Split

/-!
# Certificate files

`Certificate.fault?` looks at the outside of a certificate: a file must hold a block between the two marks of
RFC 7468, in base64, and behind it bytes that start like a DER sequence of the right length.
-/

namespace SpacewalkAcquire.Certificate

def opening : List Char := "-----BEGIN CERTIFICATE-----".toList

def closing : List Char := "-----END CERTIFICATE-----".toList

/-- The lines between `opening` and `closing`, `none` if there is no complete block. -/
def block? (lines : List (List Char)) : Option (List (List Char)) :=
  let behind := (lines.dropWhile (· ≠ opening)).drop 1
  if behind.contains closing then some (behind.takeWhile (· ≠ closing)) else none

/-- The length of a DER value with its first bytes. -/
def derLength? : Bytes → Option Nat
  | 0x30 :: n :: rest =>
    if n < 0x80 then some (n.toNat + 2)
    else
      let digits := rest.take (n.toNat - 0x80)
      some (digits.foldl (fun size b => 256 * size + b.toNat) 0 + digits.length + 2)
  | _ => none

/-- What is wrong with a file that should hold a certificate. -/
def fault? (content : Bytes) : Option String :=
  let found := do
    let text ← Text.ofUtf8? content
    let lines ← block? ((Text.lines text.toList).map (Text.trimWith Text.isBlank))
    let bytes ← Base64.decode? lines.flatten
    let length ← derLength? bytes
    if length = bytes.length then some () else none
  if found.isSome then none else some "builder error"

end SpacewalkAcquire.Certificate
