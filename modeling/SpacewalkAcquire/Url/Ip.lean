import SpacewalkAcquire.Digest.Content
import SpacewalkAcquire.Text.Split
import SpacewalkAcquire.Url.Percent

/-!
# IP addresses in URLs

* `Ipv4.read?` : up to four numbers in base 8, 10 or 16 between dots, the last of which fills the remaining bytes;
* `Ipv4.endsInNumber` : whether a host has to be read as an IPv4 address;
* `Ipv6.read?` : eight pieces of up to four hexadecimal digits, of which `::` leaves out zeros once and a dotted
  address may take the place of the last two;
* `Ipv4.text`, `Ipv6.text` : the normal forms, dotted decimals and pieces with the first longest run of zeros left out.
-/

namespace SpacewalkAcquire

/-- An IPv4 address, its four bytes as one number. -/
structure Ipv4 where
  value : UInt32
  deriving DecidableEq, Repr

/-- An IPv6 address, its eight pieces from left to right. -/
structure Ipv6 where
  pieces : List UInt16
  deriving DecidableEq, Repr

/-- The digits of a numeral as a number, if each is a digit of the `base`. -/
def digitsIn? (base : Nat) (cs : List Char) : Option Nat :=
  cs.foldl (fun acc c => do
    let n ← acc
    let d ← (Percent.hexValue? c.toNat).filter (· < base)
    return base * n + d) (some 0)

namespace Ipv4

/-- A number of an address: hexadecimal after `0x`, octal after a further zero, else decimal. -/
def readNumber? (cs : List Char) : Option Nat :=
  match cs with
  | [] => none
  | '0' :: 'x' :: rest | '0' :: 'X' :: rest => digitsIn? 16 rest
  | '0' :: d :: rest => digitsIn? 8 (d :: rest)
  | _ => digitsIn? 10 cs

/-- The parts of a host between dots, an empty last part left out. -/
def parts (host : List Char) : List (List Char) :=
  let all := Text.splitOn '.' host
  if all.getLast? = some [] then all.dropLast else all

/-- The last part of a host is a number, so the host has to be an IPv4 address. -/
def endsInNumber (host : List Char) : Bool :=
  match (parts host).getLast? with
  | none => false
  | some last => (!last.isEmpty && last.all Char.isDigit) || (readNumber? last).isSome

def read? (host : List Char) : Option Ipv4 := do
  let numbers ← (parts host).mapM readNumber?
  let last ← numbers.getLast?
  let leading := numbers.dropLast
  if leading.length > 3 || leading.any (· > 255) || last ≥ Nat.pow 256 (4 - leading.length) then none
  else
    let high := leading.foldl (fun n d => 256 * n + d) 0
    return ⟨UInt32.ofNat (high * Nat.pow 256 (4 - leading.length) + last)⟩

def text (a : Ipv4) : String :=
  let n := a.value.toNat
  s!"{n / 16777216}.{n / 65536 % 256}.{n / 256 % 256}.{n % 256}"

end Ipv4

namespace Ipv6

def readPiece? (cs : List Char) : Option UInt16 :=
  if cs.isEmpty || cs.length > 4 then none else (digitsIn? 16 cs).map UInt16.ofNat

/-- A decimal up to 255 without a leading zero. -/
def readByte? (cs : List Char) : Option Nat :=
  if cs.isEmpty || cs.length > 3 || (cs.length > 1 && cs.head? = some '0') then none
  else (digitsIn? 10 cs).filter (· ≤ 255)

def readDotted? (cs : List Char) : Option (List UInt16) := do
  let bytes ← (Text.splitOn '.' cs).mapM readByte?
  match bytes with
  | [a, b, c, d] => return [UInt16.ofNat (256 * a + b), UInt16.ofNat (256 * c + d)]
  | _ => none

/-- Pieces between colons, the last of which may be dotted where `dotted` allows it. -/
def readPieces? (dotted : Bool) : List (List Char) → Option (List UInt16)
  | [] => some []
  | [last] =>
    if dotted && last.contains '.' then readDotted? last else (readPiece? last).map fun p => [p]
  | piece :: rest => do
    let p ← readPiece? piece
    let ps ← readPieces? dotted rest
    return p :: ps

def cutDouble? : List Char → Option (List Char × List Char)
  | ':' :: ':' :: rest => some ([], rest)
  | c :: rest => (cutDouble? rest).map fun p => (c :: p.1, p.2)
  | [] => none

def sides (cs : List Char) : List (List Char) := if cs.isEmpty then [] else Text.splitOn ':' cs

def read? (cs : List Char) : Option Ipv6 :=
  match cutDouble? cs with
  | none => do
    let ps ← readPieces? true (sides cs)
    if ps.length = 8 then return ⟨ps⟩ else none
  | some (left, right) => do
    let ls ← readPieces? false (sides left)
    let rs ← readPieces? true (sides right)
    if ls.length + rs.length ≤ 7 then
      return ⟨ls ++ List.replicate (8 - ls.length - rs.length) 0 ++ rs⟩
    else none

def zeroRun (ps : List UInt16) : Nat := (ps.takeWhile (· == 0)).length

/-- The first longest run of at least two zeros: its start and length. -/
def longestRun? (ps : List UInt16) : Option (Nat × Nat) :=
  (List.range ps.length).foldl (fun best i =>
    let n := zeroRun (ps.drop i)
    match best with
    | some (_, m) => if n > m then some (i, n) else best
    | none => if n ≥ 2 then some (i, n) else none) none

def pieceText (p : UInt16) : String := String.ofList (Nat.toDigits 16 p.toNat)

/-- The pieces between colons, the first longest run of zeros left out. -/
def text (a : Ipv6) : String :=
  let joined (ps : List UInt16) := String.intercalate ":" (ps.map pieceText)
  match longestRun? a.pieces with
  | some (i, n) => joined (a.pieces.take i) ++ "::" ++ joined (a.pieces.drop (i + n))
  | none => joined a.pieces

end Ipv6

end SpacewalkAcquire
