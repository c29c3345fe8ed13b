import SpacewalkAcquire.Text.Split

/-!
# Tables of characters

A table is a list of rows, each a span of code points with some values. In text a row is a hexadecimal number or two
with a dash between, and a mark with numbers between commas: `300-36f`, `c0:41,300`.

* `Text.readRows` : the rows that texts spell;
* `Text.find?`, `Text.covers` : the row of a character, and whether there is one.
-/

namespace SpacewalkAcquire.Text

/-- A span of code points with values. -/
structure Row where
  first : Nat
  last : Nat
  /-- The character that sets the values off, a space if there are none. -/
  mark : Char
  values : List Nat
  deriving DecidableEq, Repr

def smallDigit (c : Char) : Nat := if c.isDigit then c.toNat - 48 else c.toNat - 87

def hexNumber (cs : List Char) : Nat := cs.foldl (fun n c => 16 * n + smallDigit c) 0

def readRow (word : List Char) : Row :=
  let inSpan (c : Char) : Bool := c.isAlphanum || c == '-'
  let (first, last) := match cutAt '-' (word.takeWhile inSpan) with
    | some (first, last) => (hexNumber first, hexNumber last)
    | none => (hexNumber (word.takeWhile inSpan), hexNumber (word.takeWhile inSpan))
  match word.dropWhile inSpan with
  | mark :: values => ⟨first, last, mark, (splitOn ',' values).map hexNumber⟩
  | [] => ⟨first, last, ' ', []⟩

/-- The rows that `texts` spell, words between spaces. -/
def readRows (texts : List String) : List Row := texts.flatMap fun text => (splitOn ' ' text.toList).map readRow

def Row.holds (row : Row) (c : Char) : Bool := row.first ≤ c.toNat && c.toNat ≤ row.last

def find? (rows : List Row) (c : Char) : Option Row := rows.find? fun row => row.holds c

def covers (rows : List Row) (c : Char) : Bool := rows.any fun row => row.holds c

end SpacewalkAcquire.Text
