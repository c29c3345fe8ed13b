/-!
# White space and trimming

* `Text.isBlank` : the Unicode property White_Space, all twenty-five characters of it;
* `Text.trimWith p cs` : `cs` without its longest first and last runs of `p`; `trim` takes `isBlank`;
* `trimEndWith_append_of_pos` : a trim looks at the last character first.
-/

namespace SpacewalkAcquire.Text

/-- The Unicode property `White_Space`. -/
def isBlank (c : Char) : Bool :=
  let n := c.toNat
  (9 ≤ n && n ≤ 13) || n == 0x20 || n == 0x85 || n == 0xA0 || n == 0x1680 || (0x2000 ≤ n && n ≤ 0x200A) ||
    n == 0x2028 || n == 0x2029 || n == 0x202F || n == 0x205F || n == 0x3000

/-- The list without its last run of members of `p`. -/
def trimEndWith (p : Char → Bool) (cs : List Char) : List Char := (cs.reverse.dropWhile p).reverse

/-- The list without its first and last runs of members of `p`. -/
def trimWith (p : Char → Bool) (cs : List Char) : List Char := trimEndWith p (cs.dropWhile p)

def trim (s : String) : String := String.ofList (trimWith isBlank s.toList)

@[simp] theorem trimEndWith_nil (p : Char → Bool) : trimEndWith p [] = [] := rfl

theorem trimEndWith_append_of_pos {p : Char → Bool} {c : Char} (h : p c = true) (cs : List Char) :
    trimEndWith p (cs ++ [c]) = trimEndWith p cs := by
  simp [trimEndWith, h]

end SpacewalkAcquire.Text
