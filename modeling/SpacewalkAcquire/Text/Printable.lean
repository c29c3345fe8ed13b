import SpacewalkAcquire.Text.Category

/-!
# Characters that show

* `Text.isPrintable` : the character is assigned and is neither a control, a format character, a surrogate, for
  private use, a separator other than the space, nor one that Unicode takes for ignorable by default;
* `Text.isCombining` : the Unicode property Grapheme_Extend, less the halfwidth sound marks, which stand for
  themselves; such a character joins the one before it.
-/

namespace SpacewalkAcquire.Text

def hiddenRows : List Row := readRows
  ["0-1f 7f a0 ad 34f 558 58b 5c8-5c9 115f-1160 17b4-17b5 180b-180f 2000-200d 202f 205f-2064 206a-206f 209d-209f",
    "20c2-20c4 2e60 3000 3164 a7dd a7e2 ab6c fe00-fe0f feff ffa0 107bb 12550-12686 16d80-16d9d 16da0-16da9",
    "18e00-19191 191a0-191d2 1b123 1bca0-1bca3 1ced2 1d173-1d17a 1d1eb 1d250-1d27f 1d6a6 1db00-1db7f 1df1f 1f1ae",
    "1f6d9 1f7da-1f7df 1f7ec-1f7ef 1f7f1-1f7ff 1fa8b-1fa8d 1facc 1fadd 1faeb 1faf9-1fafa 2b81e-2b81f 3d000-3fc3f",
    "e0100-e01ef"]

/-- The other characters of the Unicode property `Grapheme_Extend`, less the halfwidth sound marks. -/
def combiningRows : List Row := readRows
  ["9be 9d7 b3e b57 bbe bd7 cbf-cc0 cc2 cc6-cc8 cca-ccb cd5-cd6 d3e d57 dcf ddf 1715 1734 1b35 1b3a-1b3d 1b42-1b44",
    "1baa 1bf2-1bf3 200c 302e-302f a953 a9c0 111c0 11235 1133e 1134d 11357 113b8 113c2 113c5 113c7-113c9 113cf 114b0",
    "114bd 115af 116b6 11930 1193d 11a07-11a08 11c3f 11f41 16ff0-16ff1 1d165-1d166 1d16d-1d172 e0020-e007f"]

def isPrintable (c : Char) : Bool := !covers unassignedRows c && !covers hiddenRows c

def isCombining (c : Char) : Bool := covers nonspacingRows c || covers combiningRows c

end SpacewalkAcquire.Text
