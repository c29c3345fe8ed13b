import SpacewalkAcquire.Text.Category
import SpacewalkAcquire.Text.Normal

/-!
# Marks and joiners

* `Text.isMark` : the general category Mark;
* `Text.joinersFit` : the rules of RFC 5892 for the two joiners: both may follow a virama, and the one that keeps
  letters apart may also stand where letters would join.
-/

namespace SpacewalkAcquire.Text

def markRows : List Row := readRows
  ["5c8-5c9 903 93b 93e-940 949-94c 94e-94f 982-983 9be-9c0 9c7-9c8 9cb-9cc 9d7 a03 a3e-a40 a83 abe-ac0 ac9 acb-acc",
    "b02-b03 b3e b40 b47-b48 b4b-b4c b57 bbe-bbf bc1-bc2 bc6-bc8 bca-bcc bd7 c01-c03 c41-c44 c82-c83 cbe-cc4 cc6-cc8",
    "cca-ccb cd5-cd6 cf3 d02-d03 d3e-d40 d46-d48 d4a-d4c d57 d82-d83 dcf-dd1 dd8-ddf df2-df3 f3e-f3f f7f 102b-102c",
    "1031 1038 103b-103c 1056-1057 1062-1064 1067-106d 1083-1084 1087-108c 108f 109a-109c 1715 1734 17b6 17be-17c5",
    "17c7-17c8 1923-1926 1929-192b 1930-1931 1933-1938 1a19-1a1a 1a55 1a57 1a61 1a63-1a64 1a6d-1a72 1b04 1b35",
    "1b3a-1b44 1b82 1ba1 1ba6-1ba7 1baa 1be7 1bea-1bec 1bee 1bf2-1bf3 1c24-1c2b 1c34-1c35 1ce1 1cf7 302e-302f",
    "a823-a824 a827 a880-a881 a8b4-a8c3 a952-a953 a983 a9b4-a9b5 a9ba-a9bb a9be-a9c0 aa2f-aa30 aa33-aa34 aa4d aa7b",
    "aa7d aaeb aaee-aaef aaf5 abe3-abe4 abe6-abe7 abe9-abea abec 11000 11002 11082 110b0-110b2 110b7-110b8 1112c",
    "11145-11146 11182 111b3-111b5 111bf-111c0 111ce 1122c-1122e 11232-11233 11235 112e0-112e2 11302-11303",
    "1133e-1133f 11341-11344 11347-11348 1134b-1134d 11357 11362-11363 113b8-113ba 113c2 113c5 113c7-113ca",
    "113cc-113cd 113cf 11435-11437 11440-11441 11445 114b0-114b2 114b9 114bb-114be 114c1 115af-115b1 115b8-115bb",
    "115be 11630-11632 1163b-1163c 1163e 116ac 116ae-116af 116b6 1171e 11720-11721 11726 1182c-1182e 11838",
    "11930-11935 11937-11938 1193d 11940 11942 119d1-119d3 119dc-119df 119e4 11a07-11a08 11a39 11a57-11a58 11a97",
    "11b61 11b65 11b67 11c2f 11c3e-11c3f 11ca9 11cb1 11cb4 11d8a-11d8e 11d93-11d94 11d96 11ef5-11ef6 11f03",
    "11f34-11f35 11f3e-11f3f 11f41 1612a-1612c 16f51-16f87 16ff0-16ff1 1d165-1d166 1d16d-1d172"]

/-- The other characters that letters join across. -/
def transparentRows : List Row := readRows
  ["ad 61c 70f cbf cc6 1b3a 1b3c 1b42 200b 200e-200f 202a-202e 2060-2064 206a-206f feff fff9-fffb 11a07-11a08 11c3f",
    "13430-1343f 1bca0-1bca3 1d173-1d17a 1e94b e0001 e0020-e007f"]

def dualRows : List Row := readRows
  ["620 626 628 62a-62e 633-63f 641-647 649-64a 66e-66f 678-687 69a-6bf 6c1-6c2 6cc 6ce 6d0-6d1 6fa-6fc 6ff 712-714",
    "71a-71d 71f-727 729 72b 72d-72e 74e-758 75c-76a 76d-770 772 775-777 77a-77f 7ca-7ea 841-845 848 84a-853 855 860",
    "862-865 868 886 889-88d 88f 8a0-8a9 8af-8b0 8b3-8b8 8ba-8c8 1807 1820-1878 1887-18a8 18aa a840-a871 10ac0-10ac4",
    "10ad3-10ad6 10ad8-10adc 10ade-10ae0 10aeb-10aee 10b80 10b82 10b86-10b88 10b8a-10b8b 10b8d 10b90 10bad-10bae",
    "10d01-10d21 10d23 10ec3-10ec4 10ec6-10ec7 10f30-10f32 10f34-10f44 10f51-10f53 10f70-10f73 10f76-10f81 10fb0",
    "10fb2-10fb3 10fb8 10fbb-10fbc 10fbe-10fbf 10fc1 10fc4 10fca 1e900-1e943"]

/-- Letters that join the letter before them. -/
def rightJoiningRows : List Row := readRows
  ["622-625 627 629 62f-632 648 671-673 675-677 688-699 6c0 6c3-6cb 6cd 6cf 6d2-6d3 6d5 6ee-6ef 710 715-719 71e 728",
    "72a 72c 72f 74d 759-75b 76b-76c 771 773-774 778-779 840 846-847 849 854 856-858 867 869-86a 870-882 88e 8aa-8ac",
    "8ae 8b1-8b2 8b9 10ac5 10ac7 10ac9-10aca 10ace-10ad2 10add 10ae1 10ae4 10aef 10b81 10b83-10b85 10b89 10b8c",
    "10b8e-10b8f 10b91 10ba9-10bac 10d22 10ec2 10f33 10f54 10f74-10f75 10fb4-10fb6 10fb9-10fba 10fbd 10fc2-10fc3",
    "10fc9"]

def leftJoiningRows : List Row := readRows
  ["a872 10acd 10ad7 10d00 10fcb"]

def isMark (c : Char) : Bool := covers nonspacingRows c || covers markRows c

def isTransparent (c : Char) : Bool := covers nonspacingRows c || covers transparentRows c

/-- The character keeps a consonant from carrying a vowel. -/
def isVirama (c : Char) : Bool := combiningClass c = 9

def firstLetter? (cs : List Char) : Option Char := (cs.dropWhile isTransparent).head?

/-- The letters on both sides would join; those `before` are held backwards. -/
def wouldJoin (before behind : List Char) : Bool :=
  ((firstLetter? before).any fun c => covers leftJoiningRows c || covers dualRows c) &&
    (firstLetter? behind).any fun c => covers rightJoiningRows c || covers dualRows c

/-- Every joiner stands where it may; the text `before` is held backwards. -/
def joinersFit (before : List Char) : List Char → Bool
  | [] => true
  | c :: behind =>
    (if c = '\u200c' then before.head?.any isVirama || wouldJoin before behind
      else if c = '\u200d' then before.head?.any isVirama
      else true) && joinersFit (c :: before) behind

end SpacewalkAcquire.Text
