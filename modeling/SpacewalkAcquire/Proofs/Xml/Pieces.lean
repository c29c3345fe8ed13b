import SpacewalkAcquire.Proofs.Xml.Scanning

/-!
# Pieces of text

* `Piece`, `source` : text, character data and comments, and the characters that they make up;
* `Reading`, `reading` : the texts that they are read as, up to a reference that stands for nothing;
* `reads_data`, `reads_comment` : character data is one text as it stands, a comment nothing;
* `tokensFrom_source` : the reader reads pieces so, whatever markup follows.
-/

namespace SpacewalkAcquire.Xml

/-- What text is made of. -/
inductive Piece where
  | text (s : String)
  /-- Character data, in which nothing has a meaning but its end. -/
  | data (s : String)
  | comment (s : String)
  deriving DecidableEq, Repr

namespace Piece

def dataStart : List Char := ['[', 'C', 'D', 'A', 'T', 'A', '[']

def chars : Piece → List Char
  | text s => s.toList
  | data s => '<' :: '!' :: (dataStart ++ (s.toList ++ [']', ']', '>']))
  | comment s => '<' :: '!' :: '-' :: '-' :: (s.toList ++ ['-', '-', '>'])

/-- The piece ends where it should: no `<` stands in a text, and nothing in the others ends them. -/
def WellFormed : Piece → Prop
  | text s => '<' ∉ s.toList
  | data s => ¬ [']', ']', '>'] <:+: s.toList
  | comment s => ¬ ['-', '-', '>'] <:+: s.toList

instance (p : Piece) : Decidable p.WellFormed :=
  match p with
  | text s => inferInstanceAs (Decidable ('<' ∉ s.toList))
  | data s => inferInstanceAs (Decidable (¬ [']', ']', '>'] <:+: s.toList))
  | comment s => inferInstanceAs (Decidable (¬ ['-', '-', '>'] <:+: s.toList))

end Piece

def source (pieces : List Piece) : String := String.ofList (pieces.flatMap Piece.chars)

theorem toList_source (pieces : List Piece) : (source pieces).toList = pieces.flatMap Piece.chars :=
  String.toList_ofList

/-- The texts that a reader gives, and the reference at which it fails, if any. -/
structure Reading where
  texts : List String
  fault : Option ReferenceError
  deriving DecidableEq, Repr

namespace Reading

def nothing : Reading := ⟨[], none⟩

def before (r : Reading) (d : Document) : Document :=
  match r.fault with
  | none => d.behind (r.texts.map .text)
  | some e => ⟨r.texts.map .text, .failed (.reference e)⟩

def cons (s : String) (r : Reading) : Reading := { r with texts := s :: r.texts }

/-- Characters without markup in front: one text without the white space at its ends, unless nothing is left of `run`.
-/
def behind (run : List Char) (r : Reading) : Reading :=
  if Text.trimWith isSpace run = [] then r
  else match unescape (Text.trimWith isSpace run) with
    | .ok content => r.cons content
    | .error e => ⟨[], some e⟩

theorem before_cons (s : String) (r : Reading) (d : Document) : (r.cons s).before d = (r.before d).cons (.text s) := by
  obtain ⟨texts, fault⟩ := r
  cases fault <;> rfl

theorem tokensFrom_run {run : List Char} (h : '<' ∉ run) (opened : List String) (r : Reading) {markup : List Char}
    {d : Document} (hmarkup : tokensFrom opened ('<' :: markup) = r.before d) :
    tokensFrom opened (run ++ '<' :: markup) = (r.behind run).before d := by
  unfold behind
  split_ifs with hblank
  · rw [reads_blank (Text.trimWith_eq_nil_iff.1 hblank), hmarkup]
    rfl
  · rw [tokensFrom_eq, next_run h hblank]
    cases unescape (Text.trimWith isSpace run) with
    | ok content =>
      dsimp only
      rw [hmarkup, before_cons]
    | error e => rfl

end Reading

def readingFrom (run : List Char) : List Piece → Reading
  | [] => Reading.nothing.behind run
  | .text s :: pieces => readingFrom (run ++ s.toList) pieces
  | .data s :: pieces => ((readingFrom [] pieces).cons s).behind run
  | .comment _ :: pieces => (readingFrom [] pieces).behind run

def reading (pieces : List Piece) : Reading := readingFrom [] pieces

/-! ## Where pieces end -/

theorem cutMarkup_skip {closes : List Char → Bool} {before cs : List Char}
    (h : ∀ a b, cs = a ++ '>' :: b → closes (a.reverse ++ before) = false) (rest : List Char) :
    cutMarkup closes before (cs ++ rest) = cutMarkup closes (cs.reverse ++ before) rest := by
  induction cs generalizing before with
  | nil => rfl
  | cons c cs ih =>
    have hgoes : (decide (c = '>') && closes before) = false := by
      by_cases hc : c = '>'
      · have hnot := h [] cs (by rw [hc]; rfl)
        rw [List.reverse_nil, List.nil_append] at hnot
        rw [hnot, Bool.and_false]
      · rw [decide_eq_false hc, Bool.false_and]
    rw [List.cons_append, cutMarkup, if_neg (by simpa using hgoes), ih, List.reverse_cons, List.append_assoc,
      List.singleton_append]
    intro a b hcs
    have hnot := h (c :: a) b (by rw [hcs, List.cons_append])
    rwa [List.reverse_cons, List.append_assoc, List.singleton_append] at hnot

/-- Markup with a front and a back in which no `>` stands, and nothing between them that ends it. -/
theorem cutMarkup_between {closes : List Char → Bool} {front middle back : List Char} (hfront : '>' ∉ front)
    (hback : '>' ∉ back) (hmiddle : ∀ a b, middle = a ++ '>' :: b → closes (a.reverse ++ front.reverse) = false)
    (hclose : closes (back.reverse ++ (middle.reverse ++ front.reverse)) = true) (rest : List Char) :
    cutMarkup closes [] (front ++ (middle ++ (back ++ '>' :: rest))) = some (front ++ (middle ++ back), rest) := by
  have hnone {cs : List Char} (h : '>' ∉ cs) (before : List Char) (a b : List Char) (heq : cs = a ++ '>' :: b) :
      closes (a.reverse ++ before) = false := (h (heq ▸ by simp)).elim
  rw [cutMarkup_skip (hnone hfront []), List.append_nil, cutMarkup_skip hmiddle, cutMarkup_skip (hnone hback _),
    cutMarkup, if_pos (by rw [hclose]; rfl)]
  simp

/-- Where two marks stand before a `>`, there is the end of a piece. -/
theorem infix_of_take {c : Char} {a b behind : List Char} (hlength : 2 ≤ a.length)
    (h : (a.reverse ++ behind).take 2 = [c, c]) : [c, c, '>'] <:+: a ++ '>' :: b := by
  obtain ⟨r, rfl⟩ : ∃ r, a = r.reverse := ⟨a.reverse, (List.reverse_reverse a).symm⟩
  rw [List.length_reverse] at hlength
  rw [List.reverse_reverse] at h
  rcases r with _ | ⟨x, _ | ⟨y, r⟩⟩
  · cases hlength
  · simp at hlength
  · simp only [List.cons_append, List.take_succ_cons, List.take_zero, List.cons.injEq, and_true] at h
    obtain ⟨rfl, rfl⟩ := h
    exact ⟨r.reverse, b, by simp⟩

theorem stripStartFolded?_dataStart (cs : List Char) :
    stripStartFolded? "[CDATA[".toList (Piece.dataStart ++ cs) = some cs := by
  have hstart : "[CDATA[".toList = Piece.dataStart := rfl
  rw [stripStartFolded?, hstart, List.take_left, if_pos rfl, List.drop_left]

open Piece (dataStart) in
theorem reads_data {s : String} (h : (Piece.data s).WellFormed) (opened : List String) :
    Reads opened (Piece.data s).chars [.text s] opened := by
  have hcut (rest : List Char) : cutMarkup Declaration.data.closes []
      (dataStart ++ (s.toList ++ ([']', ']'] ++ '>' :: rest))) = some (dataStart ++ (s.toList ++ [']', ']']), rest) := by
    refine cutMarkup_between (by decide) (by decide) (fun a b hs => ?_) rfl rest
    refine decide_eq_false fun htake => h ?_
    rw [hs]
    refine infix_of_take ?_ htake
    rcases a with _ | ⟨x, _ | ⟨y, a⟩⟩
    · cases htake
    · cases htake
    · simp
  have hmeaning : Declaration.data.meaning (dataStart ++ (s.toList ++ [']', ']'])) = .ok (some (.text s)) := by
    have hcontent : (dataStart ++ (s.toList ++ [']', ']'])).dropLast.dropLast = dataStart ++ s.toList := by
      simp
    dsimp only [Declaration.data]
    rw [hcontent, stripStartFolded?_dataStart]
    dsimp only
    rw [String.ofList_toList]
  refine reads_of_token fun rest => ?_
  have hinput : (Piece.data s).chars ++ rest =
      '<' :: '!' :: (dataStart ++ (s.toList ++ ([']', ']'] ++ '>' :: rest))) := by
    simp [Piece.chars]
  rw [hinput, next_of_markup rfl]
  change readDeclaration opened (dataStart ++ _) = _
  rw [dataStart, List.cons_append, readDeclaration_data, ← List.cons_append, ← dataStart, Declaration.read, hcut]
  dsimp only
  rw [hmeaning]

theorem reads_comment {s : String} (h : (Piece.comment s).WellFormed) (opened : List String) :
    Reads opened (Piece.comment s).chars [] opened := by
  have hcut (rest : List Char) : cutMarkup Declaration.comment.closes []
      (['-', '-'] ++ (s.toList ++ (['-', '-'] ++ '>' :: rest))) =
        some (['-', '-'] ++ (s.toList ++ ['-', '-']), rest) := by
    refine cutMarkup_between (by decide) (by decide) (fun a b hs => ?_) ?_ rest
    · -- The marks in front do not count as those of an end.
      rw [← Bool.not_eq_true]
      intro hclose
      simp only [Declaration.comment, Bool.and_eq_true, decide_eq_true_eq, List.length_append,
        List.length_reverse] at hclose
      refine h ?_
      rw [hs]
      exact infix_of_take (by simpa using hclose.1) hclose.2
    · simp [Declaration.comment]
  refine reads_of_skip fun rest => ?_
  have hinput : (Piece.comment s).chars ++ rest =
      '<' :: '!' :: (['-', '-'] ++ (s.toList ++ (['-', '-'] ++ '>' :: rest))) := by
    simp [Piece.chars]
  rw [hinput, next_of_markup rfl]
  change readDeclaration opened (['-', '-'] ++ _) = _
  rw [List.cons_append, readDeclaration_comment, ← List.cons_append, Declaration.read, hcut]
  rfl

/-! ## Pieces one after the other -/

/-- Behind `run`, pieces are read as `readingFrom run` says, whatever markup follows. -/
theorem tokensFrom_readingFrom {run : List Char} {pieces : List Piece} (hrun : '<' ∉ run)
    (hpieces : ∀ p ∈ pieces, p.WellFormed) (opened : List String) (markup : List Char) :
    tokensFrom opened (run ++ (pieces.flatMap Piece.chars ++ '<' :: markup)) =
      (readingFrom run pieces).before (tokensFrom opened ('<' :: markup)) := by
  induction pieces generalizing run with
  | nil => exact Reading.tokensFrom_run hrun opened .nothing rfl
  | cons piece pieces ih =>
    obtain ⟨hpiece, hrest⟩ := List.forall_mem_cons.1 hpieces
    have hbehind := ih List.not_mem_nil hrest
    rw [List.nil_append] at hbehind
    rw [List.flatMap_cons, List.append_assoc]
    cases piece with
    | text s =>
      rw [← List.append_assoc]
      exact ih (List.not_mem_append hrun hpiece) hrest
    | data s =>
      have hread := reads_data hpiece opened (pieces.flatMap Piece.chars ++ '<' :: markup)
      rw [hbehind] at hread
      exact Reading.tokensFrom_run hrun opened _ (hread.trans (Reading.before_cons s _ _).symm)
    | comment s =>
      have hread := reads_comment hpiece opened (pieces.flatMap Piece.chars ++ '<' :: markup)
      rw [hbehind] at hread
      exact Reading.tokensFrom_run hrun opened _ hread

/-- Pieces are read as `reading` says, whatever markup follows. -/
theorem tokensFrom_source {pieces : List Piece} (h : ∀ p ∈ pieces, p.WellFormed) (opened : List String)
    (markup : List Char) : tokensFrom opened ((source pieces).toList ++ '<' :: markup) =
      (reading pieces).before (tokensFrom opened ('<' :: markup)) := by
  rw [toList_source]
  exact tokensFrom_readingFrom List.not_mem_nil h opened markup

/-- An element that holds pieces is read as `reading` says, whatever follows. -/
theorem tokensFrom_element {name : String} (hname : IsPlain name) {pieces : List Piece}
    (h : ∀ p ∈ pieces, p.WellFormed) (opened : List String) (back : List Char) :
    tokensFrom opened ((element name (source pieces)).toList ++ back) =
      ((reading pieces).before ((tokensFrom opened back).cons (.close name))).cons (.start name) := by
  have hinput : (element name (source pieces)).toList ++ back = '<' :: (name.toList ++ ['>']) ++
      ((source pieces).toList ++ '<' :: ('/' :: (name.toList ++ ['>']) ++ back)) := by
    rw [toList_element]
    simp
  have hclose := reads_close name hname opened back
  rw [hinput, reads_start name hname, tokensFrom_source h]
  rw [List.cons_append] at hclose
  rw [hclose]
  rfl

end SpacewalkAcquire.Xml
