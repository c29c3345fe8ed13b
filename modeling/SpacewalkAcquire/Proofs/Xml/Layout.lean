import SpacewalkAcquire.Proofs.Xml.Meeting
import SpacewalkAcquire.Proofs.Xml.Pieces

/-!
# Layout between markup

* `Markup m` : `m` is one tag, declaration or instruction, as the reader cuts it off; `Markup.next_append` : the reader
  does so whatever stands behind it and whatever tags are open;
* `Markup.of_next` : what the reader cuts off is markup;
* `EndsInMarkup front` : a text of markup and characters between it that ends in markup;
* `Layout text` : white space and comments; `Layout.reads` : they mean nothing;
* `BetweenMarkup front behind` : the reader of a document comes from markup to `behind`, where markup starts;
* `BetweenMarkup.endsInMarkup` : the front of the document ends in markup then;
* `EndsInMarkup.tokens_layout` : layout behind such a front changes nothing of what is read.
-/

namespace SpacewalkAcquire.Xml

variable {opened : List String} {input cs m front rest s s' : List Char}

/-! ## One piece of markup -/

/-- One piece of markup, as the reader cuts it off. Whether it has a meaning does not matter. -/
inductive Markup : List Char → Prop
  | tag {cs content : List Char} (hhead : cs.head? ∉ [some '!', some '/', some '?'])
    (h : cutTag none cs = some (content, [])) : Markup ('<' :: cs)
  | endTag {content : List Char} (h : '>' ∉ content) : Markup ('<' :: '/' :: (content ++ ['>']))
  | instruction {content : List Char} (h : '>' ∉ content) : Markup ('<' :: '?' :: (content ++ ['>']))
  /-- Character data, a comment or a document type, by its first character. -/
  | declaration {c : Char} {cs content : List Char} {d : Declaration} (hd : Declaration.ofChar? c = some d)
    (h : cutMarkup d.closes [] (c :: cs) = some (content, [])) : Markup ('<' :: '!' :: c :: cs)

theorem Markup.exists_cons (h : Markup m) : ∃ cs, m = '<' :: cs := by
  cases h <;> exact ⟨_, rfl⟩

/-- The reader cuts markup off, or fails at it, whatever stands behind it. -/
theorem Markup.next_append (h : Markup m) (opened : List String) (s : List Char) :
    next opened (m ++ s) = (next opened m).withRest s := by
  obtain ⟨cs, hm⟩ := h.exists_cons
  rw [hm, List.cons_append, next_of_markup rfl, next_of_markup rfl]
  cases h with
  | @tag cs content hhead hcut =>
    cases hm
    obtain ⟨front, -, hcs, hfront⟩ := cutTag_decided hcut
    rw [List.append_nil] at hcs
    subst hcs
    have hread := readStart_replace hfront opened [] s
    rw [List.append_nil] at hread
    cases cs with
    | nil => cases hcut
    | cons c cs =>
      have hc : c ≠ '!' ∧ c ≠ '/' ∧ c ≠ '?' := by simpa using hhead
      rw [List.cons_append, readMarkup_eq_readStart hc, readMarkup_eq_readStart hc]
      exact hread
  | @endTag content hcontent =>
    cases hm
    have hread := readClose_replace hcontent opened [] s
    rw [List.append_cons content _ s] at hread
    exact hread
  | @instruction content hcontent =>
    cases hm
    have hmark : '>' ∉ '?' :: content := List.not_mem_cons_of_ne_of_not_mem (by decide) hcontent
    have hread := readInstruction_replace hmark [] s
    rw [List.append_cons _ _ s] at hread
    exact hread
  | @declaration c cs content d hd hcut =>
    cases hm
    obtain ⟨front, -, hcs, hfront⟩ := cutMarkup_decided hcut
    rw [List.append_nil] at hcs
    subst hcs
    have hread := Declaration.read_replace hfront opened [] s
    rw [List.append_nil] at hread
    show readDeclaration opened (c :: (cs ++ s)) = (readDeclaration opened (c :: cs)).withRest s
    rw [readDeclaration_eq, readDeclaration_eq, hd]
    exact hread

/-! ## What the reader cuts off -/

theorem exists_declaration (h : (readDeclaration opened cs).rest? = some rest) :
    ∃ m, Markup ('<' :: '!' :: m) ∧ cs = m ++ rest := by
  obtain ⟨c, tail, d, content, -, rfl, hkind, hcut, -, -⟩ := exists_of_readDeclaration h
  obtain ⟨front, hne, heq, hfront⟩ := cutMarkup_decided hcut
  obtain ⟨c', front, rfl⟩ := List.exists_cons_of_ne_nil hne
  obtain ⟨rfl, rfl⟩ := List.cons.inj heq
  have hself := hfront []
  rw [List.append_nil] at hself
  exact ⟨c :: front, .declaration hkind hself, rfl⟩

theorem exists_endTag (h : (readClose opened cs).rest? = some rest) (hrest : rest ≠ []) :
    ∃ m, Markup ('<' :: '/' :: m) ∧ cs = m ++ rest := by
  obtain ⟨content, behind, rfl, hcontent⟩ := List.eq_append_cons_of_mem (mem_of_readClose h hrest)
  have hbehind : behind = rest := by
    cases opened with
    | nil => cases h
    | cons inner outer =>
      rw [readClose_cons, upTo_append hcontent] at h
      split at h <;> cases h
      rfl
  exact ⟨content ++ ['>'], .endTag hcontent, by simp [hbehind]⟩

theorem exists_instruction (h : (readInstruction ('?' :: cs)).rest? = some rest) (hrest : rest ≠ []) :
    ∃ m, Markup ('<' :: '?' :: m) ∧ cs = m ++ rest := by
  obtain hmem | hmem := List.mem_cons.1 (mem_of_readInstruction h hrest)
  · cases hmem
  obtain ⟨content, behind, rfl, hcontent⟩ := List.eq_append_cons_of_mem hmem
  have hbehind : behind = rest := by
    have hmark : '>' ∉ '?' :: content := List.not_mem_cons_of_ne_of_not_mem (by decide) hcontent
    rw [readInstruction, ← List.cons_append, upTo_append hmark] at h
    dsimp only at h
    split at h <;> cases h
    rfl
  exact ⟨content ++ ['>'], .instruction hcontent, by simp [hbehind]⟩

theorem exists_tag (hhead : cs.head? ∉ [some '!', some '/', some '?']) (h : (readStart opened cs).rest? = some rest) :
    ∃ m, Markup ('<' :: m) ∧ cs = m ++ rest := by
  rcases hcut : cutTag none cs with _ | ⟨content, behind⟩
  · rw [readStart, hcut] at h
    cases h
  · have hbehind : behind = rest := by
      rw [readStart, hcut] at h
      dsimp only at h
      split at h <;> cases h <;> rfl
    subst hbehind
    obtain ⟨front, hne, rfl, hfront⟩ := cutTag_decided hcut
    have hself := hfront []
    rw [List.append_nil] at hself
    rw [List.head?_append_of_ne_nil front hne] at hhead
    exact ⟨front, .tag hhead hself, rfl⟩

/-- What `readMarkup` cuts off is `Markup`. -/
theorem exists_markup (h : (readMarkup opened cs).rest? = some rest) (hrest : rest ≠ []) :
    ∃ m, Markup ('<' :: m) ∧ cs = m ++ rest := by
  cases cs with
  | nil => cases h
  | cons c tail =>
    by_cases hbang : c = '!'
    · subst hbang
      obtain ⟨m, hm, rfl⟩ := exists_declaration h
      exact ⟨'!' :: m, hm, rfl⟩
    by_cases hslash : c = '/'
    · subst hslash
      obtain ⟨m, hm, rfl⟩ := exists_endTag h hrest
      exact ⟨'/' :: m, hm, rfl⟩
    by_cases hmark : c = '?'
    · subst hmark
      obtain ⟨m, hm, rfl⟩ := exists_instruction h hrest
      exact ⟨'?' :: m, hm, rfl⟩
    · rw [readMarkup_eq_readStart ⟨hbang, hslash, hmark⟩] at h
      exact exists_tag (by simp [hbang, hslash, hmark]) h

/-! ## Fronts that end in markup -/

/-- Markup, and characters before it and between it. -/
inductive EndsInMarkup : List Char → Prop
  | markup {m : List Char} (h : Markup m) : EndsInMarkup m
  | char {c : Char} {front : List Char} (hc : c ≠ '<') (h : EndsInMarkup front) : EndsInMarkup (c :: front)
  | behind {m front : List Char} (hm : Markup m) (h : EndsInMarkup front) : EndsInMarkup (m ++ front)

theorem EndsInMarkup.ne_nil (h : EndsInMarkup front) : front ≠ [] := by
  cases h with
  | markup h =>
    obtain ⟨cs, rfl⟩ := h.exists_cons
    exact List.cons_ne_nil _ _
  | char => exact List.cons_ne_nil _ _
  | behind hm =>
    obtain ⟨cs, rfl⟩ := hm.exists_cons
    exact List.cons_ne_nil _ _

theorem EndsInMarkup.run {text : List Char} (h : EndsInMarkup front) (htext : '<' ∉ text) :
    EndsInMarkup (text ++ front) := by
  induction text with
  | nil => exact h
  | cons c text ih =>
    rw [List.mem_cons, not_or] at htext
    exact .char (Ne.symm htext.1) (ih htext.2)

theorem EndsInMarkup.append {back : List Char} (h : EndsInMarkup front) (hback : EndsInMarkup back) :
    EndsInMarkup (front ++ back) := by
  induction h with
  | markup hm => exact .behind hm hback
  | char hc _ ih => exact .char hc ih
  | behind hm _ ih =>
    rw [List.append_assoc]
    exact .behind hm ih

theorem Markup.tokensFrom_congr {run : List Char} (h : Markup m) (hrun : '<' ∉ run)
    (hs : ∀ opened, tokensFrom opened s = tokensFrom opened s') (opened : List String) :
    tokensFrom opened (run ++ (m ++ s)) = tokensFrom opened (run ++ (m ++ s')) := by
  have hmarkup : tokensFrom opened (m ++ s) = tokensFrom opened (m ++ s') := by
    rw [tokensFrom_eq, tokensFrom_eq opened (m ++ s'), h.next_append, h.next_append]
    cases next opened m with
    | stop => rfl
    | skip => exact hs opened
    | token t within => exact congrArg (Document.cons t) (hs within)
  obtain ⟨cs, rfl⟩ := h.exists_cons
  have hread (s : List Char) := Reading.tokensFrom_run hrun opened .nothing
    (show tokensFrom opened ('<' :: (cs ++ s)) = Reading.nothing.before (tokensFrom opened ('<' :: (cs ++ s))) from rfl)
  rw [List.cons_append, List.cons_append] at hmarkup ⊢
  rw [hread, hread, hmarkup]

/-- What is read of a text whose `front` ends in markup depends on what is read behind that front only. -/
theorem EndsInMarkup.tokensFrom_congr {run : List Char} (h : EndsInMarkup front) (hrun : '<' ∉ run)
    (hs : ∀ opened, tokensFrom opened s = tokensFrom opened s') (opened : List String) :
    tokensFrom opened (run ++ (front ++ s)) = tokensFrom opened (run ++ (front ++ s')) := by
  induction h generalizing run opened with
  | markup hm => exact hm.tokensFrom_congr hrun hs opened
  | @char c front hc _ ih =>
    have hchar := ih (List.not_mem_append hrun (fun hm => hc (List.mem_singleton.1 hm).symm)) opened
    simpa using hchar
  | behind hm _ ih =>
    rw [List.append_assoc, List.append_assoc]
    exact hm.tokensFrom_congr hrun (ih List.not_mem_nil) opened

/-! ## Layout -/

/-- White space and comments, in any number and order. -/
inductive Layout : List Char → Prop
  | nil : Layout []
  | space {c : Char} {cs : List Char} (hc : isSpace c = true) (h : Layout cs) : Layout (c :: cs)
  | comment {s : String} {cs : List Char} (hs : '>' ∉ s.toList) (h : Layout cs) :
    Layout ((Piece.comment s).chars ++ cs)

/-- `Layout` means nothing. -/
theorem Layout.reads (h : Layout s) (opened : List String) : Reads opened s [] opened := by
  induction h with
  | nil => exact .nil opened
  | space hc _ ih => exact (reads_blank (List.forall_mem_singleton.2 hc) opened).append ih
  | @comment body cs hbody _ ih =>
    have hformed : (Piece.comment body).WellFormed := fun hend => hbody (hend.subset (by decide))
    exact (reads_comment hformed opened).append ih

/-- `layout` behind a front that ends in markup changes nothing of what is read. -/
theorem EndsInMarkup.tokens_layout {front layout : String} (h : EndsInMarkup (body front))
    (hlayout : Layout layout.toList) (behind : String) :
    tokens (front ++ layout ++ behind) = tokens (front ++ behind) := by
  have hnothing (opened : List String) :
      tokensFrom opened (layout.toList ++ behind.toList) = tokensFrom opened behind.toList := hlayout.reads opened _
  rw [tokens_eq, tokens_eq, String.append_assoc, body_append h.ne_nil, body_append h.ne_nil, String.toList_append]
  exact h.tokensFrom_congr List.not_mem_nil hnothing []

/-! ## Where the reader comes by -/

/-- The reader of the document `front ++ behind` reads a piece of markup that ends where `behind` begins, and there the
next piece of markup stands. -/
def BetweenMarkup (front behind : String) : Prop :=
  behind.toList.head? = some '<' ∧ ∃ tokens opened input, Scans [] (body (front ++ behind)) tokens opened input ∧
    (input.dropWhile isSpace).head? = some '<' ∧ (next opened input).rest? = some behind.toList

/-- Where the reader goes on, it has passed characters, or white space and one piece of markup. -/
theorem exists_passed (h : (next opened input).rest? = some rest) (hrest : rest ≠ []) :
    ∃ front, input = front ++ rest ∧ ((input.dropWhile isSpace).head? = some '<' → EndsInMarkup front) ∧
      ∀ back, EndsInMarkup back → EndsInMarkup (front ++ back) := by
  have hblank : '<' ∉ input.takeWhile isSpace := fun hm => absurd (List.mem_takeWhile_imp hm) (by decide)
  have hinput := List.takeWhile_append_dropWhile (p := isSpace) (l := input)
  generalize input.takeWhile isSpace = blanks at hblank hinput
  cases htail : input.dropWhile isSpace with
  | nil =>
    rw [next_of_nil htail] at h
    cases h
  | cons c cs =>
    rw [htail] at hinput
    by_cases hc : c = '<'
    · subst hc
      rw [next_of_markup htail] at h
      obtain ⟨m, hm, rfl⟩ := exists_markup h hrest
      have hfront : EndsInMarkup (blanks ++ '<' :: m) := (EndsInMarkup.markup hm).run hblank
      exact ⟨blanks ++ '<' :: m, by simp [← hinput], fun _ => hfront, fun back => hfront.append⟩
    · rw [next_of_text htail hc] at h
      have hbehind : (c :: cs).dropWhile (· ≠ '<') = rest := by
        split at h <;> cases h
        rfl
      have htext : '<' ∉ (c :: cs).takeWhile (· ≠ '<') := fun hm => by
        simpa using List.mem_takeWhile_imp hm
      have hsplit := List.takeWhile_append_dropWhile (p := (· ≠ '<')) (l := c :: cs)
      rw [hbehind] at hsplit
      refine ⟨blanks ++ (c :: cs).takeWhile (· ≠ '<'), ?_, fun hmarkup => (hc (Option.some.inj hmarkup)).elim,
        fun back hback => hback.run (List.not_mem_append hblank htext)⟩
      rw [List.append_assoc, hsplit, hinput]

theorem BetweenMarkup.endsInMarkup {front behind : String} (h : BetweenMarkup front behind) :
    EndsInMarkup (body front) := by
  obtain ⟨hmarkup, tokens, opened, input, hscans, hinput, hnext⟩ := h
  have hne : behind.toList ≠ [] := fun hnil => by simp [hnil] at hmarkup
  rw [body_append_markup hmarkup] at hscans
  generalize hdocument : body front ++ behind.toList = document at hscans
  generalize ([] : List String) = before at hscans
  have hfront : ∃ front, document = front ++ behind.toList ∧ EndsInMarkup front := by
    clear hdocument
    induction hscans with
    | nil =>
      obtain ⟨front, heq, hfront, -⟩ := exists_passed hnext hne
      exact ⟨front, heq, hfront hinput⟩
    | skip hstep _ ih =>
      obtain ⟨front, rfl, hfront⟩ := ih hinput hnext
      obtain ⟨passed, rfl, -, hpassed⟩ := exists_passed (by rw [hstep]; rfl) (List.append_ne_nil_of_right_ne_nil _ hne)
      exact ⟨passed ++ front, by rw [List.append_assoc], hpassed front hfront⟩
    | token hstep _ ih =>
      obtain ⟨front, rfl, hfront⟩ := ih hinput hnext
      obtain ⟨passed, rfl, -, hpassed⟩ := exists_passed (by rw [hstep]; rfl) (List.append_ne_nil_of_right_ne_nil _ hne)
      exact ⟨passed ++ front, by rw [List.append_assoc], hpassed front hfront⟩
  obtain ⟨front', heq, hends⟩ := hfront
  rw [← hdocument, List.append_left_inj] at heq
  rwa [heq]

end SpacewalkAcquire.Xml
