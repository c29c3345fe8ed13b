import SpacewalkAcquire.Proofs.Text.Trim
import SpacewalkAcquire.Proofs.Xml.Reference

/-!
# How documents are cut into tokens

* `tokensFrom_eq` : the tokens of a text, one step at a time;
* `Reads opened text tokens opened'` : within the tags `opened`, `text` is cut into `tokens` whatever follows, and
  leaves the tags `opened'`; `Reads.append` puts two such texts together;
* `IsName name`, `IsAttributes attributes` : what a tag may hold as its name, and behind it; `IsName.reads_startTag`,
  `IsName.reads_emptyTag`, `IsName.reads_close` : tags with such names; `reads_start`, `reads_empty`, `reads_close` :
  those whose name is plain;
* `next_of_markup`, `next_run`, `reads_text` : markup, characters before markup, and text before an end tag;
* `reads_blank` : white space between tags means nothing;
* `reads_element`, `reads_textElement`, `reads_escapedElement` : elements, by what is read within them;
* `reads_selfClosing`, `reads_openClose` : the two forms of an element without content.
-/

namespace SpacewalkAcquire.Xml

theorem tokensFrom_eq (opened : List String) (input : List Char) :
    tokensFrom opened input = match next opened input with
      | .stop ending => ⟨[], ending⟩
      | .skip rest => tokensFrom opened rest
      | .token t opened rest => (tokensFrom opened rest).cons t := by
  rw [tokensFrom]
  split <;> simp_all

def Document.behind (tokens : List Token) (d : Document) : Document := { d with tokens := tokens ++ d.tokens }

theorem Document.behind_behind (a b : List Token) (d : Document) : (d.behind b).behind a = d.behind (a ++ b) := by
  rw [behind, behind, behind, List.append_assoc]

/-- Within the tags `opened` a text is cut into tokens, whatever follows, and leaves the tags `opened'`. -/
def Reads (opened : List String) (text : List Char) (tokens : List Token) (opened' : List String) : Prop :=
  ∀ rest, tokensFrom opened (text ++ rest) = (tokensFrom opened' rest).behind tokens

theorem Reads.nil (opened : List String) : Reads opened [] [] opened := fun _ => rfl

theorem Reads.append {a b c : List String} {text text' : List Char} {tokens tokens' : List Token}
    (h : Reads a text tokens b) (h' : Reads b text' tokens' c) : Reads a (text ++ text') (tokens ++ tokens') c := by
  intro rest
  rw [List.append_assoc, h, h', Document.behind_behind]

theorem reads_of_token {opened opened' : List String} {text : List Char} {t : Token}
    (h : ∀ rest, next opened (text ++ rest) = .token t opened' rest) : Reads opened text [t] opened' := by
  intro rest
  rw [tokensFrom_eq, h]
  rfl

theorem reads_of_skip {opened : List String} {text : List Char}
    (h : ∀ rest, next opened (text ++ rest) = .skip rest) : Reads opened text [] opened := by
  intro rest
  rw [tokensFrom_eq, h]
  rfl

theorem document_of_reads {document : String} {opened : List String} {text rest : List Char} {tokens : List Token}
    (h : Reads [] text tokens opened) (hmarkup : text.head? = some '<') (hdocument : document.toList = text ++ rest) :
    Xml.tokens document = (tokensFrom opened rest).behind tokens := by
  cases text with
  | nil => cases hmarkup
  | cons c text =>
    cases hmarkup
    rw [Xml.tokens, hdocument]
    exact h rest

theorem tokens_of_reads {document : String} {opened : List String} {text rest : List Char} {tokens : List Token}
    (h : Reads [] text tokens opened) (hmarkup : text.head? = some '<') (hdocument : document.toList = text ++ rest) :
    (Xml.tokens document).tokens = tokens ++ (tokensFrom opened rest).tokens := by
  rw [document_of_reads h hmarkup hdocument]
  rfl

/-! ## Tags -/

/-- A name that no rule of tags cuts short: letters and digits only, at least one of them. -/
def IsPlain (name : String) : Prop := name.toList ≠ [] ∧ ∀ c ∈ name.toList, c.isAlphanum = true

instance (name : String) : Decidable (IsPlain name) :=
  @instDecidableAnd _ _ _ (List.decidableBAll (fun c => c.isAlphanum = true) name.toList)

theorem ne_of_isAlphanum {c d : Char} (h : c.isAlphanum = true) (hd : d.isAlphanum = false) : c ≠ d := by
  rintro rfl
  rw [hd] at h
  cases h

theorem isSpace_of_isAlphanum {c : Char} (h : c.isAlphanum = true) : isSpace c = false := by
  simp only [isSpace, Bool.or_eq_false_iff, beq_eq_false_iff_ne]
  exact ⟨⟨⟨ne_of_isAlphanum h (by decide), ne_of_isAlphanum h (by decide)⟩, ne_of_isAlphanum h (by decide)⟩,
    ne_of_isAlphanum h (by decide)⟩

theorem upTo_append {c : Char} {cs : List Char} (h : c ∉ cs) (rest : List Char) :
    upTo c (cs ++ c :: rest) = (cs, rest) := by
  rw [upTo, Text.cutAt_eq_some_iff.2 ⟨rfl, h⟩, Option.getD_some]

theorem cutTag_of_unquoted {cs : List Char} (h : ∀ c ∈ cs, c ≠ '>' ∧ c ≠ '"' ∧ c ≠ '\x27') :
    cutTag none (cs ++ ['>']) = some (cs, []) := by
  induction cs with
  | nil => rfl
  | cons c cs ih =>
    obtain ⟨hclose, hquote, hmark⟩ := h c List.mem_cons_self
    rw [List.cons_append, cutTag, if_neg hclose, if_neg (by simp [hquote, hmark]),
      ih fun c hc => h c (List.mem_cons_of_mem _ hc)]
    rfl

/-- What a tag holds as it is, up to its `>`, does not tell where the tag ends. -/
theorem cutTag_append {quoted : Option Char} {cs : List Char} (h : cutTag quoted (cs ++ ['>']) = some (cs, []))
    (s : List Char) : cutTag quoted (cs ++ s) = (cutTag none s).map fun p => (cs ++ p.1, p.2) := by
  induction cs generalizing quoted with
  | nil =>
    cases quoted with
    | none => cases hcut : cutTag none s <;> simp [hcut]
    | some q => simp [cutTag] at h
  | cons c cs ih =>
    have hbehind {quoted' : Option Char}
        (h : (cutTag quoted' (cs ++ ['>'])).map (fun p => (c :: p.1, p.2)) = some (c :: cs, [])) :
        (cutTag quoted' (cs ++ s)).map (fun p => (c :: p.1, p.2)) =
          (cutTag none s).map fun p => (c :: cs ++ p.1, p.2) := by
      obtain ⟨⟨a, b⟩, hcut, heq⟩ := Option.map_eq_some_iff.1 h
      cases heq
      rw [ih hcut, Option.map_map]
      rfl
    cases quoted with
    | some q => exact hbehind h
    | none =>
      rw [List.cons_append, cutTag] at h ⊢
      split at h
      · cases h
      · next hclose =>
        rw [if_neg hclose]
        exact hbehind h

theorem readMarkup_eq_readStart {c : Char} (h : c ≠ '!' ∧ c ≠ '/' ∧ c ≠ '?') (opened : List String) (tail : List Char) :
    readMarkup opened (c :: tail) = readStart opened (c :: tail) := by
  unfold readMarkup
  split <;> simp_all

/-- A name that a tag holds as it is: at least one character, none that ends the name or starts a quotation, and none at
its start that makes other markup of the tag. -/
def IsName (name : String) : Prop :=
  name.toList ≠ [] ∧ (∀ c ∈ name.toList, isTagSpace c = false ∧ c ∉ ['>', '/', '"', '\x27']) ∧
    name.toList.head? ∉ [some '!', some '?']

instance (name : String) : Decidable (IsName name) :=
  @instDecidableAnd _ _ _ (@instDecidableAnd _ _ (List.decidableBAll _ name.toList) _)

/-- What may stand behind the name in a tag: nothing, or white space and then text in which all quotations end, which
has no `>` outside of them and no `/` at its end. -/
def IsAttributes (attributes : String) : Prop :=
  cutTag none (attributes.toList ++ ['>']) = some (attributes.toList, []) ∧
    attributes.toList.head?.all isSpace = true ∧ attributes.toList.getLast? ≠ some '/'

instance (attributes : String) : Decidable (IsAttributes attributes) := inferInstanceAs (Decidable (_ ∧ _ ∧ _))

theorem isAttributes_empty : IsAttributes "" := by decide

namespace IsName

variable {name attributes : String} (h : IsName name)
include h

theorem unquoted : ∀ c ∈ name.toList, c ≠ '>' ∧ c ≠ '"' ∧ c ≠ '\x27' := by
  intro c hc
  have hother := (h.2.1 c hc).2
  simp only [List.mem_cons, List.not_mem_nil, or_false, not_or] at hother
  exact ⟨hother.1, hother.2.2.1, hother.2.2.2⟩

theorem slash_not_mem : '/' ∉ name.toList := fun hm => (h.2.1 _ hm).2 (by decide)

theorem takeWhile_append (hattributes : IsAttributes attributes) (cs : List Char) :
    (name.toList ++ (attributes.toList ++ cs)).takeWhile (fun c => !isSpace c) =
      name.toList ++ if attributes = "" then cs.takeWhile (fun c => !isSpace c) else [] := by
  have hname : ∀ c ∈ name.toList, (!isSpace c) = true := fun c hc => by
    have hspace := (h.2.1 c hc).1
    rw [isTagSpace, Bool.or_eq_false_iff] at hspace
    rw [hspace.1, Bool.not_false]
  rw [List.takeWhile_append_of_pos hname]
  congr 1
  split
  · next hempty => rw [hempty]; rfl
  · next hne =>
    cases hcs : attributes.toList with
    | nil => exact absurd (String.toList_eq_nil_iff.1 hcs) hne
    | cons c rest =>
      have hspace := hattributes.2.1
      rw [hcs, List.head?_cons, Option.all_some] at hspace
      rw [List.cons_append, List.takeWhile_cons_of_neg (by rw [hspace]; decide)]

theorem cutTag_append (hattributes : IsAttributes attributes) (s : List Char) :
    cutTag none (name.toList ++ (attributes.toList ++ s)) =
      (cutTag none s).map fun p => (name.toList ++ (attributes.toList ++ p.1), p.2) := by
  rw [Xml.cutTag_append (cutTag_of_unquoted h.unquoted), Xml.cutTag_append hattributes.1, Option.map_map]
  rfl

theorem next_eq (opened : List String) (cs : List Char) :
    next opened ('<' :: (name.toList ++ cs)) = readStart opened (name.toList ++ cs) := by
  have hslash := h.slash_not_mem
  obtain ⟨hne, -, hhead⟩ := h
  cases hname : name.toList with
  | nil => exact (hne hname).elim
  | cons c rest =>
    rw [hname] at hhead hslash
    simp only [List.head?_cons, List.mem_cons, List.not_mem_nil, or_false, not_or, Option.some.injEq] at hhead hslash
    exact readMarkup_eq_readStart ⟨hhead.1, Ne.symm hslash.1, hhead.2⟩ opened _

theorem reads_startTag (hattributes : IsAttributes attributes) (opened : List String) :
    Reads opened ('<' :: (name.toList ++ (attributes.toList ++ ['>']))) [.start name] (name :: opened) := by
  refine reads_of_token fun rest => ?_
  have htext : '<' :: (name.toList ++ (attributes.toList ++ ['>'])) ++ rest =
      '<' :: (name.toList ++ (attributes.toList ++ '>' :: rest)) := by simp
  have hname := h.takeWhile_append hattributes []
  have hlast : (name.toList ++ (attributes.toList ++ [])).getLast? ≠ some '/' := by
    rw [List.append_nil, List.getLast?_append]
    have hlast := hattributes.2.2
    cases hl : attributes.toList.getLast? with
    | none => exact fun hl => h.slash_not_mem (List.mem_of_getLast? hl)
    | some c => rwa [hl] at hlast
  rw [List.takeWhile_nil, ite_self, List.append_nil name.toList] at hname
  rw [htext, h.next_eq, readStart, h.cutTag_append hattributes, cutTag, if_pos rfl]
  simp only [Option.map_some, hname, if_neg hlast, String.ofList_toList]

theorem reads_emptyTag (hattributes : IsAttributes attributes) (opened : List String) :
    Reads opened ('<' :: (name.toList ++ (attributes.toList ++ ['/', '>']))) [.empty name] opened := by
  refine reads_of_token fun rest => ?_
  have htext : '<' :: (name.toList ++ (attributes.toList ++ ['/', '>'])) ++ rest =
      '<' :: (name.toList ++ (attributes.toList ++ '/' :: '>' :: rest)) := by simp
  have hcut : cutTag none ('/' :: '>' :: rest) = some (['/'], rest) := rfl
  have hname := h.takeWhile_append hattributes ['/']
  have hlast : (name.toList ++ (attributes.toList ++ ['/'])).getLast? = some '/' := by
    rw [← List.append_assoc, List.getLast?_concat]
  rw [htext, h.next_eq, readStart, h.cutTag_append hattributes, hcut]
  have hempty : (if (name.toList ++ if attributes = "" then ['/'] else []).length <
      (name.toList ++ (attributes.toList ++ ['/'])).length then name.toList ++ if attributes = "" then ['/'] else []
      else (name.toList ++ (attributes.toList ++ ['/'])).dropLast) = name.toList := by
    by_cases ha : attributes = ""
    · subst ha
      simp
    · rw [if_neg ha, List.append_nil, if_pos (by simp)]
  have hslash : ['/'].takeWhile (fun c => !isSpace c) = ['/'] := rfl
  simp only [Option.map_some, if_pos hlast, hname, hslash, hempty, String.ofList_toList]

theorem reads_start (opened : List String) :
    Reads opened ('<' :: (name.toList ++ ['>'])) [.start name] (name :: opened) :=
  h.reads_startTag isAttributes_empty opened

theorem reads_empty (opened : List String) :
    Reads opened ('<' :: (name.toList ++ ['/', '>'])) [.empty name] opened :=
  h.reads_emptyTag isAttributes_empty opened

theorem reads_close (opened : List String) :
    Reads (name :: opened) ('<' :: '/' :: (name.toList ++ ['>'])) [.close name] opened := by
  refine reads_of_token fun rest => ?_
  have hclose : '>' ∉ name.toList := fun hm => (h.unquoted _ hm).1 rfl
  have htrim : Text.trimEndWith isTagSpace name.toList = name.toList :=
    Text.trimEndWith_eq_self fun c hc => (h.2.1 c (List.mem_of_getLast? hc)).1
  show readClose (name :: opened) (name.toList ++ ['>'] ++ rest) = _
  rw [List.append_assoc, List.singleton_append, readClose, upTo_append hclose]
  simp only [htrim, ite_self, String.ofList_toList, if_true]

end IsName

theorem IsPlain.isName {name : String} (h : IsPlain name) : IsName name := by
  have hchar (d : Char) (hd : d.isAlphanum = false) : d ∉ name.toList := fun hm => ne_of_isAlphanum (h.2 d hm) hd rfl
  refine ⟨h.1, fun c hc => ⟨?_, fun hm => ?_⟩, fun hm => ?_⟩
  · rw [isTagSpace, isSpace_of_isAlphanum (h.2 c hc), Bool.false_or, beq_eq_false_iff_ne]
    exact ne_of_isAlphanum (h.2 c hc) (by decide)
  · simp only [List.mem_cons, List.not_mem_nil, or_false] at hm
    rcases hm with rfl | rfl | rfl | rfl <;> exact hchar _ (by decide) hc
  · simp only [List.mem_cons, List.not_mem_nil, or_false] at hm
    rcases hm with hm | hm <;> exact hchar _ (by decide) (List.mem_of_head? hm)

theorem reads_start (name : String) (h : IsPlain name) (opened : List String) :
    Reads opened ('<' :: (name.toList ++ ['>'])) [.start name] (name :: opened) := h.isName.reads_start opened

theorem reads_empty (name : String) (h : IsPlain name) (opened : List String) :
    Reads opened ('<' :: (name.toList ++ ['/', '>'])) [.empty name] opened := h.isName.reads_empty opened

theorem reads_close (name : String) (h : IsPlain name) (opened : List String) :
    Reads (name :: opened) ('<' :: '/' :: (name.toList ++ ['>'])) [.close name] opened := h.isName.reads_close opened

/-! ## Text -/

theorem reads_blank {text : List Char} (h : ∀ c ∈ text, isSpace c = true) (opened : List String) :
    Reads opened text [] opened := by
  intro rest
  have hnext : next opened (text ++ rest) = next opened rest := by
    unfold next
    rw [List.dropWhile_append_of_pos h]
  rw [tokensFrom_eq, hnext, ← tokensFrom_eq]
  rfl

theorem next_of_nil {input : List Char} (h : input.dropWhile isSpace = []) (opened : List String) :
    next opened input = .stop .finished := by
  rw [next, h]

theorem next_of_markup {input cs : List Char} (h : input.dropWhile isSpace = '<' :: cs) (opened : List String) :
    next opened input = readMarkup opened cs := by
  rw [next, h]
  rfl

theorem next_of_text {input cs : List Char} {c : Char} (h : input.dropWhile isSpace = c :: cs) (hc : c ≠ '<')
    (opened : List String) :
    next opened input = match unescape (Text.trimEndWith isSpace ((c :: cs).takeWhile (· ≠ '<'))) with
      | .ok content => .token (.text content) opened ((c :: cs).dropWhile (· ≠ '<'))
      | .error e => .stop (.failed (.reference e)) := by
  rw [next, h]
  split
  · next heq => cases heq
  · next heq => exact absurd (List.cons.inj heq).1 hc
  · rfl

/-- Characters before markup, not white space alone, are one token of what they stand for without the white space at
their ends, or hold a reference that stands for nothing. -/
theorem next_run {run : List Char} (hlt : '<' ∉ run) (hne : Text.trimWith isSpace run ≠ []) (opened : List String)
    (markup : List Char) :
    next opened (run ++ '<' :: markup) = match unescape (Text.trimWith isSpace run) with
      | .ok content => .token (.text content) opened ('<' :: markup)
      | .error e => .stop (.failed (.reference e)) := by
  have hinput : (run ++ '<' :: markup).dropWhile isSpace = run.dropWhile isSpace ++ '<' :: markup :=
    Text.dropWhile_append_cons_of_neg (by decide) run markup
  have hlt' : ∀ d ∈ run.dropWhile isSpace, decide (d ≠ '<') = true := fun d hd =>
    decide_eq_true fun heq => hlt (heq ▸ (List.dropWhile_suffix isSpace).subset hd)
  unfold Text.trimWith at hne ⊢
  cases htail : run.dropWhile isSpace with
  | nil =>
    rw [htail] at hne
    exact absurd rfl hne
  | cons c text =>
    rw [htail, List.cons_append] at hinput
    rw [htail] at hlt'
    rw [next_of_text hinput (of_decide_eq_true (hlt' c List.mem_cons_self)), ← List.cons_append,
      List.takeWhile_append_of_pos hlt', List.dropWhile_append_of_pos hlt']
    simp

theorem next_text {cs : List Char} {content : String} (hlt : '<' ∉ cs) (hne : Text.trimWith isSpace cs ≠ [])
    (h : unescape (Text.trimWith isSpace cs) = .ok content) (opened : List String) (rest : List Char) :
    next opened (cs ++ '<' :: rest) = .token (.text content) opened ('<' :: rest) := by
  rw [next_run hlt hne, h]

/-- A text before an end tag is no token if it is white space alone, and otherwise one token of what it stands for
without the white space at its ends. -/
theorem reads_text {cs : List Char} {content name : String} (hlt : '<' ∉ cs)
    (h : unescape (Text.trimWith isSpace cs) = .ok content) (hname : IsPlain name) (opened : List String) :
    Reads (name :: opened) (cs ++ '<' :: '/' :: (name.toList ++ ['>']))
      ((if Text.trimWith isSpace cs = [] then [] else [.text content]) ++ [.close name]) opened := by
  by_cases hblank : Text.trimWith isSpace cs = []
  · rw [if_pos hblank]
    exact (reads_blank (Text.trimWith_eq_nil_iff.1 hblank) _).append (reads_close name hname opened)
  · rw [if_neg hblank]
    intro rest
    have htoken := next_text hlt hblank h (name :: opened) ('/' :: (name.toList ++ ['>']) ++ rest)
    have hclose := reads_close name hname opened rest
    rw [List.append_assoc, List.cons_append, tokensFrom_eq, htoken]
    show (tokensFrom (name :: opened) _).cons _ = _
    rw [List.cons_append] at hclose
    rw [hclose]
    rfl

/-! ## Elements -/

/-- A start tag, a content, and the end tag of the same name. -/
def element (name content : String) : String := "<" ++ name ++ ">" ++ content ++ "</" ++ name ++ ">"

theorem toList_element (name content : String) : (element name content).toList =
    '<' :: (name.toList ++ ['>']) ++ (content.toList ++ '<' :: '/' :: (name.toList ++ ['>'])) := by
  simp [element]

/-- An `element` whose content leaves no tag open. -/
theorem reads_element (name content : String) {inner : List Token} (hname : IsPlain name) {opened : List String}
    (h : Reads (name :: opened) content.toList inner (name :: opened)) :
    Reads opened (element name content).toList (.start name :: (inner ++ [.close name])) opened := by
  rw [toList_element]
  exact (reads_start name hname opened).append (h.append (reads_close name hname opened))

theorem reads_textElement {name text content : String} (hname : IsPlain name) (hlt : '<' ∉ text.toList)
    (h : unescape (Text.trimWith isSpace text.toList) = .ok content) (opened : List String) :
    Reads opened (element name text).toList (.start name ::
      ((if Text.trimWith isSpace text.toList = [] then [] else [.text content]) ++ [.close name])) opened := by
  rw [toList_element]
  exact (reads_start name hname opened).append (reads_text hlt h hname opened)

/-- An element that holds a text without white space: its pieces are put together to what the text stands for. -/
theorem reads_solidElement (name : String) {text content : String} (hname : IsPlain name)
    (htext : ∀ c ∈ text.toList, c ≠ '<' ∧ isSpace c = false) (h : unescape text.toList = .ok content) :
    ∃ texts : List String, String.join texts = content ∧ ∀ opened,
      Reads opened (element name text).toList (.start name :: (texts.map Token.text ++ [.close name])) opened := by
  have htrim : Text.trimWith isSpace text.toList = text.toList := Text.trimWith_eq_self_iff.2
    ⟨fun c hc => (htext c (List.mem_of_head? hc)).2, fun c hc => (htext c (List.mem_of_getLast? hc)).2⟩
  have hreads := reads_textElement hname (fun hlt => (htext _ hlt).1 rfl) (by rw [htrim]; exact h)
  rw [htrim] at hreads
  by_cases hempty : text.toList = []
  · rw [hempty] at h
    cases h
    rw [if_pos hempty] at hreads
    exact ⟨[], rfl, hreads⟩
  · rw [if_neg hempty] at hreads
    exact ⟨[content], by simp, hreads⟩

/-- A text without the white space that the reader takes away: one token, unless nothing is left. -/
def textTokens (s : String) : List Token :=
  let text := Text.trimWith isSpace s.toList
  if text = [] then [] else [.text (String.ofList text)]

/-- An `element` that holds an escaped text. -/
theorem reads_escapedElement {name : String} (hname : IsPlain name) (s : String) (opened : List String) :
    Reads opened (element name (escape s)).toList (.start name :: (textTokens s ++ [.close name])) opened := by
  have htrim : Text.trimWith isSpace (escape s).toList = (Text.trimWith isSpace s.toList).flatMap escapeChar := by
    rw [toList_escape, Text.trimWith_flatMap keepsTrim_escapeChar]
  have hempty : Text.trimWith isSpace (escape s).toList = [] ↔ Text.trimWith isSpace s.toList = [] := by
    rw [htrim, List.flatMap_eq_nil_iff, List.eq_nil_iff_forall_not_mem]
    exact forall₂_congr fun c _ => iff_false_intro (written_escapeChar c).ne_nil
  have hreads := reads_textElement hname (lt_not_mem_escape s)
    (by rw [htrim]; exact unescape_flatMap written_escapeChar _) opened
  rwa [if_congr hempty rfl rfl] at hreads

/-! ## Elements without content -/

def selfClosing (name attributes : String) : String := "<" ++ name ++ attributes ++ "/>"

def openClose (name attributes : String) : String := "<" ++ name ++ attributes ++ "></" ++ name ++ ">"

theorem reads_selfClosing {name attributes : String} (hname : IsName name) (hattributes : IsAttributes attributes)
    (opened : List String) : Reads opened (selfClosing name attributes).toList [.empty name] opened := by
  have htext : (selfClosing name attributes).toList = '<' :: (name.toList ++ (attributes.toList ++ ['/', '>'])) := by
    simp [selfClosing]
  rw [htext]
  exact hname.reads_emptyTag hattributes opened

theorem reads_openClose {name attributes : String} (hname : IsName name) (hattributes : IsAttributes attributes)
    (opened : List String) : Reads opened (openClose name attributes).toList [.start name, .close name] opened := by
  have htext : (openClose name attributes).toList =
      '<' :: (name.toList ++ (attributes.toList ++ ['>'])) ++ '<' :: '/' :: (name.toList ++ ['>']) := by
    simp [openClose]
  rw [htext]
  exact (hname.reads_startTag hattributes opened).append (hname.reads_close opened)

theorem head?_selfClosing (name attributes back : String) :
    (selfClosing name attributes ++ back).toList.head? = some '<' := by
  simp [selfClosing]

theorem head?_openClose (name attributes back : String) :
    (openClose name attributes ++ back).toList.head? = some '<' := by
  simp [openClose]

end SpacewalkAcquire.Xml
