import SpacewalkAcquire.Proofs.Xml.Reading

/-!
# Documents that go on

* `Step.withRest`, `Step.extend` : a step with another text behind it, and with more text behind it;
* `Decided read cs` : what `read` gives for `cs` is decided by the front of `cs`, whatever stands behind that;
* `next_replace` : what is read at the start of a text does not depend on what stands behind it, if only that begins as
  before; `next_close_extend` : an end tag that is complete stays as it is when the text goes on, even at its end;
* `Scans opened input tokens opened' rest` : `tokens` are read, one after the other, until `rest` is left;
* `exists_scans`, `Scans.tokensFrom` : these are the first tokens of the text;
* `Scans.replace`, `Scans.extend` : they stay as they are when something else follows, or when the text goes on;
* `body` : a document without its byte order mark.
-/

namespace SpacewalkAcquire.Xml

variable {opened within : List String} {input cs content rest : List Char} {t : Token}

def Step.withRest (s : List Char) : Step → Step
  | stop ending => stop ending
  | skip _ => skip s
  | token t opened _ => token t opened s

def Step.extend (s : List Char) : Step → Step
  | stop ending => stop ending
  | skip rest => skip (rest ++ s)
  | token t opened rest => token t opened (rest ++ s)

/-- What `read` gives for a text is decided by its front, whatever stands behind that. -/
def Decided (read : List Char → Step) (cs : List Char) : Prop :=
  ∃ front rest, front ≠ [] ∧ cs = front ++ rest ∧ ∀ s, read (front ++ s) = (read cs).withRest s

theorem Decided.extend {read : List Char → Step} (h : Decided read cs) (s : List Char) :
    read (cs ++ s) = (read cs).extend s := by
  obtain ⟨front, rest, -, rfl, hread⟩ := h
  have hself := hread rest
  rw [List.append_assoc, hread (rest ++ s)]
  cases hstep : read (front ++ rest) with
  | stop => rfl
  | skip behind => rw [hstep] at hself; cases hself; rfl
  | token t opened behind => rw [hstep] at hself; cases hself; rfl

theorem Decided.cons {read read' : List Char → Step} {c : Char} (h : Decided read cs)
    (hread : ∀ s, read' (c :: s) = read s) : Decided read' (c :: cs) := by
  obtain ⟨front, rest, -, rfl, hfront⟩ := h
  refine ⟨c :: front, rest, List.cons_ne_nil _ _, rfl, fun s => ?_⟩
  rw [List.cons_append, hread, hread, hfront]

theorem Decided.congr {read read' : List Char → Step} {c : Char} (h : Decided read (c :: cs))
    (hread : ∀ s, read' (c :: s) = read (c :: s)) : Decided read' (c :: cs) := by
  obtain ⟨front, rest, hne, heq, hfront⟩ := h
  obtain ⟨d, front, rfl⟩ := List.exists_cons_of_ne_nil hne
  obtain ⟨rfl, -⟩ := List.cons.inj heq
  refine ⟨c :: front, rest, hne, heq, fun s => ?_⟩
  rw [List.cons_append, hread, hread, ← List.cons_append, hfront]

/-! ## Cuts -/

theorem mem_of_upTo {c : Char} (h : (upTo c cs).2 ≠ []) : c ∈ cs := by
  by_contra hc
  rw [upTo, Text.cutAt_eq_none_iff.2 hc] at h
  exact h rfl

theorem cutMarkup_decided {closes : List Char → Bool} {before : List Char}
    (h : cutMarkup closes before cs = some (content, rest)) :
    ∃ front, front ≠ [] ∧ cs = front ++ rest ∧ ∀ s, cutMarkup closes before (front ++ s) = some (content, s) := by
  induction cs generalizing before with
  | nil => cases h
  | cons c cs ih =>
    rw [cutMarkup] at h
    split at h
    · next hclose =>
      cases h
      refine ⟨[c], List.cons_ne_nil _ _, rfl, fun s => ?_⟩
      rw [List.singleton_append, cutMarkup, if_pos hclose]
    · next hclose =>
      obtain ⟨front, -, rfl, hcut⟩ := ih h
      refine ⟨c :: front, List.cons_ne_nil _ _, rfl, fun s => ?_⟩
      rw [List.cons_append, cutMarkup, if_neg hclose, hcut]

theorem cutTag_decided {quoted : Option Char} (h : cutTag quoted cs = some (content, rest)) :
    ∃ front, front ≠ [] ∧ cs = front ++ rest ∧ ∀ s, cutTag quoted (front ++ s) = some (content, s) := by
  induction cs generalizing quoted content with
  | nil => cases quoted <;> cases h
  | cons c cs ih =>
    have hbehind {quoted' : Option Char}
        (h : (cutTag quoted' cs).map (fun p => (c :: p.1, p.2)) = some (content, rest)) :
        ∃ front, cs = front ++ rest ∧
          ∀ s, (cutTag quoted' (front ++ s)).map (fun p => (c :: p.1, p.2)) = some (content, s) := by
      obtain ⟨⟨a, b⟩, hcut, heq⟩ := Option.map_eq_some_iff.1 h
      cases heq
      obtain ⟨front, -, rfl, hfront⟩ := ih hcut
      exact ⟨front, rfl, fun s => by rw [hfront]; rfl⟩
    cases quoted with
    | some q =>
      obtain ⟨front, rfl, hfront⟩ := hbehind h
      exact ⟨c :: front, List.cons_ne_nil _ _, rfl, hfront⟩
    | none =>
      rw [cutTag] at h
      split at h
      · next hclose =>
        cases h
        refine ⟨[c], List.cons_ne_nil _ _, rfl, fun s => ?_⟩
        rw [List.singleton_append, cutTag, if_pos hclose]
      · next hclose =>
        obtain ⟨front, rfl, hfront⟩ := hbehind h
        refine ⟨c :: front, List.cons_ne_nil _ _, rfl, fun s => ?_⟩
        rw [List.cons_append, cutTag, if_neg hclose]
        exact hfront s

/-! ## Declarations -/

/-- Markup behind `<!`: where it closes, and what its content means, if not an error. -/
structure Declaration where
  closes : List Char → Bool
  unclosed : XmlError
  meaning : List Char → Except XmlError (Option Token)

namespace Declaration

def data : Declaration where
  closes before := before.take 2 = [']', ']']
  unclosed := .unfinished "CData"
  meaning content := match stripStartFolded? "[CDATA[".toList content.dropLast.dropLast with
    | some text => .ok (some (.text (String.ofList text)))
    | none => .error (.unfinished "CData")

def comment : Declaration where
  closes before := 4 ≤ before.length && before.take 2 = ['-', '-']
  unclosed := .unfinished "Comment"
  meaning content := if content.take 2 = ['-', '-'] then .ok none else .error (.unfinished "Comment")

def doctype : Declaration where
  closes before := before.count '<' = before.count '>'
  unclosed := .unfinished "DOCTYPE"
  meaning content := match stripStartFolded? "DOCTYPE".toList content with
    | some text => if text.all isSpace then .error .emptyDoctype else .ok none
    | none => .error (.unfinished "DOCTYPE")

def ofChar? (c : Char) : Option Declaration :=
  if c = '[' then some data else if c = '-' then some comment else if c = 'D' ∨ c = 'd' then some doctype else none

def read (d : Declaration) (opened : List String) (cs : List Char) : Step :=
  match cutMarkup d.closes [] cs with
  | none => .stop (.failed d.unclosed)
  | some (content, rest) => match d.meaning content with
    | .error e => .stop (.failed e)
    | .ok none => .skip rest
    | .ok (some t) => .token t opened rest

theorem read_replace {d : Declaration} (h : ∀ s, cutMarkup d.closes [] (cs ++ s) = some (content, s))
    (opened : List String) (s s' : List Char) : d.read opened (cs ++ s') = (d.read opened (cs ++ s)).withRest s' := by
  rw [read, read, h, h]
  dsimp only
  rcases d.meaning content with _ | _ | _ <;> rfl

end Declaration

theorem readDeclaration_data (opened : List String) (tail : List Char) :
    readDeclaration opened ('[' :: tail) = Declaration.data.read opened ('[' :: tail) := by
  rw [readDeclaration, Declaration.read]
  dsimp only [Declaration.data]
  generalize cutMarkup _ [] ('[' :: tail) = cut
  rcases cut with _ | ⟨content, rest⟩
  · rfl
  · dsimp only
    cases stripStartFolded? "[CDATA[".toList content.dropLast.dropLast <;> rfl

theorem readDeclaration_comment (opened : List String) (tail : List Char) :
    readDeclaration opened ('-' :: tail) = Declaration.comment.read opened ('-' :: tail) := by
  rw [readDeclaration, Declaration.read]
  dsimp only [Declaration.comment]
  generalize cutMarkup _ [] ('-' :: tail) = cut
  rcases cut with _ | ⟨content, rest⟩
  · rfl
  · dsimp only
    split
    · next heq =>
      cases heq
      rw [List.take_succ_cons, List.take_succ_cons, List.take_zero, if_pos rfl]
    · next hother =>
      rw [if_neg fun htake => hother (content.drop 2) rest ?_]
      rw [← List.take_append_drop 2 content, htake]
      rfl

theorem readDeclaration_doctype (opened : List String) {c : Char} (h : c = 'D' ∨ c = 'd') (tail : List Char) :
    readDeclaration opened (c :: tail) = Declaration.doctype.read opened (c :: tail) := by
  rcases h with rfl | rfl
  all_goals
    rw [readDeclaration, Declaration.read]
    dsimp only [Declaration.doctype]
    generalize cutMarkup _ [] (_ :: tail) = cut
    rcases cut with _ | ⟨content, rest⟩
    · rfl
    · dsimp only
      rcases stripStartFolded? "DOCTYPE".toList content with _ | text
      · rfl
      · dsimp only
        cases text.all isSpace <;> rfl

theorem readDeclaration_eq (opened : List String) (c : Char) (tail : List Char) :
    readDeclaration opened (c :: tail) = (Declaration.ofChar? c).elim (.stop (.failed (.badDeclaration (firstByte c))))
      fun d => d.read opened (c :: tail) := by
  unfold Declaration.ofChar?
  split_ifs with hdata hcomment hdoctype
  · rw [hdata]
    exact readDeclaration_data opened tail
  · rw [hcomment]
    exact readDeclaration_comment opened tail
  · exact readDeclaration_doctype opened hdoctype tail
  · rw [not_or] at hdoctype
    unfold readDeclaration
    split <;> simp_all

/-- A declaration that was read to its end: which one it is by its first character, and how it was read. -/
theorem exists_of_readDeclaration (h : (readDeclaration opened cs).rest? = some rest) :
    ∃ c tail d content t?, cs = c :: tail ∧ Declaration.ofChar? c = some d ∧
      cutMarkup d.closes [] (c :: tail) = some (content, rest) ∧ d.meaning content = .ok t? ∧
      readDeclaration opened (c :: tail) = t?.elim (.skip rest) fun t => .token t opened rest := by
  cases cs with
  | nil => cases h
  | cons c tail =>
    rw [readDeclaration_eq] at h
    cases hkind : Declaration.ofChar? c with
    | none =>
      rw [hkind] at h
      cases h
    | some d =>
      rw [hkind, Option.elim_some, Declaration.read] at h
      rcases hcut : cutMarkup d.closes [] (c :: tail) with _ | ⟨content, behind⟩
      · rw [hcut] at h
        cases h
      · rw [hcut] at h
        dsimp only at h
        rcases hmeaning : d.meaning content with e | t?
        · rw [hmeaning] at h
          cases h
        · have hbehind : behind = rest := by
            rw [hmeaning] at h
            cases t? <;> exact Option.some.inj h
          subst hbehind
          refine ⟨c, tail, d, content, t?, rfl, hkind, hcut, hmeaning, ?_⟩
          rw [readDeclaration_eq, hkind, Option.elim_some, Declaration.read, hcut]
          dsimp only
          rw [hmeaning]
          cases t? <;> rfl

theorem readDeclaration_decided (h : (readDeclaration opened cs).rest? = some rest) :
    Decided (readDeclaration opened) cs := by
  obtain ⟨c, tail, d, content, -, rfl, hkind, hcut, -, -⟩ := exists_of_readDeclaration h
  obtain ⟨front, hne, heq, hfront⟩ := cutMarkup_decided hcut
  have hdecided : Decided (d.read opened) (c :: tail) :=
    ⟨front, rest, hne, heq, heq ▸ Declaration.read_replace hfront opened rest⟩
  refine hdecided.congr fun s => ?_
  rw [readDeclaration_eq, hkind]
  rfl

theorem ofChar?_cases {c : Char} {d : Declaration} (h : Declaration.ofChar? c = some d) :
    d = .data ∨ d = .comment ∨ d = .doctype := by
  unfold Declaration.ofChar? at h
  split_ifs at h <;> cases h <;> simp

theorem Declaration.eq_text_of_meaning {d : Declaration} {c : Char} {t : Token} {content : List Char}
    (hd : Declaration.ofChar? c = some d) (h : d.meaning content = .ok (some t)) : ∃ text, t = .text text := by
  rcases ofChar?_cases hd with rfl | rfl | rfl
  · dsimp only [Declaration.data] at h
    split at h
    · cases h
      exact ⟨_, rfl⟩
    · cases h
  · dsimp only [Declaration.comment] at h
    split at h <;> cases h
  · dsimp only [Declaration.doctype] at h
    split at h
    · split at h <;> cases h
    · cases h

theorem readDeclaration_ne_close {name : String} (cs : List Char) :
    readDeclaration opened cs ≠ .token (.close name) within rest := by
  intro h
  obtain ⟨c, tail, d, content, t?, rfl, hkind, -, hmeaning, hread⟩ :=
    exists_of_readDeclaration (congrArg Step.rest? h)
  rw [hread] at h
  cases t? with
  | none => cases h
  | some t =>
    obtain ⟨text, rfl⟩ := Declaration.eq_text_of_meaning hkind hmeaning
    cases h

/-! ## Tags and instructions -/

/-- The name in an end tag, read behind `</`. -/
def closedName (cs : List Char) : String :=
  let trimmed := Text.trimEndWith isTagSpace (upTo '>' cs).1
  String.ofList (if trimmed.isEmpty then (upTo '>' cs).1 else trimmed)

theorem readClose_cons (inner : String) (outer : List String) (cs : List Char) :
    readClose (inner :: outer) cs = if closedName cs = inner then .token (.close (closedName cs)) outer (upTo '>' cs).2
      else .stop (.failed (.wrongEnd inner (closedName cs))) := rfl

/-- An end tag that has its `>` does not depend on what stands behind that. -/
theorem readClose_replace (h : '>' ∉ content) (opened : List String) (s s' : List Char) :
    readClose opened (content ++ '>' :: s') = (readClose opened (content ++ '>' :: s)).withRest s' := by
  cases opened with
  | nil =>
    rw [readClose, readClose, upTo_append h, upTo_append h]
    rfl
  | cons inner outer =>
    have hname : closedName (content ++ '>' :: s') = closedName (content ++ '>' :: s) := by
      rw [closedName, closedName, upTo_append h, upTo_append h]
    rw [readClose_cons, readClose_cons, hname, upTo_append h, upTo_append h]
    split <;> rfl

theorem readClose_decided (h : '>' ∈ cs) (opened : List String) : Decided (readClose opened) cs := by
  obtain ⟨content, rest, rfl, hcontent⟩ := List.eq_append_cons_of_mem h
  refine ⟨content ++ ['>'], rest, by simp, by simp, fun s => ?_⟩
  rw [List.append_assoc, List.singleton_append]
  exact readClose_replace hcontent opened rest s

theorem readInstruction_replace (h : '>' ∉ content) (s s' : List Char) :
    readInstruction (content ++ '>' :: s') = (readInstruction (content ++ '>' :: s)).withRest s' := by
  rw [readInstruction, readInstruction, upTo_append h, upTo_append h]
  dsimp only
  split <;> rfl

theorem readInstruction_decided (h : '>' ∈ cs) : Decided readInstruction cs := by
  obtain ⟨content, rest, rfl, hcontent⟩ := List.eq_append_cons_of_mem h
  refine ⟨content ++ ['>'], rest, by simp, by simp, fun s => ?_⟩
  rw [List.append_assoc, List.singleton_append]
  exact readInstruction_replace hcontent rest s

theorem readStart_replace (h : ∀ s, cutTag none (cs ++ s) = some (content, s)) (opened : List String)
    (s s' : List Char) : readStart opened (cs ++ s') = (readStart opened (cs ++ s)).withRest s' := by
  rw [readStart, readStart, h, h]
  dsimp only
  split <;> rfl

theorem readStart_decided (h : (readStart opened cs).rest? = some rest) : Decided (readStart opened) cs := by
  rcases hcut : cutTag none cs with _ | ⟨content, behind⟩
  · rw [readStart, hcut] at h
    cases h
  · obtain ⟨front, hne, rfl, hfront⟩ := cutTag_decided hcut
    exact ⟨front, behind, hne, rfl, readStart_replace hfront opened behind⟩

theorem mem_of_readClose (h : (readClose opened cs).rest? = some rest) (hrest : rest ≠ []) : '>' ∈ cs := by
  apply mem_of_upTo
  cases opened with
  | nil => cases h
  | cons inner outer =>
    rw [readClose_cons] at h
    split at h
    · cases h
      exact hrest
    · cases h

theorem mem_of_readInstruction (h : (readInstruction cs).rest? = some rest) (hrest : rest ≠ []) : '>' ∈ cs := by
  apply mem_of_upTo
  unfold readInstruction at h
  dsimp only at h
  split at h
  · cases h
    exact hrest
  · cases h

theorem readMarkup_decided (h : (readMarkup opened cs).rest? = some rest) (hrest : rest ≠ []) :
    Decided (readMarkup opened) cs := by
  cases cs with
  | nil => cases h
  | cons c tail =>
    by_cases hbang : c = '!'
    · subst hbang
      have hdeclaration : (readDeclaration opened tail).rest? = some rest := h
      exact (readDeclaration_decided hdeclaration).cons fun _ => rfl
    by_cases hslash : c = '/'
    · subst hslash
      have hclose : (readClose opened tail).rest? = some rest := h
      exact (readClose_decided (mem_of_readClose hclose hrest) opened).cons fun _ => rfl
    by_cases hmark : c = '?'
    · subst hmark
      exact (readInstruction_decided (mem_of_readInstruction h hrest)).congr fun _ => rfl
    · have hstart := readMarkup_eq_readStart ⟨hbang, hslash, hmark⟩ opened
      rw [hstart] at h
      exact (readStart_decided h).congr hstart

theorem exists_of_readMarkup_close {name : String} (h : readMarkup opened cs = .token (.close name) within rest) :
    ∃ tag, cs = '/' :: tag ∧ opened = name :: within := by
  cases cs with
  | nil => cases h
  | cons c tail =>
    by_cases hbang : c = '!'
    · subst hbang
      exact absurd h (readDeclaration_ne_close tail)
    by_cases hslash : c = '/'
    · subst hslash
      change readClose opened tail = _ at h
      cases opened with
      | nil => cases h
      | cons inner outer =>
        rw [readClose_cons] at h
        split at h
        · next hname =>
          cases h
          exact ⟨tail, rfl, by rw [hname]⟩
        · cases h
    by_cases hmark : c = '?'
    · subst hmark
      change readInstruction ('?' :: tail) = _ at h
      unfold readInstruction at h
      dsimp only at h
      split at h <;> cases h
    · rw [readMarkup_eq_readStart ⟨hbang, hslash, hmark⟩] at h
      unfold readStart at h
      split at h
      · cases h
      · dsimp only at h
        split at h <;> cases h

/-! ## Steps -/

theorem dropWhile_append_of_cons {p : Char → Bool} {c : Char} (h : input.dropWhile p = c :: cs) (s : List Char) :
    (input ++ s).dropWhile p = c :: (cs ++ s) := by
  rw [List.dropWhile_append, h, List.isEmpty_cons, if_neg Bool.false_ne_true, List.cons_append]

/-- What `next` reads does not depend on what stands behind it, if only that begins as before. -/
theorem next_replace (h : (next opened input).rest? = some rest) (hrest : rest ≠ []) :
    ∃ front, input = front ++ rest ∧ ∀ s, s.head? = rest.head? →
      next opened (front ++ s) = (next opened input).withRest s := by
  cases htail : input.dropWhile isSpace with
  | nil =>
    rw [next_of_nil htail] at h
    cases h
  | cons c cs =>
    by_cases hc : c = '<'
    · subst hc
      have hblank : ∀ c ∈ input.takeWhile isSpace, isSpace c = true := fun _ => List.mem_takeWhile_imp
      have hinput := List.takeWhile_append_dropWhile (p := isSpace) (l := input)
      rw [htail] at hinput
      generalize input.takeWhile isSpace = blanks at hblank hinput
      rw [next_of_markup htail] at h ⊢
      obtain ⟨front, behind, -, rfl, hfront⟩ := readMarkup_decided h hrest
      have hself := hfront behind
      have hbehind : behind = rest := by
        cases hstep : readMarkup opened (front ++ behind) with
        | stop => rw [hstep] at h; cases h
        | skip => rw [hstep] at h hself; cases h; cases hself; rfl
        | token => rw [hstep] at h hself; cases h; cases hself; rfl
      refine ⟨blanks ++ '<' :: front, by simp [← hinput, hbehind], fun s _ => ?_⟩
      rw [← hfront s]
      refine next_of_markup ?_ opened
      rw [List.append_assoc, List.dropWhile_append_of_pos hblank]
      rfl
    · have hmarkup : '<' ∈ c :: cs := by
        by_contra hnone
        have hall : ∀ d ∈ c :: cs, decide (d ≠ '<') = true := fun d hd => decide_eq_true fun heq => hnone (heq ▸ hd)
        rw [next_of_text htail hc, List.dropWhile_eq_nil_iff.2 hall] at h
        split at h
        · cases h
          exact hrest rfl
        · cases h
      have hmem : '<' ∈ input := (List.dropWhile_suffix isSpace).subset (htail ▸ hmarkup)
      obtain ⟨run, markup, rfl, hlt⟩ := List.eq_append_cons_of_mem hmem
      have hne : Text.trimWith isSpace run ≠ [] := fun hnil => by
        rw [List.dropWhile_append_of_pos (Text.trimWith_eq_nil_iff.1 hnil)] at htail
        exact hc (List.cons.inj htail).1.symm
      rw [next_run hlt hne] at h ⊢
      cases hcontent : unescape (Text.trimWith isSpace run) with
      | error e =>
        rw [hcontent] at h
        cases h
      | ok content =>
        rw [hcontent] at h
        cases h
        refine ⟨run, rfl, fun s hs => ?_⟩
        obtain ⟨markup', rfl⟩ := List.head?_eq_some_iff.1 hs
        rw [next_run hlt hne, hcontent]
        rfl

theorem next_close_extend {tag : List Char} (h : input.dropWhile isSpace = '<' :: '/' :: tag) (hclosed : '>' ∈ tag)
    (opened : List String) (s : List Char) : next opened (input ++ s) = (next opened input).extend s := by
  rw [next_of_markup h, next_of_markup (dropWhile_append_of_cons h s)]
  have hclose : Decided (readMarkup opened) ('/' :: tag) := (readClose_decided hclosed opened).cons fun _ => rfl
  exact hclose.extend s

theorem exists_of_next_close {name : String} (h : next opened input = .token (.close name) within rest) :
    ∃ tag, input.dropWhile isSpace = '<' :: '/' :: tag ∧ opened = name :: within := by
  cases hinput : input.dropWhile isSpace with
  | nil =>
    rw [next_of_nil hinput] at h
    cases h
  | cons c cs =>
    by_cases hc : c = '<'
    · subst hc
      rw [next_of_markup hinput] at h
      obtain ⟨tag, rfl, hopened⟩ := exists_of_readMarkup_close h
      exact ⟨tag, rfl, hopened⟩
    · rw [next_of_text hinput hc] at h
      split at h <;> cases h

/-- Where an end tag was read, there still is one for the same tag when `s` follows, or the document fails. -/
theorem next_close_or_stop {name : String} (h : next opened input = .token (.close name) within rest) (s : List Char) :
    (∃ rest, next opened (input ++ s) = .token (.close name) within rest) ∨
      ∃ ending, next opened (input ++ s) = .stop ending := by
  obtain ⟨tag, htag, rfl⟩ := exists_of_next_close h
  have hclose : readMarkup (name :: within) ('/' :: tag ++ s) = readClose (name :: within) (tag ++ s) := rfl
  rw [next_of_markup (dropWhile_append_of_cons htag s), hclose, readClose_cons]
  by_cases hname : closedName (tag ++ s) = name
  · rw [if_pos hname, hname]
    exact .inl ⟨_, rfl⟩
  · rw [if_neg hname]
    exact .inr ⟨_, rfl⟩

/-! ## Many steps -/

/-- Tokens that are read one after the other until something is left. -/
inductive Scans : List String → List Char → List Token → List String → List Char → Prop where
  | nil (opened : List String) (input : List Char) : Scans opened input [] opened input
  | skip {opened within : List String} {input between rest : List Char} {tokens : List Token}
    (h : next opened input = .skip between) (hrest : Scans opened between tokens within rest) :
    Scans opened input tokens within rest
  | token {opened between within : List String} {input behind rest : List Char} {t : Token} {tokens : List Token}
    (h : next opened input = .token t between behind) (hrest : Scans between behind tokens within rest) :
    Scans opened input (t :: tokens) within rest

theorem Scans.tokensFrom {tokens : List Token} (h : Scans opened input tokens within rest) :
    tokensFrom opened input = (tokensFrom within rest).behind tokens := by
  induction h with
  | nil => rfl
  | skip h _ ih =>
    rw [tokensFrom_eq, h]
    exact ih
  | token h _ ih =>
    rw [tokensFrom_eq, h]
    dsimp only
    rw [ih]
    rfl

/-- The token `t` of a document is read at some place, behind the tokens of `front`. -/
theorem exists_scans {front behind : List Token} (h : (tokensFrom opened input).tokens = front ++ t :: behind) :
    ∃ within rest opened' rest', Scans opened input front within rest ∧ next within rest = .token t opened' rest' ∧
      (tokensFrom opened' rest').tokens = behind := by
  induction opened, input using tokensFrom.induct generalizing front with
  | case1 opened input ending hnext =>
    rw [tokensFrom_eq, hnext] at h
    simp at h
  | case2 opened input rest hnext ih =>
    rw [tokensFrom_eq, hnext] at h
    obtain ⟨within, rest', opened', behind', hscans, hat⟩ := ih h
    exact ⟨within, rest', opened', behind', .skip hnext hscans, hat⟩
  | case3 opened input t' opened' rest hnext ih =>
    rw [tokensFrom_eq, hnext] at h
    change t' :: (Xml.tokensFrom opened' rest).tokens = _ at h
    cases front with
    | nil =>
      cases h
      exact ⟨opened, input, opened', rest, .nil _ _, hnext, rfl⟩
    | cons first front =>
      rw [List.cons_append, List.cons.injEq] at h
      obtain ⟨within, rest', opened'', behind', hscans, hat⟩ := ih h.2
      exact ⟨within, rest', opened'', behind', h.1 ▸ .token hnext hscans, hat⟩

theorem Scans.rest_eq_nil {tokens : List Token} (h : Scans opened [] tokens within rest) : rest = [] := by
  have hnext : next opened [] = .stop .finished := next_of_nil rfl opened
  cases h with
  | nil => rfl
  | skip h => rw [hnext] at h; cases h
  | token h => rw [hnext] at h; cases h

/-- Tokens stay as they are when something else follows that begins as before. -/
theorem Scans.replace {tokens : List Token} (h : Scans opened input tokens within rest) (hrest : rest ≠ []) :
    ∃ front, input = front ++ rest ∧ ∀ s, s.head? = rest.head? → Scans opened (front ++ s) tokens within s := by
  -- The front is that of the first step and that of all others; what follows the first step begins as before.
  have hhead {front s : List Char} (h : s.head? = rest.head?) : (front ++ s).head? = (front ++ rest).head? := by
    cases front with
    | nil => exact h
    | cons => rfl
  induction h with
  | nil => exact ⟨[], rfl, fun s _ => .nil _ s⟩
  | @skip _ _ _ between _ _ h hscans ih =>
    have hbetween : between ≠ [] := by
      rintro rfl
      exact hrest hscans.rest_eq_nil
    obtain ⟨front, hinput, hfront⟩ := next_replace (by rw [h]; rfl) hbetween
    obtain ⟨front', rfl, hfront'⟩ := ih hrest hhead
    refine ⟨front ++ front', by rw [hinput, List.append_assoc], fun s hs => ?_⟩
    rw [List.append_assoc]
    refine .skip ?_ (hfront' s hs)
    rw [hfront _ (hhead hs), h]
    rfl
  | @token _ _ _ _ behind _ _ _ h hscans ih =>
    have hbehind : behind ≠ [] := by
      rintro rfl
      exact hrest hscans.rest_eq_nil
    obtain ⟨front, hinput, hfront⟩ := next_replace (by rw [h]; rfl) hbehind
    obtain ⟨front', rfl, hfront'⟩ := ih hrest hhead
    refine ⟨front ++ front', by rw [hinput, List.append_assoc], fun s hs => ?_⟩
    rw [List.append_assoc]
    refine .token ?_ (hfront' s hs)
    rw [hfront _ (hhead hs), h]
    rfl

/-- Tokens stay as they are when the document goes on, if something is left behind them. -/
theorem Scans.extend {tokens : List Token} (h : Scans opened input tokens within rest) (hrest : rest ≠ [])
    (s : List Char) : Scans opened (input ++ s) tokens within (rest ++ s) := by
  obtain ⟨front, rfl, hfront⟩ := h.replace hrest
  rw [List.append_assoc]
  exact hfront _ (List.head?_append_of_ne_nil rest hrest)

/-- A token is read at one place. -/
theorem Scans.unique {tokens : List Token} {within' : List String} {rest' : List Char}
    (h : Scans opened input tokens within rest) (h' : Scans opened input tokens within' rest')
    {t t' : Token} {after after' : List String} {behind behind' : List Char}
    (hnext : next within rest = .token t after behind) (hnext' : next within' rest' = .token t' after' behind') :
    within = within' ∧ rest = rest' := by
  induction h with
  | nil =>
    cases h' with
    | nil => exact ⟨rfl, rfl⟩
    | skip hskip => rw [hnext] at hskip; cases hskip
  | skip hskip _ ih =>
    cases h' with
    | nil => rw [hnext'] at hskip; cases hskip
    | skip hskip' hscans =>
      rw [hskip] at hskip'
      cases hskip'
      exact ih hscans hnext
    | token htoken => rw [hskip] at htoken; cases htoken
  | token htoken _ ih =>
    cases h' with
    | skip hskip => rw [htoken] at hskip; cases hskip
    | token htoken' hscans =>
      rw [htoken] at htoken'
      cases htoken'
      exact ih hscans hnext

/-! ## Whole documents -/

/-- A document without its byte order mark. -/
def body (document : String) : List Char := match document.toList with
  | '\ufeff' :: rest => rest
  | cs => cs

theorem tokens_eq (document : String) : tokens document = tokensFrom [] (body document) := by
  unfold tokens body
  split <;> simp_all

/-- The tokens of a document start with those that `Scans` has passed. -/
theorem Scans.tokens_eq {document : String} {front : List Token} (h : Scans [] (body document) front opened rest) :
    tokens document = (Xml.tokensFrom opened rest).behind front := by
  rw [Xml.tokens_eq, h.tokensFrom]

theorem body_append {p : String} (h : body p ≠ []) (s : String) : body (p ++ s) = body p ++ s.toList := by
  unfold body at h ⊢
  rw [String.toList_append]
  split at h
  · next hmark => rw [hmark]; rfl
  · next hmark =>
    obtain ⟨c, cs, hcs⟩ := List.exists_cons_of_ne_nil h
    have hc : c ≠ '\ufeff' := fun heq => hmark cs (heq ▸ hcs)
    rw [hcs, List.cons_append]
    split
    · next heq => exact absurd (List.cons.inj heq).1 hc
    · rfl

end SpacewalkAcquire.Xml
