import SpacewalkAcquire.Text.Blank
import SpacewalkAcquire.Text.Split
import SpacewalkAcquire.Xml.Escape

/-!
# Tokens of XML documents

* `Xml.Token` : start tags, empty tags, end tags and pieces of text;
* `Xml.next` : what stands at the start of a text: a token, something without meaning, or an end;
* `Xml.tokens` : all tokens of a document, and whether it ended well.

Comments, declarations, processing instructions and document types carry nothing, but they divide text. Text loses
the white space at its ends before its references are resolved; white space alone is no token. Every end tag has to
match the start tag that is innermost then.
-/

namespace SpacewalkAcquire.Xml

inductive XmlError where
  /-- What stands behind `<!` starts nothing. -/
  | badDeclaration (c : Char)
  /-- The document ends within markup, or markup is none of the kind that it starts as. -/
  | unfinished (kind : String)
  | emptyDoctype
  | wrongEnd (wanted found : String)
  | reference (e : ReferenceError)
  deriving DecidableEq, Repr

def XmlError.message : XmlError → String
  | badDeclaration c =>
    "Only Comment (`--`), CDATA (`[CDATA[`) and DOCTYPE (`DOCTYPE`) nodes can start with a '!', but symbol `" ++
      String.singleton c ++ "` found"
  | unfinished kind => s!"Unexpected EOF during reading {kind}"
  | emptyDoctype => "DOCTYPE declaration must not be empty"
  | wrongEnd wanted found => s!"Expecting </{wanted}> found </{found}>"
  | reference e => e.message

inductive Token where
  | start (name : String)
  | empty (name : String)
  | close (name : String)
  | text (content : String)
  deriving DecidableEq, Repr

inductive Ending where
  | finished
  | failed (e : XmlError)
  deriving DecidableEq, Repr

/-- White space between tokens: space, tab, and the ends of lines. -/
def isSpace (c : Char) : Bool := c == ' ' || c == '\t' || c == '\r' || c == '\n'

/-- White space that an end tag loses; the form feed belongs to it. -/
def isTagSpace (c : Char) : Bool := isSpace c || c == '\x0c'

/-- The parts before and after the first character that is `c`; all of the text if there is none. -/
def upTo (c : Char) (cs : List Char) : List Char × List Char := (Text.cutAt c cs).getD (cs, [])

/-- The parts before and after the first `>` at which the text before it, held backwards, closes. -/
def cutMarkup (closes : List Char → Bool) : List Char → List Char → Option (List Char × List Char)
  | _, [] => none
  | before, c :: rest =>
    if c = '>' && closes before then some (before.reverse, rest) else cutMarkup closes (c :: before) rest

/-- The parts before and after the first `>` that is not quoted. -/
def cutTag : Option Char → List Char → Option (List Char × List Char)
  | _, [] => none
  | none, c :: rest =>
    if c = '>' then some ([], rest)
    else (cutTag (if c = '"' || c = '\x27' then some c else none) rest).map fun p => (c :: p.1, p.2)
  | some q, c :: rest => (cutTag (if c = q then none else some q) rest).map fun p => (c :: p.1, p.2)

/-- The rest of a text behind `start`, which is compared without regard to capitals. -/
def stripStartFolded? (start : List Char) (cs : List Char) : Option (List Char) :=
  if Text.asciiLower (cs.take start.length) = Text.asciiLower start then some (cs.drop start.length) else none

/-- What stands at the start of a text. -/
inductive Step where
  | stop (ending : Ending)
  /-- Something without meaning. -/
  | skip (rest : List Char)
  /-- A token; the tags that are open behind it, the innermost first. -/
  | token (t : Token) (opened : List String) (rest : List Char)

def readDeclaration (opened : List String) (cs : List Char) : Step :=
  match cs with
  | [] => .stop (.failed (.unfinished "Bang"))
  | '[' :: _ =>
    match cutMarkup (fun before => before.take 2 = [']', ']']) [] cs with
    | none => .stop (.failed (.unfinished "CData"))
    | some (content, rest) =>
      match stripStartFolded? "[CDATA[".toList content.dropLast.dropLast with
      | some text => .token (.text (String.ofList text)) opened rest
      | none => .stop (.failed (.unfinished "CData"))
  | '-' :: _ =>
    match cutMarkup (fun before => 4 ≤ before.length && before.take 2 = ['-', '-']) [] cs with
    | some ('-' :: '-' :: _, rest) => .skip rest
    | _ => .stop (.failed (.unfinished "Comment"))
  | 'D' :: _ | 'd' :: _ =>
    match cutMarkup (fun before => before.count '<' = before.count '>') [] cs with
    | none => .stop (.failed (.unfinished "DOCTYPE"))
    | some (content, rest) =>
      match stripStartFolded? "DOCTYPE".toList content with
      | some text => if text.all isSpace then .stop (.failed .emptyDoctype) else .skip rest
      | none => .stop (.failed (.unfinished "DOCTYPE"))
  | c :: _ => .stop (.failed (.badDeclaration (firstByte c)))

def readClose (opened : List String) (cs : List Char) : Step :=
  let (content, rest) := upTo '>' cs
  let trimmed := Text.trimEndWith isTagSpace content
  let name := String.ofList (if trimmed.isEmpty then content else trimmed)
  match opened with
  | [] => .stop (.failed (.wrongEnd "" (String.ofList content)))
  | inner :: outer =>
    if name = inner then .token (.close name) outer rest else .stop (.failed (.wrongEnd inner name))

/-- A declaration or processing instruction, read behind `<`. -/
def readInstruction (cs : List Char) : Step :=
  let (content, rest) := upTo '>' cs
  if 2 < content.length && content.getLast? = some '?' then .skip rest
  else .stop (.failed (.unfinished "XmlDecl"))

def readStart (opened : List String) (cs : List Char) : Step :=
  match cutTag none cs with
  | none => .stop (.failed (.unfinished "Element"))
  | some (content, rest) =>
    let name := content.takeWhile fun c => !isSpace c
    if content.getLast? = some '/' then
      .token (.empty (String.ofList (if name.length < content.length then name else content.dropLast))) opened rest
    else .token (.start (String.ofList name)) (String.ofList name :: opened) rest

def readMarkup (opened : List String) (cs : List Char) : Step :=
  match cs with
  | [] => .stop .finished
  | '!' :: rest => readDeclaration opened rest
  | '/' :: rest => readClose opened rest
  | '?' :: _ => readInstruction cs
  | _ => readStart opened cs

/-- What stands at the start of `input`, given the tags that are `opened`, the innermost first. -/
def next (opened : List String) (input : List Char) : Step :=
  match input.dropWhile isSpace with
  | [] => .stop .finished
  | '<' :: rest => readMarkup opened rest
  | cs =>
    let text := cs.takeWhile (· ≠ '<')
    match unescape (Text.trimEndWith isSpace text) with
    | .ok content => .token (.text content) opened (cs.dropWhile (· ≠ '<'))
    | .error e => .stop (.failed (.reference e))

theorem cutMarkup_length {closes : List Char → Bool} {before cs content rest : List Char}
    (h : cutMarkup closes before cs = some (content, rest)) : rest.length < cs.length := by
  induction cs generalizing before with
  | nil => simp [cutMarkup] at h
  | cons c cs ih =>
    simp only [cutMarkup] at h
    split at h
    · simp only [Option.some.injEq, Prod.mk.injEq] at h
      simp [← h.2]
    · have := ih h
      simp only [List.length_cons]
      omega

theorem cutTag_length {quoted : Option Char} {cs content rest : List Char}
    (h : cutTag quoted cs = some (content, rest)) : rest.length < cs.length := by
  induction cs generalizing quoted content with
  | nil => cases quoted <;> simp [cutTag] at h
  | cons c cs ih =>
    simp only [List.length_cons]
    cases quoted with
    | none =>
      simp only [cutTag] at h
      split at h
      · simp only [Option.some.injEq, Prod.mk.injEq] at h
        simp [← h.2]
      · obtain ⟨⟨a, b⟩, hb, he⟩ := Option.map_eq_some_iff.1 h
        simp only [Prod.mk.injEq] at he
        have := ih (he.2 ▸ hb)
        omega
    | some q =>
      simp only [cutTag] at h
      obtain ⟨⟨a, b⟩, hb, he⟩ := Option.map_eq_some_iff.1 h
      simp only [Prod.mk.injEq] at he
      have := ih (he.2 ▸ hb)
      omega

theorem upTo_length {c : Char} {cs content rest : List Char} (h : upTo c cs = (content, rest)) :
    rest.length ≤ cs.length := by
  unfold upTo at h
  cases hc : Text.cutAt c cs with
  | none =>
    simp only [hc, Option.getD_none, Prod.mk.injEq] at h
    simp [← h.2]
  | some p =>
    obtain ⟨a, b⟩ := p
    simp only [hc, Option.getD_some, Prod.mk.injEq] at h
    obtain ⟨rfl, _⟩ := Text.cutAt_eq_some_iff.1 hc
    simp [← h.2]
    omega

def Step.rest? : Step → Option (List Char)
  | stop _ => none
  | skip rest => some rest
  | token _ _ rest => some rest

theorem readDeclaration_length {opened : List String} {cs rest : List Char}
    (h : (readDeclaration opened cs).rest? = some rest) : rest.length < cs.length := by
  unfold readDeclaration at h
  split at h
  · simp [Step.rest?] at h
  · split at h
    · simp [Step.rest?] at h
    · next hc =>
      split at h
      · simp only [Step.rest?, Option.some.injEq] at h; exact h ▸ cutMarkup_length hc
      · simp [Step.rest?] at h
  · split at h
    · next hc => simp only [Step.rest?, Option.some.injEq] at h; exact h ▸ cutMarkup_length hc
    · simp [Step.rest?] at h
  · split at h
    · simp [Step.rest?] at h
    · next hc =>
      split at h
      · split at h
        · simp [Step.rest?] at h
        · simp only [Step.rest?, Option.some.injEq] at h; exact h ▸ cutMarkup_length hc
      · simp [Step.rest?] at h
  · split at h
    · simp [Step.rest?] at h
    · next hc =>
      split at h
      · split at h
        · simp [Step.rest?] at h
        · simp only [Step.rest?, Option.some.injEq] at h; exact h ▸ cutMarkup_length hc
      · simp [Step.rest?] at h
  · simp [Step.rest?] at h

theorem readClose_length {opened : List String} {cs rest : List Char}
    (h : (readClose opened cs).rest? = some rest) : rest.length ≤ cs.length := by
  unfold readClose at h
  rcases hu : upTo '>' cs with ⟨content, behind⟩
  have := upTo_length hu
  rw [hu] at h
  cases opened with
  | nil => simp [Step.rest?] at h
  | cons inner outer =>
    dsimp only at h
    generalize String.ofList _ = name at h
    by_cases hn : name = inner
    · rw [if_pos hn] at h
      simp only [Step.rest?, Option.some.injEq] at h
      exact h ▸ this
    · rw [if_neg hn] at h
      simp [Step.rest?] at h

theorem readMarkup_length {opened : List String} {cs rest : List Char}
    (h : (readMarkup opened cs).rest? = some rest) : rest.length ≤ cs.length := by
  unfold readMarkup at h
  split at h
  · simp [Step.rest?] at h
  · have := readDeclaration_length h
    simp only [List.length_cons]
    omega
  · next cs =>
    have := readClose_length h
    simp only [List.length_cons]
    omega
  · next cs =>
    unfold readInstruction at h
    rcases hu : upTo '>' ('?' :: cs) with ⟨content, rest'⟩
    have := upTo_length hu
    simp only [hu] at h
    split at h
    · simp only [Step.rest?, Option.some.injEq] at h
      exact h ▸ this
    · simp [Step.rest?] at h
  · unfold readStart at h
    split at h
    · simp [Step.rest?] at h
    · next hc =>
      have := cutTag_length hc
      simp only at h
      split at h
      · simp only [Step.rest?, Option.some.injEq] at h
        subst h; omega
      · simp only [Step.rest?, Option.some.injEq] at h
        subst h; omega

theorem length_dropWhile_le (p : Char → Bool) (cs : List Char) : (cs.dropWhile p).length ≤ cs.length :=
  (List.dropWhile_sublist p).length_le

theorem next_length {opened : List String} {input rest : List Char}
    (h : (next opened input).rest? = some rest) : rest.length < input.length := by
  have hs := length_dropWhile_le isSpace input
  unfold next at h
  split at h
  · simp [Step.rest?] at h
  · next r he =>
    have := readMarkup_length h
    rw [he] at hs
    simp only [List.length_cons] at hs
    omega
  · next hne hlt =>
    dsimp only at h
    split at h
    · simp only [Step.rest?, Option.some.injEq] at h
      cases hd : input.dropWhile isSpace with
      | nil => exact absurd hd hne
      | cons c cs =>
        rw [hd] at h hs hlt
        have hc : c ≠ '<' := fun e => hlt cs (by rw [e])
        rw [List.dropWhile_cons, if_pos (by simpa using hc)] at h
        have := length_dropWhile_le (· ≠ '<') cs
        rw [h] at this
        simp only [List.length_cons] at hs
        omega
    · simp [Step.rest?] at h

structure Document where
  tokens : List Token
  ending : Ending
  deriving DecidableEq, Repr

def Document.cons (t : Token) (d : Document) : Document := { d with tokens := t :: d.tokens }

def tokensFrom (opened : List String) (input : List Char) : Document :=
  match _h : next opened input with
  | .stop ending => ⟨[], ending⟩
  | .skip rest => tokensFrom opened rest
  | .token t opened rest => (tokensFrom opened rest).cons t
termination_by input.length
decreasing_by all_goals exact next_length (by rw [_h]; rfl)

/-- The tokens of a document; a byte order mark at its start does not count. -/
def tokens (document : String) : Document :=
  match document.toList with
  | '\ufeff' :: rest => tokensFrom [] rest
  | cs => tokensFrom [] cs

end SpacewalkAcquire.Xml
