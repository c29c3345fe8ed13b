import SpacewalkAcquire.Proofs.Xml.Scanning
import SpacewalkAcquire.Proofs.XmlRpc.Grammar

/-!
# Responses that were cut off

* `Position.Completes p tokens v` : from `p` the automaton takes all of `tokens`, and then has the value `v`;
* `Position.exists_completes`, `Position.Completes.run` : a run that gives a value takes such tokens first;
* `Position.Completes.unique`, `Position.Completes.run_front` : they are determined, and none can be missing;
* `OutermostEnd document tag` : the end tag of the outermost value is where `tag` stands behind `</`;
* `decode_cut_off` : a response that was cut off gives no other answer than the whole;
* `decode_cut_off_unclosed` : one that was cut off just before its last `>`, and gives an answer.

All tokens but the last are read with something left behind them, so more text does not change them. The last one is
an end tag: more text completes its name to the same, or the document fails there.
-/

namespace SpacewalkAcquire.XmlRpc

open Xml (Token)

namespace Position

variable {p : Position} {tokens tokens' rest rest' : List Token} {t : Token} {v v' : Value} {ending : Xml.Ending}

/-- The automaton takes all of the tokens, and gives the value at the last one. -/
inductive Completes : Position → List Token → Value → Prop
  | last {p : Position} {t : Token} {v : Value} (h : Moves p t (.done v)) : Completes p [t] v
  | move {p q : Position} {t : Token} {tokens : List Token} {v : Value} (h : Moves p t (.at q))
      (hrest : Completes q tokens v) : Completes p (t :: tokens) v

theorem exists_completes (h : run p ending tokens = .ok v) :
    ∃ taken rest, tokens = taken ++ rest ∧ Completes p taken v := by
  induction tokens generalizing p with
  | nil => cases ending <;> cases h
  | cons t tokens ih =>
    obtain ⟨_, _, next, ⟨⟩, hmoves, hresume⟩ := run_eq_ok.1 h
    rcases next with q | v'
    · obtain ⟨taken, rest, rfl, hcompletes⟩ := ih hresume
      exact ⟨t :: taken, rest, rfl, .move hmoves hcompletes⟩
    · cases hresume
      exact ⟨[t], tokens, rfl, .last hmoves⟩

theorem Completes.run (h : Completes p tokens v) (ending : Xml.Ending) (rest : List Token) :
    Position.run p ending (tokens ++ rest) = .ok v := by
  induction h with
  | last h => exact run_of_moves h
  | move h _ ih => exact (run_of_moves h).trans ih

/-- No run takes less than another one. -/
theorem Completes.unique (h : Completes p tokens v) (h' : Completes p tokens' v')
    (heq : tokens ++ rest = tokens' ++ rest') : tokens = tokens' := by
  induction h generalizing tokens' with
  | last h =>
    cases h' with
    | last h' =>
      obtain rfl := (List.cons.inj heq).1
      rfl
    | move h' =>
      obtain rfl := (List.cons.inj heq).1
      have hstep := h.step.symm.trans h'.step
      cases hstep
  | move h _ ih =>
    cases h' with
    | last h' =>
      obtain rfl := (List.cons.inj heq).1
      have hstep := h.step.symm.trans h'.step
      cases hstep
    | move h' hrest' =>
      obtain ⟨rfl, hbehind⟩ := List.cons.inj heq
      have hstep := h.step.symm.trans h'.step
      cases hstep
      rw [ih hrest' hbehind]

/-- A run that misses the last token gives no value. -/
theorem Completes.run_front (h : Completes p (tokens ++ [t]) v) (ending : Xml.Ending) :
    Position.run p ending tokens ≠ .ok v' := by
  intro hrun
  obtain ⟨taken, rest, htokens, htaken⟩ := exists_completes hrun
  have hboth : tokens ++ [t] ++ [] = taken ++ (rest ++ [t]) := by
    rw [List.append_nil, htokens, List.append_assoc]
  have hlength := congrArg List.length htokens
  rw [← h.unique htaken hboth, List.length_append, List.length_append, List.length_singleton] at hlength
  omega

theorem Moves.eq_close {next : Progress} (h : Moves p t next) (hdone : next = .done v) : t = .close "value" := by
  cases h with
  | blank => rfl
  | valueEnd => rfl
  | _ => cases hdone

theorem Completes.exists_front (h : Completes p tokens v) : ∃ front, tokens = front ++ [.close "value"] := by
  induction h with
  | last h => exact ⟨[], by rw [h.eq_close rfl]; rfl⟩
  | @move _ _ t _ _ _ _ ih =>
    obtain ⟨front, rfl⟩ := ih
    exact ⟨t :: front, rfl⟩

end Position

/-! ## The end tag of the outermost value -/

/-- A value or a `fault` of the server, and no error of the reader. -/
def Answers (result : Except ResponseError Value) : Prop :=
  (∃ v, result = .ok v) ∨ ∃ code message, result = .error (.fault code message)

/-- The outermost value of a response is complete at an end tag, where `tag` is all that stands behind `</`. -/
def OutermostEnd (document : String) (tag : List Char) : Prop :=
  ∃ front v opened rest after behind, Position.Completes .response (front ++ [.close "value"]) v ∧
    Xml.Scans [] (Xml.body document) front opened rest ∧ rest.dropWhile Xml.isSpace = '<' :: '/' :: tag ∧
    Xml.next opened rest = .token (.close "value") after behind

theorem Answers.exists_run {document : String} (h : Answers (decode document)) :
    ∃ v, Position.run .response (Xml.tokens document).ending (Xml.tokens document).tokens = .ok v := by
  cases hrun : Position.run .response (Xml.tokens document).ending (Xml.tokens document).tokens with
  | ok v => exact ⟨v, rfl⟩
  | error e =>
    have hdecode : decode document = .error e := by simp only [decode, hrun]
    rw [hdecode] at h
    rcases h with ⟨v, heq⟩ | ⟨code, message, heq⟩
    · cases heq
    · rcases Position.run_eq_error hrun with ⟨what, rfl, -⟩ | ⟨failure, rfl, -⟩ <;> cases heq

/-- What `decode` gives is decided by the tokens up to the end of the value. -/
theorem decode_congr {document document' : String} {tokens rest rest' : List Token} {v : Value}
    (h : Position.Completes .response tokens v) (htokens : (Xml.tokens document).tokens = tokens ++ rest)
    (htokens' : (Xml.tokens document').tokens = tokens ++ rest') : decode document' = decode document := by
  have hrun := h.run .finished []
  rw [List.append_nil] at hrun
  obtain ⟨content, more, hcontent, rfl | rfl⟩ := run_response_eq_ok.1 hrun
  · rw [List.append_assoc] at htokens htokens'
    rw [decode_of_value htokens hcontent, decode_of_value htokens' hcontent]
  · rw [List.append_assoc] at htokens htokens'
    rw [decode_of_fault htokens hcontent, decode_of_fault htokens' hcontent]

theorem tokens_of_scans {document : String} {front : List Token} {opened after : List String} {t : Token}
    {rest behind : List Char} (h : Xml.Scans [] (Xml.body document) front opened rest)
    (hnext : Xml.next opened rest = .token t after behind) :
    (Xml.tokens document).tokens = front ++ [t] ++ (Xml.tokensFrom after behind).tokens := by
  rw [h.tokens_eq, Xml.tokensFrom_eq opened rest, hnext, List.append_assoc]
  rfl

theorem Answers.exists_outermostEnd {document : String} (h : Answers (decode document)) :
    ∃ tag, OutermostEnd document tag := by
  obtain ⟨v, hrun⟩ := h.exists_run
  obtain ⟨taken, more, htokens, hcompletes⟩ := Position.exists_completes hrun
  obtain ⟨front, rfl⟩ := hcompletes.exists_front
  rw [Xml.tokens_eq, List.append_assoc] at htokens
  obtain ⟨opened, rest, after, behind, hscans, hnext, -⟩ := Xml.exists_scans htokens
  obtain ⟨tag, htag, -⟩ := Xml.exists_of_next_close hnext
  exact ⟨tag, front, v, opened, rest, after, behind, hcompletes, hscans, htag, hnext⟩

theorem OutermostEnd.unique {document : String} {tag tag' : List Char} (h : OutermostEnd document tag)
    (h' : OutermostEnd document tag') : tag = tag' := by
  obtain ⟨front, v, opened, rest, after, behind, hcompletes, hscans, htag, hnext⟩ := h
  obtain ⟨front', v', opened', rest', after', behind', hcompletes', hscans', htag', hnext'⟩ := h'
  have htokens := (tokens_of_scans hscans hnext).symm.trans (tokens_of_scans hscans' hnext')
  obtain rfl := List.append_cancel_right (hcompletes.unique hcompletes' htokens)
  obtain ⟨rfl, rfl⟩ := hscans.unique hscans' hnext hnext'
  rw [htag, List.cons.injEq, List.cons.injEq] at htag'
  exact htag'.2.2

/-! ## More text -/

/-- What is read before the end tag of the outermost value stays as it is when the document goes on. -/
theorem scans_append {document : String} {front : List Token} {opened after : List String} {t : Token}
    {rest behind : List Char} (h : Xml.Scans [] (Xml.body document) front opened rest)
    (hnext : Xml.next opened rest = .token t after behind) (s : String) :
    Xml.Scans [] (Xml.body (document ++ s)) front opened (rest ++ s.toList) := by
  have hrest : rest ≠ [] := by
    rintro rfl
    rw [Xml.next_of_nil rfl] at hnext
    cases hnext
  have hbody : Xml.body document ≠ [] := by
    intro hnil
    rw [hnil] at h
    exact hrest h.rest_eq_nil
  rw [Xml.body_append hbody]
  exact h.extend hrest s.toList

/-- A response whose `OutermostEnd` has its `>` gives the same when it goes on. -/
theorem OutermostEnd.decode_append {document : String} {tag : List Char} (h : OutermostEnd document tag)
    (hclosed : '>' ∈ tag) (s : String) : decode (document ++ s) = decode document := by
  obtain ⟨front, v, opened, rest, after, behind, hcompletes, hscans, htag, hnext⟩ := h
  have hnext' := Xml.next_close_extend htag hclosed opened s.toList
  rw [hnext] at hnext'
  exact decode_congr hcompletes (tokens_of_scans hscans hnext) (tokens_of_scans (scans_append hscans hnext s) hnext')

/-- Two answers, to a response and to the start of it, are the same. -/
theorem Answers.decode_append {p s : String} (h : Answers (decode p)) (h' : Answers (decode (p ++ s))) :
    decode (p ++ s) = decode p := by
  obtain ⟨tag, front, v, opened, rest, after, behind, hcompletes, hscans, -, hnext⟩ := h.exists_outermostEnd
  have hscans' := scans_append hscans hnext s
  rcases Xml.next_close_or_stop hnext s.toList with ⟨behind', hnext'⟩ | ⟨ending, hstop⟩
  · exact decode_congr hcompletes (tokens_of_scans hscans hnext) (tokens_of_scans hscans' hnext')
  · have hfront : (Xml.tokens (p ++ s)).tokens = front := by
      rw [hscans'.tokens_eq, Xml.tokensFrom_eq opened, hstop]
      exact List.append_nil front
    obtain ⟨v', hrun⟩ := h'.exists_run
    rw [hfront] at hrun
    exact absurd hrun (hcompletes.run_front _)

/-- A response that was cut off gives no other answer than the whole: where both are a value or a fault they are the
same. Every answer has one end tag at which its outermost value is complete, and if the `>` of that tag is there then
nothing behind it matters, whatever it is. -/
theorem decode_cut_off (p s : String) :
    (Answers (decode p) → Answers (decode (p ++ s)) → decode (p ++ s) = decode p) ∧
    (Answers (decode p) → ∃! tag, OutermostEnd p tag) ∧
    (∀ tag, OutermostEnd p tag → '>' ∈ tag → decode (p ++ s) = decode p) := by
  refine ⟨Answers.decode_append, fun h => ?_, fun tag h hclosed => h.decode_append hclosed s⟩
  obtain ⟨tag, htag⟩ := h.exists_outermostEnd
  exact ⟨tag, htag, fun tag' htag' => htag'.unique htag⟩

/-- The `>` at the end of a response may be missing, and with it the answer is the same; behind it, another cut is not
even seen. -/
theorem decode_cut_off_unclosed :
    let document := "<methodResponse><params><param><value>x</value"
    let closed := document ++ ">"
    (Answers (decode document) ∧ Answers (decode closed) ∧ decode closed = decode document) ∧
      (∃! tag, OutermostEnd document tag) ∧
      OutermostEnd closed "value>".toList ∧ decode (closed ++ "</param><par") = decode closed := by
  intro document closed
  have hscans : Xml.Scans [] (Xml.body document) (valueStart ++ [.text "x"])
      ["value", "param", "params", "methodResponse"] "</value".toList := by
    show Xml.Scans [] (Xml.body "<methodResponse><params><param><value>x</value") _ _ _
    exact .token rfl (.token rfl (.token rfl (.token rfl (.token rfl (.nil _ _)))))
  have hscans' : Xml.Scans [] (Xml.body closed) (valueStart ++ [.text "x"])
      ["value", "param", "params", "methodResponse"] "</value>".toList := scans_append hscans rfl ">"
  have hvalue {d : String} {tag behind : List Char} {opened : List String}
      (hscans : Xml.Scans [] (Xml.body d) (valueStart ++ [.text "x"]) ("value" :: opened) tag)
      (hnext : Xml.next ("value" :: opened) tag = .token (.close "value") opened behind) : Answers (decode d) := by
    have htokens : (Xml.tokens d).tokens =
        valueStart ++ [.text "x", .close "value"] ++ (Xml.tokensFrom opened behind).tokens :=
      tokens_of_scans hscans hnext
    exact .inl ⟨_, decode_of_value htokens (.untyped "x")⟩
  have hcut : Answers (decode document) := hvalue hscans rfl
  have hwhole : Answers (decode closed) := hvalue hscans' rfl
  have hcompletes : Position.Completes .response (valueStart ++ [.text "x"] ++ [.close "value"]) (.string "x") :=
    .move .response (.move .params (.move .param (.move .outermost (.move (.text "x") (.last .valueEnd)))))
  have hend : OutermostEnd closed "value>".toList := ⟨_, _, _, _, _, _, hcompletes, hscans', rfl, rfl⟩
  exact ⟨⟨hcut, hwhole, (decode_cut_off document ">").1 hcut hwhole⟩, (decode_cut_off document ">").2.1 hcut, hend,
    (decode_cut_off closed "</param><par").2.2 _ hend (by decide)⟩

end SpacewalkAcquire.XmlRpc
