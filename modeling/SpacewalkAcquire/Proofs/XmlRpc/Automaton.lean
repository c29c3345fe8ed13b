import SpacewalkAcquire.XmlRpc.Response

/-!
# What the automaton of responses can do

* `Position.Moves p t next` : the token `t` fits at `p` and leads to `next`;
* `Position.moves_of_step`, `Moves.step` : these are the steps of the automaton;
* `Position.resume` : the run behind a move; `run_eq_ok` : a run that gives a value makes a move and goes on;
* `run_scalar`, `exists_of_run_scalar`, `run_nameText`, `exists_of_run_nameText` : texts come in pieces up to an end
  tag.
-/

namespace SpacewalkAcquire.XmlRpc

open Xml (Token)

def pieces (texts : List String) : List Token := texts.map Token.text

namespace Position

/-! ## Moves -/

/-- The tokens that fit at a position, and where `step` leads from there. -/
inductive Moves : Position → Token → Progress → Prop
  | response : Moves .response (.start "methodResponse") (.at .body)
  | params : Moves .body (.start "params") (.at .param)
  | fault : Moves .body (.start "fault") (.at .outermost)
  | param : Moves .param (.start "param") (.at .outermost)
  | outermost : Moves .outermost (.start "value") (.at (.value []))
  | text {around : List Frame} (content : String) :
      Moves (.value around) (.text content) (.at (.valueEnd (.string content) around))
  | blank {around : List Frame} : Moves (.value around) (.close "value") (behind (.string "") around)
  | empty {around : List Frame} (name : String) :
      Moves (.value around) (.empty name) (.at (.valueEnd (ofEmpty name) around))
  | typed {around : List Frame} {name : String} {p : Position} (h : typed name around = .ok p) :
      Moves (.value around) (.start name) (.at p)
  | valueEnd {v : Value} {around : List Frame} : Moves (.valueEnd v around) (.close "value") (behind v around)
  | scalarText {type : ScalarType} {tag text : String} {around : List Frame} (content : String) :
      Moves (.scalar type tag text around) (.text content) (.at (.scalar type tag (text ++ content) around))
  | scalarEnd {type : ScalarType} {tag text : String} {around : List Frame} {v : Value} (h : type.read text = .ok v) :
      Moves (.scalar type tag text around) (.close tag) (.at (.valueEnd v around))
  | nilEnd {around : List Frame} : Moves (.nilEnd around) (.close "nil") (.at (.valueEnd .null around))
  | member {before : Bindings String Value} {around : List Frame} :
      Moves (.members before around) (.start "member") (.at (.memberName before around))
  | structEnd {before : Bindings String Value} {around : List Frame} :
      Moves (.members before around) (.close "struct") (.at (.valueEnd (.struct before) around))
  | memberName {before : Bindings String Value} {around : List Frame} :
      Moves (.memberName before around) (.start "name") (.at (.nameText before "" around))
  | nameText {before : Bindings String Value} {text : String} {around : List Frame} (content : String) :
      Moves (.nameText before text around) (.text content) (.at (.nameText before (text ++ content) around))
  | nameEnd {before : Bindings String Value} {text : String} {around : List Frame} :
      Moves (.nameText before text around) (.close "name") (.at (.memberValue before text around))
  | memberValue {before : Bindings String Value} {key : String} {around : List Frame} :
      Moves (.memberValue before key around) (.start "value") (.at (.value (.member before key :: around)))
  | memberEnd {before : Bindings String Value} {key : String} {v : Value} {around : List Frame} :
      Moves (.memberEnd before key v around) (.close "member") (.at (.members (before.insert key v) around))
  | noData {around : List Frame} : Moves (.arrayStart around) (.empty "data") (.at (.arrayEnd [] around))
  | data {around : List Frame} : Moves (.arrayStart around) (.start "data") (.at (.items [] around))
  | item {before : List Value} {around : List Frame} :
      Moves (.items before around) (.start "value") (.at (.value (.item before :: around)))
  | dataEnd {before : List Value} {around : List Frame} :
      Moves (.items before around) (.close "data") (.at (.arrayEnd before.reverse around))
  | arrayEnd {content : List Value} {around : List Frame} :
      Moves (.arrayEnd content around) (.close "array") (.at (.valueEnd (.array content) around))

variable {ending : Xml.Ending} {tokens rest : List Token} {around : List Frame} {before : Bindings String Value}
  {result v : Value}

theorem map_eq_ok {ε α β : Type} {f : α → β} {x : Except ε α} {b : β} (h : x.map f = .ok b) :
    ∃ a, x = .ok a ∧ f a = b := by
  cases x with
  | error e => cases h
  | ok a => exact ⟨a, rfl, Except.ok.inj h⟩

theorem Moves.of_ok {p : Position} {t : Token} {next next' : Progress} (h : Moves p t next) :
    (.ok next : Except Malformation Progress) = .ok next' → Moves p t next' := by
  rintro ⟨⟩
  exact h

theorem Moves.of_element {p q : Position} {name wanted : String} {next : Progress}
    (h : Moves p (.start wanted) (.at q)) : element name wanted q = .ok next → Moves p (.start name) next := by
  unfold element
  split
  · next hname => exact hname ▸ h.of_ok
  · exact nofun

/-- A token at which `step` does not fail fits. -/
theorem moves_of_step {p : Position} {t : Token} {next : Progress} : p.step t = .ok next → Moves p t next := by
  fun_cases step p t with
  | case1 => exact .of_element .response
  | case2 => exact .of_ok .params
  | case3 => exact .of_ok .fault
  | case5 => exact .of_element .param
  | case6 => exact .of_element .outermost
  | case7 around content => exact .of_ok (.text content)
  | case8 => exact .of_ok .blank
  | case10 around name => exact .of_ok (.empty name)
  | case11 around name =>
    intro h
    obtain ⟨p, htyped, rfl⟩ := map_eq_ok h
    exact .typed htyped
  | case12 => exact .of_ok .valueEnd
  | case14 type tag text around content => exact .of_ok (.scalarText content)
  | case15 =>
    intro h
    obtain ⟨v, hread, rfl⟩ := map_eq_ok h
    exact .scalarEnd hread
  | case17 => exact .of_ok .nilEnd
  | case19 => exact .of_ok .member
  | case21 => exact .of_ok .structEnd
  | case23 => exact .of_element .memberName
  | case24 before text around content => exact .of_ok (.nameText content)
  | case25 => exact .of_ok .nameEnd
  | case27 => exact .of_element .memberValue
  | case28 => exact .of_ok .memberEnd
  | case30 => exact .of_ok .noData
  | case32 => exact .of_ok .data
  | case34 => exact .of_ok .item
  | case36 => exact .of_ok .dataEnd
  | case38 => exact .of_ok .arrayEnd
  | _ => exact nofun

theorem Moves.step {p : Position} {t : Token} {next : Progress} (h : Moves p t next) : p.step t = .ok next := by
  cases h with
  | @typed around name p h =>
    show (Position.typed name around).map Progress.at = _
    rw [h]
    rfl
  | @scalarEnd type tag text around v h =>
    show (if tag = tag then (type.read text).map fun v => Progress.at (.valueEnd v around) else _) = _
    rw [if_pos rfl, h]
    rfl
  | _ => rfl

/-! ## Runs -/

def resume (ending : Xml.Ending) (tokens : List Token) : Progress → Except ResponseError Value
  | .at p => run p ending tokens
  | .done v => .ok v

theorem run_cons (p : Position) (ending : Xml.Ending) (t : Token) (rest : List Token) :
    run p ending (t :: rest) = match p.step t with
      | .error what => .error (.malformed what)
      | .ok next => resume ending rest next := by
  rw [run]
  rcases p.step t with _ | _ | _ <;> rfl

theorem run_of_moves {p : Position} {t : Token} {next : Progress} (h : Moves p t next) :
    run p ending (t :: rest) = resume ending rest next := by
  rw [run_cons, h.step]

/-- A run that gives a value makes a move and goes on. -/
theorem run_eq_ok {p : Position} :
    run p ending tokens = .ok result ↔
      ∃ t rest next, tokens = t :: rest ∧ Moves p t next ∧ resume ending rest next = .ok result := by
  constructor
  · intro h
    cases tokens with
    | nil => cases ending <;> cases h
    | cons t rest =>
      rw [run_cons] at h
      cases hstep : p.step t with
      | error what =>
        rw [hstep] at h
        cases h
      | ok next =>
        rw [hstep] at h
        exact ⟨t, rest, next, rfl, moves_of_step hstep, h⟩
  · rintro ⟨t, rest, next, rfl, hmoves, h⟩
    rw [run_of_moves hmoves, h]

/-! ## Texts in pieces -/

/-- The pieces of a scalar are put together, and given to `type.read` at its end tag. -/
theorem run_scalar {type : ScalarType} {tag text : String} (texts : List String)
    (h : type.read (text ++ String.join texts) = .ok v) :
    run (.scalar type tag text around) ending (pieces texts ++ .close tag :: rest) =
      run (.valueEnd v around) ending rest := by
  induction texts generalizing text with
  | nil =>
    rw [String.join_nil, String.append_empty] at h
    exact run_of_moves (.scalarEnd h)
  | cons piece texts ih =>
    rw [String.join_cons, ← String.append_assoc] at h
    exact (run_of_moves (.scalarText piece)).trans (ih h)

/-- A scalar that is read comes in pieces up to its end tag. -/
theorem exists_of_run_scalar {type : ScalarType} {tag text : String}
    (h : run (.scalar type tag text around) ending tokens = .ok result) :
    ∃ texts v rest, tokens = pieces texts ++ .close tag :: rest ∧ type.read (text ++ String.join texts) = .ok v ∧
      run (.valueEnd v around) ending rest = .ok result := by
  induction tokens generalizing text with
  | nil => cases ending <;> cases h
  | cons t tokens ih =>
    obtain ⟨t, rest, next, htokens, hmoves, hresume⟩ := run_eq_ok.1 h
    cases htokens
    cases hmoves with
    | scalarText content =>
      obtain ⟨texts, v, rest, rfl, hread, hrun⟩ := ih hresume
      refine ⟨content :: texts, v, rest, rfl, ?_, hrun⟩
      rw [String.join_cons, ← String.append_assoc, hread]
    | @scalarEnd _ _ _ _ v hread =>
      refine ⟨[], v, tokens, rfl, ?_, hresume⟩
      rw [String.join_nil, String.append_empty, hread]

theorem run_nameText {text : String} (texts : List String) :
    run (.nameText before text around) ending (pieces texts ++ .close "name" :: rest) =
      run (.memberValue before (text ++ String.join texts) around) ending rest := by
  induction texts generalizing text with
  | nil =>
    rw [String.join_nil, String.append_empty]
    exact run_of_moves .nameEnd
  | cons piece texts ih =>
    rw [String.join_cons, ← String.append_assoc, ← ih]
    exact run_of_moves (.nameText piece)

theorem exists_of_run_nameText {text : String}
    (h : run (.nameText before text around) ending tokens = .ok result) :
    ∃ texts rest, tokens = pieces texts ++ .close "name" :: rest ∧
      run (.memberValue before (text ++ String.join texts) around) ending rest = .ok result := by
  induction tokens generalizing text with
  | nil => cases ending <;> cases h
  | cons t tokens ih =>
    obtain ⟨t, rest, next, htokens, hmoves, hresume⟩ := run_eq_ok.1 h
    cases htokens
    cases hmoves with
    | nameText content =>
      obtain ⟨texts, rest, rfl, hrun⟩ := ih hresume
      refine ⟨content :: texts, rest, rfl, ?_⟩
      rw [String.join_cons, ← String.append_assoc, hrun]
    | nameEnd =>
      refine ⟨[], tokens, rfl, ?_⟩
      rw [String.join_nil, String.append_empty]
      exact hresume

end Position

end SpacewalkAcquire.XmlRpc
