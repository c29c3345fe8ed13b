import SpacewalkAcquire.Proofs.XmlRpc.Automaton

/-!
# The grammar of responses

The tokens that make up a value, by recursion over the value and without any automaton.

* `Content tokens v` : `tokens` is what stands between `<value>` and the end of its end tag, and `v` its meaning;
* `Element name tokens v`, `Members tokens pairs`, `Items tokens items` : the same for a typed element, for the members
  of a struct and for the items of an array;
* `Position.run_content` : the automaton reads what the grammar describes, wherever it stands;
* `Position.exists_content` : and nothing else;
* `decode_grammar` : values and faults of responses are those of the grammar.
-/

namespace SpacewalkAcquire.XmlRpc

open Xml (Token)

/-- Members behind those of `before`, one after the other: a repeated name keeps its place and takes the last value. -/
def bindAll (before : Bindings String Value) (pairs : List (String × Value)) : Bindings String Value :=
  pairs.foldl (fun m p => Bindings.insert m p.1 p.2) before

mutual

/-- What stands behind `<value>`, the end tag included. -/
inductive Content : List Token → Value → Prop
  | untyped (text : String) : Content [.text text, .close "value"] (.string text)
  | blank : Content [.close "value"] (.string "")
  | emptyNil : Content [.empty "nil", .close "value"] .null
  | emptyStruct : Content [.empty "struct", .close "value"] (.struct [])
  | emptyArray : Content [.empty "array", .close "value"] (.array [])
  | emptyOther {name : String} (h : name ∉ ["nil", "struct", "array"]) :
      Content [.empty name, .close "value"] (.string "")
  | typed {name : String} {inner : List Token} {v : Value} (h : Element name inner v) :
      Content (.start name :: (inner ++ [.close "value"])) v

/-- What stands behind the start tag of a type, its end tag included. -/
inductive Element : String → List Token → Value → Prop
  | string {name : String} (texts : List String) (h : name ∈ ["string", "dateTime.iso8601", "base64"]) :
      Element name (pieces texts ++ [.close name]) (.string (String.join texts))
  | integer {name : String} {n : Int} (texts : List String) (h : name ∈ ["int", "i4", "i8"])
      (hn : Text.readInteger? (Text.trim (String.join texts)).toList = some n) :
      Element name (pieces texts ++ [.close name]) (.integer n (Text.trim (String.join texts)))
  | boolean (texts : List String) :
      Element "boolean" (pieces texts ++ [.close "boolean"]) (.boolean (Text.trim (String.join texts) = "1"))
  | double {bits : UInt64} (texts : List String) (h : Binary64.read? (Text.trim (String.join texts)) = some bits) :
      Element "double" (pieces texts ++ [.close "double"]) (.double bits (Text.trim (String.join texts)))
  | nil : Element "nil" [.close "nil"] .null
  | struct {inner : List Token} {pairs : List (String × Value)} (h : Members inner pairs) :
      Element "struct" (inner ++ [.close "struct"]) (.struct (bindAll [] pairs))
  | noData : Element "array" [.empty "data", .close "array"] (.array [])
  | array {inner : List Token} {items : List Value} (h : Items inner items) :
      Element "array" (.start "data" :: (inner ++ [.close "data", .close "array"])) (.array items)

inductive Members : List Token → List (String × Value) → Prop
  | nil : Members [] []
  | cons {texts : List String} {inner rest : List Token} {v : Value} {pairs : List (String × Value)}
      (h : Content inner v) (hrest : Members rest pairs) :
      Members (.start "member" :: .start "name" :: (pieces texts ++ .close "name" :: .start "value" ::
        (inner ++ .close "member" :: rest))) ((String.join texts, v) :: pairs)

inductive Items : List Token → List Value → Prop
  | nil : Items [] []
  | cons {inner rest : List Token} {v : Value} {items : List Value} (h : Content inner v) (hrest : Items rest items) :
      Items (.start "value" :: (inner ++ rest)) (v :: items)

end

namespace Position

variable {ending : Xml.Ending}

/-! ## The automaton reads what the grammar describes -/

theorem run_valueEnd (v : Value) (around : List Frame) (ending : Xml.Ending) (rest : List Token) :
    run (.valueEnd v around) ending (.close "value" :: rest) = resume ending rest (behind v around) :=
  run_of_moves .valueEnd

theorem ofEmpty_of_not_mem {name : String} (h : name ∉ ["nil", "struct", "array"]) : ofEmpty name = .string "" := by
  simp only [List.mem_cons, List.not_mem_nil, or_false, not_or] at h
  rw [ofEmpty, if_neg h.1, if_neg h.2.1, if_neg h.2.2]

theorem run_empty (name : String) (around : List Frame) (ending : Xml.Ending) (rest : List Token) :
    run (.value around) ending (.empty name :: .close "value" :: rest) =
      resume ending rest (behind (ofEmpty name) around) :=
  (run_of_moves (.empty name)).trans (run_valueEnd _ _ _ _)

theorem run_start {name : String} {around : List Frame} {p : Position} (h : typed name around = .ok p)
    (ending : Xml.Ending) (rest : List Token) :
    run (.value around) ending (.start name :: rest) = run p ending rest :=
  run_of_moves (.typed h)

theorem typed_of_ofName? {name : String} {type : ScalarType} (h : ScalarType.ofName? name = some type)
    (around : List Frame) : typed name around = .ok (.scalar type name "" around) := by
  rw [typed, h]

theorem ofName?_of_text {name : String} (h : name ∈ ["string", "dateTime.iso8601", "base64"]) :
    ScalarType.ofName? name = some .string := by
  simp only [List.mem_cons, List.not_mem_nil, or_false] at h
  rcases h with rfl | rfl | rfl <;> decide

theorem ofName?_of_integer {name : String} (h : name ∈ ["int", "i4", "i8"]) :
    ScalarType.ofName? name = some .integer := by
  simp only [List.mem_cons, List.not_mem_nil, or_false] at h
  rcases h with rfl | rfl | rfl <;> decide

theorem run_typed_scalar {name : String} (type : ScalarType) {texts : List String} {v : Value}
    (hname : ScalarType.ofName? name = some type) (hread : type.read (String.join texts) = .ok v)
    (around : List Frame) (ending : Xml.Ending) (rest : List Token) :
    ∃ p, typed name around = .ok p ∧
      run p ending (pieces texts ++ [.close name] ++ rest) = run (.valueEnd v around) ending rest := by
  refine ⟨_, typed_of_ofName? hname around, ?_⟩
  rw [List.append_assoc, List.singleton_append]
  exact run_scalar texts (by rwa [String.empty_append])

mutual

/-- Wherever a value may stand, `run` reads the `Content` of one and goes on behind it. -/
theorem run_content {tokens : List Token} {v : Value} (h : Content tokens v) (around : List Frame)
    (ending : Xml.Ending) (rest : List Token) :
    run (.value around) ending (tokens ++ rest) = resume ending rest (behind v around) := by
  cases h with
  | untyped text =>
    exact (run_of_moves (.text text)).trans (run_valueEnd _ _ _ _)
  | blank => exact run_of_moves .blank
  | emptyNil => exact run_empty "nil" around ending rest
  | emptyStruct => exact run_empty "struct" around ending rest
  | emptyArray => exact run_empty "array" around ending rest
  | @emptyOther name h =>
    rw [← ofEmpty_of_not_mem h]
    exact run_empty name around ending rest
  | @typed name inner _ h =>
    obtain ⟨p, hp, hrun⟩ := run_element h around ending (.close "value" :: rest)
    rw [List.cons_append, run_start hp, List.append_assoc, List.singleton_append, hrun, run_valueEnd]
termination_by tokens.length
decreasing_by simp only [List.length_cons, List.length_append]; omega

theorem run_element {name : String} {tokens : List Token} {v : Value} (h : Element name tokens v)
    (around : List Frame) (ending : Xml.Ending) (rest : List Token) :
    ∃ p, typed name around = .ok p ∧ run p ending (tokens ++ rest) = run (.valueEnd v around) ending rest := by
  cases h with
  | string texts h => exact run_typed_scalar _ (ofName?_of_text h) rfl around ending rest
  | integer texts h hn =>
    refine run_typed_scalar _ (ofName?_of_integer h) ?_ around ending rest
    simp only [ScalarType.read, hn]
  | boolean texts => exact run_typed_scalar .boolean (by decide) rfl around ending rest
  | double texts h =>
    refine run_typed_scalar .double (by decide) ?_ around ending rest
    simp only [ScalarType.read, h]
  | nil => exact ⟨.nilEnd around, rfl, run_of_moves .nilEnd⟩
  | @struct inner pairs h =>
    refine ⟨.members [] around, rfl, ?_⟩
    rw [List.append_assoc, run_members h]
    exact run_of_moves .structEnd
  | noData =>
    refine ⟨.arrayStart around, rfl, ?_⟩
    refine (run_of_moves .noData).trans ?_
    exact run_of_moves .arrayEnd
  | @array inner items h =>
    refine ⟨.arrayStart around, rfl, ?_⟩
    simp only [List.cons_append, List.append_assoc, List.nil_append]
    rw [run_of_moves .data, resume, run_items h]
    rw [run_of_moves .dataEnd, resume, List.append_nil, List.reverse_reverse]
    exact run_of_moves .arrayEnd
termination_by tokens.length
decreasing_by all_goals simp only [List.length_cons, List.length_append]; omega

theorem run_members {tokens : List Token} {pairs : List (String × Value)} (h : Members tokens pairs)
    (before : Bindings String Value) (around : List Frame) (ending : Xml.Ending) (rest : List Token) :
    run (.members before around) ending (tokens ++ rest) =
      run (.members (bindAll before pairs) around) ending rest := by
  cases h with
  | nil => rfl
  | @cons texts inner others v pairs h hrest =>
    simp only [List.cons_append, List.append_assoc]
    rw [run_of_moves .member, resume, run_of_moves .memberName]
    rw [resume, run_nameText texts, String.empty_append, run_of_moves .memberValue]
    rw [resume, run_content h, behind, resume, run_of_moves .memberEnd]
    rw [resume, run_members hrest, bindAll, bindAll, List.foldl_cons]
termination_by tokens.length
decreasing_by all_goals simp only [List.length_cons, List.length_append]; omega

theorem run_items {tokens : List Token} {items : List Value} (h : Items tokens items)
    (before : List Value) (around : List Frame) (ending : Xml.Ending) (rest : List Token) :
    run (.items before around) ending (tokens ++ rest) = run (.items (items.reverse ++ before) around) ending rest := by
  cases h with
  | nil => rfl
  | @cons inner others v items h hrest =>
    simp only [List.cons_append, List.append_assoc]
    rw [run_of_moves .item, resume, run_content h, behind, resume, run_items hrest]
    rw [List.reverse_cons, List.append_assoc, List.singleton_append]
termination_by tokens.length
decreasing_by all_goals simp only [List.length_cons, List.length_append]; omega

end

/-! ## The automaton reads nothing else -/

theorem typed_eq_ok {name : String} {around : List Frame} {p : Position} :
    typed name around = .ok p ↔
      (∃ type, ScalarType.ofName? name = some type ∧ p = .scalar type name "" around) ∨
      (name = "nil" ∧ p = .nilEnd around) ∨ (name = "struct" ∧ p = .members [] around) ∨
      (name = "array" ∧ p = .arrayStart around) := by
  constructor
  · intro h
    unfold typed at h
    split at h
    · next type htype => exact .inl ⟨type, htype, (Except.ok.inj h).symm⟩
    · split at h
      · next hname => exact .inr (.inl ⟨hname, (Except.ok.inj h).symm⟩)
      · split at h
        · next hname => exact .inr (.inr (.inl ⟨hname, (Except.ok.inj h).symm⟩))
        · split at h
          · next hname => exact .inr (.inr (.inr ⟨hname, (Except.ok.inj h).symm⟩))
          · cases h
  · rintro (⟨type, htype, rfl⟩ | ⟨rfl, rfl⟩ | ⟨rfl, rfl⟩ | ⟨rfl, rfl⟩)
    · exact typed_of_ofName? htype around
    · rfl
    · rfl
    · rfl

theorem element_of_read {name : String} {type : ScalarType} {texts : List String} {v : Value}
    (hname : ScalarType.ofName? name = some type) (hread : type.read (String.join texts) = .ok v) :
    Element name (pieces texts ++ [.close name]) v := by
  unfold ScalarType.ofName? at hname
  unfold ScalarType.read at hread
  split at hname
  · next h =>
    cases hname
    cases hread
    exact .string texts (by simpa [or_assoc] using h)
  · split at hname
    · next h =>
      cases hname
      dsimp only at hread
      cases hn : Text.readInteger? (Text.trim (String.join texts)).toList with
      | none =>
        rw [hn] at hread
        cases hread
      | some n =>
        rw [hn] at hread
        cases hread
        exact .integer texts (by simpa [or_assoc] using h) hn
    · split at hname
      · next h =>
        subst h
        cases hname
        cases hread
        exact .boolean texts
      · split at hname
        · next h =>
          subst h
          cases hname
          dsimp only at hread
          cases hbits : Binary64.read? (Text.trim (String.join texts)) with
          | none =>
            rw [hbits] at hread
            cases hread
          | some bits =>
            rw [hbits] at hread
            cases hread
            exact .double texts hbits
        · cases hname

theorem content_of_empty (name : String) : Content [.empty name, .close "value"] (ofEmpty name) := by
  by_cases h : name ∈ ["nil", "struct", "array"]
  · simp only [List.mem_cons, List.not_mem_nil, or_false] at h
    rcases h with rfl | rfl | rfl
    · exact .emptyNil
    · exact .emptyStruct
    · exact .emptyArray
  · rw [ofEmpty_of_not_mem h]
    exact .emptyOther h

-- Each of the following looks at what is left of the tokens after another one has read its part, so the induction is
-- on their number; an element may begin with its members at once, hence the factor.
mutual

/-- A run that reads a value reads the `Content` of one first. -/
theorem exists_content {tokens : List Token} {around : List Frame} {result : Value}
    (h : run (.value around) ending tokens = .ok result) :
    ∃ content v rest, tokens = content ++ rest ∧ Content content v ∧
      resume ending rest (behind v around) = .ok result := by
  obtain ⟨t, others, next, htokens, hmoves, hresume⟩ := run_eq_ok.1 h
  have hothers : others.length < tokens.length := by
    rw [htokens]
    exact Nat.lt_succ_self _
  cases hmoves with
  | text content =>
    obtain ⟨_, rest, _, rfl, ⟨⟩, hrest⟩ := run_eq_ok.1 hresume
    exact ⟨_, _, rest, htokens, .untyped content, hrest⟩
  | blank => exact ⟨_, _, others, htokens, .blank, hresume⟩
  | empty name =>
    obtain ⟨_, rest, _, rfl, ⟨⟩, hrest⟩ := run_eq_ok.1 hresume
    exact ⟨_, _, rest, htokens, content_of_empty name, hrest⟩
  | @typed _ name p hp =>
    obtain ⟨inner, v, behindInner, rfl, helement, hrun⟩ := exists_element hp hresume
    obtain ⟨_, rest, _, rfl, ⟨⟩, hrest⟩ := run_eq_ok.1 hrun
    refine ⟨.start name :: (inner ++ [.close "value"]), v, rest, ?_, .typed helement, hrest⟩
    rw [htokens, List.cons_append, List.append_assoc, List.singleton_append]
termination_by 2 * tokens.length

theorem exists_element {tokens : List Token} {name : String} {around : List Frame} {p : Position} {result : Value}
    (hp : typed name around = .ok p) (h : run p ending tokens = .ok result) :
    ∃ inner v rest, tokens = inner ++ rest ∧ Element name inner v ∧
      run (.valueEnd v around) ending rest = .ok result := by
  rcases typed_eq_ok.1 hp with ⟨type, htype, rfl⟩ | ⟨rfl, rfl⟩ | ⟨rfl, rfl⟩ | ⟨rfl, rfl⟩
  · obtain ⟨texts, v, rest, htokens, hread, hrun⟩ := exists_of_run_scalar h
    rw [String.empty_append] at hread
    refine ⟨_, v, rest, ?_, element_of_read htype hread, hrun⟩
    rw [htokens, List.append_assoc, List.singleton_append]
  · obtain ⟨_, rest, _, htokens, ⟨⟩, hrest⟩ := run_eq_ok.1 h
    exact ⟨_, _, rest, htokens, .nil, hrest⟩
  · obtain ⟨inner, pairs, rest, htokens, hmembers, hrun⟩ := exists_members h
    refine ⟨inner ++ [.close "struct"], .struct (bindAll [] pairs), rest, ?_, .struct hmembers, hrun⟩
    rw [htokens, List.append_assoc, List.singleton_append]
  · obtain ⟨t, others, next, htokens, hmoves, hresume⟩ := run_eq_ok.1 h
    have hothers : others.length < tokens.length := by
      rw [htokens]
      exact Nat.lt_succ_self _
    cases hmoves with
    | noData =>
      obtain ⟨_, rest, _, rfl, ⟨⟩, hrest⟩ := run_eq_ok.1 hresume
      exact ⟨_, _, rest, htokens, .noData, hrest⟩
    | data =>
      obtain ⟨inner, items, rest, rfl, hitems, hrun⟩ := exists_items hresume
      refine ⟨.start "data" :: (inner ++ [.close "data", .close "array"]), _, rest, ?_, .array hitems, hrun⟩
      simp only [htokens, List.cons_append, List.append_assoc, List.nil_append]
termination_by 2 * tokens.length + 1

theorem exists_members {tokens : List Token} {before : Bindings String Value} {around : List Frame} {result : Value}
    (h : run (.members before around) ending tokens = .ok result) :
    ∃ inner pairs rest, tokens = inner ++ .close "struct" :: rest ∧ Members inner pairs ∧
      run (.valueEnd (.struct (bindAll before pairs)) around) ending rest = .ok result := by
  obtain ⟨t, others, next, htokens, hmoves, hresume⟩ := run_eq_ok.1 h
  cases hmoves with
  | member =>
    obtain ⟨_, behindStart, _, rfl, ⟨⟩, h₁⟩ := run_eq_ok.1 hresume
    obtain ⟨texts, behindName, rfl, h₂⟩ := exists_of_run_nameText h₁
    obtain ⟨_, behindValue, _, rfl, ⟨⟩, h₃⟩ := run_eq_ok.1 h₂
    have hvalue : behindValue.length < tokens.length := by
      simp only [htokens, List.length_cons, List.length_append]
      omega
    obtain ⟨content, v, behindContent, rfl, hcontent, h₄⟩ := exists_content h₃
    obtain ⟨_, others, _, rfl, ⟨⟩, h₅⟩ := run_eq_ok.1 h₄
    have hothers : others.length < tokens.length := by
      simp only [htokens, List.length_cons, List.length_append]
      omega
    obtain ⟨inner, pairs, rest, rfl, hmembers, hrun⟩ := exists_members h₅
    rw [String.empty_append] at hrun
    refine ⟨_, _, rest, ?_, .cons hcontent hmembers, hrun⟩
    simp only [htokens, List.cons_append, List.append_assoc]
  | structEnd => exact ⟨[], [], others, htokens, .nil, hresume⟩
termination_by 2 * tokens.length

theorem exists_items {tokens : List Token} {before : List Value} {around : List Frame} {result : Value}
    (h : run (.items before around) ending tokens = .ok result) :
    ∃ inner items rest, tokens = inner ++ .close "data" :: .close "array" :: rest ∧ Items inner items ∧
      run (.valueEnd (.array (before.reverse ++ items)) around) ending rest = .ok result := by
  obtain ⟨t, others, next, htokens, hmoves, hresume⟩ := run_eq_ok.1 h
  have hothers : others.length < tokens.length := by
    rw [htokens]
    exact Nat.lt_succ_self _
  cases hmoves with
  | item =>
    obtain ⟨content, v, behindContent, rfl, hcontent, h₁⟩ := exists_content hresume
    have hbehind : behindContent.length < tokens.length := by
      rw [List.length_append] at hothers
      omega
    obtain ⟨inner, items, rest, rfl, hitems, hrun⟩ := exists_items h₁
    refine ⟨.start "value" :: (content ++ inner), v :: items, rest, ?_, .cons hcontent hitems, ?_⟩
    · simp only [htokens, List.cons_append, List.append_assoc]
    · rwa [List.reverse_cons, List.append_assoc, List.singleton_append] at hrun
  | dataEnd =>
    obtain ⟨_, rest, _, rfl, ⟨⟩, hrest⟩ := run_eq_ok.1 hresume
    refine ⟨[], [], rest, htokens, .nil, ?_⟩
    rw [List.append_nil]
    exact hrest
termination_by 2 * tokens.length

end

/-! ## Whole responses -/

theorem map_eq_error_iff {ε α β : Type} {f : α → β} {x : Except ε α} {e : ε} :
    x.map f = .error e ↔ x = .error e := by
  cases x <;> simp [Except.map]

theorem read_ne_faultNotStruct (type : ScalarType) (text : String) :
    type.read text ≠ .error .faultNotStruct := by
  cases type with
  | string => simp [ScalarType.read]
  | boolean => simp [ScalarType.read]
  | integer =>
    dsimp only [ScalarType.read]
    cases Text.readInteger? (Text.trim text).toList <;> simp
  | double =>
    dsimp only [ScalarType.read]
    cases Binary64.read? (Text.trim text) <;> simp

theorem typed_ne_faultNotStruct (name : String) (around : List Frame) :
    typed name around ≠ .error .faultNotStruct := by
  unfold typed
  split
  · simp
  · split
    · simp
    · split
      · simp
      · split <;> simp

theorem step_ne_faultNotStruct (p : Position) (t : Token) : p.step t ≠ .error .faultNotStruct := by
  intro h
  unfold step at h
  split at h
  all_goals grind [element, map_eq_error_iff, read_ne_faultNotStruct, typed_ne_faultNotStruct]

/-- A run fails because of a token that does not fit, or with the document. -/
theorem run_eq_error {p : Position} {tokens : List Token} {e : ResponseError} (h : run p ending tokens = .error e) :
    (∃ what, e = .malformed what ∧ what ≠ .faultNotStruct) ∨
      ∃ failure, e = .xml failure ∧ ending = .failed failure := by
  induction tokens generalizing p with
  | nil =>
    cases ending with
    | finished =>
      cases h
      exact .inl ⟨_, rfl, Malformation.noConfusion⟩
    | failed failure =>
      cases h
      exact .inr ⟨failure, rfl, rfl⟩
  | cons t rest ih =>
    rw [run_cons] at h
    rcases hstep : p.step t with what | next | v
    · rw [hstep] at h
      cases h
      exact .inl ⟨what, rfl, fun hwhat => step_ne_faultNotStruct p t (hwhat ▸ hstep)⟩
    · rw [hstep] at h
      exact ih h
    · rw [hstep] at h
      cases h

end Position

def valueStart : List Token := [.start "methodResponse", .start "params", .start "param", .start "value"]

def faultStart : List Token := [.start "methodResponse", .start "fault", .start "value"]

open Position in
/-- The automaton reads a response to the end of its value, be it a result or a fault. -/
theorem run_response_eq_ok {ending : Xml.Ending} {tokens : List Token} {v : Value} :
    run .response ending tokens = .ok v ↔
      ∃ content rest, Content content v ∧
        (tokens = valueStart ++ content ++ rest ∨ tokens = faultStart ++ content ++ rest) := by
  constructor
  · intro h
    obtain ⟨_, behindResponse, _, rfl, ⟨⟩, h₁⟩ := run_eq_ok.1 h
    obtain ⟨t, others, next, rfl, hmoves, h₂⟩ := run_eq_ok.1 h₁
    cases hmoves with
    | params =>
      obtain ⟨_, behindParam, _, rfl, ⟨⟩, h₃⟩ := run_eq_ok.1 h₂
      obtain ⟨_, behindValue, _, rfl, ⟨⟩, h₄⟩ := run_eq_ok.1 h₃
      obtain ⟨content, _, rest, rfl, hcontent, ⟨⟩⟩ := exists_content h₄
      exact ⟨content, rest, hcontent, .inl rfl⟩
    | fault =>
      obtain ⟨_, behindValue, _, rfl, ⟨⟩, h₃⟩ := run_eq_ok.1 h₂
      obtain ⟨content, _, rest, rfl, hcontent, ⟨⟩⟩ := exists_content h₃
      exact ⟨content, rest, hcontent, .inr rfl⟩
  · rintro ⟨content, rest, hcontent, rfl | rfl⟩
    · refine (run_of_moves .response).trans ?_
      refine (run_of_moves .params).trans ?_
      refine (run_of_moves .param).trans ?_
      exact (run_of_moves .outermost).trans (run_content hcontent [] ending rest)
    · refine (run_of_moves .response).trans ?_
      refine (run_of_moves .fault).trans ?_
      exact (run_of_moves .outermost).trans (run_content hcontent [] ending rest)

theorem holdsFault_valueStart (rest : List Token) : holdsFault (valueStart ++ rest) = false := rfl

theorem holdsFault_faultStart (rest : List Token) : holdsFault (faultStart ++ rest) = true := rfl

/-- A response whose tokens begin with `valueStart` and a `Content` is the value of that, whatever follows. -/
theorem decode_of_value {document : String} {content rest : List Token} {v : Value}
    (htokens : (Xml.tokens document).tokens = valueStart ++ content ++ rest) (h : Content content v) :
    decode document = .ok v := by
  have hrun : Position.run .response (Xml.tokens document).ending (Xml.tokens document).tokens = .ok v :=
    run_response_eq_ok.2 ⟨content, rest, h, .inl htokens⟩
  simp only [decode, hrun]
  rw [htokens, List.append_assoc, holdsFault_valueStart]
  rfl

theorem decode_of_fault {document : String} {content rest : List Token} {v : Value}
    (htokens : (Xml.tokens document).tokens = faultStart ++ content ++ rest) (h : Content content v) :
    decode document = .error (faultOf v) := by
  have hrun : Position.run .response (Xml.tokens document).ending (Xml.tokens document).tokens = .ok v :=
    run_response_eq_ok.2 ⟨content, rest, h, .inr htokens⟩
  simp only [decode, hrun]
  rw [htokens, List.append_assoc, holdsFault_faultStart]
  rfl

/-- What `decode` can give: a value, a fault, or the error of a run that comes to no end of a value. -/
theorem decode_cases (document : String) :
    (∃ content rest v, (Xml.tokens document).tokens = valueStart ++ content ++ rest ∧ Content content v ∧
      decode document = .ok v) ∨
    (∃ content rest v, (Xml.tokens document).tokens = faultStart ++ content ++ rest ∧ Content content v ∧
      decode document = .error (faultOf v)) ∨
    ∃ e, Position.run .response (Xml.tokens document).ending (Xml.tokens document).tokens = .error e ∧
      decode document = .error e := by
  cases hrun : Position.run .response (Xml.tokens document).ending (Xml.tokens document).tokens with
  | error e =>
    refine .inr (.inr ⟨e, rfl, ?_⟩)
    simp only [decode, hrun]
  | ok v =>
    obtain ⟨content, rest, hcontent, htokens | htokens⟩ := run_response_eq_ok.1 hrun
    · exact .inl ⟨content, rest, v, htokens, hcontent, decode_of_value htokens hcontent⟩
    · exact .inr (.inl ⟨content, rest, v, htokens, hcontent, decode_of_fault htokens hcontent⟩)

/-- A value that `decode` gives stands at the start of the tokens. -/
theorem content_of_decode {document : String} {v : Value} (h : decode document = .ok v) : ∃ content rest,
    (Xml.tokens document).tokens = valueStart ++ content ++ rest ∧ Content content v := by
  rcases decode_cases document with ⟨content, rest, v', htokens, hcontent, hv⟩ | ⟨_, _, _, -, -, hv⟩ | ⟨_, -, hv⟩
  · cases h.symm.trans hv
    exact ⟨content, rest, htokens, hcontent⟩
  · cases h.symm.trans hv
  · cases h.symm.trans hv

theorem faultOf_eq_fault_iff {v : Value} {code : Int} {message : String} :
    faultOf v = .fault code message ↔ ∃ members, v = .struct members ∧
      code = ((Bindings.get? members "faultCode").bind Value.integer?).getD 0 ∧
      message = ((Bindings.get? members "faultString").bind Value.scalarText?).getD "" := by
  cases v <;> simp [faultOf, Value.members?, eq_comm]

theorem faultOf_eq_malformed_iff {v : Value} :
    faultOf v = .malformed .faultNotStruct ↔ v.members? = none := by
  cases v <;> simp [faultOf, Value.members?]

/-- What a response gives is decided by the grammar. It gives a value if its tokens begin with one in the place of a
result, and a fault if they begin with a struct in the place of a fault; what follows, be it an error, does not matter.
A fault that is no struct is malformed, and a failure of the document shows only where nothing else was wrong. -/
theorem decode_grammar (document : String) :
    (∀ v, decode document = .ok v ↔ ∃ content rest,
      (Xml.tokens document).tokens = valueStart ++ content ++ rest ∧ Content content v) ∧
    (∀ code message, decode document = .error (.fault code message) ↔ ∃ content rest members,
      (Xml.tokens document).tokens = faultStart ++ content ++ rest ∧ Content content (.struct members) ∧
      code = ((Bindings.get? members "faultCode").bind Value.integer?).getD 0 ∧
      message = ((Bindings.get? members "faultString").bind Value.scalarText?).getD "") ∧
    (decode document = .error (.malformed .faultNotStruct) ↔ ∃ content rest v,
      (Xml.tokens document).tokens = faultStart ++ content ++ rest ∧ Content content v ∧ v.members? = none) ∧
    (∀ failure, decode document = .error (.xml failure) → (Xml.tokens document).ending = .failed failure) := by
  have hcases := decode_cases document
  refine ⟨fun v => ⟨fun h => ?_, ?_⟩, fun code message => ⟨fun h => ?_, ?_⟩, ⟨fun h => ?_, ?_⟩, fun failure h => ?_⟩
  · rcases hcases with ⟨content, rest, v', htokens, hcontent, hd⟩ | ⟨_, _, _, _, _, hd⟩ | ⟨_, _, hd⟩
    · rw [h] at hd
      cases hd
      exact ⟨content, rest, htokens, hcontent⟩
    · rw [h] at hd
      cases hd
    · rw [h] at hd
      cases hd
  · rintro ⟨content, rest, htokens, hcontent⟩
    exact decode_of_value htokens hcontent
  · rcases hcases with ⟨_, _, _, _, _, hd⟩ | ⟨content, rest, v, htokens, hcontent, hd⟩ | ⟨e, hrun, hd⟩
    · rw [h] at hd
      cases hd
    · rw [h] at hd
      obtain ⟨members, rfl, hcode, hmessage⟩ := faultOf_eq_fault_iff.1 (Except.error.inj hd).symm
      exact ⟨content, rest, members, htokens, hcontent, hcode, hmessage⟩
    · rw [h] at hd
      rcases Position.run_eq_error hrun with ⟨what, rfl, -⟩ | ⟨failure, rfl, -⟩ <;> cases hd
  · rintro ⟨content, rest, members, htokens, hcontent, hcode, hmessage⟩
    rw [decode_of_fault htokens hcontent, faultOf_eq_fault_iff.2 ⟨members, rfl, hcode, hmessage⟩]
  · rcases hcases with ⟨_, _, _, _, _, hd⟩ | ⟨content, rest, v, htokens, hcontent, hd⟩ | ⟨e, hrun, hd⟩
    · rw [h] at hd
      cases hd
    · rw [h] at hd
      exact ⟨content, rest, v, htokens, hcontent, faultOf_eq_malformed_iff.1 (Except.error.inj hd).symm⟩
    · rw [h] at hd
      cases hd
      rcases Position.run_eq_error hrun with ⟨what, hwhat, hne⟩ | ⟨failure, hfailure, -⟩
      · cases hwhat
        exact (hne rfl).elim
      · cases hfailure
  · rintro ⟨content, rest, v, htokens, hcontent, hv⟩
    rw [decode_of_fault htokens hcontent, faultOf_eq_malformed_iff.2 hv]
  · rcases hcases with ⟨_, _, _, _, _, hd⟩ | ⟨_, _, v, _, _, hd⟩ | ⟨e, hrun, hd⟩
    · rw [h] at hd
      cases hd
    · rw [h] at hd
      cases hv : v.members? <;> simp [faultOf, hv] at hd
    · rw [h] at hd
      cases hd
      rcases Position.run_eq_error hrun with ⟨what, hwhat, -⟩ | ⟨failure', hfailure, hending⟩
      · cases hwhat
      · cases hfailure
        exact hending

end SpacewalkAcquire.XmlRpc
