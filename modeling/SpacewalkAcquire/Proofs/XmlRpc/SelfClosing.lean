import SpacewalkAcquire.Proofs.Xml.Pieces
import SpacewalkAcquire.Proofs.XmlRpc.Standing

/-!
# Elements without content

* `Position.SameWhenEmpty name p` : at `p`, an element that is one empty tag means what a start tag and an end tag mean;
* `Position.Moves.empty_cases`, `Position.Moves.openClose_cases` : what the automaton makes of the two forms;
* `Position.run_empty_boolean`, `Position.run_openClose_boolean` : what a boolean without content means;
* `decode_selfClosing` : where a response decodes to the same with both forms, and where not.
-/

namespace SpacewalkAcquire.XmlRpc

open Xml (Token)

namespace Position

variable {p q : Position} {name : String} {next : Progress} {around : List Frame} {ending : Xml.Ending}
  {rest : List Token} {v v' : Value}

/-- The names of the elements that mean the same in both forms, if they have no content. Within a value these are texts,
nil and structs; elsewhere, all that are not awaited there, and `data`. -/
def SameWhenEmpty (name : String) : Position → Prop
  | value _ => name ∈ ["string", "dateTime.iso8601", "base64", "nil", "struct"]
  | outermost | memberValue .. | items .. => name ≠ "value"
  | memberName .. => name ≠ "name"
  | _ => True

/-! ## The two forms -/

/-- Where an empty tag fits, start and end tag fit as well and lead to the same, if the name is `SameWhenEmpty`. -/
theorem Moves.empty_cases (h : Moves p (.empty name) next) (hsame : p.SameWhenEmpty name) :
    ∃ q, Moves p (.start name) (.at q) ∧ Moves q (.close name) next := by
  cases h with
  | empty =>
    simp only [SameWhenEmpty, List.mem_cons, List.not_mem_nil, or_false] at hsame
    rcases hsame with rfl | rfl | rfl | rfl | rfl
    · exact ⟨_, .typed rfl, .scalarEnd rfl⟩
    · exact ⟨_, .typed rfl, .scalarEnd rfl⟩
    · exact ⟨_, .typed rfl, .scalarEnd rfl⟩
    · exact ⟨_, .typed rfl, .nilEnd⟩
    · exact ⟨_, .typed rfl, .structEnd⟩
  | noData => exact ⟨_, .data, .dataEnd⟩

theorem scalar_of_read {type : ScalarType} (hname : ScalarType.ofName? name = some type) (h : type.read "" = .ok v) :
    (name ∈ ["string", "dateTime.iso8601", "base64"] ∧ v = .string "") ∨ name = "boolean" := by
  unfold ScalarType.ofName? at hname
  split at hname
  · next hstring =>
    cases hname
    cases h
    exact .inl ⟨by simpa [or_assoc] using hstring, rfl⟩
  · split at hname
    · cases hname
      cases h
    · split at hname
      · next hboolean => exact .inr hboolean
      · split at hname
        · cases hname
          cases h
        · cases hname

/-- Where start and end tag fit, the empty tag leads to the same, if the name is `SameWhenEmpty`. Else the empty tag
does not fit, or the element is a boolean. -/
theorem Moves.openClose_cases (h : Moves p (.start name) (.at q)) (h' : Moves q (.close name) next) :
    (p.SameWhenEmpty name ∧ Moves p (.empty name) next) ∨
      (¬p.SameWhenEmpty name ∧ (name = "boolean" ∨ ∀ next', ¬Moves p (.empty name) next')) := by
  cases h with
  | outermost => exact .inr ⟨not_not_intro rfl, .inr nofun⟩
  | memberName => exact .inr ⟨not_not_intro rfl, .inr nofun⟩
  | memberValue => exact .inr ⟨not_not_intro rfl, .inr nofun⟩
  | item => exact .inr ⟨not_not_intro rfl, .inr nofun⟩
  | data =>
    cases h'
    exact .inl ⟨trivial, .noData⟩
  | typed htyped =>
    rcases typed_eq_ok.1 htyped with ⟨type, htype, rfl⟩ | ⟨rfl, rfl⟩ | ⟨rfl, rfl⟩ | ⟨rfl, rfl⟩
    · cases h' with
      | scalarEnd hread =>
        rcases scalar_of_read htype hread with ⟨hname, rfl⟩ | hboolean
        · have hother : ofEmpty name = .string "" := ofEmpty_of_not_mem fun hmem => by
            simp only [List.mem_cons, List.not_mem_nil, or_false] at hname hmem
            rcases hname with rfl | rfl | rfl <;> simp at hmem
          exact .inl ⟨List.mem_append_left ["nil", "struct"] hname, hother ▸ .empty name⟩
        · refine .inr ⟨fun hsame => ?_, .inl hboolean⟩
          rw [hboolean] at hsame
          simp [SameWhenEmpty] at hsame
    · cases h'
      exact .inl ⟨by simp [SameWhenEmpty], .empty "nil"⟩
    · cases h'
      exact .inl ⟨by simp [SameWhenEmpty], .empty "struct"⟩
    · cases h'
  | _ => cases h'

theorem exists_of_run_openClose (h : run p ending (.start name :: .close name :: rest) = .ok v) :
    ∃ q next, Moves p (.start name) (.at q) ∧ Moves q (.close name) next ∧ resume ending rest next = .ok v := by
  obtain ⟨_, _, q, ⟨⟩, hstart, hbehind⟩ := run_eq_ok.1 h
  cases q with
  | done => cases hstart
  | «at» q =>
    obtain ⟨_, _, next, ⟨⟩, hclose, hresume⟩ := run_eq_ok.1 hbehind
    exact ⟨q, next, hstart, hclose, hresume⟩

/-- A run gives the same value with both forms of an element that is `SameWhenEmpty`. -/
theorem run_selfClosing (h : p.SameWhenEmpty name) :
    run p ending (.empty name :: rest) = .ok v ↔ run p ending (.start name :: .close name :: rest) = .ok v := by
  constructor
  · intro hrun
    obtain ⟨_, _, next, ⟨⟩, hempty, hresume⟩ := run_eq_ok.1 hrun
    obtain ⟨q, hstart, hclose⟩ := hempty.empty_cases h
    exact (run_of_moves hstart).trans ((run_of_moves hclose).trans hresume)
  · intro hrun
    obtain ⟨q, next, hstart, hclose, hresume⟩ := exists_of_run_openClose hrun
    rcases hstart.openClose_cases hclose with ⟨-, hempty⟩ | ⟨hother, -⟩
    · exact (run_of_moves hempty).trans hresume
    · exact absurd h hother

/-- For other elements, booleans apart, a run gives a value with one of the forms only. -/
theorem run_selfClosing_failed (h : ¬p.SameWhenEmpty name) (hboolean : name ≠ "boolean")
    (hempty : run p ending (.empty name :: rest) = .ok v) :
    run p ending (.start name :: .close name :: rest) ≠ .ok v' := by
  intro hrun
  obtain ⟨_, _, _, ⟨⟩, hmoves, -⟩ := run_eq_ok.1 hempty
  obtain ⟨q, next, hstart, hclose, -⟩ := exists_of_run_openClose hrun
  rcases hstart.openClose_cases hclose with ⟨hsame, -⟩ | ⟨-, hname | hnone⟩
  · exact h hsame
  · exact hboolean hname
  · exact hnone _ hmoves

theorem run_empty_boolean : run (.value around) ending (.empty "boolean" :: rest) =
    run (.value around) ending (.empty "string" :: rest) :=
  (run_of_moves (.empty "boolean")).trans (run_of_moves (.empty "string")).symm

theorem run_boolean (texts : List String) {b : Bool} (h : decide (Text.trim (String.join texts) = "1") = b) :
    run (.value around) ending (.start "boolean" :: (pieces texts ++ .close "boolean" :: rest)) =
      run (.valueEnd (.boolean b) around) ending rest := by
  refine (run_of_moves (.typed (typed_of_ofName? rfl around))).trans (run_scalar texts ?_)
  rw [String.empty_append, ← h]
  rfl

theorem run_openClose_boolean : run (.value around) ending (.start "boolean" :: .close "boolean" :: rest) =
    run (.value around) ending (.start "boolean" :: .text "0" :: .close "boolean" :: rest) :=
  (run_boolean [] (b := false) (by decide)).trans (run_boolean ["0"] (by decide)).symm

end Position

/-- A response gives the same answer whether an element without content is one empty tag or a start tag and an end tag,
if at the place of the element both mean the same, or the response has failed or ended before. Elsewhere at most one of
the two gives an answer at all, except for booleans: one empty tag is what an empty tag of a string is, the empty text,
and start tag and end tag are what a boolean `0` is, false. -/
theorem decode_selfClosing {name attributes front back : String} {tokens : List Token} {opened : List String}
    (hname : Xml.IsName name) (hattributes : Xml.IsAttributes attributes)
    (h : Xml.Meets front (Xml.selfClosing name attributes ++ back) tokens opened) :
    let short := decode (front ++ (Xml.selfClosing name attributes ++ back))
    let long := decode (front ++ (Xml.openClose name attributes ++ back))
    ((∀ p, Position.Reaches tokens p → p.SameWhenEmpty name) → SameAnswer short long) ∧
    (∀ p, Position.Reaches tokens p → ¬p.SameWhenEmpty name → name ≠ "boolean" → ¬(Answers short ∧ Answers long)) ∧
    (∀ around, Position.Reaches tokens (.value around) → name = "boolean" →
      short = decode (front ++ (Xml.selfClosing "string" attributes ++ back)) ∧
      long = decode (front ++ (Xml.element "boolean" "0" ++ back))) := by
  intro short long
  have hempty {other : String} (hother : Xml.IsName other) :
      Xml.tokens (front ++ (Xml.selfClosing other attributes ++ back)) =
        ((Xml.tokensFrom opened back.toList).behind [.empty other]).behind tokens := by
    rw [h.tokens_markup (Xml.head?_selfClosing other attributes back), String.toList_append,
      Xml.reads_selfClosing hother hattributes]
  have hshort := hempty hname
  have hlong : Xml.tokens (front ++ (Xml.openClose name attributes ++ back)) =
      ((Xml.tokensFrom opened back.toList).behind [.start name, .close name]).behind tokens := by
    rw [h.tokens_markup (Xml.head?_openClose name attributes back), String.toList_append,
      Xml.reads_openClose hname hattributes]
  refine ⟨fun hsame => ?_, fun p hp hother hboolean hboth => ?_, fun around hp hboolean => ?_⟩
  · by_cases hreaches : ∃ p, Position.Reaches tokens p
    · obtain ⟨p, hp⟩ := hreaches
      refine sameAnswer_of_reaches hshort hlong hp (fun v => Position.run_selfClosing (hsame p hp)) fun v hrun => ?_
      rcases hp.length with rfl | rfl | hlength
      · cases hrun
      · cases hrun
      · exact hlength
    · exact fun _ => decode_congr_of_not_reaches hshort hlong fun p hp => hreaches ⟨p, hp⟩
  · obtain ⟨v, hv⟩ := hboth.1.exists_run_of_reaches hshort hp
    obtain ⟨v', hv'⟩ := hboth.2.exists_run_of_reaches hlong hp
    exact Position.run_selfClosing_failed hother hboolean hv hv'
  · subst hboolean
    have hzero : Xml.tokens (front ++ (Xml.element "boolean" "0" ++ back)) =
        ((Xml.tokensFrom opened back.toList).behind [.start "boolean", .text "0", .close "boolean"]).behind tokens := by
      have hread : Xml.tokensFrom opened ((Xml.element "boolean" (Xml.source [.text "0"])).toList ++ back.toList) = _ :=
        Xml.tokensFrom_element (by decide) (by decide) opened back.toList
      rw [h.tokens_markup (by rw [String.toList_append, Xml.toList_element]; rfl), String.toList_append]
      exact congrArg (Xml.Document.behind tokens) hread
    have hlength : 2 ≤ tokens.length := by
      rcases hp.length with heq | heq | hlength
      · cases heq
      · cases heq
      · exact hlength
    exact ⟨decode_congr_of_reaches hshort (hempty (by decide)) hp hlength Position.run_empty_boolean,
      decode_congr_of_reaches hlong hzero hp hlength Position.run_openClose_boolean⟩

/-- A string in a response gives the same answer in both forms, with an attribute that holds a `>`. Its value does not,
and a boolean is an empty string in the one form and a zero in the other. -/
theorem decode_selfClosing_string :
    SameAnswer
      (decode ("<methodResponse><params><param><value>" ++ (Xml.selfClosing "string" " a='>'" ++ "</value>")))
      (decode ("<methodResponse><params><param><value>" ++ (Xml.openClose "string" " a='>'" ++ "</value>"))) ∧
    ¬(Answers (decode (responseStart ++ (Xml.selfClosing "value" " " ++ responseBack))) ∧
      Answers (decode (responseStart ++ (Xml.openClose "value" " " ++ responseBack)))) ∧
    decode ("<methodResponse><params><param><value>" ++ (Xml.selfClosing "boolean" "" ++ "</value>")) =
      decode ("<methodResponse><params><param><value>" ++ (Xml.selfClosing "string" "" ++ "</value>")) ∧
    decode ("<methodResponse><params><param><value>" ++ (Xml.openClose "boolean" "" ++ "</value>")) =
      decode ("<methodResponse><params><param><value>" ++ (Xml.element "boolean" "0" ++ "</value>")) := by
  have hmeets (name attributes : String) :
      Xml.Meets "<methodResponse><params><param><value>" (Xml.selfClosing name attributes ++ "</value>")
        (outermostStart ++ [.start "value"]) ["value", "param", "params", "methodResponse"] :=
    Xml.meets_of_scans rfl (fun rest => .token rfl (.token rfl (.token rfl (.token rfl (.nil _ rest)))))
      (Xml.head?_selfClosing _ _ _)
  have hvalue : Position.Reaches (outermostStart ++ [.start "value"]) (.value []) :=
    .snoc reaches_outermost .outermost
  refine ⟨(decode_selfClosing (by decide) (by decide) (hmeets _ _)).1 fun p hp => ?_, ?_,
    (decode_selfClosing (by decide) (by decide) (hmeets _ _)).2.2 [] hvalue rfl⟩
  · obtain ⟨-, around, rfl⟩ := hp.of_value
    simp [Position.SameWhenEmpty]
  · have hmeets := meets_responseStart _ (Xml.head?_selfClosing "value" " " responseBack)
    exact (decode_selfClosing (by decide) (by decide) hmeets).2.1 _ reaches_outermost (not_not_intro rfl) (by decide)

/-- A response whose value is one empty tag is an error; with a start tag and an end tag it is the empty string. -/
theorem decode_selfClosing_value :
    decode "<methodResponse><params><param><value/></param></params></methodResponse>" =
      .error (.malformed (.unexpected "an opening tag" (some (.empty "value")))) ∧
    decode "<methodResponse><params><param><value></value></param></params></methodResponse>" = .ok (.string "") := by
  constructor
  · have hscans : Xml.Scans []
        (Xml.body "<methodResponse><params><param><value/></param></params></methodResponse>")
        (outermostStart ++ [.empty "value"]) ["param", "params", "methodResponse"]
        "</param></params></methodResponse>".toList :=
      .token rfl (.token rfl (.token rfl (.token rfl (.nil _ _))))
    refine decode_eq_error ?_
    rw [hscans.tokens_eq]
    rfl
  · have hscans : Xml.Scans []
        (Xml.body "<methodResponse><params><param><value></value></param></params></methodResponse>")
        (valueStart ++ [.close "value"]) ["param", "params", "methodResponse"]
        "</param></params></methodResponse>".toList :=
      .token rfl (.token rfl (.token rfl (.token rfl (.token rfl (.nil _ _)))))
    exact decode_of_value (congrArg Xml.Document.tokens hscans.tokens_eq) .blank

end SpacewalkAcquire.XmlRpc
