import SpacewalkAcquire.Proofs.OrderedMap
import SpacewalkAcquire.Proofs.Text.Numeral
import SpacewalkAcquire.Proofs.Xml.Reading
import SpacewalkAcquire.Proofs.XmlRpc.Grammar

/-!
# Decoding undoes encoding

* `Value.encode v` : the canonical markup of a value, one element for each of its parts;
* `Value.IsWritten v` : the texts of the numbers in `v` spell them, and no struct names a member twice;
* `decodes_of_isWritten` : such markup is cut into tokens that the grammar of responses describes;
* `decode_encode` : a response that holds it gives back the value, whatever the response starts and ends with;
* `decode_encodeMembers` : a struct that names members repeatedly.
-/

namespace SpacewalkAcquire.XmlRpc

open Xml (Token Reads)

namespace Value

mutual

/-- The canonical markup of a value. -/
def encode : Value → String
  | .string s => Xml.element "value" (Xml.element "string" (Xml.canonical s))
  | .integer _ text => Xml.element "value" (Xml.element "int" text)
  | .boolean b => Xml.element "value" (Xml.element "boolean" (if b then "1" else "0"))
  | .double _ text => Xml.element "value" (Xml.element "double" text)
  | .null => Xml.element "value" "<nil/>"
  | .struct members => Xml.element "value" (Xml.element "struct" (encodeMembers members))
  | .array items => Xml.element "value" (Xml.element "array" (Xml.element "data" (encodeItems items)))

def encodeMembers : List (String × Value) → String
  | [] => ""
  | (name, v) :: rest =>
    Xml.element "member" (Xml.element "name" (Xml.canonical name) ++ v.encode) ++ encodeMembers rest

def encodeItems : List Value → String
  | [] => ""
  | v :: rest => v.encode ++ encodeItems rest

end

/-- The texts of numbers spell them, and no struct names a member twice. -/
inductive IsWritten : Value → Prop
  | string (s : String) : IsWritten (.string s)
  | integer {n : Int} {text : String} (h : Text.readInteger? text.toList = some n) : IsWritten (.integer n text)
  | boolean (b : Bool) : IsWritten (.boolean b)
  | double {bits : UInt64} {text : String} (h : Binary64.read? text = some bits) : IsWritten (.double bits text)
  | null : IsWritten .null
  | struct {members : List (String × Value)} (hnodup : (members.map Prod.fst).Nodup)
      (h : ∀ p ∈ members, IsWritten p.2) : IsWritten (.struct members)
  | array {items : List Value} (h : ∀ v ∈ items, IsWritten v) : IsWritten (.array items)

end Value

/-! ## Numerals in markup -/

theorem isSpace_of_isNumeralChar {c : Char} (h : Text.IsNumeralChar c) : Xml.isSpace c = false := by
  rw [← Bool.not_eq_true]
  intro hspace
  have hblank : Text.isBlank c = true := by
    simp only [Xml.isSpace, Bool.or_eq_true, beq_iff_eq] at hspace
    rcases hspace with ((rfl | rfl) | rfl) | rfl <;> decide
  rw [Text.isBlank_of_isNumeralChar h] at hblank
  cases hblank

theorem ne_of_isNumeralChar {c d : Char} (h : Text.IsNumeralChar c) (hd : ¬ Text.IsNumeralChar d) : c ≠ d := by
  rintro rfl
  exact hd h

theorem text_of_numeral {text : String} (h : Text.IsNumeral text.toList) :
    (∀ c ∈ text.toList, c ≠ '<' ∧ Xml.isSpace c = false) ∧ Xml.unescape text.toList = .ok text ∧
      Text.trim text = text := by
  have hlt : ¬ Text.IsNumeralChar '<' := by unfold Text.IsNumeralChar; decide
  have hamp : ¬ Text.IsNumeralChar '&' := by unfold Text.IsNumeralChar; decide
  refine ⟨fun c hc => ⟨ne_of_isNumeralChar (h c hc) hlt, isSpace_of_isNumeralChar (h c hc)⟩, ?_, ?_⟩
  · rw [Xml.unescape_of_not_mem fun hc => hamp (h _ hc), String.ofList_toList]
  · refine Text.trim_eq_self_iff.2 ⟨fun c hc => ?_, fun c hc => ?_⟩
    · exact Text.isBlank_of_isNumeralChar (h c (List.mem_of_head? hc))
    · exact Text.isBlank_of_isNumeralChar (h c (List.mem_of_getLast? hc))

/-! ## Markup of values -/

/-- The markup of `v` is cut into a start tag and the content of `v`. -/
def Decodes (v : Value) : Prop :=
  ∃ content, Content content v ∧ ∀ opened, Reads opened v.encode.toList (.start "value" :: content) opened

theorem decodes_of_element {v : Value} {name markup : String} {inner : List Token}
    (hencode : v.encode = Xml.element "value" markup) (h : Element name inner v)
    (hreads : ∀ opened, Reads opened markup.toList (.start name :: inner) opened) : Decodes v := by
  refine ⟨_, .typed h, fun opened => ?_⟩
  rw [hencode]
  exact Xml.reads_element "value" markup (by decide) (hreads _)

theorem decodes_of_text {v : Value} (name : String) {text content : String} (hname : Xml.IsPlain name)
    (htext : ∀ c ∈ text.toList, c ≠ '<' ∧ Xml.isSpace c = false) (h : Xml.unescape text.toList = .ok content)
    (hencode : v.encode = Xml.element "value" (Xml.element name text))
    (helement : ∀ texts, String.join texts = content → Element name (pieces texts ++ [.close name]) v) : Decodes v := by
  obtain ⟨texts, hjoin, hreads⟩ := Xml.reads_solidElement name hname htext h
  exact decodes_of_element hencode (helement texts hjoin) hreads

theorem decodes_string (s : String) : Decodes (.string s) := by
  refine decodes_of_text "string" (by decide) (fun c hc => Xml.not_markup_of_mem_canonical hc)
    (Xml.unescape_canonical s) (by rw [Value.encode]) fun texts hjoin => ?_
  rw [← hjoin]
  exact .string texts (by decide)

theorem decodes_integer {n : Int} {text : String} (h : Text.readInteger? text.toList = some n) :
    Decodes (.integer n text) := by
  obtain ⟨hplain, hunescape, htrim⟩ := text_of_numeral (Text.numeral_of_readInteger? h)
  refine decodes_of_text "int" (by decide) hplain hunescape (by rw [Value.encode]) fun texts hjoin => ?_
  have hread : Text.trim (String.join texts) = text := by rw [hjoin, htrim]
  have helement : Element "int" (pieces texts ++ [.close "int"]) (.integer n (Text.trim (String.join texts))) :=
    .integer texts (by decide) (by rw [hread]; exact h)
  rwa [hread] at helement

theorem decodes_boolean (b : Bool) : Decodes (.boolean b) := by
  have hdigit : ∀ c ∈ (if b then "1" else "0").toList, c ≠ '<' ∧ Xml.isSpace c = false := by
    cases b <;> exact List.forall_mem_singleton.2 (by decide)
  have hunescape : Xml.unescape (if b then "1" else "0").toList = .ok (if b then "1" else "0") := by cases b <;> rfl
  refine decodes_of_text "boolean" (by decide) hdigit hunescape (by rw [Value.encode]) fun texts hjoin => ?_
  have hread : decide (Text.trim (String.join texts) = "1") = b := by rw [hjoin]; cases b <;> decide
  rw [← hread]
  exact .boolean texts

theorem decodes_double {bits : UInt64} {text : String} (h : Binary64.read? text = some bits) :
    Decodes (.double bits text) := by
  obtain ⟨hplain, hunescape, htrim⟩ := text_of_numeral (Binary64.numeral_of_read? h)
  refine decodes_of_text "double" (by decide) hplain hunescape (by rw [Value.encode]) fun texts hjoin => ?_
  have hread : Text.trim (String.join texts) = text := by rw [hjoin, htrim]
  have helement : Element "double" (pieces texts ++ [.close "double"]) (.double bits (Text.trim (String.join texts))) :=
    .double texts (by rw [hread]; exact h)
  rwa [hread] at helement

theorem decodes_null : Decodes .null := by
  refine ⟨_, .emptyNil, fun opened => ?_⟩
  rw [Value.encode]
  have hnil := Xml.reads_empty "nil" (by decide) ("value" :: opened)
  exact Xml.reads_element "value" "<nil/>" (by decide) hnil

/-- `encodeMembers` is cut into `Members`. -/
theorem reads_encodeMembers {members : List (String × Value)} (h : ∀ p ∈ members, Decodes p.2) :
    ∃ inner, Members inner members ∧ ∀ opened, Reads opened (Value.encodeMembers members).toList inner opened := by
  induction members with
  | nil =>
    refine ⟨[], .nil, fun opened => ?_⟩
    rw [Value.encodeMembers]
    exact Reads.nil opened
  | cons p rest ih =>
    obtain ⟨name, v⟩ := p
    obtain ⟨content, hcontent, hvalue⟩ := h (name, v) List.mem_cons_self
    obtain ⟨inner, hinner, hrest⟩ := ih fun p hp => h p (List.mem_cons_of_mem _ hp)
    obtain ⟨texts, rfl, hname⟩ := Xml.reads_solidElement "name" (by decide)
      (fun c hc => Xml.not_markup_of_mem_canonical hc) (Xml.unescape_canonical name)
    refine ⟨_, .cons hcontent hinner, fun opened => ?_⟩
    have hmember := Xml.reads_element "member" (Xml.element "name" (Xml.canonical (String.join texts)) ++ v.encode)
      (by decide) (by rw [String.toList_append]; exact (hname ("member" :: opened)).append (hvalue _))
    rw [Value.encodeMembers, String.toList_append]
    simpa [pieces] using hmember.append (hrest opened)

theorem reads_encodeItems {items : List Value} (h : ∀ v ∈ items, Decodes v) :
    ∃ inner, Items inner items ∧ ∀ opened, Reads opened (Value.encodeItems items).toList inner opened := by
  induction items with
  | nil =>
    refine ⟨[], .nil, fun opened => ?_⟩
    rw [Value.encodeItems]
    exact Reads.nil opened
  | cons v rest ih =>
    obtain ⟨content, hcontent, hvalue⟩ := h v List.mem_cons_self
    obtain ⟨inner, hinner, hrest⟩ := ih fun v hv => h v (List.mem_cons_of_mem _ hv)
    refine ⟨_, .cons hcontent hinner, fun opened => ?_⟩
    rw [Value.encodeItems, String.toList_append]
    exact (hvalue opened).append (hrest opened)

theorem bindAll_of_nodup (before : Bindings String Value) {pairs : List (String × Value)}
    (h : (before.map Prod.fst ++ pairs.map Prod.fst).Nodup) : bindAll before pairs = before ++ pairs := by
  induction pairs generalizing before with
  | nil => rw [List.append_nil, bindAll, List.foldl_nil]
  | cons p rest ih =>
    have hkey : p.1 ∉ before.map Prod.fst := by
      rw [List.map_cons, List.nodup_middle, List.nodup_cons] at h
      exact fun hm => h.1 (List.mem_append_left _ hm)
    have hinsert : Bindings.insert before p.1 p.2 = before ++ [p] := Bindings.insert_of_not_mem hkey _
    show bindAll (Bindings.insert before p.1 p.2) rest = _
    rw [hinsert, ih _ (by simpa using h), List.append_assoc, List.singleton_append]

theorem decodes_struct {members : List (String × Value)} (hnodup : (members.map Prod.fst).Nodup)
    (h : ∀ p ∈ members, Decodes p.2) : Decodes (.struct members) := by
  obtain ⟨inner, hinner, hreads⟩ := reads_encodeMembers h
  have helement := Element.struct hinner
  rw [bindAll_of_nodup [] hnodup, List.nil_append] at helement
  exact decodes_of_element (by rw [Value.encode]) helement fun opened => Xml.reads_element _ _ (by decide) (hreads _)

theorem decodes_array {items : List Value} (h : ∀ v ∈ items, Decodes v) : Decodes (.array items) := by
  obtain ⟨inner, hinner, hreads⟩ := reads_encodeItems h
  refine decodes_of_element (by rw [Value.encode]) (.array hinner) fun opened => ?_
  have hdata := Xml.reads_element "data" _ (by decide) (hreads ("data" :: "array" :: opened))
  simpa using Xml.reads_element "array" _ (by decide) hdata

/-- The markup of a value is cut into tokens that the grammar of responses describes. -/
theorem decodes_of_isWritten {v : Value} (h : v.IsWritten) : Decodes v := by
  induction h with
  | string s => exact decodes_string s
  | integer h => exact decodes_integer h
  | boolean b => exact decodes_boolean b
  | double h => exact decodes_double h
  | null => exact decodes_null
  | struct hnodup _ ih => exact decodes_struct hnodup ih
  | array _ ih => exact decodes_array ih

/-! ## Responses -/

def responseStart : String := "<methodResponse><params><param>"

theorem reads_responseStart : Reads [] responseStart.toList
    [.start "methodResponse", .start "params", .start "param"] ["param", "params", "methodResponse"] := by
  have hresponse := Xml.reads_start "methodResponse" (by decide) []
  have hparams := Xml.reads_start "params" (by decide) ["methodResponse"]
  exact (hresponse.append hparams).append (Xml.reads_start "param" (by decide) ["params", "methodResponse"])

def declaration : String := "<?xml version=\"1.0\"?>"

theorem reads_declaration : Reads [] declaration.toList [] [] := Xml.reads_of_skip fun _ => rfl

/-- `decode` undoes `encode`: a response that holds the markup of a value, with a declaration in front or without one,
gives back that value, and what stands `behind` it does not matter. -/
theorem decode_encode {v : Value} (h : v.IsWritten) (behind : String) :
    decode (responseStart ++ v.encode ++ behind) = .ok v ∧
    decode (declaration ++ responseStart ++ v.encode ++ behind) = .ok v := by
  obtain ⟨content, hcontent, hreads⟩ := decodes_of_isWritten h
  have hresponse := reads_responseStart.append (hreads _)
  constructor
  · have hdocument : (responseStart ++ v.encode ++ behind).toList =
        responseStart.toList ++ v.encode.toList ++ behind.toList := by simp
    have htokens := Xml.tokens_of_reads hresponse rfl hdocument
    exact decode_of_value htokens hcontent
  · have hdocument : (declaration ++ responseStart ++ v.encode ++ behind).toList =
        declaration.toList ++ (responseStart.toList ++ v.encode.toList) ++ behind.toList := by simp
    have htokens := Xml.tokens_of_reads (reads_declaration.append hresponse) rfl hdocument
    exact decode_of_value htokens hcontent

/-- A response that holds the markup of a struct whose names may be repeated gives back the members that are bound by
it. -/
theorem decode_encodeMembers {pairs : List (String × Value)} (h : ∀ p ∈ pairs, p.2.IsWritten) (behind : String) :
    decode (responseStart ++ (Value.struct pairs).encode ++ behind) = .ok (.struct (bindAll [] pairs)) := by
  obtain ⟨inner, hinner, hreads⟩ := reads_encodeMembers fun p hp => decodes_of_isWritten (h p hp)
  have hstruct :=
    Xml.reads_element "struct" _ (by decide) (hreads ["struct", "value", "param", "params", "methodResponse"])
  have hvalue := Xml.reads_element "value" _ (by decide) hstruct
  have hresponse := reads_responseStart.append hvalue
  have hdocument : (responseStart ++ (Value.struct pairs).encode ++ behind).toList = responseStart.toList ++
      (Xml.element "value" (Xml.element "struct" (Value.encodeMembers pairs))).toList ++ behind.toList := by
    rw [Value.encode, String.toList_append, String.toList_append]
  exact decode_of_value (Xml.tokens_of_reads hresponse rfl hdocument) (.typed (.struct hinner))

/-- A struct whose names and strings hold markup and white space, around an array of numbers. -/
theorem decode_encode_struct :
    decode (responseStart ++ (Value.struct [("a <b> & ' \" \t", .string " \r\n"),
      ("", .array [.integer (-7) "-007", .double 0x3FF8000000000000 "+1.5e0"])]).encode ++ "</param>") =
    .ok (.struct [("a <b> & ' \" \t", .string " \r\n"),
      ("", .array [.integer (-7) "-007", .double 0x3FF8000000000000 "+1.5e0"])]) := by
  refine (decode_encode ?_ _).1
  have hinteger : Text.readInteger? "-007".toList = some (-7) := by decide
  have hdouble : Binary64.read? "+1.5e0" = some 0x3FF8000000000000 := by decide +kernel
  have hitems : ∀ v ∈ [.integer (-7) "-007", .double 0x3FF8000000000000 "+1.5e0"], Value.IsWritten v := by
    simpa using ⟨.integer hinteger, .double hdouble⟩
  exact .struct (by decide) (by simpa using ⟨.string _, .array hitems⟩)

end SpacewalkAcquire.XmlRpc
