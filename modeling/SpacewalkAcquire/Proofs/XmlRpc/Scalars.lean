import SpacewalkAcquire.Proofs.OrderedMap
import SpacewalkAcquire.Proofs.XmlRpc.Grammar

/-!
# Members and their texts, as received

* `Tells content text` : what stands behind `<value>` is a scalar with that text;
* `tells_iff` : `Value.scalarText?` gives that text, and none for what is no scalar;
* `Received document pairs` : the value of a response is a struct that was received with those members, repeated names
  included;
* `received_of_decode`, `nodup_of_decode` : of repeated names the first one has the place, and the last one the value;
* `nodup_of_decode_array` : so it is in the structs of an array.
-/

namespace SpacewalkAcquire.XmlRpc

open Xml (Token)

/-! ## The texts of scalars -/

/-- What a scalar of a type tells, by the `text` in its element: a string is told as it is, a number without the white
space at its ends, and a boolean as a digit. -/
def ScalarType.told (type : ScalarType) (text : String) : String :=
  match type with
  | string => text
  | integer | double => Text.trim text
  | boolean => if Text.trim text = "1" then "1" else "0"

/-- What stands behind `<value>` is a scalar with a text. Without a type it is a string. -/
inductive Tells : List Token → String → Prop
  | untyped (text : String) : Tells [.text text, .close "value"] text
  | blank : Tells [.close "value"] ""
  | empty {name : String} (h : name ∉ ["nil", "struct", "array"]) : Tells [.empty name, .close "value"] ""
  | typed {name : String} {type : ScalarType} (texts : List String) (h : ScalarType.ofName? name = some type) :
      Tells (.start name :: (pieces texts ++ [.close name] ++ [.close "value"])) (type.told (String.join texts))

theorem scalarText?_of_read {type : ScalarType} {text : String} {v : Value} (h : type.read text = .ok v) :
    v.scalarText? = some (type.told text) := by
  unfold ScalarType.read at h
  cases type with
  | string =>
    cases h
    rfl
  | integer =>
    dsimp only at h
    split at h
    · cases h
      rfl
    · cases h
  | boolean =>
    cases h
    by_cases hone : Text.trim text = "1" <;> simp [Value.scalarText?, ScalarType.told, hone]
  | double =>
    dsimp only at h
    split at h
    · cases h
      rfl
    · cases h

theorem pieces_cancel {texts texts' : List String} {last : List Token}
    (h : pieces texts ++ last = pieces texts' ++ last) : texts = texts' :=
  List.map_injective_iff.2 (fun _ _ => Token.text.inj) (List.append_cancel_right h)

theorem read_of_element {name : String} {type : ScalarType} {inner : List Token} {v : Value} (h : Element name inner v)
    (hname : ScalarType.ofName? name = some type) :
    ∃ texts, inner = pieces texts ++ [.close name] ∧ type.read (String.join texts) = .ok v := by
  cases h with
  | string texts htext =>
    cases (Position.ofName?_of_text htext).symm.trans hname
    exact ⟨texts, rfl, rfl⟩
  | integer texts hinteger hn =>
    cases (Position.ofName?_of_integer hinteger).symm.trans hname
    exact ⟨texts, rfl, by simp only [ScalarType.read, hn]⟩
  | boolean texts =>
    cases (by decide : ScalarType.ofName? "boolean" = some .boolean).symm.trans hname
    exact ⟨texts, rfl, rfl⟩
  | double texts hbits =>
    cases (by decide : ScalarType.ofName? "double" = some .double).symm.trans hname
    exact ⟨texts, rfl, by simp only [ScalarType.read, hbits]⟩
  | nil | struct | noData | array => cases hname

theorem ofName?_of_element {name text : String} {inner : List Token} {v : Value} (h : Element name inner v)
    (htext : v.scalarText? = some text) : ∃ type, ScalarType.ofName? name = some type := by
  cases h with
  | string texts hname => exact ⟨_, Position.ofName?_of_text hname⟩
  | integer texts hname => exact ⟨_, Position.ofName?_of_integer hname⟩
  | boolean | double => exact ⟨_, rfl⟩
  | nil | struct | noData | array => cases htext

/-- A value has a text if and only if it was received as a scalar that `Tells` that text. -/
theorem tells_iff {content : List Token} {v : Value} (h : Content content v) (text : String) :
    v.scalarText? = some text ↔ Tells content text := by
  constructor
  · intro htext
    cases h with
    | untyped =>
      cases htext
      exact .untyped _
    | blank =>
      cases htext
      exact .blank
    | emptyNil | emptyStruct | emptyArray => cases htext
    | emptyOther h =>
      cases htext
      exact .empty h
    | typed h =>
      obtain ⟨type, hname⟩ := ofName?_of_element h htext
      obtain ⟨texts, rfl, hread⟩ := read_of_element h hname
      rw [scalarText?_of_read hread] at htext
      cases htext
      exact .typed texts hname
  · intro htells
    cases h with
    | untyped =>
      cases htells
      rfl
    | blank =>
      cases htells
      rfl
    | emptyNil | emptyStruct | emptyArray =>
      cases htells with
      | empty h => simp at h
    | emptyOther h =>
      cases htells
      rfl
    | @typed name inner _ h =>
      generalize hcontent : Token.start name :: (inner ++ [.close "value"]) = content at htells
      cases htells with
      | untyped | blank | empty => cases hcontent
      | typed texts hname =>
        obtain ⟨hstart, hinner⟩ := List.cons.inj hcontent
        cases hstart
        obtain ⟨texts', rfl, hread⟩ := read_of_element h hname
        obtain rfl := pieces_cancel (List.append_cancel_right hinner)
        exact scalarText?_of_read hread

/-! ## Members as received -/

/-- The value of `document` is a struct that was received with the members `pairs`, in this order. -/
def Received (document : String) (pairs : List (String × Value)) : Prop :=
  ∃ content rest, (Xml.tokens document).tokens = valueStart ++ content ++ rest ∧
    (content = [.empty "struct", .close "value"] ∧ pairs = [] ∨
      ∃ inner, Members inner pairs ∧ content = .start "struct" :: (inner ++ [.close "struct"] ++ [.close "value"]))

theorem bindAll_eq_entries (pairs : List (String × Value)) : bindAll [] pairs = (OrderedMap.ofList pairs).entries := by
  unfold OrderedMap.ofList bindAll
  have hempty : ([] : Bindings String Value) = (OrderedMap.empty : OrderedMap String Value).entries := rfl
  rw [hempty]
  generalize (OrderedMap.empty : OrderedMap String Value) = m
  induction pairs generalizing m with
  | nil => rfl
  | cons p rest ih => exact ih (m.insert p.1 p.2)

/-- The members of a struct are those of `Received`, bound from left to right. -/
theorem entries_of_decode {document : String} {members : List (String × Value)}
    (h : decode document = .ok (.struct members)) :
    ∃ pairs, Received document pairs ∧ members = (OrderedMap.ofList pairs).entries := by
  obtain ⟨content, rest, htokens, hcontent⟩ := content_of_decode h
  cases hcontent with
  | emptyStruct => exact ⟨[], ⟨_, rest, htokens, .inl ⟨rfl, rfl⟩⟩, rfl⟩
  | typed helement =>
    cases helement with
    | @struct inner pairs hmembers =>
      exact ⟨pairs, ⟨_, rest, htokens, .inr ⟨inner, hmembers, rfl⟩⟩, bindAll_eq_entries pairs⟩

theorem nodup_of_content {content : List Token} {members : List (String × Value)}
    (h : Content content (.struct members)) : (members.map Prod.fst).Nodup := by
  cases h with
  | emptyStruct => exact List.nodup_nil
  | typed helement =>
    cases helement with
    | @struct _ pairs =>
      rw [bindAll_eq_entries]
      exact (OrderedMap.ofList pairs).nodup_keys

/-- A struct that is the value of a response names no member twice. -/
theorem nodup_of_decode {document : String} {members : List (String × Value)}
    (h : decode document = .ok (.struct members)) : (members.map Prod.fst).Nodup := by
  obtain ⟨content, rest, -, hcontent⟩ := content_of_decode h
  exact nodup_of_content hcontent

theorem exists_content_of_items {inner : List Token} {items : List Value} (h : Items inner items) {item : Value}
    (hitem : item ∈ items) : ∃ content, Content content item := by
  induction items generalizing inner with
  | nil => cases hitem
  | cons first rest ih =>
    cases h with
    | cons hfirst hrest =>
      rcases List.mem_cons.1 hitem with rfl | hitem
      · exact ⟨_, hfirst⟩
      · exact ih hrest hitem

theorem nodup_of_decode_array {document : String} {items : List Value} (h : decode document = .ok (.array items))
    {members : List (String × Value)} (hitem : .struct members ∈ items) : (members.map Prod.fst).Nodup := by
  obtain ⟨content, rest, -, hcontent⟩ := content_of_decode h
  cases hcontent with
  | emptyArray => cases hitem
  | typed helement =>
    cases helement with
    | noData => cases hitem
    | array hitems =>
      obtain ⟨content, hcontent⟩ := exists_content_of_items hitems hitem
      exact nodup_of_content hcontent

theorem received_of_decode {document : String} {members : List (String × Value)}
    (h : decode document = .ok (.struct members)) :
    ∃ pairs, Received document pairs ∧ members.map Prod.fst = (pairs.map Prod.fst).eraseDups ∧
      ∀ name, Bindings.get? members name = pairs.reverse.lookup name := by
  obtain ⟨pairs, hreceived, rfl⟩ := entries_of_decode h
  exact ⟨pairs, hreceived, OrderedMap.keys_ofList pairs, fun name =>
    (OrderedMap.get?_insertAll .empty pairs name).trans Option.or_none⟩

end SpacewalkAcquire.XmlRpc
