import SpacewalkAcquire.Proofs.Message.Line
import SpacewalkAcquire.Proofs.OrderedMap
import SpacewalkAcquire.Proofs.Text.Decimal

/-!
# Messages on the wire and back

* `OneLine m` : the text and the fields of `m` stay on their lines;
* `tidied m` : `m` with text and values trimmed;
* `read_wire_of_oneLine` : what is read of a message that stays on its lines is the message, tidied;
* `wireSafe_of_read` : whatever is read is safe on the wire;
* `wire_codec` : safe messages, and no others, are read as they were written, also one after the other.
-/

namespace SpacewalkAcquire.Message

/-- The text and every field stay on their lines: no line feed is in them, and names end where they should. -/
structure OneLine (m : Message) : Prop where
  text : '\n' ∉ m.text.toList
  names : ∀ field ∈ m.fields.entries, Tidy field.1 ∧ ':' ∉ field.1.toList
  values : ∀ field ∈ m.fields.entries, '\n' ∉ field.2.toList

def tidied (m : Message) : Message := ⟨m.code, Text.trim m.text, m.fields.mapValues Text.trim⟩

theorem WireSafe.oneLine {m : Message} (h : m.WireSafe) : m.OneLine :=
  ⟨h.1.1, fun field hf => ⟨(h.2 field hf).1, (h.2 field hf).2.1⟩, fun field hf => (h.2 field hf).2.2.1⟩

theorem WireSafe.tidied_eq {m : Message} (h : m.WireSafe) : m.tidied = m := by
  obtain ⟨code, text, fields⟩ := m
  rw [tidied, h.1.2, OrderedMap.mapValues_eq_self fun field hf => (h.2 field hf).2.2.2]

/-! ## Lines of a message -/

variable {ending : Ending} {rest : Bytes}

theorem content_append_cons {c : Char} (h : isLineEnd c = false) (s t : String) :
    (content (s ++ String.ofList [c] ++ t)).toList = s.toList ++ c :: (content t).toList := by
  rw [toList_content, String.toList_append, String.toList_append, String.toList_ofList, List.append_assoc,
    List.singleton_append, Text.trimEndWith_append_cons_of_neg h, toList_content]

theorem trim_content (s : String) : Text.trim (content s) = Text.trim s := by
  apply String.toList_inj.1
  rw [Text.toList_trim, toList_content, Text.trimWith_trimEndWith_of_imp fun _ h => isBlank_of_isLineEnd h,
    Text.toList_trim]

theorem trim_blank_cons {c : Char} (h : Text.isBlank c = true) (cs : List Char) :
    Text.trim (String.ofList (c :: cs)) = Text.trim (String.ofList cs) := by
  apply String.toList_inj.1
  simp [Text.trimWith_cons_of_pos h]

theorem ofFieldLine_content {name : String} (h : ':' ∉ name.toList) (value : String) :
    ofFieldLine (content (name ++ ": " ++ value)) = .ok (Text.trim name, Text.trim value) := by
  have hcut : Text.cutAt ':' (content (name ++ ": " ++ value)).toList =
      some (name.toList, ' ' :: (content value).toList) := by
    rw [Text.cutAt_eq_some_iff]
    refine ⟨?_, h⟩
    have e : name ++ ": " ++ value = name ++ ":" ++ String.ofList [' '] ++ value := by
      apply String.toList_inj.1
      simp
    rw [e, content_append_cons rfl]
    simp
  rw [ofFieldLine, hcut]
  change Except.ok (Text.trim (String.ofList name.toList), _) = _
  rw [trim_blank_cons rfl, String.ofList_toList, String.ofList_toList, trim_content]

theorem ofStatusLine_content (code : UInt16) (text : String) :
    ofStatusLine (content (toString code.toNat ++ " " ++ text)) = .ok (plain code (Text.trim text)) := by
  have hcut : Text.cutAt ' ' (content (toString code.toNat ++ " " ++ text)).toList =
      some ((toString code.toNat).toList, (content text).toList) := by
    rw [Text.cutAt_eq_some_iff]
    exact ⟨content_append_cons rfl _ _, Text.not_mem_toString_nat rfl⟩
  rw [ofStatusLine, hcut]
  dsimp only [Option.getD_some]
  rw [Text.readCode?_toString, String.ofList_toList, trim_content]

theorem content_ne_empty {c : Char} (h : isLineEnd c = false) (s t : String) :
    (content (s ++ String.ofList [c] ++ t)).isEmpty = false := by
  rw [← Bool.not_eq_true, content_isEmpty_iff]
  intro hall
  have := hall c (by simp)
  rw [h] at this
  cases this

/-! ## Reading what was written -/

theorem readFields_blank (ending : Ending) (m : Message) (rest : Bytes) :
    readFields ending m (Text.toUtf8 "\n" ++ rest) = .item (.ok m) rest := by
  have h := readFields_line (s := "") (by simp) ending m rest
  rw [String.empty_append] at h
  have hempty : (content "").isEmpty = true := content_isEmpty_iff.2 (by simp)
  rw [h, if_pos hempty]

theorem readFields_fieldLine {field : String × String} (hname : Tidy field.1 ∧ ':' ∉ field.1.toList)
    (hvalue : '\n' ∉ field.2.toList) (ending : Ending) (m : Message) (rest : Bytes) :
    readFields ending m (Text.toUtf8 (fieldLine field) ++ rest) =
      readFields ending (m.set field.1 (Text.trim field.2)) rest := by
  have hline : '\n' ∉ (field.1 ++ ": " ++ field.2).toList := by
    simp [hname.1.1, hvalue]
  have hne : (content (field.1 ++ ": " ++ field.2)).isEmpty = false := by
    have := content_ne_empty (c := ':') rfl field.1 (" " ++ field.2)
    rwa [show field.1 ++ String.ofList [':'] ++ (" " ++ field.2) = field.1 ++ ": " ++ field.2 by
      apply String.toList_inj.1; simp] at this
  rw [fieldLine, readFields_line hline, hne, ofFieldLine_content hname.2, hname.1.2]
  simp

theorem readFields_fieldLines {fields : List (String × String)}
    (hnames : ∀ field ∈ fields, Tidy field.1 ∧ ':' ∉ field.1.toList) (hvalues : ∀ field ∈ fields, '\n' ∉ field.2.toList)
    (ending : Ending) (m : Message) (rest : Bytes) :
    readFields ending m (Text.toUtf8 (String.join (fields.map fieldLine)) ++ rest) =
      readFields ending (fields.foldl (fun m field => m.set field.1 (Text.trim field.2)) m) rest := by
  induction fields generalizing m with
  | nil => rfl
  | cons field fields ih =>
    rw [List.map_cons, String.join_cons, Text.toUtf8_append, List.append_assoc,
      readFields_fieldLine (hnames field (by simp)) (hvalues field (by simp)), List.foldl_cons]
    exact ih (fun f hf => hnames f (by simp [hf])) (fun f hf => hvalues f (by simp [hf])) _

theorem foldl_set {fields : List (String × String)} (m : Message) :
    fields.foldl (fun m field => m.set field.1 (Text.trim field.2)) m =
      { m with fields := fields.foldl (fun fs field => fs.insert field.1 (Text.trim field.2)) m.fields } := by
  induction fields generalizing m with
  | nil => rfl
  | cons field fields ih => exact ih _

/-- Behind its status line and fields, `read` has come to `m.tidied`. -/
theorem read_status_fieldLines {m : Message} (h : m.OneLine) (ending : Ending) (rest : Bytes) :
    read ending (Text.toUtf8 (toString m.code.toNat ++ " " ++ m.text ++ "\n" ++
      String.join (m.fields.entries.map fieldLine)) ++ rest) = readFields ending m.tidied rest := by
  have hline : '\n' ∉ (toString m.code.toNat ++ " " ++ m.text).toList := by
    have hcode : '\n' ∉ (toString m.code.toNat).toList := Text.not_mem_toString_nat rfl
    rw [String.toList_append, String.toList_append, List.mem_append, List.mem_append, not_or, not_or]
    exact ⟨⟨hcode, by decide⟩, h.text⟩
  rw [Text.toUtf8_append, List.append_assoc, read_line hline, content_ne_empty rfl, ofStatusLine_content,
    if_neg (by simp)]
  change readFields ending (plain m.code (Text.trim m.text)) _ = _
  rw [readFields_fieldLines h.names h.values, foldl_set]
  congr 1
  have hentries := OrderedMap.foldl_insert Text.trim (plain m.code (Text.trim m.text)).fields m.fields.nodup_keys
  exact congrArg (Message.mk m.code (Text.trim m.text)) (OrderedMap.ext hentries)

theorem read_wire_of_oneLine {m : Message} (h : m.OneLine) (ending : Ending) (rest : Bytes) :
    read ending (Text.toUtf8 m.wire ++ rest) = .item (.ok m.tidied) rest := by
  rw [wire, Text.toUtf8_append, List.append_assoc, read_status_fieldLines h, readFields_blank]

/-! ## What is read is safe -/

theorem tidy_trim {cs : List Char} (h : '\n' ∉ cs) : Tidy (Text.trim (String.ofList cs)) := by
  refine ⟨fun hm => h ?_, Text.trim_trim _⟩
  have := Text.mem_of_mem_trim hm
  rwa [String.toList_ofList] at this

theorem wireSafe_of_ofStatusLine {line : String} (hline : '\n' ∉ line.toList) {m : Message}
    (h : ofStatusLine line = .ok m) : m.WireSafe := by
  have hbehind : '\n' ∉ ((Text.cutAt ' ' line.toList).getD (line.toList, [])).2 := by
    cases hc : Text.cutAt ' ' line.toList with
    | none => simp
    | some p =>
      intro hm
      rw [(Text.cutAt_eq_some_iff.1 hc).1] at hline
      exact hline (List.mem_append_right _ (List.mem_cons_of_mem _ hm))
  unfold ofStatusLine at h
  dsimp only at h
  split at h
  · rw [Except.ok.injEq] at h
    subst h
    exact ⟨tidy_trim hbehind, fun field hf => by cases hf⟩
  · cases h

theorem safe_of_ofFieldLine {line : String} (hline : '\n' ∉ line.toList) {name value : String}
    (h : ofFieldLine line = .ok (name, value)) : Tidy name ∧ ':' ∉ name.toList ∧ Tidy value := by
  unfold ofFieldLine at h
  split at h
  · next before behind hc =>
    rw [Except.ok.injEq, Prod.mk.injEq] at h
    obtain ⟨rfl, rfl⟩ := h
    obtain ⟨e, hcolon⟩ := Text.cutAt_eq_some_iff.1 hc
    rw [e] at hline
    refine ⟨tidy_trim fun hm => hline (List.mem_append_left _ hm), fun hm => hcolon ?_,
      tidy_trim fun hm => hline (List.mem_append_right _ (List.mem_cons_of_mem _ hm))⟩
    have := Text.mem_of_mem_trim hm
    rwa [String.toList_ofList] at this
  · cases h

theorem WireSafe.set {m : Message} (hm : m.WireSafe) {name value : String} (hname : Tidy name)
    (hcolon : ':' ∉ name.toList) (hvalue : Tidy value) : (m.set name value).WireSafe := by
  refine ⟨hm.1, fun field hf => ?_⟩
  rcases Bindings.mem_insert hf with hf | rfl
  · exact hm.2 field hf
  · exact ⟨hname, hcolon, hvalue⟩

theorem wireSafe_of_readFields {m m' : Message} {input : Bytes} (hm : m.WireSafe)
    (h : readFields ending m input = .item (.ok m') rest) : m'.WireSafe := by
  fun_induction readFields ending m input with
  | case1 =>
    rw [Next.item.injEq, Except.ok.injEq] at h
    exact h.1 ▸ hm
  | case2 => cases h
  | case3 => cases h
  | case4 =>
    rw [Next.item.injEq, Except.ok.injEq] at h
    exact h.1 ▸ hm
  | case5 => cases h
  | case6 _ _ _ _ hl _ name value hf ih =>
    obtain ⟨hname, hcolon, hvalue⟩ := safe_of_ofFieldLine (nextLine_ok hl) hf
    exact ih (hm.set hname hcolon hvalue) h

theorem wireSafe_of_read {m : Message} {input : Bytes} (h : read ending input = .item (.ok m) rest) : m.WireSafe := by
  fun_induction read ending input with
  | case1 => cases h
  | case2 => cases h
  | case3 _ _ _ _ _ ih => exact ih h
  | case4 => cases h
  | case5 _ _ _ hl _ _ hs => exact wireSafe_of_readFields (wireSafe_of_ofStatusLine (nextLine_ok hl) hs) h

theorem read_wire_iff {m : Message} :
    read ending (Text.toUtf8 m.wire ++ rest) = .item (.ok m) rest ↔ m.WireSafe := by
  refine ⟨wireSafe_of_read, fun h => ?_⟩
  rw [read_wire_of_oneLine h.oneLine, h.tidied_eq]

/-! ## One message after the other -/

def Ending.items (ending : Ending) : List (Except Failure Message) := ending.failure?.toList.map .error

theorem readAll_of_item {input : Bytes} {value : Except Failure Message} (h : read ending input = .item value rest) :
    readAll ending input = value :: readAll ending rest := by
  rw [readAll]
  split
  · next e => rw [h] at e; cases e
  · next e => rw [h] at e; cases e
  · next e =>
    rw [h, Next.item.injEq] at e
    obtain ⟨rfl, rfl⟩ := e
    rfl

theorem readAll_nil (ending : Ending) : readAll ending [] = ending.items := by
  rw [readAll]
  cases ending <;> split <;> simp_all [read_nil, Ending.failure?, Ending.items]

theorem wireSafe_of_mem_readAll {m : Message} {input : Bytes} (h : .ok m ∈ readAll ending input) : m.WireSafe := by
  fun_induction readAll ending input with
  | case1 => cases h
  | case2 =>
    rw [List.mem_singleton] at h
    cases h
  | case3 _ value rest hread ih =>
    rcases List.mem_cons.1 h with rfl | h
    · exact wireSafe_of_read hread
    · exact ih h

theorem readAll_wires {ms : List Message} (h : ∀ m ∈ ms, m.OneLine) (ending : Ending) :
    readAll ending (ms.flatMap fun m => Text.toUtf8 m.wire) = ms.map (fun m => .ok m.tidied) ++ ending.items := by
  induction ms with
  | nil => exact readAll_nil ending
  | cons m ms ih =>
    rw [List.flatMap_cons, readAll_of_item (read_wire_of_oneLine (h m (by simp)) ending _),
      ih fun n hn => h n (by simp [hn])]
    rfl

/-- A message that is `WireSafe` is all that is read of its `wire`. -/
theorem readAll_wire {m : Message} (h : m.WireSafe) : readAll .closed (Text.toUtf8 m.wire) = [.ok m] := by
  have hread : read .closed (Text.toUtf8 m.wire ++ []) = .item (.ok m) [] := read_wire_iff.2 h
  rw [List.append_nil] at hread
  rw [readAll_of_item hread, readAll_nil]
  rfl

/-- `wire` loses nothing exactly of the messages that are `WireSafe`; all that is read are such messages. -/
theorem wire_codec :
    (∀ (ending : Ending) (m : Message) (rest : Bytes),
      read ending (Text.toUtf8 m.wire ++ rest) = .item (.ok m) rest ↔ m.WireSafe) ∧
    (∀ (ending : Ending) (input : Bytes) (m : Message) (rest : Bytes), read ending input = .item (.ok m) rest →
      m.WireSafe ∧ ∀ behind, read ending (Text.toUtf8 m.wire ++ behind) = .item (.ok m) behind) ∧
    (∀ (ending : Ending) (ms : List Message), (∀ m ∈ ms, m.WireSafe) →
      readAll ending (ms.flatMap fun m => Text.toUtf8 m.wire) = ms.map .ok ++ ending.items) := by
  refine ⟨fun _ _ _ => read_wire_iff, fun ending input m rest h => ?_, fun ending ms h => ?_⟩
  · have hm := wireSafe_of_read h
    exact ⟨hm, fun _ => read_wire_iff.2 hm⟩
  · rw [readAll_wires fun m hm => (h m hm).oneLine]
    congr 1
    refine List.map_congr_left fun m hm => ?_
    rw [(h m hm).tidied_eq]

end SpacewalkAcquire.Message
