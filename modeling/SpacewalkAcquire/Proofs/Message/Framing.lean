import SpacewalkAcquire.Proofs.Message.RoundTrip

/-!
# What keeps messages apart

* `Contained m` : nothing in `m` leaves its line but line ends behind the last value;
* `Returned m m'` : `m'` is `m` as it should come back, with the same values but for white space around them;
* `read_blankLines`, `readFields_blankLines` : white space where a message is awaited, or a field, cannot be read;
* `readAll_wires_iff` : messages come back, one for one, exactly if all of them are contained.
-/

namespace SpacewalkAcquire.Message

/-- Nothing leaves its line but line ends behind the last value. -/
def Contained (m : Message) : Prop :=
  (∀ field ∈ m.fields.entries.dropLast, '\n' ∉ field.2.toList) ∧
    ∀ field, m.fields.entries.getLast? = some field → '\n' ∉ (content field.2).toList

/-- `m'` is `m` as it should come back: with the same code, text and names, and with the same values but for white space
around them. -/
structure Returned (m m' : Message) : Prop where
  code : m'.code = m.code
  text : m'.text = m.text
  fields : List.Forall₂ (fun field field' => field'.1 = field.1 ∧ Text.trim field'.2 = Text.trim field.2)
    m.fields.entries m'.fields.entries

/-- Text and names are fit for the wire, and a value that leaves its line does not start with white space. -/
structure Headed (m : Message) : Prop where
  text : Tidy m.text
  names : ∀ field ∈ m.fields.entries, Tidy field.1 ∧ ':' ∉ field.1.toList
  starts : ∀ field ∈ m.fields.entries, '\n' ∈ field.2.toList → ∀ c, field.2.toList.head? = some c → Text.isBlank c = false

theorem returned_tidied {m : Message} (h : Tidy m.text) : Returned m m.tidied := by
  refine ⟨rfl, h.2, ?_⟩
  show List.Forall₂ _ _ (m.fields.entries.map _)
  rw [List.forall₂_map_right_iff]
  exact List.forall₂_same.2 fun field _ => ⟨rfl, Text.trim_trim _⟩

/-! ## Text that leaves its line -/

theorem lines_induction {motive : List Char → Prop} (last : ∀ line, '\n' ∉ line → motive line)
    (more : ∀ line rest, '\n' ∉ line → motive rest → motive (line ++ '\n' :: rest)) (cs : List Char) : motive cs := by
  -- On the length, since the text behind the first line feed is no tail that induction on `cs` gives.
  induction h : cs.length using Nat.strong_induction_on generalizing cs with
  | _ n ih =>
    by_cases hm : '\n' ∈ cs
    · obtain ⟨line, rest, rfl, hline⟩ := List.eq_append_cons_of_mem hm
      refine more line rest hline (ih rest.length ?_ rest rfl)
      rw [← h, List.length_append, List.length_cons]
      omega
    · exact last cs hm

theorem toUtf8_lines (line rest : List Char) (behind : Bytes) :
    Text.toUtf8 (String.ofList (line ++ '\n' :: rest) ++ "\n") ++ behind =
      Text.toUtf8 (String.ofList line ++ "\n") ++ (Text.toUtf8 (String.ofList rest ++ "\n") ++ behind) := by
  have e : String.ofList (line ++ '\n' :: rest) ++ "\n" = String.ofList line ++ "\n" ++ (String.ofList rest ++ "\n") := by
    apply String.toList_inj.1
    simp
  rw [e, Text.toUtf8_append, List.append_assoc]

theorem isDigit_of_isBlank {c : Char} (h : Text.isBlank c = true) : c.isDigit = false := by
  rw [← Bool.not_eq_true]
  intro hd
  simp only [Char.isDigit, Bool.and_eq_true, decide_eq_true_eq, ge_iff_le, UInt32.le_iff_toNat_le] at hd
  have hlow : 48 ≤ c.toNat := hd.1
  have hhigh : c.toNat ≤ 57 := hd.2
  simp only [Text.isBlank, Bool.or_eq_true, Bool.and_eq_true, decide_eq_true_eq, beq_iff_eq] at h
  omega

theorem readCode?_blank {cs : List Char} (h : ∀ c ∈ cs, Text.isBlank c = true) : Text.readCode? cs = none := by
  cases cs with
  | nil => rfl
  | cons c cs =>
    have hc := h c List.mem_cons_self
    have hdigits : Text.readDigits? (c :: cs) = none := by
      rw [Text.readDigits?, List.all_cons, isDigit_of_isBlank hc]
      rfl
    unfold Text.readCode? Text.readUnsigned?
    split
    · next hplus =>
      cases hplus
      cases hc
    · dsimp only
      rw [hdigits]
      rfl

theorem ofStatusLine_blank {line : String} (h : ∀ c ∈ line.toList, Text.isBlank c = true) :
    ∃ e, ofStatusLine line = .error e := by
  have hcode : Text.readCode? ((Text.cutAt ' ' line.toList).getD (line.toList, [])).1 = none := by
    cases hcut : Text.cutAt ' ' line.toList with
    | none => exact readCode?_blank h
    | some p =>
      refine readCode?_blank fun c hc => h c ?_
      rw [(Text.cutAt_eq_some_iff.1 hcut).1]
      exact List.mem_append_left _ hc
  unfold ofStatusLine
  dsimp only
  rw [hcode]
  exact ⟨_, rfl⟩

theorem ofFieldLine_blank {line : String} (h : ∀ c ∈ line.toList, Text.isBlank c = true) :
    ∃ e, ofFieldLine line = .error e := by
  have hcolon : ':' ∉ line.toList := fun hm => absurd (h ':' hm) (by decide)
  unfold ofFieldLine
  rw [Text.cutAt_eq_none_iff.2 hcolon]
  exact ⟨_, rfl⟩

theorem content_blank {line : List Char} (h : ∀ c ∈ line, Text.isBlank c = true) :
    ∀ c ∈ (content (String.ofList line)).toList, Text.isBlank c = true := by
  intro c hc
  rw [toList_content, String.toList_ofList] at hc
  exact h c (Text.mem_of_mem_trimEndWith hc)

theorem content_isEmpty_of_lineEnds {line : List Char} (h : ∀ c ∈ line, isLineEnd c = true) :
    (content (String.ofList line)).isEmpty = true := content_isEmpty_iff.2 (by rwa [String.toList_ofList])

theorem content_isEmpty_eq_false {line : List Char} (hc : ∃ c ∈ line, isLineEnd c = false) :
    (content (String.ofList line)).isEmpty = false := by
  obtain ⟨c, hc, hend⟩ := hc
  rw [← Bool.not_eq_true, content_isEmpty_iff, String.toList_ofList]
  intro hall
  rw [hall c hc] at hend
  cases hend

theorem exists_behind {line rest : List Char} (hends : ∀ c ∈ line, isLineEnd c = true)
    (hc : ∃ c ∈ line ++ '\n' :: rest, isLineEnd c = false) : ∃ c ∈ rest, isLineEnd c = false := by
  obtain ⟨c, hc, hend⟩ := hc
  rcases List.mem_append.1 hc with hc | hc
  · rw [hends c hc] at hend
    cases hend
  · rcases List.mem_cons.1 hc with rfl | hc
    · cases hend
    · exact ⟨c, hc, hend⟩

section Line

variable {line : List Char} (hline : '\n' ∉ line) (ending : Ending) (m : Message) (behind : Bytes)
include hline

theorem read_lineEnd (h : ∀ c ∈ line, isLineEnd c = true) :
    read ending (Text.toUtf8 (String.ofList line ++ "\n") ++ behind) = read ending behind := by
  rw [read_line (by rwa [String.toList_ofList]), if_pos (content_isEmpty_of_lineEnds h)]

theorem readFields_lineEnd (h : ∀ c ∈ line, isLineEnd c = true) :
    readFields ending m (Text.toUtf8 (String.ofList line ++ "\n") ++ behind) = .item (.ok m) behind := by
  rw [readFields_line (by rwa [String.toList_ofList]), if_pos (content_isEmpty_of_lineEnds h)]

theorem read_blankLine (h : ∀ c ∈ line, Text.isBlank c = true) (hc : ∃ c ∈ line, isLineEnd c = false) :
    ∃ e, read ending (Text.toUtf8 (String.ofList line ++ "\n") ++ behind) = .item (.error e) behind := by
  obtain ⟨e, he⟩ := ofStatusLine_blank (content_blank h)
  rw [read_line (by rwa [String.toList_ofList]), content_isEmpty_eq_false hc, he]
  exact ⟨e, rfl⟩

theorem readFields_blankLine (h : ∀ c ∈ line, Text.isBlank c = true) (hc : ∃ c ∈ line, isLineEnd c = false) :
    ∃ e, readFields ending m (Text.toUtf8 (String.ofList line ++ "\n") ++ behind) = .item (.error e) behind := by
  obtain ⟨e, he⟩ := ofFieldLine_blank (content_blank h)
  rw [readFields_line (by rwa [String.toList_ofList]), content_isEmpty_eq_false hc, he]
  exact ⟨e, rfl⟩

end Line

section Lines

variable {cs : List Char} (ending : Ending) (m : Message) (behind : Bytes)

/-- Line ends before a message carry nothing. -/
theorem read_lineEnds (h : ∀ c ∈ cs, isLineEnd c = true) :
    read ending (Text.toUtf8 (String.ofList cs ++ "\n") ++ behind) = read ending behind := by
  induction cs using lines_induction with
  | last line hline => exact read_lineEnd hline ending behind h
  | more line rest hline ih =>
    rw [toUtf8_lines, read_lineEnd hline _ _ fun c hc => h c (List.mem_append_left _ hc)]
    exact ih fun c hc => h c (List.mem_append_right _ (List.mem_cons_of_mem _ hc))

theorem readFields_lineEnds (h : ∀ c ∈ cs, isLineEnd c = true) :
    ∃ rest, readFields ending m (Text.toUtf8 (String.ofList cs ++ "\n") ++ behind) = .item (.ok m) rest ∧
      read ending rest = read ending behind := by
  by_cases hm : '\n' ∈ cs
  · obtain ⟨line, rest, rfl, hline⟩ := List.eq_append_cons_of_mem hm
    rw [toUtf8_lines, readFields_lineEnd hline _ _ _ fun c hc => h c (List.mem_append_left _ hc)]
    exact ⟨_, rfl, read_lineEnds ending behind fun c hc => h c (List.mem_append_right _ (List.mem_cons_of_mem _ hc))⟩
  · exact ⟨behind, readFields_lineEnd hm ending m behind h, rfl⟩

/-- Where a message is awaited, white space that is more than line ends cannot be read. -/
theorem read_blankLines (h : ∀ c ∈ cs, Text.isBlank c = true) (hc : ∃ c ∈ cs, isLineEnd c = false) :
    ∃ e rest, read ending (Text.toUtf8 (String.ofList cs ++ "\n") ++ behind) = .item (.error e) rest := by
  induction cs using lines_induction with
  | last line hline =>
    obtain ⟨e, he⟩ := read_blankLine hline ending behind h hc
    exact ⟨e, behind, he⟩
  | more line rest hline ih =>
    rw [toUtf8_lines]
    by_cases hends : ∀ c ∈ line, isLineEnd c = true
    · rw [read_lineEnd hline _ _ hends]
      exact ih (fun c hc => h c (List.mem_append_right _ (List.mem_cons_of_mem _ hc))) (exists_behind hends hc)
    · simp only [not_forall, Bool.not_eq_true, exists_prop] at hends
      obtain ⟨e, he⟩ := read_blankLine hline ending _ (fun c hc => h c (List.mem_append_left _ hc)) hends
      exact ⟨e, _, he⟩

theorem readFields_blankLines (h : ∀ c ∈ cs, Text.isBlank c = true) (hc : ∃ c ∈ cs, isLineEnd c = false) :
    ∃ value rest, readFields ending m (Text.toUtf8 (String.ofList cs ++ "\n") ++ behind) = .item value rest ∧
      ((∃ e, value = .error e) ∨ ∃ e rest', read ending rest = .item (.error e) rest') := by
  by_cases hm : '\n' ∈ cs
  · obtain ⟨line, rest, rfl, hline⟩ := List.eq_append_cons_of_mem hm
    rw [toUtf8_lines]
    by_cases hends : ∀ c ∈ line, isLineEnd c = true
    · rw [readFields_lineEnd hline _ _ _ hends]
      refine ⟨_, _, rfl, .inr (read_blankLines ending behind (fun c hc => ?_) (exists_behind hends hc))⟩
      exact h c (List.mem_append_right _ (List.mem_cons_of_mem _ hc))
    · simp only [not_forall, Bool.not_eq_true, exists_prop] at hends
      obtain ⟨e, he⟩ := readFields_blankLine hline ending m _ (fun c hc => h c (List.mem_append_left _ hc)) hends
      exact ⟨_, _, he, .inl ⟨e, rfl⟩⟩
  · obtain ⟨e, he⟩ := readFields_blankLine hm ending m behind h hc
    exact ⟨_, _, he, .inl ⟨e, rfl⟩⟩

end Lines

/-! ## A value that leaves its line -/

/-- The fields of `m` up to the first value that leaves its line, and what it leaves it for. -/
structure Spill (m : Message) where
  before : List (String × String)
  name : String
  line : List Char
  rest : List Char
  after : List (String × String)
  entries_eq : m.fields.entries = before ++ (name, String.ofList (line ++ '\n' :: rest)) :: after
  before_line : ∀ field ∈ before, '\n' ∉ field.2.toList
  line_line : '\n' ∉ line

theorem exists_spill {m : Message} (h : ∃ field ∈ m.fields.entries, '\n' ∈ field.2.toList) : Nonempty m.Spill := by
  have hfind : (m.fields.entries.find? fun field => decide ('\n' ∈ field.2.toList)).isSome = true := by
    rw [List.find?_isSome]
    exact h.imp fun field hf => ⟨hf.1, decide_eq_true hf.2⟩
  obtain ⟨⟨name, value⟩, hfind⟩ := Option.isSome_iff_exists.1 hfind
  obtain ⟨hvalue, before, after, hentries, hbefore⟩ := List.find?_eq_some_iff_append.1 hfind
  obtain ⟨line, rest, hlines, hline⟩ := List.eq_append_cons_of_mem (of_decide_eq_true hvalue)
  refine ⟨⟨before, name, line, rest, after, ?_, fun field hf => ?_, hline⟩⟩
  · rw [hentries, ← hlines, String.ofList_toList]
  · simpa using hbefore field hf

namespace Spill

variable {m : Message} (s : m.Spill)

def head : Message where
  code := m.code
  text := m.text
  fields := ⟨s.before ++ [(s.name, String.ofList s.line)], by
    have hkeys := m.fields.nodup_keys
    rw [s.entries_eq, List.map_append, List.map_cons] at hkeys
    rw [List.map_append, List.map_singleton]
    exact ((List.nil_sublist _).cons_cons s.name |>.append_left _).nodup hkeys⟩

theorem wire_eq : m.wire = toString m.code.toNat ++ " " ++ m.text ++ "\n" ++
    String.join (s.head.fields.entries.map fieldLine) ++
    (String.ofList s.rest ++ "\n" ++ (String.join (s.after.map fieldLine) ++ "\n")) := by
  apply String.toList_inj.1
  rw [wire, s.entries_eq]
  simp [head, fieldLine, -Nat.toString_eq_repr]

theorem head_oneLine (h : m.Headed) : s.head.OneLine := by
  have hnames := h.names
  rw [s.entries_eq] at hnames
  refine ⟨h.text.1, fun field hf => ?_, fun field hf => ?_⟩
  · rcases List.mem_append.1 hf with hf | hf
    · exact hnames field (List.mem_append_left _ hf)
    · rw [List.mem_singleton.1 hf]
      exact hnames (s.name, String.ofList (s.line ++ '\n' :: s.rest)) (List.mem_append_right _ List.mem_cons_self)
  · rcases List.mem_append.1 hf with hf | hf
    · exact s.before_line field hf
    · rw [List.mem_singleton.1 hf, String.toList_ofList]
      exact s.line_line

theorem read_wire (h : m.Headed) (ending : Ending) (behind : Bytes) :
    read ending (Text.toUtf8 m.wire ++ behind) = readFields ending s.head.tidied
      (Text.toUtf8 (String.ofList s.rest ++ "\n") ++
        (Text.toUtf8 (String.join (s.after.map fieldLine) ++ "\n") ++ behind)) := by
  rw [s.wire_eq, Text.toUtf8_append, List.append_assoc]
  refine (read_status_fieldLines (s.head_oneLine h) ending _).trans ?_
  rw [Text.toUtf8_append, List.append_assoc]

/-- A message that is `Contained` leaves its line behind its last value, and for line ends. -/
theorem of_contained (h : m.Contained) : s.after = [] ∧ ∀ c ∈ s.rest, isLineEnd c = true := by
  have hvalue : '\n' ∈ (String.ofList (s.line ++ '\n' :: s.rest)).toList := by
    rw [String.toList_ofList]
    exact List.mem_append_right _ List.mem_cons_self
  have hafter : s.after = [] := by
    by_contra hne
    refine h.1 (s.name, _) ?_ hvalue
    rw [s.entries_eq, List.dropLast_append_of_ne_nil (List.cons_ne_nil _ _), List.dropLast_cons_of_ne_nil hne]
    exact List.mem_append_right _ List.mem_cons_self
  refine ⟨hafter, ?_⟩
  have hlast := h.2 (s.name, String.ofList (s.line ++ '\n' :: s.rest)) (by rw [s.entries_eq, hafter]; simp)
  rw [toList_content, String.toList_ofList] at hlast
  exact Text.all_of_not_mem_trimEndWith hlast

theorem contained (hafter : s.after = []) (hrest : ∀ c ∈ s.rest, isLineEnd c = true) : m.Contained := by
  have hentries := s.entries_eq
  rw [hafter] at hentries
  refine ⟨fun field hf => ?_, fun field hf => ?_⟩
  · rw [hentries, List.dropLast_concat] at hf
    exact s.before_line field hf
  · rw [hentries, List.getLast?_concat, Option.some.injEq] at hf
    subst hf
    have hall : ∀ c ∈ '\n' :: s.rest, isLineEnd c = true := List.forall_mem_cons.2 ⟨rfl, hrest⟩
    rw [toList_content, String.toList_ofList, Text.trimEndWith_append_of_all _ hall]
    exact fun hm => s.line_line (Text.mem_of_mem_trimEndWith hm)

theorem tidied_head (hafter : s.after = []) (hrest : ∀ c ∈ s.rest, isLineEnd c = true) : s.head.tidied = m.tidied := by
  have hall : ∀ c ∈ '\n' :: s.rest, Text.isBlank c = true :=
    List.forall_mem_cons.2 ⟨rfl, fun c hc => isBlank_of_isLineEnd (hrest c hc)⟩
  have htrim : Text.trim (String.ofList s.line) = Text.trim (String.ofList (s.line ++ '\n' :: s.rest)) := by
    apply String.toList_inj.1
    rw [Text.toList_trim, Text.toList_trim, String.toList_ofList, String.toList_ofList,
      Text.trimWith_append_of_all _ hall]
  refine congrArg (Message.mk m.code (Text.trim m.text)) (OrderedMap.ext ?_)
  show (s.before ++ [(s.name, String.ofList s.line)]).map _ = m.fields.entries.map _
  rw [s.entries_eq, hafter, List.map_append, List.map_append, List.map_singleton, List.map_singleton, htrim]

end Spill

/-- What comes back has no line feed in a value, so in what was sent there is none but at the ends of values. -/
theorem Returned.lineFeed_not_mem_trim {m m' : Message} (h : Returned m m') (hm' : m'.WireSafe) :
    ∀ field ∈ m.fields.entries, '\n' ∉ (Text.trim field.2).toList := by
  have hsafe : ∀ field' ∈ m'.fields.entries, '\n' ∉ field'.2.toList := fun field' hf => (hm'.2 field' hf).2.2.1
  have hfields := h.fields
  generalize m.fields.entries = fields at hfields ⊢
  generalize m'.fields.entries = fields' at hfields hsafe
  induction hfields with
  | nil => exact fun _ hf => absurd hf List.not_mem_nil
  | cons hfield _ ih =>
    refine List.forall_mem_cons.2 ⟨fun hm => ?_, ih fun field' hf => hsafe field' (List.mem_cons_of_mem _ hf)⟩
    rw [← hfield.2] at hm
    exact hsafe _ List.mem_cons_self (Text.mem_of_mem_trim hm)

namespace Spill

variable {m : Message} (s : m.Spill)

theorem length_tidied_head : s.head.tidied.fields.entries.length = s.before.length + 1 := by
  simp [tidied, head, OrderedMap.mapValues]

theorem mem_entries : (s.name, String.ofList (s.line ++ '\n' :: s.rest)) ∈ m.fields.entries := by
  rw [s.entries_eq]
  exact List.mem_append_right _ List.mem_cons_self

theorem rest_blank (h : m.Headed) {m' : Message} (hm' : m'.WireSafe) (hreturned : Returned m m') :
    ∀ c ∈ s.rest, Text.isBlank c = true := by
  have htrim := hreturned.lineFeed_not_mem_trim hm' _ s.mem_entries
  have hstart := h.starts _ s.mem_entries (by
    rw [String.toList_ofList]
    exact List.mem_append_right _ List.mem_cons_self)
  rw [Text.toList_trim, String.toList_ofList] at htrim
  rw [String.toList_ofList] at hstart
  have hdrop : (s.line ++ '\n' :: s.rest).dropWhile Text.isBlank = s.line ++ '\n' :: s.rest := by
    cases hcs : s.line ++ '\n' :: s.rest with
    | nil => rfl
    | cons c cs =>
      rw [hcs] at hstart
      exact List.dropWhile_cons_of_neg (by rw [hstart c rfl]; exact Bool.false_ne_true)
  rw [Text.trimWith, hdrop] at htrim
  exact Text.all_of_not_mem_trimEndWith htrim

end Spill

/-! ## Reading on -/

theorem readAll_of_stop {ending : Ending} {input : Bytes} {failure : Option Failure}
    (h : read ending input = .stop failure) : readAll ending input = failure.toList.map .error := by
  rw [readAll]
  split
  · next e =>
    rw [h] at e
    cases e
    rfl
  · next e =>
    rw [h] at e
    cases e
    rfl
  · next e =>
    rw [h] at e
    cases e

theorem readAll_congr {ending : Ending} {a b : Bytes} (h : read ending a = read ending b) :
    readAll ending a = readAll ending b := by
  cases hb : read ending b with
  | stop failure => rw [readAll_of_stop (h.trans hb), readAll_of_stop hb]
  | item value rest => rw [readAll_of_item (h.trans hb), readAll_of_item hb]

theorem read_of_readAll {ending : Ending} {input : Bytes} {m : Message} {items : List (Except Failure Message)}
    (h : readAll ending input = .ok m :: items) : ∃ rest, read ending input = .item (.ok m) rest ∧
      readAll ending rest = items := by
  cases hread : read ending input with
  | stop failure =>
    rw [readAll_of_stop hread] at h
    cases failure with
    | none => cases h
    | some e => cases h
  | item value rest =>
    rw [readAll_of_item hread, List.cons.injEq] at h
    obtain ⟨rfl, h⟩ := h
    exact ⟨rest, rfl, h⟩

theorem Headed.oneLine {m : Message} (h : m.Headed) (hvalues : ∀ field ∈ m.fields.entries, '\n' ∉ field.2.toList) :
    m.OneLine := ⟨h.text.1, h.names, hvalues⟩

theorem readAll_wire_of_contained {m : Message} (h : m.Headed) (hm : m.Contained) (ending : Ending) (behind : Bytes) :
    readAll ending (Text.toUtf8 m.wire ++ behind) = .ok m.tidied :: readAll ending behind := by
  by_cases hspill : ∃ field ∈ m.fields.entries, '\n' ∈ field.2.toList
  · obtain ⟨s⟩ := exists_spill hspill
    obtain ⟨hafter, hrest⟩ := s.of_contained hm
    obtain ⟨rest, hfields, hread⟩ := readFields_lineEnds ending s.head.tidied
      (Text.toUtf8 (String.join (s.after.map fieldLine) ++ "\n") ++ behind) hrest
    have hend : readAll ending (Text.toUtf8 (String.join (s.after.map fieldLine) ++ "\n") ++ behind) =
        readAll ending behind := by
      have hnone : ∀ c ∈ ([] : List Char), isLineEnd c = true := fun _ hc => absurd hc List.not_mem_nil
      rw [hafter]
      exact readAll_congr (read_lineEnds ending behind hnone)
    rw [readAll_of_item ((s.read_wire h ending behind).trans hfields), readAll_congr hread, hend,
      s.tidied_head hafter hrest]
  · have hvalues : ∀ field ∈ m.fields.entries, '\n' ∉ field.2.toList := fun field hf hm => hspill ⟨field, hf, hm⟩
    exact readAll_of_item (read_wire_of_oneLine (h.oneLine hvalues) ending behind)

theorem contained_of_readAll_wire {m m' : Message} {ending : Ending} {behind : Bytes} {more : List Message}
    (h : m.Headed) (hread : readAll ending (Text.toUtf8 m.wire ++ behind) = .ok m' :: more.map .ok)
    (hreturned : Returned m m') : m.Contained := by
  obtain ⟨rest, hitem, hmore⟩ := read_of_readAll hread
  by_cases hspill : ∃ field ∈ m.fields.entries, '\n' ∈ field.2.toList
  · obtain ⟨s⟩ := exists_spill hspill
    have hblank := s.rest_blank h (wireSafe_of_read hitem) hreturned
    rw [s.read_wire h] at hitem
    have hrest : ∀ c ∈ s.rest, isLineEnd c = true := by
      by_contra hends
      simp only [not_forall, Bool.not_eq_true, exists_prop] at hends
      obtain ⟨value, rest', hfields, hbad⟩ := readFields_blankLines ending s.head.tidied
        (Text.toUtf8 (String.join (s.after.map fieldLine) ++ "\n") ++ behind) hblank hends
      rw [hitem, Next.item.injEq] at hfields
      obtain ⟨rfl, rfl⟩ := hfields
      rcases hbad with ⟨e, he⟩ | ⟨e, rest', he⟩
      · cases he
      · rw [readAll_of_item he] at hmore
        cases more <;> cases hmore
    refine s.contained ?_ hrest
    obtain ⟨rest', hfields, -⟩ := readFields_lineEnds ending s.head.tidied
      (Text.toUtf8 (String.join (s.after.map fieldLine) ++ "\n") ++ behind) hrest
    rw [hitem, Next.item.injEq, Except.ok.injEq] at hfields
    have hlength := hreturned.fields.length_eq
    rw [s.entries_eq, hfields.1] at hlength
    rw [s.length_tidied_head, List.length_append, List.length_cons] at hlength
    exact List.eq_nil_of_length_eq_zero (by omega)
  · refine ⟨fun field hf hm => hspill ⟨field, List.dropLast_subset _ hf, hm⟩, fun field hf hm => ?_⟩
    rw [toList_content] at hm
    exact hspill ⟨field, List.mem_of_getLast? hf, Text.mem_of_mem_trimEndWith hm⟩

/-- Messages come back, one for one, exactly if all of them are `Contained`. -/
theorem readAll_wires_iff {ms : List Message} (h : ∀ m ∈ ms, m.Headed) :
    (∃ read, readAll .closed (ms.flatMap fun m => Text.toUtf8 m.wire) = read.map .ok ∧ List.Forall₂ Returned ms read) ↔
      ∀ m ∈ ms, m.Contained := by
  induction ms with
  | nil => exact ⟨fun _ _ hm => absurd hm List.not_mem_nil, fun _ => ⟨[], readAll_nil .closed, .nil⟩⟩
  | cons m ms ih =>
    obtain ⟨hm, hms⟩ := List.forall_mem_cons.1 h
    rw [List.flatMap_cons, List.forall_mem_cons, ← ih hms]
    constructor
    · rintro ⟨read, hread, hreturned⟩
      obtain ⟨m', more, hm', hmore, rfl⟩ := List.forall₂_cons_left_iff.1 hreturned
      have hcontained := contained_of_readAll_wire hm hread hm'
      rw [readAll_wire_of_contained hm hcontained, List.map_cons, List.cons.injEq] at hread
      exact ⟨hcontained, more, hread.2, hmore⟩
    · rintro ⟨hcontained, more, hread, hmore⟩
      refine ⟨m.tidied :: more, ?_, .cons (returned_tidied hm.text) hmore⟩
      rw [readAll_wire_of_contained hm hcontained, hread]
      rfl

end SpacewalkAcquire.Message
