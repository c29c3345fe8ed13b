import SpacewalkAcquire.Proofs.OrderedMap
import SpacewalkAcquire.Proofs.Text.Numeral
import SpacewalkAcquire.Proofs.Text.Split
import SpacewalkAcquire.Proofs.Text.Trim
import SpacewalkAcquire.Settings

/-!
# What settings mean

* `Settings.trimmedLines content` : the lines that count;
* `Settings.Ignored`, `Settings.Bad`, `Settings.Binds` : what a trimmed line says;
* `Settings.FirstBad`, `Settings.Gathers` : what lines say together;
* `Settings.gather` : the bindings of lines, or the place of the first bad one; it is what reading settings is about
  (`readLines_eq`, `read_eq`), and lines that are put together are gathered part by part (`gather_append`);
* `Settings.read_meaning` : so settings are what their lines say, and they can be read part by part.
-/

namespace SpacewalkAcquire

/-! ## Lines -/

namespace Text

theorem trimWith_dropReturn (line : List Char) : trimWith isBlank (dropReturn line) = trimWith isBlank line := by
  unfold dropReturn
  split
  · next h =>
    obtain ⟨front, rfl⟩ := List.getLast?_eq_some_iff.1 h
    rw [List.dropLast_concat, trimWith_append_of_all]
    exact List.forall_mem_singleton.2 (by decide)
  · rfl

end Text

/-- What a trimmed text means as a value. -/
def Setting.Means (value : List Char) : Setting → Prop
  | .list items => ';' ∈ value ∧
      items = (((value.splitOn ';').map (Text.trimWith Text.isBlank)).filter (· ≠ [])).map String.ofList
  | .integer n => ';' ∉ value ∧ Text.SpellsInteger value n
  | .text s => ';' ∉ value ∧ (∀ n, ¬ Text.SpellsInteger value n) ∧ s = String.ofList value

theorem Setting.means_read (raw : List Char) : (read raw).Means (Text.trimWith Text.isBlank raw) := by
  unfold read
  dsimp only
  split
  · next h => exact ⟨h, by rw [Text.splitOn_eq]⟩
  · next h =>
    split
    · next n hn => exact ⟨h, Text.readInteger?_eq_some_iff.1 hn⟩
    · next hnone =>
      refine ⟨h, fun n hn => ?_, rfl⟩
      rw [Text.readInteger?_eq_some_iff.2 hn] at hnone
      cases hnone

namespace Settings

/-- The pieces between line feeds, without one carriage return before a line feed, and trimmed. -/
def trimmedLines (content : String) : List (List Char) :=
  let pieces := content.toList.splitOn '\n'
  (pieces.dropLast.map Text.dropReturn ++ pieces.getLast?.toList).map (Text.trimWith Text.isBlank)

/-- The line has a `=`; before the first one stands, trimmed, the key, and behind it the rest. -/
def Cut (line key rest : List Char) : Prop :=
  ∃ before, line = before ++ '=' :: rest ∧ '=' ∉ before ∧ key = Text.trimWith Text.isBlank before

def Ignored (line : List Char) : Prop :=
  line = [] ∨ line.head? = some '#' ∨ ∃ key rest, Cut line key rest ∧ '[' ∈ key

/-- The line should bind a key, but there is no `=` or no key. -/
def Bad (line : List Char) : Prop := ¬ Ignored line ∧ ('=' ∉ line ∨ ∃ rest, Cut line [] rest)

def complaint (line : List Char) : String :=
  if '=' ∈ line then "empty key" else s!"expected 'key=value', found '{String.ofList line}'"

def Binds (line : List Char) (key : String) (value : Setting) : Prop :=
  ¬ Ignored line ∧ ∃ name rest, Cut line name rest ∧ name ≠ [] ∧ key = String.ofList name ∧
    value.Means (Text.trimWith Text.isBlank rest)

def Line.Means (line : List Char) : Line → Prop
  | .skipped => Ignored line
  | .bad error => Bad line ∧ error.message = complaint line
  | .binding key value => Binds line key value

/-- The first bad line is number `n`, counted from zero. -/
def FirstBad (lines : List (List Char)) (n : Nat) (line : List Char) : Prop :=
  lines[n]? = some line ∧ Bad line ∧ ∀ earlier ∈ lines.take n, ¬ Bad earlier

/-- Lines of which none is bad, and what they bind, one after the other. -/
inductive Gathers : List (List Char) → List (String × Setting) → Prop where
  | nil : Gathers [] []
  | ignored {line : List Char} {lines : List (List Char)} {bindings : List (String × Setting)} :
    Ignored line → Gathers lines bindings → Gathers (line :: lines) bindings
  | binds {line : List Char} {key : String} {value : Setting} {lines : List (List Char)}
    {bindings : List (String × Setting)} :
    Binds line key value → Gathers lines bindings → Gathers (line :: lines) ((key, value) :: bindings)

theorem Cut.mem {line key rest : List Char} (h : Cut line key rest) : '=' ∈ line := by
  obtain ⟨before, rfl, -⟩ := h
  exact List.mem_append_right _ List.mem_cons_self

/-- A line has one `Cut`. -/
theorem Cut.eq {line key key' rest rest' : List Char} (h : Cut line key rest) (h' : Cut line key' rest') :
    key = key' := by
  obtain ⟨before, hline, hbefore, rfl⟩ := h
  obtain ⟨before', hline', hbefore', rfl⟩ := h'
  have hcut := Text.cutAt_eq_some_iff.2 ⟨hline, hbefore⟩
  rw [Text.cutAt_eq_some_iff.2 ⟨hline', hbefore'⟩] at hcut
  cases hcut
  rfl

theorem Binds.not_bad {line : List Char} {key : String} {value : Setting} (h : Binds line key value) : ¬ Bad line := by
  obtain ⟨-, name, rest, hcut, hname, -⟩ := h
  rintro ⟨-, hmissing | ⟨rest', hempty⟩⟩
  · exact hmissing hcut.mem
  · exact hname (hcut.eq hempty)

theorem Line.means_read (raw : List Char) : (Line.read raw).Means (Text.trimWith Text.isBlank raw) := by
  unfold Line.read
  dsimp only
  generalize Text.trimWith Text.isBlank raw = line
  by_cases hskip : (line.isEmpty || line.head? = some '#') = true
  · rw [if_pos hskip]
    rw [Bool.or_eq_true, List.isEmpty_iff, decide_eq_true_eq] at hskip
    exact hskip.elim .inl fun hcomment => .inr (.inl hcomment)
  rw [if_neg hskip]
  rw [Bool.or_eq_true, List.isEmpty_iff, decide_eq_true_eq, not_or] at hskip
  have hignored (h : Ignored line) : ∃ key rest, Cut line key rest ∧ '[' ∈ key :=
    (h.resolve_left hskip.1).resolve_left hskip.2
  cases hcut : Text.cutAt '=' line with
  | none =>
    rw [Text.cutAt_eq_none_iff] at hcut
    refine ⟨⟨fun h => ?_, .inl hcut⟩, by rw [complaint, if_neg hcut]; rfl⟩
    obtain ⟨key, rest, hkey, -⟩ := hignored h
    exact hcut hkey.mem
  | some p =>
    obtain ⟨before, rest⟩ := p
    obtain ⟨hline, hbefore⟩ := Text.cutAt_eq_some_iff.1 hcut
    have hkey : Cut line (Text.trimWith Text.isBlank before) rest := ⟨before, hline, hbefore, rfl⟩
    dsimp only
    generalize Text.trimWith Text.isBlank before = key at hkey
    split
    · next hdescription => exact .inr (.inr ⟨key, rest, hkey, hdescription⟩)
    · next hdescription =>
      have hcounts : ¬ Ignored line := fun h => by
        obtain ⟨key', rest', hkey', hdescription'⟩ := hignored h
        exact hdescription (hkey.eq hkey' ▸ hdescription')
      split
      · next hempty =>
        rw [List.isEmpty_iff] at hempty
        subst hempty
        exact ⟨⟨hcounts, .inr ⟨rest, hkey⟩⟩, by rw [complaint, if_pos hkey.mem]; rfl⟩
      · next hempty =>
        rw [List.isEmpty_iff] at hempty
        exact ⟨hcounts, key, rest, hkey, hempty, rfl, Setting.means_read rest⟩

/-! ## Gathering -/

/-- The bindings of lines, or where the first bad line is and what is wrong with it. -/
def gather : List (List Char) → Except (Nat × LineError) (List (String × Setting))
  | [] => .ok []
  | line :: rest =>
    match Line.read line, gather rest with
    | .bad error, _ => .error (0, error)
    | _, .error (n, error) => .error (n + 1, error)
    | .skipped, .ok bindings => .ok bindings
    | .binding key value, .ok bindings => .ok ((key, value) :: bindings)

def settle (number : Nat) (settings : Settings) :
    Except (Nat × LineError) (List (String × Setting)) → Except Failure Settings
  | .ok bindings => .ok (settings.insertAll bindings)
  | .error (n, error) => .error (.configuration s!"line {number + n}" error.message)

theorem readLines_eq (number : Nat) (settings : Settings) (lines : List (List Char)) :
    readLines number settings lines = settle number settings (gather lines) := by
  induction lines generalizing number settings with
  | nil => rfl
  | cons line rest ih =>
    rw [readLines, gather]
    cases Line.read line with
    | bad error => rfl
    | skipped =>
      dsimp only
      rw [ih]
      rcases gather rest with ⟨n, error⟩ | bindings
      · simp only [settle, Nat.add_right_comm, ← Nat.add_assoc]
      · rfl
    | binding key value =>
      dsimp only
      rw [ih]
      rcases gather rest with ⟨n, error⟩ | bindings
      · simp only [settle, Nat.add_right_comm, ← Nat.add_assoc]
      · rfl

theorem gather_append (lines lines' : List (List Char)) :
    gather (lines ++ lines') = match gather lines, gather lines' with
      | .error e, _ => .error e
      | .ok _, .error (n, error) => .error (lines.length + n, error)
      | .ok bindings, .ok bindings' => .ok (bindings ++ bindings') := by
  induction lines with
  | nil => rcases h : gather lines' with ⟨n, error⟩ | bindings' <;> simp [gather, h]
  | cons line rest ih =>
    rw [List.cons_append, gather, gather, ih]
    cases Line.read line <;> rcases gather rest with ⟨n, error⟩ | bindings <;>
      rcases gather lines' with ⟨n', error'⟩ | bindings' <;> simp [Nat.add_right_comm]

theorem gather_congr {lines lines' : List (List Char)}
    (h : lines.map (Text.trimWith Text.isBlank) = lines'.map (Text.trimWith Text.isBlank)) :
    gather lines = gather lines' := by
  induction lines generalizing lines' with
  | nil =>
    rw [List.map_nil, eq_comm, List.map_eq_nil_iff] at h
    rw [h]
  | cons line rest ih =>
    cases lines' with
    | nil => cases h
    | cons line' rest' =>
      rw [List.map_cons, List.map_cons, List.cons.injEq] at h
      rw [gather, gather, Line.read, Line.read, h.1, ih h.2]

def Gathered (lines : List (List Char)) : Except (Nat × LineError) (List (String × Setting)) → Prop
  | .ok bindings => Gathers lines bindings
  | .error (n, error) => ∃ line, FirstBad lines n line ∧ error.message = complaint line

theorem gathered_gather (lines : List (List Char)) :
    Gathered (lines.map (Text.trimWith Text.isBlank)) (gather lines) := by
  induction lines with
  | nil => exact .nil
  | cons line rest ih =>
    have hline := Line.means_read line
    have hlater {n : Nat} {error : LineError} (hcounts : ¬ Bad (Text.trimWith Text.isBlank line))
        (h : ∃ bad, FirstBad (rest.map (Text.trimWith Text.isBlank)) n bad ∧ error.message = complaint bad) :
        ∃ bad, FirstBad ((line :: rest).map (Text.trimWith Text.isBlank)) (n + 1) bad ∧
          error.message = complaint bad := by
      obtain ⟨bad, ⟨hat, hbad, hearlier⟩, hmessage⟩ := h
      exact ⟨bad, ⟨hat, hbad, List.forall_mem_cons.2 ⟨hcounts, hearlier⟩⟩, hmessage⟩
    rw [gather]
    generalize gather rest = gathered at ih ⊢
    cases hread : Line.read line with
    | bad error =>
      rw [hread] at hline
      exact ⟨_, ⟨rfl, hline.1, fun _ h => absurd h List.not_mem_nil⟩, hline.2⟩
    | skipped =>
      rw [hread] at hline
      rcases gathered with ⟨n, error⟩ | bindings
      · exact hlater (fun h => h.1 hline) ih
      · exact .ignored hline ih
    | binding key value =>
      rw [hread] at hline
      rcases gathered with ⟨n, error⟩ | bindings
      · exact hlater hline.not_bad ih
      · exact .binds hline ih

/-! ## Texts -/

theorem trimmedLines_eq (content : String) :
    trimmedLines content = (Text.splitOn '\n' content.toList).map (Text.trimWith Text.isBlank) := by
  unfold trimmedLines
  rw [← Text.splitOn_eq]
  have hne := Text.splitOn_ne_nil '\n' content.toList
  generalize Text.splitOn '\n' content.toList = pieces at hne
  have htrim : Text.trimWith Text.isBlank ∘ Text.dropReturn = Text.trimWith Text.isBlank :=
    funext Text.trimWith_dropReturn
  rw [List.map_append, List.map_map, htrim, List.getLast?_eq_some_getLast hne, Option.toList_some, ← List.map_append,
    List.dropLast_append_getLast hne]

theorem read_eq (content : String) : read content = settle 1 .empty (gather (Text.splitOn '\n' content.toList)) := by
  rw [read, readLines_eq]
  have hne := Text.splitOn_ne_nil '\n' content.toList
  congr 1
  unfold Text.lines
  generalize Text.splitOn '\n' content.toList = pieces at hne
  have hlast : pieces.getLastD [] = pieces.getLast hne := by
    rw [List.getLastD_eq_getLast?, List.getLast?_eq_some_getLast hne, Option.getD_some]
  have htrim : Text.trimWith Text.isBlank ∘ Text.dropReturn = Text.trimWith Text.isBlank :=
    funext Text.trimWith_dropReturn
  have hfront : gather (pieces.dropLast.map Text.dropReturn) = gather pieces.dropLast :=
    gather_congr (by rw [List.map_map, htrim])
  dsimp only
  rw [gather_append, hfront, hlast]
  conv_rhs => rw [← List.dropLast_append_getLast hne, gather_append, List.length_dropLast]
  split_ifs with hempty
  · have hnothing : gather [[]] = .ok [] := rfl
    rw [List.isEmpty_iff] at hempty
    rw [hempty, hnothing]
    cases gather pieces.dropLast <;> rfl
  · rw [List.length_map, List.length_dropLast]

theorem Gathers.not_bad {lines : List (List Char)} {bindings : List (String × Setting)} (h : Gathers lines bindings) :
    ∀ line ∈ lines, ¬ Bad line := by
  induction h with
  | nil => exact fun _ hline => absurd hline List.not_mem_nil
  | ignored hline _ ih => exact List.forall_mem_cons.2 ⟨fun hbad => hbad.1 hline, ih⟩
  | binds hline _ ih => exact List.forall_mem_cons.2 ⟨hline.not_bad, ih⟩

/-- Reading settings fails exactly if a line is bad, and then it names the first such line and what is wrong with it.
Otherwise the keys are those that lines bind, in the order of their first bindings, each with the value of its last
binding. So of two texts with a line feed between them the settings are those of the one, followed and overwritten by
those of the other, unless reading one of them fails; and if that is the second, its line is counted from the first. -/
theorem read_meaning :
    (∀ content, let lines := trimmedLines content
      ((∃ line ∈ lines, Bad line) → ∃ n line, FirstBad lines n line ∧
        read content = .error (.configuration s!"line {n + 1}" (complaint line))) ∧
      ((∀ line ∈ lines, ¬ Bad line) → ∃ settings bindings, read content = .ok settings ∧ Gathers lines bindings ∧
        settings.keys = (bindings.map Prod.fst).eraseDups ∧
        ∀ key, settings.get? key = bindings.reverse.lookup key)) ∧
    ∀ a b : String, let feeds := a.toList.count '\n'
      match read a, read b with
      | .error e, _ => read (a ++ "\n" ++ b) = .error e
      | .ok _, .error e => ∃ (n : Nat) (reason : String), e = .configuration s!"line {n}" reason ∧
        read (a ++ "\n" ++ b) = .error (.configuration s!"line {n + (1 + feeds)}" reason)
      | .ok settings, .ok settings' => ∃ both, read (a ++ "\n" ++ b) = .ok both ∧
        both.keys = settings.keys ++ settings'.keys.filter (· ∉ settings.keys) ∧
        ∀ key, both.get? key = (settings'.get? key).or (settings.get? key) := by
  refine ⟨fun content => ?_, fun a b => ?_⟩
  · intro lines
    have hgathered := gathered_gather (Text.splitOn '\n' content.toList)
    rw [← trimmedLines_eq] at hgathered
    rw [read_eq]
    generalize gather (Text.splitOn '\n' content.toList) = gathered at hgathered ⊢
    rcases gathered with ⟨n, error⟩ | bindings
    · obtain ⟨line, hfirst, hmessage⟩ := hgathered
      refine ⟨fun _ => ⟨n, line, hfirst, ?_⟩, fun hnone => ?_⟩
      · rw [settle, hmessage, Nat.add_comm]
      · exact absurd hfirst.2.1 (hnone line (List.mem_of_getElem? hfirst.1))
    · refine ⟨fun ⟨line, hline, hbad⟩ => absurd hbad (hgathered.not_bad line hline), fun _ => ?_⟩
      refine ⟨_, bindings, rfl, hgathered, OrderedMap.keys_ofList bindings, fun key => ?_⟩
      rw [OrderedMap.get?_insertAll]
      exact Option.or_none
  · intro feeds
    have hpieces : Text.splitOn '\n' (a ++ "\n" ++ b).toList =
        Text.splitOn '\n' a.toList ++ Text.splitOn '\n' b.toList := by
      rw [String.toList_append, String.toList_append, List.append_assoc]
      exact Text.splitOn_append_cons _ _
    have hlength := Text.length_splitOn '\n' a.toList
    rw [read_eq, read_eq, read_eq, hpieces, gather_append]
    rcases gather (Text.splitOn '\n' a.toList) with ⟨n, error⟩ | bindings
    · rfl
    · rcases gather (Text.splitOn '\n' b.toList) with ⟨n, error⟩ | bindings'
      · refine ⟨1 + n, error.message, rfl, ?_⟩
        have hline : 1 + ((Text.splitOn '\n' a.toList).length + n) = 1 + n + (1 + a.toList.count '\n') := by omega
        rw [settle, hline]
      · have hboth : OrderedMap.empty.insertAll (bindings ++ bindings') =
            (OrderedMap.empty.insertAll bindings).insertAll bindings' := List.foldl_append
        refine ⟨_, rfl, ?_, fun key => ?_⟩
        · rw [hboth, OrderedMap.keys_insertAll]
          rfl
        · rw [hboth, OrderedMap.get?_insertAll, OrderedMap.get?_insertAll .empty bindings']
          exact congrArg₂ _ Option.or_none.symm rfl

end Settings

end SpacewalkAcquire
