import SpacewalkAcquire.Proofs.Settings.Meaning

/-!
# Settings by their lines

* `Settings.HasLines content lines` : the lines of a text that count, in any order and between lines that are ignored;
* `Settings.exists_read_of_hasLines` : if they bind different keys, these bindings are the settings;
* `Settings.Line.read_keyed` : a line with a key, an equals sign and a value;
* `Setting.read_single`, `Setting.read_closed` : a value without a semicolon, and with one at its end only.
-/

namespace SpacewalkAcquire

/-! ## Values -/

namespace Setting

variable {value : String}

/-- A value without `;` is a number if it spells one, and else a text, as it is written. -/
theorem read_single (h : ';' ∉ value.toList) :
    (∃ n, Text.SpellsInteger (Text.trim value).toList n ∧ read value.toList = .integer n) ∨
      (∀ n, ¬ Text.SpellsInteger (Text.trim value).toList n) ∧ read value.toList = .text (Text.trim value) := by
  have hmeans := means_read value.toList
  rw [← Text.toList_trim] at hmeans
  cases hread : read value.toList with
  | list items =>
    rw [hread] at hmeans
    exact absurd (Text.mem_of_mem_trim hmeans.1) h
  | integer n =>
    rw [hread] at hmeans
    exact .inl ⟨n, hmeans.2, rfl⟩
  | text s =>
    rw [hread] at hmeans
    exact .inr ⟨hmeans.2.1, by rw [hmeans.2.2, String.ofList_toList]⟩

/-- With `;` at its end a value is a list of one, as it is written. -/
theorem read_closed (h : ';' ∉ value.toList) (hcounts : Text.trim value ≠ "") :
    read (value ++ ";").toList = .list [Text.trim value] := by
  have hmark : Text.isBlank ';' = false := by decide
  have htrim : Text.trimWith Text.isBlank (value ++ ";").toList = value.toList.dropWhile Text.isBlank ++ [';'] := by
    have htext : (value ++ ";").toList = value.toList ++ [';'] := String.toList_append
    rw [htext, Text.trimWith, Text.dropWhile_append_cons_of_neg hmark, Text.trimEndWith_append_cons_of_neg hmark]
    rfl
  have hpieces : Text.splitOn ';' (value.toList.dropWhile Text.isBlank ++ [';']) =
      [value.toList.dropWhile Text.isBlank, []] := by
    rw [Text.splitOn_append_cons, Text.splitOn_of_not_mem fun hm => h ((List.dropWhile_suffix _).subset hm)]
    rfl
  have hitem : Text.trimWith Text.isBlank (value.toList.dropWhile Text.isBlank) = (Text.trim value).toList := by
    rw [Text.toList_trim, Text.trimWith, List.dropWhile_idempotent, Text.trimWith]
  have hfilled : (Text.trim value).toList ≠ [] := by rwa [ne_eq, String.toList_eq_nil_iff]
  unfold read
  dsimp only
  rw [htrim, if_pos (List.mem_append_right _ List.mem_cons_self), hpieces, List.map_cons, hitem, List.filter_cons,
    if_pos (decide_eq_true hfilled), List.map_cons, String.ofList_toList]
  rfl

end Setting

namespace Settings

/-! ## Lines -/

namespace Line

def binding? : Line → Option (String × Setting)
  | .binding key value => some (key, value)
  | _ => none

theorem read_trim (raw : List Char) : read (Text.trimWith Text.isBlank raw) = read raw := by
  rw [read, read, Text.trimWith_trimWith]

theorem read_of_ignored {line : List Char} (h : Ignored (Text.trimWith Text.isBlank line)) : read line = .skipped := by
  have hmeans := means_read line
  cases hread : read line with
  | skipped => rfl
  | bad error =>
    rw [hread] at hmeans
    exact absurd h hmeans.1.1
  | binding key value =>
    rw [hread] at hmeans
    exact absurd h hmeans.1

/-- A line that starts with a key and `=` binds the key. -/
theorem read_keyed (key value : String) (hkey : key.toList ≠ [] ∧ key.toList.head? ≠ some '#')
    (hmarks : '=' ∉ key.toList ∧ '[' ∉ key.toList) (htrim : Text.trimWith Text.isBlank key.toList = key.toList) :
    read (key ++ "=" ++ value).toList = .binding key (.read value.toList) := by
  have htext : (key ++ "=" ++ value).toList = key.toList ++ '=' :: value.toList := by simp
  obtain ⟨c, rest, hcons⟩ := List.exists_cons_of_ne_nil hkey.1
  rw [hcons] at hkey hmarks htrim
  have hc : Text.isBlank c = false := (Text.trimWith_eq_self_iff.1 htrim).1 c rfl
  have hcut : Text.cutAt '=' (c :: rest ++ '=' :: Text.trimEndWith Text.isBlank value.toList) =
      some (c :: rest, Text.trimEndWith Text.isBlank value.toList) := Text.cutAt_eq_some_iff.2 ⟨rfl, hmarks.1⟩
  have hvalue : Setting.read (Text.trimEndWith Text.isBlank value.toList) = Setting.read value.toList := by
    rw [Setting.read, Setting.read, Text.trimWith_trimEndWith_of_imp fun _ h => h]
  have hcounts : ¬ ((c :: rest ++ '=' :: Text.trimEndWith Text.isBlank value.toList).isEmpty ||
      (c :: rest ++ '=' :: Text.trimEndWith Text.isBlank value.toList).head? = some '#') = true := by
    simpa using hkey.2
  have hname : String.ofList (c :: rest) = key := by rw [← hcons, String.ofList_toList]
  rw [htext, hcons, read]
  dsimp only
  rw [Text.trimWith_cons_append_cons_of_neg hc (by decide), if_neg hcounts, hcut]
  dsimp only
  rw [htrim, if_neg hmarks.2, hvalue, hname]
  rfl

end Line

/-! ## Texts -/

/-- `lines` are those of a text that count, in any order and between lines that are ignored. -/
def HasLines (content : String) (lines : List String) : Prop :=
  ∃ ignored, (∀ line ∈ ignored, Ignored line) ∧
    (trimmedLines content).Perm ((lines.map fun line => (Text.trim line).toList) ++ ignored)

/-- Lines of which none is bad are gathered to what they bind. -/
theorem gather_of_not_bad {lines : List (List Char)} (h : ∀ line ∈ lines, ∀ error, Line.read line ≠ .bad error) :
    gather lines = .ok (lines.filterMap fun line => (Line.read line).binding?) := by
  induction lines with
  | nil => rfl
  | cons line rest ih =>
    have hline := h line List.mem_cons_self
    rw [gather, ih fun line hmem => h line (List.mem_cons_of_mem _ hmem), List.filterMap_cons]
    cases hread : Line.read line with
    | bad error => exact absurd hread (hline error)
    | skipped => rfl
    | binding key value => rfl

theorem exists_gather_of_perm {lines counting ignored : List (List Char)} {bindings : List (String × Setting)}
    (h : lines.Perm (counting ++ ignored))
    (hcounting : counting.map Line.read = bindings.map fun p => .binding p.1 p.2)
    (hignored : ∀ line ∈ ignored, Line.read line = .skipped) :
    ∃ bindings', gather lines = .ok bindings' ∧ bindings'.Perm bindings := by
  have hgood : ∀ line ∈ lines, ∀ error, Line.read line ≠ .bad error := by
    intro line hline error hbad
    rcases List.mem_append.1 (h.mem_iff.1 hline) with hline | hline
    · have hread := List.mem_map_of_mem (f := Line.read) hline
      rw [hcounting, hbad] at hread
      obtain ⟨p, -, hp⟩ := List.mem_map.1 hread
      cases hp
    · rw [hignored line hline] at hbad
      cases hbad
  have hbound : counting.filterMap (fun line => (Line.read line).binding?) = bindings := by
    have hsome : Line.binding? ∘ (fun p : String × Setting => .binding p.1 p.2) = some := rfl
    rw [← Function.comp_def Line.binding?, ← List.filterMap_map, hcounting, List.filterMap_map, hsome,
      List.filterMap_some]
  have hnothing : ignored.filterMap (fun line => (Line.read line).binding?) = [] :=
    List.filterMap_eq_nil_iff.2 fun line hline => congrArg Line.binding? (hignored line hline)
  have hperm := h.filterMap fun line => (Line.read line).binding?
  rw [List.filterMap_append, hbound, hnothing, List.append_nil] at hperm
  exact ⟨_, gather_of_not_bad hgood, hperm⟩

/-- Lines that bind different keys may stand in any order: their bindings are the settings. -/
theorem exists_read_of_hasLines {content : String} {lines : List String} {bindings : List (String × Setting)}
    (h : HasLines content lines)
    (hlines : (lines.map fun line => Line.read line.toList) = bindings.map fun p => .binding p.1 p.2)
    (hkeys : (bindings.map Prod.fst).Nodup) :
    ∃ settings, read content = .ok settings ∧
      ∀ key value, settings.get? key = some value ↔ (key, value) ∈ bindings := by
  obtain ⟨ignored, hignored, hperm⟩ := h
  have htrimmed : (trimmedLines content).map (Text.trimWith Text.isBlank) = trimmedLines content := by
    rw [trimmedLines_eq, List.map_map]
    exact List.map_congr_left fun line _ => Text.trimWith_trimWith Text.isBlank line
  have hcounting : (lines.map fun line => (Text.trim line).toList).map Line.read =
      bindings.map fun p => .binding p.1 p.2 := by
    rw [← hlines, List.map_map]
    refine List.map_congr_left fun line _ => ?_
    rw [Function.comp_apply, Text.toList_trim, Line.read_trim]
  have hskipped : ∀ line ∈ ignored, Line.read line = .skipped := by
    intro line hline
    have hmem := hperm.mem_iff.2 (List.mem_append_right _ hline)
    rw [← htrimmed] at hmem
    obtain ⟨raw, -, rfl⟩ := List.mem_map.1 hmem
    rw [Line.read_trim]
    exact Line.read_of_ignored (hignored _ hline)
  obtain ⟨bindings', hgather, hbindings⟩ := exists_gather_of_perm hperm hcounting hskipped
  have hread : gather (Text.splitOn '\n' content.toList) = .ok bindings' := by
    rw [← hgather]
    exact gather_congr (by rw [htrimmed, trimmedLines_eq])
  rw [read_eq, hread]
  exact ⟨_, rfl, OrderedMap.get?_insertAll_of_perm hbindings hkeys⟩

end Settings

end SpacewalkAcquire
