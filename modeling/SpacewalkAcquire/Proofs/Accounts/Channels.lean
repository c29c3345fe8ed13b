import SpacewalkAcquire.Proofs.Accounts.Answer

/-!
# The base channel in a listing

* `Labelled item label`, `Parentless item` : an item of a listing is a struct with a scalar label, and without a parent;
* `Describes item c` : a channel has the label and the parent of an item;
* `ofValue_eq_ok_iff`, `listOfValue_eq_ok_iff` : a listing gives one channel for each of its items, in their order;
* `baseLabel_eq_ok_iff` : of several base channels the last one counts;
* `BaseLabel v label`, `Unresolvable v` : what a listing says of the base channel, by its items only;
* `resolution` : so the base channel of every listing is found, or the listing fails.
-/

namespace SpacewalkAcquire.Channel

open XmlRpc (Value)

variable {item v : Value} {items : List Value} {c : Channel} {channels : List Channel} {label : String} {e : Failure}

/-! ## Items -/

/-- An item of a listing is a `struct` with that label, a scalar. -/
def Labelled (item : Value) (label : String) : Prop := ∃ members, item = .struct members ∧ HasText members "label" label

/-- An item of a listing is a `struct` whose parent is absent, no scalar, or an empty text. -/
def Parentless (item : Value) : Prop :=
  ∃ members, item = .struct members ∧ ∀ text, HasText members "parent_channel" text → text = ""

/-- A channel has the label of `item`, and the text of its parent if that is a scalar. -/
def Describes (item : Value) (c : Channel) : Prop :=
  ∃ members, item = .struct members ∧ HasText members "label" c.label ∧
    (HasText members "parent_channel" c.parent ∨ (∀ text, ¬ HasText members "parent_channel" text) ∧ c.parent = "")

/-- An item names no member twice. -/
def Distinct (item : Value) : Prop := ∀ members, item = .struct members → (members.map Prod.fst).Nodup

theorem Describes.labelled (h : Describes item c) : Labelled item c.label := by
  obtain ⟨members, hitem, hlabel, -⟩ := h
  exact ⟨members, hitem, hlabel⟩

theorem Labelled.exists_describes (h : Labelled item label) : ∃ c, Describes item c := by
  obtain ⟨members, hitem, hlabel⟩ := h
  by_cases hparent : ∃ text, HasText members "parent_channel" text
  · obtain ⟨text, htext⟩ := hparent
    exact ⟨⟨label, text⟩, members, hitem, hlabel, .inl htext⟩
  · exact ⟨⟨label, ""⟩, members, hitem, hlabel, .inr ⟨fun text htext => hparent ⟨text, htext⟩, rfl⟩⟩

theorem Labelled.eq_label (hitem : Distinct item) (h : Labelled item label) (hc : Describes item c) :
    c.label = label := by
  obtain ⟨members, rfl, hlabel⟩ := h
  obtain ⟨_, heq, hlabel', -⟩ := hc
  cases heq
  exact HasText.unique (hitem members rfl) hlabel' hlabel

/-- What `Describes` an item is a base channel if the item is `Parentless`. -/
theorem Describes.isBase_iff (hitem : Distinct item) (h : Describes item c) : c.isBase = true ↔ Parentless item := by
  obtain ⟨members, rfl, -, hparent⟩ := h
  rw [isBase, String.isEmpty_iff]
  constructor
  · intro hbase
    refine ⟨members, rfl, fun text htext => ?_⟩
    rcases hparent with hparent | ⟨hnone, -⟩
    · exact (HasText.unique (hitem members rfl) htext hparent).trans hbase
    · exact (hnone text htext).elim
  · rintro ⟨_, heq, hempty⟩
    cases heq
    exact hparent.elim (hempty _) And.right

theorem ofValue_struct (members : List (String × Value)) :
    ofValue (.struct members) = match (Bindings.get? members "label").bind Value.scalarText? with
      | some label => .ok ⟨label, ((Bindings.get? members "parent_channel").bind Value.scalarText?).getD ""⟩
      | none => .error (.channelResolution "channel entry has no label") := by
  unfold ofValue
  dsimp only [Value.members?]
  rw [pure_bind]
  cases Option.bind (Bindings.get? members "label") Value.scalarText? <;> rfl

theorem ofValue_eq_ok_iff (hitem : Distinct item) : ofValue item = .ok c ↔ Describes item c := by
  cases item with
  | struct members =>
    have hlabel := hasText_iff (hitem members rfl) "label"
    have hparent := hasText_iff (hitem members rfl) "parent_channel"
    rw [ofValue_struct]
    constructor
    · intro h
      cases hget : (Bindings.get? members "label").bind Value.scalarText? with
      | none =>
        rw [hget] at h
        cases h
      | some label =>
        rw [hget] at h
        cases h
        refine ⟨members, rfl, (hlabel label).2 hget, ?_⟩
        cases hget' : (Bindings.get? members "parent_channel").bind Value.scalarText? with
        | none => exact .inr ⟨fun text htext => (nomatch hget'.symm.trans ((hparent text).1 htext)), rfl⟩
        | some text => exact .inl ((hparent text).2 hget')
    · rintro ⟨_, heq, htext, hrest⟩
      cases heq
      rw [(hlabel c.label).1 htext]
      rcases hrest with hrest | ⟨hnone, hempty⟩
      · rw [(hparent c.parent).1 hrest]
        rfl
      · have hget' : (Bindings.get? members "parent_channel").bind Value.scalarText? = none :=
          Option.eq_none_iff_forall_ne_some.2 fun text htext => hnone text ((hparent text).2 htext)
        rw [hget']
        rw [Option.getD_none, ← hempty]
  | _ => exact ⟨fun h => (nomatch h), fun ⟨_, heq, _⟩ => (nomatch heq)⟩

theorem ofValue_error (h : ofValue item = .error e) : ∃ reason, e = .channelResolution reason := by
  cases item with
  | struct members =>
    rw [ofValue_struct] at h
    split at h
    · cases h
    · cases h
      exact ⟨_, rfl⟩
  | _ =>
    cases h
    exact ⟨_, rfl⟩

/-! ## Listings -/

/-- `listOfValue` gives one channel for each item, in their order. -/
theorem listOfValue_eq_ok_iff (hitems : ∀ items, v = .array items → ∀ item ∈ items, Distinct item) :
    listOfValue v = .ok channels ↔ ∃ items, v = .array items ∧ List.Forall₂ Describes items channels := by
  cases v with
  | array items =>
    have hdistinct := hitems items rfl
    have hall : items.mapM ofValue = .ok channels ↔ List.Forall₂ Describes items channels := by
      rw [mapM_eq_ok_iff]
      clear hitems
      induction items generalizing channels with
      | nil => rw [List.forall₂_nil_left_iff, List.forall₂_nil_left_iff]
      | cons item rest ih =>
        rw [List.forall_mem_cons] at hdistinct
        rw [List.forall₂_cons_left_iff, List.forall₂_cons_left_iff]
        exact exists_congr fun c => exists_congr fun cs =>
          and_congr (ofValue_eq_ok_iff hdistinct.1) (and_congr_left' (ih hdistinct.2))
    exact hall.trans ⟨fun h => ⟨items, rfl, h⟩, fun ⟨_, heq, h⟩ => by cases heq; exact h⟩
  | _ => exact ⟨fun h => (nomatch h), fun ⟨_, heq, _⟩ => (nomatch heq)⟩

theorem listOfValue_error (h : listOfValue v = .error e) : ∃ reason, e = .channelResolution reason := by
  unfold listOfValue at h
  split at h
  · obtain ⟨item, -, hitem⟩ := exists_of_mapM_eq_error h
    exact ofValue_error hitem
  · cases h
    exact ⟨_, rfl⟩

theorem exists_forall₂_describes (h : ∀ item ∈ items, ∃ label, Labelled item label) :
    ∃ channels, List.Forall₂ Describes items channels := by
  induction items with
  | nil => exact ⟨[], .nil⟩
  | cons item rest ih =>
    rw [List.forall_mem_cons] at h
    obtain ⟨⟨label, hlabel⟩, hrest⟩ := h
    obtain ⟨c, hc⟩ := hlabel.exists_describes
    obtain ⟨channels, hchannels⟩ := ih hrest
    exact ⟨c :: channels, .cons hc hchannels⟩

theorem labelled_of_forall₂ (h : List.Forall₂ Describes items channels) :
    ∀ item ∈ items, ∃ label, Labelled item label := by
  induction h with
  | nil => exact List.forall_mem_nil _
  | cons hc _ ih => exact List.forall_mem_cons.2 ⟨⟨_, hc.labelled⟩, ih⟩

/-! ## Base channels -/

/-- Of several base channels the last one has the `baseLabel`. -/
theorem baseLabel_eq_ok_iff : baseLabel channels = .ok label ↔ ∃ before c after, channels = before ++ c :: after ∧
    c.isBase = true ∧ (∀ other ∈ after, ¬ other.isBase = true) ∧ c.label = label := by
  have hlast (c : Channel) : channels.reverse.find? isBase = some c ↔ ∃ before after, channels = before ++ c :: after ∧
      c.isBase = true ∧ ∀ other ∈ after, ¬ other.isBase = true := by
    rw [List.find?_eq_some_iff_append]
    constructor
    · rintro ⟨hbase, after, before, hsplit, hafter⟩
      refine ⟨before.reverse, after.reverse, ?_, hbase, by simpa using hafter⟩
      rw [← List.reverse_reverse channels, hsplit]
      simp
    · rintro ⟨before, after, rfl, hbase, hafter⟩
      exact ⟨hbase, after.reverse, before.reverse, by simp, by simpa using hafter⟩
  unfold baseLabel
  constructor
  · intro h
    cases hfind : channels.reverse.find? isBase with
    | none =>
      rw [hfind] at h
      cases h
    | some c =>
      rw [hfind] at h
      obtain ⟨before, after, hsplit, hbase, hafter⟩ := (hlast c).1 hfind
      exact ⟨before, c, after, hsplit, hbase, hafter, Except.ok.inj h⟩
  · rintro ⟨before, c, after, hsplit, hbase, hafter, rfl⟩
    rw [(hlast c).2 ⟨before, after, hsplit, hbase, hafter⟩]

theorem baseLabel_error (h : baseLabel channels = .error e) :
    (∃ reason, e = .channelResolution reason) ∧ ∀ c ∈ channels, ¬ c.isBase = true := by
  unfold baseLabel at h
  split at h
  · cases h
  · next hnone =>
    cases h
    exact ⟨⟨_, rfl⟩, by simpa using hnone⟩

/-! ## What a listing says of the base channel -/

/-- All items of an array have labels, and the last one that is `Parentless` has this one. -/
def BaseLabel (v : Value) (label : String) : Prop :=
  ∃ before item after, v = .array (before ++ item :: after) ∧ Parentless item ∧ (∀ other ∈ after, ¬ Parentless other) ∧
    Labelled item label ∧ ∀ other ∈ before ++ item :: after, ∃ label, Labelled other label

/-- There is no array, or an item without a label anywhere in it, or no item without a parent. -/
def Unresolvable (v : Value) : Prop :=
  ∀ items, v = .array items → (∃ item ∈ items, ∀ label, ¬ Labelled item label) ∨ ∀ item ∈ items, ¬ Parentless item

theorem BaseLabel.not_unresolvable (h : BaseLabel v label) : ¬ Unresolvable v := by
  obtain ⟨before, item, after, rfl, hparentless, -, -, hlabels⟩ := h
  intro hnot
  rcases hnot _ rfl with ⟨other, hother, hnone⟩ | hnone
  · obtain ⟨label, hlabel⟩ := hlabels other hother
    exact hnone label hlabel
  · exact hnone item (by simp) hparentless

/-- Of an array whose items name no member twice, a `BaseLabel` is found where there is one, and else the resolution
fails. -/
structure Resolution (v : Value) : Prop where
  channels : ∀ channels, listOfValue v = .ok channels ↔ ∃ items, v = .array items ∧ List.Forall₂ Describes items channels
  label : ∀ label, (listOfValue v >>= baseLabel) = .ok label ↔ BaseLabel v label
  failure : (∃ reason, (listOfValue v >>= baseLabel) = .error (.channelResolution reason)) ↔ Unresolvable v
  failures : ∀ e, (listOfValue v >>= baseLabel) = .error e → ∃ reason, e = .channelResolution reason

section Resolution

variable (hitems : ∀ items, v = .array items → ∀ item ∈ items, Distinct item)

include hitems

theorem bind_baseLabel_eq_ok_iff : (listOfValue v >>= baseLabel) = .ok label ↔ BaseLabel v label := by
  rw [bind_eq_ok]
  constructor
  · rintro ⟨channels, hchannels, hbase⟩
    obtain ⟨items, rfl, hdescribes⟩ := (listOfValue_eq_ok_iff hitems).1 hchannels
    have hlabels := labelled_of_forall₂ hdescribes
    have hdistinct := hitems items rfl
    obtain ⟨_, c, _, rfl, hc, hback, rfl⟩ := baseLabel_eq_ok_iff.1 hbase
    obtain ⟨before, item, after, rfl, hitem, hafter⟩ := exists_split hdescribes
    refine ⟨before, item, after, rfl, (hitem.isBase_iff (hdistinct item (by simp))).1 hc, fun other hother hnone => ?_,
      hitem.labelled, hlabels⟩
    obtain ⟨c', hc', hdescribed⟩ := exists_of_mem_right hafter.flip hother
    exact hback c' hc' ((Describes.isBase_iff (hdistinct other (by simp [hother])) hdescribed).2 hnone)
  · rintro ⟨before, item, after, rfl, hparentless, hafter, hlabel, hlabels⟩
    obtain ⟨channels, hdescribes⟩ := exists_forall₂_describes hlabels
    have hdistinct := hitems _ rfl
    refine ⟨channels, (listOfValue_eq_ok_iff hitems).2 ⟨_, rfl, hdescribes⟩, ?_⟩
    obtain ⟨front, c, back, rfl, hc, hback⟩ := exists_split hdescribes.flip
    have hitem := hdistinct item (by simp)
    refine baseLabel_eq_ok_iff.2 ⟨front, c, back, rfl, (Describes.isBase_iff hitem hc).2 hparentless,
      fun c' hc' hbase => ?_, hlabel.eq_label hitem hc⟩
    obtain ⟨other, hother, hdescribed⟩ := exists_of_mem_right hback.flip hc'
    exact hafter other hother ((Describes.isBase_iff (hdistinct other (by simp [hother])) hdescribed).1 hbase)

theorem resolution_of_distinct : Resolution v where
  channels _ := listOfValue_eq_ok_iff hitems
  label _ := bind_baseLabel_eq_ok_iff hitems
  failures e he := by
    rcases bind_eq_error.1 he with he | ⟨channels, -, he⟩
    · exact listOfValue_error he
    · exact (baseLabel_error he).1
  failure := by
    constructor
    · rintro ⟨reason, herror⟩ items rfl
      have hdistinct := hitems items rfl
      by_cases hlabels : ∀ item ∈ items, ∃ label, Labelled item label
      · obtain ⟨channels, hdescribes⟩ := exists_forall₂_describes hlabels
        rw [(listOfValue_eq_ok_iff hitems).2 ⟨items, rfl, hdescribes⟩] at herror
        refine .inr fun item hitem hnone => ?_
        obtain ⟨c, hc, hdescribed⟩ := exists_of_mem_right hdescribes.flip hitem
        exact (baseLabel_error herror).2 c hc ((Describes.isBase_iff (hdistinct item hitem) hdescribed).2 hnone)
      · push Not at hlabels
        exact .inl hlabels
    · intro hnot
      cases hresult : listOfValue v >>= baseLabel with
      | error e =>
        rcases bind_eq_error.1 hresult with he | ⟨channels, -, he⟩
        · obtain ⟨reason, rfl⟩ := listOfValue_error he
          exact ⟨reason, rfl⟩
        · obtain ⟨⟨reason, rfl⟩, -⟩ := baseLabel_error he
          exact ⟨reason, rfl⟩
      | ok label => exact (((bind_baseLabel_eq_ok_iff hitems).1 hresult).not_unresolvable hnot).elim

end Resolution

/-- In every value of a response the base channel is found where there is one, and else its resolution fails. -/
theorem resolution {document : String} (h : XmlRpc.decode document = .ok v) : Resolution v :=
  resolution_of_distinct fun _ hv _ hitem _ heq =>
    XmlRpc.nodup_of_decode_array (hv ▸ h) (heq ▸ hitem)

/-- Of two base channels the last one counts, also if the text of its parent is empty or no text. -/
example :
    let entry (label : String) (parent : Value) := Value.struct [("label", .string label), ("parent_channel", parent)]
    (listOfValue (.array [entry "a" (.string ""), entry "b" .null, entry "c" (.string "b")]) >>= baseLabel) =
      .ok "b" := by
  rfl

end SpacewalkAcquire.Channel
