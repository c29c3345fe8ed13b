import SpacewalkAcquire.Proofs.Xml.Scanning

/-!
# Markup within documents

* `Meets front markup tokens opened` : the reader of the document `front ++ markup` comes to `markup` between two
  tokens;
* `Meets.tokens_markup` : it then reads any other markup in this place as it stands there.
-/

namespace SpacewalkAcquire.Xml

variable {opened : List String} {tokens : List Token}

theorem body_append_markup {markup : String} (h : markup.toList.head? = some '<') (front : String) :
    body (front ++ markup) = body front ++ markup.toList := by
  obtain ⟨rest, hmarkup⟩ := List.head?_eq_some_iff.1 h
  unfold body
  rw [String.toList_append, hmarkup]
  cases front.toList with
  | nil => rfl
  | cons c cs =>
    rw [List.cons_append]
    split
    · next heq =>
      obtain ⟨rfl, rfl⟩ := List.cons.inj heq
      rfl
    · next hmark =>
      split
      · next heq =>
        obtain ⟨rfl, -⟩ := List.cons.inj heq
        exact (hmark _ rfl).elim
      · rfl

/-- In the document `front ++ markup` the reader comes to `markup`, and to nothing but white space before it, when it
has read `tokens` and the tags `opened` are open. -/
def Meets (front markup : String) (tokens : List Token) (opened : List String) : Prop :=
  markup.toList.head? = some '<' ∧
    ∃ rest, Scans [] (body (front ++ markup)) tokens opened rest ∧ rest.dropWhile isSpace = markup.toList

/-- The reader comes to `markup` behind a text that it reads completely, whatever follows. -/
theorem meets_of_scans {front markup : String} (hfront : front.toList.head? = some '<')
    (hscans : ∀ rest, Scans [] (front.toList ++ rest) tokens opened rest) (hmarkup : markup.toList.head? = some '<') :
    Meets front markup tokens opened := by
  obtain ⟨cs, hcs⟩ := List.head?_eq_some_iff.1 hfront
  obtain ⟨rest, hrest⟩ := List.head?_eq_some_iff.1 hmarkup
  have hbody : body front = front.toList := by
    unfold body
    rw [hcs]
    rfl
  refine ⟨hmarkup, markup.toList, ?_, ?_⟩
  · rw [body_append_markup hmarkup, hbody]
    exact hscans markup.toList
  · rw [hrest]
    rfl

/-- `markup'` is read as it stands in the place of `markup`. -/
theorem Meets.tokens_markup {front markup markup' : String} (h : Meets front markup tokens opened)
    (hmarkup' : markup'.toList.head? = some '<') :
    Xml.tokens (front ++ markup') = (tokensFrom opened markup'.toList).behind tokens := by
  obtain ⟨hmarkup, rest, hscans, hrest⟩ := h
  have hblank : ∀ c ∈ rest.takeWhile isSpace, isSpace c = true := fun _ => List.mem_takeWhile_imp
  have hsplit := List.takeWhile_append_dropWhile (p := isSpace) (l := rest)
  rw [hrest] at hsplit
  generalize rest.takeWhile isSpace = blanks at hblank hsplit
  subst hsplit
  obtain ⟨_, hbehind⟩ := List.head?_eq_some_iff.1 hmarkup
  obtain ⟨before, hbody, hreplace⟩ := hscans.replace (by simp [hbehind])
  rw [body_append_markup hmarkup, ← List.append_assoc, List.append_left_inj] at hbody
  have hhead : (blanks ++ markup'.toList).head? = (blanks ++ markup.toList).head? := by
    cases blanks with
    | nil => exact hmarkup'.trans hmarkup.symm
    | cons => rfl
  have hscans' : Scans [] (body (front ++ markup')) tokens opened (blanks ++ markup'.toList) := by
    rw [body_append_markup hmarkup', hbody, List.append_assoc]
    exact hreplace _ hhead
  rw [hscans'.tokens_eq, reads_blank hblank]
  rfl

end SpacewalkAcquire.Xml
