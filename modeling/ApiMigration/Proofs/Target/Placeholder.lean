import ApiMigration.Proofs.Text.Lines
import ApiMigration.Target.Placeholder

/-!
Placeholder lines against the whole text. A mark that stands on one line is found line by line
exactly when it is found in the text; a mark with a line feed is on no line.
-/

namespace ApiMigration.Text

section Infix

variable {mark left right : List Char} {c : Char}

theorem infix_append_cons_iff (absent : c ∉ mark) :
    mark <:+: left ++ c :: right ↔ mark <:+: left ∨ mark <:+: right := by
  constructor
  · intro inside
    induction left with
    | nil =>
      rw [List.nil_append, List.infix_cons_iff] at inside
      refine inside.imp_left ?_
      intro begins
      have short : mark <+: [] := isPrefix_of_isPrefix_cons absent begins
      exact short.isInfix
    | cons d left ih =>
      rw [List.cons_append, List.infix_cons_iff] at inside
      rcases inside with begins | further
      · have short : mark <+: d :: left := isPrefix_of_isPrefix_cons absent begins
        exact .inl short.isInfix
      · exact (ih further).imp_left List.infix_cons
  · intro either
    rcases either with first | second
    · exact first.trans (List.prefix_append _ _).isInfix
    · exact second.trans ((List.suffix_cons c right).trans (List.suffix_append _ _)).isInfix

theorem infix_of_infix_concat (ends : mark.getLast? ≠ some c) (inside : mark <:+: left ++ [c]) :
    mark <:+: left := by
  obtain ⟨before, after, whole⟩ := inside
  rcases List.eq_nil_or_concat' after with rfl | ⟨more, last, rfl⟩
  · rcases List.eq_nil_or_concat' mark with rfl | ⟨front, last, rfl⟩
    · exact List.nil_infix
    · rw [List.append_nil, ← List.append_assoc] at whole
      obtain ⟨_, same⟩ := List.append_inj' whole rfl
      rw [List.getLast?_concat, List.singleton_inj.mp same] at ends
      exact absurd rfl ends
  · rw [← List.append_assoc] at whole
    exact ⟨before, more, (List.append_inj' whole rfl).1⟩

end Infix

section Shown

variable {mark line text : List Char}

theorem withoutEnd_eq_self (single : '\n' ∉ line) : withoutEnd line = line := by
  rcases List.eq_nil_or_concat' line with rfl | ⟨front, c, rfl⟩
  · rfl
  · have other : c ≠ '\n' := by
      rintro rfl
      simp at single
    simp [withoutEnd, other]

theorem withoutEnd_feed (line : List Char) :
    withoutEnd (line ++ ['\n']) = line ∨ line = withoutEnd (line ++ ['\n']) ++ ['\r'] := by
  rcases List.eq_nil_or_concat' line with rfl | ⟨front, c, rfl⟩
  · exact .inl rfl
  · by_cases carriage : c = '\r'
    · right
      simp [withoutEnd, carriage]
    · left
      simp [withoutEnd, carriage]

theorem feed_not_mem_shownLines (shown : line ∈ shownLines text) : '\n' ∉ line := by
  obtain ⟨full, listed, rfl⟩ := List.mem_map.mp shown
  clear shown
  induction text using line_induction with
  | nil => cases listed
  | last line solid single =>
    rw [fullLines_last solid single, List.mem_singleton] at listed
    rw [listed, withoutEnd_eq_self single]
    exact single
  | line line rest single ih =>
    rw [fullLines_line single] at listed
    rcases List.mem_cons.mp listed with rfl | later
    · intro feed
      rcases withoutEnd_feed line with same | carriage
      · exact single (same ▸ feed)
      · rw [carriage] at single
        exact single (List.mem_append_left _ feed)
    · exact ih later

/-- A mark on one line, the last character of which is no carriage return, is in a text exactly when
it is on some line of it. -/
theorem contains_iff_exists_shownLine (solid : mark ≠ []) (single : '\n' ∉ mark)
    (ends : mark.getLast? ≠ some '\r') :
    contains mark text = true ↔ ∃ line ∈ shownLines text, contains mark line = true := by
  simp only [contains_iff_isInfix]
  induction text using line_induction with
  | nil => simp [shownLines, fullLines, solid]
  | last line full lineSingle =>
    simp [shownLines, fullLines_last full lineSingle, withoutEnd_eq_self lineSingle]
  | line line rest lineSingle ih =>
    have first : mark <:+: withoutEnd (line ++ ['\n']) ↔ mark <:+: line := by
      rcases withoutEnd_feed line with same | carriage
      · rw [same]
      · constructor
        · intro inside
          rw [carriage]
          exact inside.trans (List.prefix_append _ _).isInfix
        · intro inside
          rw [carriage] at inside
          exact infix_of_infix_concat ends inside
    rw [infix_append_cons_iff single, ih, ← first]
    simp [shownLines, fullLines_line lineSingle]

end Shown

end ApiMigration.Text

namespace ApiMigration.Target

open Text

variable {path : Path} {text marker : String}

theorem path_of_mem_placeholders {hit : Placeholder}
    (listed : hit ∈ placeholders path text marker) : hit.path = path := by
  obtain ⟨⟨line, index⟩, _, found⟩ := List.mem_filterMap.mp listed
  simp only [Option.ite_none_right_eq_some, Option.some.injEq] at found
  rw [← found.2]

theorem placeholders_ne_nil_iff :
    placeholders path text marker ≠ [] ↔
      ∃ line ∈ shownLines text.toList, contains marker.toList line = true := by
  rw [placeholders, ne_eq, List.filterMap_eq_nil_iff, not_forall]
  constructor
  · rintro ⟨⟨line, index⟩, found⟩
    simp only [not_forall, ite_eq_right_iff, reduceCtorEq, imp_false, not_not] at found
    obtain ⟨listed, marked⟩ := found
    exact ⟨line, List.fst_mem_of_mem_zipIdx listed, marked⟩
  · rintro ⟨line, listed, marked⟩
    obtain ⟨index, bound, rfl⟩ := List.mem_iff_getElem.mp listed
    refine ⟨((shownLines text.toList)[index], index), ?_⟩
    simp [marked, List.mem_zipIdx_iff_getElem?, bound]

theorem placeholders_ne_nil_iff_holds (solid : marker ≠ "") (single : '\n' ∉ marker.toList)
    (ends : marker.toList.getLast? ≠ some '\r') :
    placeholders path text marker ≠ [] ↔ holds text marker = true := by
  have written : marker.toList ≠ [] := fun empty => solid (String.toList_eq_nil_iff.mp empty)
  rw [placeholders_ne_nil_iff, holds, contains_iff_exists_shownLine written single ends]

theorem placeholders_eq_nil_of_feed (feed : '\n' ∈ marker.toList) :
    placeholders path text marker = [] := by
  by_contra some
  obtain ⟨line, shown, marked⟩ := placeholders_ne_nil_iff.mp some
  exact feed_not_mem_shownLines shown ((contains_iff_isInfix.mp marked).subset feed)

end ApiMigration.Target
