import ApiMigration.Proofs.Text.Lines
import ApiMigration.Report.Section
import Mathlib.Data.List.Induction

/-!
The marked region of a document. The search by lines is described by the text it finds: the end
marker is the first that has a begin marker above it, the begin marker the last one above that.
-/

namespace ApiMigration.Report

open Text

/-- Two markers as the search uses them: trimmed, on one line each, and different. -/
structure MarkerPair (opening closing : List Char) : Prop where
  openingTrimmed : trim opening = opening
  closingTrimmed : trim closing = closing
  openingSolid : opening ≠ []
  closingSolid : closing ≠ []
  openingSingle : '\n' ∉ opening
  closingSingle : '\n' ∉ closing
  distinct : opening ≠ closing

/-- No line with the begin marker is above one with the end marker. -/
def Unpaired (opening closing : List Char) (lines : List (List Char)) : Prop :=
  lines.Pairwise fun upper lower => trim upper = opening → trim lower ≠ closing

def Quiet (opening closing : List Char) (lines : List (List Char)) : Prop :=
  ∀ line ∈ lines, trim line ≠ opening ∧ trim line ≠ closing

def lastOpening (opening : List Char) (above : List (List Char)) (opened : Option Opening) :
    List (List Char) → Option Opening
  | [] => opened
  | line :: more =>
    lastOpening opening (line :: above)
      (if isMarkerLine opening line then some ⟨above, line⟩ else opened) more

theorem isMarkerLine_iff {marker line : List Char} :
    isMarkerLine marker line = true ↔ trim line = marker := by
  rw [isMarkerLine, beq_iff_eq]

theorem isMarkerLine_eq_false {marker line : List Char} (other : trim line ≠ marker) :
    isMarkerLine marker line = false := by
  rw [isMarkerLine, beq_eq_false_iff_ne]
  exact other

theorem afterMarker_blank_append {marker left : List Char} (trimmed : trim marker = marker)
    (solid : marker ≠ []) (blank : AllBlank left) (right : List Char) :
    afterMarker marker (left ++ marker ++ right) = right := by
  rw [afterMarker, upTo_blank_append trimmed solid blank, List.append_assoc, ← List.drop_drop,
    List.drop_left, List.drop_left]

theorem marker_line_split {marker line : List Char} (solid : marker ≠ [])
    (held : trim line = marker) :
    line = upTo marker line ++ marker ++ afterMarker marker line ∧
      AllBlank (upTo marker line) ∧ AllBlank (afterMarker marker line) := by
  obtain ⟨left, right, leftBlank, rightBlank, split⟩ := exists_trim_split line
  have trimmed : trim marker = marker := by rw [← held, trim_trim]
  rw [held] at split
  rw [split, upTo_blank_append trimmed solid leftBlank,
    afterMarker_blank_append trimmed solid leftBlank]
  exact ⟨rfl, leftBlank, rightBlank⟩

theorem marker_line_append {marker line : List Char} (solid : marker ≠ [])
    (held : trim line = marker) (rest : List Char) :
    line ++ rest = upTo marker line ++ (marker ++ (afterMarker marker line ++ rest)) := by
  have split := congrArg (· ++ rest) (marker_line_split solid held).1
  simpa only [List.append_assoc] using split

variable {opening closing : List Char}

theorem surroundingsFrom?_append {front : List (List Char)} {above : List (List Char)}
    {opened : Option Opening} (free : Unpaired opening closing front)
    (unclosed : opened = none ∨ ∀ line ∈ front, trim line ≠ closing) (back : List (List Char)) :
    surroundingsFrom? opening closing above opened (front ++ back) =
      surroundingsFrom? opening closing (front.reverse ++ above)
        (lastOpening opening above opened front) back := by
  induction front generalizing above opened with
  | nil => rfl
  | cons line front ih =>
    obtain ⟨below, freeBelow⟩ := List.pairwise_cons.mp free
    have passes : surroundingsFrom? opening closing above opened (line :: (front ++ back)) =
        surroundingsFrom? opening closing (line :: above)
          (if isMarkerLine opening line then some ⟨above, line⟩ else opened) (front ++ back) := by
      rcases unclosed with rfl | closed
      · rfl
      · have other := isMarkerLine_eq_false (closed line List.mem_cons_self)
        cases opened with
        | none => rfl
        | some start => simp only [surroundingsFrom?, other]
    have next : (if isMarkerLine opening line then some (Opening.mk above line) else opened) = none ∨
        ∀ lower ∈ front, trim lower ≠ closing := by
      by_cases held : isMarkerLine opening line = true
      · exact Or.inr fun lower member => below lower member (isMarkerLine_iff.mp held)
      · rcases unclosed with rfl | closed
        · exact Or.inl (if_neg held)
        · exact Or.inr fun lower member => closed lower (List.mem_cons_of_mem line member)
    rw [List.cons_append, passes, ih freeBelow next, lastOpening, List.reverse_cons,
      List.append_assoc, List.singleton_append]

/-- From a begin marker on, an end marker further down closes the region at the latest. Marker lines
in between move the begin down and the end up. -/
theorem surroundingsFrom?_bounds (pair : MarkerPair opening closing) {above : List (List Char)}
    {start : Opening} {middle lower : List (List Char)} {last : List Char}
    (inside : start.before opening <+: above.reverse.flatten) (held : trim last = closing) :
    ∃ later sooner,
      surroundingsFrom? opening closing above (some start) (middle ++ last :: lower) =
        some ⟨start.before opening ++ later,
          sooner ++ (afterMarker closing last ++ lower.flatten)⟩ ∧
      (Quiet opening closing middle → later = [] ∧ sooner = []) := by
  induction middle generalizing above start with
  | nil =>
    refine ⟨[], [], ?_, fun _ => ⟨rfl, rfl⟩⟩
    simp only [List.nil_append, surroundingsFrom?, isMarkerLine_iff.mpr held, List.append_nil]
  | cons line middle ih =>
    by_cases ends : trim line = closing
    · refine ⟨[], afterMarker closing line ++ middle.flatten ++ upTo closing last ++ closing, ?_, ?_⟩
      · simp only [List.cons_append, surroundingsFrom?, isMarkerLine_iff.mpr ends,
          List.append_nil, List.flatten_append, List.flatten_cons, List.append_assoc]
        rw [marker_line_append pair.closingSolid held lower.flatten]
      · intro quiet
        exact absurd ends (quiet line List.mem_cons_self).2
    · have passes : surroundingsFrom? opening closing above (some start)
          (line :: (middle ++ last :: lower)) =
          surroundingsFrom? opening closing (line :: above)
            (if isMarkerLine opening line then some ⟨above, line⟩ else some start)
            (middle ++ last :: lower) := by
        simp only [surroundingsFrom?, isMarkerLine_eq_false ends]
      by_cases begins : trim line = opening
      · obtain ⟨split, -, -⟩ := marker_line_split pair.openingSolid begins
        have nested : (Opening.mk above line).before opening <+:
            (line :: above).reverse.flatten := by
          refine ⟨opening ++ afterMarker opening line, ?_⟩
          rw [Opening.before, List.reverse_cons, List.flatten_append, List.flatten_singleton,
            List.append_assoc, ← List.append_assoc (upTo opening line), ← split]
        obtain ⟨later, sooner, found, -⟩ := ih nested
        obtain ⟨tail, whole⟩ := inside
        refine ⟨tail ++ upTo opening line ++ later, sooner, ?_, ?_⟩
        · rw [List.cons_append, passes, if_pos (isMarkerLine_iff.mpr begins), found, Opening.before,
            ← whole]
          simp only [List.append_assoc]
        · intro quiet
          exact absurd begins (quiet line List.mem_cons_self).1
      · have nested : start.before opening <+: (line :: above).reverse.flatten := by
          rw [List.reverse_cons, List.flatten_append, List.flatten_singleton]
          exact inside.trans (List.prefix_append _ _)
        obtain ⟨later, sooner, found, undisturbed⟩ := ih nested
        refine ⟨later, sooner, ?_, ?_⟩
        · rw [List.cons_append, passes, if_neg (by rw [isMarkerLine_iff]; exact begins), found]
        · intro quiet
          exact undisturbed fun other member => quiet other (List.mem_cons_of_mem line member)

theorem surroundingsFrom?_eq_none {lines : List (List Char)}
    (free : Unpaired opening closing lines) :
    surroundingsFrom? opening closing [] none lines = none := by
  rw [← List.append_nil lines, surroundingsFrom?_append free (Or.inl rfl)]
  rfl

theorem surroundingsFrom?_pair (pair : MarkerPair opening closing)
    {upper middle lower : List (List Char)} {first last : List Char}
    (free : Unpaired opening closing upper) (begins : trim first = opening)
    (ends : trim last = closing) :
    ∃ later sooner,
      surroundingsFrom? opening closing [] none (upper ++ first :: (middle ++ last :: lower)) =
        some ⟨upper.flatten ++ upTo opening first ++ later,
          sooner ++ (afterMarker closing last ++ lower.flatten)⟩ ∧
      (Quiet opening closing middle → later = [] ∧ sooner = []) := by
  have other : trim first ≠ closing := by
    rw [begins]
    exact pair.distinct
  let start : Opening := ⟨upper.reverse, first⟩
  have inside : start.before opening <+: (first :: upper.reverse).reverse.flatten := by
    refine ⟨opening ++ afterMarker opening first, ?_⟩
    have split := marker_line_append pair.openingSolid begins []
    simp only [List.append_nil] at split
    simp only [start, Opening.before, List.reverse_reverse, List.reverse_cons,
      List.flatten_append, List.flatten_singleton, List.append_assoc]
    rw [← split]
  obtain ⟨later, sooner, found, undisturbed⟩ := surroundingsFrom?_bounds pair inside ends
  refine ⟨later, sooner, ?_, undisturbed⟩
  rw [surroundingsFrom?_append free (Or.inl rfl), List.append_nil]
  have opened : isMarkerLine opening first = true := isMarkerLine_iff.mpr begins
  have passes (before : Option Opening) :
      surroundingsFrom? opening closing upper.reverse before (first :: (middle ++ last :: lower)) =
        surroundingsFrom? opening closing (first :: upper.reverse) (some start)
          (middle ++ last :: lower) := by
    cases before with
    | none => simp only [surroundingsFrom?, opened, if_true, start]
    | some held => simp only [surroundingsFrom?, isMarkerLine_eq_false other, opened, if_true, start]
  rw [passes, found]
  simp only [start, Opening.before, List.reverse_reverse]

theorem exists_last_opening {lines : List (List Char)} (held : ∃ line ∈ lines, trim line = opening) :
    ∃ upper first middle, lines = upper ++ first :: middle ∧ trim first = opening ∧
      ∀ line ∈ middle, trim line ≠ opening := by
  induction lines with
  | nil => simp at held
  | cons line lines ih =>
    by_cases later : ∃ lower ∈ lines, trim lower = opening
    · obtain ⟨upper, first, middle, rfl, begins, none⟩ := ih later
      exact ⟨line :: upper, first, middle, rfl, begins, none⟩
    · refine ⟨[], line, lines, rfl, ?_, fun lower member same => later ⟨lower, member, same⟩⟩
      obtain ⟨found, member, begins⟩ := held
      rcases List.mem_cons.mp member with rfl | member
      · exact begins
      · exact absurd ⟨found, member, begins⟩ later

theorem exists_nearest_pair {lines : List (List Char)} (paired : ¬ Unpaired opening closing lines) :
    ∃ upper first middle last lower, lines = upper ++ first :: (middle ++ last :: lower) ∧
      Unpaired opening closing upper ∧ trim first = opening ∧ trim last = closing ∧
      Quiet opening closing middle := by
  induction lines using List.reverseRecOn with
  | nil => exact absurd List.Pairwise.nil paired
  | append_singleton lines line ih =>
    by_cases free : Unpaired opening closing lines
    · have broken : ∃ upper ∈ lines, trim upper = opening ∧ trim line = closing := by
        by_contra none
        refine paired (List.pairwise_append.mpr ⟨free, List.pairwise_singleton _ _, ?_⟩)
        intro upper member lower single begins ends
        rw [List.mem_singleton.mp single] at ends
        exact none ⟨upper, member, begins, ends⟩
      obtain ⟨found, member, foundBegins, ends⟩ := broken
      obtain ⟨upper, first, middle, rfl, begins, unopened⟩ :=
        exists_last_opening ⟨found, member, foundBegins⟩
      obtain ⟨upperFree, belowFree, -⟩ := List.pairwise_append.mp free
      refine ⟨upper, first, middle, line, [], by simp, upperFree, begins, ends, ?_⟩
      intro other inside
      exact ⟨unopened other inside, (List.pairwise_cons.mp belowFree).1 other inside begins⟩
    · obtain ⟨upper, first, middle, last, lower, rfl, rest⟩ := ih free
      exact ⟨upper, first, middle, last, lower ++ [line], by simp, rest⟩

theorem unpaired_iff_solidLines (pair : MarkerPair opening closing) {text : List Char} :
    Unpaired opening closing (fullLines text) ↔
      (solidLines text).Pairwise fun upper lower => upper = opening → lower ≠ closing := by
  rw [solidLines, List.pairwise_filter, List.pairwise_map, Unpaired]
  refine List.Pairwise.iff ?_
  intro upper lower
  constructor
  · intro free _ _
    exact free
  · intro free begins ends
    exact free (by simp [begins, pair.openingSolid]) (by simp [ends, pair.closingSolid]) begins ends

theorem quiet_iff_solidLines (pair : MarkerPair opening closing) {text : List Char} :
    Quiet opening closing (fullLines text) ↔
      opening ∉ solidLines text ∧ closing ∉ solidLines text := by
  rw [mem_solidLines pair.openingSolid, mem_solidLines pair.closingSolid]
  constructor
  · intro quiet
    constructor
    · rintro ⟨line, member, begins⟩
      exact (quiet line member).1 begins
    · rintro ⟨line, member, ends⟩
      exact (quiet line member).2 ends
  · rintro ⟨unopened, unclosed⟩ line member
    exact ⟨fun begins => unopened ⟨line, member, begins⟩, fun ends => unclosed ⟨line, member, ends⟩⟩

def AtLineStart (before : List Char) : Prop :=
  ∃ above margin, before = above ++ margin ∧ Complete above ∧ AllBlank margin

def AtLineEnd (after : List Char) : Prop :=
  ∃ margin rest, after = margin ++ rest ∧ AllBlank margin ∧ (rest = [] ∨ rest.head? = some '\n')

def BetweenLines (inner : List Char) : Prop :=
  ∃ left middle right, inner = left ++ '\n' :: (middle ++ right) ∧ AllBlank left ∧
    Complete middle ∧ AllBlank right

theorem AtLineStart.append_blank {before margin : List Char} (start : AtLineStart before)
    (blank : AllBlank margin) : AtLineStart (before ++ margin) := by
  obtain ⟨above, first, rfl, complete, firstBlank⟩ := start
  exact ⟨above, first ++ margin, by simp, complete, firstBlank.append blank⟩

theorem AtLineEnd.blank_append {after margin : List Char} (stop : AtLineEnd after)
    (blank : AllBlank margin) : AtLineEnd (margin ++ after) := by
  obtain ⟨last, rest, rfl, lastBlank, ends⟩ := stop
  exact ⟨margin ++ last, rest, by simp, blank.append lastBlank, ends⟩

theorem AtLineStart.exists_margin {before : List Char} (start : AtLineStart before) :
    ∃ above margin, before = above ++ margin ∧ Complete above ∧ AllBlank margin ∧ '\n' ∉ margin := by
  obtain ⟨above, margin, rfl, complete, blank⟩ := start
  obtain ⟨higher, last, rfl, higherComplete, single⟩ := exists_unfinished margin
  exact ⟨above ++ higher, last, by simp, complete.append higherComplete, blank.right, single⟩

theorem AtLineEnd.exists_margin {after : List Char} (stop : AtLineEnd after) :
    ∃ margin, AllBlank margin ∧ '\n' ∉ margin ∧
      (after = margin ∨ ∃ rest, after = margin ++ '\n' :: rest) := by
  obtain ⟨margin, rest, rfl, blank, ends⟩ := stop
  by_cases feed : '\n' ∈ margin
  · obtain ⟨first, more, rfl, single⟩ := List.eq_append_cons_of_mem feed
    exact ⟨first, blank.left, single, Or.inr ⟨more ++ rest, by simp⟩⟩
  · refine ⟨margin, blank, feed, ?_⟩
    cases rest with
    | nil => exact Or.inl (by simp)
    | cons c rest =>
      rcases ends with none | head
      · cases none
      · rw [List.head?_cons] at head
        exact Or.inr ⟨rest, by rw [Option.some.inj head]⟩

theorem BetweenLines.exists_margins {inner : List Char} (between : BetweenLines inner) :
    ∃ left middle right, inner = left ++ '\n' :: (middle ++ right) ∧ AllBlank left ∧ '\n' ∉ left ∧
      Complete middle ∧ AllBlank right ∧ '\n' ∉ right := by
  obtain ⟨left, middle, right, rfl, leftBlank, complete, rightBlank⟩ := between
  obtain ⟨higher, last, rfl, higherComplete, lastSingle⟩ := exists_unfinished right
  by_cases feed : '\n' ∈ left
  · obtain ⟨first, more, rfl, firstSingle⟩ := List.eq_append_cons_of_mem feed
    refine ⟨first, more ++ ['\n'] ++ (middle ++ higher), last, by simp, leftBlank.left,
      firstSingle, ?_, rightBlank.right, lastSingle⟩
    exact (complete_append_feed more).append (complete.append higherComplete)
  · exact ⟨left, middle ++ higher, last, by simp, leftBlank, feed,
      complete.append higherComplete, rightBlank.right, lastSingle⟩

/-- A document with a begin marker and an end marker, each alone on its line, and no such pair above
them. -/
structure Bracketed (opening closing document : List Char) (around : Surroundings)
    (inner : List Char) : Prop where
  split : document = around.before ++ (opening ++ (inner ++ (closing ++ around.after)))
  start : AtLineStart around.before
  between : BetweenLines inner
  stop : AtLineEnd around.after
  free : Unpaired opening closing (fullLines around.before)

theorem Bracketed.inner_eq {document inner other : List Char} {around : Surroundings}
    (first : Bracketed opening closing document around inner)
    (second : Bracketed opening closing document around other) : inner = other := by
  have same := first.split.symm.trans second.split
  have tails := List.append_cancel_left (List.append_cancel_left same)
  exact List.append_cancel_right tails

theorem closing_line (pair : MarkerPair opening closing) {margin after : List Char}
    (blank : AllBlank margin) (single : '\n' ∉ margin) (stop : AtLineEnd after) :
    ∃ last lower, fullLines (margin ++ (closing ++ after)) = last :: lower ∧
      trim last = closing ∧ afterMarker closing last ++ lower.flatten = after := by
  obtain ⟨right, rightBlank, rightSingle, ends⟩ := stop.exists_margin
  have lineSingle : '\n' ∉ margin ++ closing ++ right := by
    simp [single, rightSingle, pair.closingSingle]
  have held {rest : List Char} (restBlank : AllBlank rest) :
      trim (margin ++ closing ++ rest) = closing := by
    rw [trim_append_blank restBlank, trim_blank_append blank, pair.closingTrimmed]
  have follows (rest : List Char) : afterMarker closing (margin ++ closing ++ rest) = rest :=
    afterMarker_blank_append pair.closingTrimmed pair.closingSolid blank rest
  rcases ends with rfl | ⟨rest, rfl⟩
  · refine ⟨margin ++ closing ++ after, [], ?_, held rightBlank, ?_⟩
    · rw [← List.append_assoc]
      exact fullLines_last (by simp [pair.closingSolid]) lineSingle
    · rw [follows]
      simp
  · refine ⟨margin ++ closing ++ (right ++ ['\n']), fullLines rest, ?_,
      held (rightBlank.append allBlank_feed), ?_⟩
    · have lines := fullLines_line lineSingle rest
      simpa only [List.append_assoc] using lines
    · rw [follows, flatten_fullLines, List.append_assoc, List.singleton_append]

theorem Bracketed.surroundings (pair : MarkerPair opening closing) {document inner : List Char}
    {around : Surroundings} (bracketed : Bracketed opening closing document around inner) :
    ∃ later sooner,
      surroundingsFrom? opening closing [] none (fullLines document) =
        some ⟨around.before ++ later, sooner ++ around.after⟩ ∧
      (Quiet opening closing (fullLines inner) → later = [] ∧ sooner = []) := by
  obtain ⟨above, margin, beforeEq, complete, blank, single⟩ := bracketed.start.exists_margin
  obtain ⟨left, middle, right, innerEq, leftBlank, leftSingle, middleComplete, rightBlank,
    rightSingle⟩ := bracketed.between.exists_margins
  obtain ⟨last, lower, lastLines, ends, follows⟩ :=
    closing_line pair rightBlank rightSingle bracketed.stop
  have begins : trim (margin ++ opening ++ (left ++ ['\n'])) = opening := by
    rw [trim_append_blank (leftBlank.append allBlank_feed), trim_blank_append blank,
      pair.openingTrimmed]
  have lineSingle : '\n' ∉ margin ++ opening ++ left := by
    simp [single, leftSingle, pair.openingSingle]
  have lines : fullLines document =
      fullLines above ++ (margin ++ opening ++ (left ++ ['\n'])) ::
        (fullLines middle ++ last :: lower) := by
    have first := fullLines_line lineSingle (middle ++ (right ++ (closing ++ around.after)))
    rw [fullLines_append middleComplete, lastLines] at first
    have document_eq : document = above ++ (margin ++ opening ++ left ++
        '\n' :: (middle ++ (right ++ (closing ++ around.after)))) := by
      rw [bracketed.split, beforeEq, innerEq]
      simp
    rw [document_eq, fullLines_append complete, first, List.append_assoc]
  have free : Unpaired opening closing (fullLines above) := by
    have whole := bracketed.free
    rw [beforeEq, fullLines_append complete] at whole
    exact (List.pairwise_append.mp whole).1
  obtain ⟨later, sooner, found, undisturbed⟩ :=
    surroundingsFrom?_pair pair free begins ends
  refine ⟨later, sooner, ?_, ?_⟩
  · rw [lines, found, follows, flatten_fullLines, beforeEq,
      upTo_blank_append pair.openingTrimmed pair.openingSolid blank]
  · intro quiet
    apply undisturbed
    intro line member
    apply quiet
    rw [innerEq, fullLines_line leftSingle, fullLines_append middleComplete]
    exact List.mem_cons_of_mem _ (List.mem_append_left _ member)

theorem marker_line_feed {marker line : List Char} (solid : marker ≠ []) (single : '\n' ∉ marker)
    (held : trim line = marker) (complete : Complete line) :
    ∃ margin, afterMarker marker line = margin ++ ['\n'] ∧ AllBlank margin := by
  obtain ⟨split, -, blank⟩ := marker_line_split solid held
  have feed : line.getLast? = some '\n' := by
    rcases complete with empty | feed
    · rw [empty] at held
      exact absurd held.symm solid
    · exact feed
  by_cases empty : afterMarker marker line = []
  · rw [split, empty, List.append_nil, List.getLast?_append] at feed
    have last : marker.getLast? = some '\n' := by
      rw [List.getLast?_eq_some_getLast solid] at feed ⊢
      simpa using feed
    exact absurd (List.mem_of_getLast? last) single
  · rw [split, List.getLast?_append, List.getLast?_eq_some_getLast empty] at feed
    have last : (afterMarker marker line).getLast empty = '\n' := by simpa using feed
    refine ⟨(afterMarker marker line).dropLast, ?_, ?_⟩
    · rw [← last, List.dropLast_concat_getLast]
    · intro c member
      exact blank c ((List.dropLast_subset _ member))

theorem atLineEnd_of_lines (pair : MarkerPair opening closing) {last : List Char}
    {lower : List (List Char)} (ends : trim last = closing) (complete : lower = [] ∨ Complete last) :
    AtLineEnd (afterMarker closing last ++ lower.flatten) := by
  rcases complete with rfl | complete
  · refine ⟨afterMarker closing last, [], by simp, ?_, Or.inl rfl⟩
    exact (marker_line_split pair.closingSolid ends).2.2
  · obtain ⟨margin, feed, blank⟩ :=
      marker_line_feed pair.closingSolid pair.closingSingle ends complete
    refine ⟨margin, '\n' :: lower.flatten, ?_, blank, Or.inr rfl⟩
    rw [feed, List.append_assoc, List.singleton_append]

theorem solidLines_between {left right : List Char} (leftBlank : AllBlank left)
    (rightBlank : AllBlank right) (middle : List Char) :
    solidLines (left ++ '\n' :: (middle ++ right)) = solidLines middle := by
  have regroup : left ++ '\n' :: (middle ++ right) = (left ++ ['\n']) ++ (middle ++ right) := by
    simp
  rw [regroup, solidLines_append (complete_append_feed left),
    solidLines_eq_nil (leftBlank.append allBlank_feed), solidLines_append_blank rightBlank,
    List.nil_append]

theorem bracketed_of_lines (pair : MarkerPair opening closing) {document first last : List Char}
    {upper middle lower : List (List Char)}
    (lines : fullLines document = upper ++ first :: (middle ++ last :: lower))
    (free : Unpaired opening closing upper) (begins : trim first = opening)
    (ends : trim last = closing) (quiet : Quiet opening closing middle) :
    ∃ inner, Bracketed opening closing document
        ⟨upper.flatten ++ upTo opening first, afterMarker closing last ++ lower.flatten⟩ inner ∧
      Quiet opening closing (fullLines inner) := by
  obtain ⟨upperLines, belowLines, upperEnds⟩ := fullLines_cut lines
  rw [← List.singleton_append] at belowLines
  obtain ⟨-, restLines, firstEnds⟩ := fullLines_cut belowLines
  obtain ⟨middleLines, lastLines, middleEnds⟩ := fullLines_cut restLines
  rw [← List.singleton_append] at lastLines
  obtain ⟨-, -, lastEnds⟩ := fullLines_cut lastLines
  have upperComplete : Complete upper.flatten := upperEnds.resolve_left (by simp)
  have firstComplete : Complete first := by simpa using firstEnds.resolve_left (by simp)
  have middleComplete : Complete middle.flatten := middleEnds.resolve_left (by simp)
  have lastComplete : lower = [] ∨ Complete last := by simpa using lastEnds
  obtain ⟨firstSplit, firstBlank, -⟩ := marker_line_split pair.openingSolid begins
  obtain ⟨lastSplit, lastBlank, -⟩ := marker_line_split pair.closingSolid ends
  obtain ⟨margin, feed, marginBlank⟩ :=
    marker_line_feed pair.openingSolid pair.openingSingle begins firstComplete
  refine ⟨margin ++ '\n' :: (middle.flatten ++ upTo closing last), ?_, ?_⟩
  · refine
      { split := ?_
        start := ⟨_, _, rfl, upperComplete, firstBlank⟩
        between := ⟨_, _, _, rfl, marginBlank, middleComplete, lastBlank⟩
        stop := atLineEnd_of_lines pair ends lastComplete
        free := ?_ }
    · have whole := flatten_fullLines document
      rw [lines, List.flatten_append, List.flatten_cons, List.flatten_append, List.flatten_cons,
        marker_line_append pair.openingSolid begins, feed,
        marker_line_append pair.closingSolid ends] at whole
      rw [← whole]
      simp
    · rw [unpaired_iff_solidLines pair, solidLines_append_blank firstBlank,
        ← unpaired_iff_solidLines pair, upperLines]
      exact free
  · rw [quiet_iff_solidLines pair, solidLines_between marginBlank lastBlank,
      ← quiet_iff_solidLines pair, middleLines]
    exact quiet

section Search

variable {document : List Char} {rawOpening rawClosing : List Char}

theorem surroundings?_eq_some_iff (pair : MarkerPair (trim rawOpening) (trim rawClosing))
    {around : Surroundings} :
    surroundings? rawOpening rawClosing document = some around ↔
      ∃ inner, Bracketed (trim rawOpening) (trim rawClosing) document around inner ∧
        Quiet (trim rawOpening) (trim rawClosing) (fullLines inner) := by
  constructor
  · intro found
    have paired : ¬ Unpaired (trim rawOpening) (trim rawClosing) (fullLines document) := by
      intro free
      rw [surroundings?, surroundingsFrom?_eq_none free] at found
      cases found
    obtain ⟨upper, first, middle, last, lower, lines, free, begins, ends, quiet⟩ :=
      exists_nearest_pair paired
    obtain ⟨later, sooner, nearest, undisturbed⟩ := surroundingsFrom?_pair pair free begins ends
    obtain ⟨rfl, rfl⟩ := undisturbed quiet
    rw [surroundings?, lines, nearest, List.append_nil, List.nil_append] at found
    rw [← Option.some.inj found]
    exact bracketed_of_lines pair lines free begins ends quiet
  · rintro ⟨inner, bracketed, quiet⟩
    obtain ⟨later, sooner, found, undisturbed⟩ := bracketed.surroundings pair
    obtain ⟨rfl, rfl⟩ := undisturbed quiet
    rw [surroundings?, found, List.append_nil, List.nil_append]

theorem surroundings?_eq_none_iff (pair : MarkerPair (trim rawOpening) (trim rawClosing)) :
    surroundings? rawOpening rawClosing document = none ↔
      Unpaired (trim rawOpening) (trim rawClosing) (fullLines document) := by
  constructor
  · intro missing
    by_contra paired
    obtain ⟨upper, first, middle, last, lower, lines, free, begins, ends, -⟩ :=
      exists_nearest_pair paired
    obtain ⟨later, sooner, nearest, -⟩ := surroundingsFrom?_pair pair free begins ends
    rw [surroundings?, lines, nearest] at missing
    cases missing
  · exact surroundingsFrom?_eq_none

end Search

end ApiMigration.Report
