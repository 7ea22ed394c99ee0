import ApiMigration.Proofs.Text.Joined
import ApiMigration.Proofs.Text.Trim
import ApiMigration.Text.Lines

namespace ApiMigration.Text

def Complete (text : List Char) : Prop :=
  text = [] ∨ text.getLast? = some '\n'

theorem complete_nil : Complete [] :=
  Or.inl rfl

theorem complete_append_feed (text : List Char) : Complete (text ++ ['\n']) :=
  Or.inr (by simp)

theorem Complete.append {left right : List Char} (first : Complete left) (second : Complete right) :
    Complete (left ++ right) := by
  rcases second with rfl | last
  · simpa using first
  · exact Or.inr (by simp [List.getLast?_append, last])

/-- Induction over a text line by line; the last line may lack its line feed. -/
@[elab_as_elim]
theorem line_induction {motive : List Char → Prop} (nil : motive [])
    (last : ∀ line, line ≠ [] → '\n' ∉ line → motive line)
    (line : ∀ line rest, '\n' ∉ line → motive rest → motive (line ++ '\n' :: rest))
    (text : List Char) : motive text := by
  generalize size : text.length = n
  induction n using Nat.strongRecOn generalizing text with
  | ind n ih =>
    by_cases feed : '\n' ∈ text
    · obtain ⟨front, rest, rfl, single⟩ := List.eq_append_cons_of_mem feed
      refine line front rest single (ih rest.length ?_ rest rfl)
      rw [← size, List.length_append, List.length_cons]
      omega
    · by_cases empty : text = []
      · rw [empty]
        exact nil
      · exact last text empty feed

theorem fullLines_line {line : List Char} (single : '\n' ∉ line) (rest : List Char) :
    fullLines (line ++ '\n' :: rest) = (line ++ ['\n']) :: fullLines rest := by
  induction line with
  | nil => simp [fullLines]
  | cons c line ih =>
    have other : c ≠ '\n' := fun same => single (by simp [same])
    have tail := ih fun member => single (List.mem_cons_of_mem c member)
    simp only [List.cons_append, fullLines, if_neg other, tail]

theorem fullLines_last {line : List Char} (solid : line ≠ []) (single : '\n' ∉ line) :
    fullLines line = [line] := by
  induction line with
  | nil => exact absurd rfl solid
  | cons c line ih =>
    have other : c ≠ '\n' := fun same => single (by simp [same])
    by_cases empty : line = []
    · simp [fullLines, other, empty]
    · have tail := ih empty fun member => single (List.mem_cons_of_mem c member)
      simp only [fullLines, if_neg other, tail]

theorem complete_of_append_feed {line rest : List Char}
    (complete : Complete (line ++ '\n' :: rest)) : Complete rest := by
  by_cases empty : rest = []
  · exact Or.inl empty
  · rcases complete with none | last
    · simp at none
    · refine Or.inr ?_
      simpa [List.getLast?_append, List.getLast?_cons_of_ne_nil empty,
        List.getLast?_eq_some_getLast empty] using last

theorem fullLines_append {left : List Char} (complete : Complete left) (right : List Char) :
    fullLines (left ++ right) = fullLines left ++ fullLines right := by
  induction left using line_induction with
  | nil => simp [fullLines]
  | last line solid single =>
    rcases complete with empty | feed
    · exact absurd empty solid
    · exact absurd (List.mem_of_getLast? feed) single
  | line line rest single ih =>
    have tail := ih (complete_of_append_feed complete)
    rw [fullLines_line single, List.append_assoc, List.cons_append, fullLines_line single, tail,
      List.cons_append]

theorem exists_unfinished (text : List Char) :
    ∃ above last, text = above ++ last ∧ Complete above ∧ '\n' ∉ last := by
  induction text using line_induction with
  | nil => exact ⟨[], [], rfl, complete_nil, by simp⟩
  | last line solid single => exact ⟨[], line, rfl, complete_nil, single⟩
  | line line rest single ih =>
    obtain ⟨above, last, rfl, complete, unfinished⟩ := ih
    refine ⟨line ++ '\n' :: above, last, by simp, ?_, unfinished⟩
    simpa using (complete_append_feed line).append complete

theorem fullLines_cut {text : List Char} {front back : List (List Char)}
    (cut : fullLines text = front ++ back) :
    fullLines front.flatten = front ∧ fullLines back.flatten = back ∧
      (back = [] ∨ Complete front.flatten) := by
  induction text using line_induction generalizing front with
  | nil =>
    have both := List.append_eq_nil_iff.mp cut.symm
    rw [both.1, both.2]
    exact ⟨rfl, rfl, Or.inl rfl⟩
  | last line solid single =>
    cases front with
    | nil =>
      refine ⟨rfl, ?_, Or.inr complete_nil⟩
      rw [List.nil_append] at cut
      rw [← cut, flatten_fullLines]
    | cons first front =>
      rw [fullLines_last solid single, List.cons_append] at cut
      obtain ⟨rfl, rest⟩ := List.cons.inj cut
      have both := List.append_eq_nil_iff.mp rest.symm
      rw [both.1, both.2]
      refine ⟨?_, rfl, Or.inl rfl⟩
      simpa using fullLines_last solid single
  | line line rest single ih =>
    cases front with
    | nil =>
      refine ⟨rfl, ?_, Or.inr complete_nil⟩
      rw [List.nil_append] at cut
      rw [← cut, flatten_fullLines]
    | cons first front =>
      rw [fullLines_line single, List.cons_append] at cut
      obtain ⟨rfl, rest⟩ := List.cons.inj cut
      obtain ⟨frontLines, backLines, ends⟩ := ih rest
      refine ⟨?_, backLines, ?_⟩
      · rw [List.flatten_cons, List.append_assoc, List.singleton_append, fullLines_line single,
          frontLines]
      · rcases ends with none | complete
        · exact Or.inl none
        · exact Or.inr ((complete_append_feed line).append complete)

def solidLines (text : List Char) : List (List Char) :=
  ((fullLines text).map trim).filter fun line => !line.isEmpty

theorem solidLines_append {left : List Char} (complete : Complete left) (right : List Char) :
    solidLines (left ++ right) = solidLines left ++ solidLines right := by
  rw [solidLines, fullLines_append complete, List.map_append, List.filter_append]
  rfl

theorem solidLines_line {line : List Char} (single : '\n' ∉ line) (rest : List Char) :
    solidLines (line ++ '\n' :: rest) = solidLines line ++ solidLines rest := by
  have feedless : trim (line ++ ['\n']) = trim line := trim_append_blank allBlank_feed line
  have first : solidLines (line ++ ['\n']) = solidLines line := by
    by_cases empty : line = []
    · rw [empty]
      decide
    · simp only [solidLines, fullLines_line single, fullLines_last empty single, fullLines,
        List.map_cons, List.map_nil, feedless]
  rw [← first, ← solidLines_append (complete_append_feed line), List.append_assoc,
    List.singleton_append]

theorem solidLines_single {line : List Char} (single : '\n' ∉ line) :
    solidLines line = [trim line].filter fun line => !line.isEmpty := by
  by_cases empty : line = []
  · rw [empty]
    decide
  · rw [solidLines, fullLines_last empty single, List.map_singleton]

theorem solidLines_eq_nil {text : List Char} (blank : AllBlank text) : solidLines text = [] := by
  induction text using line_induction with
  | nil => rfl
  | last line solid single =>
    rw [solidLines_single single, trim_eq_nil blank]
    rfl
  | line line rest single ih =>
    have below : AllBlank rest := fun c member =>
      blank c (List.mem_append_right _ (List.mem_cons_of_mem _ member))
    rw [solidLines_line single, ih below, solidLines_single single, trim_eq_nil blank.left]
    rfl

theorem solidLines_append_blank {right : List Char} (blank : AllBlank right) (text : List Char) :
    solidLines (text ++ right) = solidLines text := by
  obtain ⟨above, last, rfl, complete, single⟩ := exists_unfinished text
  have unfinished : solidLines (last ++ right) = solidLines last := by
    by_cases feed : '\n' ∈ right
    · obtain ⟨margin, rest, rfl, marginSingle⟩ := List.eq_append_cons_of_mem feed
      have lineSingle : '\n' ∉ last ++ margin := by simp [single, marginSingle]
      have below : AllBlank rest := fun c member =>
        blank c (List.mem_append_right _ (List.mem_cons_of_mem _ member))
      rw [← List.append_assoc, solidLines_line lineSingle, solidLines_eq_nil below,
        List.append_nil, solidLines_single lineSingle, trim_append_blank blank.left,
        solidLines_single single]
    · have lineSingle : '\n' ∉ last ++ right := by simp [single, feed]
      rw [solidLines_single lineSingle, trim_append_blank blank, solidLines_single single]
  rw [List.append_assoc, solidLines_append complete, solidLines_append complete, unfinished]

theorem mem_solidLines {mark text : List Char} (solid : mark ≠ []) :
    mark ∈ solidLines text ↔ ∃ line ∈ fullLines text, trim line = mark := by
  simp only [solidLines, List.mem_filter, List.mem_map, Bool.not_eq_true',
    List.isEmpty_eq_false_iff]
  constructor
  · rintro ⟨held, -⟩
    exact held
  · intro held
    exact ⟨held, solid⟩

def feedLines (lines : List String) : List Char :=
  lines.flatMap fun line => line.toList ++ ['\n']

theorem toList_joinWith_feed (line : String) (more : List String) :
    (joinWith "\n" (line :: more) ++ "\n").toList = feedLines (line :: more) := by
  have feed : "\n".toList = ['\n'] := by decide
  induction more generalizing line with
  | nil => simp [joinWith, feedLines, feed]
  | cons next more ih =>
    have rest := ih next
    simp only [String.toList_append, feed] at rest
    simp only [joinWith, feedLines, String.toList_append, feed, List.append_assoc,
      List.flatMap_cons] at rest ⊢
    rw [rest]

theorem toList_joinWith_last (lines : List String) (last : String) :
    (joinWith "\n" (lines ++ [last])).toList = feedLines lines ++ last.toList := by
  cases lines with
  | nil => rfl
  | cons line more =>
    rw [joinWith_concat "\n" (List.cons_ne_nil line more), String.toList_append,
      toList_joinWith_feed]

theorem complete_feedLines (lines : List String) : Complete (feedLines lines) := by
  induction lines with
  | nil => exact complete_nil
  | cons line lines ih => exact (complete_append_feed line.toList).append ih

theorem feed_not_mem_toString (count : Nat) : '\n' ∉ (toString count).toList := by
  intro member
  rw [Nat.toString_eq_repr, Nat.toList_repr] at member
  have digit := Nat.isDigit_of_mem_toDigits (by decide) (by decide) member
  revert digit
  decide

section Heads

theorem laterLines_line {line : List Char} (single : '\n' ∉ line) (rest : List Char) :
    laterLines (line ++ '\n' :: rest) = lineStarts rest := by
  induction line with
  | nil => rfl
  | cons c line ih =>
    have other : c ≠ '\n' := fun same => single (by simp [same])
    rw [List.cons_append, laterLines, if_neg other]
    exact ih fun member => single (List.mem_cons_of_mem c member)

theorem isSuffix_of_mem_laterLines {text line : List Char} (listed : line ∈ laterLines text) :
    line <:+ text := by
  induction text with
  | nil => cases listed
  | cons c text ih =>
    rw [laterLines] at listed
    split at listed
    · rcases List.mem_cons.mp listed with rfl | later
      · exact List.suffix_cons c line
      · exact (ih later).trans (List.suffix_cons c text)
    · exact (ih listed).trans (List.suffix_cons c text)

theorem lineHeads_line {line : List Char} (single : '\n' ∉ line) (rest : List Char) :
    lineHeads (line ++ '\n' :: rest) = trimStart (line ++ '\n' :: rest) :: lineHeads rest := by
  rw [lineHeads_eq, lineHeads_eq, lineStarts, laterLines_line single, List.map_cons]

theorem feedLines_nil : feedLines [] = [] :=
  rfl

theorem feedLines_cons (line : String) (more : List String) :
    feedLines (line :: more) = line.toList ++ '\n' :: feedLines more := by
  rw [feedLines, List.flatMap_cons, List.append_assoc, List.singleton_append]
  rfl

theorem feedLines_append (above below : List String) :
    feedLines (above ++ below) = feedLines above ++ feedLines below :=
  List.flatMap_append

variable {α : Type} {read : List Char → Option (α × List Char)}

theorem firstAtLine_head {text rest : List Char} {item : α}
    (found : read (trimStart text) = some (item, rest)) : firstAtLine read text = some item := by
  rw [firstAtLine, lineHeads_eq, lineStarts, List.map_cons, List.findSome?_cons, found]
  rfl

theorem firstAtLine_eq (text : List Char) :
    firstAtLine read text = ((read (trimStart text)).map Prod.fst).or
      (((laterLines text).map trimStart).findSome? fun head => (read head).map Prod.fst) := by
  rw [firstAtLine, lineHeads_eq, lineStarts, List.map_cons, List.findSome?_cons]
  cases read (trimStart text) with
  | none => rfl
  | some found => rfl

theorem firstAtLine_line {line : List Char} (single : '\n' ∉ line) (rest : List Char) :
    firstAtLine read (line ++ '\n' :: rest) =
      ((read (trimStart (line ++ '\n' :: rest))).map Prod.fst).or (firstAtLine read rest) := by
  rw [firstAtLine_eq, laterLines_line single, ← lineHeads_eq]
  rfl

theorem firstAtLine_blank {line : List Char} (single : '\n' ∉ line) (blank : AllBlank line)
    (rest : List Char) : firstAtLine read (line ++ '\n' :: rest) = firstAtLine read rest := by
  have begun : trimStart (line ++ '\n' :: rest) = trimStart rest := by
    rw [trimStart_blank_append blank]
    exact trimStart_blank_append allBlank_feed rest
  rw [firstAtLine_line single, begun, firstAtLine_eq rest, ← Option.or_assoc, Option.or_self]

theorem isPrefix_of_isPrefix_cons {word line rest : List Char} {c : Char} (single : c ∉ word)
    (begins : word <+: line ++ c :: rest) : word <+: line := by
  rcases List.prefix_or_prefix_of_prefix begins (List.prefix_append line _) with inside | beyond
  · exact inside
  · obtain ⟨more, rfl⟩ := beyond
    rw [List.prefix_append_right_inj] at begins
    cases more with
    | nil => simp
    | cons first more =>
      rw [List.cons_prefix_cons] at begins
      rw [begins.1] at single
      simp at single

theorem isPrefix_trim {word text : List Char} (solid : ∀ c ∈ word, isBlank c = false)
    (begins : word <+: trimStart text) : word <+: trim text := by
  obtain ⟨right, blank, split⟩ := exists_trimEnd_split (trimStart text)
  rw [split] at begins
  cases right with
  | nil => rwa [List.append_nil] at begins
  | cons c right =>
    have apart : c ∉ word := by
      intro member
      have refused := solid c member
      rw [blank c List.mem_cons_self] at refused
      cases refused
    exact isPrefix_of_isPrefix_cons apart begins

theorem firstAtLine_below {word : List Char} (single : '\n' ∉ word)
    (refuses : ∀ head, ¬word <+: head → read head = none) {above : List String}
    (quiet : ∀ line ∈ above, '\n' ∉ line.toList ∧ ¬word <+: trimStart line.toList)
    (text : List Char) : firstAtLine read (feedLines above ++ text) = firstAtLine read text := by
  induction above with
  | nil => rfl
  | cons line above ih =>
    obtain ⟨one, absent⟩ := quiet line List.mem_cons_self
    have below := ih fun other member => quiet other (List.mem_cons_of_mem _ member)
    rw [feedLines_cons, List.append_assoc, List.cons_append]
    by_cases blank : AllBlank line.toList
    · rw [firstAtLine_blank one blank, below]
    · have nothing : read (trimStart line.toList ++ '\n' :: (feedLines above ++ text)) = none := by
        apply refuses
        intro begins
        exact absent (isPrefix_of_isPrefix_cons single begins)
      rw [firstAtLine_line one, trimStart_append blank, nothing, Option.map_none, Option.none_or,
        below]

theorem collectAt_cons_none {head : List Char} {more : List (List Char)}
    (nothing : read head = none) : collectAt read (head :: more) = collectAt read more := by
  rw [collectAt, nothing]

theorem collectAt_eq_nil {heads : List (List Char)} (nothing : ∀ head ∈ heads, read head = none) :
    collectAt read heads = [] := by
  induction heads with
  | nil => rw [collectAt]
  | cons head more ih =>
    rw [collectAt_cons_none (nothing head List.mem_cons_self)]
    exact ih fun other member => nothing other (List.mem_cons_of_mem _ member)

theorem allAtLines_line {line rest : List Char} (single : '\n' ∉ line)
    (nothing : read (trimStart (line ++ '\n' :: rest)) = none) :
    allAtLines read (line ++ '\n' :: rest) = allAtLines read rest := by
  rw [allAtLines, lineHeads_line single, collectAt_cons_none nothing]
  rfl

theorem collectAt_once {head rest : List Char} {item : α} {more : List (List Char)}
    (found : read head = some (item, rest)) (nothing : ∀ other ∈ more, read other = none) :
    collectAt read (head :: more) = [item] := by
  rw [collectAt, found]
  simp only [List.cons.injEq, true_and]
  apply collectAt_eq_nil
  intro other member
  exact nothing other ((List.dropWhile_sublist _).mem member)

end Heads

end ApiMigration.Text
