import ApiMigration.Proofs.Text.Front
import Mathlib.Data.List.Forall2
import Mathlib.Data.List.ReduceOption

/-!
Reading a text line by line. A reader may start at any line head and run over later lines; where it
finds at most one item on each line and stops on that line, it finds the items of the lines, in order.
-/

namespace ApiMigration.Text

def BehindLine (text : List Char) : Prop :=
  Stops (· != '\n') text

theorem behindLine_nil : BehindLine [] :=
  stops_nil _

theorem behindLine_feed (text : List Char) : BehindLine ('\n' :: text) :=
  stops_cons (by decide) text

theorem BehindLine.eq_nil_or_cons {text : List Char} (ended : BehindLine text) :
    text = [] ∨ ∃ more, text = '\n' :: more := by
  cases text with
  | nil => exact .inl rfl
  | cons c more =>
    have feed : c = '\n' := by simpa using ended c rfl
    exact .inr ⟨more, by rw [feed]⟩

theorem BehindLine.stops {text : List Char} {allowed : Char → Bool} (ended : BehindLine text)
    (refused : allowed '\n' = false) : Stops allowed text := by
  obtain rfl | ⟨more, rfl⟩ := ended.eq_nil_or_cons
  · exact stops_nil allowed
  · exact stops_cons refused more

theorem BehindLine.isPrefix {word line back : List Char} (ended : BehindLine back)
    (single : '\n' ∉ word) (begins : word <+: line ++ back) : word <+: line := by
  obtain rfl | ⟨more, rfl⟩ := ended.eq_nil_or_cons
  · rwa [List.append_nil] at begins
  · exact isPrefix_of_isPrefix_cons single begins

section LineReads

variable {α : Type} {read : List Char → Option (α × List Char)}

/-- What a reader finds on a line, whatever follows the line. -/
inductive LineReads (read : List Char → Option (α × List Char)) (line : List Char) :
    Option α → Prop
  | blank (blank : AllBlank line) : LineReads read line none
  | quiet (solid : ¬AllBlank line)
      (nothing : ∀ back, BehindLine back → read (trimStart line ++ back) = none) :
      LineReads read line none
  | item (item : α) (rest : List Char) (solid : ¬AllBlank line)
      (found : ∀ back, BehindLine back →
        read (trimStart line ++ back) = some (item, rest ++ back)) :
      LineReads read line (some item)

def Advances (read : List Char → Option (α × List Char)) : Prop :=
  ∀ head item rest, Stops isBlank head → read head = some (item, rest) → rest.length < head.length

theorem Advances.read_nil (advances : Advances read) : read [] = none := by
  rw [Option.eq_none_iff_forall_ne_some]
  rintro ⟨item, rest⟩ success
  exact absurd (advances [] item rest (stops_nil isBlank) success) (Nat.not_lt_zero _)

theorem length_le_of_mem_lineHeads {text head : List Char} (listed : head ∈ lineHeads text) :
    head.length ≤ text.length :=
  (isSuffix_of_mem_lineHeads listed).length_le

theorem Advances.allAtLines_blank (advances : Advances read) {line : List Char}
    (single : '\n' ∉ line) (blank : AllBlank line) (rest : List Char) :
    allAtLines read (line ++ '\n' :: rest) = allAtLines read rest := by
  have begun : trimStart (line ++ '\n' :: rest) = trimStart rest := by
    rw [trimStart_blank_append blank]
    exact trimStart_blank_append allBlank_feed rest
  rw [allAtLines, lineHeads_line single, begun, allAtLines, lineHeads_eq, lineStarts,
    List.map_cons]
  cases success : read (trimStart rest) with
  | none => rw [collectAt_cons_none success]
  | some found =>
    obtain ⟨item, behind⟩ := found
    have shorter := advances _ item behind (stops_trimStart rest) success
    rw [collectAt, success, collectAt, success]
    dsimp only
    rw [List.dropWhile_cons_of_pos (by simpa using shorter)]

theorem allAtLines_item {line : List Char} {item : α} {behind rest : List Char}
    (single : '\n' ∉ line) (solid : ¬AllBlank line)
    (found : read (trimStart line ++ '\n' :: rest) = some (item, behind ++ '\n' :: rest)) :
    allAtLines read (line ++ '\n' :: rest) = item :: allAtLines read rest := by
  have below : ∀ head ∈ lineHeads rest, head.length ≤ (behind ++ '\n' :: rest).length := by
    intro head listed
    have short := length_le_of_mem_lineHeads listed
    rw [List.length_append, List.length_cons]
    omega
  rw [allAtLines, lineHeads_line single, trimStart_append solid, collectAt, found]
  simp only [dropWhile_longer below]
  rfl

theorem Advances.allAtLines_line (advances : Advances read) {line : List Char} {found : Option α}
    (reads : LineReads read line found) (single : '\n' ∉ line) (rest : List Char) :
    allAtLines read (line ++ '\n' :: rest) = found.toList ++ allAtLines read rest := by
  cases reads with
  | blank blank => exact advances.allAtLines_blank single blank rest
  | quiet solid nothing =>
    refine Text.allAtLines_line single ?_
    rw [trimStart_append solid]
    exact nothing _ (behindLine_feed rest)
  | item item behind solid found =>
    exact allAtLines_item single solid (found _ (behindLine_feed rest))

theorem Advances.allAtLines_last (advances : Advances read) {line : List Char} {found : Option α}
    (reads : LineReads read line found) (single : '\n' ∉ line) :
    allAtLines read line = found.toList := by
  have whole : lineHeads line = [trimStart line] := by
    rw [lineHeads_eq, lineStarts, laterLines_eq_nil single, List.map_singleton]
  rw [allAtLines, whole]
  cases reads with
  | blank blank =>
    rw [trimStart_eq_nil blank, collectAt_cons_none advances.read_nil, collectAt]
    rfl
  | quiet solid nothing =>
    have unread := nothing [] behindLine_nil
    rw [List.append_nil] at unread
    rw [collectAt_cons_none unread, collectAt]
    rfl
  | item item behind solid found =>
    have success := found [] behindLine_nil
    rw [List.append_nil] at success
    exact collectAt_once success (fun _ listed => absurd listed List.not_mem_nil)

theorem Advances.allAtLines_below (advances : Advances read) {above : List String}
    (quiet : ∀ line ∈ above, '\n' ∉ line.toList ∧ LineReads read line.toList none)
    (text : List Char) : allAtLines read (feedLines above ++ text) = allAtLines read text := by
  induction above with
  | nil => rfl
  | cons line above ih =>
    obtain ⟨single, reads⟩ := quiet line List.mem_cons_self
    rw [feedLines_cons, List.append_assoc, List.cons_append,
      advances.allAtLines_line reads single, Option.toList_none, List.nil_append]
    exact ih fun other member => quiet other (List.mem_cons_of_mem _ member)

theorem Advances.allAtLines_eq_nil (advances : Advances read) {lines : List String}
    (quiet : ∀ line ∈ lines, '\n' ∉ line.toList ∧ LineReads read line.toList none) :
    allAtLines read (feedLines lines) = [] := by
  rw [← List.append_nil (feedLines lines), advances.allAtLines_below quiet,
    advances.allAtLines_last (.blank allBlank_nil) List.not_mem_nil, Option.toList_none]

theorem reduceOption_cons (found : Option α) (more : List (Option α)) :
    (found :: more).reduceOption = found.toList ++ more.reduceOption := by
  rw [← List.singleton_append, List.reduceOption_append, List.reduceOption_singleton]

/-- A reader that finds what stands on each line finds just that, from the first line to the last. -/
theorem Advances.allAtLines_eq (advances : Advances read) {text : List Char}
    {found : List (Option α)} (lines : List.Forall₂ (LineReads read) (text.splitOn '\n') found) :
    allAtLines read text = found.reduceOption := by
  have last {line : List Char} (single : '\n' ∉ line) {found : List (Option α)}
      (lines : List.Forall₂ (LineReads read) (line.splitOn '\n') found) :
      allAtLines read line = found.reduceOption := by
    rw [List.splitOn_eq_singleton single] at lines
    obtain ⟨one, others, reads, none, rfl⟩ := List.forall₂_cons_left_iff.mp lines
    rw [List.forall₂_nil_left_iff.mp none, List.reduceOption_singleton]
    exact advances.allAtLines_last reads single
  induction text using line_induction generalizing found with
  | nil => exact last List.not_mem_nil lines
  | last line _ single => exact last single lines
  | line line rest single ih =>
    rw [List.splitOn_append_cons_self, List.splitOn_eq_singleton single, List.singleton_append]
      at lines
    obtain ⟨first, others, reads, more, rfl⟩ := List.forall₂_cons_left_iff.mp lines
    rw [advances.allAtLines_line reads single, ih more, reduceOption_cons]

end LineReads

end ApiMigration.Text
