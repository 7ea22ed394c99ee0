import ApiMigration.Text.Affix
import ApiMigration.Text.Blank
import Mathlib.Data.List.Basic
import Mathlib.Data.List.TakeWhile

namespace ApiMigration.Text

def AllBlank (text : List Char) : Prop :=
  ∀ c ∈ text, isBlank c = true

theorem allBlank_nil : AllBlank [] := by
  intro c member
  cases member

theorem AllBlank.append {left right : List Char} (first : AllBlank left) (second : AllBlank right) :
    AllBlank (left ++ right) := by
  intro c member
  rcases List.mem_append.mp member with member | member
  · exact first c member
  · exact second c member

theorem AllBlank.left {left right : List Char} (blank : AllBlank (left ++ right)) :
    AllBlank left :=
  fun c member => blank c (List.mem_append_left right member)

theorem AllBlank.right {left right : List Char} (blank : AllBlank (left ++ right)) :
    AllBlank right :=
  fun c member => blank c (List.mem_append_right left member)

theorem isBlank_feed : isBlank '\n' = true := by decide

theorem allBlank_singleton {c : Char} (blank : isBlank c = true) : AllBlank [c] := by
  intro other member
  rw [List.mem_singleton.mp member]
  exact blank

theorem allBlank_feed : AllBlank ['\n'] :=
  allBlank_singleton isBlank_feed

theorem allBlank_space : AllBlank [' '] :=
  allBlank_singleton (by decide)

theorem trimStart_blank_append {left : List Char} (blank : AllBlank left) (text : List Char) :
    trimStart (left ++ text) = trimStart text :=
  List.dropWhile_append_of_pos blank

theorem trimStart_append {text : List Char} (solid : ¬AllBlank text) (right : List Char) :
    trimStart (text ++ right) = trimStart text ++ right := by
  have stops : (text.dropWhile isBlank).isEmpty = false := by
    rw [List.isEmpty_eq_false_iff]
    intro empty
    exact solid (List.dropWhile_eq_nil_iff.mp empty)
  rw [trimStart, List.dropWhile_append, stops]
  rfl

theorem trimEnd_append_blank {right : List Char} (blank : AllBlank right) (text : List Char) :
    trimEnd (text ++ right) = trimEnd text := by
  have reversed : ∀ c ∈ right.reverse, isBlank c = true := by
    intro c member
    exact blank c (List.mem_reverse.mp member)
  simp only [trimEnd, List.reverse_append, List.dropWhile_append_of_pos reversed]

theorem trimEnd_append_solid {c : Char} (solid : isBlank c = false) (front rest : List Char) :
    trimEnd (front ++ c :: rest) = front ++ c :: trimEnd rest := by
  have kept : (c :: front.reverse).dropWhile isBlank = c :: front.reverse :=
    List.dropWhile_cons_of_neg (by simp [solid])
  have reversed : (front ++ c :: rest).reverse = rest.reverse ++ c :: front.reverse := by simp
  rw [trimEnd, reversed, List.dropWhile_append, kept]
  split
  · next void =>
    rw [trimEnd, List.isEmpty_iff.mp void]
    simp
  · simp [trimEnd]

theorem exists_trimStart_split (text : List Char) :
    ∃ left, AllBlank left ∧ text = left ++ trimStart text := by
  refine ⟨text.takeWhile isBlank, ?_, (List.takeWhile_append_dropWhile).symm⟩
  intro c member
  exact List.all_eq_true.mp (List.all_takeWhile) c member

theorem exists_trimEnd_split (text : List Char) :
    ∃ right, AllBlank right ∧ text = trimEnd text ++ right := by
  obtain ⟨left, blank, split⟩ := exists_trimStart_split text.reverse
  refine ⟨left.reverse, ?_, ?_⟩
  · intro c member
    exact blank c (List.mem_reverse.mp member)
  · have reversed := congrArg List.reverse split
    simpa only [List.reverse_reverse, List.reverse_append, trimEnd, trimStart] using reversed

theorem trimStart_eq_nil {text : List Char} (blank : AllBlank text) : trimStart text = [] :=
  List.dropWhile_eq_nil_iff.mpr blank

theorem trim_eq_nil {text : List Char} (blank : AllBlank text) : trim text = [] := by
  rw [trim, trimStart_eq_nil blank]
  rfl

theorem exists_trim_split (text : List Char) :
    ∃ left right, AllBlank left ∧ AllBlank right ∧ text = left ++ trim text ++ right := by
  obtain ⟨left, leftBlank, leftSplit⟩ := exists_trimStart_split text
  obtain ⟨right, rightBlank, rightSplit⟩ := exists_trimEnd_split (trimStart text)
  refine ⟨left, right, leftBlank, rightBlank, ?_⟩
  rw [trim, List.append_assoc, ← rightSplit]
  exact leftSplit

theorem mem_of_mem_trim {text : List Char} {c : Char} (member : c ∈ trim text) : c ∈ text := by
  obtain ⟨left, right, _, _, split⟩ := exists_trim_split text
  rw [split]
  exact List.mem_append_left _ (List.mem_append_right _ member)

theorem trim_blank_append {left : List Char} (blank : AllBlank left) (text : List Char) :
    trim (left ++ text) = trim text := by
  rw [trim, trim, trimStart_blank_append blank]

theorem trim_append_blank {right : List Char} (blank : AllBlank right) (text : List Char) :
    trim (text ++ right) = trim text := by
  by_cases void : AllBlank text
  · rw [trim_eq_nil void, trim_eq_nil (void.append blank)]
  · rw [trim, trim, trimStart_append void, trimEnd_append_blank blank]

theorem trim_trim (text : List Char) : trim (trim text) = trim text := by
  obtain ⟨left, right, leftBlank, rightBlank, split⟩ := exists_trim_split text
  have whole := congrArg trim split
  rw [trim_append_blank rightBlank, trim_blank_append leftBlank] at whole
  exact whole.symm

theorem isBlank_head_of_trim {c : Char} {text : List Char} (trimmed : trim (c :: text) = c :: text) :
    isBlank c = false := by
  cases blank : isBlank c with
  | false => rfl
  | true =>
    have dropped : trim (c :: text) = trim text :=
      trim_blank_append (allBlank_singleton blank) text
    obtain ⟨left, right, _, _, split⟩ := exists_trim_split text
    have lengths := congrArg List.length split
    have shorter := congrArg List.length (dropped.symm.trans trimmed)
    simp only [List.length_append, List.length_cons] at lengths shorter
    omega

theorem isBlank_last_of_trim {c : Char} {text : List Char}
    (trimmed : trim (text ++ [c]) = text ++ [c]) : isBlank c = false := by
  cases blank : isBlank c with
  | false => rfl
  | true =>
    have dropped : trim (text ++ [c]) = trim text :=
      trim_append_blank (allBlank_singleton blank) text
    obtain ⟨left, right, _, _, split⟩ := exists_trim_split text
    have lengths := congrArg List.length split
    have shorter := congrArg List.length (dropped.symm.trans trimmed)
    simp only [List.length_append, List.length_singleton] at lengths shorter
    omega

theorem blank_left_eq_nil_iff {left mark : List Char} (trimmed : trim mark = mark)
    (solid : mark ≠ []) (blank : AllBlank left) (right : List Char) :
    left = [] ↔ (left ++ mark ++ right).head?.any isBlank = false := by
  obtain ⟨m, mark, rfl⟩ := List.exists_cons_of_ne_nil solid
  cases left with
  | nil => simp [isBlank_head_of_trim trimmed]
  | cons c left => simp [blank c List.mem_cons_self]

theorem blank_right_eq_nil_iff {mark right : List Char} (trimmed : trim mark = mark)
    (solid : mark ≠ []) (blank : AllBlank right) (left : List Char) :
    right = [] ↔ (left ++ mark ++ right).getLast?.any isBlank = false := by
  obtain ⟨front, m, rfl⟩ := (List.eq_nil_or_concat' mark).resolve_left solid
  rcases List.eq_nil_or_concat' right with rfl | ⟨more, c, rfl⟩
  · simp [isBlank_last_of_trim trimmed]
  · have last : (left ++ (front ++ [m]) ++ (more ++ [c])).getLast? = some c := by
      rw [← List.append_assoc, List.getLast?_concat]
    rw [last, Option.any_some, blank c (List.mem_append_right more (List.mem_singleton_self c))]
    simp

theorem contains_iff_isInfix {mark text : List Char} : contains mark text = true ↔ mark <:+: text := by
  induction text with
  | nil => simp [contains]
  | cons c text ih => simp [contains, ih, List.infix_cons_iff]

theorem upTo_blank_append {mark left : List Char} (trimmed : trim mark = mark) (solid : mark ≠ [])
    (blank : AllBlank left) (right : List Char) : upTo mark (left ++ mark ++ right) = left := by
  obtain ⟨m, mark, rfl⟩ := List.exists_cons_of_ne_nil solid
  have headSolid := isBlank_head_of_trim trimmed
  induction left with
  | nil => simp [upTo]
  | cons c left ih =>
    have differs : m ≠ c := by
      intro same
      rw [same, blank c List.mem_cons_self] at headSolid
      cases headSolid
    have rest := ih fun d member => blank d (List.mem_cons_of_mem c member)
    simp only [List.cons_append, upTo, List.isPrefixOf, beq_eq_false_iff_ne.mpr differs,
      Bool.false_and, Bool.false_eq_true, if_false, List.cons.injEq, true_and]
    exact rest

end ApiMigration.Text
