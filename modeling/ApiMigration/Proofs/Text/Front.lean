import ApiMigration.Proofs.Text.Lines
import ApiMigration.Proofs.Text.Reader

namespace ApiMigration.Text

def Spaced (front : List Char) : Prop :=
  ∀ before c, front = before ++ [c] → isBlank c = true

/-- A text with a line feed after everything in it that is no blank. -/
def Settled (front : List Char) : Prop :=
  ∀ before c rest, front = before ++ c :: rest → isBlank c = false → '\n' ∈ rest

theorem Settled.spaced {front : List Char} (settled : Settled front) : Spaced front := by
  intro before c split
  by_contra solid
  have feed := settled before c [] split (by simpa using solid)
  cases feed

theorem Settled.of_isSuffix {front tail : List Char} (settled : Settled front)
    (ends : tail <:+ front) : Settled tail := by
  obtain ⟨start, rfl⟩ := ends
  intro before c rest split solid
  apply settled (start ++ before) c rest _ solid
  rw [split, List.append_assoc]

theorem Spaced.of_isSuffix {front tail : List Char} (spaced : Spaced front)
    (ends : tail <:+ front) : Spaced tail := by
  obtain ⟨start, rfl⟩ := ends
  intro before c split
  apply spaced (start ++ before) c
  rw [split, List.append_assoc]

theorem Spaced.exists_concat {front : List Char} (spaced : Spaced front) (solid : front ≠ []) :
    ∃ before c, front = before ++ [c] ∧ isBlank c = true := by
  obtain ⟨before, c, split⟩ := (List.eq_nil_or_concat' front).resolve_left solid
  exact ⟨before, c, split, spaced before c split⟩

theorem settled_of_allBlank {front : List Char} (blank : AllBlank front) : Settled front := by
  intro before c rest split solid
  rw [blank c (by simp [split])] at solid
  cases solid

theorem Complete.settled {before indent : List Char} (complete : Complete before)
    (blank : AllBlank indent) : Settled (before ++ indent) := by
  rcases complete with rfl | last
  · exact settled_of_allBlank blank
  · obtain ⟨above, rfl⟩ := List.getLast?_eq_some_iff.mp last
    have ending : AllBlank ('\n' :: indent) := allBlank_feed.append blank
    intro start c rest split solid
    rw [List.append_assoc, List.singleton_append] at split
    rcases List.append_eq_append_iff.mp split with ⟨more, _, inside⟩ | ⟨more, _, inside⟩
    · rw [ending c (by simp [inside])] at solid
      cases solid
    · cases more with
      | nil =>
        obtain ⟨rfl, _⟩ := List.cons.inj inside
        rw [isBlank_feed] at solid
        cases solid
      | cons _ more =>
        obtain ⟨_, rfl⟩ := List.cons.inj inside
        simp

section Readers

theorem isPackageChar_eq_false_of_isBlank {c : Char} (blank : isBlank c = true) :
    isPackageChar c = false := by
  rw [Bool.eq_false_iff]
  intro allowed
  rw [isBlank_eq_false_of_isPackageChar allowed] at blank
  cases blank

theorem isNameChar_eq_false_of_isBlank {c : Char} (blank : isBlank c = true) :
    isNameChar c = false := by
  rw [Bool.eq_false_iff]
  intro named
  rw [isBlank_eq_false_of_isNameChar named] at blank
  cases blank

variable {front back : List Char}

theorem trimStart_front (front : List Char) (stops : Stops isBlank back) :
    trimStart (front ++ back) = trimStart front ++ back := by
  by_cases blank : AllBlank front
  · rw [trimStart_blank_append blank, trimStart_eq_nil blank, trimStart_eq_self stops]
    rfl
  · exact trimStart_append blank back

theorem literal?_front {word : String} (solid : ∀ c ∈ word.toList, isBlank c = false)
    (spaced : Spaced front) (further : front ≠ []) (back : List Char) :
    literal? word (front ++ back) = (literal? word front).map (· ++ back) := by
  obtain ⟨before, c, rfl, blank⟩ := spaced.exists_concat further
  have apart : c ∉ word.toList := by
    intro member
    rw [solid c member] at blank
    cases blank
  by_cases begins : word.toList <+: before
  · obtain ⟨more, rfl⟩ := begins
    rw [literal?_eq_some_iff.mpr (List.append_assoc word.toList more [c]), Option.map_some,
      literal?_eq_some_iff]
    simp only [List.append_assoc]
  · have absent (rest : List Char) : literal? word (before ++ c :: rest) = none := by
      rw [Option.eq_none_iff_forall_ne_some]
      intro more read
      rw [literal?_eq_some_iff] at read
      exact begins (isPrefix_of_isPrefix_cons apart ⟨more, read.symm⟩)
    rw [List.append_assoc, List.singleton_append, absent, absent]
    rfl

theorem blanks?_front (further : front ≠ []) (stops : Stops isBlank back) :
    blanks? (front ++ back) = (blanks? front).map (· ++ back) := by
  obtain ⟨c, more, rfl⟩ := List.exists_cons_of_ne_nil further
  rw [List.cons_append, blanks?, blanks?, trimStart_front more stops]
  split <;> rfl

theorem isSuffix_of_word? {word : String} {text rest : List Char}
    (read : word? word text = some rest) : rest <:+ text := by
  obtain ⟨more, literal, blanks⟩ := Option.bind_eq_some_iff.mp read
  rw [literal?_eq_some_iff] at literal
  cases more with
  | nil => cases blanks
  | cons c more =>
    rw [blanks?, Option.ite_none_right_eq_some] at blanks
    obtain ⟨_, same⟩ := blanks
    cases same
    rw [literal]
    exact ((List.dropWhile_suffix isBlank).trans (List.suffix_cons c more)).trans
      (List.suffix_append _ _)

theorem word?_front {word : String} (solid : ∀ c ∈ word.toList, isBlank c = false)
    (spaced : Spaced front) (stops : Stops isBlank back)
    (absent : front = [] → ¬word.toList <+: back) :
    word? word (front ++ back) = (word? word front).map (· ++ back) := by
  by_cases empty : front = []
  · have nothing : word? word [] = none := by
      rw [Option.eq_none_iff_forall_ne_some]
      intro rest read
      obtain ⟨more, literal, blanks⟩ := Option.bind_eq_some_iff.mp read
      rw [literal?_eq_some_iff] at literal
      rw [(List.append_eq_nil_iff.mp literal.symm).2] at blanks
      cases blanks
    rw [empty, List.nil_append, word?_eq_none (absent empty), nothing]
    rfl
  · rw [word?, word?, literal?_front solid spaced empty]
    cases literal : literal? word front with
    | none => rfl
    | some rest =>
      have further : rest ≠ [] := by
        rintro rfl
        rw [literal?_eq_some_iff, List.append_nil] at literal
        obtain ⟨before, c, split, blank⟩ := spaced.exists_concat empty
        have inside := solid c (by rw [← literal, split]; simp)
        rw [inside] at blank
        cases blank
      exact blanks?_front further stops

theorem run?_front {allowed : Char → Bool} (apart : ∀ c, isBlank c = true → allowed c = false)
    (spaced : Spaced front) (further : front ≠ []) (back : List Char) :
    run? allowed (front ++ back) = (run? allowed front).map fun (run, rest) => (run, rest ++ back) := by
  obtain ⟨before, c, split, blank⟩ := spaced.exists_concat further
  have ended : ∃ c ∈ front, allowed c = false := ⟨c, by simp [split], apart c blank⟩
  obtain ⟨taken, dropped⟩ := takeWhile_front ended back
  rw [run?, run?, taken, dropped]
  split <;> rfl

theorem identifier?_front (spaced : Spaced front) (further : front ≠ []) (back : List Char) :
    identifier? (front ++ back) =
      (identifier? front).map fun (name, rest) => (name, rest ++ back) := by
  obtain ⟨before, c, split, blank⟩ := spaced.exists_concat further
  obtain ⟨first, more, rfl⟩ := List.exists_cons_of_ne_nil further
  rw [List.cons_append, identifier?, identifier?]
  by_cases start : isNameStart first = true
  · have ended : ∃ c ∈ more, isNameChar c = false := by
      have member : c ∈ first :: more := by simp [split]
      rcases List.mem_cons.mp member with rfl | member
      · rw [isBlank_eq_false_of_isNameChar (isNameChar_of_isNameStart start)] at blank
        cases blank
      · exact ⟨c, member, isNameChar_eq_false_of_isBlank blank⟩
    obtain ⟨taken, dropped⟩ := takeWhile_front ended back
    rw [if_pos start, if_pos start, taken, dropped]
    rfl
  · rw [if_neg start, if_neg start]
    rfl

theorem rest_ne_nil_of_identifier? {name rest : List Char} (spaced : Spaced front)
    (read : identifier? front = some (name, rest)) : rest ≠ [] := by
  intro empty
  have named := (isIdentifier_of_identifier? read).isNameChar
  rw [empty] at read
  have whole := eq_append_of_identifier? read
  rw [List.append_nil] at whole
  have further : front ≠ [] := by
    rw [whole]
    exact (isIdentifier_of_identifier? read).ne_nil
  obtain ⟨before, c, split, blank⟩ := spaced.exists_concat further
  rw [isBlank_eq_false_of_isNameChar (named c (by simp [← whole, split]))] at blank
  cases blank

end Readers

section Heads

variable {front back : List Char}

theorem laterLines_append (left right : List Char) :
    laterLines (left ++ right) = (laterLines left).map (· ++ right) ++ laterLines right := by
  induction left with
  | nil => rfl
  | cons c left ih =>
    rw [List.cons_append, laterLines, laterLines, ih]
    split <;> rfl

theorem laterLines_eq_nil {line : List Char} (single : '\n' ∉ line) : laterLines line = [] := by
  induction line with
  | nil => rfl
  | cons c line ih =>
    have other : c ≠ '\n' := fun same => single (by simp [same])
    rw [laterLines, if_neg other]
    exact ih fun member => single (List.mem_cons_of_mem c member)

theorem lineHeads_front (front : List Char) (stops : Stops isBlank back) :
    lineHeads (front ++ back) =
      (lineHeads front).map (· ++ back) ++ (laterLines back).map trimStart := by
  have trimmed : (trimStart ∘ (· ++ back)) = ((· ++ back) ∘ trimStart) :=
    funext fun head => trimStart_front head stops
  simp only [lineHeads_eq, lineStarts, laterLines_append, List.map_cons, List.map_append,
    List.map_map, trimmed, trimStart_front front stops, List.cons_append]

theorem isSuffix_of_mem_lineHeads {text head : List Char} (listed : head ∈ lineHeads text) :
    head <:+ text := by
  rw [lineHeads_eq, lineStarts, List.map_cons, List.mem_cons] at listed
  rcases listed with rfl | later
  · exact List.dropWhile_suffix isBlank
  · obtain ⟨line, member, rfl⟩ := List.mem_map.mp later
    exact (List.dropWhile_suffix isBlank).trans (isSuffix_of_mem_laterLines member)

variable {α : Type} {read : List Char → Option (α × List Char)}

theorem firstAtLine_front (ended : read [] = none) (settled : Settled front)
    (each : ∀ head, head <:+ front → head ≠ [] →
      (read (head ++ back)).map Prod.fst = (read head).map Prod.fst) :
    firstAtLine read (front ++ back) = (firstAtLine read front).or (firstAtLine read back) := by
  have nothing {line : List Char} (single : '\n' ∉ line) (blank : AllBlank line) :
      firstAtLine read line = none := by
    rw [firstAtLine_eq, trimStart_eq_nil blank, ended, laterLines_eq_nil single]
    rfl
  induction front using line_induction with
  | nil => rw [nothing (by simp) allBlank_nil, List.nil_append, Option.none_or]
  | last line solid single =>
    -- Nothing but blanks can stand on a line that has no line feed after it.
    have blank : AllBlank line := by
      intro c member
      by_contra other
      obtain ⟨before, rest, split⟩ := List.append_of_mem member
      have feed := settled before c rest split (by simpa using other)
      exact single (by simp [split, feed])
    rw [nothing single blank, Option.none_or, firstAtLine_eq, firstAtLine_eq back,
      trimStart_blank_append blank, laterLines_append, laterLines_eq_nil single]
    rfl
  | line line rest single ih =>
    have ends : rest <:+ line ++ '\n' :: rest :=
      (List.suffix_cons _ _).trans (List.suffix_append _ _)
    have below := ih (settled.of_isSuffix ends) fun head suffix =>
      each head (suffix.trans ends)
    rw [List.append_assoc, List.cons_append]
    by_cases blank : AllBlank line
    · rw [firstAtLine_blank single blank, firstAtLine_blank single blank, below]
    · have first := each (trimStart line ++ '\n' :: rest) (by
        rw [← trimStart_append blank]
        exact List.dropWhile_suffix isBlank) (by simp)
      rw [List.append_assoc, List.cons_append] at first
      rw [firstAtLine_line single, firstAtLine_line single, trimStart_append blank,
        trimStart_append blank, first, below, Option.or_assoc]

/-- How a reader fares at a place in the front, with either of two texts behind it: it finds the same
and stops in the front, or somewhere inside the text behind. -/
inductive ReadsAlike (read : List Char → Option (α × List Char)) (back other : List Char)
    (later : List (List Char)) (head : List Char) : Prop
  | nothing (first : read (head ++ back) = none) (second : read (head ++ other) = none)
  | before (item : α) (rest : List Char) (first : read (head ++ back) = some (item, rest ++ back))
      (second : read (head ++ other) = some (item, rest ++ other))
  | inside (item : α) (rest remains : List Char) (first : read (head ++ back) = some (item, rest))
      (second : read (head ++ other) = some (item, remains))
      (shorter : rest.length < back.length ∧ remains.length < other.length)
      (above : ∀ line ∈ later, line.length ≤ rest.length ∧ line.length ≤ remains.length)

theorem dropWhile_longer {later : List (List Char)} {size : Nat}
    (below : ∀ line ∈ later, line.length ≤ size) :
    later.dropWhile (fun line => size < line.length) = later := by
  cases later with
  | nil => rfl
  | cons line later =>
    have short := below line List.mem_cons_self
    rw [List.dropWhile_cons_of_neg (by simpa using short)]

theorem dropWhile_heads {heads later : List (List Char)} (rest : List Char)
    (below : ∀ line ∈ later, line.length ≤ back.length) :
    (heads.map (· ++ back) ++ later).dropWhile (fun line => (rest ++ back).length < line.length) =
      (heads.dropWhile fun head => rest.length < head.length).map (· ++ back) ++ later := by
  induction heads with
  | nil =>
    apply dropWhile_longer
    intro line member
    have short := below line member
    rw [List.length_append]
    omega
  | cons head heads ih =>
    by_cases long : rest.length < head.length
    · rw [List.map_cons, List.cons_append, List.dropWhile_cons_of_pos (by simpa using long), ih,
        List.dropWhile_cons_of_pos (by simpa using long)]
    · rw [List.dropWhile_cons_of_neg (by simpa using long), List.map_cons, List.cons_append,
        List.dropWhile_cons_of_neg (by simpa using long)]

theorem dropWhile_inside {heads later : List (List Char)} {rest : List Char}
    (shorter : rest.length < back.length) (above : ∀ line ∈ later, line.length ≤ rest.length) :
    (heads.map (· ++ back) ++ later).dropWhile (fun line => rest.length < line.length) = later := by
  have dropped : ∀ line ∈ heads.map (· ++ back), decide (rest.length < line.length) = true := by
    rw [List.forall_mem_map]
    intro head _
    rw [decide_eq_true_eq, List.length_append]
    omega
  rw [List.dropWhile_append_of_pos dropped, dropWhile_longer above]

theorem collectAt_front {other : List Char} {later : List (List Char)} (heads : List (List Char))
    (below : ∀ line ∈ later, line.length ≤ back.length ∧ line.length ≤ other.length)
    (alike : ∀ head ∈ heads, ReadsAlike read back other later head) :
    collectAt read (heads.map (· ++ back) ++ later) =
      collectAt read (heads.map (· ++ other) ++ later) := by
  -- A find hides the heads that it runs over, so the induction is on the number of heads.
  generalize size : heads.length = count
  induction count using Nat.strongRecOn generalizing heads with
  | ind count ih =>
    cases heads with
    | nil => rfl
    | cons head heads =>
      have each := fun other member => alike other (List.mem_cons_of_mem head member)
      rw [List.map_cons, List.map_cons, List.cons_append, List.cons_append]
      cases alike head List.mem_cons_self with
      | nothing first second =>
        rw [collectAt_cons_none first, collectAt_cons_none second]
        exact ih heads.length (by simp [← size]) heads each rfl
      | before item rest first second =>
        rw [collectAt, collectAt, first, second]
        simp only [dropWhile_heads rest fun line member => (below line member).1,
          dropWhile_heads rest fun line member => (below line member).2]
        have sublist : (heads.dropWhile fun head => rest.length < head.length).Sublist heads :=
          List.dropWhile_sublist _
        rw [ih _ _ _ _ rfl]
        · rw [← size, List.length_cons]
          exact Nat.lt_succ_of_le sublist.length_le
        · exact fun other member => each other (sublist.mem member)
      | inside item rest remains first second shorter above =>
        rw [collectAt, collectAt, first, second]
        simp only [dropWhile_inside shorter.1 fun line member => (above line member).1,
          dropWhile_inside shorter.2 fun line member => (above line member).2]

end Heads

end ApiMigration.Text
