import ApiMigration.Proofs.Text.Lines
import ApiMigration.Proofs.Text.Reader
import Mathlib.Computability.Language

/-!
Headers as languages: white space, words with white space after them, and such words that may be
missing. A reading step takes off what belongs to its language and leaves the rest, since words that
can stand in the same place begin with different letters. Headers of public types are read in the same
way whatever their modifiers and keywords are. A header is looked for from every line start, and the
first line start where it can be read counts.
-/

namespace ApiMigration.Text

def blankText : Language Char :=
  {text | AllBlank text}

def blankRun : Language Char :=
  {text | text ≠ [] ∧ AllBlank text}

def oneOf (words : List String) : Language Char :=
  {text | ∃ word ∈ words, text = word.toList}

def spaced (words : List String) : Language Char :=
  oneOf words * blankRun

section Steps

variable {text rest : List Char} {word : String} {words : List String}

theorem trimStart_append_eq {left : List Char} (blank : AllBlank left)
    (stops : Stops isBlank rest) : trimStart (left ++ rest) = rest := by
  rw [trimStart_blank_append blank, trimStart_eq_self stops]

theorem blanks?_eq_some_iff :
    blanks? text = some rest ↔ Stops isBlank rest ∧ ∃ space ∈ blankRun, text = space ++ rest := by
  constructor
  · intro read
    cases text with
    | nil => cases read
    | cons c text =>
      rw [blanks?] at read
      split at read
      · next blank =>
        cases read
        obtain ⟨left, each, split⟩ := exists_trimStart_split text
        refine ⟨stops_trimStart text, c :: left, ⟨List.cons_ne_nil c left, ?_⟩, ?_⟩
        · intro d member
          rcases List.mem_cons.mp member with rfl | member
          · exact blank
          · exact each d member
        · rw [List.cons_append, ← split]
      · cases read
  · rintro ⟨stops, space, ⟨solid, blank⟩, rfl⟩
    obtain ⟨c, more, rfl⟩ := List.exists_cons_of_ne_nil solid
    have below : AllBlank more := fun d member => blank d (List.mem_cons_of_mem c member)
    rw [List.cons_append, blanks?, if_pos (blank c List.mem_cons_self),
      trimStart_append_eq below stops]

theorem word?_eq_some_iff : word? word text = some rest ↔
    Stops isBlank rest ∧ ∃ space ∈ blankRun, text = word.toList ++ space ++ rest := by
  simp only [word?, Option.bind_eq_some_iff, literal?_eq_some_iff, blanks?_eq_some_iff]
  constructor
  · rintro ⟨_, rfl, stops, space, blank, rfl⟩
    exact ⟨stops, space, blank, (List.append_assoc _ _ _).symm⟩
  · rintro ⟨stops, space, blank, rfl⟩
    exact ⟨space ++ rest, List.append_assoc _ _ _, stops, space, blank, rfl⟩

theorem identifier?_eq_some_iff {name : List Char} : identifier? text = some (name, rest) ↔
    IsIdentifier name ∧ Stops isNameChar rest ∧ text = name ++ rest := by
  constructor
  · intro read
    refine ⟨isIdentifier_of_identifier? read, ?_, eq_append_of_identifier? read⟩
    unfold identifier? at read
    split at read
    · cases read
    · split at read
      · cases read
        exact stops_dropWhile isNameChar _
      · cases read
  · rintro ⟨identifier, stops, rfl⟩
    exact identifier?_append identifier stops

theorem Stops.isNameChar (stops : Stops isWordChar rest) : Stops isNameChar rest := by
  intro c first
  have refused := stops c first
  rw [isWordChar, Bool.or_eq_false_iff] at refused
  exact refused.1

theorem endsWord_iff : endsWord rest = true ↔ Stops isWordChar rest := by
  cases rest with
  | nil => simp [endsWord, Stops]
  | cons c rest => simp [endsWord, Stops]

end Steps

section Choice

variable {text rest piece : List Char} {word : String} {words : List String}

theorem mem_spaced_iff :
    piece ∈ spaced words ↔ ∃ word ∈ words, ∃ space ∈ blankRun, piece = word.toList ++ space := by
  rw [spaced, Language.mem_mul]
  constructor
  · rintro ⟨_, ⟨word, listed, rfl⟩, space, blank, rfl⟩
    exact ⟨word, listed, space, blank, rfl⟩
  · rintro ⟨word, listed, space, blank, rfl⟩
    exact ⟨word.toList, ⟨word, listed, rfl⟩, space, blank, rfl⟩

theorem mem_optional_iff : piece ∈ 1 + spaced words ↔ piece = [] ∨ piece ∈ spaced words := by
  rw [Language.mem_add, Language.mem_one]

theorem word?_eq_some_iff_mem : word? word text = some rest ↔
    Stops isBlank rest ∧ ∃ piece ∈ spaced [word], text = piece ++ rest := by
  simp only [word?_eq_some_iff, mem_spaced_iff, List.mem_singleton]
  constructor
  · rintro ⟨stops, space, blank, rfl⟩
    exact ⟨stops, _, ⟨word, rfl, space, blank, rfl⟩, rfl⟩
  · rintro ⟨stops, _, ⟨_, rfl, space, blank, rfl⟩, rfl⟩
    exact ⟨stops, space, blank, rfl⟩

def Begins (starts : List Char) (text : List Char) : Prop :=
  ∃ c ∈ starts, text.head? = some c

instance (starts text : List Char) : Decidable (Begins starts text) :=
  List.decidableBEx (fun c => text.head? = some c) starts

theorem Begins.stops {starts : List Char} {allowed : Char → Bool} (begins : Begins starts text)
    (refused : ∀ c ∈ starts, allowed c = false) : Stops allowed text := by
  obtain ⟨c, start, first⟩ := begins
  intro d same
  rw [first] at same
  cases same
  exact refused c start

theorem begins_spaced {starts : List Char} (member : piece ∈ spaced words)
    (initials : ∀ word ∈ words, Begins starts word.toList) (rest : List Char) :
    Begins starts (piece ++ rest) := by
  obtain ⟨word, listed, space, _, rfl⟩ := mem_spaced_iff.mp member
  obtain ⟨c, start, first⟩ := initials word listed
  exact ⟨c, start, by rw [List.append_assoc, List.head?_append, first, Option.some_or]⟩

theorem begins_optional {starts more : List Char} (member : piece ∈ 1 + spaced words)
    (initials : ∀ word ∈ words, Begins more word.toList) (begins : Begins starts rest) :
    Begins (more ++ starts) (piece ++ rest) := by
  rcases mem_optional_iff.mp member with rfl | member
  · obtain ⟨c, start, first⟩ := begins
    exact ⟨c, List.mem_append_right more start, first⟩
  · obtain ⟨c, start, first⟩ := begins_spaced member initials rest
    exact ⟨c, List.mem_append_left starts start, first⟩

theorem head?_of_word? (read : word? word text = some rest) (solid : word ≠ "") :
    text.head? = word.toList.head? := by
  obtain ⟨_, space, _, rfl⟩ := word?_eq_some_iff.mp read
  have chars : word.toList ≠ [] := fun empty => solid (String.toList_eq_nil_iff.mp empty)
  rw [List.append_assoc, List.head?_append_of_ne_nil _ chars]

theorem word?_eq_none_of_begins {starts : List Char} (begins : Begins starts text)
    (solid : word ≠ "") (other : ∀ c ∈ starts, word.toList.head? ≠ some c) :
    word? word text = none := by
  obtain ⟨c, start, first⟩ := begins
  cases read : word? word text with
  | none => rfl
  | some rest =>
    rw [head?_of_word? read solid] at first
    exact absurd first (other c start)

theorem findSome?_word?_eq_some_iff {α : Type} {items : List α} {spell : α → String} {item : α}
    (listed : item ∈ items) (solid : ∀ item, spell item ≠ "")
    (apart : ∀ item other, (spell item).toList.head? = (spell other).toList.head? → item = other) :
    (items.findSome? fun item => (word? (spell item) text).map fun rest => (item, rest)) =
      some (item, rest) ↔ word? (spell item) text = some rest := by
  -- an item that is tried earlier would need its word at the same place
  have only {other : α} {pair : α × List Char} (read : word? (spell item) text = some rest)
      (found : (word? (spell other) text).map (fun rest => (other, rest)) = some pair) :
      pair = (item, rest) := by
    obtain ⟨_, taken, same⟩ := Option.map_eq_some_iff.mp found
    have first := (head?_of_word? taken (solid other)).symm.trans (head?_of_word? read (solid item))
    cases apart other item first
    rw [read] at taken
    cases taken
    exact same.symm
  constructor
  · intro found
    obtain ⟨_, _, taken⟩ := List.exists_of_findSome?_eq_some found
    obtain ⟨_, read, same⟩ := Option.map_eq_some_iff.mp taken
    cases same
    exact read
  · intro read
    cases found : items.findSome? fun item =>
        (word? (spell item) text).map fun rest => (item, rest) with
    | none =>
      rw [List.findSome?_eq_none_iff] at found
      simpa [read] using found item listed
    | some pair =>
      obtain ⟨_, _, taken⟩ := List.exists_of_findSome?_eq_some found
      exact congrArg some (only read taken)

def skipOneOf (words : List String) (text : List Char) : List Char :=
  (words.findSome? fun word => word? word text).getD text

theorem skipWord_eq_skipOneOf (word : String) (text : List Char) :
    skipWord word text = skipOneOf [word] text := by
  rw [skipWord, skipOneOf, List.findSome?_cons]
  cases word? word text <;> rfl

theorem exists_skipOneOf (words : List String) (stops : Stops isBlank text) :
    Stops isBlank (skipOneOf words text) ∧
      ∃ piece ∈ 1 + spaced words, text = piece ++ skipOneOf words text := by
  cases found : words.findSome? fun word => word? word text with
  | none =>
    have same : skipOneOf words text = text := by rw [skipOneOf, found, Option.getD_none]
    rw [same]
    exact ⟨stops, [], mem_optional_iff.mpr (.inl rfl), rfl⟩
  | some rest =>
    have same : skipOneOf words text = rest := by rw [skipOneOf, found, Option.getD_some]
    obtain ⟨word, listed, read⟩ := List.exists_of_findSome?_eq_some found
    obtain ⟨ends, space, blank, split⟩ := word?_eq_some_iff.mp read
    have piece : word.toList ++ space ∈ spaced words :=
      mem_spaced_iff.mpr ⟨word, listed, space, blank, rfl⟩
    rw [same]
    exact ⟨ends, _, mem_optional_iff.mpr (.inr piece), split⟩

theorem skipOneOf_append {starts : List Char} (member : piece ∈ 1 + spaced words)
    (solid : ∀ word ∈ words, word ≠ "")
    (apart : ∀ word ∈ words, ∀ other ∈ words, word.toList.head? = other.toList.head? → word = other)
    (stops : Stops isBlank rest) (begins : Begins starts rest)
    (further : ∀ word ∈ words, ∀ c ∈ starts, word.toList.head? ≠ some c) :
    skipOneOf words (piece ++ rest) = rest := by
  rcases mem_optional_iff.mp member with rfl | member
  · have nothing : (words.findSome? fun word => word? word rest) = none := by
      rw [List.findSome?_eq_none_iff]
      intro word listed
      exact word?_eq_none_of_begins begins (solid word listed) (further word listed)
    rw [List.nil_append, skipOneOf, nothing, Option.getD_none]
  · obtain ⟨word, listed, space, blank, rfl⟩ := mem_spaced_iff.mp member
    have read : word? word (word.toList ++ space ++ rest) = some rest :=
      word?_eq_some_iff.mpr ⟨stops, space, blank, rfl⟩
    cases found : words.findSome? fun other => word? other (word.toList ++ space ++ rest) with
    | none =>
      rw [List.findSome?_eq_none_iff] at found
      rw [found word listed] at read
      cases read
    | some left =>
      obtain ⟨other, inside, taken⟩ := List.exists_of_findSome?_eq_some found
      have first := (head?_of_word? read (solid word listed)).symm.trans
        (head?_of_word? taken (solid other inside))
      rw [← apart word listed other inside first, read] at taken
      rw [skipOneOf, found, Option.getD_some]
      exact (Option.some.inj taken).symm

end Choice

section TypeHeaders

variable {below rest : List Char} {name : String}

/-- How headers of public types are read: which modifiers may stand between `public` and the keyword
of a type, and which keywords there are. The letters that keywords begin with begin no modifier. -/
structure TypeHeader (Kind : Type) where
  keyword : Kind → String
  modifiers : Language Char
  starts : List Char
  skip : List Char → List Char
  readKind : List Char → Option (Kind × List Char)
  begins_keyword : ∀ kind, ∀ word ∈ [keyword kind], Begins starts word.toList
  exists_skip : ∀ {text}, Stops isBlank text →
    Stops isBlank (skip text) ∧ ∃ piece ∈ modifiers, text = piece ++ skip text
  skip_append : ∀ {piece rest}, piece ∈ modifiers → Begins starts rest →
    Stops isBlank (piece ++ rest) ∧ skip (piece ++ rest) = rest
  readKind_iff : ∀ {text rest kind},
    readKind text = some (kind, rest) ↔ word? (keyword kind) text = some rest

namespace TypeHeader

variable {Kind : Type} {kind : Kind}

def front (header : TypeHeader Kind) (kind : Kind) : Language Char :=
  blankText * spaced ["public"] * header.modifiers * spaced [header.keyword kind]

def read (header : TypeHeader Kind) (text : List Char) :
    Option ((Kind × String) × List Char) := do
  let text ← word? "public" text
  let (kind, text) ← header.readKind (header.skip text)
  let (name, text) ← identifier? text
  if endsWord text then some ((kind, String.ofList name), text) else none

theorem exists_front_of_read {header : TypeHeader Kind}
    (read : header.read (trimStart below) = some ((kind, name), rest)) :
    (∃ front ∈ header.front kind, below = front ++ name.toList ++ rest) ∧
      IsIdentifier name.toList ∧ Stops isWordChar rest := by
  obtain ⟨margin, blank, split⟩ := exists_trimStart_split below
  simp only [TypeHeader.read, Option.bind_eq_bind, Option.bind_eq_some_iff, Prod.exists] at read
  obtain ⟨opened, publicly, _, headless, kindly, chars, ending, named, read⟩ := read
  split at read
  · next ends =>
    cases read
    obtain ⟨stopsOpened, opening, isPublic, first⟩ := word?_eq_some_iff_mem.mp publicly
    obtain ⟨_, between, modified, second⟩ := header.exists_skip stopsOpened
    obtain ⟨_, keyword, isKeyword, third⟩ :=
      word?_eq_some_iff_mem.mp (header.readKind_iff.mp kindly)
    obtain ⟨identifier, _, fourth⟩ := identifier?_eq_some_iff.mp named
    rw [String.toList_ofList]
    refine ⟨⟨margin ++ opening ++ between ++ keyword, ?_, ?_⟩, identifier, endsWord_iff.mp ends⟩
    · exact Language.append_mem_mul (Language.append_mem_mul
        (Language.append_mem_mul blank isPublic) modified) isKeyword
    · simp only [List.append_assoc]
      rw [← fourth, ← third, ← second, ← first, ← split]
  · cases read

theorem read_append {header : TypeHeader Kind} {front : List Char}
    (member : front ∈ header.front kind) (identifier : IsIdentifier name.toList)
    (ends : Stops isWordChar rest) :
    header.read (trimStart (front ++ name.toList ++ rest)) = some ((kind, name), rest) := by
  obtain ⟨_, ⟨_, ⟨margin, blank, opening, isPublic, rfl⟩, between, modified, rfl⟩, keyword,
    isKeyword, rfl⟩ := member
  have stopsName : Stops isBlank (name.toList ++ rest) := stops_of_isIdentifier identifier
  have begins : Begins header.starts (keyword ++ (name.toList ++ rest)) :=
    begins_spaced isKeyword (header.begins_keyword kind) _
  obtain ⟨stopsModifiers, skipped⟩ := header.skip_append modified begins
  have publicly : word? "public" (opening ++ (between ++ (keyword ++ (name.toList ++ rest)))) =
      some (between ++ (keyword ++ (name.toList ++ rest))) :=
    word?_eq_some_iff_mem.mpr ⟨stopsModifiers, opening, isPublic, rfl⟩
  have beginsPublic : Begins ['p'] (opening ++ (between ++ (keyword ++ (name.toList ++ rest)))) :=
    begins_spaced isPublic (by decide) _
  have kindly : header.readKind (keyword ++ (name.toList ++ rest)) =
      some (kind, name.toList ++ rest) :=
    header.readKind_iff.mpr (word?_eq_some_iff_mem.mpr ⟨stopsName, keyword, isKeyword, rfl⟩)
  have named : identifier? (name.toList ++ rest) = some (name.toList, rest) :=
    identifier?_append identifier ends.isNameChar
  simp only [List.append_assoc]
  rw [trimStart_append_eq blank (beginsPublic.stops (by decide)), TypeHeader.read, publicly,
    Option.bind_eq_bind, Option.bind_some, skipped, kindly]
  simp [named, endsWord_iff.mpr ends]

theorem read_eq_some_iff (header : TypeHeader Kind) :
    header.read (trimStart below) = some ((kind, name), rest) ↔
      (∃ front ∈ header.front kind, below = front ++ name.toList ++ rest) ∧
        IsIdentifier name.toList ∧ Stops isWordChar rest := by
  constructor
  · exact exists_front_of_read
  · rintro ⟨⟨front, member, rfl⟩, identifier, ends⟩
    exact read_append member identifier ends

end TypeHeader

end TypeHeaders

section LineStarts

variable {α : Type} {read : List Char → Option (α × List Char)} {text below : List Char}

theorem mem_laterLines : below ∈ laterLines text ↔ ∃ front, text = front ++ '\n' :: below := by
  induction text with
  | nil => simp [laterLines]
  | cons c text ih =>
    have step : (∃ front, c :: text = front ++ '\n' :: below) ↔
        c = '\n' ∧ text = below ∨ ∃ front, text = front ++ '\n' :: below := by
      constructor
      · rintro ⟨front, split⟩
        cases front with
        | nil => exact .inl (List.cons.inj split)
        | cons first front => exact .inr ⟨front, (List.cons.inj split).2⟩
      · rintro (⟨rfl, rfl⟩ | ⟨front, rfl⟩)
        · exact ⟨[], rfl⟩
        · exact ⟨c :: front, rfl⟩
    rw [step, laterLines, ← ih]
    split
    · next feed => simp [feed, eq_comm]
    · next other => simp [other]

theorem mem_lineStarts :
    below ∈ lineStarts text ↔ ∃ above, text = above ++ below ∧ Complete above := by
  rw [lineStarts, List.mem_cons, mem_laterLines]
  constructor
  · rintro (rfl | ⟨front, rfl⟩)
    · exact ⟨[], rfl, complete_nil⟩
    · exact ⟨front ++ ['\n'], by simp, complete_append_feed front⟩
  · rintro ⟨above, rfl, rfl | last⟩
    · exact .inl rfl
    · obtain ⟨front, rfl⟩ := List.getLast?_eq_some_iff.mp last
      exact .inr ⟨front, by simp⟩

theorem pairwise_lineStarts (text : List Char) :
    (lineStarts text).Pairwise fun upper lower => lower.length < upper.length := by
  induction text with
  | nil => exact List.pairwise_singleton _ _
  | cons c text ih =>
    have shorter : ∀ lower ∈ lineStarts text, lower.length < (c :: text).length := by
      intro lower member
      obtain ⟨above, rfl, _⟩ := mem_lineStarts.mp member
      simp only [List.length_cons, List.length_append]
      omega
    rw [lineStarts, laterLines, List.pairwise_cons]
    split
    · exact ⟨shorter, ih⟩
    · exact ⟨fun lower member => shorter lower (List.mem_cons_of_mem _ member),
        (List.pairwise_cons.mp ih).2⟩

theorem firstAtLine_eq_some_iff {item : α} : firstAtLine read text = some item ↔
    ∃ above below, text = above ++ below ∧ Complete above ∧
      (∃ rest, read (trimStart below) = some (item, rest)) ∧
      ∀ earlier later, text = earlier ++ later → Complete earlier →
        earlier.length < above.length → read (trimStart later) = none := by
  rw [firstAtLine, lineHeads_eq, List.findSome?_map, List.findSome?_eq_some_iff]
  have ordered := pairwise_lineStarts text
  constructor
  · rintro ⟨upper, below, lower, split, found, nothing⟩
    obtain ⟨above, rfl, complete⟩ := mem_lineStarts.mp (split ▸ List.mem_append_cons_self)
    obtain ⟨⟨_, rest⟩, success, rfl⟩ := Option.map_eq_some_iff.mp found
    refine ⟨above, below, rfl, complete, ⟨rest, success⟩, ?_⟩
    intro earlier later same starts shorter
    have lengths := congrArg List.length same
    rw [List.length_append, List.length_append] at lengths
    have listed : later ∈ upper ++ below :: lower := by
      rw [← split]
      exact mem_lineStarts.mpr ⟨earlier, same, starts⟩
    rw [split, List.pairwise_append, List.pairwise_cons] at ordered
    rcases List.mem_append.mp listed with member | member
    · simpa using nothing later member
    · rcases List.mem_cons.mp member with rfl | member
      · omega
      · have longer := ordered.2.1.1 later member
        omega
  · rintro ⟨above, below, rfl, complete, ⟨rest, success⟩, nothing⟩
    have member : below ∈ lineStarts (above ++ below) := mem_lineStarts.mpr ⟨above, rfl, complete⟩
    obtain ⟨upper, lower, split⟩ := List.append_of_mem member
    refine ⟨upper, below, lower, split, by simp [success], ?_⟩
    intro later inside
    rw [split, List.pairwise_append] at ordered
    have longer := ordered.2.2 later inside below List.mem_cons_self
    have listed : later ∈ lineStarts (above ++ below) := by
      rw [split]
      exact List.mem_append_left _ inside
    obtain ⟨earlier, same, starts⟩ := mem_lineStarts.mp listed
    have lengths := congrArg List.length same
    rw [List.length_append, List.length_append] at lengths
    simp [nothing earlier later same starts (by omega)]

theorem firstAtLine_eq_none_iff : firstAtLine read text = none ↔
    ∀ above below, text = above ++ below → Complete above → read (trimStart below) = none := by
  rw [firstAtLine, lineHeads_eq, List.findSome?_map, List.findSome?_eq_none_iff]
  constructor
  · intro nothing above below split complete
    simpa using nothing below (mem_lineStarts.mpr ⟨above, split, complete⟩)
  · intro nothing below member
    obtain ⟨above, split, complete⟩ := mem_lineStarts.mp member
    simp [nothing above below split complete]

end LineStarts

end ApiMigration.Text
