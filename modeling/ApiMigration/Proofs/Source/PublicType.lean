import ApiMigration.Proofs.Text.Grammar
import ApiMigration.Source.Header

namespace ApiMigration.Source

open Text

def modifiers : Language Char :=
  (1 + spaced ["final", "abstract"]) * (1 + spaced ["sealed"]) * (1 + spaced ["non-sealed"])

def headerFront (kind : SourceKind) : Language Char :=
  blankText * spaced ["public"] * modifiers * spaced [kind.keyword]

/-- A text that begins with the header of a public type: the name is an identifier, as long as it can
be, and no word character of any script follows it. -/
def Declares (text : List Char) (kind : SourceKind) (name : String) : Prop :=
  ∃ front ∈ headerFront kind, ∃ rest, text = front ++ name.toList ++ rest ∧
    IsIdentifier name.toList ∧ Stops isNameChar rest ∧ Stops isWordChar rest

section Modifiers

variable {text rest piece : List Char}

theorem skipModifiers_eq (text : List Char) : skipModifiers text =
    skipOneOf ["non-sealed"] (skipOneOf ["sealed"] (skipOneOf ["final", "abstract"] text)) := by
  have access : ((word? "final" text).or (word? "abstract" text)).getD text =
      skipOneOf ["final", "abstract"] text := by
    rw [skipOneOf, List.findSome?_cons, List.findSome?_cons]
    cases word? "final" text with
    | some rest => rfl
    | none => cases word? "abstract" text <;> rfl
  rw [skipModifiers, access, skipWord_eq_skipOneOf, skipWord_eq_skipOneOf]

theorem exists_skipModifiers (stops : Stops isBlank text) : Stops isBlank (skipModifiers text) ∧
    ∃ piece ∈ modifiers, text = piece ++ skipModifiers text := by
  obtain ⟨stopsFirst, access, accessible, first⟩ :=
    exists_skipOneOf ["final", "abstract"] stops
  obtain ⟨stopsSecond, closing, closed, second⟩ := exists_skipOneOf ["sealed"] stopsFirst
  obtain ⟨stopsThird, opening, opened, third⟩ := exists_skipOneOf ["non-sealed"] stopsSecond
  rw [skipModifiers_eq]
  refine ⟨stopsThird, access ++ closing ++ opening, ?_, ?_⟩
  · exact Language.append_mem_mul (Language.append_mem_mul accessible closed) opened
  · rw [List.append_assoc, ← third, List.append_assoc, ← second, ← first]

/-- The letters that the keywords begin with. No modifier begins with one of them. -/
def keywordStarts : List Char :=
  ['c', 'i', 'e']

/-- Modifiers are skipped in front of a keyword. Every one of them, and the keyword, begins with a
letter of its own, so none is taken for another one. -/
theorem skipModifiers_append (member : piece ∈ modifiers) (begins : Begins keywordStarts rest) :
    Stops isBlank (piece ++ rest) ∧ skipModifiers (piece ++ rest) = rest := by
  obtain ⟨_, ⟨access, accessible, closing, closed, rfl⟩, opening, opened, rfl⟩ := member
  -- from the keyword backwards, since a modifier that is missing must not be found in what follows
  have third : skipOneOf ["non-sealed"] (opening ++ rest) = rest :=
    skipOneOf_append opened (by decide) (by decide) (begins.stops (by decide)) begins (by decide)
  have beginsThird : Begins (['n'] ++ keywordStarts) (opening ++ rest) :=
    begins_optional opened (by decide) begins
  have second : skipOneOf ["sealed"] (closing ++ (opening ++ rest)) = opening ++ rest :=
    skipOneOf_append closed (by decide) (by decide) (beginsThird.stops (by decide)) beginsThird
      (by decide)
  have beginsSecond : Begins (['s'] ++ (['n'] ++ keywordStarts)) (closing ++ (opening ++ rest)) :=
    begins_optional closed (by decide) beginsThird
  have first : skipOneOf ["final", "abstract"] (access ++ (closing ++ (opening ++ rest))) =
      closing ++ (opening ++ rest) :=
    skipOneOf_append accessible (by decide) (by decide) (beginsSecond.stops (by decide))
      beginsSecond (by decide)
  have beginsFirst : Begins (['f', 'a'] ++ (['s'] ++ (['n'] ++ keywordStarts)))
      (access ++ (closing ++ (opening ++ rest))) :=
    begins_optional accessible (by decide) beginsSecond
  simp only [List.append_assoc]
  exact ⟨beginsFirst.stops (by decide), by rw [skipModifiers_eq, first, second, third]⟩

end Modifiers

section Kind

variable {text rest : List Char} {kind : SourceKind}

theorem begins_keyword (kind : SourceKind) :
    ∀ word ∈ [kind.keyword], Begins keywordStarts word.toList := by
  intro word listed
  rw [List.mem_singleton.mp listed]
  cases kind with
  | classType => exact ⟨'c', by decide, by decide⟩
  | interfaceType => exact ⟨'i', by decide, by decide⟩
  | enumType => exact ⟨'e', by decide, by decide⟩

theorem readKind_eq_some_iff :
    readKind text = some (kind, rest) ↔ word? kind.keyword text = some rest := by
  have solid (kind : SourceKind) : kind.keyword ≠ "" := by cases kind <;> decide
  have apart (kind other : SourceKind)
      (same : kind.keyword.toList.head? = other.keyword.toList.head?) : kind = other := by
    revert same
    cases kind <;> cases other <;> decide
  exact findSome?_word?_eq_some_iff (by cases kind <;> decide) solid apart

end Kind

section Header

variable {text below : List Char} {kind : SourceKind} {name : String}

def typeHeader : TypeHeader SourceKind where
  keyword := SourceKind.keyword
  modifiers := modifiers
  starts := keywordStarts
  skip := skipModifiers
  readKind := readKind
  begins_keyword := begins_keyword
  exists_skip := exists_skipModifiers
  skip_append := skipModifiers_append
  readKind_iff := readKind_eq_some_iff

theorem readPublicType_iff :
    (∃ rest, readPublicType (trimStart below) = some ((kind, name), rest)) ↔
      Declares below kind name := by
  constructor
  · rintro ⟨rest, read⟩
    obtain ⟨⟨front, member, split⟩, identifier, ends⟩ := typeHeader.read_eq_some_iff.mp read
    exact ⟨front, member, rest, split, identifier, ends.isNameChar, ends⟩
  · rintro ⟨front, member, rest, split, identifier, _, ends⟩
    exact ⟨rest, typeHeader.read_eq_some_iff.mpr ⟨⟨front, member, split⟩, identifier, ends⟩⟩

theorem readPublicType_eq_none_iff :
    readPublicType (trimStart below) = none ↔ ∀ kind name, ¬Declares below kind name := by
  simp only [← readPublicType_iff]
  cases readPublicType (trimStart below) with
  | none => simp
  | some found => simp [Prod.ext_iff]

/-- The public type of a text is the one whose header begins at the first line start where any header
begins. Without such a line start the text has none. -/
theorem publicType?_first_header (text : String) :
    (∀ kind name, publicType? text = some (kind, name) ↔
      ∃ above below, text.toList = above ++ below ∧ Complete above ∧ Declares below kind name ∧
        ∀ earlier later, text.toList = earlier ++ later → Complete earlier →
          earlier.length < above.length → ∀ kind' name', ¬Declares later kind' name') ∧
    (publicType? text = none ↔
      ∀ above below, text.toList = above ++ below → Complete above →
        ∀ kind name, ¬Declares below kind name) := by
  constructor
  · intro kind name
    simp only [publicType?, firstAtLine_eq_some_iff, readPublicType_iff, readPublicType_eq_none_iff]
  · simp only [publicType?, firstAtLine_eq_none_iff, readPublicType_eq_none_iff]

example : publicType? "publicly\n\tpublic final\nsealed\n\nenum Shape2" =
    some (.enumType, "Shape2") := by
  decide +kernel

/-- A letter of another script goes on with the word, so the name does not end before it. -/
example : publicType? "public class Caf\u00e9" = none := by
  decide +kernel

end Header

end ApiMigration.Source
