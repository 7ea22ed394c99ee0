import ApiMigration.Proofs.Text.Grammar
import ApiMigration.Proofs.Text.LineItems
import ApiMigration.Target.Header

/-!
The public types and the package of a target file. In a text whose lines each hold a header of a
public type or nothing that is public, the types found are those of the headers, in order. The package
is that of the first package line.
-/

namespace ApiMigration.Target

open Text

def modifiers : Language Char :=
  (1 + spaced ["open"]) * (1 + spaced ["abstract"])

def headerFront (kind : TargetKind) : Language Char :=
  blankText * spaced ["public"] * modifiers * spaced [kind.keyword]

/-- A text that begins with the header of a public type: the name is an identifier, and no word
character of any script follows it. -/
def Declares (text : List Char) (kind : TargetKind) (name : String) : Prop :=
  ∃ front ∈ headerFront kind, ∃ rest, text = front ++ name.toList ++ rest ∧
    IsIdentifier name.toList ∧ Stops isWordChar rest

/-- A line with the header of a public type, or one whose trimmed text does not begin with
`public`. -/
inductive LineDeclares (line : List Char) : Option (TargetKind × String) → Prop
  | header (kind : TargetKind) (name : String) (declares : Declares line kind name) :
      LineDeclares line (some (kind, name))
  | quiet (other : ¬"public".toList <+: trim line) : LineDeclares line none

/-- A text that begins with a package line: white space, `package`, white space and a name, with
nothing but white space behind it on its line. -/
def DeclaresPackage (text : List Char) (package : String) : Prop :=
  ∃ front ∈ blankText * spaced ["package"], ∃ rest, text = front ++ package.toList ++ rest ∧
    package ≠ "" ∧ (∀ c ∈ package.toList, isPackageChar c = true) ∧
    AllBlank (rest.takeWhile (· != '\n'))

def FirstPackage (text : List Char) (package : String) : Prop :=
  ∃ above below, text = above ++ below ∧ Complete above ∧ DeclaresPackage below package ∧
    ∀ earlier later, text = earlier ++ later → Complete earlier →
      earlier.length < above.length → ∀ other, ¬DeclaresPackage later other

section Modifiers

variable {text rest piece : List Char}

theorem exists_skipModifiers (stops : Stops isBlank text) :
    Stops isBlank (skipWord "abstract" (skipWord "open" text)) ∧
      ∃ piece ∈ modifiers, text = piece ++ skipWord "abstract" (skipWord "open" text) := by
  obtain ⟨stopsFirst, opening, opened, first⟩ := exists_skipOneOf ["open"] stops
  obtain ⟨stopsSecond, abstraction, abstracted, second⟩ :=
    exists_skipOneOf ["abstract"] stopsFirst
  rw [skipWord_eq_skipOneOf, skipWord_eq_skipOneOf]
  refine ⟨stopsSecond, opening ++ abstraction, Language.append_mem_mul opened abstracted, ?_⟩
  rw [List.append_assoc, ← second, ← first]

def keywordStarts : List Char :=
  ['c', 'i', 'e', 's']

theorem skipModifiers_append (member : piece ∈ modifiers) (begins : Begins keywordStarts rest) :
    Stops isBlank (piece ++ rest) ∧
      skipWord "abstract" (skipWord "open" (piece ++ rest)) = rest := by
  obtain ⟨opening, opened, abstraction, abstracted, rfl⟩ := member
  have second : skipOneOf ["abstract"] (abstraction ++ rest) = rest :=
    skipOneOf_append abstracted (by decide) (by decide) (begins.stops (by decide)) begins
      (by decide)
  have beginsSecond : Begins (['a'] ++ keywordStarts) (abstraction ++ rest) :=
    begins_optional abstracted (by decide) begins
  have first : skipOneOf ["open"] (opening ++ (abstraction ++ rest)) = abstraction ++ rest :=
    skipOneOf_append opened (by decide) (by decide) (beginsSecond.stops (by decide))
      beginsSecond (by decide)
  have beginsFirst : Begins (['o'] ++ (['a'] ++ keywordStarts))
      (opening ++ (abstraction ++ rest)) :=
    begins_optional opened (by decide) beginsSecond
  simp only [List.append_assoc]
  refine ⟨beginsFirst.stops (by decide), ?_⟩
  rw [skipWord_eq_skipOneOf, skipWord_eq_skipOneOf, first, second]

end Modifiers

section Kind

theorem begins_keyword (kind : TargetKind) :
    ∀ word ∈ [kind.keyword], Begins keywordStarts word.toList := by
  intro word listed
  rw [List.mem_singleton.mp listed]
  cases kind with
  | classType => exact ⟨'c', by decide, by decide⟩
  | interfaceType => exact ⟨'i', by decide, by decide⟩
  | enumType => exact ⟨'e', by decide, by decide⟩
  | structType => exact ⟨'s', by decide, by decide⟩

theorem readKind_eq_some_iff {text rest : List Char} {kind : TargetKind} :
    readKind text = some (kind, rest) ↔ word? kind.keyword text = some rest := by
  have solid (kind : TargetKind) : kind.keyword ≠ "" := by cases kind <;> decide
  have apart (kind other : TargetKind)
      (same : kind.keyword.toList.head? = other.keyword.toList.head?) : kind = other := by
    revert same
    cases kind <;> cases other <;> decide
  exact findSome?_word?_eq_some_iff (by cases kind <;> decide) solid apart

end Kind

section Header

variable {text below line rest : List Char} {kind : TargetKind} {name : String}

def typeHeader : TypeHeader TargetKind where
  keyword := TargetKind.keyword
  modifiers := modifiers
  starts := keywordStarts
  skip := fun text => skipWord "abstract" (skipWord "open" text)
  readKind := readKind
  begins_keyword := begins_keyword
  exists_skip := exists_skipModifiers
  skip_append := skipModifiers_append
  readKind_iff := readKind_eq_some_iff

theorem readPublicType_eq_some_iff :
    readPublicType (trimStart below) = some ((kind, name), rest) ↔
      (∃ front ∈ headerFront kind, below = front ++ name.toList ++ rest) ∧
        IsIdentifier name.toList ∧ Stops isWordChar rest :=
  typeHeader.read_eq_some_iff

theorem readPublicType_iff :
    (∃ rest, readPublicType (trimStart below) = some ((kind, name), rest)) ↔
      Declares below kind name := by
  simp only [readPublicType_eq_some_iff]
  constructor
  · rintro ⟨rest, ⟨front, member, split⟩, solid⟩
    exact ⟨front, member, rest, split, solid⟩
  · rintro ⟨front, member, rest, split, solid⟩
    exact ⟨rest, ⟨front, member, split⟩, solid⟩

theorem advances_readPublicType : Advances readPublicType := by
  rintro head ⟨kind, name⟩ rest stops read
  rw [← trimStart_eq_self stops] at read
  obtain ⟨⟨front, _, rfl⟩, identifier, _⟩ := readPublicType_eq_some_iff.mp read
  have solid := List.length_pos_iff.mpr identifier.ne_nil
  simp only [List.length_append]
  omega

theorem readPublicType_eq_none_of_not_isPrefix (other : ¬"public".toList <+: text) :
    readPublicType text = none := by
  rw [readPublicType, word?_eq_none other]
  rfl

theorem Declares.lineReads (declares : Declares line kind name) :
    LineReads readPublicType line (some (kind, name)) := by
  obtain ⟨front, member, rest, rfl, identifier, ends⟩ := declares
  have solid : ¬AllBlank (front ++ name.toList ++ rest) := by
    intro blank
    obtain ⟨c, more, spelled⟩ := List.exists_cons_of_ne_nil identifier.ne_nil
    have named := identifier.isNameChar c (by simp [spelled])
    have blankHere := blank c (by simp [spelled])
    rw [isBlank_eq_false_of_isNameChar named] at blankHere
    cases blankHere
  refine .item (kind, name) rest solid ?_
  intro back ended
  have endsAll : Stops isWordChar (rest ++ back) :=
    ends.append fun _ => ended.stops (by decide +kernel)
  rw [← trimStart_append solid, List.append_assoc]
  exact readPublicType_eq_some_iff.mpr ⟨⟨front, member, rfl⟩, identifier, endsAll⟩

theorem LineDeclares.lineReads {found : Option (TargetKind × String)}
    (declares : LineDeclares line found) : LineReads readPublicType line found := by
  cases declares with
  | header kind name declares => exact declares.lineReads
  | quiet other =>
    by_cases blank : AllBlank line
    · exact .blank blank
    · refine .quiet blank fun back ended => readPublicType_eq_none_of_not_isPrefix ?_
      intro begins
      exact other (isPrefix_trim (by decide) (ended.isPrefix (by decide) begins))

theorem publicTypes_eq {text : String} {found : List (Option (TargetKind × String))}
    (lines : List.Forall₂ LineDeclares (text.toList.splitOn '\n') found) :
    publicTypes text = found.reduceOption :=
  advances_readPublicType.allAtLines_eq (lines.imp fun _ _ declares => declares.lineReads)

end Header

section Package

variable {below rest : List Char} {package : String}

theorem stops_isPackageChar_of_line (blank : AllBlank (rest.takeWhile (· != '\n'))) :
    Stops isPackageChar rest := by
  cases rest with
  | nil => exact stops_nil isPackageChar
  | cons c rest =>
    apply stops_cons
    by_cases feed : c = '\n'
    · rw [feed]
      decide
    · apply isPackageChar_eq_false_of_isBlank
      exact blank c (by simp [feed])

theorem readPackage_iff : (∃ rest, readPackage (trimStart below) = some (package, rest)) ↔
    DeclaresPackage below package := by
  simp only [readPackage, Option.bind_eq_bind, Option.bind_eq_some_iff, Prod.exists,
    Option.ite_none_right_eq_some, Option.some.injEq, Prod.mk.injEq, endsLine, List.all_eq_true]
  constructor
  · rintro ⟨_, opened, opens, name, rest, ran, blank, rfl, rfl⟩
    obtain ⟨margin, blankMargin, split⟩ := exists_trimStart_split below
    obtain ⟨_, keyword, isKeyword, first⟩ := word?_eq_some_iff_mem.mp opens
    obtain ⟨rfl, solid, each, _⟩ := run?_eq_some_iff.mp ran
    refine ⟨margin ++ keyword, Language.append_mem_mul blankMargin isKeyword, rest, ?_, ?_⟩
    · rw [String.toList_ofList, List.append_assoc, List.append_assoc, ← first, ← split]
    · rw [String.toList_ofList]
      exact ⟨fun empty => solid (by simpa using congrArg String.toList empty), each, blank⟩
  · rintro ⟨_, ⟨margin, blankMargin, keyword, isKeyword, rfl⟩, rest, rfl, solid, each, blank⟩
    have chars : package.toList ≠ [] := fun empty => solid (String.toList_eq_nil_iff.mp empty)
    have ran : run? isPackageChar (package.toList ++ rest) = some (package.toList, rest) :=
      run?_eq_some_iff.mpr ⟨rfl, chars, each, stops_isPackageChar_of_line blank⟩
    have stops : Stops isBlank (package.toList ++ rest) := by
      obtain ⟨c, more, spelled⟩ := List.exists_cons_of_ne_nil chars
      rw [spelled]
      exact stops_cons (isBlank_eq_false_of_isPackageChar (each c (by simp [spelled]))) _
    have opens : word? "package" (keyword ++ (package.toList ++ rest)) =
        some (package.toList ++ rest) :=
      word?_eq_some_iff_mem.mpr ⟨stops, keyword, isKeyword, rfl⟩
    have begins : Begins ['p'] (keyword ++ (package.toList ++ rest)) :=
      begins_spaced isKeyword (by decide) _
    refine ⟨rest, _, ?_, _, rest, ran, blank, String.ofList_toList, rfl⟩
    rw [List.append_assoc, List.append_assoc,
      trimStart_append_eq blankMargin (begins.stops (by decide)), opens]

theorem readPackage_eq_none_iff :
    readPackage (trimStart below) = none ↔ ∀ package, ¬DeclaresPackage below package := by
  simp only [← readPackage_iff]
  cases readPackage (trimStart below) with
  | none => simp
  | some found => simp [Prod.ext_iff]

theorem package?_eq_some_iff {text : String} :
    package? text = some package ↔ FirstPackage text.toList package := by
  simp only [package?, firstAtLine_eq_some_iff, readPackage_iff, readPackage_eq_none_iff,
    FirstPackage]

end Package

/-- No declaration of a target file is lost and none is made up: if each line holds a header or
nothing that is public, the public types are those of the headers, in order. Each of them is declared
in the package of the first package line, and without such a line there is no declaration. -/
theorem declarations_of_lines {text : String} {found : List (Option (TargetKind × String))}
    (lines : List.Forall₂ LineDeclares (text.toList.splitOn '\n') found) (origin : Path) :
    publicTypes text = found.reduceOption ∧
      (∀ package, package? text = some package ↔ FirstPackage text.toList package) ∧
      (∀ package, FirstPackage text.toList package → declarations origin text =
        found.reduceOption.map fun (kind, name) => { package, kind, name, origin }) ∧
      (package? text = none → declarations origin text = []) := by
  have types := publicTypes_eq lines
  refine ⟨types, fun package => package?_eq_some_iff, ?_, ?_⟩
  · intro package first
    rw [declarations, package?_eq_some_iff.mpr first, types]
  · intro none
    rw [declarations, none]

/-- Only one header counts on a line, and none in a comment. Blank lines above a header and a no-break
space in front of it do not matter. -/
theorem declarations_between_blank_lines :
    let text := "package a.b \n\n\u00a0public open abstract class A_1 \x7b public class B\n\n" ++
      " // public struct C\npublic\tenum D"
    declarations ⟨"a.cj"⟩ text =
      [⟨"a.b", .classType, "A_1", ⟨"a.cj"⟩⟩, ⟨"a.b", .enumType, "D", ⟨"a.cj"⟩⟩] := by
  intro text
  have cut : text.toList.splitOn '\n' = ["package a.b ".toList, [],
      "\u00a0public open abstract class A_1 \x7b public class B".toList, [],
      " // public struct C".toList, "public\tenum D".toList] := by
    decide +kernel
  have first : Declares "\u00a0public open abstract class A_1 \x7b public class B".toList
      .classType "A_1" :=
    readPublicType_iff.mp ⟨" \x7b public class B".toList, by decide +kernel⟩
  have second : Declares "public\tenum D".toList .enumType "D" :=
    readPublicType_iff.mp ⟨[], by decide +kernel⟩
  have lines : List.Forall₂ LineDeclares (text.toList.splitOn '\n')
      [none, none, some (.classType, "A_1"), none, none, some (.enumType, "D")] := by
    rw [cut]
    exact .cons (.quiet (by decide)) <| .cons (.quiet (by decide)) <| .cons (.header _ _ first) <|
      .cons (.quiet (by decide)) <| .cons (.quiet (by decide)) <| .cons (.header _ _ second) .nil
  have package : FirstPackage text.toList "a.b" := package?_eq_some_iff.mp (by decide +kernel)
  exact (declarations_of_lines lines ⟨"a.cj"⟩).2.2.1 "a.b" package

end ApiMigration.Target
