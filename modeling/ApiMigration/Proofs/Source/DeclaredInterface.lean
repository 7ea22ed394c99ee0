import ApiMigration.Proofs.Source.PublicType
import ApiMigration.Source.Signature

/-!
The header that counts for a declared interface. A header is looked for at every line head, without
modifiers and without a look at what follows the name, so it is not always that of the declaration.
-/

namespace ApiMigration.Source

open Text

def headsAbove (text : String) : List (List Char) :=
  (lineHeads text.toList).takeWhile fun head => (readPublicType head).isNone

def headsFromType (text : String) : List (List Char) :=
  (lineHeads text.toList).dropWhile fun head => (readPublicType head).isNone

def typeHead (text : String) : List Char :=
  (headsFromType text).headD []

def headsBelow (text : String) : List (List Char) :=
  (headsFromType text).tail

def declaredParameters (text : String) : Option String :=
  (readPublicType (typeHead text)).bind fun (_, rest) => (readBracketed rest).map Prod.fst

def firstHeader (heads : List (List Char)) : Option (String × Option String) :=
  heads.findSome? fun head => (readInterface head).map Prod.fst

def isModified (head : List Char) : Bool :=
  (word? "public" head).any fun rest => skipModifiers rest != rest

def readUnmodified (head : List Char) : Option (List Char × List Char) :=
  ((word? "public" head).bind (word? "interface")).bind identifier?

def runsOn (head : List Char) : Bool :=
  (readUnmodified head).any fun (_, rest) => !endsWord rest

section Heads

variable {head rest : List Char}

theorem map_readInterface (head : List Char) :
    (readInterface head).map Prod.fst = (readUnmodified head).map fun (name, rest) =>
      (String.ofList name, (readBracketed rest).map Prod.fst) := by
  unfold readInterface readUnmodified
  cases word? "public" head with
  | none => rfl
  | some after =>
    simp only [Option.bind_eq_bind, Option.bind_some]
    cases word? "interface" after with
    | none => rfl
    | some inner =>
      simp only [Option.bind_some]
      cases identifier? inner with
      | none => rfl
      | some found =>
        simp only [Option.bind_some, Option.map_some]
        cases readBracketed found.2 <;> rfl

theorem skipModifiers_of_word? (keyword : word? "interface" head = some rest) :
    skipModifiers head = head := by
  obtain ⟨after, literal, _⟩ := Option.bind_eq_some_iff.mp keyword
  rw [literal?_eq_some_iff.mp literal]
  rfl

theorem readPublicType_of_readUnmodified {name : List Char}
    (read : readUnmodified head = some (name, rest)) :
    isModified head = false ∧
      readPublicType head =
        if endsWord rest then some ((.interfaceType, String.ofList name), rest) else none := by
  simp only [readUnmodified, Option.bind_eq_some_iff] at read
  obtain ⟨inner, ⟨after, opened, keyword⟩, named⟩ := read
  have unmodified := skipModifiers_of_word? keyword
  have kind : readKind after = some (.interfaceType, inner) := readKind_eq_some_iff.mpr keyword
  constructor
  · simp [isModified, opened, unmodified]
  · simp only [readPublicType, opened, unmodified, kind, named, Option.bind_eq_bind,
      Option.bind_some]

theorem readUnmodified_of_readPublicType {name : String}
    (read : readPublicType head = some ((.interfaceType, name), rest))
    (plain : isModified head = false) : readUnmodified head = some (name.toList, rest) := by
  simp only [readPublicType, Option.bind_eq_bind, Option.bind_eq_some_iff, Prod.exists,
    Option.ite_none_right_eq_some, Option.some.injEq, Prod.mk.injEq] at read
  obtain ⟨after, opened, kind, inner, keyword, chars, behind, named, _, ⟨rfl, rfl⟩, rfl⟩ := read
  have unmodified : skipModifiers after = after := by
    simpa [isModified, opened] using plain
  rw [unmodified] at keyword
  have interface : word? "interface" after = some inner := readKind_eq_some_iff.mp keyword
  rw [readUnmodified, opened, Option.bind_some, interface, Option.bind_some, named,
    String.toList_ofList]

end Heads

section Texts

variable {text name : String} {kind : SourceKind}

theorem lineHeads_of_publicType? (declared : publicType? text = some (kind, name)) :
    lineHeads text.toList = headsAbove text ++ typeHead text :: headsBelow text ∧
      (∀ head ∈ headsAbove text, readPublicType head = none) ∧
      ∃ rest, readPublicType (typeHead text) = some ((kind, name), rest) := by
  obtain ⟨above, head, below, split, found, none⟩ := List.findSome?_eq_some_iff.mp declared
  obtain ⟨⟨_, rest⟩, read, rfl⟩ := Option.map_eq_some_iff.mp found
  have unread : ∀ other ∈ above, (readPublicType other).isNone = true := by
    intro other listed
    simpa using none other listed
  have upper : headsAbove text = above := by
    rw [headsAbove, split, List.takeWhile_append_of_pos unread, List.takeWhile_cons_of_neg]
    · rw [List.append_nil]
    · simp [read]
  have lower : headsFromType text = head :: below := by
    rw [headsFromType, split, List.dropWhile_append_of_pos unread, List.dropWhile_cons_of_neg]
    simp [read]
  rw [typeHead, headsBelow, upper, lower]
  refine ⟨split, ?_, rest, read⟩
  intro other listed
  simpa using unread other listed

theorem firstHeader_eq_none_iff {heads : List (List Char)}
    (unread : ∀ head ∈ heads, readPublicType head = none) :
    firstHeader heads = none ↔ ∀ head ∈ heads, runsOn head = false := by
  rw [firstHeader, List.findSome?_eq_none_iff]
  refine forall₂_congr fun head listed => ?_
  rw [map_readInterface, Option.map_eq_none_iff, runsOn]
  cases read : readUnmodified head with
  | none => simp
  | some found =>
    obtain ⟨name, rest⟩ := found
    have typed := (readPublicType_of_readUnmodified read).2
    rw [unread head listed] at typed
    have goesOn : endsWord rest = false := by
      by_contra ends
      rw [if_pos (by simpa using ends)] at typed
      cases typed
    simp [goesOn]

theorem interface?_of_publicType? (declared : publicType? text = some (.interfaceType, name)) :
    interface? text = (firstHeader (headsAbove text)).or
      (if isModified (typeHead text) then firstHeader (headsBelow text)
        else some (name, declaredParameters text)) := by
  obtain ⟨split, _, rest, read⟩ := lineHeads_of_publicType? declared
  have parameters : declaredParameters text = (readBracketed rest).map Prod.fst := by
    rw [declaredParameters, read, Option.bind_some]
  have whole : interface? text = (firstHeader (headsAbove text)).or
      (((readInterface (typeHead text)).map Prod.fst).or (firstHeader (headsBelow text))) := by
    rw [interface?, firstAtLine, split, List.findSome?_append, List.findSome?_cons]
    cases (readInterface (typeHead text)).map Prod.fst <;> rfl
  rw [whole, map_readInterface]
  cases modified : isModified (typeHead text) with
  | false =>
    rw [readUnmodified_of_readPublicType read modified, parameters]
    simp
  | true =>
    have unread : readUnmodified (typeHead text) = none := by
      rw [Option.eq_none_iff_forall_ne_some]
      intro found taken
      rw [(readPublicType_of_readUnmodified taken).1] at modified
      cases modified
    simp [unread]

theorem declaration?_of_interface (declared : publicType? text = some (.interfaceType, name))
    (rootPackage : String) (origin : Path) :
    declaration? rootPackage origin text = (package? text).map fun package =>
      { SourceDeclaration.under rootPackage package .interfaceType name origin with
        signature := some (signature text) } := by
  unfold declaration?
  cases package? text with
  | none => rfl
  | some package => simp [declared]

end Texts

/-- The header found is that of the declared interface, with its type parameters, unless a modifier
hides it or a name above it runs on. Then another header of the text takes its place, and agrees
with the declaration only if it happens to have the same name. -/
theorem declared_header_found_iff {text name : String}
    (declared : publicType? text = some (.interfaceType, name)) :
    interface? text = (firstHeader (headsAbove text)).or
        (if isModified (typeHead text) then firstHeader (headsBelow text)
          else some (name, declaredParameters text)) ∧
      ((interface? text).map Prod.fst = some name ↔
        (firstHeader (headsAbove text)).map Prod.fst = some name ∨
          (∀ head ∈ headsAbove text, runsOn head = false) ∧
            (isModified (typeHead text) = true →
              (firstHeader (headsBelow text)).map Prod.fst = some name)) ∧
      ((∀ head ∈ headsAbove text, runsOn head = false) → isModified (typeHead text) = false →
        ∀ rootPackage origin declaration,
          declaration? rootPackage origin text = some declaration →
          declaration.name = name ∧ declaration.signature.map Signature.typeParameters =
            some ((declaredParameters text).elim [] typeParameters)) := by
  have unread := (lineHeads_of_publicType? declared).2.1
  have found := interface?_of_publicType? declared
  refine ⟨found, ?_, ?_⟩
  · rw [found, ← firstHeader_eq_none_iff unread]
    cases firstHeader (headsAbove text) with
    | some header => simp
    | none => cases isModified (typeHead text) <;> simp
  · intro separate plain rootPackage origin declaration read
    rw [← firstHeader_eq_none_iff unread] at separate
    rw [separate, plain, Option.none_or, if_neg Bool.false_ne_true] at found
    rw [declaration?_of_interface declared] at read
    obtain ⟨package, _, rfl⟩ := Option.map_eq_some_iff.mp read
    refine ⟨rfl, ?_⟩
    rw [Option.map_some, signature, found, Option.bind_some]

theorem declared_header_found_over_nested :
    let text := "package a;\n// public interface B\npublic\n interface S <T> \x7b\n" ++
      "  public interface C<X> \x7b\n"
    publicType? text = some (.interfaceType, "S") ∧
      (interface? text).map Prod.fst = some "S" ∧
      ∀ declaration, declaration? "a" ⟨"S.java"⟩ text = some declaration →
        declaration.name = "S" ∧
          declaration.signature.map Signature.typeParameters = some ["T"] := by
  intro text
  have facts : publicType? text = some (.interfaceType, "S") ∧
      (∀ head ∈ headsAbove text, runsOn head = false) ∧
      isModified (typeHead text) = false ∧
      (declaredParameters text).elim [] typeParameters = ["T"] := by
    decide +kernel
  obtain ⟨declared, separate, plain, parameters⟩ := facts
  obtain ⟨_, named, attached⟩ := declared_header_found_iff declared
  refine ⟨declared, named.mpr (.inr ⟨separate, ?_⟩), ?_⟩
  · intro modified
    rw [plain] at modified
    cases modified
  · intro declaration read
    rw [← parameters]
    exact attached separate plain "a" ⟨"S.java"⟩ declaration read

/-- Behind the modifier the header of the declared interface is not seen: the declaration gets the
type parameters of the nested one. -/
theorem declared_header_missed_behind_modifier :
    let text := "package a;\n\npublic sealed interface Shape<T> permits Circle \x7b\n" ++
      "    public interface Corner<X, Y> \x7b\n    \x7d\n\x7d\n"
    publicType? text = some (.interfaceType, "Shape") ∧
      interface? text = some ("Corner", some "X, Y") ∧
      (declaration? "a" ⟨"Shape.java"⟩ text).map
          (fun declaration => (declaration.name, declaration.signature)) =
        some ("Shape", some { typeParameters := ["X", "Y"], method := none }) := by
  decide +kernel

end ApiMigration.Source
