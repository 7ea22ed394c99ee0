import ApiMigration.Proofs.Source.Extracted
import ApiMigration.Proofs.Source.TypeParameters
import Mathlib.Tactic.MkIffOfInductiveProp

namespace ApiMigration.Source

open Text

@[mk_iff]
structure IsPlainWord (word : List Char) : Prop where
  isWord : IsWord word
  notFinal : word ≠ "final".toList
  notAnnotation : word.head? ≠ some '@'

instance (word : List Char) : Decidable (IsPlainWord word) :=
  decidable_of_iff _ (isPlainWord_iff word).symm

@[mk_iff]
structure IsPrintableParameter (parameter : Parameter) : Prop where
  type : ∀ word ∈ parameter.type.toList.splitOn ' ', IsPlainWord word
  closed : Closes 0 parameter.type.toList
  typeInside : ')' ∉ parameter.type.toList
  name : IsPlainWord parameter.name.toList
  nameClear : ∀ c ∈ parameter.name.toList, c ≠ '<' ∧ c ≠ '>' ∧ c ≠ ',' ∧ c ≠ ')'

instance (parameter : Parameter) : Decidable (IsPrintableParameter parameter) :=
  decidable_of_iff _ (isPrintableParameter_iff parameter).symm

@[mk_iff]
structure IsPrintableMethod (method : Method) : Prop where
  returnType : method.returnType.toList ≠ [] ∧ ∀ c ∈ method.returnType.toList, isTypeChar c = true
  notLeading : method.returnType ∉ leadingWords
  name : IsIdentifier method.name.toList
  parameters : ∀ parameter ∈ method.parameters, IsPrintableParameter parameter

instance (method : Method) : Decidable (IsPrintableMethod method) :=
  decidable_of_iff _ (isPrintableMethod_iff method).symm

@[mk_iff]
structure IsPrintable (signature : Signature) : Prop where
  typeParameters : ∀ name ∈ signature.typeParameters,
    IsIdentifier name.toList ∧ contains "extends".toList name.toList = false
  method : ∀ method ∈ signature.method, IsPrintableMethod method

instance (signature : Signature) : Decidable (IsPrintable signature) :=
  decidable_of_iff _ (isPrintable_iff signature).symm

def parameterText (parameter : Parameter) : String :=
  parameter.type ++ " " ++ parameter.name

def methodLine (method : Method) : String :=
  "    " ++ method.returnType ++ " " ++ method.name ++ "("
    ++ joinWith ", " (method.parameters.map parameterText) ++ ");"

def bracketedText (typeParameters : List String) : String :=
  if typeParameters.isEmpty then "" else "<" ++ joinWith ", " typeParameters ++ ">"

def packageLine (package : String) : String :=
  "package " ++ package ++ ";"

def typeLine (kind : SourceKind) (name : String) (typeParameters : List String) : String :=
  "public " ++ kind.keyword ++ " " ++ name ++ bracketedText typeParameters ++ " \x7b"

def memberLines (kind : SourceKind) (signature : Signature) : List String :=
  if kind = .interfaceType then (signature.method.map methodLine).toList else []

def sourceText (package : String) (kind : SourceKind) (name : String) (signature : Signature) :
    String :=
  joinWith "\n" ([packageLine package, "", typeLine kind name signature.typeParameters]
    ++ memberLines kind signature ++ ["\x7d"])

section Parameters

theorem isTypeChar_of_isNameChar {c : Char} (named : isNameChar c = true) : isTypeChar c = true := by
  simp [isTypeChar, isPackageChar, named]

theorem isBlank_eq_false_of_isTypeChar {c : Char} (allowed : isTypeChar c = true) :
    isBlank c = false := by
  simp only [isTypeChar, Bool.or_eq_true, beq_iff_eq] at allowed
  rcases allowed with ((((allowed | same) | same) | same) | same) | same
  · exact isBlank_eq_false_of_isPackageChar allowed
  all_goals
    rw [same]
    decide

theorem parameter_trim (index : Nat) (part : List Char) :
    parameter index (trim part) = parameter index part := by
  unfold parameter
  rw [words_trim]

theorem toList_parameterText (parameter : Parameter) :
    (parameterText parameter).toList =
      parameter.type.toList ++ ' ' :: parameter.name.toList := by
  unfold parameterText
  rw [String.toList_append, String.toList_append, List.append_assoc]
  rfl

namespace IsPrintableParameter

variable {parameter : Parameter} (printable : IsPrintableParameter parameter)

include printable

theorem words_eq : ∃ parts : List (List Char), parts ≠ [] ∧ (∀ word ∈ parts, IsPlainWord word) ∧
    parameter.type.toList = List.intercalate [' '] parts ∧
    words (parameterText parameter).toList = parts ++ [parameter.name.toList] := by
  have spelled : parameter.type.toList =
      List.intercalate [' '] (parameter.type.toList.splitOn ' ') :=
    (List.intercalate_splitOn ' ').symm
  refine ⟨_, List.splitOn_ne_nil ' ' _, printable.type, spelled, ?_⟩
  rw [toList_parameterText, words_append_blank (by decide), words_of_isWord printable.name.isWord]
  nth_rewrite 1 [spelled]
  rw [words_spaced fun word member => (printable.type word member).isWord]

theorem parameter_text (index : Nat) :
    Source.parameter index (parameterText parameter).toList = parameter := by
  obtain ⟨parts, further, plain, spelled, read⟩ := printable.words_eq
  have kept : (parts ++ [parameter.name.toList]).filter
      (fun word => word != "final".toList && word.head? != some '@') =
        parts ++ [parameter.name.toList] := by
    rw [List.filter_eq_self]
    intro word member
    have isPlain : IsPlainWord word := by
      rcases List.mem_append.mp member with member | member
      · exact plain word member
      · rw [List.mem_singleton.mp member]
        exact printable.name
    rw [Bool.and_eq_true, bne_iff_ne, bne_iff_ne]
    exact ⟨isPlain.notFinal, isPlain.notAnnotation⟩
  obtain ⟨front, last, split⟩ := (List.eq_nil_or_concat' parts).resolve_left further
  have reversed : (parts ++ [parameter.name.toList]).reverse =
      parameter.name.toList :: last :: front.reverse := by
    simp [split]
  have joined : (last :: front.reverse).reverse = parts := by
    simp [split]
  unfold Source.parameter
  rw [read]
  simp only [kept, reversed, joined, ← spelled, String.ofList_toList]

theorem isItem : IsItem (parameterText parameter).toList where
  closed := by
    have named : Closes 0 parameter.name.toList := by
      apply Closes.of_plain
      intro c member
      have clear := printable.nameClear c member
      exact ⟨clear.1, clear.2.1, clear.2.2.1⟩
    rw [toList_parameterText]
    apply printable.closed.append
    exact .other (by decide) (by decide) (fun comma => absurd comma (by decide)) named
  solid := by
    obtain ⟨c, more, spelled⟩ := List.exists_cons_of_ne_nil printable.name.isWord.1
    have member : c ∈ (parameterText parameter).toList := by simp [toList_parameterText, spelled]
    apply trim_ne_nil_of_mem member
    exact printable.name.isWord.2 c (by simp [spelled])

theorem stops_text : Stops isBlank (parameterText parameter).toList ∧
    Stops isBlank (parameterText parameter).toList.reverse := by
  rw [toList_parameterText]
  constructor
  · obtain ⟨parts, further, plain, spelled, _⟩ := printable.words_eq
    obtain ⟨word, more, rfl⟩ := List.exists_cons_of_ne_nil further
    have isWord := (plain word List.mem_cons_self).isWord
    obtain ⟨tail, whole⟩ := exists_intercalate_cons [' '] word more
    rw [spelled, whole, List.append_assoc]
    apply (stops_of_solid isWord.2).1.append
    intro empty
    exact absurd empty isWord.1
  · rw [List.reverse_append, List.reverse_cons, List.append_assoc]
    apply (stops_of_solid printable.name.isWord.2).2.append
    intro empty
    exact absurd (List.reverse_eq_nil_iff.mp empty) printable.name.isWord.1

theorem parenthesis_not_mem_text : ')' ∉ (parameterText parameter).toList := by
  rw [toList_parameterText, List.mem_append, List.mem_cons]
  intro member
  rcases member with inType | space | inName
  · exact printable.typeInside inType
  · exact absurd space (by decide)
  · exact (printable.nameClear _ inName).2.2.2 rfl

end IsPrintableParameter

theorem stops_joined {items : List (List Char)} (each : ∀ item ∈ items, item ≠ [] ∧
    Stops isBlank item ∧ Stops isBlank item.reverse) :
    Stops isBlank (List.intercalate [',', ' '] items) ∧
      Stops isBlank (List.intercalate [',', ' '] items).reverse := by
  induction items with
  | nil => exact ⟨stops_nil _, stops_nil _⟩
  | cons item more ih =>
    obtain ⟨solid, first, last⟩ := each item List.mem_cons_self
    have later := ih fun other member => each other (List.mem_cons_of_mem _ member)
    cases more with
    | nil =>
      rw [List.intercalate_singleton]
      exact ⟨first, last⟩
    | cons next more =>
      rw [List.intercalate_cons_cons, List.append_assoc, List.reverse_append, List.reverse_append,
        List.append_assoc]
      constructor
      · apply first.append
        intro empty
        exact absurd empty solid
      · apply later.2.append
        intro empty
        obtain ⟨tail, whole⟩ := exists_intercalate_cons [',', ' '] next more
        rw [List.reverse_eq_nil_iff, whole, List.append_eq_nil_iff] at empty
        exact absurd empty.1 (each next (by simp)).1

theorem parameters_printed {printed : List Parameter}
    (each : ∀ parameter ∈ printed, IsPrintableParameter parameter) :
    parameters (joinWith ", " (printed.map parameterText)) = printed := by
  have items : ∀ item ∈ printed.map (fun parameter => (parameterText parameter).toList),
      IsItem item := by
    rw [List.forall_mem_map]
    intro parameter member
    exact (each parameter member).isItem
  have joined : (joinWith ", " (printed.map parameterText)).toList =
      List.intercalate [',', ' '] (printed.map fun parameter => (parameterText parameter).toList) := by
    rw [toList_joinWith, List.map_map]
    rfl
  rw [parameters, joined, splitTopLevel_joined items, List.map_map]
  apply List.ext_getElem
  · simp
  · intro index _ bound
    simp only [List.getElem_mapIdx, List.getElem_map, Function.comp_apply, parameter_trim]
    exact (each _ (List.getElem_mem bound)).parameter_text index

theorem typeParameters_printed {names : List String} (each : ∀ name ∈ names,
    IsIdentifier name.toList ∧ contains "extends".toList name.toList = false) :
    typeParameters (joinWith ", " names) = names := by
  have items : ∀ item ∈ names.map String.toList, IsItem item := by
    rw [List.forall_mem_map]
    intro name member
    have identifier := (each name member).1
    have solid := trim_identifier_append_ne_nil identifier []
    rw [List.append_nil] at solid
    exact ⟨closes_identifier identifier, solid⟩
  have joined : (joinWith ", " names).toList =
      List.intercalate [',', ' '] (names.map String.toList) :=
    toList_joinWith ", " names
  have read : ∀ name ∈ names, typeParameter? (trim name.toList) = some name := by
    intro name member
    obtain ⟨identifier, plain⟩ := each name member
    have whole := typeParameter?_append identifier plain (.inl rfl)
    rw [List.append_nil, String.ofList_toList] at whole
    rw [typeParameter?_trim, whole]
  rw [typeParameters, joined, splitTopLevel_joined items, List.map_map, List.filterMap_map]
  exact (List.filterMap_congr read).trans List.filterMap_some

end Parameters

section Headers

def HeaderEnd (ending : List Char) : Prop :=
  (∃ tail, ending = '<' :: tail) ∨ ∃ tail, ending = ' ' :: '\x7b' :: tail

theorem HeaderEnd.stops {ending : List Char} (ends : HeaderEnd ending) :
    Stops isNameChar ending := by
  rcases ends with ⟨tail, rfl⟩ | ⟨tail, rfl⟩
  · exact stops_cons ends_bracket.1 _
  · exact stops_cons ends_space.1 _

theorem HeaderEnd.endsWord {ending : List Char} (ends : HeaderEnd ending) :
    endsWord ending = true := by
  rcases ends with ⟨tail, rfl⟩ | ⟨tail, rfl⟩
  · rw [Text.endsWord, ends_bracket.2, Bool.not_false]
  · rw [Text.endsWord, ends_space.2, Bool.not_false]

theorem HeaderEnd.head?_ne {ending : List Char} (ends : HeaderEnd ending) :
    (trimStart ending).head? ≠ some '(' := by
  rcases ends with ⟨tail, rfl⟩ | ⟨tail, rfl⟩
  · rw [trimStart_eq_self (stops_cons (by decide) tail)]
    simp
  · have begun : trimStart (' ' :: '\x7b' :: tail) = trimStart ('\x7b' :: tail) :=
      trimStart_blank_append allBlank_space ('\x7b' :: tail)
    rw [begun, trimStart_eq_self (stops_cons (by decide) tail)]
    simp

def headerOf (kind : SourceKind) (name ending : List Char) : List Char :=
  "public".toList ++ ' ' :: (kind.keyword.toList ++ ' ' :: (name ++ ending))

variable {name ending : List Char}

theorem word?_public (kind : SourceKind) :
    word? "public" (headerOf kind name ending) =
      some (kind.keyword.toList ++ ' ' :: (name ++ ending)) := by
  apply word?_append_space
  cases kind with
  | classType => exact stops_cons (by decide) _
  | interfaceType => exact stops_cons (by decide) _
  | enumType => exact stops_cons (by decide) _

theorem readKind_skipModifiers (kind : SourceKind) (identifier : IsIdentifier name) :
    readKind (skipModifiers (kind.keyword.toList ++ ' ' :: (name ++ ending))) =
      some (kind, name ++ ending) := by
  have unmodified : skipModifiers (kind.keyword.toList ++ ' ' :: (name ++ ending)) =
      kind.keyword.toList ++ ' ' :: (name ++ ending) := by
    cases kind <;> rfl
  have read : word? kind.keyword (kind.keyword.toList ++ ' ' :: (name ++ ending)) =
      some (name ++ ending) :=
    word?_append_space (stops_of_isIdentifier identifier)
  rw [unmodified, readKind]
  cases kind with
  | classType => simp only [List.findSome?_cons, read, Option.map_some]
  | interfaceType =>
    have notClass : word? SourceKind.classType.keyword
        (SourceKind.interfaceType.keyword.toList ++ ' ' :: (name ++ ending)) = none := rfl
    simp only [List.findSome?_cons, notClass, read, Option.map_none, Option.map_some]
  | enumType =>
    have notClass : word? SourceKind.classType.keyword
        (SourceKind.enumType.keyword.toList ++ ' ' :: (name ++ ending)) = none := rfl
    have notInterface : word? SourceKind.interfaceType.keyword
        (SourceKind.enumType.keyword.toList ++ ' ' :: (name ++ ending)) = none := rfl
    simp only [List.findSome?_cons, notClass, notInterface, read, Option.map_none, Option.map_some]

theorem readPublicType_headerOf (kind : SourceKind) (identifier : IsIdentifier name)
    (ends : HeaderEnd ending) :
    readPublicType (headerOf kind name ending) = some ((kind, String.ofList name), ending) := by
  have named := identifier?_append identifier ends.stops
  simp only [readPublicType, word?_public, readKind_skipModifiers kind identifier, named,
    ends.endsWord, Option.bind_eq_bind, Option.bind_some, if_true]

theorem readPublicType_eq_none {head : List Char} (absent : ¬"public".toList <+: head) :
    readPublicType head = none := by
  rw [readPublicType, word?_eq_none absent, Option.bind_eq_bind, Option.bind_none]

end Headers

section Methods

variable {type name rest : List Char}

theorem readMethodParts_append (solid : type ≠ []) (typed : ∀ c ∈ type, isTypeChar c = true)
    (identifier : IsIdentifier name) (stops : Stops isNameChar rest) :
    readMethodParts (type ++ ' ' :: (name ++ rest)) =
      (literal? "(" (trimStart rest)).bind fun text =>
        (literal? ")" (text.dropWhile (· != ')'))).bind fun after =>
          (literal? ";" (trimStart after)).map fun more =>
            (⟨String.ofList type, String.ofList name,
              String.ofList (trim (text.takeWhile (· != ')')))⟩, more) := by
  have ran : run? isTypeChar (type ++ ' ' :: (name ++ rest)) = some (type, ' ' :: (name ++ rest)) :=
    run?_eq_some_iff.mpr ⟨rfl, solid, typed, stops_cons (by decide) _⟩
  have spaced : blanks? (' ' :: (name ++ rest)) = some (name ++ rest) := by
    rw [blanks?, if_pos (by decide), trimStart_eq_self (stops_of_isIdentifier identifier)]
  simp only [readMethodParts, ran, spaced, identifier?_append identifier stops,
    Option.bind_eq_bind, Option.bind_some, Option.pure_def, Option.map_eq_bind]
  rfl

theorem readMethodParts_eq_none (solid : type ≠ []) (typed : ∀ c ∈ type, isTypeChar c = true)
    (identifier : IsIdentifier name) (stops : Stops isNameChar rest)
    (other : (trimStart rest).head? ≠ some '(') :
    readMethodParts (type ++ ' ' :: (name ++ rest)) = none := by
  have unread : literal? "(" (trimStart rest) = none := by
    rw [Option.eq_none_iff_forall_ne_some]
    intro more read
    rw [literal?_eq_some_iff] at read
    rw [read] at other
    exact other rfl
  rw [readMethodParts_append solid typed identifier stops, unread, Option.bind_none]

theorem typed_keyword (kind : SourceKind) :
    kind.keyword.toList ≠ [] ∧ (∀ c ∈ kind.keyword.toList, isTypeChar c = true) ∧
      IsIdentifier kind.keyword.toList := by
  cases kind with
  | classType => decide
  | interfaceType => decide
  | enumType => decide

theorem readMethod_headerOf (kind : SourceKind) (identifier : IsIdentifier name) {ending : List Char}
    (ends : HeaderEnd ending) : readMethod (headerOf kind name ending) = none := by
  obtain ⟨solid, typed, named⟩ := typed_keyword kind
  have afterPublic : readMethodParts (kind.keyword.toList ++ ' ' :: (name ++ ending)) = none :=
    readMethodParts_eq_none solid typed identifier ends.stops ends.head?_ne
  have whole : readMethodParts (headerOf kind name ending) = none := by
    apply readMethodParts_eq_none (by decide) (by decide) named (stops_cons (by decide) _)
    have begun : trimStart (' ' :: (name ++ ending)) = name ++ ending :=
      (trimStart_blank_append allBlank_space _).trans
        (trimStart_eq_self (stops_of_isIdentifier identifier))
    obtain ⟨first, more, rfl, start, _⟩ := identifier
    rw [begun, List.cons_append, List.head?_cons]
    intro same
    cases same
    revert start
    decide
  rw [readMethod, word?_public, Option.bind_some, afterPublic, whole, Option.or_none]

theorem readMethod_package {package : List Char} (solid : package ≠ [])
    (allowed : ∀ c ∈ package, isPackageChar c = true) :
    readMethod ("package".toList ++ ' ' :: (package ++ ';' :: rest)) = none := by
  obtain ⟨first, more, rfl⟩ := List.exists_cons_of_ne_nil solid
  have noModifier : word? "public" ("package".toList ++ ' ' :: (first :: more ++ ';' :: rest)) =
      none := rfl
  have parts : readMethodParts ("package".toList ++ ' ' :: (first :: more ++ ';' :: rest)) =
      none := by
    by_cases start : isNameStart first = true
    · -- The name ends at a dot or at the semicolon; neither opens a parameter list.
      let dotted := more.dropWhile isNameChar
      have cut : first :: more = (first :: more.takeWhile isNameChar) ++ dotted := by
        rw [List.cons_append, List.takeWhile_append_dropWhile]
      have identifier : IsIdentifier (first :: more.takeWhile isNameChar) :=
        isIdentifier_cons.mpr ⟨start, fun c member => List.mem_takeWhile_imp member⟩
      have ends : ∀ c ∈ dotted ++ [';'], isBlank c = false ∧ c ≠ '(' := by
        rw [List.forall_mem_append]
        refine ⟨?_, by decide⟩
        intro c member
        have packaged := allowed c (List.mem_cons_of_mem _ ((List.dropWhile_sublist _).mem member))
        refine ⟨isBlank_eq_false_of_isPackageChar packaged, ?_⟩
        intro same
        rw [same] at packaged
        cases packaged
      rw [cut, List.append_assoc]
      apply readMethodParts_eq_none (by decide) (by decide) identifier
      · exact (stops_dropWhile _ _).append fun _ => stops_cons (by decide) _
      · obtain ⟨next, after, spelled⟩ : ∃ next after, dotted ++ [';'] = next :: after :=
          List.exists_cons_of_ne_nil (by simp)
        have next_ends := ends next (by simp [spelled])
        have whole : dotted ++ ';' :: rest = next :: (after ++ rest) := by
          rw [← List.cons_append, ← spelled, List.append_assoc, List.singleton_append]
        rw [whole, trimStart_eq_self (stops_cons next_ends.1 _), List.head?_cons]
        simpa using next_ends.2
    · have stops : Stops isBlank (first :: more ++ ';' :: rest) :=
        stops_cons (isBlank_eq_false_of_isPackageChar (allowed first List.mem_cons_self)) _
      have ran : run? isTypeChar ("package".toList ++ ' ' :: (first :: more ++ ';' :: rest)) =
          some ("package".toList, ' ' :: (first :: more ++ ';' :: rest)) :=
        run?_eq_some_iff.mpr ⟨rfl, by decide, by decide, stops_cons (by decide) _⟩
      have spaced : blanks? (' ' :: (first :: more ++ ';' :: rest)) =
          some (first :: more ++ ';' :: rest) := by
        rw [blanks?, if_pos (by decide), trimStart_eq_self stops]
      have unnamed : identifier? (first :: more ++ ';' :: rest) = none := by
        rw [List.cons_append, identifier?, if_neg start]
      simp only [readMethodParts, ran, spaced, unnamed, Option.bind_eq_bind, Option.bind_some,
        Option.bind_none]
  rw [readMethod, noModifier, parts]
  rfl

theorem readMethodParts_afterPublic (typed : ∀ c ∈ type, isTypeChar c = true)
    (identifier : IsIdentifier name) :
    (word? "public" (type ++ ' ' :: (name ++ '(' :: rest))).bind readMethodParts = none := by
  by_cases begins : "public".toList <+: type
  · obtain ⟨more, rfl⟩ := begins
    cases more with
    | nil =>
      have named : ∀ c ∈ name, isTypeChar c = true := fun c member =>
        isTypeChar_of_isNameChar (identifier.isNameChar c member)
      have ran : run? isTypeChar (name ++ '(' :: rest) = some (name, '(' :: rest) :=
        run?_eq_some_iff.mpr ⟨rfl, identifier.ne_nil, named, stops_cons (by decide) _⟩
      have unspaced : blanks? ('(' :: rest) = none := by
        rw [blanks?, if_neg (by decide)]
      rw [List.append_nil, word?_append_space (stops_of_isIdentifier identifier), Option.bind_some]
      simp only [readMethodParts, ran, unspaced, Option.bind_eq_bind, Option.bind_some,
        Option.bind_none]
    | cons c more =>
      have solid : isBlank c = false := isBlank_eq_false_of_isTypeChar (typed c (by simp))
      have unread : word? "public"
          ("public".toList ++ c :: more ++ ' ' :: (name ++ '(' :: rest)) = none := by
        rw [List.append_assoc, word?, literal?_eq_some_iff.mpr rfl, Option.bind_some,
          List.cons_append, blanks?, solid, if_neg (by decide)]
      rw [unread, Option.bind_none]
  · have absent : ¬"public".toList <+: type ++ ' ' :: (name ++ '(' :: rest) := by
      intro whole
      exact begins (isPrefix_of_isPrefix_cons (by decide) whole)
    rw [word?_eq_none absent, Option.bind_none]

theorem readMethod_append (solid : type ≠ []) (typed : ∀ c ∈ type, isTypeChar c = true)
    (identifier : IsIdentifier name) {inside : List Char} (enclosed : ')' ∉ inside) :
    readMethod (type ++ ' ' :: (name ++ '(' :: (inside ++ ')' :: ';' :: rest))) =
      some (⟨String.ofList type, String.ofList name, String.ofList (trim inside)⟩, rest) := by
  have each : ∀ c ∈ inside, (c != ')') = true := by
    intro c member
    rw [bne_iff_ne]
    intro same
    exact enclosed (same ▸ member)
  have stops : Stops (· != ')') (')' :: ';' :: rest) := stops_cons (by decide) _
  have opened : trimStart ('(' :: (inside ++ ')' :: ';' :: rest)) =
      '(' :: (inside ++ ')' :: ';' :: rest) :=
    trimStart_eq_self (stops_cons (by decide) _)
  have closed : trimStart (';' :: rest) = ';' :: rest :=
    trimStart_eq_self (stops_cons (by decide) _)
  have afterOpening : literal? "(" ('(' :: (inside ++ ')' :: ';' :: rest)) =
      some (inside ++ ')' :: ';' :: rest) :=
    literal?_eq_some_iff.mpr rfl
  have afterClosing : literal? ")" (')' :: ';' :: rest) = some (';' :: rest) :=
    literal?_eq_some_iff.mpr rfl
  have afterSemicolon : literal? ";" (';' :: rest) = some rest := literal?_eq_some_iff.mpr rfl
  rw [readMethod, readMethodParts_afterPublic typed identifier, Option.none_or,
    readMethodParts_append solid typed identifier (stops_cons (by decide) _), opened, afterOpening,
    Option.bind_some, takeWhile_append_stops each stops, dropWhile_append_stops each stops,
    afterClosing, Option.bind_some, closed, afterSemicolon, Option.map_some]

end Methods

section Texts

theorem toList_packageLine (package : String) :
    (packageLine package).toList = "package".toList ++ ' ' :: (package.toList ++ [';']) := by
  have lead : "package ".toList = "package".toList ++ [' '] := by decide
  have closing : ";".toList = [';'] := by decide
  unfold packageLine
  simp only [String.toList_append, lead, closing, List.append_assoc, List.cons_append,
    List.nil_append]

theorem toList_typeLine (kind : SourceKind) (name : String) (names : List String) :
    (typeLine kind name names).toList =
      headerOf kind name.toList ((bracketedText names).toList ++ [' ', '\x7b']) := by
  have lead : "public ".toList = "public".toList ++ [' '] := by decide
  have space : " ".toList = [' '] := by decide
  have opening : " \x7b".toList = [' ', '\x7b'] := by decide
  unfold typeLine headerOf
  simp only [String.toList_append, lead, space, opening, List.append_assoc, List.cons_append,
    List.nil_append]

theorem toList_methodLine (method : Method) :
    (methodLine method).toList = "    ".toList ++ (method.returnType.toList ++ ' ' ::
      (method.name.toList ++ '(' ::
        ((joinWith ", " (method.parameters.map parameterText)).toList ++ [')', ';']))) := by
  have space : " ".toList = [' '] := by decide
  have opening : "(".toList = ['('] := by decide
  have closing : ");".toList = [')', ';'] := by decide
  unfold methodLine
  simp only [String.toList_append, space, opening, closing, List.append_assoc, List.cons_append,
    List.nil_append]

theorem feed_not_mem_packageLine {package : String}
    (allowed : ∀ c ∈ package.toList, isPackageChar c = true) :
    '\n' ∉ (packageLine package).toList := by
  rw [toList_packageLine]
  have inside : '\n' ∉ package.toList := not_mem_of_refused allowed (by decide)
  simpa using inside

theorem feed_not_mem_typeLine {kind : SourceKind} {name : String} {names : List String}
    (identifier : IsIdentifier name.toList) (each : ∀ name ∈ names, IsIdentifier name.toList) :
    '\n' ∉ (typeLine kind name names).toList := by
  have bracketed : '\n' ∉ (bracketedText names).toList := by
    unfold bracketedText
    split
    · decide
    · have listed : ∀ c ∈ (joinWith ", " names).toList, c ≠ '\n' := by
        rw [forall_mem_joinWith (by decide)]
        intro name member c inside same
        exact feed_not_mem_of_isIdentifier (each name member) (same ▸ inside)
      simpa using fun feed => listed _ feed rfl
  have keyword : '\n' ∉ kind.keyword.toList := by
    cases kind <;> decide
  have lead : '\n' ∉ "public".toList := by decide
  rw [toList_typeLine]
  unfold headerOf
  simp only [List.mem_append, List.mem_cons, lead, keyword, bracketed,
    feed_not_mem_of_isIdentifier identifier, List.not_mem_nil]
  decide

theorem IsPrintableParameter.feed_not_mem_text {parameter : Parameter}
    (printable : IsPrintableParameter parameter) : '\n' ∉ (parameterText parameter).toList := by
  have apart {word : List Char} (isWord : IsWord word) : '\n' ∉ word := by
    intro feed
    have solid := isWord.2 _ feed
    rw [isBlank_feed] at solid
    cases solid
  obtain ⟨parts, _, plain, spelled, _⟩ := printable.words_eq
  have typed : ∀ c ∈ (joinWith " " (parts.map String.ofList)).toList, c ≠ '\n' := by
    rw [forall_mem_joinWith (by decide), List.forall_mem_map]
    intro word member c inside same
    rw [String.toList_ofList] at inside
    exact apart (plain word member).isWord (same ▸ inside)
  have words : (parts.map String.ofList).map String.toList = parts := by
    simp [Function.comp_def]
  have whole : (joinWith " " (parts.map String.ofList)).toList = parameter.type.toList := by
    rw [toList_joinWith, words, spelled]
    rfl
  rw [whole] at typed
  rw [toList_parameterText, List.mem_append, List.mem_cons]
  intro feed
  rcases feed with inType | space | inName
  · exact typed _ inType rfl
  · exact absurd space (by decide)
  · exact apart printable.name.isWord inName

theorem IsPrintableMethod.feed_not_mem_line {method : Method}
    (printable : IsPrintableMethod method) : '\n' ∉ (methodLine method).toList := by
  have returned : '\n' ∉ method.returnType.toList :=
    not_mem_of_refused printable.returnType.2 (by decide)
  have listed : ∀ c ∈ (joinWith ", " (method.parameters.map parameterText)).toList, c ≠ '\n' := by
    rw [forall_mem_joinWith (by decide), List.forall_mem_map]
    intro parameter member c inside same
    exact (printable.parameters parameter member).feed_not_mem_text (same ▸ inside)
  have enclosed : '\n' ∉ (joinWith ", " (method.parameters.map parameterText)).toList :=
    fun feed => listed _ feed rfl
  rw [toList_methodLine]
  simp [returned, enclosed, feed_not_mem_of_isIdentifier printable.name]

theorem readPackage_append {package rest : List Char} (solid : package ≠ [])
    (allowed : ∀ c ∈ package, isPackageChar c = true) :
    readPackage ("package".toList ++ ' ' :: (package ++ ';' :: rest)) =
      some (String.ofList package, rest) := by
  have begun : Stops isBlank (package ++ ';' :: rest) := by
    obtain ⟨c, more, rfl⟩ := List.exists_cons_of_ne_nil solid
    exact stops_cons (isBlank_eq_false_of_isPackageChar (allowed c List.mem_cons_self)) _
  have opened : word? "package" ("package".toList ++ ' ' :: (package ++ ';' :: rest)) =
      some (package ++ ';' :: rest) :=
    word?_append_space begun
  have ran : run? isPackageChar (package ++ ';' :: rest) = some (package, ';' :: rest) :=
    run?_eq_some_iff.mpr ⟨rfl, solid, allowed, stops_cons (by decide) _⟩
  have closed : literal? ";" (trimStart (';' :: rest)) = some rest := by
    rw [trimStart_eq_self (stops_cons (by decide) _)]
    exact literal?_eq_some_iff.mpr rfl
  simp only [readPackage, opened, ran, closed, Option.bind_eq_bind, Option.bind_some,
    Option.pure_def]

theorem readInterface_headerOf {name : List Char} (identifier : IsIdentifier name)
    {names : List String} (each : ∀ name ∈ names,
      IsIdentifier name.toList ∧ contains "extends".toList name.toList = false)
    (rest : List Char) :
    ∃ inside after, readInterface (headerOf .interfaceType name
        ((bracketedText names).toList ++ ' ' :: '\x7b' :: rest)) =
          some ((String.ofList name, inside), after) ∧
      inside.elim [] typeParameters = names := by
  by_cases empty : names = []
  · have unbracketed : readBracketed (' ' :: '\x7b' :: rest) = none := rfl
    have typed : word? "interface" ("interface".toList ++ ' ' :: (name ++ ' ' :: '\x7b' :: rest)) =
        some (name ++ ' ' :: '\x7b' :: rest) :=
      word?_append_space (stops_of_isIdentifier identifier)
    have named : identifier? (name ++ ' ' :: '\x7b' :: rest) = some (name, ' ' :: '\x7b' :: rest) :=
      identifier?_append identifier (stops_cons ends_space.1 _)
    refine ⟨none, ' ' :: '\x7b' :: rest, ?_, empty.symm⟩
    rw [empty]
    simp only [readInterface, word?_public, Option.bind_eq_bind, Option.bind_some]
    simp only [bracketedText, List.isEmpty_nil, if_true, String.toList_empty, List.nil_append,
      SourceKind.keyword, typed, named, unbracketed, Option.bind_some, Option.pure_def]
  · have listed : ∀ c ∈ (joinWith ", " names).toList,
        isHeaderChar c = true ∧ (c != '>') = true := by
      rw [forall_mem_joinWith (by decide)]
      intro parameter member c inside
      have isName := (each parameter member).1.isNameChar
      refine ⟨by rw [isHeaderChar, isName c inside, Bool.true_or], ?_⟩
      rw [bne_iff_ne]
      exact ne_of_mem_of_not_mem inside (not_mem_of_refused isName (by decide))
    obtain ⟨after, read⟩ := readInterface_header identifier (fun c member => (listed c member).1)
      (' ' :: '\x7b' :: rest)
    have whole : (joinWith ", " names).toList.takeWhile (· != '>') = (joinWith ", " names).toList :=
      List.takeWhile_eq_self_iff.mpr fun c member => (listed c member).2
    have spelled : (bracketedText names).toList ++ ' ' :: '\x7b' :: rest =
        '<' :: ((joinWith ", " names).toList ++ '>' :: ' ' :: '\x7b' :: rest) := by
      have opening : "<".toList = ['<'] := by decide
      have closing : ">".toList = ['>'] := by decide
      rw [bracketedText, if_neg (by simpa using empty)]
      simp only [String.toList_append, opening, closing, List.append_assoc, List.cons_append,
        List.nil_append]
    rw [whole, String.ofList_toList] at read
    refine ⟨some (joinWith ", " names), after, ?_, typeParameters_printed each⟩
    rw [spelled]
    exact read

theorem IsPrintableMethod.readMethod_line {method : Method} (printable : IsPrintableMethod method)
    (rest : List Char) :
    ∃ header : MethodText,
      readMethod (trimStart ((methodLine method).toList ++ rest)) = some (header, rest) ∧
        header.returnType = method.returnType ∧ header.method = method := by
  let inside := joinWith ", " (method.parameters.map parameterText)
  have enclosed : ')' ∉ inside.toList := by
    have listed : ∀ c ∈ inside.toList, c ≠ ')' := by
      rw [forall_mem_joinWith (by decide), List.forall_mem_map]
      intro parameter member c held same
      exact (printable.parameters parameter member).parenthesis_not_mem_text (same ▸ held)
    exact fun member => listed _ member rfl
  have trimmed : trim inside.toList = inside.toList := by
    have each : ∀ item ∈ (method.parameters.map parameterText).map String.toList,
        item ≠ [] ∧ Stops isBlank item ∧ Stops isBlank item.reverse := by
      simp only [List.map_map, List.forall_mem_map, Function.comp_apply]
      intro parameter member
      refine ⟨?_, (printable.parameters parameter member).stops_text⟩
      simp [toList_parameterText]
    have joined : inside.toList =
        List.intercalate [',', ' '] ((method.parameters.map parameterText).map String.toList) :=
      toList_joinWith ", " _
    rw [joined]
    exact trim_eq_self (stops_joined each).1 (stops_joined each).2
  have begun : trimStart ((methodLine method).toList ++ rest) =
      method.returnType.toList ++ ' ' :: (method.name.toList ++ '(' ::
        (inside.toList ++ ')' :: ';' :: rest)) := by
    have margin : AllBlank "    ".toList := by
      unfold AllBlank
      decide
    have stops : Stops isBlank (method.returnType.toList ++ ' ' :: (method.name.toList ++ '(' ::
        (inside.toList ++ ')' :: ';' :: rest))) := by
      obtain ⟨c, more, spelled⟩ := List.exists_cons_of_ne_nil printable.returnType.1
      have solid := isBlank_eq_false_of_isTypeChar (printable.returnType.2 c (by simp [spelled]))
      rw [spelled]
      exact stops_cons solid _
    rw [toList_methodLine]
    simp only [List.append_assoc, List.cons_append, List.nil_append]
    rw [trimStart_blank_append margin, trimStart_eq_self stops]
  refine ⟨⟨method.returnType, method.name, inside⟩, ?_, rfl, ?_⟩
  · rw [begun, readMethod_append printable.returnType.1 printable.returnType.2 printable.name
      enclosed, trimmed]
    simp only [String.ofList_toList]
  · rw [MethodText.method, parameters_printed printable.parameters]

theorem readMethod_closing {ending : List Char} (blank : AllBlank ending) :
    ∀ head ∈ lineHeads ('\x7d' :: ending), readMethod head = none := by
  intro head member
  rw [lineHeads_eq, lineStarts, List.map_cons, List.mem_cons] at member
  rcases member with first | later
  · rw [first, trimStart_eq_self (stops_cons (by decide) _)]
    rfl
  · obtain ⟨line, listed, rfl⟩ := List.mem_map.mp later
    rw [laterLines, if_neg (by decide)] at listed
    have below : AllBlank line := fun c inside =>
      blank c ((isSuffix_of_mem_laterLines listed).subset inside)
    rw [trimStart_eq_nil below]
    rfl

section Whole

variable {package name : String} {kind : SourceKind} {signature : Signature} {ending : String}

def lowerPart (kind : SourceKind) (signature : Signature) (ending : String) : List Char :=
  feedLines (memberLines kind signature) ++ '\x7d' :: ending.toList

theorem toList_sourceText :
    (sourceText package kind name signature ++ ending).toList =
      feedLines [packageLine package, ""] ++
        ((typeLine kind name signature.typeParameters).toList ++
          '\n' :: lowerPart kind signature ending) := by
  have closing : "\x7d".toList = ['\x7d'] := by decide
  rw [sourceText, String.toList_append, toList_joinWith_last, closing, lowerPart]
  simp only [feedLines_cons, feedLines_nil, List.append_assoc, List.cons_append, List.nil_append]

theorem typeLine_append (rest : List Char) :
    (typeLine kind name signature.typeParameters).toList ++ rest =
      headerOf kind name.toList
        ((bracketedText signature.typeParameters).toList ++ ' ' :: '\x7b' :: rest) := by
  rw [toList_typeLine]
  unfold headerOf
  simp only [List.append_assoc, List.cons_append, List.nil_append]

theorem headerEnd_bracketedText (names : List String) (rest : List Char) :
    HeaderEnd ((bracketedText names).toList ++ ' ' :: '\x7b' :: rest) := by
  unfold bracketedText
  split
  · exact .inr ⟨rest, rfl⟩
  · rw [String.toList_append, String.toList_append]
    exact .inl ⟨_, rfl⟩

theorem trimStart_headerOf (rest : List Char) :
    trimStart (headerOf kind name.toList rest) = headerOf kind name.toList rest :=
  trimStart_eq_self (stops_cons (by decide) _)

theorem trimStart_package (rest : List Char) :
    trimStart ("package".toList ++ rest) = "package".toList ++ rest :=
  trimStart_eq_self (stops_cons (by decide) _)

theorem package?_sourceText (solid : package.toList ≠ [])
    (allowed : ∀ c ∈ package.toList, isPackageChar c = true) :
    package? (sourceText package kind name signature ++ ending) = some package := by
  have read (rest : List Char) :
      readPackage (trimStart ("package".toList ++ ' ' :: (package.toList ++ ';' :: rest))) =
        some (package, rest) := by
    rw [trimStart_package, readPackage_append solid allowed, String.ofList_toList]
  rw [package?, toList_sourceText, feedLines_cons, toList_packageLine]
  simp only [List.append_assoc, List.cons_append, List.nil_append]
  exact firstAtLine_head (read _)

theorem unpublished_packageLine (allowed : ∀ c ∈ package.toList, isPackageChar c = true) :
    Unpublished [packageLine package, ""] := by
  have absent : ¬"public".toList <+: trimStart (packageLine package).toList := by
    rw [toList_packageLine, trimStart_package, ← List.isPrefixOf_iff_prefix, Bool.not_eq_true]
    rfl
  intro line member
  rcases List.mem_cons.mp member with first | second
  · rw [first]
    exact ⟨feed_not_mem_packageLine allowed, absent⟩
  · rw [List.mem_singleton.mp second]
    decide

theorem publicType?_sourceText (allowed : ∀ c ∈ package.toList, isPackageChar c = true)
    (identifier : IsIdentifier name.toList) :
    publicType? (sourceText package kind name signature ++ ending) = some (kind, name) := by
  have read (rest : List Char) := readPublicType_headerOf kind identifier
    (headerEnd_bracketedText signature.typeParameters rest)
  rw [publicType?, toList_sourceText, typeLine_append,
    firstAtLine_below (by decide) (fun _ => readPublicType_eq_none)
      (unpublished_packageLine allowed)]
  rw [String.ofList_toList] at read
  exact firstAtLine_head ((congrArg _ (trimStart_headerOf _)).trans (read _))

theorem typeParameters_sourceText (allowed : ∀ c ∈ package.toList, isPackageChar c = true)
    (identifier : IsIdentifier name.toList) (printable : IsPrintable signature) :
    ((interface? (sourceText package .interfaceType name signature ++ ending)).bind
      Prod.snd).elim [] typeParameters = signature.typeParameters := by
  obtain ⟨inside, after, read, whole⟩ := readInterface_headerOf identifier printable.typeParameters
    ('\n' :: lowerPart .interfaceType signature ending)
  have found : interface? (sourceText package .interfaceType name signature ++ ending) =
      some (name, inside) := by
    rw [String.ofList_toList] at read
    rw [interface?, toList_sourceText, typeLine_append,
      firstAtLine_below (by decide) (fun _ => readInterface_eq_none)
        (unpublished_packageLine allowed)]
    exact firstAtLine_head ((congrArg _ (trimStart_headerOf _)).trans read)
  rw [found, Option.bind_some]
  exact whole

theorem allAtLines_readMethod_sourceText (solid : package.toList ≠ [])
    (allowed : ∀ c ∈ package.toList, isPackageChar c = true)
    (identifier : IsIdentifier name.toList) (printable : IsPrintable signature) :
    allAtLines readMethod (sourceText package kind name signature ++ ending).toList =
      allAtLines readMethod (lowerPart kind signature ending) := by
  have header : readMethod (trimStart ((typeLine kind name signature.typeParameters).toList ++
      '\n' :: lowerPart kind signature ending)) = none := by
    rw [typeLine_append, trimStart_headerOf]
    exact readMethod_headerOf kind identifier (headerEnd_bracketedText _ _)
  have first (rest : List Char) :
      readMethod (trimStart ((packageLine package).toList ++ rest)) = none := by
    rw [toList_packageLine, List.append_assoc, trimStart_package, List.cons_append,
      List.append_assoc]
    exact readMethod_package solid allowed
  have single : '\n' ∉ (typeLine kind name signature.typeParameters).toList :=
    feed_not_mem_typeLine identifier
      fun parameter member => (printable.typeParameters parameter member).1
  have blankLine : allAtLines readMethod ('\n' ::
      ((typeLine kind name signature.typeParameters).toList ++
        '\n' :: lowerPart kind signature ending)) =
      allAtLines readMethod (lowerPart kind signature ending) := by
    rw [← allAtLines_line single header]
    apply allAtLines_line (List.not_mem_nil)
    rw [List.nil_append, ← List.singleton_append, trimStart_blank_append allBlank_feed, header]
  rw [toList_sourceText, feedLines_cons, feedLines_cons, feedLines_nil, List.append_assoc,
    List.cons_append, String.toList_empty, List.append_assoc, List.cons_append, List.nil_append,
    List.nil_append, allAtLines_line (feed_not_mem_packageLine allowed) (first _), blankLine]

theorem method?_sourceText (solid : package.toList ≠ [])
    (allowed : ∀ c ∈ package.toList, isPackageChar c = true)
    (identifier : IsIdentifier name.toList) (printable : IsPrintable signature)
    (blank : AllBlank ending.toList) :
    (method? (sourceText package .interfaceType name signature ++ ending)).map MethodText.method =
      signature.method := by
  rw [method?, allAtLines_readMethod_sourceText solid allowed identifier printable, lowerPart,
    memberLines, if_pos rfl]
  cases held : signature.method with
  | none =>
    have nothing : allAtLines readMethod ('\x7d' :: ending.toList) = [] :=
      collectAt_eq_nil (readMethod_closing blank)
    simp only [Option.map_none, Option.toList_none]
    rw [feedLines_nil, List.nil_append, nothing]
    rfl
  | some method =>
    have isPrintable := printable.method method held
    obtain ⟨header, read, returned, whole⟩ :=
      isPrintable.readMethod_line ('\n' :: '\x7d' :: ending.toList)
    have once : allAtLines readMethod ((methodLine method).toList ++ '\n' ::
        '\x7d' :: ending.toList) = [header] := by
      rw [allAtLines, lineHeads_line isPrintable.feed_not_mem_line]
      exact collectAt_once read (readMethod_closing blank)
    have kept : (!leadingWords.contains header.returnType) = true := by
      rw [returned]
      simpa using isPrintable.notLeading
    rw [Option.map_some, Option.toList_some, feedLines_cons, List.append_assoc, List.cons_append,
      feedLines_nil, List.nil_append, once]
    simp only [List.find?_cons, kept, Option.map_some, whole]

theorem signature_sourceText (solid : package.toList ≠ [])
    (allowed : ∀ c ∈ package.toList, isPackageChar c = true)
    (identifier : IsIdentifier name.toList) (printable : IsPrintable signature)
    (blank : AllBlank ending.toList) :
    Source.signature (sourceText package .interfaceType name signature ++ ending) = signature := by
  rw [Source.signature, typeParameters_sourceText allowed identifier printable,
    method?_sourceText solid allowed identifier printable blank]

/-- Every declaration is read back from its source text: its package, its kind, its name and, for an
interface, all of its signature. Blanks may follow the text. -/
theorem extraction_undoes_printing (rootPackage : String) (origin : Path)
    (solid : package.toList ≠ []) (allowed : ∀ c ∈ package.toList, isPackageChar c = true)
    (identifier : IsIdentifier name.toList) (printable : IsPrintable signature)
    (blank : AllBlank ending.toList) :
    declaration? rootPackage origin (sourceText package kind name signature ++ ending) =
      some {
        package := package
        kind := kind
        name := name
        group := packageGroup package rootPackage
        origin := origin
        signature := if kind = .interfaceType then some signature else none } := by
  simp only [declaration?, package?_sourceText solid allowed,
    publicType?_sourceText allowed identifier, Option.bind_eq_bind, Option.bind_some,
    Option.pure_def, SourceDeclaration.under]
  by_cases isInterface : kind = .interfaceType
  · rw [if_pos isInterface, if_pos isInterface, isInterface,
      signature_sourceText solid allowed identifier printable blank]
  · rw [if_neg isInterface, if_neg isInterface]

/-- A return type that reads like a modifier, and parameter types with commas and spaces. -/
theorem extraction_undoes_printing_nested :
    let merge : Method :=
      { name := "merge", returnType := "public",
        parameters := [⟨"left", "Map<K, List<? extends V>>"⟩, ⟨"others[]", "T ..."⟩] }
    let signature : Signature := { typeParameters := ["K", "V_2"], method := some merge }
    let text := sourceText "a.b.c" .interfaceType "Merger" signature ++ "\n"
    IsPrintable signature ∧
      text = "package a.b.c;\n\npublic interface Merger<K, V_2> \x7b\n" ++
        "    public merge(Map<K, List<? extends V>> left, T ... others[]);\n\x7d\n" ∧
      declaration? "a.b" ⟨"Merger.java"⟩ text =
        some ⟨"a.b.c", .interfaceType, "Merger", "c", ⟨"Merger.java"⟩, some signature⟩ := by
  intro merge signature text
  have printable : IsPrintable signature := by decide +kernel
  refine ⟨printable, by decide +kernel, ?_⟩
  exact extraction_undoes_printing "a.b" ⟨"Merger.java"⟩ (by decide) (by decide) (by decide)
    printable allBlank_feed

end Whole

end Texts

end ApiMigration.Source
