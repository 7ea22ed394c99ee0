import ApiMigration.Proofs.Text.Grammar
import ApiMigration.Stub.Render

/-!
Functional interfaces name known types only, and the decoration of a type does not show in them. A
decoration is what stands behind the bare name of a type: type arguments with anything behind them, or
array brackets and the dots of a variable parameter.
-/

namespace ApiMigration.Stub

open Text
open scoped Computability

section Steps

variable {front rest text mark : List Char} {c : Char}

theorem upTo_eq_self (absent : ¬mark <:+: text) : upTo mark text = text := by
  induction text with
  | nil => rfl
  | cons c text ih =>
    rw [List.infix_cons_iff, not_or, ← List.isPrefixOf_iff_prefix] at absent
    rw [upTo, if_neg absent.1, ih absent.2]

theorem brackets_not_infix_append (absent : ¬"[]".toList <:+: front) (other : ']' ∉ rest) :
    ¬"[]".toList <:+: front ++ rest := by
  induction rest using List.reverseRecOn with
  | nil => rwa [List.append_nil]
  | append_singleton rest c ih =>
    rw [List.mem_append, not_or, List.mem_singleton] at other
    rw [← List.append_assoc, List.infix_concat_iff, not_or]
    refine ⟨?_, ih other.1⟩
    rintro ⟨start, same⟩
    have last := congrArg List.getLast? same
    simp at last
    exact other.2 last

theorem upTo_brackets (absent : ¬"[]".toList <:+: front) (rest : List Char) :
    upTo "[]".toList (front ++ '[' :: ']' :: rest) = front := by
  induction front with
  | nil => rfl
  | cons c front ih =>
    rw [List.infix_cons_iff, not_or] at absent
    have other : ¬("[]".toList.isPrefixOf (c :: (front ++ '[' :: ']' :: rest)) = true) := by
      rw [List.isPrefixOf_iff_prefix]
      -- the brackets would have to stand in the front, which the next bracket shows not to end there
      cases front with
      | nil => simp
      | cons d front => simpa using absent.1
    rw [List.cons_append, upTo, if_neg other, ih absent.2]

theorem dropEllipses_eq_self (other : ¬"...".toList <:+ text) :
    dropEllipses text.reverse = text.reverse := by
  unfold dropEllipses
  split
  · next more same =>
    refine absurd ⟨more.reverse, ?_⟩ other
    have whole := congrArg List.reverse same
    simpa using whole.symm
  · rfl

end Steps

section Base

structure IsBase (base : List Char) : Prop where
  trimmed : trim base = base
  opening : '<' ∉ base
  closing : '>' ∉ base
  brackets : ¬"[]".toList <:+: base
  dots : ¬"...".toList <:+ base

def argumentSuffix : Language Char :=
  {suffix | ∃ arguments rest, suffix = '<' :: (arguments ++ '>' :: rest)}

def arraySuffix : Language Char :=
  (blankText * oneOf ["[]"])∗ * (blankText * (1 + oneOf ["..."]))

variable {base gap suffix rest : List Char} {c : Char}

theorem IsBase.peel (isBase : IsBase base) (blank : AllBlank gap) :
    upTo "[]".toList (base ++ gap) = base ++ gap ∧
      trim (dropEllipses (base ++ gap).reverse).reverse = base := by
  have bracket : ']' ∉ gap := fun member => by
    have wrong := blank _ member
    revert wrong
    decide
  have dots : ¬"...".toList <:+ base ++ gap := by
    rcases List.eq_nil_or_concat' gap with rfl | ⟨more, last, rfl⟩
    · rw [List.append_nil]
      exact isBase.dots
    · rintro ⟨start, same⟩
      have ends := congrArg List.getLast? same
      simp only [← List.append_assoc, List.getLast?_concat] at ends
      have wrong := blank last (by simp)
      simp at ends
      rw [← ends] at wrong
      revert wrong
      decide
  refine ⟨upTo_eq_self (brackets_not_infix_append isBase.brackets bracket), ?_⟩
  rw [dropEllipses_eq_self dots, List.reverse_reverse, trim_append_blank blank, isBase.trimmed]

theorem IsBase.exists_trim (isBase : IsBase base) (blank : AllBlank gap)
    (solid : isBlank c = false) (rest : List Char) : ∃ kept, AllBlank kept ∧
      trim (base ++ gap ++ c :: rest) = base ++ kept ++ c :: trimEnd rest := by
  cases base with
  | nil =>
    refine ⟨[], allBlank_nil, ?_⟩
    rw [List.nil_append, trim, trimStart_append_eq blank (stops_cons solid rest)]
    exact trimEnd_append_solid solid [] rest
  | cons first more =>
    refine ⟨gap, blank, ?_⟩
    have stops : Stops isBlank (first :: more ++ gap ++ c :: rest) :=
      stops_cons (isBlank_head_of_trim isBase.trimmed) _
    rw [trim, trimStart_eq_self stops, trimEnd_append_solid solid]

theorem IsBase.baseType_arguments (isBase : IsBase base) (arguments rest : List Char) :
    baseType (base ++ '<' :: (arguments ++ '>' :: rest)) = base := by
  obtain ⟨kept, blank, trimmed⟩ :=
    isBase.exists_trim allBlank_nil (by decide : isBlank '<' = false) (arguments ++ '>' :: rest)
  rw [trimEnd_append_solid (by decide), List.append_nil] at trimmed
  have before : ∀ c ∈ base ++ kept, (c != '<') = true := by
    intro c member
    rw [bne_iff_ne]
    rintro rfl
    rcases List.mem_append.mp member with inside | inside
    · exact isBase.opening inside
    · exact absurd (blank _ inside) (by decide)
  have cut : (base ++ kept ++ '<' :: (arguments ++ '>' :: trimEnd rest)).takeWhile (· != '<') =
      base ++ kept :=
    takeWhile_append_stops before (stops_cons (by decide) _)
  have held : ((base ++ kept ++ '<' :: (arguments ++ '>' :: trimEnd rest)).contains '<' &&
      (base ++ kept ++ '<' :: (arguments ++ '>' :: trimEnd rest)).contains '>') = true := by
    simp
  have peeled := isBase.peel blank
  simp only [baseType, trimmed, held, if_true, cut, peeled.1, peeled.2]

theorem baseType_of_no_arguments {type : List Char} (opening : '<' ∉ type) :
    baseType type = trim (dropEllipses (upTo "[]".toList (trim type)).reverse).reverse := by
  have absent : '<' ∉ trim type := fun member => opening (mem_of_mem_trim member)
  simp [baseType, absent]

theorem IsBase.baseType_gap (isBase : IsBase base) (blank : AllBlank gap) :
    baseType (base ++ gap) = base := by
  have opening : '<' ∉ base ++ gap := by
    rw [List.mem_append, not_or]
    exact ⟨isBase.opening, fun member => absurd (blank _ member) (by decide)⟩
  have peeled := isBase.peel allBlank_nil
  rw [List.append_nil] at peeled
  rw [baseType_of_no_arguments opening, trim_append_blank blank, isBase.trimmed, peeled.1, peeled.2]

theorem IsBase.baseType_dots (isBase : IsBase base) (blank : AllBlank gap) :
    baseType (base ++ gap ++ "...".toList) = base := by
  have opening : '<' ∉ base ++ gap ++ "...".toList := by
    simp only [List.mem_append, not_or]
    exact ⟨⟨isBase.opening, fun member => absurd (blank _ member) (by decide)⟩, by decide⟩
  obtain ⟨kept, keptBlank, trimmed⟩ :=
    isBase.exists_trim blank (by decide : isBlank '.' = false) ['.', '.']
  have same : trim (base ++ gap ++ "...".toList) = base ++ kept ++ "...".toList := trimmed
  have bracketless : ']' ∉ kept ++ "...".toList := by
    rw [List.mem_append, not_or]
    exact ⟨fun member => absurd (keptBlank _ member) (by decide), by decide⟩
  have uncut := upTo_eq_self (brackets_not_infix_append isBase.brackets bracketless)
  have dropped : dropEllipses (base ++ kept ++ "...".toList).reverse =
      dropEllipses (base ++ kept).reverse := by
    rw [List.reverse_append]
    rfl
  rw [baseType_of_no_arguments opening, same, List.append_assoc, uncut, ← List.append_assoc, dropped,
    (isBase.peel keptBlank).2]

theorem IsBase.baseType_brackets (isBase : IsBase base) (blank : AllBlank gap)
    (opening : '<' ∉ rest) : baseType (base ++ gap ++ '[' :: ']' :: rest) = base := by
  have unopened : '<' ∉ base ++ gap ++ '[' :: ']' :: rest := by
    simp only [List.mem_append, List.mem_cons, not_or]
    exact ⟨⟨isBase.opening, fun member => absurd (blank _ member) (by decide)⟩, by decide, by decide,
      opening⟩
  obtain ⟨kept, keptBlank, trimmed⟩ :=
    isBase.exists_trim blank (by decide : isBlank '[' = false) (']' :: rest)
  rw [← List.nil_append (']' :: rest), trimEnd_append_solid (by decide), List.nil_append,
    List.nil_append] at trimmed
  have bracketless : ']' ∉ kept := fun member => absurd (keptBlank _ member) (by decide)
  have cut := upTo_brackets (brackets_not_infix_append isBase.brackets bracketless) (trimEnd rest)
  rw [baseType_of_no_arguments unopened, trimmed, cut, (isBase.peel keptBlank).2]

theorem mem_optional_word_iff {word : String} {piece : List Char} :
    piece ∈ 1 + oneOf [word] ↔ piece = [] ∨ piece = word.toList := by
  rw [Language.mem_add, Language.mem_one]
  constructor
  · rintro (empty | ⟨_, listed, spelled⟩)
    · exact .inl empty
    · exact .inr (List.mem_singleton.mp listed ▸ spelled)
  · rintro (empty | spelled)
    · exact .inl empty
    · exact .inr ⟨word, List.mem_singleton_self word, spelled⟩

theorem arraySuffix_cases (member : suffix ∈ arraySuffix) : ∃ gap, AllBlank gap ∧
    (suffix = gap ∨ suffix = gap ++ "...".toList ∨
      ∃ rest, '<' ∉ rest ∧ suffix = gap ++ '[' :: ']' :: rest) := by
  obtain ⟨_, starred, _, closing, rfl⟩ := Language.mem_mul.mp member
  obtain ⟨marks, rfl, each⟩ := Language.mem_kstar.mp starred
  obtain ⟨gap, blank, dots, optional, rfl⟩ := Language.mem_mul.mp closing
  rw [mem_optional_word_iff] at optional
  cases marks with
  | nil =>
    refine ⟨gap, blank, ?_⟩
    rcases optional with rfl | rfl
    · exact .inl (by simp)
    · exact .inr (.inl (by simp))
  | cons mark marks =>
    have bracketed : ∀ other ∈ mark :: marks,
        ∃ space, AllBlank space ∧ other = space ++ ['[', ']'] := by
      intro other listed
      obtain ⟨space, blank, _, ⟨word, only, rfl⟩, rfl⟩ := Language.mem_mul.mp (each other listed)
      rw [List.mem_singleton.mp only]
      exact ⟨space, blank, rfl⟩
    obtain ⟨space, spaceBlank, rfl⟩ := bracketed mark List.mem_cons_self
    refine ⟨space, spaceBlank, .inr (.inr ⟨marks.flatten ++ (gap ++ dots), ?_, by simp⟩)⟩
    simp only [List.mem_append, List.mem_flatten, not_or, not_exists, not_and]
    refine ⟨?_, fun inside => absurd (blank _ inside) (by decide), ?_⟩
    · intro other listed inside
      obtain ⟨between, betweenBlank, rfl⟩ := bracketed other (List.mem_cons_of_mem _ listed)
      rcases List.mem_append.mp inside with inside | inside
      · exact absurd (betweenBlank _ inside) (by decide)
      · exact absurd inside (by decide)
    · rcases optional with rfl | rfl <;> decide

theorem IsBase.baseType_append (isBase : IsBase base)
    (member : suffix ∈ argumentSuffix + arraySuffix) : baseType (base ++ suffix) = base := by
  rcases (Language.mem_add _ _ _).mp member with ⟨arguments, rest, rfl⟩ | array
  · exact isBase.baseType_arguments arguments rest
  · obtain ⟨gap, blank, rfl | rfl | ⟨rest, opening, rfl⟩⟩ := arraySuffix_cases array
    · exact isBase.baseType_gap blank
    · rw [← List.append_assoc]
      exact isBase.baseType_dots blank
    · rw [← List.append_assoc]
      exact isBase.baseType_brackets blank opening

end Base

section Types

variable {table : TypeTable} {typeParameters : List String} {type changed : String}

/-- A type as it was, or the bare name of a type with a decoration behind it. -/
def Redecorated (type changed : String) : Prop :=
  changed = type ∨ IsBase type.toList ∧
    ∃ suffix ∈ argumentSuffix + arraySuffix, changed.toList = type.toList ++ suffix

theorem Redecorated.map_eq (redecorated : Redecorated type changed) (table : TypeTable)
    (typeParameters : List String) :
    table.map changed typeParameters = table.map type typeParameters := by
  rcases redecorated with rfl | ⟨isBase, suffix, member, spelled⟩
  · rfl
  · have bare := isBase.baseType_gap allBlank_nil
    rw [List.append_nil] at bare
    rw [TypeTable.map, TypeTable.map, spelled, isBase.baseType_append member, bare]

/-- A type that may stand in a skeleton: a type parameter, a value of the table or the fallback. -/
def TypeTable.Knows (table : TypeTable) (typeParameters : List String) (type : String) : Prop :=
  type ∈ typeParameters ∨ (∃ name, table.entries.lookup name = some type) ∨ type = table.fallback

theorem TypeTable.knows_map (table : TypeTable) (typeParameters : List String) (type : String) :
    table.Knows typeParameters (table.map type typeParameters) := by
  rw [TypeTable.map]
  split
  · next declared => exact .inl (List.contains_iff_mem.mp declared)
  · cases found : table.entries.lookup (String.ofList (baseType type.toList)) with
    | some target => exact .inr (.inl ⟨_, found⟩)
    | none => exact .inr (.inr rfl)

/-- How a type is printed. A bare name that is a type parameter stands for itself, whatever the table
says; any other is looked up in the table. -/
structure TypeTable.Prints (table : TypeTable) (typeParameters : List String)
    (type printed : String) : Prop where
  known : table.Knows typeParameters printed
  bare : IsBase type.toList → printed =
    if type ∈ typeParameters then type else (table.entries.lookup type).getD table.fallback

theorem TypeTable.prints_map (table : TypeTable) (typeParameters : List String) (type : String) :
    table.Prints typeParameters type (table.map type typeParameters) where
  known := knows_map table typeParameters type
  bare := by
    intro isBase
    have same := isBase.baseType_gap allBlank_nil
    rw [List.append_nil] at same
    simp only [TypeTable.map, same, String.ofList_toList, List.contains_iff_mem]

end Types

namespace Renderer

def SameParameter (parameter changed : Parameter) : Prop :=
  changed.name = parameter.name ∧ Redecorated parameter.type changed.type

structure SameMethod (method changed : Method) : Prop where
  name : changed.name = method.name
  result : Redecorated method.returnType changed.returnType
  parameters : List.Forall₂ SameParameter method.parameters changed.parameters

theorem map_parameterText_eq {parameters changed : List Parameter}
    (same : List.Forall₂ SameParameter parameters changed) (renderer : Renderer)
    (typeParameters : List String) :
    changed.map (renderer.parameterText typeParameters) =
      parameters.map (renderer.parameterText typeParameters) := by
  induction same with
  | nil => rfl
  | cons first _ ih =>
    rw [List.map_cons, List.map_cons, ih, parameterText, parameterText, first.1, first.2.map_eq]

theorem SameMethod.methodLine_eq {method changed : Method} (same : SameMethod method changed)
    (renderer : Renderer) (typeParameters : List String) :
    renderer.methodLine typeParameters changed = renderer.methodLine typeParameters method := by
  rw [methodLine, methodLine, same.name, same.result.map_eq, map_parameterText_eq same.parameters]

theorem bodyLines_eq_functionLines (renderer : Renderer) {declaration : SourceDeclaration}
    {package : String} (isInterface : declaration.kind = .interfaceType)
    (ending : endsWith package renderer.style.functionPackageSuffix = true) :
    renderer.bodyLines declaration package =
      renderer.functionLines declaration.name (declaration.signature.getD {}) := by
  rw [bodyLines, isInterface]
  simp only [ending, if_true]

/-- An interface in a package for functions keeps its method, if it has one. The parameters stand in
their order under their names, each printed type is known, and other decorations of the types behind
their bare names leave the text as it is. -/
theorem function_interface_known_types (renderer : Renderer) {declaration : SourceDeclaration}
    {package : String} (isInterface : declaration.kind = .interfaceType)
    (ending : endsWith package renderer.style.functionPackageSuffix = true) :
    let signature := declaration.signature.getD {}
    let header := "public interface " ++ declaration.name ++
      genericsText signature.typeParameters ++ " \x7b"
    (signature.method = none → renderer.render declaration package =
      joinWith "\n" ["package " ++ package, "", header, "\x7d"] ++ "\n") ∧
    ∀ method, signature.method = some method →
      (∃ (types : List String) (result : String),
        List.Forall₂ (renderer.types.Prints signature.typeParameters)
          (method.parameters.map Parameter.type) types ∧
        renderer.types.Prints signature.typeParameters method.returnType result ∧
        renderer.render declaration package =
          joinWith "\n" ["package " ++ package, "", header,
            "    func " ++ method.name ++ "(" ++
              joinWith ", " (List.zipWith (fun parameter type => parameter.name ++ ": " ++ type)
                method.parameters types) ++ "): " ++ result,
            "\x7d"] ++ "\n") ∧
      ∀ changed, SameMethod method changed →
        renderer.render { declaration with
            signature := some { signature with method := some changed } } package =
          renderer.render declaration package := by
  intro signature header
  have body : renderer.bodyLines declaration package =
      renderer.functionLines declaration.name signature :=
    bodyLines_eq_functionLines renderer isInterface ending
  constructor
  · intro held
    rw [render, body, functionLines, held]
    rfl
  · intro method held
    constructor
    · refine ⟨method.parameters.map fun parameter =>
        renderer.types.map parameter.type signature.typeParameters,
        renderer.types.map method.returnType signature.typeParameters, ?_, ?_, ?_⟩
      · rw [List.forall₂_map_left_iff, List.forall₂_map_right_iff, List.forall₂_same]
        exact fun parameter _ => TypeTable.prints_map _ _ _
      · exact TypeTable.prints_map _ _ _
      · rw [render, body, functionLines, held, List.zipWith_map_right, List.zipWith_self]
        rfl
    · intro changed same
      have line := same.methodLine_eq renderer signature.typeParameters
      have other : renderer.bodyLines
          { declaration with signature := some { signature with method := some changed } } package =
            renderer.functionLines declaration.name { signature with method := some changed } :=
        bodyLines_eq_functionLines renderer isInterface ending
      rw [render, render, other, body]
      simp only [functionLines, held, Option.map_some, line]

/-- A type parameter with the name of a table entry, an array with white space between its brackets,
and arguments with a name behind them. -/
theorem function_interface_beside_entry :
    let renderer : Renderer :=
      { types := { entries := [("T", "Lost"), ("int", "Int32")] }, rootNamespace := "r", marker := "" }
    let method : Method := ⟨"apply", "T", [⟨"a", "int"⟩, ⟨"b", "Foo"⟩]⟩
    let changed : Method :=
      ⟨"apply", "T<int[]>[]", [⟨"a", "int [] []..."⟩, ⟨"b", "Foo<U<T>>.Bar"⟩]⟩
    let declaration (method : Method) : SourceDeclaration :=
      { package := "p", kind := .interfaceType, name := "Op", group := "", origin := ⟨"Op.java"⟩,
        signature := some { typeParameters := ["T"], method := some method } }
    let text := "package r.function\n\npublic interface Op<T> \x7b\n" ++
      "    func apply(a: Int32, b: Any): T\n\x7d\n"
    SameMethod method changed ∧ renderer.render (declaration method) "r.function" = text ∧
      renderer.render (declaration changed) "r.function" = text := by
  intro renderer method changed declaration text
  have first : Redecorated "T" "T<int[]>[]" :=
    .inr ⟨⟨by decide, by decide, by decide, by decide, by decide⟩, "<int[]>[]".toList,
      .inl ⟨"int[]".toList, "[]".toList, by decide⟩, by decide⟩
  have second : Redecorated "int" "int [] []..." := by
    refine .inr ⟨⟨by decide, by decide, by decide, by decide, by decide⟩, " [] []...".toList, ?_,
      by decide⟩
    have space : [' '] ∈ blankText := allBlank_space
    have brackets : ['[', ']'] ∈ oneOf ["[]"] := ⟨"[]", List.mem_singleton_self _, rfl⟩
    have mark : [' ', '[', ']'] ∈ blankText * oneOf ["[]"] :=
      Language.append_mem_mul space brackets
    have marks : [[' ', '[', ']'], [' ', '[', ']']].flatten ∈ (blankText * oneOf ["[]"])∗ :=
      Language.mem_kstar.mpr ⟨_, rfl, by simpa using mark⟩
    have dots : [] ++ "...".toList ∈ blankText * (1 + oneOf ["..."]) :=
      Language.append_mem_mul allBlank_nil (mem_optional_word_iff.mpr (.inr rfl))
    exact .inr (Language.append_mem_mul marks dots)
  have third : Redecorated "Foo" "Foo<U<T>>.Bar" :=
    .inr ⟨⟨by decide, by decide, by decide, by decide, by decide⟩, "<U<T>>.Bar".toList,
      .inl ⟨"U<T".toList, ">.Bar".toList, by decide⟩, by decide⟩
  have same : SameMethod method changed :=
    ⟨rfl, first, .cons ⟨rfl, second⟩ (.cons ⟨rfl, third⟩ .nil)⟩
  have printed : renderer.render (declaration method) "r.function" = text := by decide +kernel
  obtain ⟨_, known⟩ := function_interface_known_types renderer
    (rfl : (declaration method).kind = .interfaceType)
    (by decide : endsWith "r.function" renderer.style.functionPackageSuffix = true)
  obtain ⟨_, unchanged⟩ := known method rfl
  exact ⟨same, printed, (unchanged changed same).trans printed⟩

end Renderer

end ApiMigration.Stub
