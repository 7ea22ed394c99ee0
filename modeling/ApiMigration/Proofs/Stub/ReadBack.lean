import ApiMigration.Proofs.Routing
import ApiMigration.Proofs.Target.PublicTypes
import ApiMigration.Proofs.Text.Joined
import ApiMigration.Stub.Plan

namespace ApiMigration

open Text

def SourceKind.counterpart : SourceKind → TargetKind
  | .classType => .classType
  | .interfaceType => .interfaceType
  | .enumType => .enumType

namespace Target

theorem readPublicType_eq_none {head : List Char} (other : head.head? ≠ some 'p') :
    readPublicType head = none := by
  cases head with
  | nil => rfl
  | cons c more =>
    have differs : 'p' ≠ c := fun same => other (by rw [← same]; rfl)
    simp [readPublicType, word?, literal?, afterPrefix?, differs]

structure Plain (line : String) : Prop where
  single : '\n' ∉ line.toList
  quiet : LineReads readPublicType line.toList none

theorem Plain.passed {line : String} (plain : Plain line) :
    '\n' ∉ line.toList ∧ LineReads readPublicType line.toList none :=
  ⟨plain.single, plain.quiet⟩

theorem plain_blank : Plain "" :=
  ⟨List.not_mem_nil, .blank allBlank_nil⟩

theorem plain_of_first {line : String} {c : Char} (single : '\n' ∉ line.toList)
    (first : (trimStart line.toList).head? = some c) (other : c ≠ 'p') : Plain line where
  single := single
  quiet := by
    obtain ⟨inside, begun⟩ := List.head?_eq_some_iff.mp first
    refine .quiet ?_ fun back _ => readPublicType_eq_none ?_
    · intro blank
      rw [trimStart_eq_nil blank] at begun
      cases begun
    · rw [begun]
      simpa using other

theorem plain_append {lead more : String} {c : Char} (single : '\n' ∉ (lead ++ more).toList)
    (first : (trimStart lead.toList).head? = some c) (other : c ≠ 'p') : Plain (lead ++ more) := by
  refine plain_of_first single ?_ other
  obtain ⟨inside, begun⟩ := List.head?_eq_some_iff.mp first
  rw [String.toList_append, trimStart, List.dropWhile_append, ← trimStart, begun]
  rfl

theorem plain_lead {lead more : String} (single : '\n' ∉ (lead ++ more).toList)
    (begun : trimStart lead.toList ≠ [])
    (unread : ∀ text, readPublicType (trimStart lead.toList ++ text) = none) :
    Plain (lead ++ more) where
  single := single
  quiet := by
    have solid : ¬AllBlank lead.toList := fun blank => begun (trimStart_eq_nil blank)
    rw [String.toList_append]
    refine .quiet (fun blank => solid blank.left) fun back _ => ?_
    rw [trimStart_append solid, List.append_assoc]
    exact unread _

theorem plain_constructor (parameters : String) (single : '\n' ∉ parameters.toList) :
    Plain ("    public init(" ++ parameters) := by
  refine plain_lead ?_ (by decide) fun text => rfl
  rw [String.toList_append, List.mem_append, not_or]
  exact ⟨by decide, single⟩

theorem plain_package {package : String} (single : '\n' ∉ package.toList) :
    Plain ("package " ++ package) := by
  refine plain_lead ?_ (by decide) fun text => rfl
  rw [String.toList_append, List.mem_append, not_or]
  exact ⟨by decide, single⟩

theorem declares_header (kind : SourceKind) {name : String} {rest : List Char} {c : Char}
    (identifier : IsIdentifier name.toList) (apart : isWordChar c = false) :
    Declares ("public".toList ++ ' ' ::
      (kind.counterpart.keyword.toList ++ ' ' :: (name.toList ++ c :: rest)))
      kind.counterpart name := by
  have space : [' '] ∈ blankRun := ⟨List.cons_ne_nil _ _, allBlank_space⟩
  have isPublic : "public".toList ++ [' '] ∈ spaced ["public"] :=
    mem_spaced_iff.mpr ⟨"public", List.mem_singleton_self _, [' '], space, rfl⟩
  have isKeyword : kind.counterpart.keyword.toList ++ [' '] ∈ spaced [kind.counterpart.keyword] :=
    mem_spaced_iff.mpr ⟨_, List.mem_singleton_self _, [' '], space, rfl⟩
  have unmodified : [] ∈ modifiers :=
    Language.append_mem_mul (mem_optional_iff.mpr (.inl rfl)) (mem_optional_iff.mpr (.inl rfl))
  refine ⟨_, Language.append_mem_mul (Language.append_mem_mul
    (Language.append_mem_mul (show [] ∈ blankText from allBlank_nil) isPublic) unmodified) isKeyword,
    c :: rest, ?_, identifier, stops_cons apart rest⟩
  simp

theorem readPackage_line {package rest : List Char} (solid : package ≠ [])
    (named : ∀ c ∈ package, isPackageChar c = true) :
    readPackage ("package".toList ++ ' ' :: (package ++ '\n' :: rest)) =
      some (String.ofList package, '\n' :: rest) := by
  have stops : Stops isBlank (package ++ '\n' :: rest) := by
    obtain ⟨c, more, rfl⟩ := List.exists_cons_of_ne_nil solid
    exact stops_cons (isBlank_eq_false_of_isPackageChar (named c List.mem_cons_self)) _
  have opened := (word?_append_space stops : word? "package" _ = some _)
  have ran : run? isPackageChar (package ++ '\n' :: rest) = some (package, '\n' :: rest) :=
    run?_eq_some_iff.mpr ⟨rfl, solid, named, stops_cons (by decide) _⟩
  simp only [readPackage, opened, Option.bind_eq_bind, Option.bind_some, ran]
  rfl

/-- Lines that can stand between a package line and the header of a type. -/
def Imports (lines : List String) : Prop :=
  lines = [] ∨ ∃ line : String, '\n' ∉ line.toList ∧ lines = ["import " ++ line, ""]

/-- The lines of a file that declares one public type. -/
inductive OneType (package : String) (kind : SourceKind) (name : String) : List String → Prop
  | intro {imports members : List String} {header : String} {ending : Char} {tail : List Char}
      (imported : Imports imports)
      (spelled : header.toList = "public".toList ++ ' ' ::
        (kind.counterpart.keyword.toList ++ ' ' :: (name.toList ++ ending :: tail)))
      (single : '\n' ∉ header.toList) (ends : isNameChar ending = false)
      (apart : isWordChar ending = false) (plain : ∀ line ∈ members, Plain line) :
      OneType package kind name (["package " ++ package, ""] ++ (imports ++ header :: members))

section OneType

variable {package name : String} {kind : SourceKind} {lines : List String}

theorem package?_oneType (solid : package.toList ≠ [])
    (named : ∀ c ∈ package.toList, isPackageChar c = true) (more : List String) :
    package? (String.ofList (feedLines (("package " ++ package) :: more))) = some package := by
  have spelled : ("package " ++ package).toList = "package".toList ++ ' ' :: package.toList := by
    rw [String.toList_append]
    rfl
  have read : readPackage (trimStart (feedLines (("package " ++ package) :: more))) =
      some (package, '\n' :: feedLines more) := by
    have begun (text : List Char) : trimStart ("package".toList ++ text) = "package".toList ++ text :=
      trimStart_eq_self (stops_cons (by decide) _)
    rw [feedLines_cons, spelled, List.append_assoc, List.cons_append, begun,
      readPackage_line solid named, String.ofList_toList]
  rw [package?, String.toList_ofList]
  exact firstAtLine_head read

theorem publicTypes_oneType (identifier : IsIdentifier name.toList)
    (package_single : '\n' ∉ package.toList) (one : OneType package kind name lines) :
    publicTypes (String.ofList (feedLines lines)) = [(kind.counterpart, name)] := by
  obtain @⟨imports, members, header, ending, tail, imported, spelled, single, ends, apart, plain⟩ :=
    one
  have above : ∀ line ∈ ["package " ++ package, ""] ++ imports, Plain line := by
    rw [List.forall_mem_append, List.forall_mem_cons, List.forall_mem_singleton]
    refine ⟨⟨plain_package package_single, plain_blank⟩, ?_⟩
    rcases imported with rfl | ⟨line, line_single, rfl⟩
    · exact List.forall_mem_nil _
    · rw [List.forall_mem_cons, List.forall_mem_singleton]
      refine ⟨plain_append ?_ rfl (by decide : 'i' ≠ 'p'), plain_blank⟩
      rw [String.toList_append, List.mem_append, not_or]
      exact ⟨by decide, line_single⟩
  have declares : Declares header.toList kind.counterpart name := by
    rw [spelled]
    exact declares_header kind identifier apart
  have advances := advances_readPublicType
  rw [publicTypes, String.toList_ofList, ← List.append_assoc, feedLines_append,
    advances.allAtLines_below fun line member => (above line member).passed,
    feedLines_cons, advances.allAtLines_line declares.lineReads single,
    advances.allAtLines_eq_nil fun line member => (plain line member).passed]
  rfl

theorem declarations_oneType (identifier : IsIdentifier name.toList) (solid : package.toList ≠ [])
    (named : ∀ c ∈ package.toList, isPackageChar c = true) (one : OneType package kind name lines)
    (origin : Path) :
    declarations origin (String.ofList (feedLines lines)) =
      [⟨package, kind.counterpart, name, origin⟩] := by
  have single : '\n' ∉ package.toList := by
    intro feed
    have wrong := named _ feed
    revert wrong
    decide
  have types := publicTypes_oneType identifier single one
  have declared : package? (String.ofList (feedLines lines)) = some package := by
    cases one
    exact package?_oneType solid named _
  rw [declarations, declared, types]
  rfl

end OneType

end Target

namespace Stub

open Target

namespace Renderer

/-- The texts that go into skeletons as they are, each on one line. -/
structure OneLined (renderer : Renderer) : Prop where
  rootNamespace : '\n' ∉ renderer.rootNamespace.toList
  exceptionPackage : '\n' ∉ renderer.style.exceptionPackage.toList
  baseException : '\n' ∉ renderer.style.baseException.toList
  notImplementedException : '\n' ∉ renderer.style.notImplementedException.toList
  placeholderVariant : '\n' ∉ renderer.style.placeholderVariant.toList
  marker : '\n' ∉ renderer.marker.toList
  types : ∀ entry ∈ renderer.types.entries, '\n' ∉ entry.2.toList
  fallback : '\n' ∉ renderer.types.fallback.toList

section Lines

variable {renderer : Renderer}

theorem feed_not_mem_append {left right : String} :
    '\n' ∉ (left ++ right).toList ↔ '\n' ∉ left.toList ∧ '\n' ∉ right.toList := by
  rw [String.toList_append, List.mem_append, not_or]

theorem feed_not_mem_joinWith {separator : String} (apart : '\n' ∉ separator.toList)
    {texts : List String} (each : ∀ text ∈ texts, '\n' ∉ text.toList) :
    '\n' ∉ (joinWith separator texts).toList := by
  have clear : ∀ c ∈ (joinWith separator texts).toList, c ≠ '\n' := by
    rw [forall_mem_joinWith]
    · rintro text listed _ member rfl
      exact each text listed member
    · rintro _ member rfl
      exact apart member
  exact fun feed => clear _ feed rfl

theorem OneLined.map (oneLined : renderer.OneLined) (type : String) {typeParameters : List String}
    (each : ∀ name ∈ typeParameters, '\n' ∉ name.toList) :
    '\n' ∉ (renderer.types.map type typeParameters).toList := by
  rw [TypeTable.map]
  split
  · next known => exact each _ (by simpa using known)
  · cases found : renderer.types.entries.lookup (String.ofList (baseType type.toList)) with
    | none => exact oneLined.fallback
    | some target =>
      obtain ⟨before, after, whole, _⟩ := List.lookup_eq_some_iff.mp found
      rw [Option.getD_some]
      refine oneLined.types (String.ofList (baseType type.toList), target) ?_
      rw [whole]
      exact List.mem_append_right _ List.mem_cons_self

theorem OneLined.methodLine (oneLined : renderer.OneLined) {typeParameters : List String}
    (each : ∀ name ∈ typeParameters, '\n' ∉ name.toList) {method : Method}
    (named : '\n' ∉ method.name.toList)
    (parameters : ∀ parameter ∈ method.parameters, '\n' ∉ parameter.name.toList) :
    '\n' ∉ (renderer.methodLine typeParameters method).toList := by
  have listed : ∀ text ∈ method.parameters.map (renderer.parameterText typeParameters),
      '\n' ∉ text.toList := by
    intro text member
    obtain ⟨parameter, inside, rfl⟩ := List.mem_map.mp member
    simp only [parameterText, feed_not_mem_append]
    exact ⟨⟨parameters parameter inside, by decide⟩, oneLined.map _ each⟩
  simp only [Renderer.methodLine, feed_not_mem_append]
  exact ⟨⟨⟨⟨⟨by decide, named⟩, by decide⟩, feed_not_mem_joinWith (by decide) listed⟩, by decide⟩,
    oneLined.map _ each⟩

theorem plain_brace : Plain "\x7d" :=
  plain_of_first (by decide) rfl (by decide : '\x7d' ≠ 'p')

theorem plain_indented_brace : Plain "    \x7d" :=
  plain_of_first (by decide) rfl (by decide : '\x7d' ≠ 'p')

theorem header_eq {kind : SourceKind} {lead name rest : String} {ending : Char} {tail : List Char}
    (leads : lead.toList =
      "public".toList ++ ' ' :: (kind.counterpart.keyword.toList ++ [' ']))
    (spelled : rest.toList = ending :: tail) :
    (lead ++ name ++ rest).toList = "public".toList ++ ' ' ::
      (kind.counterpart.keyword.toList ++ ' ' :: (name.toList ++ ending :: tail)) := by
  rw [String.toList_append, String.toList_append, leads, spelled]
  simp

section Kinds

variable {package name : String}

theorem OneLined.oneType_function (oneLined : renderer.OneLined) (named : '\n' ∉ name.toList)
    {signature : Signature} (inside : Source.OneLined signature) :
    OneType package .interfaceType name
      (["package " ++ package, ""] ++ renderer.functionLines name signature) := by
  have members : ∀ line ∈ (signature.method.map
      (renderer.methodLine signature.typeParameters)).toList ++ ["\x7d"], Plain line := by
    intro line member
    rcases List.mem_append.mp member with member | member
    · obtain ⟨method, held, rfl⟩ := Option.map_eq_some_iff.mp (Option.mem_toList.mp member)
      have single := oneLined.methodLine inside.typeParameters (inside.name method held)
        (inside.parameters method held)
      rw [Renderer.methodLine] at single ⊢
      simp only [String.append_assoc] at single ⊢
      exact plain_append single rfl (by decide : 'f' ≠ 'p')
    · rw [List.mem_singleton.mp member]
      exact plain_brace
  have header : "public interface " ++ name ++ genericsText signature.typeParameters ++ " \x7b" =
      "public interface " ++ name ++ (genericsText signature.typeParameters ++ " \x7b") :=
    String.append_assoc
  rw [functionLines, List.append_assoc, List.singleton_append, header]
  by_cases none : signature.typeParameters.isEmpty = true
  · have generics : genericsText signature.typeParameters ++ " \x7b" = " \x7b" := by
      simp [genericsText, none]
    rw [generics]
    refine .intro (.inl rfl) (header_eq rfl rfl) ?_ ends_space.1 ends_space.2 members
    rw [feed_not_mem_append, feed_not_mem_append]
    exact ⟨⟨by decide, named⟩, by decide⟩
  · have generics : genericsText signature.typeParameters ++ " \x7b" =
        "<" ++ (joinWith ", " signature.typeParameters ++ "> \x7b") := by
      rw [genericsText, if_neg none, String.append_assoc, String.append_assoc]
      rfl
    have begun : ("<" ++ (joinWith ", " signature.typeParameters ++ "> \x7b")).toList =
        '<' :: (joinWith ", " signature.typeParameters ++ "> \x7b").toList := by
      rw [String.toList_append]
      rfl
    rw [generics]
    refine .intro (.inl rfl) (header_eq rfl begun) ?_ ends_bracket.1 ends_bracket.2 members
    simp only [feed_not_mem_append]
    exact ⟨⟨by decide, named⟩, by decide,
      feed_not_mem_joinWith (by decide) inside.typeParameters, by decide⟩

theorem oneType_marker (named : '\n' ∉ name.toList) :
    OneType package .interfaceType name (["package " ++ package, ""] ++ markerLines name) := by
  refine .intro (.inl rfl) (header_eq rfl rfl) ?_ ends_space.1 ends_space.2 ?_
  · rw [feed_not_mem_append, feed_not_mem_append]
    exact ⟨⟨by decide, named⟩, by decide⟩
  · rw [List.forall_mem_singleton]
    exact plain_brace

theorem OneLined.oneType_enum (oneLined : renderer.OneLined) (named : '\n' ∉ name.toList) :
    OneType package .enumType name
      (["package " ++ package, ""] ++ renderer.enumLines name) := by
  refine .intro (.inl rfl) (header_eq rfl rfl) ?_ ends_space.1 ends_space.2 ?_
  · rw [feed_not_mem_append, feed_not_mem_append]
    exact ⟨⟨by decide, named⟩, by decide⟩
  · rw [List.forall_mem_cons, List.forall_mem_singleton]
    refine ⟨plain_append ?_ rfl (by decide : '|' ≠ 'p'), plain_brace⟩
    rw [feed_not_mem_append]
    exact ⟨by decide, oneLined.placeholderVariant⟩

theorem OneLined.oneType_exception (oneLined : renderer.OneLined) (named : '\n' ∉ name.toList)
    {imports : List String} (imported : Imports imports) :
    OneType package .classType name
      (["package " ++ package, ""] ++ (imports ++ renderer.exceptionLines name)) := by
  have header : "public class " ++ name ++ " <: " ++ renderer.style.baseException ++ " \x7b" =
      "public class " ++ name ++ (" <: " ++ (renderer.style.baseException ++ " \x7b")) := by
    simp only [String.append_assoc]
  rw [exceptionLines, header]
  have begun : (" <: " ++ (renderer.style.baseException ++ " \x7b")).toList =
      ' ' :: ("<: ".toList ++ (renderer.style.baseException ++ " \x7b").toList) := by
    rw [String.toList_append]
    rfl
  refine .intro imported (header_eq rfl begun) ?_ ends_space.1 ends_space.2 ?_
  · simp only [feed_not_mem_append]
    exact ⟨⟨by decide, named⟩, by decide, oneLined.baseException, by decide⟩
  · have calls : Plain "        super(message)" :=
      plain_of_first (by decide) rfl (by decide : 's' ≠ 'p')
    have builds : Plain "    public init(message: String) \x7b" :=
      plain_constructor "message: String) \x7b" (by decide)
    simp only [List.forall_mem_cons, List.not_mem_nil, false_imp_iff, implies_true, and_true]
    exact ⟨builds, calls, plain_indented_brace, plain_brace⟩

theorem OneLined.oneType_class (oneLined : renderer.OneLined) (named : '\n' ∉ name.toList)
    {imports : List String} (imported : Imports imports) :
    OneType package .classType name
      (["package " ++ package, ""] ++ (imports ++ renderer.classLines name)) := by
  refine .intro imported (header_eq rfl rfl) ?_ ends_space.1 ends_space.2 ?_
  · rw [feed_not_mem_append, feed_not_mem_append]
    exact ⟨⟨by decide, named⟩, by decide⟩
  · have builds : Plain "    public init() \x7b" := plain_constructor ") \x7b" (by decide)
    simp only [String.append_assoc, List.forall_mem_cons, List.not_mem_nil, false_imp_iff,
      implies_true, and_true]
    refine ⟨builds, plain_append ?_ rfl (by decide : 't' ≠ 'p'), plain_indented_brace, plain_brace⟩
    simp only [feed_not_mem_append]
    exact ⟨by decide, oneLined.notImplementedException, by decide, named, by decide,
      oneLined.marker, by decide⟩

theorem OneLined.imports (oneLined : renderer.OneLined) (package : String) :
    Imports (renderer.importLines package) := by
  unfold importLines
  simp only
  split
  · exact .inl rfl
  · refine .inr ⟨renderer.rootNamespace ++ "." ++ renderer.style.exceptionPackage ++ ".*", ?_, ?_⟩
    · simp only [feed_not_mem_append]
      exact ⟨⟨⟨oneLined.rootNamespace, by decide⟩, oneLined.exceptionPackage⟩, by decide⟩
    · simp only [String.append_assoc]

end Kinds

theorem OneLined.oneType (oneLined : renderer.OneLined) {declaration : SourceDeclaration}
    (identifier : IsIdentifier declaration.name.toList)
    (inside : Source.OneLined (declaration.signature.getD {})) (package : String) :
    OneType package declaration.kind declaration.name
      (["package " ++ package, ""] ++ renderer.bodyLines declaration package) := by
  have named := Source.feed_not_mem_of_isIdentifier identifier
  unfold bodyLines
  cases declaration.kind with
  | interfaceType =>
    dsimp only
    split
    · exact oneLined.oneType_function named inside
    · exact oneType_marker named
  | enumType => exact oneLined.oneType_enum named
  | classType =>
    dsimp only
    split
    · exact oneLined.oneType_exception named (oneLined.imports package)
    · exact oneLined.oneType_class named (oneLined.imports package)

theorem render_eq_feedLines (renderer : Renderer) (declaration : SourceDeclaration)
    (package : String) :
    renderer.render declaration package = String.ofList
      (feedLines (["package " ++ package, ""] ++ renderer.bodyLines declaration package)) := by
  rw [render, List.cons_append, ← toList_joinWith_feed, String.ofList_toList]

/-- A skeleton is read back as the one declaration that it was rendered for, whatever single-line
texts the signature, the style, the types and the marker bring into it. -/
theorem skeleton_reads_back (oneLined : renderer.OneLined) {declaration : SourceDeclaration}
    (identifier : IsIdentifier declaration.name.toList)
    (inside : ∀ signature ∈ declaration.signature, Source.OneLined signature) {package : String}
    (solid : package.toList ≠ []) (named : ∀ c ∈ package.toList, isPackageChar c = true)
    (origin : Path) :
    declarations origin (renderer.render declaration package) =
      [⟨package, declaration.kind.counterpart, declaration.name, origin⟩] := by
  have present : Source.OneLined (declaration.signature.getD {}) := by
    cases signed : declaration.signature with
    | none => exact ⟨by simp, by simp, by simp⟩
    | some signature => exact inside signature signed
  rw [render_eq_feedLines]
  apply declarations_oneType identifier solid named
  exact oneLined.oneType identifier present package

/-- The type parameters and the marker of this interface spell headers of other types. -/
theorem skeleton_reads_back_misleading_texts :
    let renderer : Renderer := { rootNamespace := "r", marker := "public class Lost" }
    let signature : Signature :=
      { typeParameters := ["T", "public enum U"],
        method := some ⟨"apply", "T", [⟨"package p", "T"⟩, ⟨"b", "U[]"⟩]⟩ }
    let declaration : SourceDeclaration :=
      { package := "p", kind := .interfaceType, name := "Op_2", group := "", origin := ⟨"Op.java"⟩,
        signature := some signature }
    renderer.OneLined ∧ Source.OneLined signature ∧
      declarations ⟨"op.cj"⟩ (renderer.render declaration "r.function") =
        [⟨"r.function", .interfaceType, "Op_2", ⟨"op.cj"⟩⟩] := by
  intro renderer signature declaration
  have oneLined : renderer.OneLined :=
    ⟨by decide, by decide, by decide, by decide, by decide, by decide, by decide +kernel, by decide⟩
  have inside : Source.OneLined signature := ⟨by decide, by decide, by decide⟩
  refine ⟨oneLined, inside, ?_⟩
  apply skeleton_reads_back oneLined
  · decide
  · intro held member
    cases member
    exact inside
  · decide
  · decide

end Lines

end Renderer

end Stub

end ApiMigration
