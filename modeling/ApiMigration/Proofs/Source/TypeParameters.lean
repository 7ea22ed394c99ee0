import ApiMigration.Proofs.Source.Items
import ApiMigration.Proofs.Text.Joined
import ApiMigration.Proofs.Text.Lines
import ApiMigration.Proofs.Text.Reader

/-!
The type parameters of an interface header. The text between the brackets is read up to the first
closing bracket, so the parameters after the first one with a generic bound are lost.
-/

namespace ApiMigration

open Text

structure Identifier where
  text : String
  spelled : IsIdentifier text.toList

namespace Source

inductive TypeExpression where
  | applied (name : Identifier) (arguments : List TypeExpression)

namespace TypeExpression

mutual

def text : TypeExpression → String
  | .applied name arguments =>
    if arguments.isEmpty then name.text
    else name.text ++ "<" ++ joinWith ", " (texts arguments) ++ ">"

def texts : List TypeExpression → List String
  | [] => []
  | first :: more => first.text :: texts more

end

def isGeneric : TypeExpression → Bool
  | .applied _ arguments => !arguments.isEmpty

end TypeExpression

structure TypeParameter where
  name : Identifier
  plain : contains "extends".toList name.text.toList = false
  bounds : List TypeExpression

namespace TypeParameter

def text (parameter : TypeParameter) : String :=
  parameter.name.text ++
    if parameter.bounds.isEmpty then ""
    else " extends " ++ joinWith " & " (parameter.bounds.map TypeExpression.text)

def isGeneric (parameter : TypeParameter) : Bool :=
  parameter.bounds.any TypeExpression.isGeneric

end TypeParameter

def interfaceHeader (name : Identifier) (parameters : List TypeParameter) : String :=
  "public interface " ++ name.text ++ "<" ++ joinWith ", " (parameters.map TypeParameter.text)
    ++ "> \x7b"

/-- The parameters up to the first one with a generic bound. -/
def throughGeneric : List TypeParameter → List TypeParameter
  | [] => []
  | parameter :: more =>
    if parameter.isGeneric then [parameter] else parameter :: throughGeneric more

section Brackets

theorem Closes.closing_mem {depth : Nat} {text : List Char} (closed : Closes depth text)
    (inside : depth ≠ 0) : '>' ∈ text := by
  induction closed with
  | done => exact absurd rfl inside
  | opening _ ih => exact List.mem_cons_of_mem _ (ih (Nat.succ_ne_zero _))
  | closing => exact List.mem_cons_self
  | other _ _ _ _ ih => exact List.mem_cons_of_mem _ (ih inside)

theorem Closes.opening_mem_takeWhile {depth : Nat} {text : List Char} (closed : Closes depth text)
    (outside : depth = 0) (closing : '>' ∈ text) : '<' ∈ text.takeWhile (· != '>') := by
  induction closed with
  | done => cases closing
  | opening => simp
  | closing => cases outside
  | other notOpening notClosing _ _ ih =>
    have further := (List.mem_cons.mp closing).resolve_left (Ne.symm notClosing)
    rw [List.takeWhile_cons_of_pos (by simp [notClosing])]
    exact List.mem_cons_of_mem _ (ih outside further)

theorem Closes.closing_mem_of_opening {depth : Nat} {text : List Char}
    (closed : Closes depth text) (opening : '<' ∈ text) : '>' ∈ text := by
  induction closed with
  | done => cases opening
  | opening rest => exact List.mem_cons_of_mem _ (rest.closing_mem (Nat.succ_ne_zero _))
  | closing => exact List.mem_cons_self
  | other notOpening _ _ _ ih =>
    have further := (List.mem_cons.mp opening).resolve_left (Ne.symm notOpening)
    exact List.mem_cons_of_mem _ (ih further)

theorem Closes.cutAtCommas_takeWhile {depth : Nat} {text : List Char} (closed : Closes depth text) :
    cutAtCommas depth (text.takeWhile (· != '>')) = [text.takeWhile (· != '>')] := by
  induction closed with
  | done => rfl
  | opening _ ih =>
    rw [List.takeWhile_cons_of_pos (by decide), cutAtCommas_cons (by simp)]
    exact congrArg (consToFirst '<') ih
  | closing => rfl
  | @other depth c text notOpening notClosing nested _ ih =>
    have after : depthAfter depth c = depth := by simp [depthAfter, notOpening, notClosing]
    rw [List.takeWhile_cons_of_pos (by simp [notClosing]), cutAtCommas_cons nested, after]
    exact congrArg (consToFirst c) ih

/-- What is left of some items when their list is cut at the first closing bracket. -/
def upToClosing : List (List Char) → List (List Char)
  | [] => []
  | item :: more =>
    if '<' ∈ item then [item.takeWhile (· != '>')] else item :: upToClosing more

theorem trim_ne_nil_of_mem {text : List Char} {c : Char} (member : c ∈ text)
    (solid : isBlank c = false) : trim text ≠ [] := by
  intro empty
  obtain ⟨left, right, before, after, whole⟩ := exists_trim_split text
  rw [empty, List.append_nil] at whole
  rw [whole] at member
  have blank := before.append after c member
  rw [solid] at blank
  cases blank

theorem splitTopLevel_upToClosing {items : List (List Char)} (each : ∀ item ∈ items, IsItem item) :
    splitTopLevel ((List.intercalate [',', ' '] items).takeWhile (· != '>')) =
      (upToClosing items).map trim := by
  induction items with
  | nil => decide
  | cons item more ih =>
    have isItem := each item List.mem_cons_self
    have rest := ih fun other member => each other (List.mem_cons_of_mem _ member)
    by_cases opening : '<' ∈ item
    · have closing := isItem.closed.closing_mem_of_opening opening
      have cut : (List.intercalate [',', ' '] (item :: more)).takeWhile (· != '>') =
          item.takeWhile (· != '>') := by
        cases more with
        | nil => rw [List.intercalate_singleton]
        | cons next more =>
          rw [List.intercalate_cons_cons, List.append_assoc,
            (takeWhile_front ⟨'>', closing, by decide⟩ _).1]
      have kept := isItem.closed.opening_mem_takeWhile rfl closing
      have solid := trim_ne_nil_of_mem kept (by decide)
      rw [cut, splitTopLevel, isItem.closed.cutAtCommas_takeWhile, upToClosing, if_pos opening]
      simp [solid]
    · have unclosed : ∀ c ∈ item, (c != '>') = true := by
        intro c member
        rw [bne_iff_ne]
        intro same
        have kept := isItem.closed.opening_mem_takeWhile rfl (same ▸ member)
        exact opening ((List.takeWhile_sublist _).mem kept)
      rw [upToClosing, if_neg opening, List.map_cons, ← rest]
      cases more with
      | nil =>
        rw [List.intercalate_singleton, List.takeWhile_eq_self_iff.mpr unclosed,
          isItem.splitTopLevel_last]
        rfl
      | cons next more =>
        rw [List.intercalate_cons_cons, List.append_assoc, List.takeWhile_append_of_pos unclosed]
        exact (isItem.splitTopLevel_comma _).trans
          (congrArg (trim item :: ·) (splitTopLevel_space _))

end Brackets

section Texts

theorem Closes.joined {items : List (List Char)} (each : ∀ item ∈ items, Closes 0 item)
    {outer : Nat} (inside : outer ≠ 0) {right : List Char} (rest : Closes outer right) :
    Closes outer (List.intercalate [',', ' '] items ++ right) := by
  induction items with
  | nil => exact rest
  | cons item more ih =>
    have first := each item List.mem_cons_self
    have later := ih fun other member => each other (List.mem_cons_of_mem _ member)
    cases more with
    | nil =>
      rw [List.intercalate_singleton]
      exact first.append rest
    | cons next more =>
      rw [List.intercalate_cons_cons, List.append_assoc, List.append_assoc]
      apply first.append
      apply Closes.other (by decide) (by decide) (fun _ => inside)
      exact .other (by decide) (by decide) (fun comma => absurd comma (by decide)) later

theorem Closes.separated {separator : List Char} (apart : Closes 0 separator)
    {items : List (List Char)} (each : ∀ item ∈ items, Closes 0 item) :
    Closes 0 (List.intercalate separator items) := by
  induction items with
  | nil => exact .done
  | cons item more ih =>
    have first := each item List.mem_cons_self
    have later := ih fun other member => each other (List.mem_cons_of_mem _ member)
    cases more with
    | nil =>
      rw [List.intercalate_singleton]
      exact first
    | cons next more =>
      rw [List.intercalate_cons_cons]
      exact (first.append apart).append later

theorem closes_identifier {name : List Char} (identifier : IsIdentifier name) : Closes 0 name := by
  apply Closes.of_plain
  intro c member
  have apart {d : Char} (refused : isNameChar d = false) : c ≠ d :=
    ne_of_mem_of_not_mem member (not_mem_of_refused identifier.isNameChar refused)
  exact ⟨apart (by decide), apart (by decide), apart (by decide)⟩

theorem trim_identifier_append_ne_nil {name : List Char} (identifier : IsIdentifier name)
    (tail : List Char) : trim (name ++ tail) ≠ [] := by
  obtain ⟨first, more, rfl, start, _⟩ := identifier
  apply trim_ne_nil_of_mem (by simp : first ∈ first :: more ++ tail)
  exact isBlank_eq_false_of_isNameChar (isNameChar_of_isNameStart start)

theorem opening_not_mem_identifier {name : List Char} (identifier : IsIdentifier name) :
    '<' ∉ name :=
  not_mem_of_refused identifier.isNameChar (by decide)

def isHeaderChar (c : Char) : Bool :=
  isNameChar c || "<>, &".toList.contains c

namespace TypeExpression

mutual

theorem closes_text : ∀ type : TypeExpression, Closes 0 type.text.toList
  | .applied name arguments => by
    have inside := closes_texts arguments
    rw [text]
    split
    · exact closes_identifier name.spelled
    · rw [String.toList_append, String.toList_append, String.toList_append, toList_joinWith,
        List.append_assoc, List.append_assoc]
      apply (closes_identifier name.spelled).append
      apply Closes.opening
      apply Closes.joined _ (Nat.succ_ne_zero 0) (.closing .done)
      intro item member
      obtain ⟨argument, listed, rfl⟩ := List.mem_map.mp member
      exact inside argument listed

theorem closes_texts : ∀ types : List TypeExpression, ∀ text ∈ texts types, Closes 0 text.toList
  | [], text, member => by cases member
  | first :: more, text, member => by
    rcases List.mem_cons.mp member with same | member
    · rw [same]
      exact closes_text first
    · exact closes_texts more text member

end

mutual

theorem isHeaderChar_text : ∀ type : TypeExpression, ∀ c ∈ type.text.toList, isHeaderChar c = true
  | .applied name arguments => by
    have inside := isHeaderChar_texts arguments
    have named : ∀ c ∈ name.text.toList, isHeaderChar c = true := by
      intro c member
      rw [isHeaderChar, name.spelled.isNameChar c member, Bool.true_or]
    rw [text]
    split
    · exact named
    · simp only [String.toList_append, List.forall_mem_append]
      refine ⟨⟨⟨named, by decide⟩, ?_⟩, by decide⟩
      rw [forall_mem_joinWith (by decide)]
      exact inside

theorem isHeaderChar_texts : ∀ types : List TypeExpression, ∀ text ∈ texts types,
    ∀ c ∈ text.toList, isHeaderChar c = true
  | [], text, member => by cases member
  | first :: more, text, member => by
    rcases List.mem_cons.mp member with same | member
    · rw [same]
      exact isHeaderChar_text first
    · exact isHeaderChar_texts more text member

end

theorem opening_not_mem_text_iff (type : TypeExpression) :
    '<' ∉ type.text.toList ↔ type.isGeneric = false := by
  obtain ⟨name, arguments⟩ := type
  rw [text, isGeneric]
  split
  · next empty => simp [opening_not_mem_identifier name.spelled, empty]
  · next further => simp [further]

end TypeExpression

theorem upTo_eq_self {mark text : List Char} (absent : contains mark text = false) :
    upTo mark text = text := by
  induction text with
  | nil => rfl
  | cons c text ih =>
    rw [contains, Bool.or_eq_false_iff] at absent
    rw [upTo, if_neg (by simp [absent.1]), ih absent.2]

theorem typeParameter?_trim (part : List Char) :
    typeParameter? (trim part) = typeParameter? part := by
  unfold typeParameter?
  rw [words_trim]

theorem typeParameter?_append {name tail : List Char} (identifier : IsIdentifier name)
    (plain : contains "extends".toList name = false)
    (ends : tail = [] ∨ ∃ more, tail = ' ' :: more) :
    typeParameter? (name ++ tail) = some (String.ofList name) := by
  have solid : ∀ c ∈ name, isBlank c = false := fun c member =>
    isBlank_eq_false_of_isNameChar (identifier.isNameChar c member)
  have word : words name = [name] := words_of_isWord ⟨identifier.ne_nil, solid⟩
  have begun : ∃ more, words (name ++ tail) = name :: more := by
    rcases ends with empty | ⟨more, spaced⟩
    · rw [empty, List.append_nil]
      exact ⟨[], word⟩
    · rw [spaced, words_append_blank (by decide), word]
      exact ⟨words more, rfl⟩
  have trimmed : trim name = name := trim_eq_self (stops_of_solid solid).1 (stops_of_solid solid).2
  have unjoined : contains "&".toList name = false := by
    rw [Bool.eq_false_iff]
    intro joined
    have inside := contains_iff_isInfix.mp joined
    exact not_mem_of_refused identifier.isNameChar (by decide : isNameChar '&' = false)
      (inside.subset (by decide))
  obtain ⟨more, spelled⟩ := begun
  simp only [typeParameter?, spelled, upTo_eq_self plain, upTo_eq_self unjoined,
    trimmed, List.isEmpty_iff, identifier.ne_nil, if_false]

namespace TypeParameter

variable (parameter : TypeParameter)

theorem exists_text_eq : ∃ tail, parameter.text.toList = parameter.name.text.toList ++ tail ∧
    (tail = [] ∨ ∃ more, tail = ' ' :: more) := by
  refine ⟨_, String.toList_append, ?_⟩
  split
  · exact .inl rfl
  · rw [String.toList_append]
    exact .inr ⟨_, rfl⟩

theorem closes_text : Closes 0 parameter.text.toList := by
  rw [text, String.toList_append]
  apply (closes_identifier parameter.name.spelled).append
  split
  · exact .done
  · rw [String.toList_append, toList_joinWith]
    have lead : Closes 0 " extends ".toList := by decide
    apply lead.append
    apply Closes.separated (by decide : Closes 0 " & ".toList)
    intro item member
    obtain ⟨bound, listed, rfl⟩ := List.mem_map.mp member
    obtain ⟨type, _, rfl⟩ := List.mem_map.mp listed
    exact type.closes_text

theorem isItem_text : IsItem parameter.text.toList where
  closed := parameter.closes_text
  solid := by
    obtain ⟨tail, spelled, _⟩ := parameter.exists_text_eq
    rw [spelled]
    exact trim_identifier_append_ne_nil parameter.name.spelled tail

theorem isHeaderChar_text : ∀ c ∈ parameter.text.toList, isHeaderChar c = true := by
  have named : ∀ c ∈ parameter.name.text.toList, isHeaderChar c = true := by
    intro c member
    rw [isHeaderChar, parameter.name.spelled.isNameChar c member, Bool.true_or]
  rw [text, String.toList_append, List.forall_mem_append]
  refine ⟨named, ?_⟩
  split
  · decide
  · rw [String.toList_append, List.forall_mem_append, forall_mem_joinWith (by decide)]
    refine ⟨by decide, ?_⟩
    intro bound listed
    obtain ⟨type, _, rfl⟩ := List.mem_map.mp listed
    exact type.isHeaderChar_text

theorem opening_not_mem_text_iff :
    '<' ∉ parameter.text.toList ↔ parameter.isGeneric = false := by
  have apart : ∀ c ∈ " & ".toList, c ≠ '<' := by decide
  have bounded := forall_mem_joinWith apart (parameter.bounds.map TypeExpression.text)
  simp only [List.forall_mem_map, ne_eq, List.forall_mem_ne',
    TypeExpression.opening_not_mem_text_iff] at bounded
  rw [text, String.toList_append, List.mem_append, not_or, isGeneric, List.any_eq_false]
  split
  · next empty =>
    simp [opening_not_mem_identifier parameter.name.spelled, List.isEmpty_iff.mp empty]
  · rw [String.toList_append, List.mem_append, not_or, bounded]
    simp [opening_not_mem_identifier parameter.name.spelled]

theorem typeParameter?_text : typeParameter? parameter.text.toList = some parameter.name.text := by
  obtain ⟨tail, spelled, ends⟩ := parameter.exists_text_eq
  rw [spelled, typeParameter?_append parameter.name.spelled parameter.plain ends,
    String.ofList_toList]

theorem typeParameter?_takeWhile :
    typeParameter? (parameter.text.toList.takeWhile (· != '>')) = some parameter.name.text := by
  obtain ⟨tail, spelled, ends⟩ := parameter.exists_text_eq
  have named : ∀ c ∈ parameter.name.text.toList, (c != '>') = true := by
    intro c member
    rw [bne_iff_ne]
    exact ne_of_mem_of_not_mem member
      (not_mem_of_refused parameter.name.spelled.isNameChar (by decide))
  have kept : tail.takeWhile (· != '>') = [] ∨ ∃ more, tail.takeWhile (· != '>') = ' ' :: more := by
    rcases ends with empty | ⟨more, spaced⟩
    · exact .inl (by rw [empty, List.takeWhile_nil])
    · exact .inr ⟨_, by rw [spaced, List.takeWhile_cons_of_pos (by decide)]⟩
  rw [spelled, List.takeWhile_append_of_pos named,
    typeParameter?_append parameter.name.spelled parameter.plain kept, String.ofList_toList]

end TypeParameter

theorem filterMap_upToClosing (parameters : List TypeParameter) :
    ((upToClosing (parameters.map fun parameter => parameter.text.toList)).map trim).filterMap
        typeParameter? =
      (throughGeneric parameters).map fun parameter => parameter.name.text := by
  induction parameters with
  | nil => rfl
  | cons parameter more ih =>
    rw [List.map_cons, upToClosing, throughGeneric]
    by_cases generic : parameter.isGeneric = true
    · have opening : '<' ∈ parameter.text.toList := by
        by_contra absent
        rw [parameter.opening_not_mem_text_iff, generic] at absent
        cases absent
      rw [if_pos opening, if_pos generic]
      simp [typeParameter?_trim, parameter.typeParameter?_takeWhile]
    · have absent := parameter.opening_not_mem_text_iff.mpr (Bool.eq_false_iff.mpr generic)
      rw [if_neg absent, if_neg generic, List.map_cons, List.map_cons, List.filterMap_cons_some
        ((typeParameter?_trim _).trans parameter.typeParameter?_text), ih]

theorem length_throughGeneric_eq_iff (parameters : List TypeParameter) :
    (throughGeneric parameters).length = parameters.length ↔
      ∀ parameter ∈ parameters.dropLast, parameter.isGeneric = false := by
  induction parameters with
  | nil => simp [throughGeneric]
  | cons parameter more ih =>
    rw [throughGeneric]
    cases more with
    | nil => by_cases generic : parameter.isGeneric = true <;> simp [generic, throughGeneric]
    | cons next more =>
      by_cases generic : parameter.isGeneric = true
      · simp [generic]
      · rw [if_neg generic, List.length_cons, List.length_cons, Nat.add_right_cancel_iff, ih,
          List.dropLast_cons_cons, List.forall_mem_cons]
        simp [generic]

theorem throughGeneric_isPrefix (parameters : List TypeParameter) :
    throughGeneric parameters <+: parameters := by
  induction parameters with
  | nil => exact List.prefix_rfl
  | cons parameter more ih =>
    rw [throughGeneric]
    split
    · exact ⟨more, rfl⟩
    · exact List.cons_prefix_cons.mpr ⟨rfl, ih⟩

end Texts

section Headers

theorem takeWhile_angle {inside : List Char} (unbraced : ∀ c ∈ inside, isHeaderChar c = true)
    (rest : List Char) :
    let within (c : Char) : Bool := c != '>' && c != '\x7b' && c != '\x7d'
    (inside ++ '>' :: rest).takeWhile within = inside.takeWhile (· != '>') ∧
      ∃ after, (inside ++ '>' :: rest).dropWhile within = '>' :: after := by
  intro within
  induction inside with
  | nil => exact ⟨rfl, rest, rfl⟩
  | cons c inside ih =>
    have later := ih fun d member => unbraced d (List.mem_cons_of_mem c member)
    by_cases closing : c = '>'
    · rw [closing]
      exact ⟨rfl, inside ++ '>' :: rest, rfl⟩
    · have apart {d : Char} (refused : isHeaderChar d = false) : c ≠ d :=
        ne_of_mem_of_not_mem List.mem_cons_self (not_mem_of_refused unbraced refused)
      have notOpen : c ≠ '\x7b' := apart (by decide)
      have notClose : c ≠ '\x7d' := apart (by decide)
      have kept : within c = true := by simp [within, closing, notOpen, notClose]
      rw [List.cons_append, List.takeWhile_cons_of_pos kept, List.dropWhile_cons_of_pos kept,
        List.takeWhile_cons_of_pos (by simp [closing]), later.1]
      exact ⟨rfl, later.2⟩

theorem readInterface_header {name inside : List Char} (identifier : IsIdentifier name)
    (unbraced : ∀ c ∈ inside, isHeaderChar c = true) (rest : List Char) :
    ∃ after, readInterface ("public".toList ++ ' ' :: ("interface".toList ++ ' ' ::
        (name ++ '<' :: (inside ++ '>' :: rest)))) =
      some ((String.ofList name, some (String.ofList (inside.takeWhile (· != '>')))), after) := by
  obtain ⟨captured, after, remains⟩ := takeWhile_angle unbraced rest
  refine ⟨after, ?_⟩
  have opened : word? "public" ("public".toList ++ ' ' :: ("interface".toList ++ ' ' ::
      (name ++ '<' :: (inside ++ '>' :: rest)))) = some ("interface".toList ++ ' ' ::
        (name ++ '<' :: (inside ++ '>' :: rest))) :=
    word?_append_space (stops_cons (by decide) _)
  have typed : word? "interface" ("interface".toList ++ ' ' ::
      (name ++ '<' :: (inside ++ '>' :: rest))) = some (name ++ '<' :: (inside ++ '>' :: rest)) :=
    word?_append_space (stops_of_isIdentifier identifier)
  have named : identifier? (name ++ '<' :: (inside ++ '>' :: rest)) =
      some (name, '<' :: (inside ++ '>' :: rest)) :=
    identifier?_append identifier (stops_cons (by decide) _)
  have bracketed : readBracketed ('<' :: (inside ++ '>' :: rest)) =
      some (String.ofList (inside.takeWhile (· != '>')), after) := by
    have begun : trimStart ('<' :: (inside ++ '>' :: rest)) = '<' :: (inside ++ '>' :: rest) :=
      trimStart_eq_self (stops_cons (by decide) _)
    have bracket : literal? "<" ('<' :: (inside ++ '>' :: rest)) = some (inside ++ '>' :: rest) :=
      literal?_eq_some_iff.mpr rfl
    have closed : literal? ">" ('>' :: after) = some after := literal?_eq_some_iff.mpr rfl
    simp only [readBracketed, begun, bracket, Option.bind_eq_bind, Option.bind_some, remains,
      closed, captured, Option.pure_def]
  simp only [readInterface, opened, typed, named, bracketed, Option.bind_eq_bind, Option.bind_some,
    Option.pure_def]

theorem readInterface_eq_none {head : List Char} (absent : ¬"public".toList <+: head) :
    readInterface head = none := by
  rw [readInterface, word?_eq_none absent, Option.bind_eq_bind, Option.bind_none]

def parameterList (parameters : List TypeParameter) : List Char :=
  List.intercalate [',', ' '] (parameters.map fun parameter => parameter.text.toList)

theorem toList_joinWith_text (parameters : List TypeParameter) :
    (joinWith ", " (parameters.map TypeParameter.text)).toList = parameterList parameters := by
  rw [toList_joinWith, List.map_map]
  rfl

theorem toList_interfaceHeader (name : Identifier) (parameters : List TypeParameter) :
    (interfaceHeader name parameters).toList =
      "public".toList ++ ' ' :: ("interface".toList ++ ' ' :: (name.text.toList ++ '<' ::
        (parameterList parameters ++ '>' :: " \x7b".toList))) := by
  have lead : "public interface ".toList =
      "public".toList ++ ' ' :: ("interface".toList ++ [' ']) := by decide
  have opening : "<".toList = ['<'] := by decide
  have closing : "> \x7b".toList = '>' :: " \x7b".toList := by decide
  unfold interfaceHeader
  simp only [String.toList_append, lead, opening, closing, toList_joinWith_text, List.append_assoc,
    List.cons_append, List.nil_append]

theorem isHeaderChar_parameterList (parameters : List TypeParameter) :
    ∀ c ∈ parameterList parameters, isHeaderChar c = true := by
  have apart : ∀ c ∈ ", ".toList, isHeaderChar c = true := by decide
  rw [← toList_joinWith_text, forall_mem_joinWith apart, List.forall_mem_map]
  intro parameter _
  exact parameter.isHeaderChar_text

/-- Lines above an interface header that cannot be taken for one. -/
def Unpublished (above : List String) : Prop :=
  ∀ line ∈ above, '\n' ∉ line.toList ∧ ¬"public".toList <+: trimStart line.toList

/-- Of a declared list of type parameters those are captured that stand before the first closing
bracket. All of them are if and only if no parameter but the last has a generic bound. -/
theorem captured_typeParameters_iff {above : List String} (unpublished : Unpublished above)
    (name : Identifier) (parameters : List TypeParameter) (rest : String) :
    let text := String.ofList (feedLines above) ++ interfaceHeader name parameters ++ rest
    (signature text).typeParameters =
        (throughGeneric parameters).map (fun parameter => parameter.name.text) ∧
      ((signature text).typeParameters = parameters.map (fun parameter => parameter.name.text) ↔
        ∀ parameter ∈ parameters.dropLast, parameter.isGeneric = false) := by
  intro text
  let inside := parameterList parameters
  have read : interface? text =
      some (name.text, some (String.ofList (inside.takeWhile (· != '>')))) := by
    obtain ⟨after, found⟩ := readInterface_header name.spelled
      (isHeaderChar_parameterList parameters) (" \x7b".toList ++ rest.toList)
    have begun (more : List Char) : trimStart ("public".toList ++ more) = "public".toList ++ more :=
      trimStart_eq_self (stops_cons (by decide) _)
    rw [← begun, String.ofList_toList] at found
    rw [interface?, String.toList_append, String.toList_append, String.toList_ofList,
      toList_interfaceHeader, List.append_assoc,
      firstAtLine_below (by decide) (fun _ => readInterface_eq_none) unpublished]
    simp only [List.append_assoc, List.cons_append]
    exact firstAtLine_head found
  have each : ∀ item ∈ parameters.map (fun parameter => parameter.text.toList), IsItem item := by
    rw [List.forall_mem_map]
    intro parameter _
    exact parameter.isItem_text
  have captured : (signature text).typeParameters =
      (throughGeneric parameters).map (fun parameter => parameter.name.text) := by
    rw [← filterMap_upToClosing, ← splitTopLevel_upToClosing each]
    simp only [signature, read, Option.bind_some, Option.elim_some, typeParameters,
      String.toList_ofList]
    rfl
  refine ⟨captured, ?_⟩
  rw [captured, ← length_throughGeneric_eq_iff]
  constructor
  · intro same
    simpa using congrArg List.length same
  · intro whole
    rw [(throughGeneric_isPrefix parameters).eq_of_length whole]

theorem captured_typeParameters_nested_last :
    let key : TypeExpression := .applied ⟨"K", by decide⟩ []
    let map : TypeExpression := .applied ⟨"Map", by decide⟩ [key, .applied ⟨"List", by decide⟩ [key]]
    let parameters : List TypeParameter :=
      [⟨⟨"K", by decide⟩, by decide, [.applied ⟨"Base", by decide⟩ []]⟩,
        ⟨⟨"M", by decide⟩, by decide, [map, .applied ⟨"Closeable", by decide⟩ []]⟩]
    let above := ["package p;", "", " @FunctionalInterface"]
    let text := String.ofList (feedLines above) ++ interfaceHeader ⟨"F", by decide⟩ parameters ++ "\n"
    Unpublished above ∧
      interfaceHeader ⟨"F", by decide⟩ parameters =
        "public interface F<K extends Base, M extends Map<K, List<K>> & Closeable> \x7b" ∧
      (signature text).typeParameters = ["K", "M"] ∧
      ((signature text).typeParameters = ["K", "M"] ↔
        ∀ parameter ∈ parameters.dropLast, parameter.isGeneric = false) := by
  intro key map parameters above text
  have unpublished : Unpublished above := by
    unfold Unpublished
    decide
  refine ⟨unpublished, by decide +kernel, ?_⟩
  exact captured_typeParameters_iff unpublished ⟨"F", by decide⟩ parameters "\n"

/-- The parameter after a generic bound is lost. -/
theorem captured_typeParameters_cut_short :
    let comparable : TypeExpression :=
      .applied ⟨"Comparable", by decide⟩ [.applied ⟨"T", by decide⟩ []]
    let parameters : List TypeParameter :=
      [⟨⟨"T", by decide⟩, by decide, [comparable]⟩, ⟨⟨"R", by decide⟩, by decide, []⟩]
    let header := interfaceHeader ⟨"F", by decide⟩ parameters
    header = "public interface F<T extends Comparable<T>, R> \x7b" ∧
      parameters.map (fun parameter => parameter.name.text) = ["T", "R"] ∧
      (signature header).typeParameters = ["T"] := by
  decide +kernel

end Headers

end Source

end ApiMigration
