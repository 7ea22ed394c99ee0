import ApiMigration.Proofs.Text.Lines
import ApiMigration.Proofs.Text.Reader
import ApiMigration.Source.Signature

namespace ApiMigration

open Text

theorem Text.mem_of_mem_afterRoot {name root : String} {c : Char}
    (member : c ∈ (afterRoot name root).toList) : c ∈ name.toList := by
  unfold afterRoot at member
  split at member
  · next rest taken =>
    rw [afterPrefix?_eq_some_iff.mp taken]
    exact List.mem_append_right _ (by simpa using member)
  · exact member

namespace Source

def Extracted (declaration : SourceDeclaration) : Prop :=
  ∃ rootPackage origin text, declaration? rootPackage origin text = some declaration

theorem isPackageChar_of_package? {text package : String} (read : package? text = some package) :
    ∀ c ∈ package.toList, isPackageChar c = true := by
  obtain ⟨head, rest, success⟩ := exists_read_of_firstAtLine read
  simp only [readPackage, Option.bind_eq_bind, Option.bind_eq_some_iff, Option.pure_def,
    Option.some.injEq, Prod.mk.injEq, Prod.exists] at success
  obtain ⟨_, _, name, _, ran, _, _, rfl, _⟩ := success
  rw [String.toList_ofList]
  exact allowed_of_run? ran

theorem isIdentifier_of_publicType? {text name : String} {kind : SourceKind}
    (read : publicType? text = some (kind, name)) : IsIdentifier name.toList := by
  obtain ⟨head, rest, success⟩ := exists_read_of_firstAtLine read
  simp only [readPublicType, Option.bind_eq_bind, Option.bind_eq_some_iff, Prod.exists,
    Option.ite_none_right_eq_some, Option.some.injEq, Prod.mk.injEq] at success
  obtain ⟨_, _, _, _, _, chars, _, ran, _, ⟨_, rfl⟩, _⟩ := success
  rw [String.toList_ofList]
  exact isIdentifier_of_identifier? ran

theorem declaration?_cases {rootPackage : String} {origin : Path} {text : String}
    {declaration : SourceDeclaration}
    (read : declaration? rootPackage origin text = some declaration) :
    package? text = some declaration.package ∧
      publicType? text = some (declaration.kind, declaration.name) ∧
      declaration.group = packageGroup declaration.package rootPackage := by
  simp only [declaration?, Option.bind_eq_bind, Option.bind_eq_some_iff, Option.pure_def,
    Prod.exists] at read
  obtain ⟨package, packaged, kind, name, typed, built⟩ := read
  split at built
  · cases built
    exact ⟨packaged, typed, rfl⟩
  · cases built
    exact ⟨packaged, typed, rfl⟩

theorem Extracted.isIdentifier {declaration : SourceDeclaration} (extracted : Extracted declaration) :
    IsIdentifier declaration.name.toList := by
  obtain ⟨rootPackage, origin, text, read⟩ := extracted
  exact isIdentifier_of_publicType? (declaration?_cases read).2.1

theorem Extracted.isPackageChar {declaration : SourceDeclaration}
    (extracted : Extracted declaration) : ∀ c ∈ declaration.group.toList, isPackageChar c = true := by
  obtain ⟨rootPackage, origin, text, read⟩ := extracted
  obtain ⟨packaged, _, grouped⟩ := declaration?_cases read
  intro c member
  rw [grouped, packageGroup] at member
  split at member
  · simp at member
  · exact isPackageChar_of_package? packaged c (mem_of_mem_afterRoot member)

theorem mem_of_mem_upTo {mark text : List Char} {c : Char} (member : c ∈ upTo mark text) :
    c ∈ text := by
  induction text with
  | nil => exact member
  | cons first text ih =>
    rw [upTo] at member
    split at member
    · cases member
    · rcases List.mem_cons.mp member with rfl | member
      · exact List.mem_cons_self
      · exact List.mem_cons_of_mem _ (ih member)

theorem feed_not_mem_words {text word : List Char} (listed : word ∈ words text) : '\n' ∉ word := by
  intro member
  have solid := eq_false_of_mem_splitOnP (List.mem_of_mem_filter listed) member
  revert solid
  decide

theorem feed_not_mem_typeParameters {text name : String} (listed : name ∈ typeParameters text) :
    '\n' ∉ name.toList := by
  obtain ⟨part, _, read⟩ := List.mem_filterMap.mp listed
  unfold typeParameter? at read
  split at read
  · cases read
  · next word more spelled =>
    simp only [Option.ite_none_left_eq_some, Option.some.injEq] at read
    obtain ⟨_, rfl⟩ := read
    rw [String.toList_ofList]
    intro feed
    have inside := mem_of_mem_upTo (mem_of_mem_upTo (mem_of_mem_trim feed))
    exact feed_not_mem_words (spelled ▸ List.mem_cons_self : word ∈ words part) inside

theorem feed_not_mem_parameters {text : String} {parameter : Parameter}
    (listed : parameter ∈ parameters text) : '\n' ∉ parameter.name.toList := by
  obtain ⟨index, _, rfl⟩ := List.mem_mapIdx.mp listed
  unfold Source.parameter
  simp only
  split
  · next name last before spelled =>
    rw [String.toList_ofList]
    have kept : name ∈ ((words _).filter _).reverse := spelled ▸ List.mem_cons_self
    exact feed_not_mem_words (List.mem_of_mem_filter (List.mem_reverse.mp kept))
  · rw [String.toList_append, List.mem_append, not_or]
    exact ⟨by decide, feed_not_mem_toString _⟩

theorem feed_not_mem_of_isIdentifier {name : List Char} (identifier : IsIdentifier name) :
    '\n' ∉ name :=
  not_mem_of_refused identifier.isNameChar (by decide)

theorem isIdentifier_of_readMethodParts {text rest : List Char} {header : MethodText}
    (read : readMethodParts text = some (header, rest)) : IsIdentifier header.name.toList := by
  simp only [readMethodParts, Option.bind_eq_bind, Option.bind_eq_some_iff, Option.pure_def,
    Option.some.injEq, Prod.mk.injEq, Prod.exists] at read
  obtain ⟨_, _, _, _, _, _, _, ran, _, _, _, _, _, _, rfl, _⟩ := read
  rw [String.toList_ofList]
  exact isIdentifier_of_identifier? ran

theorem isIdentifier_of_method? {text : String} {header : MethodText}
    (read : method? text = some header) : IsIdentifier header.name.toList := by
  obtain ⟨head, rest, success⟩ :=
    exists_read_of_mem_allAtLines (List.mem_of_find?_eq_some read)
  rw [readMethod, Option.or_eq_some_iff] at success
  rcases success with success | ⟨_, success⟩
  · obtain ⟨text, _, success⟩ := Option.bind_eq_some_iff.mp success
    exact isIdentifier_of_readMethodParts success
  · exact isIdentifier_of_readMethodParts success

structure OneLined (signature : Signature) : Prop where
  typeParameters : ∀ name ∈ signature.typeParameters, '\n' ∉ name.toList
  name : ∀ method ∈ signature.method, '\n' ∉ method.name.toList
  parameters : ∀ method ∈ signature.method, ∀ parameter ∈ method.parameters,
    '\n' ∉ parameter.name.toList

theorem oneLined_signature (text : String) : OneLined (signature text) where
  typeParameters := by
    intro name listed
    unfold signature at listed
    cases header : (interface? text).bind Prod.snd with
    | none => simp [header] at listed
    | some inside =>
      simp only [header, Option.elim_some] at listed
      exact feed_not_mem_typeParameters listed
  name := by
    intro method held
    obtain ⟨header, read, rfl⟩ := Option.map_eq_some_iff.mp held
    exact feed_not_mem_of_isIdentifier (isIdentifier_of_method? read)
  parameters := by
    intro method held parameter listed
    obtain ⟨header, _, rfl⟩ := Option.map_eq_some_iff.mp held
    exact feed_not_mem_parameters listed

theorem Extracted.oneLined {declaration : SourceDeclaration} (extracted : Extracted declaration) :
    OneLined (declaration.signature.getD {}) := by
  obtain ⟨rootPackage, origin, text, read⟩ := extracted
  simp only [declaration?, Option.bind_eq_bind, Option.bind_eq_some_iff, Option.pure_def,
    Prod.exists] at read
  obtain ⟨package, _, kind, name, _, built⟩ := read
  split at built
  · cases built
    exact oneLined_signature text
  · cases built
    exact ⟨by simp [SourceDeclaration.under], by simp [SourceDeclaration.under],
      by simp [SourceDeclaration.under]⟩

end Source

end ApiMigration
