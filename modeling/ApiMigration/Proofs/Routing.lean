import ApiMigration.Proofs.Path.Parts
import ApiMigration.Proofs.Source.Extracted
import ApiMigration.Routing

namespace ApiMigration.Routing

open Text

theorem afterRoot_append (root rest : String) : afterRoot (root ++ "." ++ rest) root = rest := by
  have taken : afterPrefix? (root.toList ++ ['.']) (root ++ "." ++ rest).toList =
      some rest.toList := by
    rw [afterPrefix?_eq_some_iff, String.toList_append, String.toList_append]
    rfl
  rw [afterRoot, taken]
  exact String.ofList_toList

structure SlashFree (routing : Routing) : Prop where
  fallback : '/' ∉ routing.defaultNamespace.toList
  rules : ∀ rule ∈ routing.rules, '/' ∉ rule.destination.toList

theorem SlashFree.targetGroup {routing : Routing} (slashFree : routing.SlashFree)
    {declaration : SourceDeclaration} (extracted : Source.Extracted declaration) :
    '/' ∉ (routing.targetGroup declaration).toList := by
  unfold Routing.targetGroup
  split
  · unfold rootGroupNamespace
    split
    · next rule found => exact slashFree.rules rule (List.mem_of_find?_eq_some found)
    · exact slashFree.fallback
  · intro slash
    have allowed := extracted.isPackageChar '/' slash
    rw [slash_not_isPackageChar] at allowed
    cases allowed

structure Dotted (routing : Routing) : Prop where
  rootNamespace : IsDotted routing.rootNamespace.toList
  defaultNamespace : IsDotted routing.defaultNamespace.toList
  rules : ∀ rule ∈ routing.rules, IsDotted rule.destination.toList

namespace Dotted

variable {routing : Routing} {declaration : SourceDeclaration}

theorem slashFree (dotted : routing.Dotted) : routing.SlashFree where
  fallback := dotted.defaultNamespace.slash_not_mem
  rules := fun rule listed => (dotted.rules rule listed).slash_not_mem

theorem isPackageChar_targetGroup (dotted : routing.Dotted)
    (extracted : Source.Extracted declaration) :
    ∀ c ∈ (routing.targetGroup declaration).toList, isPackageChar c = true := by
  unfold Routing.targetGroup
  split
  · unfold rootGroupNamespace
    split
    · next rule found => exact (dotted.rules rule (List.mem_of_find?_eq_some found)).isPackageChar
    · exact dotted.defaultNamespace.isPackageChar
  · exact extracted.isPackageChar

theorem isPackageChar_targetPackage (dotted : routing.Dotted)
    (extracted : Source.Extracted declaration) :
    ∀ c ∈ (routing.targetPackage declaration).toList, isPackageChar c = true := by
  intro c member
  simp only [targetPackage, String.toList_append, List.mem_append] at member
  rcases member with (member | member) | member
  · exact dotted.rootNamespace.isPackageChar c member
  · rw [List.mem_singleton.mp member]
    decide
  · exact dotted.isPackageChar_targetGroup extracted c member

end Dotted

theorem mem_of_mem_splitOn {text part : List Char} {separator c : Char}
    (listed : part ∈ text.splitOn separator) (member : c ∈ part) : c ∈ text := by
  induction text generalizing part with
  | nil =>
    rw [List.splitOn_nil, List.mem_singleton] at listed
    rw [listed] at member
    cases member
  | cons first rest ih =>
    rw [List.splitOn_cons_eq_if_modifyHead] at listed
    split at listed
    · rcases List.mem_cons.mp listed with rfl | listed
      · cases member
      · exact List.mem_cons_of_mem _ (ih listed member)
    · obtain ⟨head, more, split⟩ := List.exists_cons_of_ne_nil (List.splitOn_ne_nil separator rest)
      rw [split] at listed ih
      rcases List.mem_cons.mp listed with rfl | listed
      · rcases List.mem_cons.mp member with rfl | member
        · exact List.mem_cons_self
        · exact List.mem_cons_of_mem _ (ih List.mem_cons_self member)
      · exact List.mem_cons_of_mem _ (ih (List.mem_cons_of_mem _ listed) member)

theorem isAbsolute_directory {routing : Routing} {declaration : SourceDeclaration}
    (clean : '/' ∉ (routing.targetGroup declaration).toList) :
    (routing.directory (routing.targetPackage declaration)).isAbsolute = false := by
  rw [directory, targetPackage, afterRoot_append]
  apply Path.isAbsolute_joinAll rfl
  intro name member
  obtain ⟨segment, listed, rfl⟩ := List.mem_map.mp member
  apply Path.isAbsolute_of_slash_not_mem
  rw [String.toList_ofList]
  intro slash
  exact clean (mem_of_mem_splitOn (List.mem_of_mem_filter listed) slash)

end ApiMigration.Routing
