import ApiMigration.Proofs.FileTree.Found
import ApiMigration.Proofs.Routing
import ApiMigration.Proofs.Stub.FileStem
import ApiMigration.Proofs.Text.Joined
import ApiMigration.Proofs.Text.LowerCase
import ApiMigration.Stub.Plan

/-!
Where a skeleton goes, as names below the target tree: a directory for every segment of its group,
then a file name with the extension. The names of the directories hold no dot and the file name
does, so no directory of one skeleton stands where another skeleton goes.
-/

namespace ApiMigration

open Text

namespace Path

def joint (base : Path) : String :=
  if base.text.toList.getLast? = some '/' then "" else "/"

theorem join_eq {base sub : Path} (relative : sub.isAbsolute = false) (written : base.text ≠ "") :
    base.join sub = ⟨base.text ++ base.joint ++ sub.text⟩ := by
  unfold join joint
  rw [relative, if_neg Bool.false_ne_true]
  by_cases slash : base.text.toList.getLast? = some '/'
  · simp [slash]
  · simp [slash, written]

theorem joint_append (front : String) {name : String} (solid : name ≠ "")
    (slashFree : '/' ∉ name.toList) : joint ⟨front ++ name⟩ = "/" := by
  unfold joint
  rw [if_neg]
  intro slash
  rw [String.toList_append, List.getLast?_append_of_ne_nil _ (by simpa using solid)] at slash
  exact slashFree (List.mem_of_getLast? slash)

theorem joinAll_eq {base : Path} {names : List String} (written : base.text ≠ "")
    (further : names ≠ []) (solid : ∀ name ∈ names, name ≠ "")
    (slashFree : ∀ name ∈ names, '/' ∉ name.toList) :
    base.joinAll names = ⟨base.text ++ base.joint ++ joinWith "/" names⟩ := by
  induction names generalizing base with
  | nil => exact absurd rfl further
  | cons name names ih =>
    have first := slashFree name List.mem_cons_self
    have single := join_eq (isAbsolute_of_slash_not_mem first : (⟨name⟩ : Path).isAbsolute = false)
      written
    show (base.join ⟨name⟩).joinAll names = _
    rw [single]
    cases names with
    | nil => rfl
    | cons next more =>
      rw [ih (by simp [written]) (by simp)
        (fun other member => solid other (List.mem_cons_of_mem _ member))
        (fun other member => slashFree other (List.mem_cons_of_mem _ member)),
        joint_append _ (solid name List.mem_cons_self) first]
      simp only [joinWith, String.append_assoc]

theorem joinAll_nothing {names : List String} (solid : ∀ name ∈ names, name ≠ "")
    (slashFree : ∀ name ∈ names, '/' ∉ name.toList) :
    joinAll ⟨""⟩ names = ⟨joinWith "/" names⟩ := by
  cases names with
  | nil => rfl
  | cons name names =>
    have first := slashFree name List.mem_cons_self
    have relative : (⟨name⟩ : Path).isAbsolute = false := isAbsolute_of_slash_not_mem first
    have begun : join ⟨""⟩ ⟨name⟩ = ⟨name⟩ := by
      simp [join, relative]
    show (join ⟨""⟩ ⟨name⟩).joinAll names = _
    rw [begun]
    cases names with
    | nil => rfl
    | cons next more =>
      have joint : joint ⟨name⟩ = "/" := by
        have empty := joint_append "" (solid name List.mem_cons_self) first
        rwa [String.empty_append] at empty
      rw [joinAll_eq (solid name List.mem_cons_self) (by simp)
        (fun other member => solid other (List.mem_cons_of_mem _ member))
        (fun other member => slashFree other (List.mem_cons_of_mem _ member)), joint]
      rfl

theorem join_joinAll_join {base : Path} {names : List String} {last : String}
    (written : base.text ≠ "") (solid : ∀ name ∈ names ++ [last], name ≠ "")
    (slashFree : ∀ name ∈ names ++ [last], '/' ∉ name.toList) :
    (base.join (joinAll ⟨""⟩ names)).join ⟨last⟩ = base.joinAll (names ++ [last]) := by
  have inside : ∀ name ∈ names, name ≠ "" ∧ '/' ∉ name.toList := fun name member =>
    ⟨solid name (List.mem_append_left _ member), slashFree name (List.mem_append_left _ member)⟩
  have relative : (⟨last⟩ : Path).isAbsolute = false :=
    isAbsolute_of_slash_not_mem (slashFree last (by simp))
  have below : (joinAll ⟨""⟩ names).isAbsolute = false :=
    isAbsolute_joinAll rfl fun name member => isAbsolute_of_slash_not_mem (inside name member).2
  rw [joinAll_eq written (by simp) solid slashFree, join_eq below written,
    join_eq relative (by simp [written]),
    joinAll_nothing (fun name member => (inside name member).1)
      (fun name member => (inside name member).2)]
  by_cases none : names = []
  · subst none
    have joint : joint ⟨base.text ++ base.joint ++ joinWith "/" []⟩ = "" := by
      unfold Path.joint
      by_cases slash : base.text.toList.getLast? = some '/'
      · simp [slash, joinWith]
      · simp [slash, joinWith]
    rw [joint]
    simp only [joinWith, String.append_empty, List.nil_append]
  · obtain ⟨before, final, split⟩ := (List.eq_nil_or_concat' names).resolve_left none
    have ended : ∃ front, base.text ++ base.joint ++ joinWith "/" names = front ++ final := by
      by_cases first : before = []
      · exact ⟨base.text ++ base.joint, by rw [split, first]; rfl⟩
      · refine ⟨base.text ++ base.joint ++ (joinWith "/" before ++ "/"), ?_⟩
        rw [split, joinWith_concat _ first]
        simp only [String.append_assoc]
    obtain ⟨front, ended⟩ := ended
    have closing := inside final (by simp [split])
    rw [joinWith_concat _ none]
    simp only [ended]
    rw [joint_append front closing.1 closing.2, ← ended]
    simp only [String.append_assoc]

end Path

namespace Stub

theorem spaceWords_ne_nil {text : List Char} (solid : text ≠ []) : spaceWords text ≠ [] := by
  fun_cases spaceWords text <;> simp_all

theorem spaceCapitals_ne_nil {text : List Char} (solid : text ≠ []) : spaceCapitals text ≠ [] := by
  fun_cases spaceCapitals text <;> simp_all

theorem fileStem_ne_empty {name : String} (solid : name ≠ "") : fileStem name ≠ "" := by
  intro empty
  have chars : stemChars name.toList = [] := by
    rw [fileStem] at empty
    simpa using empty
  refine lowerCase_ne_nil (spaceCapitals_ne_nil (spaceWords_ne_nil ?_)) chars
  simpa using solid

namespace Scaffold

variable {scaffold : Scaffold} {declaration : SourceDeclaration}

def directories (scaffold : Scaffold) (declaration : SourceDeclaration) : List String :=
  (((scaffold.routing.targetGroup declaration).toList.splitOn '.').filter fun segment =>
    !segment.isEmpty).map String.ofList

def fileName (scaffold : Scaffold) (declaration : SourceDeclaration) : String :=
  fileStem declaration.name ++ "." ++ scaffold.extension

def names (scaffold : Scaffold) (declaration : SourceDeclaration) : List String :=
  scaffold.directories declaration ++ [scaffold.fileName declaration]

theorem names_ne_nil (scaffold : Scaffold) (declaration : SourceDeclaration) :
    scaffold.names declaration ≠ [] := by
  simp [names]

theorem directories_spelled {name : String} (listed : name ∈ scaffold.directories declaration) :
    name ≠ "" ∧ '.' ∉ name.toList := by
  obtain ⟨segment, kept, rfl⟩ := List.mem_map.mp listed
  rw [List.mem_filter] at kept
  refine ⟨?_, ?_⟩
  · simpa using kept.2
  · rw [String.toList_ofList]
    exact not_mem_of_mem_splitOn kept.1

theorem slash_not_mem_directories
    (slashFree : '/' ∉ (scaffold.routing.targetGroup declaration).toList) {name : String}
    (listed : name ∈ scaffold.directories declaration) : '/' ∉ name.toList := by
  obtain ⟨segment, kept, rfl⟩ := List.mem_map.mp listed
  rw [String.toList_ofList]
  intro slash
  exact slashFree (Routing.mem_of_mem_splitOn (List.mem_of_mem_filter kept) slash)

theorem dot_mem_fileName (scaffold : Scaffold) (declaration : SourceDeclaration) :
    '.' ∈ (scaffold.fileName declaration).toList := by
  simp [fileName]

theorem not_names_prefix_directories (other : SourceDeclaration) :
    ¬ scaffold.names declaration <+: scaffold.directories other := by
  intro begun
  have listed : scaffold.fileName declaration ∈ scaffold.directories other :=
    begun.subset (by simp [names])
  exact (directories_spelled listed).2 (scaffold.dot_mem_fileName declaration)

section Extracted

variable (extracted : Source.Extracted declaration) (slashFree : scaffold.routing.SlashFree)
  (clean : '/' ∉ scaffold.extension.toList)

include extracted

theorem fileStem_spelled :
    fileStem declaration.name ≠ "" ∧ ∀ c ∈ (fileStem declaration.name).toList, isStemChar c = true := by
  refine ⟨fileStem_ne_empty ?_, ?_⟩
  · intro empty
    obtain ⟨first, rest, spelled, _⟩ := extracted.isIdentifier
    simp [empty] at spelled
  · exact fun c member => isStemChar_of_mem_fileStem extracted.isIdentifier.isNameChar member

theorem fileName_ne (text : String) (dots : text.toList.any isStemChar = false) :
    scaffold.fileName declaration ≠ text := by
  rintro rfl
  obtain ⟨solid, named⟩ := fileStem_spelled extracted
  obtain ⟨c, more, spelled⟩ := List.exists_cons_of_ne_nil
    (fun empty => solid (String.toList_eq_nil_iff.mp empty) :
      (fileStem declaration.name).toList ≠ [])
  exact List.any_eq_false.mp dots c (by simp [fileName, spelled]) (named c (by simp [spelled]))

theorem extensionOf?_fileName (dotFree : '.' ∉ scaffold.extension.toList) :
    Path.extensionOf? (scaffold.fileName declaration) = some scaffold.extension :=
  Path.extensionOf?_append (fileStem_spelled extracted).1 dotFree
    (fileName_ne extracted ".." (by decide))

include slashFree clean

theorem names_spelled {name : String} (listed : name ∈ scaffold.names declaration) :
    Path.IsPlain name := by
  rcases List.mem_append.mp listed with listed | listed
  · obtain ⟨solid, dotFree⟩ := directories_spelled listed
    refine ⟨solid, ?_, ?_, ?_⟩
    · rintro rfl
      exact dotFree (by decide)
    · rintro rfl
      exact dotFree (by decide)
    · exact slash_not_mem_directories (slashFree.targetGroup extracted) listed
  · rw [List.mem_singleton.mp listed]
    refine ⟨fileName_ne extracted "" (by decide), fileName_ne extracted "." (by decide),
      fileName_ne extracted ".." (by decide), ?_⟩
    simp only [fileName, String.toList_append, List.mem_append, not_or]
    refine ⟨⟨?_, by decide⟩, clean⟩
    intro slash
    have named := (fileStem_spelled extracted).2 _ slash
    revert named
    decide

theorem path_planned {root : Path} (written : root.text ≠ "") :
    (scaffold.planned root declaration).path = root.joinAll (scaffold.names declaration) := by
  show (root.join (scaffold.routing.directory (scaffold.routing.targetPackage declaration))).join
    ⟨fileStem declaration.name ++ "." ++ scaffold.extension⟩ = _
  rw [Routing.directory, Routing.targetPackage, Routing.afterRoot_append]
  refine Path.join_joinAll_join written ?_ ?_
  · exact fun name listed => (names_spelled extracted slashFree clean listed).solid
  · exact fun name listed => (names_spelled extracted slashFree clean listed).slashFree

end Extracted

end Scaffold

end Stub

end ApiMigration
