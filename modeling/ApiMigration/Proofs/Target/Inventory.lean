import ApiMigration.Proofs.Sorted
import ApiMigration.Target.Inventory
import Mathlib.Data.List.Basic
import Mathlib.Data.List.Induction

/-!
The indexes of an inventory against the list it is made of. Adding a declaration adds one position,
one name and one pair to them, so in the end they tell what the list tells.
-/

namespace ApiMigration.Target.Inventory

def positions (inventory : Inventory) (name : String) : List Nat :=
  (inventory.byName.getD name #[]).toList

section Push

variable (inventory : Inventory) (declaration : TargetDeclaration) (package name : String)

theorem toList_push :
    (inventory.push declaration).toList = inventory.toList ++ [declaration] := by
  simp [toList, push]

theorem contains_push :
    (inventory.push declaration).contains package name = true ↔
      inventory.contains package name = true ∨
        declaration.package = package ∧ declaration.name = name := by
  simp only [contains, push, Std.HashSet.contains_insert, Bool.or_eq_true, beq_iff_eq,
    Prod.mk.injEq]
  exact or_comm

theorem containsName_push :
    (inventory.push declaration).containsName name = true ↔
      inventory.containsName name = true ∨ declaration.name = name := by
  simp only [containsName, push, Std.HashMap.contains_insert, Bool.or_eq_true, beq_iff_eq]
  exact or_comm

theorem positions_push :
    (inventory.push declaration).positions name =
      inventory.positions name ++ if declaration.name = name then [inventory.size] else [] := by
  by_cases same : declaration.name = name
  · simp [positions, push, size, same]
  · simp [positions, push, Std.HashMap.getD_insert, same]

end Push

theorem contains_empty (package name : String) :
    (({} : Inventory).contains package name) = false := by
  simp [contains]

theorem containsName_empty (name : String) : (({} : Inventory).containsName name) = false := by
  simp [containsName]

theorem ofList_concat (listed : List TargetDeclaration) (declaration : TargetDeclaration) :
    ofList (listed ++ [declaration]) = (ofList listed).push declaration := by
  rw [ofList, List.foldl_append]
  rfl

theorem toList_ofList (listed : List TargetDeclaration) : (ofList listed).toList = listed := by
  induction listed using List.reverseRecOn with
  | nil => rfl
  | append_singleton listed declaration ih => rw [ofList_concat, toList_push, ih]

theorem size_ofList (listed : List TargetDeclaration) : (ofList listed).size = listed.length :=
  (Array.length_toList.symm).trans (congrArg List.length (toList_ofList listed))

theorem contains_ofList {declarations : List TargetDeclaration} {package name : String} :
    (ofList declarations).contains package name = true ↔
      ∃ declaration ∈ declarations, declaration.package = package ∧ declaration.name = name := by
  induction declarations using List.reverseRecOn with
  | nil => simp [ofList, contains_empty]
  | append_singleton declarations declaration ih =>
    rw [ofList_concat, contains_push, ih]
    simp [or_and_right, exists_or]

theorem containsName_ofList {declarations : List TargetDeclaration} {name : String} :
    (ofList declarations).containsName name = true ↔
      ∃ declaration ∈ declarations, declaration.name = name := by
  induction declarations using List.reverseRecOn with
  | nil => simp [ofList, containsName_empty]
  | append_singleton declarations declaration ih =>
    rw [ofList_concat, containsName_push, ih]
    simp [or_and_right, exists_or]

theorem containsName_iff_declared {listed : List TargetDeclaration} {name : String} :
    (ofList listed).containsName name = true ↔
      (listed.filter fun declaration => declaration.name == name) ≠ [] := by
  simp [containsName_ofList]

theorem positions_ofList (listed : List TargetDeclaration) (name : String) :
    (ofList listed).positions name =
      listed.findIdxs fun declaration => declaration.name == name := by
  induction listed using List.reverseRecOn with
  | nil => simp [ofList, positions]
  | append_singleton listed declaration ih =>
    rw [ofList_concat, positions_push, ih, List.findIdxs_append, List.findIdxs_singleton,
      size_ofList, Nat.zero_add]
    simp only [beq_iff_eq]

theorem filterMap_findIdxs {α : Type} (kept : α → Bool) (items : List α) :
    (items.findIdxs kept).filterMap (fun index => items[index]?) = items.filter kept := by
  induction items using List.reverseRecOn with
  | nil => rfl
  | append_singleton items item ih =>
    have older : ∀ index ∈ items.findIdxs kept, (items ++ [item])[index]? = items[index]? := by
      intro index listed
      obtain ⟨bound, _⟩ := List.mem_findIdxs_iff_exists_getElem_pos.mp listed
      exact List.getElem?_append_left bound
    rw [List.findIdxs_append, List.filterMap_append, List.filterMap_congr older, ih,
      List.findIdxs_singleton, List.filter_append, Nat.zero_add]
    cases held : kept item <;> simp [held]

theorem candidates_ofList (listed : List TargetDeclaration) (name : String) :
    (ofList listed).candidates name =
      listed.filter fun declaration => declaration.name == name := by
  have declared : (ofList listed).declarations = listed.toArray := by
    rw [← Array.toList_inj]
    exact toList_ofList listed
  have found : (ofList listed).candidates name =
      ((ofList listed).positions name).filterMap fun index => listed[index]? := by
    rw [candidates, declared]
    simp only [List.getElem?_toArray]
    rfl
  rw [found, positions_ofList, filterMap_findIdxs]

theorem flatMap_candidates_perm (listed : List TargetDeclaration) :
    ((listed.map TargetDeclaration.name).eraseDups.flatMap (ofList listed).candidates).Perm
      listed := by
  have covered : ∀ declaration ∈ listed,
      declaration.name ∈ (listed.map TargetDeclaration.name).eraseDups := by
    intro declaration member
    exact List.mem_eraseDups.mpr (List.mem_map_of_mem member)
  rw [funext (candidates_ofList listed)]
  exact flatMap_filter_perm TargetDeclaration.name (nodup_eraseDups _) covered

theorem candidates_disjoint (listed : List TargetDeclaration) {name other : String}
    (different : name ≠ other) :
    ((ofList listed).candidates name).Disjoint ((ofList listed).candidates other) := by
  rw [candidates_ofList, candidates_ofList, List.disjoint_left]
  intro declaration first second
  have named := beq_iff_eq.mp (List.mem_filter.mp first).2
  have renamed := beq_iff_eq.mp (List.mem_filter.mp second).2
  exact different (named.symm.trans renamed)

/-- The indexes tell the same as the list. A name is indexed at the positions of its declarations, so
its candidates are its declarations as they stand in the list; the known names and the known pairs
are those of the declarations; and the candidates of all names, each name taken once, are a partition
of the declarations. -/
theorem indexes_agree_with_list (listed : List TargetDeclaration) :
    let inventory := ofList listed
    let declared (name : String) := listed.filter fun declaration => declaration.name == name
    let names := (listed.map TargetDeclaration.name).eraseDups
    inventory.toList = listed ∧
    (∀ name,
      inventory.positions name =
        listed.findIdxs (fun declaration => declaration.name == name) ∧
      (∀ index ∈ inventory.positions name, index < inventory.size) ∧
      inventory.candidates name = declared name ∧
      (inventory.containsName name = true ↔ declared name ≠ []) ∧
      ∀ package,
        (inventory.contains package name = true ↔
          ∃ declaration ∈ listed, declaration.package = package ∧ declaration.name = name) ∧
        (inventory.contains package name = true → inventory.containsName name = true)) ∧
    (names.flatMap inventory.candidates).Perm listed ∧
      (∀ name ∈ names, inventory.candidates name ≠ []) ∧
      names.Pairwise fun name other =>
        (inventory.candidates name).Disjoint (inventory.candidates other) := by
  intro inventory declared names
  refine ⟨toList_ofList listed, fun name => ⟨positions_ofList listed name, ?_,
    candidates_ofList listed name, containsName_iff_declared,
    fun package => ⟨contains_ofList, ?_⟩⟩, flatMap_candidates_perm listed, ?_, ?_⟩
  · rw [positions_ofList, size_ofList]
    intro index indexed
    exact (List.mem_findIdxs_iff_exists_getElem_pos.mp indexed).1
  · rw [contains_ofList, containsName_ofList]
    rintro ⟨declaration, member, _, named⟩
    exact ⟨declaration, member, named⟩
  · intro name named
    rw [candidates_ofList]
    obtain ⟨declaration, member, rfl⟩ := List.mem_map.mp (List.mem_eraseDups.mp named)
    exact containsName_iff_declared.mp (containsName_ofList.mpr ⟨declaration, member, rfl⟩)
  · apply (List.nodup_iff_pairwise_ne.mp (nodup_eraseDups _)).imp
    exact candidates_disjoint listed

theorem indexes_agree_with_repeated_names :
    let pair : TargetDeclaration := ⟨"lang.tuple", .classType, "Pair", ⟨"tuple/pair.cj"⟩⟩
    let other : TargetDeclaration := ⟨"lang.utils", .structType, "Pair", ⟨"utils/pair.cj"⟩⟩
    let triple : TargetDeclaration := ⟨"lang.tuple", .classType, "Triple", ⟨"tuple/pair.cj"⟩⟩
    let inventory := ofList [pair, triple, other, pair]
    inventory.positions "Pair" = [0, 2, 3] ∧ 3 < inventory.size ∧
      inventory.candidates "Pair" = [pair, other, pair] ∧
      inventory.contains "lang.utils" "Pair" = true ∧ inventory.containsName "Pair" = true ∧
      ¬inventory.contains "lang.utils" "Triple" = true := by
  intro pair other triple inventory
  obtain ⟨_, named, _⟩ := indexes_agree_with_list [pair, triple, other, pair]
  obtain ⟨positions, bounded, candidates, _, pairs⟩ := named "Pair"
  have indexed : inventory.positions "Pair" = [0, 2, 3] := positions.trans (by decide)
  have known : inventory.contains "lang.utils" "Pair" = true :=
    (pairs "lang.utils").1.mpr ⟨other, by decide, by decide⟩
  refine ⟨indexed, bounded 3 (indexed ▸ by decide), candidates.trans (by decide), known,
    (pairs "lang.utils").2 known, ?_⟩
  rw [((named "Triple").2.2.2.2 "lang.utils").1]
  decide

theorem mem_toList_of_mem_candidates {inventory : Inventory} {name : String}
    {declaration : TargetDeclaration} (listed : declaration ∈ inventory.candidates name) :
    declaration ∈ inventory.toList := by
  obtain ⟨index, _, held⟩ := List.mem_filterMap.mp listed
  exact Array.mem_toList_iff.mpr (Array.mem_of_getElem? held)

structure Within (first second : Inventory) : Prop where
  contains : ∀ package name, first.contains package name = true →
    second.contains package name = true
  containsName : ∀ name, first.containsName name = true → second.containsName name = true

theorem Within.empty (inventory : Inventory) : Within {} inventory where
  contains := by simp [contains_empty]
  containsName := by simp [containsName_empty]

theorem Within.ofList {first second : List TargetDeclaration} (included : first ⊆ second) :
    Within (Inventory.ofList first) (Inventory.ofList second) where
  contains := by
    intro package name
    rw [contains_ofList, contains_ofList]
    rintro ⟨declaration, member, same⟩
    exact ⟨declaration, included member, same⟩
  containsName := by
    intro name
    rw [containsName_ofList, containsName_ofList]
    rintro ⟨declaration, member, same⟩
    exact ⟨declaration, included member, same⟩

end ApiMigration.Target.Inventory
