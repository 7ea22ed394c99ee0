import ApiMigration.Proofs.Path.Relative

namespace ApiMigration

namespace Path

theorem exists_last_of_dropLast? {parts above : List (List Char)}
    (cut : dropLast? parts = some above) :
    above <+: parts ∧ ∃ last, (parts.filter fun part => !isVoid part) =
      (above.filter fun part => !isVoid part) ++ [last] := by
  unfold dropLast? at cut
  split at cut
  · cases cut
  · next last more rest =>
    cases cut
    have solid : isVoid last = false := by
      have stopped := List.head?_dropWhile_not isVoid parts.reverse
      rw [rest] at stopped
      simpa using stopped
    have kept : (parts.filter fun part => !isVoid part) =
        (more.reverse.filter fun part => !isVoid part) ++ [last] := by
      have dropped := filter_dropWhile_isVoid parts.reverse
      rw [rest, List.filter_cons_of_pos (by simp [solid]), List.filter_reverse] at dropped
      rw [List.filter_reverse, ← List.reverse_cons, dropped, List.reverse_reverse]
    have shorter : more.reverse <+: parts := by
      have ending : last :: more <:+ parts.reverse := rest ▸ List.dropWhile_suffix isVoid
      rw [← List.reverse_suffix, List.reverse_reverse]
      exact (List.suffix_cons last more).trans ending
    have trimmed : (more.dropWhile isVoid).reverse = dropVoidEnd more.reverse := by
      rw [dropVoidEnd, List.reverse_reverse]
    rw [trimmed]
    exact ⟨(isPrefix_dropVoidEnd _).trans shorter, last, by rw [kept, filter_dropVoidEnd]⟩

theorem parent?_starts {path parent : Path} (above : path.parent? = some parent)
    (written : parent.text ≠ "") :
    parent.isAbsolute = path.isAbsolute ∧ ∃ last, (path.parts.filter fun part => !isVoid part) =
      (parent.parts.filter fun part => !isVoid part) ++ [last] := by
  have spelled : path.text ≠ "" := by
    intro empty
    obtain ⟨text⟩ := path
    subst empty
    have topmost : (⟨""⟩ : Path).parent? = none := by decide
    rw [topmost] at above
    cases above
  unfold parent? at above
  split at above
  · next upper cut =>
    cases above
    obtain ⟨shorter, last, kept⟩ := exists_last_of_dropLast? cut
    obtain ⟨same, _, remain, _⟩ := withBody_starts spelled shorter
    exact ⟨same, last, by rw [filter_parts, kept, remain]⟩
  · split at above
    · cases above
      exact absurd rfl written
    · cases above

theorem up_mem_components_iff (path : Path) :
    .up ∈ path.components ↔ ['.', '.'] ∈ path.parts.filter fun part => !isVoid part := by
  have unanchored : Component.up ∉ path.anchor := by
    unfold anchor
    split
    · simp
    split <;> simp
  have spelled (part : List Char) : Component.ofPart part = .up ↔ part = ['.', '.'] := by
    unfold Component.ofPart
    split <;> simp_all
  rw [components, List.mem_append, filter_parts]
  simp [unanchored, spelled]

end Path

namespace FileTree

section Above

variable {tree : FileTree} {path : Path}

theorem placeOf_parent? (tree : FileTree) {parent : Path} (above : path.parent? = some parent)
    (written : parent.text ≠ "") (downward : .up ∉ path.components) :
    .up ∉ parent.components ∧ ∃ name, tree.placeOf path = tree.placeOf parent ++ [name] := by
  obtain ⟨same, last, kept⟩ := Path.parent?_starts above written
  have still : .up ∉ parent.components := by
    intro up
    rw [Path.up_mem_components_iff] at downward up
    exact downward (kept ▸ List.mem_append_left _ up)
  refine ⟨still, String.ofList last, ?_⟩
  rw [placeOf, placeOf, start, start, same, Path.directoryNames_eq downward,
    Path.directoryNames_eq still, kept, List.map_append, List.append_assoc]
  rfl

theorem placeOf_ancestorsWithin (tree : FileTree) {steps : Nat} {other : Path}
    (downward : .up ∉ path.components) (listed : other ∈ path.ancestorsWithin steps)
    (written : other.text ≠ "") :
    .up ∉ other.components ∧ tree.placeOf other <+: tree.placeOf path := by
  induction steps generalizing path with
  | zero =>
    cases List.mem_singleton.mp listed
    exact ⟨downward, List.prefix_refl _⟩
  | succ steps ih =>
    unfold Path.ancestorsWithin at listed
    split at listed
    · cases List.mem_singleton.mp listed
      exact ⟨downward, List.prefix_refl _⟩
    · next parent above =>
      rcases List.mem_cons.mp listed with rfl | further
      · exact ⟨downward, List.prefix_refl _⟩
      · have named : parent.text ≠ "" := by
          intro empty
          obtain ⟨text⟩ := parent
          subst empty
          have alone : (⟨""⟩ : Path).ancestorsWithin steps = [⟨""⟩] := by
            cases steps <;> rfl
          rw [alone, List.mem_singleton] at further
          exact written (congrArg Path.text further)
        obtain ⟨still, name, longer⟩ := placeOf_parent? tree above named downward
        obtain ⟨plain, begun⟩ := ih still further
        exact ⟨plain, longer ▸ begun.trans (List.prefix_append _ _)⟩

theorem new_of_makeDirectory {made : FileTree} {place : Location} (linkFree : tree.LinkFree)
    (downward : .up ∉ path.components) (success : tree.makeDirectory path = .ok made)
    (absent : tree.get? place = none) (held : (made.get? place).isSome) :
    place = tree.placeOf path := by
  obtain ⟨there, located, free, rfl⟩ := makeDirectory_eq_ok_iff.mp success
  rw [get?_set_of_absent .directory free] at held
  split at held
  · next same => rw [same, eq_placeOf_of_locate linkFree downward located]
  · rw [absent] at held
    cases held

theorem new_of_makeChain {chain : List Path} {place : Location} (linkFree : tree.LinkFree)
    (downward : ∀ path ∈ chain, path.text ≠ "" → .up ∉ path.components)
    (absent : tree.get? place = none) (held : ((tree.makeChain chain).1.get? place).isSome) :
    ∃ path ∈ chain, path.text ≠ "" ∧ place = tree.placeOf path := by
  have unchanged : ¬ (tree.get? place).isSome := by simp [absent]
  induction chain with
  | nil => exact absurd held unchanged
  | cons path above ih =>
    unfold makeChain at held
    split at held
    · exact absurd held unchanged
    next written =>
    have plain := downward path List.mem_cons_self written
    split at held
    · next first =>
      have there := new_of_makeDirectory linkFree plain first absent held
      exact ⟨path, List.mem_cons_self, written, there⟩
    · have upper (earlier : ((tree.makeChain above).1.get? place).isSome) :
          ∃ other ∈ path :: above, other.text ≠ "" ∧ place = tree.placeOf other := by
        obtain ⟨other, listed, found⟩ :=
          ih (fun other member => downward other (List.mem_cons_of_mem _ member)) earlier
        exact ⟨other, List.mem_cons_of_mem _ listed, found⟩
      have steps := makeChain_makes tree above
      split at held
      · next chained =>
        rw [chained] at upper
        exact upper held
      · next middle chained =>
        rw [chained] at upper steps
        split at held
        · next second =>
          cases earlier : middle.get? place with
          | some entry => exact upper (by simp [earlier])
          | none =>
            have there := new_of_makeDirectory (steps.linkFree linkFree) plain second earlier held
            rw [steps.extend.placeOf_eq] at there
            exact ⟨path, List.mem_cons_self, written, there⟩
        · exact upper held
    · exact absurd held unchanged

theorem new_of_makeParent {place : Location} (linkFree : tree.LinkFree)
    (downward : .up ∉ path.components) (absent : tree.get? place = none)
    (held : ((tree.makeParent path).1.get? place).isSome) :
    ∃ name more, tree.placeOf path = place ++ name :: more := by
  unfold makeParent at held
  split at held
  · rw [absent] at held
    cases held
  · next parent above =>
    have made : ((tree.makeDirectories parent).1.get? place).isSome := by
      split at held
      · next success =>
        rw [success]
        exact held
      · next failure =>
        rw [failure]
        exact held
    by_cases written : parent.text = ""
    · have idle : tree.makeDirectories parent = (tree, .ok ()) := by
        obtain ⟨further, chain⟩ := exists_ancestorsWithin_eq_cons parent.text.length parent
        rw [makeDirectories, Path.ancestors, chain, makeChain, if_pos written]
      rw [idle, absent] at made
      cases made
    · obtain ⟨still, name, longer⟩ := placeOf_parent? tree above written downward
      obtain ⟨other, listed, named, rfl⟩ := new_of_makeChain linkFree
        (fun other member solid => (placeOf_ancestorsWithin tree still member solid).1) absent made
      obtain ⟨more, whole⟩ := (placeOf_ancestorsWithin tree still listed named).2
      rw [longer, ← whole, List.append_assoc]
      obtain ⟨first, rest, split⟩ := List.exists_cons_of_ne_nil (by simp : more ++ [name] ≠ [])
      exact ⟨first, rest, by rw [split]⟩

theorem placeOf_joinAll (tree : FileTree) {root : Path} {names : List String}
    (written : root.text ≠ "") (further : names ≠ [])
    (plain : ∀ name ∈ names, Path.IsPlain name)
    (downward : .up ∉ root.components) :
    .up ∉ (root.joinAll names).components ∧
      tree.placeOf (root.joinAll names) = tree.placeOf root ++ names := by
  have slashFree : ∀ name ∈ names, '/' ∉ name.toList :=
    fun name member => (plain name member).slashFree
  have kept := Path.filter_parts_joinAll written (fun name member => (plain name member).isVoid)
    slashFree
  obtain ⟨_, same, _⟩ := Path.parts_joinAll written further
    (fun name member => (plain name member).solid) slashFree
  have still : .up ∉ (root.joinAll names).components := by
    rw [Path.up_mem_components_iff] at downward ⊢
    rw [kept, List.mem_append, not_or]
    refine ⟨downward, ?_⟩
    intro listed
    obtain ⟨name, member, dots⟩ := List.mem_map.mp listed
    exact (plain name member).downward (String.toList_inj.mp (dots.trans (by decide)))
  refine ⟨still, ?_⟩
  rw [placeOf, placeOf, start, start, same, Path.directoryNames_eq downward,
    Path.directoryNames_eq still, kept, List.map_append, List.append_assoc]
  simp [Function.comp_def]

end Above

section Restrict

variable {old new : FileTree} {approach : Approach} {here place : Location}

theorem Nested.isSome_above {tree : FileTree} (nested : tree.Nested) {upper lower : Location}
    (held : (tree.get? (upper ++ lower)).isSome) : (tree.get? upper).isSome := by
  induction lower using List.reverseRecOn with
  | nil => rwa [List.append_nil] at held
  | append_singleton lower name ih =>
    rw [← List.append_assoc] at held
    exact ih (by simp [nested _ _ held])

theorem Trail.restrict {links : Nat} {parts : List String} (nested : old.Nested)
    (extended : Extends old new) (linkFree : new.LinkFree)
    (trail : Trail new approach links here parts place) (downward : ".." ∉ parts)
    (held : (old.get? place).isSome) : Trail old approach links here parts place := by
  induction trail with
  | stop => exact .stop
  | stay void _ ih => exact .stay void (ih (fun up => downward (List.mem_cons_of_mem _ up)) held)
  | up => exact absurd List.mem_cons_self downward
  | @enter links here place part rest named directory onward ih =>
    have later : ".." ∉ rest := fun up => downward (List.mem_cons_of_mem _ up)
    have spelled := onward.place_eq later fun _ _ _ _ target => linkFree _ target
    have passed : (old.get? (here ++ [part])).isSome := nested.isSome_above (spelled ▸ held)
    obtain ⟨entry, stood⟩ := Option.isSome_iff_exists.mp passed
    rw [extended.get? stood] at directory
    cases directory
    exact .enter named stood (ih later held)
  | reach named free _ =>
    refine .reach named (fun stood => free (extended.get? stood)) ?_
    intro target stood
    exact absurd (extended.get? stood) (linkFree _ target)
  | follow _ link _ _ _ => exact absurd link (linkFree _ _)

theorem Sound.isPresent_of_locate {path : Path} (sound : old.Sound) (extended : Extends old new)
    (linkFree : new.LinkFree) (downward : .up ∉ path.components)
    (located : new.locate path approach = .ok place) (held : (old.get? place).isSome) :
    old.isPresent path = true := by
  have plain := Path.dots_not_mem_of_downward downward
  have found : old.locate path approach = .ok place := by
    have admissible := admissible_of_locate located
    rw [locate_eq_walk admissible, walk_eq_ok_iff_trail] at located ⊢
    rw [extended.start_eq] at located
    exact located.restrict sound.inDirectory extended linkFree plain held
  exact isPresent_iff.mpr ⟨place, locate_of_locate sound.linkFree rfl found, held⟩

end Restrict

end FileTree

end ApiMigration
