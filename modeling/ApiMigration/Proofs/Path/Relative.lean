import ApiMigration.Proofs.FileTree.Found
import ApiMigration.Proofs.Text.Joined
import ApiMigration.Target.Repackage

namespace ApiMigration

namespace Path

section OfParts

variable {absolute : Bool} {parts : List (List Char)}

theorem isAbsolute_ofParts (clean : ∀ part ∈ parts, '/' ∉ part)
    (begins : absolute = false → parts.head? ≠ some []) :
    (ofParts absolute parts).isAbsolute = absolute := by
  cases absolute with
  | true => simp [ofParts, isAbsolute]
  | false =>
    cases parts with
    | nil => rfl
    | cons part more =>
      have solid : part ≠ [] := fun empty => begins rfl (by simp [empty])
      obtain ⟨c, rest, rfl⟩ := List.exists_cons_of_ne_nil solid
      have other : c ≠ '/' := by
        rintro rfl
        exact clean _ List.mem_cons_self List.mem_cons_self
      cases more with
      | nil => simp [ofParts, isAbsolute, other]
      | cons next more => simp [ofParts, isAbsolute, other, List.intercalate]

theorem parts_ofParts (clean : ∀ part ∈ parts, '/' ∉ part)
    (begins : absolute = false → parts.head? ≠ some []) :
    (ofParts absolute parts).parts = if parts = [] then [[]] else parts := by
  have written : (ofParts absolute parts).unrooted = List.intercalate ['/'] parts := by
    rw [unrooted, isAbsolute_ofParts clean begins]
    cases absolute <;> simp [ofParts]
  rw [parts_eq, written]
  split
  · next none => simp [none]
  · next solid => exact List.splitOn_intercalate '/' clean solid

end OfParts

theorem afterComponents_eq {parts taken left : List (List Char)}
    (solid : (parts.filter fun part => !isVoid part) = taken ++ left) :
    ∃ rest, afterComponents (taken.map Component.ofPart) parts = some rest ∧
      (rest.filter fun part => !isVoid part) = left ∧ rest ⊆ parts := by
  induction parts generalizing taken with
  | nil =>
    obtain ⟨rfl, rfl⟩ := List.append_eq_nil_iff.mp solid.symm
    exact ⟨[], rfl, rfl, List.Subset.refl _⟩
  | cons part parts ih =>
    cases taken with
    | nil => exact ⟨part :: parts, rfl, solid, List.Subset.refl _⟩
    | cons first taken =>
      by_cases void : isVoid part = true
      · rw [List.filter_cons_of_neg (by simp [void])] at solid
        obtain ⟨rest, after, kept, inside⟩ := ih solid
        refine ⟨rest, ?_, kept, List.subset_cons_of_subset _ inside⟩
        rw [List.map_cons, afterComponents, if_pos void]
        exact after
      · rw [List.filter_cons_of_pos (by simpa using void), List.cons_append] at solid
        obtain ⟨rfl, further⟩ := List.cons.inj solid
        obtain ⟨rest, after, kept, inside⟩ := ih further
        refine ⟨rest, ?_, kept, List.subset_cons_of_subset _ inside⟩
        rw [List.map_cons, afterComponents, if_neg void, if_pos rfl]
        exact after

theorem filter_dropWhile_isVoid (parts : List (List Char)) :
    ((parts.dropWhile isVoid).filter fun part => !isVoid part) =
      parts.filter fun part => !isVoid part := by
  induction parts with
  | nil => rfl
  | cons part parts ih =>
    by_cases void : isVoid part = true
    · rw [List.dropWhile_cons_of_pos void, List.filter_cons_of_neg (by simp [void]), ih]
    · rw [List.dropWhile_cons_of_neg void]

theorem filter_dropVoidEnd (parts : List (List Char)) :
    ((dropVoidEnd parts).filter fun part => !isVoid part) =
      parts.filter fun part => !isVoid part := by
  rw [dropVoidEnd, List.filter_reverse, filter_dropWhile_isVoid, List.filter_reverse,
    List.reverse_reverse]

theorem isPrefix_dropVoidEnd (parts : List (List Char)) : dropVoidEnd parts <+: parts := by
  have ending := List.dropWhile_suffix isVoid (l := parts.reverse)
  simpa [dropVoidEnd] using List.reverse_prefix.mpr ending

theorem dropLast?_concat {last : List Char} (solid : isVoid last = false)
    (parts : List (List Char)) : dropLast? (parts ++ [last]) = some (dropVoidEnd parts) := by
  simp [dropLast?, dropVoidEnd, solid]

theorem directoryNames_ofParts {parts : List (List Char)} (clean : ∀ part ∈ parts, '/' ∉ part)
    (begins : ∀ part, parts.head? = some part → isVoid part = false) :
    Target.directoryNames (ofParts false parts) =
      (parts.filter fun part => !isVoid part).filterMap fun part =>
        if part = ['.', '.'] then none else some (String.ofList part) := by
  have solid : parts.head? ≠ some [] := by
    intro first
    have wrong := begins [] first
    revert wrong
    decide
  rw [directoryNames_eq_filterMap, parts_ofParts clean fun _ => solid]
  split
  · next none =>
    rw [none]
    rfl
  · rfl

theorem filterMap_names {names : List String} (onward : ∀ name ∈ names, name ≠ "..") :
    ((names.map String.toList).filterMap fun part =>
      if part = ['.', '.'] then none else some (String.ofList part)) = names := by
  have each : ∀ name ∈ names, ((fun part => if part = ['.', '.'] then none
      else some (String.ofList part)) ∘ String.toList) name = some name := by
    intro name member
    have other : name.toList ≠ ['.', '.'] := by
      intro dots
      exact onward name member (String.toList_inj.mp (dots.trans (by decide)))
    simp [other]
  rw [List.filterMap_map, List.filterMap_congr each, List.filterMap_some]

theorem anchor_cases (path : Path) : path.anchor = [] ∨ ∃ start, path.anchor = [start] := by
  unfold anchor
  split
  · exact .inr ⟨_, rfl⟩
  split
  · exact .inr ⟨_, rfl⟩
  · exact .inl rfl

theorem body_subset (path : Path) : path.body ⊆ path.parts := by
  unfold body
  split
  · exact List.drop_subset _ _
  · exact List.Subset.refl _

/-- A path is relative to another by what is left of its body without the components of the other. -/
theorem relativeTo?_of_afterComponents {path base : Path} {rest : List (List Char)}
    (written : base.components ≠ []) (anchored : path.anchor = base.anchor)
    (after : afterComponents ((base.body.filter fun part => !isVoid part).map Component.ofPart)
      path.body = some rest) :
    path.relativeTo? base = some (ofParts false (dropVoidEnd (rest.dropWhile isVoid))) := by
  have whole : base.components = base.anchor ++
      (base.body.filter fun part => !isVoid part).map Component.ofPart := rfl
  unfold relativeTo?
  rw [anchored]
  rcases anchor_cases base with none | ⟨start, one⟩
  · rw [none, List.nil_append] at whole
    rw [whole] at written ⊢
    obtain ⟨first, more, split⟩ := List.exists_cons_of_ne_nil written
    rw [split] at after ⊢
    simp [none, after]
  · rw [one, List.singleton_append] at whole
    rw [whole]
    simp [one, after]

theorem relativeTo?_eq {path base : Path} {taken left : List (List Char)}
    (written : base.components ≠ []) (anchored : path.anchor = base.anchor)
    (spelled : (base.body.filter fun part => !isVoid part) = taken)
    (solid : (path.body.filter fun part => !isVoid part) = taken ++ left) :
    ∃ rest, path.relativeTo? base = some (ofParts false (dropVoidEnd (rest.dropWhile isVoid))) ∧
      (rest.filter fun part => !isVoid part) = left ∧ rest ⊆ path.body := by
  obtain ⟨rest, after, kept, inside⟩ := afterComponents_eq solid
  rw [← spelled] at after
  exact ⟨rest, relativeTo?_of_afterComponents written anchored after, kept, inside⟩

theorem directoryNames_relativeTo? {path base : Path} {names : List String}
    (written : base.components ≠ []) (anchored : path.anchor = base.anchor)
    (named : ∀ name ∈ names, FileTree.IsFileName name)
    (solid : (path.body.filter fun part => !isVoid part) =
      (base.body.filter fun part => !isVoid part) ++ names.map String.toList) :
    ∃ relative, path.relativeTo? base = some relative ∧ Target.directoryNames relative = names := by
  obtain ⟨rest, taken, kept, inside⟩ := relativeTo?_eq written anchored rfl solid
  refine ⟨_, taken, ?_⟩
  have shorter := isPrefix_dropVoidEnd (rest.dropWhile isVoid)
  rw [directoryNames_ofParts]
  · rw [filter_dropVoidEnd, filter_dropWhile_isVoid, kept]
    exact filterMap_names fun name member => (named name member).downward
  · intro part member
    apply slash_not_mem_of_mem_parts
    exact body_subset path (inside ((List.dropWhile_sublist _).mem (shorter.mem member)))
  · intro part first
    have begun : (rest.dropWhile isVoid).head? = some part := by
      obtain ⟨more, whole⟩ := shorter
      rw [← whole, List.head?_append, first]
      rfl
    have stopped := List.head?_dropWhile_not isVoid rest
    rw [begun] at stopped
    simpa using stopped

theorem head?_parts_ne {path : Path} (written : path.text ≠ "")
    (relative : path.isAbsolute = false) : path.parts.head? ≠ some [] := by
  have solid : path.text.toList ≠ [] := fun empty => written (String.toList_eq_nil_iff.mp empty)
  obtain ⟨c, rest, spelled⟩ := List.exists_cons_of_ne_nil solid
  have other : (c == '/') = false := by
    simpa [isAbsolute, spelled] using relative
  rw [parts_eq, unrooted, relative, if_neg Bool.false_ne_true, spelled,
    List.splitOn_cons_eq_if_modifyHead, other, if_neg Bool.false_ne_true]
  obtain ⟨head, more, split⟩ := List.exists_cons_of_ne_nil (List.splitOn_ne_nil '/' rest)
  simp [split]

theorem components_ne_nil {path : Path} (written : path.text ≠ "") : path.components ≠ [] := by
  intro none
  rw [components, List.append_eq_nil_iff, List.map_eq_nil_iff] at none
  obtain ⟨unanchored, void⟩ := none
  unfold anchor at unanchored
  split at unanchored
  · cases unanchored
  next relative =>
  split at unanchored
  · cases unanchored
  next elsewhere =>
  obtain ⟨first, more, split⟩ := List.exists_cons_of_ne_nil path.parts_ne_nil
  have solid : first ≠ [] := by
    have begins := head?_parts_ne written (by simpa using relative)
    simpa [split] using begins
  have other : first ≠ ['.'] := by
    simpa [startsHere, relative, split] using elsewhere
  rw [body, if_neg elsewhere, split] at void
  simp [isVoid, solid, other] at void

section WithBody

variable {path : Path} {above : List (List Char)}

theorem withBody_starts (written : path.text ≠ "") (shorter : above <+: path.body) :
    (path.withBody above).isAbsolute = path.isAbsolute ∧
      (path.withBody above).startsHere = path.startsHere ∧
      ((path.withBody above).parts.filter fun part => !isVoid part) =
        (above.filter fun part => !isVoid part) ∧
      (above ≠ [] → ∃ start, (path.withBody above).parts = start ++ above) := by
  have clean : ∀ part ∈ if path.startsHere then ['.'] :: above else above, '/' ∉ part := by
    intro part member
    have listed : part = ['.'] ∨ part ∈ above := by
      split at member
      · exact List.mem_cons.mp member
      · exact .inr member
    rcases listed with rfl | listed
    · decide
    · exact slash_not_mem_of_mem_parts (body_subset path (shorter.mem listed))
  have begins : path.startsHere = false → above ≠ [] → above.head? = path.parts.head? := by
    intro elsewhere solid
    obtain ⟨part, more, rfl⟩ := List.exists_cons_of_ne_nil solid
    obtain ⟨rest, whole⟩ := shorter
    rw [body, elsewhere, if_neg Bool.false_ne_true] at whole
    rw [← whole]
    rfl
  have begun : path.isAbsolute = false →
      (if path.startsHere then ['.'] :: above else above).head? ≠ some [] := by
    intro relative
    cases here : path.startsHere with
    | true => simp
    | false =>
      by_cases none : above = []
      · simp [none]
      · rw [if_neg Bool.false_ne_true, begins here none]
        exact head?_parts_ne written relative
  have same : (path.withBody above).isAbsolute = path.isAbsolute :=
    isAbsolute_ofParts clean begun
  have spelled : (path.withBody above).parts = _ := parts_ofParts clean begun
  refine ⟨same, ?_, ?_, ?_⟩
  · rw [startsHere, same, spelled]
    cases here : path.startsHere with
    | true =>
      have relative : path.isAbsolute = false := by
        simp only [startsHere, Bool.and_eq_true, Bool.not_eq_true'] at here
        exact here.1
      simp [relative]
    | false =>
      by_cases none : above = []
      · simp [none]
      · simp only [Bool.false_eq_true, if_false, none, begins here none]
        exact here
  · rw [spelled]
    cases path.startsHere with
    | true => simp [isVoid]
    | false =>
      by_cases none : above = []
      · simp [none, isVoid]
      · simp [none]
  · intro solid
    rw [spelled]
    cases path.startsHere with
    | true => exact ⟨[['.']], by simp⟩
    | false => exact ⟨[], by simp [solid]⟩

end WithBody

theorem joinAll_starts {root : Path} {names : List String} (written : root.text ≠ "")
    (further : names ≠ []) (plain : ∀ name ∈ names, IsPlain name) :
    (root.joinAll names).isAbsolute = root.isAbsolute ∧
      (root.joinAll names).startsHere = root.startsHere ∧
      ∃ inner, (root.body = inner ∨ root.body = inner ++ [[]]) ∧
        (root.joinAll names).body = inner ++ names.map String.toList := by
  obtain ⟨_, same, front, spelled, whole⟩ := parts_joinAll written further
    (fun name member => (plain name member).solid)
    (fun name member => (plain name member).slashFree)
  cases front with
  | nil =>
    have slash : root.parts = [[]] := (spelled.resolve_left root.parts_ne_nil)
    have absolute : root.isAbsolute = true := by
      by_contra relative
      exact head?_parts_ne written (by simpa using relative) (by simp [slash])
    have here : (root.joinAll names).startsHere = root.startsHere := by
      simp [startsHere, same, absolute]
    have elsewhere : root.startsHere = false := by
      simp [startsHere, absolute]
    refine ⟨same, here, [], .inr ?_, ?_⟩
    · simp [body, elsewhere, slash]
    · simp [body, here, elsewhere, whole]
  | cons first front =>
    have here : (root.joinAll names).startsHere = root.startsHere := by
      rcases spelled with spelled | spelled <;> simp [startsHere, same, whole, spelled]
    refine ⟨same, here, ?_⟩
    unfold body
    rw [here, whole]
    cases root.startsHere with
    | true => exact ⟨front, by rcases spelled with spelled | spelled <;> simp [spelled], by simp⟩
    | false => exact ⟨first :: front, spelled, rfl⟩

theorem filter_parts_joinAll {root : Path} {names : List String} (written : root.text ≠ "")
    (solid : ∀ name ∈ names, isVoid name.toList = false)
    (slashFree : ∀ name ∈ names, '/' ∉ name.toList) :
    ((root.joinAll names).parts.filter fun part => !isVoid part) =
      (root.parts.filter fun part => !isVoid part) ++ names.map String.toList := by
  by_cases further : names = []
  · simp [further, joinAll]
  have named : ∀ name ∈ names, name ≠ "" := by
    rintro name member rfl
    exact absurd (solid "" member) (by decide)
  obtain ⟨_, _, front, spelled, whole⟩ := parts_joinAll written further named slashFree
  have kept : ((names.map String.toList).filter fun part => !isVoid part) =
      names.map String.toList := by
    rw [List.filter_eq_self, List.forall_mem_map]
    intro name member
    simp [solid name member]
  have same : (root.parts.filter fun part => !isVoid part) =
      front.filter fun part => !isVoid part := by
    rcases spelled with spelled | spelled
    · rw [spelled]
    · simp [spelled, isVoid]
  rw [whole, List.filter_append, kept, same]

theorem map_ofPart {names : List String} (plain : ∀ name ∈ names, IsPlain name) :
    (names.map String.toList).map Component.ofPart = names.map Component.name := by
  rw [List.map_map, List.map_inj_left]
  exact fun name member => (plain name member).ofPart

theorem components_joinAll {root : Path} {names : List String} (written : root.text ≠ "")
    (plain : ∀ name ∈ names, IsPlain name) :
    (root.joinAll names).components = root.components ++ names.map Component.name := by
  by_cases further : names = []
  · simp [further, joinAll]
  obtain ⟨same, here, _⟩ := joinAll_starts written further plain
  rw [components, components, anchor, anchor, same, here, ← filter_parts, ← filter_parts,
    filter_parts_joinAll written (fun name member => (plain name member).isVoid)
      (fun name member => (plain name member).slashFree),
    List.map_append, map_ofPart plain, List.append_assoc]

theorem afterComponents_append (front left : List (List Char)) :
    ∃ void, (∀ part ∈ void, isVoid part = true) ∧
      afterComponents ((front.filter fun part => !isVoid part).map Component.ofPart)
        (front ++ left) = some (void ++ left) := by
  induction front with
  | nil => exact ⟨[], by simp, by simp [afterComponents]⟩
  | cons part front ih =>
    obtain ⟨void, each, after⟩ := ih
    by_cases nothing : isVoid part = true
    · rw [List.filter_cons_of_neg (by simp [nothing])]
      by_cases last : (front.filter fun part => !isVoid part) = []
      · refine ⟨part :: front, ?_, by simp [last, afterComponents]⟩
        rw [List.filter_eq_nil_iff] at last
        exact List.forall_mem_cons.mpr ⟨nothing, by simpa using last⟩
      · obtain ⟨first, more, split⟩ := List.exists_cons_of_ne_nil last
        refine ⟨void, each, ?_⟩
        rw [split, List.map_cons] at after ⊢
        rw [List.cons_append, afterComponents, if_pos nothing, after]
    · refine ⟨void, each, ?_⟩
      rw [List.filter_cons_of_pos (by simpa using nothing), List.map_cons, List.cons_append,
        afterComponents, if_neg nothing, if_pos rfl, after]

theorem relativeTo?_joinAll {root : Path} {names : List String} (written : root.text ≠ "")
    (further : names ≠ []) (plain : ∀ name ∈ names, IsPlain name) :
    (root.joinAll names).relativeTo? root = some ⟨Text.joinWith "/" names⟩ := by
  obtain ⟨same, here, inner, spelled, whole⟩ := joinAll_starts written further plain
  have front : (root.body.filter fun part => !isVoid part) =
      inner.filter fun part => !isVoid part := by
    rcases spelled with spelled | spelled
    · rw [spelled]
    · simp [spelled, isVoid]
  obtain ⟨void, each, after⟩ := afterComponents_append inner (names.map String.toList)
  rw [← front, ← whole] at after
  have anchored : (root.joinAll names).anchor = root.anchor := by
    rw [anchor, anchor, same, here]
  have kept {parts : List String} (plain : ∀ name ∈ parts, IsPlain name) :
      (parts.map String.toList).dropWhile isVoid = parts.map String.toList := by
    cases parts with
    | nil => rfl
    | cons name parts =>
      rw [List.map_cons, List.dropWhile_cons_of_neg]
      simp [(plain name List.mem_cons_self).isVoid]
  have ended : dropVoidEnd (names.map String.toList) = names.map String.toList := by
    have reversed := kept fun name member => plain name (List.mem_reverse.mp member)
    rw [dropVoidEnd, ← List.map_reverse, reversed, List.map_reverse, List.reverse_reverse]
  rw [relativeTo?_of_afterComponents (components_ne_nil written) anchored after,
    List.dropWhile_append_of_pos each, kept plain, ended, ofParts, if_neg Bool.false_ne_true,
    ← String.ofList_toList (s := Text.joinWith "/" names), Text.toList_joinWith]
  rfl

theorem joinAll_inj_of_components {root : Path} {names others : List String}
    (written : root.text ≠ "") (plain : ∀ name ∈ names, IsPlain name)
    (otherPlain : ∀ name ∈ others, IsPlain name)
    (same : (root.joinAll names).components = (root.joinAll others).components) :
    names = others := by
  rw [components_joinAll written plain, components_joinAll written otherPlain] at same
  have injective : Function.Injective Component.name := fun _ _ => Component.name.inj
  exact injective.list_map (List.append_cancel_left same)

theorem exists_parent_joinAll {root : Path} {upper : List String} {last : String}
    (written : root.text ≠ "") (named : ∀ name ∈ upper ++ [last], FileTree.IsFileName name) :
    ∃ parent, (root.joinAll (upper ++ [last])).parent? = some parent ∧
      parent.anchor = root.anchor ∧
      (parent.body.filter fun part => !isVoid part) =
        (root.body.filter fun part => !isVoid part) ++ upper.map String.toList := by
  have further : upper ++ [last] ≠ [] := by simp
  obtain ⟨same, here, inner, spelled, whole⟩ := joinAll_starts written further
    fun name member => (named name member).plain
  obtain ⟨long, _⟩ := parts_joinAll written further
    (fun name member => (named name member).solid)
    (fun name member => (named name member).slashFree)
  rw [List.map_append, List.map_singleton, ← List.append_assoc] at whole
  have shorter : dropVoidEnd (inner ++ upper.map String.toList) <+:
      (root.joinAll (upper ++ [last])).body :=
    (isPrefix_dropVoidEnd _).trans (whole ▸ List.prefix_append _ _)
  obtain ⟨rooted, started, kept, _⟩ := withBody_starts long shorter
  have above : (root.joinAll (upper ++ [last])).parent? =
      some ((root.joinAll (upper ++ [last])).withBody
        (dropVoidEnd (inner ++ upper.map String.toList))) := by
    rw [parent?, whole, dropLast?_concat (named last (by simp)).plain.isVoid]
  refine ⟨_, above, ?_, ?_⟩
  · rw [anchor, anchor, rooted, started, same, here]
  · have solid : ((upper.map String.toList).filter fun part => !isVoid part) =
        upper.map String.toList := by
      rw [List.filter_eq_self]
      intro part listed
      obtain ⟨name, member, rfl⟩ := List.mem_map.mp listed
      simp [(named name (List.mem_append_left _ member)).plain.isVoid]
    have front : (root.body.filter fun part => !isVoid part) =
        inner.filter fun part => !isVoid part := by
      rcases spelled with spelled | spelled
      · rw [spelled]
      · simp [spelled, isVoid]
    rw [← filter_parts, kept, filter_dropVoidEnd, List.filter_append, solid, front]

end Path

theorem Target.packageAt_joinAll {root : Path} {names : List String} (written : root.text ≠ "")
    (further : names ≠ []) (named : ∀ name ∈ names, FileTree.IsFileName name)
    (rootPackage : String) :
    packageAt root rootPackage (root.joinAll names) =
      Text.joinWith "." (rootPackage :: names.dropLast) := by
  obtain ⟨upper, last, rfl⟩ := (List.eq_nil_or_concat' names).resolve_left further
  obtain ⟨parent, above, anchored, solid⟩ := Path.exists_parent_joinAll written named
  obtain ⟨relative, taken, spells⟩ := Path.directoryNames_relativeTo?
    (Path.components_ne_nil written) anchored
    (fun name member => named name (List.mem_append_left [last] member)) solid
  rw [packageAt, above, Option.bind_some, taken, Option.getD_some, packageFor, spells,
    List.dropLast_concat]

end ApiMigration
