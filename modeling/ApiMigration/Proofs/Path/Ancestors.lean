import ApiMigration.Proofs.Path.Relative

namespace ApiMigration.Path

open FileTree

section Text

theorem intercalate_shorter {separator : List Char} {first second : List (List Char)}
    (shorter : first <+: second) :
    List.intercalate separator first <+: List.intercalate separator second := by
  induction first generalizing second with
  | nil => simp
  | cons part first ih =>
    obtain ⟨more, rfl⟩ := shorter
    cases first with
    | nil =>
      cases more with
      | nil => exact List.prefix_refl _
      | cons next more =>
        rw [List.singleton_append, List.intercalate_singleton, List.intercalate_cons_cons,
          List.append_assoc]
        exact List.prefix_append _ _
    | cons next first =>
      rw [List.cons_append, List.cons_append, List.intercalate_cons_cons,
        List.intercalate_cons_cons, List.prefix_append_right_inj]
      exact ih (List.prefix_append _ _)

theorem ofParts_parts (path : Path) : ofParts path.isAbsolute path.parts = path := by
  have whole : List.intercalate ['/'] path.parts = path.unrooted := by
    rw [parts_eq, List.intercalate_splitOn]
  rw [ofParts, whole, unrooted]
  cases rooted : path.isAbsolute with
  | false => simp
  | true =>
    have first : path.text.toList.head? = some '/' := by
      simpa [isAbsolute] using rooted
    obtain ⟨rest, spelled⟩ := List.head?_eq_some_iff.mp first
    simp only [if_true, spelled, List.drop_succ_cons, List.drop_zero]
    rw [← spelled, String.ofList_toList]

theorem exists_text_ofParts {path : Path} {above : List (List Char)} (shorter : above <+: path.parts) :
    ∃ more, path.text = (ofParts path.isAbsolute above).text ++ more := by
  obtain ⟨rest, whole⟩ : List.intercalate ['/'] above <+: List.intercalate ['/'] path.parts :=
    intercalate_shorter shorter
  refine ⟨String.ofList rest, ?_⟩
  nth_rewrite 1 [← ofParts_parts path]
  rw [ofParts, ofParts, ← whole, ← String.ofList_append]
  cases path.isAbsolute <;> rfl

end Text

/-- How a path is written: from the root or not, with these parts that mean something, the last of
them at its end, and no longer than a path may be. -/
structure Spells (path : Path) (rooted : Bool) (parts : List String) : Prop where
  rooted_eq : path.isAbsolute = rooted
  parts_eq : (path.parts.map String.ofList).filter isSolid = parts
  trimmed : parts ≠ [] → ∃ inner last, path.parts = inner ++ [last] ∧ isVoid last = false
  fits : path.text = "" ∨ Admissible path

theorem length_splitOn_le (text : List Char) (separator : Char) :
    (text.splitOn separator).length ≤ text.length + 1 := by
  induction text with
  | nil => simp
  | cons c text ih =>
    rw [List.splitOn_cons_eq_if_modifyHead]
    split
    · simpa using ih
    · rw [List.length_modifyHead, List.length_cons]
      omega

theorem Spells.length_le {path : Path} {rooted : Bool} {parts : List String}
    (spells : path.Spells rooted parts) : parts.length ≤ path.text.length + 1 := by
  have shorter : path.unrooted.length ≤ path.text.toList.length := by
    unfold unrooted
    split
    · simp
    · exact Nat.le_refl _
  calc parts.length = ((path.parts.map String.ofList).filter isSolid).length := by
        rw [spells.parts_eq]
    _ ≤ (path.parts.map String.ofList).length := List.length_filter_le _ _
    _ = path.parts.length := List.length_map _
    _ ≤ path.unrooted.length + 1 := length_splitOn_le _ _
    _ ≤ path.text.length + 1 := by
        rw [← String.length_toList]
        omega

theorem dropVoidEnd_eq_nil_or_concat (parts : List (List Char)) :
    dropVoidEnd parts = [] ∨
      ∃ inner last, dropVoidEnd parts = inner ++ [last] ∧ isVoid last = false := by
  unfold dropVoidEnd
  cases rest : parts.reverse.dropWhile isVoid with
  | nil => exact .inl rfl
  | cons last inner =>
    refine .inr ⟨inner.reverse, last, by simp, ?_⟩
    have stopped := List.head?_dropWhile_not isVoid parts.reverse
    rw [rest] at stopped
    simpa using stopped

theorem Spells.admissible {path : Path} {rooted : Bool} {parts : List String}
    (spells : path.Spells rooted parts) (further : parts ≠ []) : Admissible path := by
  refine spells.fits.resolve_left ?_
  intro empty
  have blank : path.parts = [[]] := by
    simp [Path.parts, isAbsolute, empty]
  have nothing := spells.parts_eq
  rw [blank] at nothing
  exact further nothing.symm

theorem Spells.parent {path : Path} {rooted : Bool} {parts : List String} {name : String}
    (spells : path.Spells rooted (parts ++ [name])) :
    ∃ parent, path.parent? = some parent ∧ parent.Spells rooted parts := by
  obtain ⟨inner, last, split, solid⟩ := spells.trimmed (by simp)
  have admissible := spells.admissible (by simp)
  -- a leading dot is not the last part
  obtain ⟨behind, whole, kept⟩ : ∃ behind, path.body = behind ++ [last] ∧
      (behind.filter fun part => !isVoid part) = inner.filter fun part => !isVoid part := by
    cases here : path.startsHere with
    | false => exact ⟨inner, by rw [body, here, if_neg Bool.false_ne_true, split], rfl⟩
    | true =>
      rw [parts_eq_of_startsHere here] at split
      cases inner with
      | nil =>
        cases (List.cons.inj split).1
        cases solid
      | cons first inner =>
        obtain ⟨rfl, rest⟩ := List.cons.inj split
        exact ⟨inner, rest, rfl⟩
  have spelled : (inner.map String.ofList).filter isSolid = parts := by
    have all := spells.parts_eq
    rw [split, List.map_append, List.filter_append, List.map_singleton, List.filter_singleton,
      isSolid_ofList, solid] at all
    exact (List.append_inj' all rfl).1
  have shorter : dropVoidEnd behind <+: path.body :=
    (isPrefix_dropVoidEnd behind).trans (whole ▸ List.prefix_append _ _)
  obtain ⟨same, _, remain, ended⟩ := withBody_starts admissible.written shorter
  refine ⟨path.withBody (dropVoidEnd behind), ?_, same.trans spells.rooted_eq, ?_, ?_, ?_⟩
  · rw [parent?, whole, dropLast?_concat solid]
  · rw [filter_map_ofList, remain, filter_dropVoidEnd, kept, ← filter_map_ofList, spelled]
  · intro further
    rcases dropVoidEnd_eq_nil_or_concat behind with none | ⟨ahead, next, whole, solid⟩
    · have nothing := filter_dropVoidEnd behind
      rw [none, kept] at nothing
      rw [filter_map_ofList, ← nothing] at spelled
      exact absurd spelled.symm further
    · obtain ⟨start, all⟩ := ended (by simp [whole])
      exact ⟨start ++ ahead, next, by rw [all, whole, List.append_assoc], solid⟩
  · have fewer : (if path.startsHere then ['.'] :: dropVoidEnd behind else dropVoidEnd behind) <+:
        path.parts := by
      cases here : path.startsHere with
      | true =>
        rw [if_pos rfl, parts_eq_of_startsHere here, List.prefix_cons_inj]
        exact shorter
      | false =>
        rw [body, here, if_neg Bool.false_ne_true] at shorter
        exact shorter
    obtain ⟨more, longer⟩ := exists_text_ofParts fewer
    by_cases empty : (path.withBody (dropVoidEnd behind)).text = ""
    · exact .inl empty
    · exact .inr (admissible.of_text longer empty)

theorem exists_cut {parts front after : List String} {name : String}
    (whole : parts.filter isSolid = front ++ name :: after) :
    ∃ before rest, parts = before ++ name :: rest ∧ before.filter isSolid = front ∧
      rest.filter isSolid = after := by
  obtain ⟨first, second, rfl, kept, more⟩ := List.filter_eq_append_iff.mp whole
  obtain ⟨void, rest, rfl, nothing, _, others⟩ := List.filter_eq_cons_iff.mp more
  refine ⟨first ++ void, rest, by simp, ?_, others⟩
  rw [List.filter_append, kept, List.filter_eq_nil_iff.mpr nothing, List.append_nil]

theorem Spells.cut {path : Path} {rooted : Bool} {front after : List String} {name : String}
    (spells : path.Spells rooted (front ++ name :: after)) :
    ∃ before rest, path.parts.map String.ofList = before ++ name :: rest ∧
      before.filter isSolid = front ∧ rest.filter isSolid = after ∧ (after = [] → rest = []) := by
  obtain ⟨before, rest, whole, kept, others⟩ := exists_cut spells.parts_eq
  refine ⟨before, rest, whole, kept, others, ?_⟩
  rintro rfl
  obtain ⟨inner, last, split, solid⟩ := spells.trimmed (by simp)
  by_contra further
  obtain ⟨ahead, final, rfl⟩ := (List.eq_nil_or_concat' rest).resolve_left further
  have ended : String.ofList last = final := by
    have tails : inner.map String.ofList ++ [String.ofList last] =
        (before ++ name :: ahead) ++ [final] := by
      rw [← List.map_singleton, ← List.map_append, ← split, whole]
      simp
    exact List.singleton_inj.mp (List.append_inj' tails rfl).2
  have kept : final ∈ (ahead ++ [final]).filter isSolid := by
    refine List.mem_filter.mpr ⟨by simp, ?_⟩
    rw [← ended, isSolid_ofList, solid]
    rfl
  rw [others] at kept
  cases kept

theorem spells_joinAll {root : Path} {names : List String} (written : root.text ≠ "")
    (further : names ≠ []) (solid : ∀ name ∈ names, isSolid name = true)
    (slashFree : ∀ name ∈ names, '/' ∉ name.toList) (admissible : Admissible (root.joinAll names)) :
    (root.joinAll names).Spells root.isAbsolute
      ((root.parts.map String.ofList).filter isSolid ++ names) := by
  have named : ∀ name ∈ names, name ≠ "" := by
    rintro _ member rfl
    exact absurd (solid "" member) (by decide)
  obtain ⟨_, same, front, spelled, whole⟩ := parts_joinAll written further named slashFree
  have read : (names.map String.toList).map String.ofList = names := by
    simp [Function.comp_def]
  refine ⟨same, ?_, ?_, .inr admissible⟩
  · rw [whole, List.map_append, List.filter_append, read, List.filter_eq_self.mpr solid]
    rcases spelled with spelled | spelled
    · rw [spelled]
    · simp [spelled, isSolid]
  · intro _
    obtain ⟨upper, last, rfl⟩ := (List.eq_nil_or_concat' names).resolve_left further
    refine ⟨front ++ upper.map String.toList, last.toList, by simp [whole], ?_⟩
    have kept := solid last (by simp)
    rw [← String.ofList_toList (s := last), isSolid_ofList] at kept
    simpa using kept

end ApiMigration.Path
