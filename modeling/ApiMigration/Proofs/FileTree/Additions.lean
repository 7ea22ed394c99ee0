import ApiMigration.Proofs.FileTree.Found

namespace ApiMigration.FileTree

theorem Proper.set {tree : FileTree} (proper : tree.Proper) {place : Location} {entry : Entry}
    {path : Path} {approach : Approach} (located : tree.locate path approach = .ok place)
    (absent : tree.get? place = none) : (tree.set place entry).Proper := by
  obtain ⟨upper, name, rfl, directory, fileName⟩ :=
    locate_free proper.inDirectory (proper.start path) located absent
  have whole : (tree.set (upper ++ [name]) entry).entries =
      tree.entries ++ [(upper ++ [name], entry)] :=
    setEntry_of_absent (lookup_of_absent absent)
  have extended := Extends.set entry absent
  refine ⟨?_, ?_, ?_, extended.get? proper.working⟩
  · intro other member inner inside
    rw [whole, List.mem_append, List.mem_singleton] at member
    rcases member with member | rfl
    · exact proper.named other member inner inside
    · rcases List.mem_append.mp inside with inside | inside
      · exact proper.isFileName directory inner inside
      · rw [List.mem_singleton.mp inside]
        exact fileName
  · rw [whole, List.map_append, List.nodup_append]
    refine ⟨proper.distinct, List.nodup_singleton _, ?_⟩
    intro other listed same held
    rw [List.map_singleton, List.mem_singleton] at held
    rintro rfl
    rw [held] at listed
    obtain ⟨present, member, spelled⟩ := List.mem_map.mp listed
    have found := List.lookup_eq_none_iff.mp (lookup_of_absent absent) present member
    simp [spelled] at found
  · intro other last held
    apply extended.get?
    rw [get?_set_of_absent entry absent] at held
    split at held
    · next same =>
      rw [List.append_inj_left' same rfl]
      exact directory
    · exact proper.inDirectory other last held

/-- One tree comes from another by putting entries, none of them a link, at free places that paths
lead to. -/
inductive Grown (old : FileTree) : List (Location × Entry) → FileTree → Prop
  | refl : Grown old [] old
  | next {added : List (Location × Entry)} {middle : FileTree} {path : Path} {approach : Approach}
      {place : Location} {entry : Entry} (before : Grown old added middle)
      (located : middle.locate path approach = .ok place) (absent : middle.get? place = none)
      (solid : ∀ target, entry ≠ .link target) :
      Grown old (added ++ [(place, entry)]) (middle.set place entry)

namespace Grown

variable {old new : FileTree} {added : List (Location × Entry)}

theorem extend (grown : Grown old added new) : Extends old new := by
  induction grown with
  | refl => exact .refl old
  | next _ _ absent _ ih => exact ih.trans (.set _ absent)

theorem proper (grown : Grown old added new) (proper : old.Proper) : new.Proper := by
  induction grown with
  | refl => exact proper
  | next _ located absent _ ih => exact ih.set located absent

theorem links (grown : Grown old added new) : LinksWithin new old := by
  induction grown with
  | refl => exact fun _ _ held => held
  | next _ _ absent solid ih =>
    intro place target held
    rw [get?_set_of_absent _ absent] at held
    split at held
    · exact absurd (Option.some.inj held) (solid target)
    · exact ih place target held

theorem locate (grown : Grown old added new) {path : Path} {approach : Approach} {place : Location}
    (located : old.locate path approach = .ok place) : new.locate path approach = .ok place :=
  locate_extend grown.extend grown.links located

theorem trans {third : FileTree} {more : List (Location × Entry)} (first : Grown old added new)
    (second : Grown new more third) : Grown old (added ++ more) third := by
  induction second with
  | refl => simpa using first
  | next _ located absent solid ih =>
    rw [← List.append_assoc]
    exact .next ih located absent solid

theorem get?_cases (grown : Grown old added new) {place : Location} {entry : Entry}
    (held : new.get? place = some entry) :
    old.get? place = some entry ∨ (place, entry) ∈ added := by
  induction grown with
  | refl => exact .inl held
  | next _ _ absent _ ih =>
    rw [get?_set_of_absent _ absent] at held
    split at held
    · next same =>
      cases held
      exact .inr (by simp [same])
    · exact (ih held).imp_right (List.mem_append_left _)

end Grown

theorem Grown.filter_foundBelow {old new : FileTree} {added : List (Location × Entry)}
    (grown : Grown old added new) (proper : old.Proper) (selection : Selection) (base : Location) :
    ((new.foundBelow selection base).filter fun names => (old.get? (base ++ names)).isSome) =
      old.foundBelow selection base := by
  have later := grown.proper proper
  apply eq_of_mem_iff
  · exact (pairwise_foundBelow new selection base).filter _
  · exact (nodup_foundBelow later).filter _
  · exact pairwise_foundBelow old selection base
  · exact nodup_foundBelow proper
  · intro names
    rw [List.mem_filter, mem_foundBelow later, mem_foundBelow proper]
    constructor
    · rintro ⟨⟨accepted, further, bytes, held⟩, stood⟩
      obtain ⟨entry, before⟩ := Option.isSome_iff_exists.mp stood
      have same := grown.extend.get? before
      rw [held] at same
      cases same
      exact ⟨accepted, further, bytes, before⟩
    · rintro ⟨accepted, further, bytes, held⟩
      exact ⟨⟨accepted, further, bytes, grown.extend.get? held⟩, by simp [held]⟩

theorem MakesDirectories.grown {old new : FileTree} (made : MakesDirectories old new) :
    ∃ added, Grown old added new ∧ ∀ entry ∈ added, entry.2 = .directory := by
  induction made with
  | refl => exact ⟨[], .refl, by simp⟩
  | next _ located absent ih =>
    obtain ⟨added, grown, directories⟩ := ih
    refine ⟨_, grown.next located absent (by simp), ?_⟩
    intro entry member
    rcases List.mem_append.mp member with member | member
    · exact directories entry member
    · rw [List.mem_singleton.mp member]

end ApiMigration.FileTree
