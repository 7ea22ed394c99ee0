import ApiMigration.Proofs.Report.Region

/-!
Merging as the replacement of what stands at one site of the document. A merged section that keeps
its markers to its first and last line leaves the site where it was, so later merges take its
place.
-/

namespace ApiMigration.Report

open Text

/-- Markers fit for a section: each is one line that is not blank, and none holds the other. -/
structure ProperMarkers (opening closing : String) : Prop where
  openingSolid : trimmed opening ≠ ""
  closingSolid : trimmed closing ≠ ""
  openingSingle : '\n' ∉ (trimmed opening).toList
  closingSingle : '\n' ∉ (trimmed closing).toList
  openingApart : ¬ (trimmed closing).toList <:+: (trimmed opening).toList
  closingApart : ¬ (trimmed opening).toList <:+: (trimmed closing).toList

/-- A section between its two trimmed markers, with no marker on a line of its body. -/
def Framed (opening closing newSection : String) : Prop :=
  ∃ body : String,
    newSection = trimmed opening ++ "\n" ++ body ++ "\n" ++ trimmed closing ++ "\n" ∧
      ∀ line ∈ fullLines body.toList,
        trim line ≠ (trimmed opening).toList ∧ trim line ≠ (trimmed closing).toList

/-- What surrounds the section after a merge: the surroundings of the marked region, or the document
with an empty line after it. -/
def site (opening closing document : List Char) : Surroundings :=
  (surroundings? opening closing document).getD ⟨document ++ separator document, ['\n']⟩

theorem toList_trimmed (text : String) : (trimmed text).toList = trim text.toList := by
  rw [trimmed, String.toList_ofList]

theorem ProperMarkers.pair {opening closing : String} (proper : ProperMarkers opening closing) :
    MarkerPair (trim opening.toList) (trim closing.toList) where
  openingTrimmed := trim_trim _
  closingTrimmed := trim_trim _
  openingSolid := by
    rw [← toList_trimmed]
    exact fun empty => proper.openingSolid (String.toList_eq_nil_iff.mp empty)
  closingSolid := by
    rw [← toList_trimmed]
    exact fun empty => proper.closingSolid (String.toList_eq_nil_iff.mp empty)
  openingSingle := by
    rw [← toList_trimmed]
    exact proper.openingSingle
  closingSingle := by
    rw [← toList_trimmed]
    exact proper.closingSingle
  distinct := by
    rw [← toList_trimmed, ← toList_trimmed]
    intro same
    apply proper.openingApart
    refine ⟨[], [], ?_⟩
    rw [List.nil_append, List.append_nil]
    exact same.symm

theorem withoutFinalFeed_append_feed (text : List Char) : withoutFinalFeed (text ++ ['\n']) = text := by
  simp [withoutFinalFeed]

theorem separator_blank (document : List Char) : AllBlank (separator document) := by
  intro c member
  have feed : c = '\n' := by
    unfold separator at member
    split at member <;> simp_all
  rw [feed]
  exact isBlank_feed

theorem complete_separator (document : List Char) : Complete (document ++ separator document) := by
  unfold separator
  split
  next empty => exact Or.inl (by simpa using empty)
  next rest ends =>
    refine Or.inr ?_
    rw [List.append_nil, ← List.head?_reverse, ends]
    rfl
  next => exact complete_append_feed document
  next =>
    have regroup : document ++ ['\n', '\n'] = (document ++ ['\n']) ++ ['\n'] := by simp
    rw [regroup]
    exact complete_append_feed _

section Site

variable {opening closing : List Char}

theorem mergeChars_eq_site (document text : List Char) :
    mergeChars opening closing document (text ++ ['\n']) =
      (site opening closing document).before ++ text ++ (site opening closing document).after := by
  cases found : surroundings? opening closing document with
  | none => simp [mergeChars, site, found]
  | some around => simp [mergeChars, site, found, withoutFinalFeed_append_feed]

theorem site_spec (pair : MarkerPair (trim opening) (trim closing)) (document : List Char) :
    AtLineStart (site opening closing document).before ∧
      AtLineEnd (site opening closing document).after ∧
      Unpaired (trim opening) (trim closing)
        (fullLines (site opening closing document).before) := by
  cases found : surroundings? opening closing document with
  | none =>
    have free := (surroundings?_eq_none_iff pair).mp found
    rw [unpaired_iff_solidLines pair] at free
    simp only [site, found, Option.getD_none]
    refine ⟨⟨_, [], (List.append_nil _).symm, complete_separator document, allBlank_nil⟩,
      ⟨[], ['\n'], rfl, allBlank_nil, Or.inr rfl⟩, ?_⟩
    rw [unpaired_iff_solidLines pair, solidLines_append_blank (separator_blank document)]
    exact free
  | some around =>
    obtain ⟨inner, bracketed, -⟩ := (surroundings?_eq_some_iff pair).mp found
    simp only [site, found, Option.getD_some]
    exact ⟨bracketed.start, bracketed.stop, bracketed.free⟩

/-- A section whose markers stand on its first and last line alone is the region of the document it
was merged into, at the site where it was put. -/
theorem surroundings?_mergeChars (pair : MarkerPair (trim opening) (trim closing))
    {middle : List Char} (complete : Complete middle)
    (quiet : Quiet (trim opening) (trim closing) (fullLines middle)) (document : List Char) :
    surroundings? opening closing (mergeChars opening closing document
      (trim opening ++ '\n' :: (middle ++ trim closing) ++ ['\n'])) =
      some (site opening closing document) := by
  obtain ⟨start, stop, free⟩ := site_spec pair document
  have inner_eq : '\n' :: middle = [] ++ '\n' :: (middle ++ []) := by simp
  refine (surroundings?_eq_some_iff pair).mpr ⟨'\n' :: middle, ?_, ?_⟩
  · exact
      { split := by
          rw [mergeChars_eq_site]
          simp
        start := start
        between := ⟨[], middle, [], inner_eq, allBlank_nil, complete, allBlank_nil⟩
        stop := stop
        free := free }
  · rw [quiet_iff_solidLines pair, inner_eq, solidLines_between allBlank_nil allBlank_nil,
      ← quiet_iff_solidLines pair]
    exact quiet

theorem mergeChars_mergeChars (pair : MarkerPair (trim opening) (trim closing))
    {middle : List Char} (complete : Complete middle)
    (quiet : Quiet (trim opening) (trim closing) (fullLines middle)) (document text : List Char) :
    mergeChars opening closing
        (mergeChars opening closing document
          (trim opening ++ '\n' :: (middle ++ trim closing) ++ ['\n'])) (text ++ ['\n']) =
      mergeChars opening closing document (text ++ ['\n']) := by
  rw [mergeChars_eq_site, site, surroundings?_mergeChars pair complete quiet, Option.getD_some,
    ← mergeChars_eq_site]

end Site

theorem Framed.exists_middle {opening closing newSection : String}
    (framed : Framed opening closing newSection)
    (pair : MarkerPair (trim opening.toList) (trim closing.toList)) :
    ∃ middle, Complete middle ∧
      Quiet (trim opening.toList) (trim closing.toList) (fullLines middle) ∧
      newSection.toList = trim opening.toList ++ '\n' :: (middle ++ trim closing.toList)
        ++ ['\n'] := by
  obtain ⟨body, rfl, quiet⟩ := framed
  refine ⟨body.toList ++ ['\n'], complete_append_feed _, ?_, ?_⟩
  · rw [quiet_iff_solidLines pair, solidLines_append_blank allBlank_feed,
      ← quiet_iff_solidLines pair]
    intro line member
    rw [← toList_trimmed, ← toList_trimmed]
    exact quiet line member
  · have feed : "\n".toList = ['\n'] := by decide
    simp only [String.toList_append, toList_trimmed, feed, List.append_assoc, List.cons_append,
      List.nil_append]

theorem merge_merge {opening closing : String} (proper : ProperMarkers opening closing)
    {earlier later : String} (first : Framed opening closing earlier)
    (second : Framed opening closing later) (document : String) :
    merge opening closing (merge opening closing document earlier) later =
      merge opening closing document later := by
  obtain ⟨middle, complete, quiet, earlier_eq⟩ := first.exists_middle proper.pair
  obtain ⟨_, -, -, later_eq⟩ := second.exists_middle proper.pair
  rw [merge, merge, merge, String.toList_ofList, later_eq, earlier_eq,
    mergeChars_mergeChars proper.pair complete quiet]

/-- The last write wins: however many sections are merged one after the other, the result is that of
merging the last of them alone. -/
theorem foldl_merge_eq_merge_last (opening closing : String)
    (proper : ProperMarkers opening closing) (document : String) (earlier : List String)
    (last : String) (framed : ∀ newSection ∈ earlier ++ [last], Framed opening closing newSection) :
    (earlier ++ [last]).foldl (merge opening closing) document =
      merge opening closing document last := by
  have lastFramed : Framed opening closing last := framed last (by simp)
  rw [List.foldl_append, List.foldl_cons, List.foldl_nil]
  -- Each merge before the last is overwritten by it, the nearest one first.
  induction earlier using List.reverseRecOn with
  | nil => rfl
  | append_singleton earlier previous ih =>
    have previousFramed : Framed opening closing previous := framed previous (by simp)
    rw [List.foldl_append, List.foldl_cons, List.foldl_nil,
      merge_merge proper previousFramed lastFramed]
    apply ih
    intro newSection member
    apply framed
    rcases List.mem_append.mp member with member | member
    · exact List.mem_append_left _ (List.mem_append_left _ member)
    · exact List.mem_append_right _ member

theorem properMarkers_padded : ProperMarkers " <b>" "<e>\n" :=
  ⟨by decide +kernel, by decide +kernel, by decide +kernel, by decide +kernel, by decide +kernel,
    by decide +kernel⟩

/-- Two sections for an indented region that has a carriage return after its end marker and stray
markers above it. -/
theorem foldl_merge_indented_region :
    ProperMarkers " <b>" "<e>\n" ∧
      (∀ newSection ∈ ["<b>\none\n<e>\n"] ++ ["<b>\n\n`<e>`\n<e>\n"],
        Framed " <b>" "<e>\n" newSection) ∧
      (["<b>\none\n<e>\n"] ++ ["<b>\n\n`<e>`\n<e>\n"]).foldl (merge " <b>" "<e>\n")
          "<e>\n<b>\n\t<b>\nold\n<e> \r\nlater" =
        merge " <b>" "<e>\n" "<e>\n<b>\n\t<b>\nold\n<e> \r\nlater" "<b>\n\n`<e>`\n<e>\n" := by
  have framed : ∀ newSection ∈ ["<b>\none\n<e>\n"] ++ ["<b>\n\n`<e>`\n<e>\n"],
      Framed " <b>" "<e>\n" newSection := by
    intro newSection member
    simp only [List.cons_append, List.nil_append, List.mem_cons, List.not_mem_nil, or_false]
      at member
    rcases member with rfl | rfl
    · exact ⟨"one", by decide +kernel, by decide +kernel⟩
    · exact ⟨"\n`<e>`", by decide +kernel, by decide +kernel⟩
  exact ⟨properMarkers_padded, framed,
    foldl_merge_eq_merge_last " <b>" "<e>\n" properMarkers_padded _ _ _ framed⟩

end ApiMigration.Report
