import ApiMigration.Proofs.FileTree.Overwrite
import ApiMigration.Proofs.Report.Replacement
import ApiMigration.Proofs.Text.Utf8
import ApiMigration.Report.Document

/-!
Histories of a document. However many sections are merged into the file at a path, one after the
other, each leaves the document that merging it alone into the first one gives, and the outcomes
tell the sections apart. A document that cannot be created stays missing, and one that cannot be
read stays as it is.
-/

namespace ApiMigration.Report

open FileTree Text

/-- A section whose first and last line are the markers, with no marker on a line in between. -/
def Delimited (opening closing newSection : String) : Prop :=
  ∃ body, fullLines newSection.toList =
      ((trimmed opening).toList ++ ['\n']) :: (body ++ [(trimmed closing).toList ++ ['\n']]) ∧
    Quiet (trimmed opening).toList (trimmed closing).toList body

section Merge

variable {opening closing newSection earlier later : String}

theorem Delimited.exists_middle (delimited : Delimited opening closing newSection) :
    ∃ middle, Complete middle ∧
      Quiet (trim opening.toList) (trim closing.toList) (fullLines middle) ∧
      newSection.toList = trim opening.toList ++ '\n' :: (middle ++ trim closing.toList)
        ++ ['\n'] := by
  obtain ⟨body, lines, quiet⟩ := delimited
  rw [toList_trimmed, toList_trimmed] at lines quiet
  rw [← List.singleton_append] at lines
  obtain ⟨-, rest, -⟩ := fullLines_cut lines
  obtain ⟨bodyLines, -, ends⟩ := fullLines_cut rest
  refine ⟨body.flatten, ends.resolve_left (by simp), by rwa [bodyLines], ?_⟩
  rw [← flatten_fullLines newSection.toList, lines]
  simp

theorem Delimited.ne_empty (delimited : Delimited opening closing newSection) :
    newSection ≠ "" := by
  rintro rfl
  obtain ⟨body, lines, -⟩ := delimited
  cases lines

theorem Delimited.merge_merge (proper : ProperMarkers opening closing)
    (first : Delimited opening closing earlier) (second : Delimited opening closing later)
    (document : String) :
    merge opening closing (merge opening closing document earlier) later =
      merge opening closing document later := by
  obtain ⟨middle, complete, quiet, earlier_eq⟩ := first.exists_middle
  obtain ⟨_, -, -, later_eq⟩ := second.exists_middle
  rw [merge, merge, merge, String.toList_ofList, later_eq, earlier_eq,
    mergeChars_mergeChars proper.pair complete quiet]

theorem Delimited.merge_inj (first : Delimited opening closing earlier)
    (second : Delimited opening closing later) {document : String} :
    merge opening closing document earlier = merge opening closing document later ↔
      earlier = later := by
  obtain ⟨_, -, -, earlier_eq⟩ := first.exists_middle
  obtain ⟨_, -, -, later_eq⟩ := second.exists_middle
  rw [merge, merge, String.ofList_inj, earlier_eq, later_eq, mergeChars_eq_site,
    mergeChars_eq_site, List.append_left_inj, List.append_right_inj, ← String.toList_inj,
    earlier_eq, later_eq, List.append_left_inj]

theorem hasRegion_eq_false_iff (proper : ProperMarkers opening closing) {document : String} :
    hasRegion opening closing document = false ↔
      Unpaired (trimmed opening).toList (trimmed closing).toList (fullLines document.toList) := by
  rw [hasRegion, Option.isSome_eq_false_iff, Option.isNone_iff_eq_none,
    surroundings?_eq_none_iff proper.pair, toList_trimmed, toList_trimmed]

theorem Delimited.hasRegion_merge (proper : ProperMarkers opening closing)
    (delimited : Delimited opening closing newSection) (document : String) :
    hasRegion opening closing (merge opening closing document newSection) = true := by
  obtain ⟨middle, complete, quiet, section_eq⟩ := delimited.exists_middle
  rw [hasRegion, merge, String.toList_ofList, section_eq,
    surroundings?_mergeChars proper.pair complete quiet]
  rfl

theorem merge_ne_of_not_hasRegion {document : String} (solid : newSection ≠ "")
    (without : hasRegion opening closing document = false) :
    merge opening closing document newSection ≠ document := by
  intro same
  have missing : surroundings? opening.toList closing.toList document.toList = none := by
    simpa [hasRegion] using without
  have lengths := congrArg (fun text => text.toList.length) same
  simp only [merge, mergeChars, missing, String.toList_ofList, List.length_append] at lengths
  have nothing : newSection.toList = [] := List.length_eq_zero_iff.mp (by omega)
  exact solid (String.toList_eq_nil_iff.mp nothing)

theorem Delimited.merge_empty_ne (proper : ProperMarkers opening closing)
    (delimited : Delimited opening closing newSection) :
    merge opening closing "" newSection ≠ "" := by
  apply merge_ne_of_not_hasRegion delimited.ne_empty
  exact (hasRegion_eq_false_iff proper).mpr List.Pairwise.nil

end Merge

/-- The document at a path; a file that is missing is an empty one. -/
def HoldsDocument (tree : FileTree) (path : Path) (document : String) : Prop :=
  tree.read path = .ok (textBytes document) ∨ tree.read path = .error .notFound ∧ document = ""

/-- A file can be made at a path: the path goes through directories and on by names that files can
have, the last of them at its end, and nothing has the first of these names. -/
def Creatable (tree : FileTree) (path : Path) : Prop :=
  ∃ front upper first more, path.Spells path.isAbsolute (front ++ first :: more) ∧
    Entered tree path.isAbsolute front upper ∧ (∀ name ∈ first :: more, IsFileName name) ∧
    tree.get? (upper ++ [first]) = none

def Writable (tree : FileTree) (path : Path) : Prop :=
  ∀ contents, ∃ after, writeDocument tree path contents = (after, .ok ()) ∧ after.Proper ∧
    after.read path = .ok (textBytes contents)

section Document

variable {tree : FileTree} {path : Path} {document : String}

theorem writeDocument_of_unprepared {left : FileTree} {failure : Failure} (contents : String)
    (failed : tree.makeParent path = (left, .error failure)) :
    writeDocument tree path contents = (left, .error failure) := by
  delta writeDocument
  simp only [failed]

theorem writeDocument_of_written {made after : FileTree} {contents : String}
    (prepared : tree.makeParent path = (made, .ok ()))
    (wrote : made.write path (textBytes contents) = .ok after) :
    writeDocument tree path contents = (after, .ok ()) := by
  delta writeDocument
  simp only [prepared, wrote]

theorem writeDocument_of_refused {made : FileTree} {contents : String} {error : FileError}
    (prepared : tree.makeParent path = (made, .ok ()))
    (refused : made.write path (textBytes contents) = .error error) :
    writeDocument tree path contents = (made, .error (.io path error)) := by
  delta writeDocument
  simp only [prepared, refused]

theorem readOrEmpty_eq_ok_iff :
    tree.readOrEmpty path = .ok document ↔ HoldsDocument tree path document := by
  unfold readOrEmpty readText HoldsDocument
  cases tree.read path with
  | error error => cases error <;> simp [bind, Except.bind, eq_comm]
  | ok bytes =>
    have decoded : decode? bytes = some document.toList ↔ bytes = textBytes document :=
      decode?_eq_some_iff
    cases told : decode? bytes with
    | none =>
      rw [told] at decoded
      simpa [bind, Except.bind, told] using decoded
    | some text =>
      rw [told, Option.some.injEq] at decoded
      have same : String.ofList text = document ↔ text = document.toList := by
        rw [← String.toList_inj, String.toList_ofList]
      simp [bind, Except.bind, told, same, decoded]

/-- Whether a document can be written does not depend on what it says. When it cannot, only
directories are made, and trying again fails again. -/
theorem writeDocument_cases (proper : tree.Proper) (path : Path) :
    Writable tree path ∨
      ∃ left, MakesDirectories tree left ∧ (∀ bytes, left.read path ≠ .ok bytes) ∧
        ∀ contents, (∃ failure, writeDocument tree path contents = (left, .error failure)) ∧
          ∃ failure, writeDocument left path contents = (left, .error failure) := by
  have steps := makeParent_makes tree path
  rcases prepared : tree.makeParent path with ⟨made, result⟩
  rw [prepared] at steps
  obtain ⟨_, grown, _⟩ := steps.grown
  have later := grown.proper proper
  cases result with
  | error failure =>
    obtain ⟨missing, other, again⟩ := proper.makeParent_fails_again prepared
    refine .inr ⟨made, steps, ?_, ?_⟩
    · intro bytes read
      obtain ⟨place, located, -⟩ := read_eq_ok_iff.mp read
      exact missing (later.hasParent located)
    · intro contents
      exact ⟨⟨failure, writeDocument_of_unprepared contents prepared⟩,
        other, writeDocument_of_unprepared contents again⟩
  | ok _ =>
    by_cases reached : ∃ place, made.locate path { wantsFile := true } = .ok place ∧
        made.get? place ≠ some .directory
    · obtain ⟨place, located, solid⟩ := reached
      refine .inl fun contents => ?_
      have wrote := write_eq_ok_iff.mpr
        ⟨place, located, solid, (rfl : _ = made.set place (.file (textBytes contents)))⟩
      exact ⟨_, writeDocument_of_written prepared wrote, later.write wrote⟩
    · have refused (bytes : List UInt8) : ∃ error, made.write path bytes = .error error := by
        cases written : made.write path bytes with
        | error error => exact ⟨error, rfl⟩
        | ok after =>
          obtain ⟨place, located, solid, -⟩ := write_eq_ok_iff.mp written
          exact absurd ⟨place, located, solid⟩ reached
      refine .inr ⟨made, steps, ?_, ?_⟩
      · intro bytes read
        obtain ⟨after, wrote⟩ := later.exists_write read bytes
        obtain ⟨error, fails⟩ := refused bytes
        rw [fails] at wrote
        cases wrote
      · intro contents
        obtain ⟨error, fails⟩ := refused (textBytes contents)
        exact ⟨⟨.io path error, writeDocument_of_refused prepared fails⟩,
          .io path error, writeDocument_of_refused (makeParent_again prepared) fails⟩

theorem Creatable.exists_writeDocument (creatable : Creatable tree path) (proper : tree.Proper)
    (contents : String) : ∃ after, writeDocument tree path contents = (after, .ok ()) := by
  obtain ⟨front, upper, first, more, spells, entered, named, free⟩ := creatable
  have absent (rest : List String) : tree.get? (upper ++ first :: rest) = none := by
    rw [List.append_cons]
    exact proper.absent_below free rest
  obtain ⟨names, name, split⟩ := (List.eq_nil_or_concat' (first :: more)).resolve_left (by simp)
  rw [split] at spells named
  have clear : Clear tree upper names := by
    intro shorter begun
    cases shorter with
    | nil => exact .inl (by simpa using entered.directory)
    | cons other rest =>
      have whole : other :: rest <+: first :: more := split ▸ begun.trans (List.prefix_append _ _)
      rw [(List.cons_prefix_cons.mp whole).1]
      exact .inr (absent rest)
  obtain ⟨middle, -, prepared, free, located⟩ :=
    entered.makeParent_paved proper named clear spells (split ▸ absent more)
  have wrote : middle.write path (textBytes contents) =
      .ok (middle.set (upper ++ (names ++ [name])) (.file (textBytes contents))) :=
    write_eq_ok_iff.mpr ⟨_, located _, by simp [free], rfl⟩
  exact ⟨_, writeDocument_of_written prepared wrote⟩

end Document

def upsertAll (path : Path) (opening closing : String) :
    FileTree → List String → List (FileTree × Except Failure MergeOutcome)
  | _, [] => []
  | tree, newSection :: more =>
    let step := upsert tree path newSection opening closing
    step :: upsertAll path opening closing step.1 more

def firstOutcome (opening closing document newSection : String) : MergeOutcome :=
  if Unpaired (trimmed opening).toList (trimmed closing).toList (fullLines document.toList) then
    .appended
  else if merge opening closing document newSection = document then .unchanged
  else .replaced

def nextOutcome (earlier later : String) : MergeOutcome :=
  if later = earlier then .unchanged else .replaced

def outcomes (opening closing document : String) : List String → List MergeOutcome
  | [] => []
  | first :: more =>
    firstOutcome opening closing document first :: List.zipWith nextOutcome (first :: more) more

/-- A history in which every section left the document that merging it alone into the first one
gives. -/
structure Faithful (path : Path) (opening closing document : String) (sections : List String)
    (history : List (FileTree × Except Failure MergeOutcome)) : Prop where
  documents : history.map (fun step => step.1.read path) =
    sections.map fun newSection => .ok (textBytes (merge opening closing document newSection))
  results : history.map Prod.snd = (outcomes opening closing document sections).map .ok

section History

variable {tree : FileTree} {path : Path} {opening closing document newSection : String}
  {sections : List String}

theorem upsert_of_holds (holds : HoldsDocument tree path document) :
    upsert tree path newSection opening closing =
      if merge opening closing document newSection = document then (tree, .ok .unchanged)
      else
        let written := writeDocument tree path (merge opening closing document newSection)
        (written.1, written.2.map fun _ =>
          if hasRegion opening closing document then .replaced else .appended) := by
  rw [upsert, readOrEmpty_eq_ok_iff.mpr holds]

theorem firstOutcome_eq (markers : ProperMarkers opening closing)
    (delimited : Delimited opening closing newSection) :
    firstOutcome opening closing document newSection =
      if merge opening closing document newSection = document then .unchanged
      else if hasRegion opening closing document then .replaced else .appended := by
  unfold firstOutcome
  cases region : hasRegion opening closing document with
  | true =>
    have paired : ¬ Unpaired (trimmed opening).toList (trimmed closing).toList
        (fullLines document.toList) := by
      rw [← hasRegion_eq_false_iff markers, region]
      simp
    rw [if_neg paired, if_pos rfl]
  | false =>
    rw [if_pos ((hasRegion_eq_false_iff markers).mp region),
      if_neg (merge_ne_of_not_hasRegion delimited.ne_empty region)]
    rfl

theorem upsert_of_writable (proper : tree.Proper) (markers : ProperMarkers opening closing)
    (delimited : Delimited opening closing newSection) (holds : HoldsDocument tree path document)
    (writable : Writable tree path) :
    ∃ after, upsert tree path newSection opening closing =
        (after, .ok (firstOutcome opening closing document newSection)) ∧
      after.Proper ∧
      after.read path = .ok (textBytes (merge opening closing document newSection)) := by
  rw [upsert_of_holds holds, firstOutcome_eq markers delimited]
  by_cases same : merge opening closing document newSection = document
  · refine ⟨tree, by rw [if_pos same, if_pos same], proper, ?_⟩
    rw [same]
    refine holds.resolve_right ?_
    rintro ⟨-, rfl⟩
    exact delimited.merge_empty_ne markers same
  · obtain ⟨after, wrote, later, read⟩ := writable (merge opening closing document newSection)
    refine ⟨after, ?_, later, read⟩
    rw [if_neg same, if_neg same]
    simp only [wrote, Except.map]

theorem writable_of_read (proper : tree.Proper) {bytes : List UInt8}
    (read : tree.read path = .ok bytes) : Writable tree path := by
  refine (writeDocument_cases proper path).resolve_right ?_
  rintro ⟨left, made, unreadable, -⟩
  exact unreadable bytes (made.read read)

theorem firstOutcome_merge (markers : ProperMarkers opening closing) {earlier later : String}
    (first : Delimited opening closing earlier) (second : Delimited opening closing later) :
    firstOutcome opening closing (merge opening closing document earlier) later =
      nextOutcome earlier later := by
  rw [firstOutcome_eq markers second, first.merge_merge markers second,
    first.hasRegion_merge markers, if_pos rfl, nextOutcome]
  simp only [second.merge_inj first]

theorem upsertAll_of_read (markers : ProperMarkers opening closing) {earlier : String}
    (first : Delimited opening closing earlier)
    (delimited : ∀ newSection ∈ sections, Delimited opening closing newSection)
    (proper : tree.Proper)
    (read : tree.read path = .ok (textBytes (merge opening closing document earlier))) :
    (upsertAll path opening closing tree sections).map (fun step => step.1.read path) =
        sections.map (fun newSection =>
          .ok (textBytes (merge opening closing document newSection))) ∧
      (upsertAll path opening closing tree sections).map Prod.snd =
        (List.zipWith nextOutcome (earlier :: sections) sections).map .ok := by
  induction sections generalizing tree earlier with
  | nil => exact ⟨rfl, rfl⟩
  | cons next more ih =>
    have second : Delimited opening closing next := delimited next List.mem_cons_self
    obtain ⟨after, step, later, written⟩ := upsert_of_writable proper markers second (.inl read)
      (writable_of_read proper read)
    rw [first.merge_merge markers second] at written
    rw [firstOutcome_merge markers first second] at step
    obtain ⟨documents, results⟩ := ih second
      (fun other member => delimited other (List.mem_cons_of_mem _ member)) later written
    simp only [upsertAll, step, List.map_cons, List.zipWith_cons_cons, documents, results, written,
      and_self]

theorem upsertAll_of_stuck (possible : Except Failure MergeOutcome → Prop)
    (stuck : ∀ newSection ∈ sections, ∃ result,
      upsert tree path newSection opening closing = (tree, result) ∧ possible result) :
    ∀ step ∈ upsertAll path opening closing tree sections, step.1 = tree ∧ possible step.2 := by
  induction sections with
  | nil => simp [upsertAll]
  | cons newSection more ih =>
    obtain ⟨result, step, held⟩ := stuck newSection List.mem_cons_self
    simp only [upsertAll, step, List.forall_mem_cons]
    exact ⟨⟨trivial, held⟩, ih fun other member => stuck other (List.mem_cons_of_mem _ member)⟩

theorem upsert_of_refused (refused : ∀ document, ¬ HoldsDocument tree path document)
    (newSection opening closing : String) :
    ∃ error, upsert tree path newSection opening closing = (tree, .error (.io path error)) := by
  cases read : tree.readOrEmpty path with
  | ok document => exact absurd (readOrEmpty_eq_ok_iff.mp read) (refused document)
  | error error => exact ⟨error, by rw [upsert, read]⟩

theorem upsert_of_missing (markers : ProperMarkers opening closing)
    (delimited : Delimited opening closing newSection) (missing : tree.read path = .error .notFound)
    {left : FileTree} {failure : Failure}
    (failed : writeDocument tree path (merge opening closing "" newSection) =
      (left, .error failure)) :
    upsert tree path newSection opening closing = (left, .error failure) := by
  rw [upsert_of_holds (.inr ⟨missing, rfl⟩), if_neg (delimited.merge_empty_ne markers)]
  simp only [failed, Except.map]

theorem upsertAll_of_unwritable (markers : ProperMarkers opening closing)
    (delimited : ∀ newSection ∈ sections, Delimited opening closing newSection)
    (missing : tree.read path = .error .notFound) {left : FileTree}
    (unreadable : ∀ bytes, left.read path ≠ .ok bytes)
    (fails : ∀ contents, (∃ failure, writeDocument tree path contents = (left, .error failure)) ∧
      ∃ failure, writeDocument left path contents = (left, .error failure)) :
    ∀ step ∈ upsertAll path opening closing tree sections,
      step.1 = left ∧ ∃ failure, step.2 = .error failure := by
  have again : ∀ newSection ∈ sections, ∃ result,
      upsert left path newSection opening closing = (left, result) ∧
        ∃ failure, result = .error failure := by
    intro newSection member
    by_cases absent : left.read path = .error .notFound
    · obtain ⟨failure, failed⟩ := (fails (merge opening closing "" newSection)).2
      have step := upsert_of_missing markers (delimited newSection member) absent failed
      exact ⟨_, step, failure, rfl⟩
    · have refused : ∀ document, ¬ HoldsDocument left path document := by
        rintro document (read | ⟨read, -⟩)
        · exact unreadable _ read
        · exact absent read
      obtain ⟨error, step⟩ := upsert_of_refused refused newSection opening closing
      exact ⟨_, step, _, rfl⟩
  cases sections with
  | nil => simp [upsertAll]
  | cons first more =>
    obtain ⟨failure, failed⟩ := (fails (merge opening closing "" first)).1
    have step := upsert_of_missing markers (delimited first List.mem_cons_self) missing failed
    simp only [upsertAll, step, List.forall_mem_cons]
    exact ⟨⟨trivial, failure, rfl⟩,
      upsertAll_of_stuck _ fun other member => again other (List.mem_cons_of_mem _ member)⟩

end History

/-- Every history of a document at a path is one of these. The documents and outcomes are those of
merging each section alone into the first document. Or that document is missing and a file cannot be
made there: then no upsert makes more than directories, and all fail. A file that is not a document
makes all upserts fail and stays as it is. -/
theorem upsertAll_faithful (settings : Settings) (accepted : settings.fault? = none)
    (tree : FileTree) (proper : tree.Proper) (path : Path) (sections : List String)
    (delimited : ∀ newSection ∈ sections,
      Delimited settings.beginMarker settings.endMarker newSection) :
    let history := upsertAll path settings.beginMarker settings.endMarker tree sections
    (∀ document, HoldsDocument tree path document →
      Faithful path settings.beginMarker settings.endMarker document sections history ∨
      (tree.read path = .error .notFound ∧ ¬ Creatable tree path ∧
        ∃ left, MakesDirectories tree left ∧
          ∀ step ∈ history, step.1 = left ∧ ∃ failure, step.2 = .error failure)) ∧
    ((∀ document, ¬ HoldsDocument tree path document) →
      ∀ step ∈ history, step.1 = tree ∧ ∃ error, step.2 = .error (.io path error)) := by
  have markers := (fault?_eq_none_iff settings).mp accepted
  intro history
  constructor
  · intro document holds
    rcases writeDocument_cases proper path with writable | ⟨left, made, unreadable, fails⟩
    · left
      cases sections with
      | nil => exact ⟨rfl, rfl⟩
      | cons first more =>
        have begun := delimited first List.mem_cons_self
        obtain ⟨after, step, later, read⟩ :=
          upsert_of_writable proper markers begun holds writable
        obtain ⟨documents, results⟩ := upsertAll_of_read markers begun
          (fun other member => delimited other (List.mem_cons_of_mem _ member)) later read
        constructor
        · simp only [history, upsertAll, step, List.map_cons, documents, read]
        · simp only [history, upsertAll, step, List.map_cons, results, outcomes]
    · right
      have missing : tree.read path = .error .notFound ∧ document = "" :=
        holds.resolve_left fun read => unreadable _ (made.read read)
      refine ⟨missing.1, ?_, left, made, ?_⟩
      · intro creatable
        obtain ⟨after, wrote⟩ := creatable.exists_writeDocument proper ""
        obtain ⟨failure, failed⟩ := (fails "").1
        rw [failed] at wrote
        cases wrote
      · exact upsertAll_of_unwritable markers delimited missing.1 unreadable fails
  · intro refused
    refine upsertAll_of_stuck (fun result => ∃ error, result = .error (.io path error)) ?_
    intro newSection _
    obtain ⟨error, step⟩ := upsert_of_refused refused newSection settings.beginMarker
      settings.endMarker
    exact ⟨_, step, error, rfl⟩

theorem upsertAll_new_document :
    let settings : Settings := { beginMarker := " <b>", endMarker := "<e>\n" }
    let sections := ["<b>\n<e>\n", "<b>\n<e>\n", "<b>\n\n`<e>`\n<e>\n"]
    settings.fault? = none ∧ ({} : FileTree).Proper ∧
      (∀ newSection ∈ sections, Delimited " <b>" "<e>\n" newSection) ∧
      HoldsDocument {} ⟨"doc/new.md"⟩ "" ∧
      let history := upsertAll ⟨"doc/new.md"⟩ " <b>" "<e>\n" {} sections
      history.map (fun step => step.1.read ⟨"doc/new.md"⟩) =
          sections.map (fun newSection => .ok (textBytes newSection)) ∧
        history.map Prod.snd = [.ok .appended, .ok .unchanged, .ok .replaced] := by
  intro settings sections
  have accepted : settings.fault? = none := by decide +kernel
  have proper : ({} : FileTree).Proper := .of_entries (by simp) (by simp) (by simp) rfl
  have delimited : ∀ newSection ∈ sections, Delimited " <b>" "<e>\n" newSection := by
    simp only [sections, List.forall_mem_cons, List.not_mem_nil, false_imp_iff, implies_true,
      and_true]
    refine ⟨⟨[], ?_⟩, ⟨[], ?_⟩, ⟨["\n".toList, "`<e>`\n".toList], ?_⟩⟩ <;> decide +kernel
  have holds : HoldsDocument {} ⟨"doc/new.md"⟩ "" := .inr ⟨by decide +kernel, rfl⟩
  have creatable : Creatable {} ⟨"doc/new.md"⟩ := by
    refine ⟨[], [], "doc", ["new.md"], ?_, ⟨.stop, rfl⟩, by decide +kernel, by decide +kernel⟩
    exact ⟨rfl, by decide +kernel, fun _ => ⟨["doc".toList], "new.md".toList, by decide +kernel⟩,
      .inr (by decide +kernel)⟩
  have faithful := ((upsertAll_faithful settings accepted {} proper ⟨"doc/new.md"⟩ sections
    delimited).1 "" holds).resolve_right fun stalled => stalled.2.1 creatable
  refine ⟨accepted, proper, delimited, holds, faithful.documents.trans (by decide +kernel),
    faithful.results.trans (by decide +kernel)⟩

theorem upsert_long_part {path : Path} {opening closing newSection : String}
    (markers : ProperMarkers opening closing) (delimited : Delimited opening closing newSection)
    (admissible : Admissible path) (relative : path.isAbsolute = false)
    (parts : path.parts = ["doc".toList, List.replicate 256 'x']) :
    HoldsDocument {} path "" ∧
      upsert {} path newSection opening closing =
        ({ entries := [(["doc"], .directory)] }, .error (.io path .nameTooLong)) := by
  have located (tree : FileTree) (approach : Approach) : tree.locate path approach =
      tree.walk approach linkLimit tree.workingDirectory
        ["doc", String.ofList (List.replicate 256 'x')] := by
    rw [locate_eq_walk admissible, FileTree.start, relative, parts]
    rfl
  have missing : ({} : FileTree).read path = .error .notFound := by
    rw [FileTree.read, located]
    decide +kernel
  have prepared : ({} : FileTree).makeParent path =
      ({ entries := [(["doc"], .directory)] }, .ok ()) := by
    have above : path.parent? = some ⟨"doc"⟩ := by
      simp only [Path.parent?, Path.withBody, Path.body, Path.startsHere, relative, parts]
      decide +kernel
    rw [makeParent, above]
    decide +kernel
  have refused (bytes : List UInt8) :
      ({ entries := [(["doc"], .directory)] } : FileTree).write path bytes =
        .error .nameTooLong := by
    have walked : ({ entries := [(["doc"], .directory)] } : FileTree).locate path
        { wantsFile := true } = .error .nameTooLong := by
      rw [located]
      decide +kernel
    rw [FileTree.write, walked]
    rfl
  exact ⟨.inr ⟨missing, rfl⟩, upsert_of_missing markers delimited missing
    (writeDocument_of_refused prepared (refused _))⟩

/-- A missing document whose name is too long for a file: the upsert fails, and leaves the directory
it has made. -/
theorem upsert_too_long_name :
    let path : Path := ⟨"doc/" ++ String.ofList (List.replicate 256 'x')⟩
    let settings : Settings := {}
    let newSection := settings.beginMarker ++ "\n\n" ++ settings.endMarker ++ "\n"
    settings.fault? = none ∧ ({} : FileTree).Proper ∧
      Delimited settings.beginMarker settings.endMarker newSection ∧
      HoldsDocument {} path "" ∧
      upsert {} path newSection settings.beginMarker settings.endMarker =
        ({ entries := [(["doc"], .directory)] }, .error (.io path .nameTooLong)) := by
  intro path settings newSection
  have accepted : settings.fault? = none := by decide +kernel
  have proper : ({} : FileTree).Proper := .of_entries (by simp) (by simp) (by simp) rfl
  have delimited : Delimited settings.beginMarker settings.endMarker newSection :=
    ⟨["\n".toList], by decide +kernel⟩
  have text : path.text.toList = "doc/".toList ++ List.replicate 256 'x' := by
    simp only [path, String.toList_append, String.toList_ofList]
  have relative : path.isAbsolute = false := by
    rw [Path.isAbsolute, text]
    decide +kernel
  have parts : path.parts = ["doc".toList, List.replicate 256 'x'] := by
    rw [Path.parts, relative, text]
    decide +kernel
  have admissible : Admissible path :=
    ⟨by rw [text]; decide +kernel, by decide +kernel, by decide +kernel⟩
  have markers := (fault?_eq_none_iff settings).mp accepted
  exact ⟨accepted, proper, delimited,
    upsert_long_part markers delimited admissible relative parts⟩

end ApiMigration.Report
