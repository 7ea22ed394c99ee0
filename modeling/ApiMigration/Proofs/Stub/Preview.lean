import ApiMigration.Command.Run
import ApiMigration.Proofs.FileTree.Spelled
import ApiMigration.Proofs.Stub.Place
import ApiMigration.Proofs.Stub.Rerun

/-!
What a dry run tells against what a run does. A dry run looks every path up in the tree as it is; a
run looks it up in the tree that its own earlier skeletons have changed. The two agree exactly when
the paths that were free lead to new files of their own.
-/

namespace ApiMigration

open FileTree

namespace Stub

theorem Wrote.located {tree next : FileTree} {path : Path} {bytes : List UInt8} {made : Bool}
    (wrote : Wrote {} tree path bytes next (.ok made)) (sound : tree.Sound) :
    ∃ place, next.locate path = .ok place ∧ (next.get? place).isSome ∧
      (made = true → tree.get? place = none ∧ next.get? place = some (.file bytes)) := by
  obtain ⟨place, located, found⟩ := wrote.reached
  exact ⟨place, locate_of_locate (wrote.sound sound).linkFree rfl located, found⟩

theorem Wrote.new_file {tree next : FileTree} {path : Path} {bytes held : List UInt8} {made : Bool}
    {place : Location} (wrote : Wrote {} tree path bytes next (.ok made)) (sound : tree.Sound)
    (absent : tree.get? place = none) (found : next.get? place = some (.file held)) :
    made = true ∧ next.locate path = .ok place := by
  have later := wrote.sound sound
  cases wrote with
  | kept steps _ _ _ =>
    rw [steps.file found] at absent
    cases absent
  | @created made there steps _ located free =>
    rcases file_of_set free found with ⟨same, _⟩ | still
    · rw [same]
      have reached := (Extends.set (.file bytes) free).locate later.linkFree located
      exact ⟨rfl, locate_of_locate later.linkFree rfl reached⟩
    · rw [steps.file still] at absent
      cases absent

theorem Wrote.new_directory {tree next : FileTree} {path : Path} {bytes : List UInt8} {made : Bool}
    {place : Location} (wrote : Wrote {} tree path bytes next (.ok made)) (sound : tree.Sound)
    (downward : .up ∉ path.components) (absent : tree.get? place = none)
    (found : next.get? place = some .directory) :
    ∃ name more, tree.placeOf path = place ++ name :: more := by
  cases wrote with
  | kept _ prepared _ _ =>
    apply new_of_makeParent sound.linkFree downward absent
    rw [prepared]
    simp [found]
  | created _ prepared _ free =>
    rw [get?_set_of_absent _ free] at found
    split at found
    · cases found
    · apply new_of_makeParent sound.linkFree downward absent
      rw [prepared]
      simp [found]

/-- A run that succeeds, skeleton by skeleton, with whether each was created. -/
inductive Run : FileTree → List (Planned × Bool) → FileTree → Prop
  | done {tree : FileTree} : Run tree [] tree
  | step {tree next after : FileTree} {stub : Planned} {made : Bool} {more : List (Planned × Bool)}
      (wrote : Wrote {} tree stub.path (textBytes stub.contents) next (.ok made))
      (onward : Run next more after) : Run tree ((stub, made) :: more) after

theorem exists_run {tree after : FileTree} {report final : WriteReport} {stubs : List Planned}
    (ran : writeAll tree report stubs = (after, .ok final)) :
    ∃ steps, Run tree steps after ∧ steps.map Prod.fst = stubs ∧
      final =
        { created := report.created ++
            (steps.filter fun step => step.2).map fun step => step.1.path
          existing := report.existing ++
            (steps.filter fun step => !step.2).map fun step => step.1.path
          present := report.present } := by
  induction stubs generalizing tree report with
  | nil =>
    cases ran
    exact ⟨[], .done, rfl, by simp⟩
  | cons stub more ih =>
    obtain ⟨next, made, wrote, continued⟩ := writeAll_cons_eq_ok ran
    obtain ⟨steps, run, listed, told⟩ := ih continued
    refine ⟨(stub, made) :: steps, .step wrote run, by rw [List.map_cons, listed], ?_⟩
    cases made <;> simp [told]

namespace Run

variable {tree after : FileTree} {steps : List (Planned × Bool)} {step : Planned × Bool}

theorem extend (run : Run tree steps after) : Extends tree after := by
  induction run with
  | done => exact .refl _
  | step wrote _ ih => exact wrote.extend.trans ih

theorem sound (run : Run tree steps after) (sound : tree.Sound) : after.Sound := by
  induction run with
  | done => exact sound
  | step wrote _ ih => exact ih (wrote.sound sound)

theorem located (run : Run tree steps after) (sound : tree.Sound) (listed : step ∈ steps) :
    ∃ place, after.locate step.1.path = .ok place ∧ (after.get? place).isSome ∧
      (step.2 = true → NewFile tree after place) := by
  induction run with
  | done => cases listed
  | @step tree next after stub made more wrote onward ih =>
    rcases List.mem_cons.mp listed with rfl | later
    · obtain ⟨place, located, held, new⟩ := wrote.located sound
      obtain ⟨entry, stood⟩ := Option.isSome_iff_exists.mp held
      refine ⟨place, onward.extend.locate (onward.sound (wrote.sound sound)).linkFree located,
        by simp [onward.extend.get? stood], ?_⟩
      intro created
      obtain ⟨absent, file⟩ := new created
      exact ⟨absent, _, onward.extend.get? file⟩
    · obtain ⟨place, located, held, new⟩ := ih (wrote.sound sound) later
      refine ⟨place, located, held, ?_⟩
      intro created
      exact ⟨wrote.extend.absent (new created).1, (new created).2⟩

theorem kept_of_isPresent (run : Run tree steps after) (sound : tree.Sound) (listed : step ∈ steps)
    (present : tree.isPresent step.1.path = true) : step.2 = false := by
  obtain ⟨place, located, _, new⟩ := run.located sound listed
  obtain ⟨there, before, held⟩ := isPresent_iff.mp present
  have same := run.extend.locate (run.sound sound).linkFree before
  rw [located, Except.ok.injEq] at same
  by_contra created
  rw [← same, (new (by simpa using created)).1] at held
  cases held

theorem free_of_created (run : Run tree steps after) (sound : tree.Sound) :
    ∀ step ∈ steps, step.2 = true → (!tree.isPresent step.1.path) = true := by
  intro step listed created
  rw [Bool.not_eq_true']
  by_contra present
  rw [run.kept_of_isPresent sound listed (by simpa using present)] at created
  cases created

theorem exists_created (run : Run tree steps after) (sound : tree.Sound) {place : Location}
    (new : NewFile tree after place) :
    ∃ step ∈ steps, step.2 = true ∧ after.locate step.1.path = .ok place := by
  obtain ⟨absent, bytes, file⟩ := new
  induction run with
  | done =>
    rw [absent] at file
    cases file
  | @step tree next after stub made more wrote onward ih =>
    have later := onward.sound (wrote.sound sound)
    cases standing : next.get? place with
    | none =>
      obtain ⟨step, listed, found⟩ := ih (wrote.sound sound) standing file
      exact ⟨step, List.mem_cons_of_mem _ listed, found⟩
    | some entry =>
      rw [onward.extend.get? standing] at file
      cases file
      obtain ⟨created, located⟩ := wrote.new_file sound absent standing
      exact ⟨(stub, made), List.mem_cons_self, created, onward.extend.locate later.linkFree located⟩

theorem nodup_created (run : Run tree steps after) (sound : tree.Sound) :
    ((steps.filter fun step => step.2).map fun step => after.locate step.1.path).Nodup := by
  induction run with
  | done => exact List.nodup_nil
  | @step tree next after stub made more wrote onward ih =>
    have rest := ih (wrote.sound sound)
    cases made with
    | false => simpa using rest
    | true =>
      rw [List.filter_cons_of_pos rfl, List.map_cons, List.nodup_cons]
      refine ⟨?_, rest⟩
      intro repeated
      obtain ⟨step, listed, same⟩ := List.mem_map.mp repeated
      rw [List.mem_filter] at listed
      obtain ⟨place, located, _, new⟩ := onward.located (wrote.sound sound) listed.1
      obtain ⟨there, reached, held, _⟩ := wrote.located sound
      have again := onward.extend.locate (onward.sound (wrote.sound sound)).linkFree reached
      rw [← same, located, Except.ok.injEq] at again
      rw [← again, (new listed.2).1] at held
      cases held

theorem all_created_iff (run : Run tree steps after) (sound : tree.Sound) :
    (∀ step ∈ steps, tree.isPresent step.1.path = false → step.2 = true) ↔
      ((steps.filter fun step => !tree.isPresent step.1.path).map
          fun step => after.locate step.1.path).Nodup ∧
        ∀ step ∈ steps, tree.isPresent step.1.path = false →
          ∃ place, after.locate step.1.path = .ok place ∧ NewFile tree after place := by
  constructor
  · intro all
    have same : (steps.filter fun step => !tree.isPresent step.1.path) =
        steps.filter fun step => step.2 := by
      apply List.filter_congr
      intro step listed
      cases present : tree.isPresent step.1.path with
      | false => rw [all step listed present, Bool.not_false]
      | true => rw [run.kept_of_isPresent sound listed present, Bool.not_true]
    rw [same]
    refine ⟨run.nodup_created sound, ?_⟩
    intro step listed free
    obtain ⟨place, located, _, new⟩ := run.located sound listed
    exact ⟨place, located, new (all step listed free)⟩
  · rintro ⟨distinct, new⟩ step listed free
    obtain ⟨place, located, newFile⟩ := new step listed free
    obtain ⟨other, otherListed, created, reached⟩ := run.exists_created sound newFile
    have otherFree := run.free_of_created sound other otherListed created
    -- the skeleton that made the new file is the one that was looked up
    have same := List.inj_on_of_nodup_map distinct
      (List.mem_filter.mpr ⟨otherListed, otherFree⟩)
      (List.mem_filter.mpr ⟨listed, by simp [free]⟩) (reached.trans located.symm)
    rw [← same]
    exact created

section Downward

variable (downward : ∀ step ∈ steps, .up ∉ step.1.path.components)
include downward

theorem new_directory (run : Run tree steps after) (sound : tree.Sound) {place : Location}
    (absent : tree.get? place = none) (directory : after.get? place = some .directory) :
    ∃ step ∈ steps, ∃ name more, tree.placeOf step.1.path = place ++ name :: more := by
  induction run with
  | done =>
    rw [absent] at directory
    cases directory
  | @step tree next after stub made more wrote onward ih =>
    have first := downward (stub, made) List.mem_cons_self
    have rest : ∀ step ∈ more, .up ∉ step.1.path.components :=
      fun step listed => downward step (List.mem_cons_of_mem _ listed)
    cases standing : next.get? place with
    | none =>
      obtain ⟨step, listed, name, below, whole⟩ := ih rest (wrote.sound sound) standing directory
      rw [wrote.extend.placeOf_eq] at whole
      exact ⟨step, List.mem_cons_of_mem _ listed, name, below, whole⟩
    | some entry =>
      rw [onward.extend.get? standing] at directory
      cases directory
      exact ⟨(stub, made), List.mem_cons_self, wrote.new_directory sound first absent standing⟩

theorem locate_eq_placeOf (run : Run tree steps after) (sound : tree.Sound)
    (listed : step ∈ steps) : after.locate step.1.path = .ok (tree.placeOf step.1.path) := by
  obtain ⟨place, located, _⟩ := run.located sound listed
  have spelled := eq_placeOf_of_locate (run.sound sound).linkFree (downward step listed) located
  rw [located, spelled, run.extend.placeOf_eq]

/-- Without steps upwards, a path that was free leads to a new file unless another path goes on
below it. -/
theorem newFile_of_free (run : Run tree steps after) (sound : tree.Sound) (listed : step ∈ steps)
    (free : tree.isPresent step.1.path = false)
    (apart : ∀ other ∈ steps, ∀ name more,
      tree.placeOf other.1.path ≠ tree.placeOf step.1.path ++ name :: more) :
    NewFile tree after (tree.placeOf step.1.path) := by
  obtain ⟨place, located, held, _⟩ := run.located sound listed
  rw [run.locate_eq_placeOf downward sound listed] at located
  cases located
  have absent : tree.get? (tree.placeOf step.1.path) = none := by
    by_contra stood
    have present := sound.isPresent_of_locate run.extend (run.sound sound).linkFree
      (downward step listed) (run.locate_eq_placeOf downward sound listed)
      (Option.isSome_iff_ne_none.mpr stood)
    rw [free] at present
    cases present
  refine ⟨absent, ?_⟩
  obtain ⟨entry, found⟩ := Option.isSome_iff_exists.mp held
  cases entry with
  | file bytes => exact ⟨bytes, found⟩
  | link target => exact absurd found ((run.sound sound).linkFree _ target)
  | directory =>
    obtain ⟨other, otherListed, name, more, below⟩ := run.new_directory downward sound absent found
    exact absurd below (apart other otherListed name more)

end Downward

end Run

def reportOn (steps : List (Planned × Bool)) (chosen : Planned × Bool → Bool) (present : Nat) :
    WriteReport where
  created := (steps.filter chosen).map fun step => step.1.path
  existing := (steps.filter fun step => !chosen step).map fun step => step.1.path
  present := present

section Reports

variable {steps : List (Planned × Bool)} {more fewer : Planned × Bool → Bool} {present : Nat}
  (implied : ∀ step ∈ steps, fewer step = true → more step = true)
include implied

theorem filter_fewer : steps.filter fewer = (steps.filter more).filter fewer := by
  rw [List.filter_filter]
  apply List.filter_congr
  intro step listed
  cases chosen : fewer step with
  | false => rfl
  | true => rw [implied step listed chosen, Bool.and_self]

theorem reportOn_eq_iff :
    reportOn steps more present = reportOn steps fewer present ↔
      ∀ step ∈ steps, more step = true → fewer step = true := by
  constructor
  · intro same
    have lengths := congrArg (fun report => report.created.length) same
    simp only [reportOn, List.length_map] at lengths
    rw [filter_fewer implied, eq_comm, List.length_filter_eq_length_iff] at lengths
    intro step listed chosen
    exact lengths step (List.mem_filter.mpr ⟨listed, chosen⟩)
  · intro all
    have same : ∀ step ∈ steps, more step = fewer step := by
      intro step listed
      exact Bool.eq_iff_iff.mpr ⟨all step listed, implied step listed⟩
    have others : ∀ step ∈ steps, (!more step) = !fewer step := by
      intro step listed
      rw [same step listed]
    simp only [reportOn, List.filter_congr same, List.filter_congr others]

theorem created_sublist :
    (reportOn steps fewer present).created.Sublist (reportOn steps more present).created := by
  simp only [reportOn, filter_fewer implied]
  exact List.filter_sublist.map _

theorem existing_sublist :
    (reportOn steps more present).existing.Sublist (reportOn steps fewer present).existing := by
  have excluded : ∀ step ∈ steps, (!more step) = true → (!fewer step) = true := by
    intro step listed unchosen
    cases chosen : fewer step with
    | false => rfl
    | true =>
      rw [implied step listed chosen] at unchosen
      cases unchosen
  simp only [reportOn, filter_fewer excluded]
  exact List.filter_sublist.map _

end Reports

namespace Scaffold

variable {scaffold : Scaffold} {tree after : FileTree} {sources : List SourceDeclaration}
  {inventory : Target.Inventory} {root : Path} {report : WriteReport}

theorem exists_steps (ran : scaffold.run tree sources inventory root = (after, .ok report)) :
    ∃ steps, Run tree steps after ∧ steps.map Prod.fst = scaffold.plan sources inventory root ∧
      report = reportOn steps Prod.snd (scaffold.presentCount sources inventory) ∧
      scaffold.preview tree sources inventory root =
        reportOn steps (fun step => !tree.isPresent step.1.path)
          (scaffold.presentCount sources inventory) := by
  obtain ⟨steps, run, planned, told⟩ := exists_run ran
  refine ⟨steps, run, planned, ?_, ?_⟩
  · rw [told]
    rfl
  · simp only [preview, reportOn, ← planned, List.map_map, List.filter_map, Function.comp_def,
      Bool.not_not]

theorem placeOf_planned (tree : FileTree) (slashFree : scaffold.routing.SlashFree)
    (clean : '/' ∉ scaffold.extension.toList) (written : root.text ≠ "")
    (downward : .up ∉ root.components) {source : SourceDeclaration}
    (extracted : Source.Extracted source) :
    .up ∉ (scaffold.planned root source).path.components ∧
      tree.placeOf (scaffold.planned root source).path =
        tree.placeOf root ++ scaffold.names source := by
  rw [path_planned extracted slashFree clean written]
  exact placeOf_joinAll tree written (scaffold.names_ne_nil source)
    (fun _ listed => names_spelled extracted slashFree clean listed) downward

theorem names_ne_append (scaffold : Scaffold) (first second : SourceDeclaration) (name : String)
    (more : List String) : scaffold.names second ≠ scaffold.names first ++ name :: more := by
  intro longer
  obtain ⟨upper, last, split⟩ := (List.eq_nil_or_concat' (name :: more)).resolve_left (by simp)
  rw [split, ← List.append_assoc] at longer
  have begun : scaffold.directories second = scaffold.names first ++ upper :=
    (List.append_inj' longer rfl).1
  exact not_names_prefix_directories second ⟨upper, begun.symm⟩

theorem preview_eq_iff (sound : tree.Sound)
    (ran : scaffold.run tree sources inventory root = (after, .ok report)) :
    scaffold.preview tree sources inventory root = report ↔
      ((scaffold.preview tree sources inventory root).created.map
          fun path => after.locate path).Nodup ∧
        ∀ path ∈ (scaffold.preview tree sources inventory root).created,
          ∃ place, after.locate path = .ok place ∧ NewFile tree after place := by
  obtain ⟨steps, run, _, told, foretold⟩ := exists_steps ran
  rw [foretold, told, reportOn_eq_iff (run.free_of_created sound)]
  simp only [Bool.not_eq_true', run.all_created_iff sound, reportOn, List.map_map,
    Function.comp_def, List.forall_mem_map, List.mem_filter, and_imp]

theorem preview_eq_iff_nodup (sound : tree.Sound)
    (ran : scaffold.run tree sources inventory root = (after, .ok report))
    (slashFree : scaffold.routing.SlashFree) (clean : '/' ∉ scaffold.extension.toList)
    (extracted : ∀ source ∈ sources, Source.Extracted source) (written : root.text ≠ "")
    (downward : .up ∉ root.components) :
    scaffold.preview tree sources inventory root = report ↔
      (scaffold.preview tree sources inventory root).created.Nodup := by
  rw [preview_eq_iff sound ran]
  obtain ⟨steps, run, planned, _, foretold⟩ := exists_steps ran
  have placed : ∀ step ∈ steps, ∃ source,
      step.1.path = root.joinAll (scaffold.names source) ∧ .up ∉ step.1.path.components ∧
        tree.placeOf step.1.path = tree.placeOf root ++ scaffold.names source := by
    intro step listed
    have member : step.1 ∈ scaffold.plan sources inventory root :=
      planned ▸ List.mem_map_of_mem listed
    obtain ⟨source, kept, same⟩ := List.mem_map.mp member
    have known := extracted source (List.mem_of_mem_filter kept)
    rw [← same]
    exact ⟨source, path_planned known slashFree clean written,
      placeOf_planned tree slashFree clean written downward known⟩
  have onward : ∀ step ∈ steps, .up ∉ step.1.path.components := by
    intro step listed
    obtain ⟨_, _, plain, _⟩ := placed step listed
    exact plain
  rw [foretold]
  constructor
  · rintro ⟨distinct, _⟩
    exact .of_map _ distinct
  · intro distinct
    refine ⟨distinct.map_on ?_, ?_⟩
    · simp only [reportOn, List.forall_mem_map, List.mem_filter]
      rintro first ⟨listed, _⟩ second ⟨otherListed, _⟩ same
      rw [run.locate_eq_placeOf onward sound listed,
        run.locate_eq_placeOf onward sound otherListed, Except.ok.injEq] at same
      obtain ⟨source, path, _, place⟩ := placed first listed
      obtain ⟨other, otherPath, _, otherPlace⟩ := placed second otherListed
      rw [place, otherPlace] at same
      rw [path, otherPath, List.append_cancel_left same]
    · simp only [reportOn, List.forall_mem_map, List.mem_filter]
      rintro step ⟨listed, free⟩
      refine ⟨_, run.locate_eq_placeOf onward sound listed,
        run.newFile_of_free onward sound listed (by simpa using free) ?_⟩
      intro other otherListed name more below
      obtain ⟨source, _, _, place⟩ := placed step listed
      obtain ⟨otherSource, _, _, otherPlace⟩ := placed other otherListed
      rw [place, otherPlace, List.append_assoc] at below
      exact scaffold.names_ne_append source otherSource name more (List.append_cancel_left below)

theorem preview_empty (scaffold : Scaffold) (tree : FileTree) (sources : List SourceDeclaration)
    (root : Path) :
    let paths := sources.map fun source => (scaffold.planned root source).path
    scaffold.preview tree sources {} root =
      { created := paths.filter fun path => !tree.isPresent path
        existing := paths.filter tree.isPresent } := by
  simp [preview, plan, presentCount, isPresent_empty, Function.comp_def]

theorem tree_dry_scaffold (workspace : Workspace) (tree : FileTree) (json : Bool) :
    (Command.scaffold workspace tree true json).tree = tree := by
  unfold Command.scaffold
  cases workspace.sources tree with
  | error trace => rfl
  | ok sources =>
    cases workspace.inventory tree with
    | error trace => rfl
    | ok inventory => cases json <;> rfl

/-- A dry run changes nothing. It tells what a run does if and only if the paths that it takes for
free lead to new files of their own; in a well-formed project that is when it lists no path twice.
Otherwise it tells too many files as created. -/
theorem preview_matches_run_iff {storage : Storage} (sound : tree.Sound)
    (ran : scaffold.run tree sources inventory root storage = (after, .ok report)) :
    (scaffold.preview tree sources inventory root = report ↔
      ((scaffold.preview tree sources inventory root).created.map
          fun path => after.locate path).Nodup ∧
        ∀ path ∈ (scaffold.preview tree sources inventory root).created,
          ∃ place, after.locate path = .ok place ∧ NewFile tree after place) ∧
      (scaffold.routing.SlashFree → '/' ∉ scaffold.extension.toList →
        (∀ source ∈ sources, Source.Extracted source) → root.text ≠ "" →
        .up ∉ root.components →
        (scaffold.preview tree sources inventory root = report ↔
          (scaffold.preview tree sources inventory root).created.Nodup)) ∧
      report.created.Sublist (scaffold.preview tree sources inventory root).created ∧
      (scaffold.preview tree sources inventory root).existing.Sublist report.existing ∧
      (scaffold.preview tree sources inventory root).present = report.present ∧
      ∀ workspace json, (Command.scaffold workspace tree true json).tree = tree := by
  replace ran := run_of_ok ran
  refine ⟨preview_eq_iff sound ran, preview_eq_iff_nodup sound ran, ?_⟩
  obtain ⟨steps, run, _, told, foretold⟩ := exists_steps ran
  have implied := run.free_of_created sound
  rw [foretold, told]
  exact ⟨created_sublist implied, existing_sublist implied, rfl,
    fun workspace json => tree_dry_scaffold workspace tree json⟩

theorem preview_matches_run_beside_file :
    let scaffold := ({} : Settings).scaffold
    let tree : FileTree :=
      { entries := [(["w"], .directory), (["w", "utils"], .directory),
          (["w", "utils", "strings.cj"], .file [104])] }
    let sources : List SourceDeclaration :=
      [⟨"org.a", .classType, "Strings", "", ⟨"S.java"⟩, none⟩,
        ⟨"org.a", .classType, "BitField", "", ⟨"B.java"⟩, none⟩]
    let ran := scaffold.run tree sources {} ⟨"/w"⟩
    scaffold.preview tree sources {} ⟨"/w"⟩ =
        ⟨[⟨"/w/utils/bit_field.cj"⟩], [⟨"/w/utils/strings.cj"⟩], 0⟩ ∧
      ran.2 = .ok (scaffold.preview tree sources {} ⟨"/w"⟩) := by
  intro scaffold tree sources ran
  have sound : tree.Sound := sound_of_entries (by simp [tree]) (by decide +kernel) rfl
  have slashFree : scaffold.routing.SlashFree := ⟨by decide, by decide +kernel⟩
  have extracted : ∀ source ∈ sources, Source.Extracted source := by
    simp only [sources, List.forall_mem_cons, List.not_mem_nil, false_imp_iff, implies_true,
      and_true]
    exact ⟨⟨"org.a", ⟨"S.java"⟩, "package org.a;\npublic class Strings", by decide +kernel⟩,
      ⟨"org.a", ⟨"B.java"⟩, "package org.a;\npublic class BitField", by decide +kernel⟩⟩
  have ended : ran.2 = .ok ⟨[⟨"/w/utils/bit_field.cj"⟩], [⟨"/w/utils/strings.cj"⟩], 0⟩ := by
    simp only [ran, run_empty]
    decide +kernel
  have foretold : scaffold.preview tree sources {} ⟨"/w"⟩ =
      ⟨[⟨"/w/utils/bit_field.cj"⟩], [⟨"/w/utils/strings.cj"⟩], 0⟩ := by
    rw [preview_empty]
    decide +kernel
  have distinct : (scaffold.preview tree sources {} ⟨"/w"⟩).created.Nodup := by
    rw [foretold]
    exact List.nodup_singleton _
  obtain ⟨_, matched, _⟩ := preview_matches_run_iff sound (Prod.ext rfl ended)
  refine ⟨foretold, ?_⟩
  rw [(matched slashFree (by decide) extracted (by decide) (by decide)).mpr distinct]
  exact ended

/-- Two classes whose names give one file stem: the dry run tells two files, the run makes one. -/
theorem preview_counts_twice :
    let scaffold := ({} : Settings).scaffold
    let tree : FileTree := { entries := [(["w"], .directory)] }
    let sources : List SourceDeclaration :=
      [⟨"org.a", .classType, "HTTPServer", "", ⟨"HTTPServer.java"⟩, none⟩,
        ⟨"org.a", .classType, "HttpServer", "", ⟨"HttpServer.java"⟩, none⟩]
    let stub : Path := ⟨"/w/src/utils/http_server.cj"⟩
    tree.Sound ∧
      scaffold.preview tree sources {} ⟨"/w/src"⟩ = ⟨[stub, stub], [], 0⟩ ∧
      (scaffold.run tree sources {} ⟨"/w/src"⟩).2 = .ok ⟨[stub], [stub], 0⟩ := by
  intro scaffold tree sources stub
  have sound : tree.Sound := sound_of_entries (by simp [tree]) (by decide +kernel) rfl
  refine ⟨sound, ?_, ?_⟩
  · rw [preview_empty]
    decide +kernel
  · rw [run_empty]
    decide +kernel

end Scaffold

end Stub

end ApiMigration
