import ApiMigration.Proofs.FileTree.Make
import ApiMigration.Stub.Write

/-!
Scaffolding never overwrites. What one planned skeleton can do to the tree is said once; a run is
followed skeleton by skeleton, with an account of the files that are new and of the lists that the
report keeps of them.
-/

namespace ApiMigration.Stub

open FileTree

/-- What writing a file unless it exists can do: it stops after making directories, finds the place
taken, puts the file where nothing stood, or stops with the beginning of the file there. -/
inductive Wrote (storage : Storage) (tree : FileTree) (path : Path) (bytes : List UInt8) :
    FileTree → Except Failure Bool → Prop
  | failed {made : FileTree} {failure : Failure} (steps : MakesDirectories tree made) :
      Wrote storage tree path bytes made (.error failure)
  | kept {made : FileTree} {place : Location} (steps : MakesDirectories tree made)
      (prepared : tree.makeParent path = (made, .ok ()))
      (located : made.locate path { followLast := false, wantsFile := true } = .ok place)
      (taken : (made.get? place).isSome) : Wrote storage tree path bytes made (.ok false)
  | created {made : FileTree} {place : Location} (steps : MakesDirectories tree made)
      (prepared : tree.makeParent path = (made, .ok ()))
      (located : made.locate path { followLast := false, wantsFile := true } = .ok place)
      (absent : made.get? place = none) :
      Wrote storage tree path bytes (made.set place (.file bytes)) (.ok true)
  | refused {made : FileTree} {place : Location} {count : Fin bytes.length} {error : FileError}
      (steps : MakesDirectories tree made)
      (located : made.locate path { followLast := false, wantsFile := true } = .ok place)
      (absent : made.get? place = none)
      (told : storage.refusal? (made.set place (.file [])) place bytes = some (count, error)) :
      Wrote storage tree path bytes (made.set place (.file (bytes.take count)))
        (.error (.io path error))

theorem wrote_writeIfAbsent {storage : Storage} {tree after : FileTree} {path : Path}
    {contents : String} {result : Except Failure Bool}
    (ran : writeIfAbsent tree path contents storage = (after, result)) :
    Wrote storage tree path (textBytes contents) after result := by
  have steps := makeParent_makes tree path
  unfold writeIfAbsent at ran
  split at ran
  · next made failure parent =>
    rw [parent] at steps
    cases ran
    exact .failed steps
  · next made prepared =>
    rw [prepared] at steps
    split at ran
    · next taken =>
      obtain ⟨place, located, occupied⟩ := createNew_alreadyExists_iff.mp taken
      cases ran
      exact .kept steps prepared located occupied
    · cases ran
      exact .failed steps
    · next opened place success =>
      obtain ⟨located, absent, rfl⟩ := createNew_eq_ok_iff.mp success
      unfold Storage.fill at ran
      cases told : storage.refusal? (made.set place (.file [])) place (textBytes contents) with
      | none =>
        simp only [told, set_set] at ran
        cases ran
        exact .created steps prepared located absent
      | some refusal =>
        simp only [told, set_set] at ran
        cases ran
        exact .refused steps located absent told

theorem writeAll_cons (tree : FileTree) (report : WriteReport) (stub : Planned)
    (more : List Planned) (storage : Storage) :
    writeAll tree report (stub :: more) storage =
      match writeIfAbsent tree stub.path stub.contents storage with
      | (tree, .error failure) => (tree, .error failure)
      | (tree, .ok true) =>
        writeAll tree { report with created := report.created ++ [stub.path] } more storage
      | (tree, .ok false) =>
        writeAll tree { report with existing := report.existing ++ [stub.path] } more storage :=
  (rfl)

theorem writeIfAbsent_of_ok {storage : Storage} {tree after : FileTree} {path : Path}
    {contents : String} {made : Bool}
    (ran : writeIfAbsent tree path contents storage = (after, .ok made)) :
    writeIfAbsent tree path contents = (after, .ok made) := by
  unfold writeIfAbsent at ran ⊢
  split at ran
  · cases ran
  · split at ran
    · exact ran
    · cases ran
    · next file place _ =>
      cases told : storage.refusal? file place (textBytes contents) with
      | none =>
        simp only [Storage.fill, told] at ran
        exact ran
      | some refusal =>
        simp only [Storage.fill, told] at ran
        cases ran

/-- A run that succeeds was refused nothing. What holds of successful runs on a storage that takes
everything holds on any storage. -/
theorem writeAll_of_ok {storage : Storage} {tree after : FileTree} {report final : WriteReport}
    {stubs : List Planned} (ran : writeAll tree report stubs storage = (after, .ok final)) :
    writeAll tree report stubs = (after, .ok final) := by
  induction stubs generalizing tree report with
  | nil => exact ran
  | cons stub more ih =>
    rw [writeAll_cons] at ran ⊢
    cases written : writeIfAbsent tree stub.path stub.contents storage with
    | mk next outcome =>
      rw [written] at ran
      cases outcome with
      | error failure => cases ran
      | ok made =>
        rw [writeIfAbsent_of_ok written]
        cases made with
        | false => exact ih ran
        | true => exact ih ran

theorem Scaffold.run_of_ok {storage : Storage} {scaffold : Scaffold} {tree after : FileTree}
    {sources : List SourceDeclaration} {inventory : Target.Inventory} {root : Path}
    {report : WriteReport}
    (ran : scaffold.run tree sources inventory root storage = (after, .ok report)) :
    scaffold.run tree sources inventory root = (after, .ok report) :=
  writeAll_of_ok ran

def NewFile (before after : FileTree) (place : Location) : Prop :=
  before.get? place = none ∧ ∃ bytes, after.get? place = some (.file bytes)

def firstAt? (tree : FileTree) (stubs : List Planned) (place : Location) : Option Planned :=
  stubs.find? fun stub => tree.placeOf stub.path = place

theorem firstAt?_append {tree : FileTree} {stubs : List Planned} {place : Location}
    {stub : Planned} (found : firstAt? tree stubs place = some stub) (more : List Planned) :
    firstAt? tree (stubs ++ more) place = some stub := by
  rw [firstAt?] at found
  rw [firstAt?, List.find?_append, found, Option.some_or]

/-- How a tree came about when some planned skeletons have been dealt with: every file is an old one
or holds the first skeleton of its place, and no place of a skeleton is free. -/
structure Accounted (before : FileTree) (finished : List Planned) (now : FileTree) : Prop where
  extended : Extends before now
  linkFree : now.LinkFree
  origin : ∀ place bytes, now.get? place = some (.file bytes) →
    before.get? place = some (.file bytes) ∨
      before.get? place = none ∧
        ∃ stub, firstAt? before finished place = some stub ∧ bytes = textBytes stub.contents
  taken : ∀ stub ∈ finished, (now.get? (before.placeOf stub.path)).isSome

namespace Accounted

variable {before now next : FileTree} {finished : List Planned} {stub : Planned}

theorem start (linkFree : before.LinkFree) : Accounted before [] before where
  extended := .refl before
  linkFree := linkFree
  origin := fun _ _ held => .inl held
  taken := by simp

theorem directories (accounted : Accounted before finished now)
    (steps : MakesDirectories now next) : Accounted before finished next where
  extended := accounted.extended.trans steps.extend
  linkFree := steps.linkFree accounted.linkFree
  origin := fun place bytes held => accounted.origin place bytes (steps.file held)
  taken := by
    intro stub member
    obtain ⟨entry, held⟩ := Option.isSome_iff_exists.mp (accounted.taken stub member)
    exact Option.isSome_iff_exists.mpr ⟨entry, steps.extend.get? held⟩

theorem kept (accounted : Accounted before finished now)
    (taken : (now.get? (before.placeOf stub.path)).isSome) :
    Accounted before (finished ++ [stub]) now where
  extended := accounted.extended
  linkFree := accounted.linkFree
  origin := by
    intro place bytes held
    rcases accounted.origin place bytes held with old | ⟨free, first, found, same⟩
    · exact .inl old
    · exact .inr ⟨free, first, firstAt?_append found [stub], same⟩
  taken := by
    intro other member
    rcases List.mem_append.mp member with member | member
    · exact accounted.taken other member
    · rw [List.mem_singleton.mp member]
      exact taken

theorem firstAt?_eq_none (accounted : Accounted before finished now) {place : Location}
    (absent : now.get? place = none) : firstAt? before finished place = none := by
  refine List.find?_eq_none.mpr ?_
  intro stub member same
  have occupied := accounted.taken stub member
  rw [of_decide_eq_true same, absent] at occupied
  cases occupied

theorem firstAt?_next (accounted : Accounted before finished now)
    (absent : now.get? (before.placeOf stub.path) = none) (more : List Planned) :
    firstAt? before (finished ++ stub :: more) (before.placeOf stub.path) = some stub := by
  rw [firstAt?, List.find?_append, ← firstAt?, accounted.firstAt?_eq_none absent]
  simp

theorem created (accounted : Accounted before finished now)
    (absent : now.get? (before.placeOf stub.path) = none) :
    Accounted before (finished ++ [stub])
      (now.set (before.placeOf stub.path) (.file (textBytes stub.contents))) where
  extended := accounted.extended.trans (.set _ absent)
  linkFree := accounted.linkFree.set absent (by simp)
  origin := by
    intro place bytes held
    rcases file_of_set absent held with ⟨rfl, rfl⟩ | still
    · exact .inr ⟨accounted.extended.absent absent, stub, accounted.firstAt?_next absent [], rfl⟩
    · rcases accounted.origin place bytes still with old | ⟨free, first, found, same⟩
      · exact .inl old
      · exact .inr ⟨free, first, firstAt?_append found [stub], same⟩
  taken := by
    intro other member
    rw [get?_set_of_absent _ absent]
    split
    · rfl
    · next elsewhere =>
      rcases List.mem_append.mp member with member | member
      · exact accounted.taken other member
      · rw [List.mem_singleton.mp member] at elsewhere
        exact absurd rfl elsewhere

end Accounted

/-- What a report says of a run so far: the created paths are those of the new files, each once and
in the order of the plan, and every skeleton dealt with is listed. -/
structure Tallied (before : FileTree) (finished : List Planned) (now : FileTree)
    (report : WriteReport) : Prop where
  order : report.created.Sublist (finished.map Planned.path)
  distinct : (report.created.map before.placeOf).Nodup
  fresh : ∀ place, place ∈ report.created.map before.placeOf ↔ NewFile before now place
  total : report.created.length + report.existing.length = finished.length

namespace Tallied

variable {before now next : FileTree} {finished : List Planned} {stub : Planned}
  {report : WriteReport}

theorem start (before : FileTree) : Tallied before [] before {} where
  order := List.Sublist.refl _
  distinct := List.nodup_nil
  fresh := by
    intro place
    simp only [List.map_nil, List.not_mem_nil, false_iff]
    rintro ⟨absent, bytes, held⟩
    rw [absent] at held
    cases held
  total := rfl

theorem directories (tallied : Tallied before finished now report)
    (steps : MakesDirectories now next) : Tallied before finished next report where
  order := tallied.order
  distinct := tallied.distinct
  fresh := by
    intro place
    rw [tallied.fresh]
    constructor
    · rintro ⟨absent, bytes, held⟩
      exact ⟨absent, bytes, steps.extend.get? held⟩
    · rintro ⟨absent, bytes, held⟩
      exact ⟨absent, bytes, steps.file held⟩
  total := tallied.total

theorem kept (tallied : Tallied before finished now report) :
    Tallied before (finished ++ [stub]) now
      { report with existing := report.existing ++ [stub.path] } where
  order := by
    rw [List.map_append]
    exact tallied.order.trans (List.sublist_append_left _ _)
  distinct := tallied.distinct
  fresh := tallied.fresh
  total := by
    have total := tallied.total
    simp only [List.length_append, List.length_singleton]
    omega

theorem created (tallied : Tallied before finished now report)
    (accounted : Accounted before finished now)
    (absent : now.get? (before.placeOf stub.path) = none) :
    Tallied before (finished ++ [stub])
      (now.set (before.placeOf stub.path) (.file (textBytes stub.contents)))
      { report with created := report.created ++ [stub.path] } where
  order := by
    rw [List.map_append]
    exact List.Sublist.append tallied.order (List.Sublist.refl _)
  distinct := by
    rw [List.map_append, List.map_singleton, List.nodup_append]
    refine ⟨tallied.distinct, by simp, ?_⟩
    intro place member other last same
    obtain ⟨_, bytes, held⟩ := (tallied.fresh place).mp member
    rw [same, List.mem_singleton.mp last, absent] at held
    cases held
  fresh := by
    intro place
    rw [List.map_append, List.mem_append, tallied.fresh, List.map_singleton, List.mem_singleton]
    unfold NewFile
    rw [get?_set_of_absent _ absent]
    by_cases here : place = before.placeOf stub.path
    · subst here
      simp [accounted.extended.absent absent]
    · simp [here]
  total := by
    have total := tallied.total
    simp only [List.length_append, List.length_singleton]
    omega

end Tallied

/-- How a run ends: with an account of the skeletons that it dealt with, or at a skeleton whose
contents were refused, with the beginning of it in a new file. -/
inductive Ended (storage : Storage) (before : FileTree) (stubs : List Planned) :
    FileTree → Except Failure WriteReport → Prop
  | accounted {done rest : List Planned} {after : FileTree} {result : Except Failure WriteReport}
      (whole : stubs = done ++ rest) (accounted : Accounted before done after) :
      Ended storage before stubs after result
  | refused {done rest : List Planned} {stub : Planned} {now : FileTree}
      {count : Fin (textBytes stub.contents).length} {error : FileError}
      (whole : stubs = done ++ stub :: rest) (accounted : Accounted before done now)
      (absent : now.get? (before.placeOf stub.path) = none)
      (told : storage.refusal? (now.set (before.placeOf stub.path) (.file []))
        (before.placeOf stub.path) (textBytes stub.contents) = some (count, error)) :
      Ended storage before stubs
        (now.set (before.placeOf stub.path) (.file ((textBytes stub.contents).take count)))
        (.error (.io stub.path error))

/-- The storage refused the contents of a skeleton: with the error the run ended, and the last thing
that it did was to put the beginning that was taken into the file just made. -/
def CutShort (storage : Storage) (after : FileTree) (result : Except Failure WriteReport)
    (place : Location) (stub : Planned) (bytes : List UInt8) : Prop :=
  ∃ (now : FileTree) (count : Fin (textBytes stub.contents).length) (error : FileError),
    storage.refusal? (now.set place (.file [])) place (textBytes stub.contents) =
        some (count, error) ∧
      bytes = (textBytes stub.contents).take count ∧ after = now.set place (.file bytes) ∧
      result = .error (.io stub.path error)

namespace Ended

variable {storage : Storage} {before after : FileTree} {stubs : List Planned}
  {result : Except Failure WriteReport} {place : Location} {bytes : List UInt8}

theorem exists_accounted (ended : Ended {} before stubs after result) :
    ∃ done rest, stubs = done ++ rest ∧ Accounted before done after := by
  cases ended with
  | accounted whole accounted => exact ⟨_, _, whole, accounted⟩
  | refused _ _ _ told => cases told

theorem extended (ended : Ended storage before stubs after result) : Extends before after := by
  cases ended with
  | accounted _ accounted => exact accounted.extended
  | refused _ accounted absent _ => exact accounted.extended.trans (.set _ absent)

theorem origin (ended : Ended storage before stubs after result)
    (held : after.get? place = some (.file bytes)) :
    before.get? place = some (.file bytes) ∨
      NewFile before after place ∧
        ∃ stub, firstAt? before stubs place = some stub ∧
          (bytes = textBytes stub.contents ∨
            CutShort storage after result place stub bytes) := by
  cases ended with
  | @accounted done rest _ _ whole accounted =>
    rcases accounted.origin place bytes held with old | ⟨absent, stub, found, same⟩
    · exact .inl old
    · rw [whole]
      exact .inr ⟨⟨absent, bytes, held⟩, stub, firstAt?_append found rest, .inl same⟩
  | @refused done rest stub now count error whole accounted absent told =>
    rcases file_of_set absent held with ⟨rfl, rfl⟩ | still
    · rw [whole]
      exact .inr ⟨⟨accounted.extended.absent absent, _, held⟩, stub,
        accounted.firstAt?_next absent rest, .inr ⟨now, count, error, told, rfl, rfl, rfl⟩⟩
    · rcases accounted.origin place bytes still with old | ⟨free, other, found, same⟩
      · exact .inl old
      · rw [whole]
        exact .inr ⟨⟨free, bytes, held⟩, other, firstAt?_append found (stub :: rest), .inl same⟩

end Ended

theorem writeAll_accounted {storage : Storage} {before now after : FileTree}
    {finished stubs : List Planned} {report : WriteReport} {result : Except Failure WriteReport}
    (accounted : Accounted before finished now) (tallied : Tallied before finished now report)
    (downward : ∀ stub ∈ stubs, .up ∉ stub.path.components)
    (ran : writeAll now report stubs storage = (after, result)) :
    Ended storage before (finished ++ stubs) after result ∧
      ∀ final, result = .ok final → Tallied before (finished ++ stubs) after final := by
  induction stubs generalizing now report finished with
  | nil =>
    cases ran
    constructor
    · exact .accounted (rfl : finished ++ [] = finished ++ []) accounted
    · intro final same
      cases same
      rw [List.append_nil]
      exact tallied
  | cons stub more ih =>
    have plain := downward stub List.mem_cons_self
    have later : ∀ other ∈ more, .up ∉ other.path.components :=
      fun other member => downward other (List.mem_cons_of_mem _ member)
    have whole : finished ++ stub :: more = (finished ++ [stub]) ++ more := by simp
    rw [writeAll_cons] at ran
    cases written : writeIfAbsent now stub.path stub.contents storage with
    | mk next outcome =>
      rw [written] at ran
      cases wrote_writeIfAbsent written with
      | failed steps =>
        cases ran
        exact ⟨.accounted rfl (accounted.directories steps), by simp⟩
      | kept steps _ located taken =>
        have placed := eq_placeOf_of_locate (steps.linkFree accounted.linkFree) plain located
        rw [placed, (accounted.extended.trans steps.extend).placeOf_eq] at taken
        rw [whole]
        exact ih ((accounted.directories steps).kept taken) (tallied.directories steps).kept later
          ran
      | created steps _ located absent =>
        have placed := eq_placeOf_of_locate (steps.linkFree accounted.linkFree) plain located
        rw [(accounted.extended.trans steps.extend).placeOf_eq] at placed
        subst placed
        rw [whole]
        exact ih ((accounted.directories steps).created absent)
          ((tallied.directories steps).created (accounted.directories steps) absent) later ran
      | refused steps located absent told =>
        have placed := eq_placeOf_of_locate (steps.linkFree accounted.linkFree) plain located
        rw [(accounted.extended.trans steps.extend).placeOf_eq] at placed
        subst placed
        cases ran
        exact ⟨.refused rfl (accounted.directories steps) absent told, by simp⟩

end ApiMigration.Stub
