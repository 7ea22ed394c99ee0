import ApiMigration.Proofs.FileTree.Additions
import ApiMigration.Proofs.Stub.Write

namespace ApiMigration.Stub

open FileTree

variable {tree after : FileTree} {stubs : List Planned} {report final : WriteReport}

theorem Wrote.grown {path : Path} {bytes : List UInt8} {result : Except Failure Bool}
    (wrote : Wrote {} tree path bytes after result) :
    ∃ added, Grown tree added after ∧
      ∀ entry ∈ added, entry.2 = .directory ∨ entry.2 = .file bytes := by
  cases wrote with
  | failed steps =>
    obtain ⟨added, grown, directories⟩ := steps.grown
    exact ⟨added, grown, fun entry member => .inl (directories entry member)⟩
  | kept steps _ _ _ =>
    obtain ⟨added, grown, directories⟩ := steps.grown
    exact ⟨added, grown, fun entry member => .inl (directories entry member)⟩
  | created steps _ located absent =>
    obtain ⟨added, grown, directories⟩ := steps.grown
    refine ⟨_, grown.next located absent (by simp), ?_⟩
    intro entry member
    rcases List.mem_append.mp member with member | member
    · exact .inl (directories entry member)
    · rw [List.mem_singleton.mp member]
      exact .inr rfl
  | refused _ _ _ told => cases told

theorem grown_writeAll {result : Except Failure WriteReport}
    (ran : writeAll tree report stubs = (after, result)) :
    ∃ added, Grown tree added after ∧
      ∀ entry ∈ added, entry.2 = .directory ∨
        ∃ stub ∈ stubs, entry.2 = .file (textBytes stub.contents) := by
  induction stubs generalizing tree report with
  | nil =>
    cases ran
    exact ⟨[], .refl, by simp⟩
  | cons stub more ih =>
    rw [writeAll_cons] at ran
    cases written : writeIfAbsent tree stub.path stub.contents with
    | mk next outcome =>
      rw [written] at ran
      obtain ⟨added, grown, entries⟩ := (wrote_writeIfAbsent written).grown
      have first : ∀ entry ∈ added, entry.2 = .directory ∨
          ∃ other ∈ stub :: more, entry.2 = .file (textBytes other.contents) := by
        intro entry member
        exact (entries entry member).imp_right fun held => ⟨stub, List.mem_cons_self, held⟩
      cases outcome with
      | error failure =>
        cases ran
        exact ⟨added, grown, first⟩
      | ok made =>
        obtain ⟨report, continued⟩ : ∃ report, writeAll next report more = (after, result) := by
          cases made with
          | false => exact ⟨_, ran⟩
          | true => exact ⟨_, ran⟩
        obtain ⟨further, grew, others⟩ := ih continued
        refine ⟨added ++ further, grown.trans grew, ?_⟩
        intro entry member
        rcases List.mem_append.mp member with member | member
        · exact first entry member
        · refine (others entry member).imp_right ?_
          rintro ⟨other, listed, held⟩
          exact ⟨other, List.mem_cons_of_mem _ listed, held⟩

theorem Wrote.reached {path : Path} {bytes : List UInt8} {made : Bool}
    (wrote : Wrote {} tree path bytes after (.ok made)) :
    ∃ place, after.locate path { followLast := false, wantsFile := true } = .ok place ∧
      (after.get? place).isSome ∧
      (made = true → tree.get? place = none ∧ after.get? place = some (.file bytes)) := by
  cases wrote with
  | kept _ _ located taken => exact ⟨_, located, taken, by simp⟩
  | @created made place steps _ located absent =>
    have grown := Grown.refl.next located absent (by simp : ∀ target, Entry.file bytes ≠ .link target)
    refine ⟨place, grown.locate located, ?_⟩
    rw [get?_set_of_absent _ absent, if_pos rfl]
    exact ⟨rfl, fun _ => ⟨steps.extend.absent absent, rfl⟩⟩

theorem writeAll_cons_eq_ok {stub : Planned} {more : List Planned}
    (ran : writeAll tree report (stub :: more) = (after, .ok final)) :
    ∃ next made, Wrote {} tree stub.path (textBytes stub.contents) next (.ok made) ∧
      writeAll next
        { report with
          created := if made then report.created ++ [stub.path] else report.created
          existing := if made then report.existing else report.existing ++ [stub.path] } more =
        (after, .ok final) := by
  rw [writeAll_cons] at ran
  cases written : writeIfAbsent tree stub.path stub.contents with
  | mk next outcome =>
    rw [written] at ran
    cases outcome with
    | error failure => cases ran
    | ok made =>
      refine ⟨next, made, wrote_writeIfAbsent written, ?_⟩
      cases made with
      | false => exact ran
      | true => exact ran

theorem locate_of_writeAll (ran : writeAll tree report stubs = (after, .ok final))
    {stub : Planned} (planned : stub ∈ stubs) :
    ∃ place, after.locate stub.path { followLast := false, wantsFile := true } = .ok place ∧
      (after.get? place).isSome := by
  induction stubs generalizing tree report with
  | nil => cases planned
  | cons first more ih =>
    obtain ⟨next, made, wrote, continued⟩ := writeAll_cons_eq_ok ran
    rcases List.mem_cons.mp planned with rfl | planned
    · obtain ⟨place, located, taken, _⟩ := wrote.reached
      obtain ⟨_, grown, _⟩ := grown_writeAll continued
      obtain ⟨entry, held⟩ := Option.isSome_iff_exists.mp taken
      exact ⟨place, grown.locate located, by rw [grown.extend.get? held]; rfl⟩
    · exact ih continued planned

/-- A path that a run reports as created leads to a new file, which holds the first skeleton that
was planned for the path. -/
theorem exists_created (ran : writeAll tree report stubs = (after, .ok final)) {path : Path}
    (listed : path ∈ final.created) (fresh : path ∉ report.created) :
    ∃ stub place, stubs.find? (fun stub => stub.path = path) = some stub ∧
      after.locate path { followLast := false, wantsFile := true } = .ok place ∧
      tree.get? place = none ∧ after.get? place = some (.file (textBytes stub.contents)) := by
  induction stubs generalizing tree report with
  | nil =>
    cases ran
    exact absurd listed fresh
  | cons first more ih =>
    obtain ⟨next, made, wrote, continued⟩ := writeAll_cons_eq_ok ran
    obtain ⟨there, located, taken, new⟩ := wrote.reached
    obtain ⟨_, before, _⟩ := wrote.grown
    obtain ⟨_, grown, _⟩ := grown_writeAll continued
    by_cases chosen : made = true ∧ first.path = path
    · obtain ⟨rfl, rfl⟩ := chosen
      obtain ⟨absent, held⟩ := new rfl
      exact ⟨first, there, by simp, grown.locate located, absent, grown.extend.get? held⟩
    · have still : path ∉ if made then report.created ++ [first.path] else report.created := by
        cases made with
        | false => exact fresh
        | true =>
          simp only [true_and] at chosen
          simpa [fresh] using fun same => chosen same.symm
      obtain ⟨stub, place, found, reached, absent, held⟩ := ih continued still
      have other : first.path ≠ path := by
        -- a path that was taken already cannot lead to a place that is free later
        rintro rfl
        rw [grown.locate located] at reached
        cases reached
        rw [absent] at taken
        cases taken
      refine ⟨stub, place, ?_, reached, before.extend.absent absent, held⟩
      rw [List.find?_cons_of_neg (by simpa using other), found]

end ApiMigration.Stub
