import ApiMigration.Proofs.Target.PackageLine

namespace ApiMigration.Target

open Text

def pointAt (package text : String) : String :=
  (redirect? package text).getD text

def OpensPackage (line : List Char) : Prop :=
  ∃ indent gap c rest, (∀ d ∈ indent, PackageLine.isGap d = true) ∧
    gap ≠ [] ∧ (∀ d ∈ gap, PackageLine.isGap d = true) ∧ isPackageChar c = true ∧
    line = indent ++ "package".toList ++ gap ++ c :: rest

theorem ofLine?_eq_none_iff {line : List Char} :
    PackageLine.ofLine? line = none ↔ ¬OpensPackage line := by
  constructor
  · rintro nothing ⟨indent, gap, c, rest, indented, gap_ne, gaps, named, rfl⟩
    let found : PackageLine :=
      ⟨indent, gap, c :: rest.takeWhile isPackageChar, rest.dropWhile isPackageChar⟩
    have name : ∀ d ∈ found.name, isPackageChar d = true := by
      intro d member
      rcases List.mem_cons.mp member with rfl | member
      · exact named
      · exact List.mem_takeWhile_imp member
    have spelled : found.Spelled :=
      ⟨indented, gap_ne, gaps, List.cons_ne_nil _ _, name, stops_dropWhile _ _⟩
    have whole : indent ++ "package".toList ++ gap ++ c :: rest = found.head ++ found.rest := by
      simp [found, PackageLine.head]
    rw [PackageLine.ofLine?_eq_some_iff.mpr ⟨spelled, whole⟩] at nothing
    cases nothing
  · intro other
    rw [Option.eq_none_iff_forall_ne_some]
    intro found read
    obtain ⟨spelled, rfl⟩ := PackageLine.ofLine?_eq_some_iff.mp read
    obtain ⟨c, more, split⟩ := List.exists_cons_of_ne_nil spelled.name_ne
    refine other ⟨found.indent, found.gap, c, more ++ found.rest, spelled.indent, spelled.gap_ne,
      spelled.gap, spelled.name c (by simp [split]), ?_⟩
    simp [PackageLine.head, split]

/-- The lines of an old and a new text that differ at the first package line only: there the new one
has the same indentation, `package`, one space, the package and what stood behind the old name. -/
structure PackageReplaced (package : String) (old new : List (List Char)) (line : PackageLine)
    (earlier later : List (List Char)) : Prop where
  first : ∀ other ∈ earlier, ¬OpensPackage other
  spelled : line.Spelled
  before : old =
    earlier ++ (line.indent ++ "package".toList ++ line.gap ++ line.name ++ line.rest) :: later
  after : new =
    earlier ++ (line.indent ++ "package ".toList ++ package.toList ++ line.rest) :: later

theorem PackageReplaced.length_eq {package : String} {old new earlier later : List (List Char)}
    {line : PackageLine} (replaced : PackageReplaced package old new line earlier later) :
    new.length = old.length := by
  rw [replaced.before, replaced.after]
  simp

theorem redirect?_of_absent {text : String} (package : String)
    (absent : ∀ line ∈ fullLines text.toList, ¬OpensPackage line) :
    redirect? package text = none := by
  apply redirect?_eq_none_of_absent
  rintro ⟨before, line, after, first⟩
  obtain ⟨_, current, _, cut, _, found, _⟩ := first.lines
  have opens := absent current (by simp [cut])
  rw [← ofLine?_eq_none_iff, found] at opens
  cases opens

theorem exists_first_or_absent (text : List Char) :
    (∃ before line after, FirstPackageLine text before line after) ∨
      ∀ line ∈ fullLines text, ¬OpensPackage line := by
  cases found : (fullLines text).findSome? PackageLine.ofLine? with
  | none =>
    rw [List.findSome?_eq_none_iff] at found
    exact .inr fun line member => ofLine?_eq_none_iff.mp (found line member)
  | some line =>
    obtain ⟨earlier, current, later, cut, chosen, none⟩ := List.findSome?_eq_some_iff.mp found
    exact .inl ⟨_, line, _, ⟨earlier, current, later, cut, none, chosen, rfl, rfl⟩⟩

section First

variable {text package : String} {before after : List Char} {line : PackageLine}
  (first : FirstPackageLine text.toList before line after)

include first

theorem FirstPackageLine.toList_pointAt (package : String) :
    (pointAt package text).toList = before ++ line.headFor package ++ after :=
  first.toList_redirected package

/-- Pointed at a package, the text has the package line at the same place, and the next package
replaces it there. -/
theorem FirstPackageLine.pointAt_pointAt (solid : package.toList ≠ [])
    (allowed : ∀ c ∈ package.toList, isPackageChar c = true) (next : String) :
    pointAt next (pointAt package text) = pointAt next text := by
  obtain ⟨ending, again⟩ := first.redirect_again solid allowed
  have same : PackageLine.headFor ⟨line.indent, [' '], package.toList, ending⟩ next =
      line.headFor next := rfl
  rw [← String.toList_inj, first.toList_pointAt, ← same]
  exact again.toList_pointAt next

theorem FirstPackageLine.redirect?_pointAt (solid : package.toList ≠ [])
    (allowed : ∀ c ∈ package.toList, isPackageChar c = true) :
    redirect? package (pointAt package text) = none := by
  obtain ⟨ending, again⟩ := first.redirect_again solid allowed
  exact again.redirect?_eq_none_iff.mpr (PackageLine.head_eq_headFor_iff.mpr rfl)

theorem FirstPackageLine.packageReplaced (single : '\n' ∉ package.toList) :
    ∃ earlier later, PackageReplaced package (fullLines text.toList)
      (fullLines (pointAt package text).toList) line earlier later := by
  have spelled := first.spelled
  have changed := first.toList_pointAt package
  have complete := first.complete
  obtain ⟨earlier, current, later, cut, none, found, rfl, rfl⟩ := first.lines
  obtain ⟨kept, below, _⟩ := fullLines_cut cut
  have whole : current = line.head ++ line.rest := (PackageLine.ofLine?_eq_some_iff.mp found).2
  obtain ⟨ending, more, tail, begun⟩ := exists_fullLines_cons (line.rest ++ later.flatten)
  have old := begun line.head line.head_ne spelled.feed_not_mem
  rw [List.flatten_cons, whole, List.append_assoc, old] at below
  obtain ⟨same, rfl⟩ := List.cons.inj below
  rw [List.append_cancel_left same] at begun
  have headSingle : '\n' ∉ line.headFor package := by
    have indent : '\n' ∉ line.indent := not_mem_of_refused spelled.indent (by decide)
    simp [PackageLine.headFor, indent, single]
  have new := begun (line.headFor package) (by simp [PackageLine.headFor]) headSingle
  refine ⟨earlier, more, ?_, spelled, ?_, ?_⟩
  · exact fun other member => ofLine?_eq_none_iff.mp (none other member)
  · rw [cut, whole, PackageLine.head]
  · rw [changed, List.append_assoc, fullLines_append complete, kept, new, PackageLine.headFor]

end First

/-- Of two packages the last one wins, and the package that a text was pointed at is found there. The
text keeps its number of lines: it is left alone if no line begins as a package line does, and else
it differs at the first such line only, where the package is replaced. -/
theorem pointAt_last_wins {package : String} (text : String) (solid : package.toList ≠ [])
    (allowed : ∀ c ∈ package.toList, isPackageChar c = true) :
    (∀ next, pointAt next (pointAt package text) = pointAt next text) ∧
      redirect? package (pointAt package text) = none ∧
      (fullLines (pointAt package text).toList).length = (fullLines text.toList).length ∧
      ((∀ line ∈ fullLines text.toList, ¬OpensPackage line) ∧ pointAt package text = text ∨
        ∃ line earlier later, PackageReplaced package (fullLines text.toList)
          (fullLines (pointAt package text).toList) line earlier later) := by
  have single : '\n' ∉ package.toList := not_mem_of_refused allowed (by decide)
  rcases exists_first_or_absent text.toList with ⟨before, line, after, first⟩ | absent
  · obtain ⟨earlier, later, replaced⟩ := first.packageReplaced single
    exact ⟨first.pointAt_pointAt solid allowed, first.redirect?_pointAt solid allowed,
      replaced.length_eq, .inr ⟨line, earlier, later, replaced⟩⟩
  · have nothing := redirect?_of_absent package absent
    have same : pointAt package text = text := by rw [pointAt, nothing, Option.getD_none]
    rw [same]
    exact ⟨fun _ => rfl, nothing, rfl, .inl ⟨absent, rfl⟩⟩

/-- The package line is indented with a tab, has two spaces and ends with a comment and a carriage
return; a comment above and a line below name packages as well. -/
theorem pointAt_last_wins_between_others :
    let text := "// package x\r\n\tpackage  old.a: é\r\npackage b"
    let package := "p.q_1"
    package.toList ≠ [] ∧ (∀ c ∈ package.toList, isPackageChar c = true) ∧
      pointAt package text = "// package x\r\n\tpackage p.q_1: é\r\npackage b" ∧
      pointAt "r" (pointAt package text) = "// package x\r\n\tpackage r: é\r\npackage b" ∧
      redirect? package (pointAt package text) = none := by
  intro text package
  have solid : package.toList ≠ [] := by decide
  have allowed : ∀ c ∈ package.toList, isPackageChar c = true := by decide
  obtain ⟨last, again, _⟩ := pointAt_last_wins text solid allowed
  refine ⟨solid, allowed, by decide +kernel, ?_, again⟩
  rw [last "r"]
  decide +kernel

end ApiMigration.Target
