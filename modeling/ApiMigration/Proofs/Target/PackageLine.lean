import ApiMigration.Proofs.Text.Lines
import ApiMigration.Proofs.Text.Reader
import ApiMigration.Target.PackageLine

namespace ApiMigration.Target

open Text

namespace PackageLine

/-- The parts of a package line are made of the characters they may hold, and the name is not cut
short. -/
structure Spelled (line : PackageLine) : Prop where
  indent : ∀ c ∈ line.indent, isGap c = true
  gap_ne : line.gap ≠ []
  gap : ∀ c ∈ line.gap, isGap c = true
  name_ne : line.name ≠ []
  name : ∀ c ∈ line.name, isPackageChar c = true
  rest : Stops isPackageChar line.rest

theorem isGap_eq_false_of_isPackageChar {c : Char} (allowed : isPackageChar c = true) :
    isGap c = false := by
  rw [Bool.eq_false_iff]
  intro gap
  simp only [isGap, Bool.or_eq_true, beq_iff_eq] at gap
  rcases gap with rfl | rfl
  · revert allowed
    decide
  · revert allowed
    decide

theorem ofLine?_eq_some_iff {text : List Char} {line : PackageLine} :
    ofLine? text = some line ↔ line.Spelled ∧ text = line.head ++ line.rest := by
  obtain ⟨indent, gap, name, rest⟩ := line
  simp only [ofLine?, head, Option.bind_eq_bind, Option.bind_eq_some_iff, literal?_eq_some_iff,
    Prod.exists, run?_eq_some_iff, Option.pure_def, Option.some.injEq, mk.injEq]
  constructor
  · rintro ⟨_, written, gap, _, ⟨rfl, gap_ne, gaps, _⟩, name, rest, ⟨rfl, name_ne, names, stops⟩,
      rfl, rfl, rfl, rfl⟩
    refine ⟨⟨fun c member => List.mem_takeWhile_imp member, gap_ne, gaps, name_ne, names, stops⟩, ?_⟩
    simp only [List.append_assoc, ← written, List.takeWhile_append_dropWhile]
  · rintro ⟨spelled, rfl⟩
    have keyword : Stops isGap ("package".toList ++ (gap ++ (name ++ rest))) :=
      stops_cons (by decide) _
    have named : Stops isGap (name ++ rest) := by
      obtain ⟨c, more, rfl⟩ := List.exists_cons_of_ne_nil spelled.name_ne
      exact stops_cons (isGap_eq_false_of_isPackageChar (spelled.name c List.mem_cons_self)) _
    simp only [List.append_assoc]
    rw [takeWhile_append_stops spelled.indent keyword, dropWhile_append_stops spelled.indent keyword]
    exact ⟨_, rfl, gap, _, ⟨rfl, spelled.gap_ne, spelled.gap, named⟩, name, rest,
      ⟨rfl, spelled.name_ne, spelled.name, spelled.rest⟩, rfl, rfl, rfl, rfl⟩

theorem head_ne (line : PackageLine) : line.head ≠ [] := by
  simp [head]

theorem feed_not_mem {indent gap name : List Char} (indented : ∀ c ∈ indent, isGap c = true)
    (gaps : ∀ c ∈ gap, isGap c = true) (named : ∀ c ∈ name, isPackageChar c = true) :
    '\n' ∉ indent ++ "package".toList ++ gap ++ name := by
  intro member
  simp only [List.mem_append] at member
  rcases member with ((member | member) | member) | member
  · have wrong := indented _ member
    revert wrong
    decide
  · revert member
    decide
  · have wrong := gaps _ member
    revert wrong
    decide
  · have wrong := named _ member
    revert wrong
    decide

theorem Spelled.feed_not_mem {line : PackageLine} (spelled : line.Spelled) : '\n' ∉ line.head :=
  PackageLine.feed_not_mem spelled.indent spelled.gap spelled.name

end PackageLine

/-- The place of the first package line of a text: what stands before it, and what follows its
name. -/
structure FirstPackageLine (text before : List Char) (line : PackageLine) (after : List Char) :
    Prop where
  lines : ∃ earlier current later, fullLines text = earlier ++ current :: later ∧
    (∀ other ∈ earlier, PackageLine.ofLine? other = none) ∧
    PackageLine.ofLine? current = some line ∧
    before = earlier.flatten ∧ after = line.rest ++ later.flatten

namespace FirstPackageLine

variable {text before after : List Char} {line : PackageLine}

theorem spelled (first : FirstPackageLine text before line after) : line.Spelled := by
  obtain ⟨_, _, _, _, _, found, _⟩ := first.lines
  exact (PackageLine.ofLine?_eq_some_iff.mp found).1

theorem text_eq (first : FirstPackageLine text before line after) :
    text = before ++ line.head ++ after := by
  obtain ⟨earlier, current, later, cut, _, found, rfl, rfl⟩ := first.lines
  rw [← flatten_fullLines text, cut, (PackageLine.ofLine?_eq_some_iff.mp found).2]
  simp

theorem complete (first : FirstPackageLine text before line after) : Complete before := by
  obtain ⟨earlier, current, later, cut, _, _, rfl, _⟩ := first.lines
  exact (fullLines_cut cut).2.2.resolve_left (by simp)

theorem stops (first : FirstPackageLine text before line after) : Stops isPackageChar after := by
  obtain ⟨earlier, current, later, cut, _, found, _, rfl⟩ := first.lines
  obtain ⟨spelled, same⟩ := PackageLine.ofLine?_eq_some_iff.mp found
  apply spelled.rest.append
  intro bare
  rw [bare, List.append_nil] at same
  rw [List.append_cons] at cut
  rcases (fullLines_cut cut).2.2 with none | complete
  · rw [none]
    exact stops_nil _
  · rw [same, List.flatten_append, List.flatten_singleton] at complete
    rcases complete with empty | last
    · exact absurd (List.append_eq_nil_iff.mp empty).2 line.head_ne
    · rw [List.getLast?_append_of_ne_nil _ line.head_ne] at last
      exact absurd (List.mem_of_getLast? last) spelled.feed_not_mem

theorem unique {before' after' : List Char} {line' : PackageLine}
    (first : FirstPackageLine text before line after)
    (second : FirstPackageLine text before' line' after') : line = line' := by
  obtain ⟨earlier, current, later, cut, none, found, _⟩ := first.lines
  obtain ⟨earlier', current', later', cut', none', found', _⟩ := second.lines
  have left : (fullLines text).findSome? PackageLine.ofLine? = some line := by
    rw [cut, List.findSome?_append, List.findSome?_eq_none_iff.mpr none, List.findSome?_cons, found]
    rfl
  have right : (fullLines text).findSome? PackageLine.ofLine? = some line' := by
    rw [cut', List.findSome?_append, List.findSome?_eq_none_iff.mpr none', List.findSome?_cons,
      found']
    rfl
  rw [left] at right
  exact Option.some.inj right

end FirstPackageLine

/-- The lines change exactly at the first package line, and only if that says something else. -/
theorem redirectLines?_eq_some_iff {package : String} {lines changed : List (List Char)} :
    redirectLines? package lines = some changed ↔
      ∃ earlier current later line, lines = earlier ++ current :: later ∧
        (∀ other ∈ earlier, PackageLine.ofLine? other = none) ∧
        PackageLine.ofLine? current = some line ∧ line.head ≠ line.headFor package ∧
        changed = earlier ++ (line.headFor package ++ line.rest) :: later := by
  induction lines generalizing changed with
  | nil => simp [redirectLines?]
  | cons current more ih =>
    rw [redirectLines?]
    cases found : PackageLine.ofLine? current with
    | none =>
      simp only [Option.map_eq_some_iff, ih]
      constructor
      · rintro ⟨_, ⟨earlier, other, later, line, rfl, none, chosen, differs, rfl⟩, rfl⟩
        refine ⟨current :: earlier, other, later, line, rfl, ?_, chosen, differs, rfl⟩
        simpa [found] using none
      · rintro ⟨earlier, other, later, line, split, none, chosen, differs, rfl⟩
        cases earlier with
        | nil =>
          cases split
          rw [found] at chosen
          cases chosen
        | cons first earlier =>
          cases split
          refine ⟨_, ⟨earlier, other, later, line, rfl, ?_, chosen, differs, rfl⟩, rfl⟩
          exact fun line member => none line (List.mem_cons_of_mem _ member)
    | some line =>
      simp only [Option.ite_none_left_eq_some, Option.some.injEq]
      constructor
      · rintro ⟨differs, rfl⟩
        exact ⟨[], current, more, line, rfl, by simp, found, differs, rfl⟩
      · rintro ⟨earlier, other, later, chosen, split, none, other_eq, differs, rfl⟩
        cases earlier with
        | nil =>
          cases split
          rw [found] at other_eq
          cases other_eq
          exact ⟨differs, rfl⟩
        | cons first earlier =>
          cases split
          rw [none _ List.mem_cons_self] at found
          cases found

theorem redirect?_eq_some_iff {package text changed : String} :
    redirect? package text = some changed ↔
      ∃ before line after, FirstPackageLine text.toList before line after ∧
        line.head ≠ line.headFor package ∧
        changed.toList = before ++ line.headFor package ++ after := by
  simp only [redirect?, Option.map_eq_some_iff, redirectLines?_eq_some_iff]
  constructor
  · rintro ⟨_, ⟨earlier, current, later, line, cut, none, found, differs, rfl⟩, rfl⟩
    refine ⟨_, line, _, ⟨earlier, current, later, cut, none, found, rfl, rfl⟩, differs, ?_⟩
    simp
  · rintro ⟨before, line, after, first, differs, spelled⟩
    obtain ⟨earlier, current, later, cut, none, found, rfl, rfl⟩ := first.lines
    refine ⟨_, ⟨earlier, current, later, line, cut, none, found, differs, rfl⟩, ?_⟩
    rw [← String.toList_inj, spelled]
    simp

theorem exists_fullLines_cons (tail : List Char) :
    ∃ ending later, tail = ending ++ later.flatten ∧ ∀ front, front ≠ [] → '\n' ∉ front →
      fullLines (front ++ tail) = (front ++ ending) :: later := by
  by_cases feed : '\n' ∈ tail
  · obtain ⟨ending, rest, rfl, clean⟩ := List.eq_append_cons_of_mem feed
    refine ⟨ending ++ ['\n'], fullLines rest, ?_, ?_⟩
    · rw [flatten_fullLines]
      simp
    · intro front _ single
      rw [← List.append_assoc, fullLines_line (by simp [single, clean]), List.append_assoc]
  · refine ⟨tail, [], by simp, ?_⟩
    intro front solid single
    exact fullLines_last (by simp [solid]) (by simp [single, feed])

theorem FirstPackageLine.redirected {text before after : List Char} {line : PackageLine}
    {package : String} {name more : List Char} (first : FirstPackageLine text before line after)
    (split : package.toList = name ++ more) (solid : name ≠ [])
    (named : ∀ c ∈ name, isPackageChar c = true) (stops : Stops isPackageChar more) :
    ∃ ending, FirstPackageLine (before ++ line.headFor package ++ after) before
      ⟨line.indent, [' '], name, ending⟩ (more ++ after) := by
  have spelled := first.spelled
  have afterStops := first.stops
  obtain ⟨earlier, current, later, cut, none, found, rfl, rfl⟩ := first.lines
  obtain ⟨kept, _, complete⟩ := fullLines_cut cut
  have gaps : ∀ c ∈ [' '], PackageLine.isGap c = true := by
    rw [List.forall_mem_singleton]
    decide
  let front := line.indent ++ "package".toList ++ [' '] ++ name
  have single : '\n' ∉ front := PackageLine.feed_not_mem spelled.indent gaps named
  obtain ⟨ending, lines, tail, begun⟩ :=
    exists_fullLines_cons (more ++ (line.rest ++ later.flatten))
  have ended : Stops isPackageChar ending := by
    have whole : Stops isPackageChar (ending ++ lines.flatten) := by
      rw [← tail]
      exact stops.append fun _ => afterStops
    intro c head
    apply whole c
    rw [List.head?_append, head]
    rfl
  refine ⟨ending, ⟨earlier, front ++ ending, lines, ?_, none, ?_, rfl, tail⟩⟩
  · have spliced : earlier.flatten ++ line.headFor package ++ (line.rest ++ later.flatten) =
        earlier.flatten ++ (front ++ (more ++ (line.rest ++ later.flatten))) := by
      simp [PackageLine.headFor, split, front]
    rw [spliced, fullLines_append (complete.resolve_left (by simp)), kept,
      begun front (by simp [front]) single]
  · rw [PackageLine.ofLine?_eq_some_iff]
    exact ⟨⟨spelled.indent, by simp, gaps, solid, named, ended⟩, rfl⟩

theorem PackageLine.head_eq_headFor_iff {line : PackageLine} {package : String} :
    line.head = line.headFor package ↔ line.gap ++ line.name = ' ' :: package.toList := by
  simp [head, headFor]

theorem FirstPackageLine.redirect?_eq_none_iff {text package : String} {before after : List Char}
    {line : PackageLine} (first : FirstPackageLine text.toList before line after) :
    redirect? package text = none ↔ line.head = line.headFor package := by
  constructor
  · intro nothing
    by_contra differs
    have changed := redirect?_eq_some_iff.mpr ⟨before, line, after, first, differs,
      (String.toList_ofList : (String.ofList (before ++ line.headFor package ++ after)).toList = _)⟩
    rw [nothing] at changed
    cases changed
  · intro same
    rw [Option.eq_none_iff_forall_ne_some]
    intro changed redirected
    obtain ⟨_, other, _, second, differs, _⟩ := redirect?_eq_some_iff.mp redirected
    rw [first.unique second] at same
    exact differs same

theorem FirstPackageLine.toList_redirected {text : String} {before after : List Char}
    {line : PackageLine} (first : FirstPackageLine text.toList before line after)
    (package : String) :
    ((redirect? package text).getD text).toList = before ++ line.headFor package ++ after := by
  cases redirected : redirect? package text with
  | none =>
    have same := first.redirect?_eq_none_iff.mp redirected
    rw [Option.getD_none, first.text_eq, same]
  | some changed =>
    by_cases same : line.head = line.headFor package
    · rw [first.redirect?_eq_none_iff.mpr same] at redirected
      cases redirected
    · have spelled := redirect?_eq_some_iff.mpr ⟨before, line, after, first, same,
        (String.toList_ofList : (String.ofList (before ++ line.headFor package ++ after)).toList = _)⟩
      rw [redirected] at spelled
      rw [Option.getD_some, Option.some.inj spelled, String.toList_ofList]

theorem FirstPackageLine.redirect_again {text package : String} {before after : List Char}
    {line : PackageLine} (first : FirstPackageLine text.toList before line after)
    (solid : package.toList ≠ []) (allowed : ∀ c ∈ package.toList, isPackageChar c = true) :
    ∃ ending, FirstPackageLine ((redirect? package text).getD text).toList before
      ⟨line.indent, [' '], package.toList, ending⟩ after := by
  have whole : package.toList = package.toList ++ [] := (List.append_nil _).symm
  obtain ⟨ending, again⟩ := first.redirected whole solid allowed (stops_nil _)
  rw [← first.toList_redirected package] at again
  exact ⟨ending, again⟩

theorem redirect?_eq_none_of_absent {text package : String}
    (absent : ¬∃ before line after, FirstPackageLine text.toList before line after) :
    redirect? package text = none := by
  rw [Option.eq_none_iff_forall_ne_some]
  intro changed redirected
  obtain ⟨before, line, after, first, _⟩ := redirect?_eq_some_iff.mp redirected
  exact absent ⟨before, line, after, first⟩

def hasPackageLine (text : String) : Bool :=
  (fullLines text.toList).any fun line => (PackageLine.ofLine? line).isSome

theorem hasPackageLine_iff {text : String} :
    hasPackageLine text = true ↔
      ∃ before line after, FirstPackageLine text.toList before line after := by
  constructor
  · intro has
    obtain ⟨holder, member, found⟩ := List.any_eq_true.mp has
    have any : ((fullLines text.toList).findSome? PackageLine.ofLine?).isSome = true :=
      List.findSome?_isSome_iff.mpr ⟨holder, member, found⟩
    obtain ⟨line, first⟩ := Option.isSome_iff_exists.mp any
    obtain ⟨earlier, current, later, cut, chosen, none⟩ := List.findSome?_eq_some_iff.mp first
    exact ⟨_, line, _, ⟨earlier, current, later, cut, none, chosen, rfl, rfl⟩⟩
  · rintro ⟨_, _, _, ⟨earlier, current, later, cut, _, found, _⟩⟩
    rw [hasPackageLine, cut]
    simp [found]

/-- A second change to the same package is none, except that a package with other characters than
a package line can hold is never taken for the one that is there. -/
theorem redirect?_again_eq_none_iff {package text : String} {c : Char} {rest : List Char}
    (begins : package.toList = c :: rest) (solid : isPackageChar c = true) :
    redirect? package ((redirect? package text).getD text) = none ↔
      (hasPackageLine text = true → ∀ c ∈ package.toList, isPackageChar c = true) := by
  rw [hasPackageLine_iff]
  cases redirected : redirect? package text with
  | none =>
    refine iff_of_true redirected ?_
    rintro ⟨before, line, after, first⟩
    have spelled := first.spelled
    have same := PackageLine.head_eq_headFor_iff.mp (first.redirect?_eq_none_iff.mp redirected)
    obtain ⟨blank, gap, split⟩ := List.exists_cons_of_ne_nil spelled.gap_ne
    rw [split, List.cons_append, begins] at same
    have ended := (List.cons.inj same).2
    cases gap with
    | nil =>
      rw [List.nil_append, ← begins] at ended
      rw [← ended]
      exact spelled.name
    | cons other gap =>
      -- a second blank would begin the package
      have wrong := spelled.gap other (by simp [split])
      rw [(List.cons.inj ended).1, PackageLine.isGap_eq_false_of_isPackageChar solid] at wrong
      cases wrong
  | some changed =>
    obtain ⟨before, line, after, first, _, spelled⟩ := redirect?_eq_some_iff.mp redirected
    have named : package.toList.takeWhile isPackageChar ≠ [] := by
      simp [begins, solid]
    obtain ⟨ending, second⟩ := first.redirected (List.takeWhile_append_dropWhile).symm named
      (fun c member => List.mem_takeWhile_imp member) (stops_dropWhile _ _)
    rw [← spelled] at second
    rw [Option.getD_some, second.redirect?_eq_none_iff, PackageLine.head_eq_headFor_iff]
    simp only [List.singleton_append, List.cons.injEq, true_and]
    rw [List.takeWhile_eq_self_iff]
    exact ⟨fun each _ => each, fun each => each ⟨before, line, after, first⟩⟩

end ApiMigration.Target
