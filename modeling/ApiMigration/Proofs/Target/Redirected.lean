import ApiMigration.Proofs.Target.RepackageAgain
import ApiMigration.Proofs.Text.Front
import ApiMigration.Target.Header

namespace ApiMigration.Target

open FileTree Text

section Fronts

variable {front : List Char}

def fromKeyword (tail : List Char) : List Char :=
  "package".toList ++ tail

theorem stops_fromKeyword (tail : List Char) : Stops isBlank (fromKeyword tail) :=
  stops_cons (by decide) _

theorem laterLines_fromKeyword (tail : List Char) :
    laterLines (fromKeyword tail) = laterLines tail := by
  unfold fromKeyword
  rw [laterLines_append, laterLines_eq_nil (by decide), List.map_nil, List.nil_append]

theorem endsLine_front {rest : List Char} (feed : '\n' ∈ rest) (back : List Char) :
    endsLine (rest ++ back) = endsLine rest := by
  have ended : ∃ c ∈ rest, (c != '\n') = false := ⟨'\n', feed, by decide⟩
  rw [endsLine, endsLine, (takeWhile_front ended back).1]

theorem readPackage_eq (text : List Char) :
    readPackage text = (word? "package" text).bind fun rest =>
      (run? isPackageChar rest).bind fun (name, after) =>
        if endsLine after then some (String.ofList name, after) else none :=
  rfl

/-- A package that is read in the front is there whatever follows, if the front ends before a line
that is not blank after its first word. -/
theorem readPackage_front {tail : List Char} (settled : Settled front) (further : front ≠ [])
    (stops : Stops isPackageChar tail) (unended : endsLine tail = false) :
    (readPackage (front ++ fromKeyword tail)).map Prod.fst = (readPackage front).map Prod.fst := by
  have opened : word? "package" (front ++ fromKeyword tail) =
      (word? "package" front).map (· ++ fromKeyword tail) :=
    word?_front (by decide) settled.spaced (stops_fromKeyword tail) fun empty => absurd empty further
  cases read : word? "package" front with
  | none =>
    rw [readPackage_eq, readPackage_eq, opened, read]
    rfl
  | some rest =>
    have inner := settled.of_isSuffix (isSuffix_of_word? read)
    rw [readPackage_eq, readPackage_eq, opened, read, Option.map_some, Option.bind_some,
      Option.bind_some]
    -- The blanks after a first `package` may run up to the second one, which is then the name.
    by_cases empty : rest = []
    · have ran : run? isPackageChar (fromKeyword tail) = some ("package".toList, tail) :=
        run?_eq_some_iff.mpr ⟨rfl, by decide, by decide, stops⟩
      rw [empty, List.nil_append, ran, Option.bind_some]
      simp only [unended, Bool.false_eq_true, if_false]
      rfl
    · have ran := run?_front (fun _ => isPackageChar_eq_false_of_isBlank) inner.spaced empty
        (fromKeyword tail)
      cases named : run? isPackageChar rest with
      | none =>
        rw [ran, named]
        rfl
      | some found =>
        obtain ⟨name, after⟩ := found
        obtain ⟨whole, solid, allowed, _⟩ := run?_eq_some_iff.mp named
        have feed : '\n' ∈ after := by
          obtain ⟨start, c, split⟩ := (List.eq_nil_or_concat' name).resolve_left solid
          apply inner start c after
          · rw [whole, split, List.append_assoc, List.singleton_append]
          · exact isBlank_eq_false_of_isPackageChar (allowed c (by simp [split]))
        rw [ran, named, Option.map_some, Option.bind_some, Option.bind_some]
        simp only [endsLine_front feed]
        split <;> rfl

def IsHeaderWord (word : String) : Prop :=
  (∀ c ∈ word.toList, isBlank c = false) ∧ ∀ tail, ¬word.toList <+: fromKeyword tail

theorem isHeaderWord_of_differs {word : String} (solid : ∀ c ∈ word.toList, isBlank c = false)
    (differs : ∀ tail, word.toList.isPrefixOf (fromKeyword tail) = false) : IsHeaderWord word := by
  refine ⟨solid, ?_⟩
  intro tail begins
  rw [← List.isPrefixOf_iff_prefix, differs tail] at begins
  cases begins

theorem isHeaderWord_modifiers :
    IsHeaderWord "public" ∧ IsHeaderWord "open" ∧ IsHeaderWord "abstract" :=
  ⟨isHeaderWord_of_differs (by decide) fun _ => rfl,
    isHeaderWord_of_differs (by decide) fun _ => rfl,
    isHeaderWord_of_differs (by decide) fun _ => rfl⟩

theorem isHeaderWord_keyword (kind : TargetKind) : IsHeaderWord kind.keyword := by
  cases kind with
  | classType => exact isHeaderWord_of_differs (by decide) fun _ => rfl
  | interfaceType => exact isHeaderWord_of_differs (by decide) fun _ => rfl
  | enumType => exact isHeaderWord_of_differs (by decide) fun _ => rfl
  | structType => exact isHeaderWord_of_differs (by decide) fun _ => rfl

theorem IsHeaderWord.word?_front {word : String} (header : IsHeaderWord word)
    (spaced : Spaced front) (tail : List Char) :
    word? word (front ++ fromKeyword tail) = (word? word front).map (· ++ fromKeyword tail) :=
  Text.word?_front header.1 spaced (stops_fromKeyword tail) fun _ => header.2 tail

theorem IsHeaderWord.skipWord_front {word : String} (header : IsHeaderWord word)
    (spaced : Spaced front) (tail : List Char) :
    skipWord word (front ++ fromKeyword tail) = skipWord word front ++ fromKeyword tail ∧
      Spaced (skipWord word front) := by
  rw [skipWord, skipWord, header.word?_front spaced]
  cases read : word? word front with
  | none => exact ⟨rfl, spaced⟩
  | some rest => exact ⟨rfl, spaced.of_isSuffix (isSuffix_of_word? read)⟩

theorem readKind_front (spaced : Spaced front) (tail : List Char) :
    readKind (front ++ fromKeyword tail) =
      (readKind front).map fun (kind, rest) => (kind, rest ++ fromKeyword tail) := by
  have each (kind : TargetKind) :
      (word? kind.keyword (front ++ fromKeyword tail)).map (fun rest => (kind, rest)) =
        ((word? kind.keyword front).map fun rest => (kind, rest)).map
          fun (kind, rest) => (kind, rest ++ fromKeyword tail) := by
    rw [(isHeaderWord_keyword kind).word?_front spaced, Option.map_map, Option.map_map]
    rfl
  rw [readKind, readKind, List.map_findSome?]
  simp only [each, Function.comp_def]

theorem isSuffix_of_readKind {text rest : List Char} {kind : TargetKind}
    (read : readKind text = some (kind, rest)) : rest <:+ text := by
  obtain ⟨_, _, found⟩ := List.exists_of_findSome?_eq_some read
  obtain ⟨_, word, same⟩ := Option.map_eq_some_iff.mp found
  cases same
  exact isSuffix_of_word? word

def Gapped (tail : List Char) : Prop :=
  ∃ c rest, tail = c :: rest ∧ PackageLine.isGap c = true

theorem Gapped.stops {tail : List Char} (gapped : Gapped tail) : Stops isPackageChar tail := by
  obtain ⟨c, rest, rfl, gap⟩ := gapped
  apply stops_cons
  rw [Bool.eq_false_iff]
  intro allowed
  rw [PackageLine.isGap_eq_false_of_isPackageChar allowed] at gap
  cases gap

theorem Gapped.stopsName {tail : List Char} (gapped : Gapped tail) : Stops isNameChar tail := by
  intro c first
  have refused := gapped.stops c first
  rw [isPackageChar, Bool.or_eq_false_iff] at refused
  exact refused.1

theorem isWordChar_tab : isWordChar '\t' = false := by
  decide +kernel

theorem Gapped.endsWord {tail : List Char} (gapped : Gapped tail) : endsWord tail = true := by
  obtain ⟨c, rest, rfl, gap⟩ := gapped
  simp only [PackageLine.isGap, Bool.or_eq_true, beq_iff_eq] at gap
  rcases gap with rfl | rfl
  · rw [Text.endsWord, ends_space.2, Bool.not_false]
  · rw [Text.endsWord, isWordChar_tab, Bool.not_false]

def readPublicKind (text : List Char) : Option (TargetKind × List Char) :=
  (word? "public" text).bind fun rest => readKind (skipWord "abstract" (skipWord "open" rest))

theorem readPublicType_eq (text : List Char) :
    readPublicType text = (readPublicKind text).bind fun (kind, header) =>
      (identifier? header).bind fun (name, rest) =>
        if endsWord rest then some ((kind, String.ofList name), rest) else none := by
  rw [readPublicKind, Option.bind_assoc]
  rfl

theorem readPublicKind_front (spaced : Spaced front) :
    (∀ tail, readPublicKind (front ++ fromKeyword tail) =
      (readPublicKind front).map fun (kind, rest) => (kind, rest ++ fromKeyword tail)) ∧
    ∀ kind header, readPublicKind front = some (kind, header) → Spaced header := by
  obtain ⟨publicWord, openWord, abstractWord⟩ := isHeaderWord_modifiers
  have opened (tail : List Char) := publicWord.word?_front spaced tail
  cases published : word? "public" front with
  | none =>
    have nothing : readPublicKind front = none := by rw [readPublicKind, published, Option.bind_none]
    rw [nothing]
    constructor
    · intro tail
      rw [readPublicKind, opened, published]
      rfl
    · intro kind header read
      cases read
  | some rest =>
    have afterPublic := spaced.of_isSuffix (isSuffix_of_word? published)
    have once (tail : List Char) := openWord.skipWord_front afterPublic tail
    have twice (tail : List Char) := abstractWord.skipWord_front (once []).2 tail
    have found : readPublicKind front = readKind (skipWord "abstract" (skipWord "open" rest)) := by
      rw [readPublicKind, published, Option.bind_some]
    rw [found]
    constructor
    · intro tail
      rw [readPublicKind, opened, published, Option.map_some, Option.bind_some, (once tail).1,
        (twice tail).1, readKind_front (twice []).2]
    · intro kind header read
      exact (twice []).2.of_isSuffix (isSuffix_of_readKind read)

theorem endsWord_front {rest : List Char} (further : rest ≠ []) (back : List Char) :
    endsWord (rest ++ back) = endsWord rest := by
  obtain ⟨c, more, rfl⟩ := List.exists_cons_of_ne_nil further
  rfl

/-- A type header that begins in the front ends there, or it takes the word `package` for its name
and ends right after that. -/
theorem readPublicType_front (spaced : Spaced front) :
    (∀ tail, Gapped tail → readPublicType (front ++ fromKeyword tail) = none) ∨
    (∃ item rest, ∀ tail, Gapped tail →
      readPublicType (front ++ fromKeyword tail) = some (item, rest ++ fromKeyword tail)) ∨
    ∃ item, ∀ tail, Gapped tail →
      readPublicType (front ++ fromKeyword tail) = some (item, tail) := by
  obtain ⟨kinds, headers⟩ := readPublicKind_front spaced
  cases found : readPublicKind front with
  | none =>
    left
    intro tail _
    rw [readPublicType_eq, kinds, found]
    rfl
  | some begun =>
    obtain ⟨kind, header⟩ := begun
    have headerSpaced := headers kind header found
    have read (tail : List Char) : readPublicType (front ++ fromKeyword tail) =
        (identifier? (header ++ fromKeyword tail)).bind fun (name, rest) =>
          if endsWord rest then some ((kind, String.ofList name), rest) else none := by
      rw [readPublicType_eq, kinds, found]
      rfl
    by_cases empty : header = []
    · refine .inr (.inr ⟨(kind, "package"), ?_⟩)
      intro tail gapped
      have named : identifier? (fromKeyword tail) = some ("package".toList, tail) :=
        identifier?_append (by decide) gapped.stopsName
      rw [read, empty, List.nil_append, named, Option.bind_some]
      simp only [gapped.endsWord, if_true, String.ofList_toList]
    · have names (tail : List Char) := identifier?_front headerSpaced empty (fromKeyword tail)
      cases named : identifier? header with
      | none =>
        left
        intro tail _
        rw [read, names, named]
        rfl
      | some taken =>
        obtain ⟨name, rest⟩ := taken
        have further := rest_ne_nil_of_identifier? headerSpaced named
        by_cases ended : endsWord rest = true
        · refine .inr (.inl ⟨(kind, String.ofList name), rest, ?_⟩)
          intro tail _
          rw [read, names, named, Option.map_some, Option.bind_some]
          simp only [endsWord_front further, ended, if_true]
        · left
          intro tail _
          rw [read, names, named, Option.map_some, Option.bind_some]
          simp only [endsWord_front further, ended, if_false, Bool.false_eq_true]

theorem publicTypes_fromKeyword (spaced : Spaced front) {tail other after : List Char}
    (gapped : Gapped tail) (otherGapped : Gapped other) (lines : laterLines tail = laterLines after)
    (otherLines : laterLines other = laterLines after) (shorter : after.length ≤ tail.length)
    (otherShorter : after.length ≤ other.length) :
    publicTypes (String.ofList (front ++ fromKeyword tail)) =
      publicTypes (String.ofList (front ++ fromKeyword other)) := by
  let later := (laterLines after).map trimStart
  have heads {tail : List Char} (lines : laterLines tail = laterLines after) :
      lineHeads (front ++ fromKeyword tail) =
        (lineHeads front).map (· ++ fromKeyword tail) ++ later := by
    rw [lineHeads_front front (stops_fromKeyword tail), laterLines_fromKeyword, lines]
  have below : ∀ line ∈ later, line.length ≤ tail.length ∧ line.length ≤ other.length := by
    rw [List.forall_mem_map]
    intro line member
    have short := ((List.dropWhile_suffix isBlank).trans
      (isSuffix_of_mem_laterLines member)).length_le
    rw [trimStart]
    omega
  have longer (tail : List Char) : (fromKeyword tail).length = tail.length + 7 := by
    unfold fromKeyword
    rw [List.length_append, Nat.add_comm]
    rfl
  have alike : ∀ head ∈ lineHeads front,
      ReadsAlike readPublicType (fromKeyword tail) (fromKeyword other) later head := by
    intro head member
    have headSpaced := spaced.of_isSuffix (isSuffix_of_mem_lineHeads member)
    rcases readPublicType_front headSpaced with nothing | ⟨item, rest, found⟩ | ⟨item, found⟩
    · exact .nothing (nothing tail gapped) (nothing other otherGapped)
    · exact .before item rest (found tail gapped) (found other otherGapped)
    · apply ReadsAlike.inside item tail other (found tail gapped) (found other otherGapped) _ below
      rw [longer, longer]
      omega
  rw [publicTypes, publicTypes, String.toList_ofList, String.toList_ofList, allAtLines, allAtLines,
    heads lines, heads otherLines]
  apply collectAt_front _ _ alike
  intro line member
  have short := below line member
  rw [longer, longer]
  omega

end Fronts

section Lines

variable {before after : List Char} {line : PackageLine}

theorem allBlank_of_isGap {gap : List Char} (gaps : ∀ c ∈ gap, PackageLine.isGap c = true) :
    AllBlank gap := by
  intro c member
  have isGap := gaps c member
  simp only [PackageLine.isGap, Bool.or_eq_true, beq_iff_eq] at isGap
  rcases isGap with rfl | rfl
  · decide
  · decide

namespace PackageLine.Spelled

variable (spelled : line.Spelled)

include spelled

theorem gapped (after : List Char) : Gapped (line.gap ++ (line.name ++ after)) := by
  obtain ⟨c, more, split⟩ := List.exists_cons_of_ne_nil spelled.gap_ne
  exact ⟨c, more ++ (line.name ++ after), by rw [split]; rfl, spelled.gap c (by simp [split])⟩

theorem endsLine_eq_false (after : List Char) :
    endsLine (line.gap ++ (line.name ++ after)) = false := by
  obtain ⟨c, more, split⟩ := List.exists_cons_of_ne_nil spelled.name_ne
  have named := spelled.name c (by simp [split])
  have solid := isBlank_eq_false_of_isPackageChar named
  have single : ∀ d ∈ line.gap ++ [c], (d != '\n') = true := by
    rw [List.forall_mem_append]
    constructor
    · intro d member
      rw [bne_iff_ne]
      exact ne_of_mem_of_not_mem member (not_mem_of_refused spelled.gap (by decide))
    · intro d member
      rw [List.mem_singleton.mp member, bne_iff_ne]
      intro same
      rw [same, isBlank_feed] at solid
      cases solid
  have taken : line.gap ++ (line.name ++ after) = (line.gap ++ [c]) ++ (more ++ after) := by
    rw [split, List.append_assoc]
    rfl
  rw [endsLine, taken, List.takeWhile_append_of_pos single, List.all_eq_false]
  exact ⟨c, by simp, by simp [solid]⟩

theorem readPackage_fromKeyword (stops : Stops isPackageChar after) :
    readPackage (fromKeyword (line.gap ++ (line.name ++ after))) =
      if endsLine after then some (String.ofList line.name, after) else none := by
  have begun : Stops isBlank (line.name ++ after) := by
    obtain ⟨c, more, split⟩ := List.exists_cons_of_ne_nil spelled.name_ne
    rw [split]
    exact stops_cons (isBlank_eq_false_of_isPackageChar (spelled.name c (by simp [split]))) _
  have opened : word? "package" (fromKeyword (line.gap ++ (line.name ++ after))) =
      some (line.name ++ after) := by
    obtain ⟨c, more, split⟩ := List.exists_cons_of_ne_nil spelled.gap_ne
    have blank := allBlank_of_isGap spelled.gap
    rw [split] at blank
    have tail : AllBlank more := fun d member => blank d (List.mem_cons_of_mem c member)
    have literal : literal? "package" (fromKeyword (line.gap ++ (line.name ++ after))) =
        some (line.gap ++ (line.name ++ after)) :=
      literal?_eq_some_iff.mpr rfl
    rw [word?, literal, Option.bind_some, split, List.cons_append, blanks?,
      if_pos (blank c List.mem_cons_self), trimStart_blank_append tail, trimStart_eq_self begun]
  have ran : run? isPackageChar (line.name ++ after) = some (line.name, after) :=
    run?_eq_some_iff.mpr ⟨rfl, spelled.name_ne, spelled.name, stops⟩
  simp only [readPackage, opened, ran, Option.bind_eq_bind, Option.bind_some]

end PackageLine.Spelled

def lowerPackage? (text : List Char) : Option String :=
  ((laterLines text).map trimStart).findSome? fun head => (readPackage head).map Prod.fst

namespace FirstPackageLine

variable {text : List Char}

theorem settled (first : FirstPackageLine text before line after) :
    Settled (before ++ line.indent) :=
  first.complete.settled (allBlank_of_isGap first.spelled.indent)

theorem text_eq_fromKeyword (first : FirstPackageLine text before line after) :
    text = (before ++ line.indent) ++ fromKeyword (line.gap ++ (line.name ++ after)) := by
  rw [first.text_eq]
  unfold fromKeyword PackageLine.head
  simp only [List.append_assoc]

theorem laterLines_tail (first : FirstPackageLine text before line after) :
    laterLines (line.gap ++ (line.name ++ after)) = laterLines after := by
  have single := first.spelled.feed_not_mem
  unfold PackageLine.head at single
  simp only [List.mem_append, not_or] at single
  rw [laterLines_append, laterLines_append, laterLines_eq_nil single.1.2, laterLines_eq_nil single.2]
  rfl

theorem package?_eq {text : String} (first : FirstPackageLine text.toList before line after) :
    package? text = (package? (String.ofList (before ++ line.indent))).or
      ((if endsLine after then some (String.ofList line.name) else none).or
        (lowerPackage? after)) := by
  let tail := line.gap ++ (line.name ++ after)
  have above : firstAtLine readPackage ((before ++ line.indent) ++ fromKeyword tail) =
      (firstAtLine readPackage (before ++ line.indent)).or
        (firstAtLine readPackage (fromKeyword tail)) := by
    apply firstAtLine_front rfl first.settled
    intro head ends further
    exact readPackage_front (first.settled.of_isSuffix ends) further
      (first.spelled.gapped after).stops (first.spelled.endsLine_eq_false after)
  have keyword : laterLines (fromKeyword tail) = laterLines after :=
    (laterLines_fromKeyword tail).trans first.laterLines_tail
  rw [package?, first.text_eq_fromKeyword, above, package?, String.toList_ofList,
    firstAtLine_eq (fromKeyword tail), trimStart_eq_self (stops_fromKeyword tail), keyword,
    first.spelled.readPackage_fromKeyword first.stops, lowerPackage?]
  split <;> rfl

section Redirect

variable {text package : String} (first : FirstPackageLine text.toList before line after)
  (solid : package.toList ≠ []) (allowed : ∀ c ∈ package.toList, isPackageChar c = true)

include first solid allowed

theorem publicTypes_redirected :
    publicTypes ((redirect? package text).getD text) = publicTypes text := by
  obtain ⟨ending, again⟩ := first.redirect_again solid allowed
  have spelled : (redirect? package text).getD text = String.ofList ((before ++ line.indent) ++
      fromKeyword ([' '] ++ (package.toList ++ after))) := by
    rw [← String.toList_inj, String.toList_ofList]
    exact again.text_eq_fromKeyword
  have original : text = String.ofList ((before ++ line.indent) ++
      fromKeyword (line.gap ++ (line.name ++ after))) := by
    rw [← first.text_eq_fromKeyword, String.ofList_toList]
  rw [spelled]
  conv_rhs => rw [original]
  apply publicTypes_fromKeyword first.settled.spaced (again.spelled.gapped after)
    (first.spelled.gapped after) again.laterLines_tail first.laterLines_tail
  · simp only [List.length_append]
    omega
  · simp only [List.length_append]
    omega

theorem package?_redirected : package? ((redirect? package text).getD text) =
    (package? (String.ofList (before ++ line.indent))).or
      ((if endsLine after then some package else none).or (lowerPackage? after)) := by
  obtain ⟨ending, again⟩ := first.redirect_again solid allowed
  rw [again.package?_eq, String.ofList_toList]

end Redirect

end FirstPackageLine

end Lines

/-- The first package line is the one that is read: no package is declared before it, and its line
ends with the name. -/
def DeclaresFirst (text : String) : Prop :=
  ∃ before line after, FirstPackageLine text.toList before line after ∧
    package? (String.ofList (before ++ line.indent)) = none ∧ endsLine after = true

section Texts

variable {text old package : String}

theorem publicTypes_getD (solid : package.toList ≠ [])
    (allowed : ∀ c ∈ package.toList, isPackageChar c = true) :
    publicTypes ((redirect? package text).getD text) = publicTypes text := by
  by_cases held : ∃ before line after, FirstPackageLine text.toList before line after
  · obtain ⟨before, line, after, first⟩ := held
    exact first.publicTypes_redirected solid allowed
  · rw [redirect?_eq_none_of_absent held, Option.getD_none]

theorem DeclaresFirst.package?_getD (declares : DeclaresFirst text) (solid : package.toList ≠ [])
    (allowed : ∀ c ∈ package.toList, isPackageChar c = true) :
    package? ((redirect? package text).getD text) = some package := by
  obtain ⟨before, line, after, first, nothing, ended⟩ := declares
  rw [first.package?_redirected solid allowed, nothing, if_pos ended]
  rfl

theorem package?_getD_of_not_declaresFirst (other : ¬DeclaresFirst text)
    (solid : package.toList ≠ []) (allowed : ∀ c ∈ package.toList, isPackageChar c = true) :
    package? ((redirect? package text).getD text) = package? text := by
  by_cases held : ∃ before line after, FirstPackageLine text.toList before line after
  · obtain ⟨before, line, after, first⟩ := held
    rw [first.package?_redirected solid allowed, first.package?_eq]
    cases above : package? (String.ofList (before ++ line.indent)) with
    | some found => rfl
    | none =>
      have unended : endsLine after ≠ true := fun ended =>
        other ⟨before, line, after, first, above, ended⟩
      rw [if_neg unended, if_neg unended]
  · rw [redirect?_eq_none_of_absent held, Option.getD_none]

theorem package?_getD_eq_some_iff (declared : package? text = some old)
    (solid : package.toList ≠ []) (allowed : ∀ c ∈ package.toList, isPackageChar c = true) :
    package? ((redirect? package text).getD text) = some package ↔
      old = package ∨ DeclaresFirst text := by
  by_cases declares : DeclaresFirst text
  · exact iff_of_true (declares.package?_getD solid allowed) (.inr declares)
  · rw [package?_getD_of_not_declaresFirst declares solid allowed, declared, Option.some.injEq,
      or_iff_left declares]

theorem declarations_eq_map {origin : Path} (declared : package? text = some package) :
    declarations origin text =
      (publicTypes text).map fun (kind, name) => { package, kind, name, origin } := by
  rw [declarations, declared]

/-- The declarations of a text that points at a package are the old ones, moved to that package,
exactly when the package is read from it. -/
theorem declarations_getD_iff (origin : Path) (declared : package? text = some old)
    (solid : package.toList ≠ []) (allowed : ∀ c ∈ package.toList, isPackageChar c = true) :
    declarations origin ((redirect? package text).getD text) =
        (declarations origin text).map (fun declaration => { declaration with package := package }) ↔
      publicTypes text = [] ∨ old = package ∨ DeclaresFirst text := by
  have same : publicTypes ((redirect? package text).getD text) = publicTypes text :=
    publicTypes_getD solid allowed
  obtain ⟨found, read⟩ : ∃ found, package? ((redirect? package text).getD text) = some found := by
    by_cases declares : DeclaresFirst text
    · exact ⟨package, declares.package?_getD solid allowed⟩
    · exact ⟨old, (package?_getD_of_not_declaresFirst declares solid allowed).trans declared⟩
  rw [← package?_getD_eq_some_iff declared solid allowed, read, Option.some.injEq,
    declarations_eq_map read, declarations_eq_map declared, same, List.map_map, List.map_inj_left]
  cases publicTypes text with
  | nil => simp
  | cons type more =>
    rw [or_iff_right (List.cons_ne_nil type more)]
    constructor
    · intro each
      exact congrArg TargetDeclaration.package (each type List.mem_cons_self)
    · intro moved _ _
      rw [moved]
      rfl

end Texts

/-- A text that declares a package declares the package it is pointed at exactly when it did so
before or its first package line is the one that is read. A repackaging moves all declarations of a
file to the package of its place exactly under the same condition, unless the file has none. -/
theorem redirected_package_is_read_iff {text old package : String}
    (declared : package? text = some old) (solid : package.toList ≠ [])
    (allowed : ∀ c ∈ package.toList, isPackageChar c = true) :
    (package? ((redirect? package text).getD text) = some package ↔
      old = package ∨ DeclaresFirst text) ∧
    ∀ (tree after : FileTree) (root path : Path) (rootPackage extension : String)
      (report : RepackageReport) (paths : List Path), tree.Proper →
      repackage tree root rootPackage extension false = (after, .ok report) →
      tree.scan root { extension } = .ok paths → path ∈ paths →
      tree.readLossy? path = some text → packageAt root rootPackage path = package →
      ∃ now, after.readLossy? path = some now ∧
        (declarations path now = (declarations path text).map
            (fun declaration => { declaration with package := package }) ↔
          publicTypes text = [] ∨ old = package ∨ DeclaresFirst text) := by
  refine ⟨package?_getD_eq_some_iff declared solid allowed, ?_⟩
  intro tree after root path rootPackage extension report paths proper ran scanned listed read placed
  obtain ⟨base, located, _, repackaged⟩ := repackage_cases proper ran
  obtain ⟨other, relocated, _, rfl⟩ := scan_eq_ok_iff.mp scanned
  rw [located] at relocated
  cases relocated
  obtain ⟨names, member, rfl⟩ := List.mem_map.mp listed
  obtain ⟨_, further, bytes, file⟩ := (mem_foundBelow proper).mp member
  refine ⟨(redirect? package text).getD text, ?_, declarations_getD_iff _ declared solid allowed⟩
  rw [repackaged.readLossy?_after proper located further file member, read, placed, Option.map_some]

/-- A comment above names a package in passing, and a type header runs over the package line. -/
theorem redirected_package_is_read_below_comment :
    let text := "// package notes\npublic class\n\tpackage  old \r\n\npublic struct B \x7b\x7d\n"
    let moved := "// package notes\npublic class\n\tpackage p.a \r\n\npublic struct B \x7b\x7d\n"
    let path : Path := ⟨"/w/a/x.cj"⟩
    let tree : FileTree :=
      { entries := [(["w"], .directory), (["w", "a"], .directory),
          (["w", "a", "x.cj"], .file (textBytes text))] }
    let ran := repackage tree ⟨"/w"⟩ "p" "cj" false
    package? text = some "old" ∧ DeclaresFirst text ∧ redirect? "p.a" text = some moved ∧
      package? moved = some "p.a" ∧
      ∃ now, ran.1.readLossy? path = some now ∧
        declarations path now =
          [⟨"p.a", .classType, "package", path⟩, ⟨"p.a", .structType, "B", path⟩] := by
  intro text moved path tree ran
  have proper : tree.Proper :=
    .of_entries (by decide +kernel) (by decide +kernel) (by decide +kernel) rfl
  have declared : package? text = some "old" := by decide +kernel
  have redirected : redirect? "p.a" text = some moved := by decide +kernel
  have declares : DeclaresFirst text := by
    let line : PackageLine := ⟨['\t'], [' ', ' '], "old".toList, " \r\n".toList⟩
    let above := ["// package notes\n".toList, "public class\n".toList]
    let below := ["\n".toList, "public struct B \x7b\x7d\n".toList]
    have first : FirstPackageLine text.toList above.flatten line (line.rest ++ below.flatten) :=
      ⟨above, "\tpackage  old \r\n".toList, below, by decide +kernel, by decide +kernel,
        by decide +kernel, rfl, rfl⟩
    exact ⟨_, line, _, first, by decide +kernel, by decide +kernel⟩
  obtain ⟨read, run⟩ := redirected_package_is_read_iff declared
    (by decide : "p.a".toList ≠ []) (by decide)
  rw [redirected, Option.getD_some] at read
  obtain ⟨now, told, placed⟩ := run tree ran.1 ⟨"/w"⟩ path "p" "cj" { updated := [path] } [path] proper
    (Prod.ext rfl (by decide +kernel)) (by decide +kernel) List.mem_cons_self (by decide +kernel)
    (by decide +kernel)
  refine ⟨declared, declares, redirected, read.mpr (.inr declares), now, told, ?_⟩
  rw [placed.mpr (.inr (.inr declares))]
  decide +kernel

/-- A comment line that begins with the word `package` and a name is changed instead, and the file
stays in its old package. -/
theorem redirected_package_is_lost_in_comment :
    let text := "/*\npackage layout: see README\n*/\npackage old\n\npublic class A \x7b\n\x7d\n"
    let changed := "/*\npackage p: see README\n*/\npackage old\n\npublic class A \x7b\n\x7d\n"
    let path : Path := ⟨"/w/a.cj"⟩
    let tree : FileTree :=
      { entries := [(["w"], .directory), (["w", "a.cj"], .file (textBytes text))] }
    let ran := repackage tree ⟨"/w"⟩ "p" "cj" false
    package? text = some "old" ∧ redirect? "p" text = some changed ∧
      package? changed = some "old" ∧ packageAt ⟨"/w"⟩ "p" path = "p" ∧
      ran.2 = .ok { updated := [path] } ∧ ran.1.readLossy? path = some changed ∧
      declarations path changed = [⟨"old", .classType, "A", path⟩] := by
  decide +kernel

end ApiMigration.Target
