import ApiMigration.Proofs.Text.Reader
import ApiMigration.Target.PackageLine
import Mathlib.Data.List.Basic
import Mathlib.Data.List.Induction
import Mathlib.Data.List.TakeDrop

namespace ApiMigration.Path

theorem parts_ne_nil (path : Path) : path.parts ≠ [] :=
  List.splitOn_ne_nil _ _

/-- A name that is one component of a path, wherever it stands in it. -/
structure IsPlain (name : String) : Prop where
  solid : name ≠ ""
  elsewhere : name ≠ "."
  downward : name ≠ ".."
  slashFree : '/' ∉ name.toList

theorem IsPlain.isVoid {name : String} (plain : IsPlain name) : isVoid name.toList = false := by
  have other : name.toList ≠ ['.'] := by
    intro dot
    exact plain.elsewhere (String.toList_inj.mp (dot.trans (by decide)))
  simp [Path.isVoid, plain.solid, other]

theorem IsPlain.ofPart {name : String} (plain : IsPlain name) :
    Component.ofPart name.toList = .name name := by
  have onward : name.toList ≠ ['.', '.'] := by
    intro dots
    exact plain.downward (String.toList_inj.mp (dots.trans (by decide)))
  simp [Component.ofPart, onward]

theorem parts_eq_of_startsHere {path : Path} (here : path.startsHere = true) :
    path.parts = ['.'] :: path.body := by
  have first : path.parts.head? = some ['.'] := by
    simp only [startsHere, Bool.and_eq_true, beq_iff_eq] at here
    exact here.2
  rw [body, if_pos here]
  cases split : path.parts with
  | nil => simp [split] at first
  | cons part more =>
    rw [split] at first
    cases first
    rfl

theorem filter_parts (path : Path) :
    (path.parts.filter fun part => !isVoid part) = path.body.filter fun part => !isVoid part := by
  by_cases here : path.startsHere = true
  · rw [parts_eq_of_startsHere here]
    rfl
  · rw [body, if_neg here]

theorem not_mem_parts_of_downward {path : Path} (downward : .up ∉ path.components) :
    ['.', '.'] ∉ path.parts := by
  intro member
  apply downward
  have kept : ['.', '.'] ∈ path.body.filter fun part => !isVoid part := by
    rw [← filter_parts]
    exact List.mem_filter.mpr ⟨member, rfl⟩
  rw [components]
  exact List.mem_append_right _ (List.mem_map.mpr ⟨_, kept, rfl⟩)

theorem dots_not_mem_of_downward {path : Path} (downward : .up ∉ path.components) :
    ".." ∉ path.parts.map String.ofList := by
  intro member
  obtain ⟨part, inside, same⟩ := List.mem_map.mp member
  have dots : part = ['.', '.'] := String.ofList_injective same
  exact not_mem_parts_of_downward downward (dots ▸ inside)

theorem directoryNames_eq_filterMap (path : Path) :
    Target.directoryNames path =
      (path.parts.filter fun part => !isVoid part).filterMap fun part =>
        if part = ['.', '.'] then none else some (String.ofList part) := by
  have named : ∀ parts : List (List Char),
      (parts.map Component.ofPart).filterMap Component.name? =
      parts.filterMap fun part => if part = ['.', '.'] then none else some (String.ofList part) := by
    intro parts
    rw [List.filterMap_map]
    apply List.filterMap_congr
    intro part _
    by_cases dots : part = ['.', '.'] <;> simp [Component.ofPart, Component.name?, dots]
  rw [filter_parts, ← named, Target.directoryNames, components, anchor]
  split
  · rfl
  · split <;> rfl

theorem directoryNames_eq {path : Path} (downward : .up ∉ path.components) :
    Target.directoryNames path = (path.parts.filter fun part => !isVoid part).map String.ofList := by
  rw [directoryNames_eq_filterMap, ← List.filterMap_eq_map]
  apply List.filterMap_congr
  intro part member
  have other : part ≠ ['.', '.'] := by
    rintro rfl
    exact not_mem_parts_of_downward downward (List.mem_of_mem_filter member)
  simp [other]

def unrooted (path : Path) : List Char :=
  if path.isAbsolute then path.text.toList.drop 1 else path.text.toList

theorem parts_eq (path : Path) : path.parts = path.unrooted.splitOn '/' := rfl

theorem unrooted_of_append {base longer : Path} {more : List Char} (written : base.text ≠ "")
    (whole : longer.text.toList = base.text.toList ++ more) :
    longer.isAbsolute = base.isAbsolute ∧ longer.unrooted = base.unrooted ++ more := by
  have solid : base.text.toList ≠ [] := fun empty => written (String.toList_eq_nil_iff.mp empty)
  obtain ⟨first, rest, spelled⟩ := List.exists_cons_of_ne_nil solid
  have same : longer.isAbsolute = base.isAbsolute := by
    simp [isAbsolute, whole, spelled]
  refine ⟨same, ?_⟩
  rw [unrooted, unrooted, same, whole]
  split
  · simp [spelled]
  · rfl

theorem toList_join {base sub : Path} (relative : sub.isAbsolute = false) (written : base.text ≠ "") :
    (base.join sub).text.toList =
      base.text.toList ++
        if base.text.toList.getLast? = some '/' then sub.text.toList
        else '/' :: sub.text.toList := by
  unfold join
  rw [relative, if_neg Bool.false_ne_true]
  by_cases slash : base.text.toList.getLast? = some '/'
  · simp [slash]
  · simp [slash, written]

theorem exists_text_join (base : Path) {sub : Path} (relative : sub.isAbsolute = false) :
    ∃ more, (base.join sub).text = base.text ++ more := by
  unfold join
  rw [relative, if_neg Bool.false_ne_true]
  split
  · exact ⟨sub.text, rfl⟩
  · exact ⟨"/" ++ sub.text, String.append_assoc⟩

theorem parts_join {base sub : Path} (relative : sub.isAbsolute = false) (written : base.text ≠ "") :
    (base.join sub).isAbsolute = base.isAbsolute ∧
      ∃ front, (base.parts = front ∨ base.parts = front ++ [[]]) ∧
        (base.join sub).parts = front ++ sub.parts := by
  obtain ⟨same, spelled⟩ := unrooted_of_append written (toList_join relative written)
  have below : sub.parts = sub.text.toList.splitOn '/' := by
    rw [parts_eq, unrooted, relative, if_neg Bool.false_ne_true]
  refine ⟨same, ?_⟩
  rw [parts_eq (base.join sub), parts_eq base, spelled, below]
  by_cases slash : base.text.toList.getLast? = some '/'
  · rw [if_pos slash]
    obtain ⟨front, ended⟩ := List.getLast?_eq_some_iff.mp slash
    -- what stands before the last slash, the root left out
    by_cases rooted : base.isAbsolute = true ∧ front = []
    · refine ⟨[], .inr ?_, ?_⟩ <;> simp [unrooted, rooted.1, ended, rooted.2]
    · obtain ⟨inner, cut⟩ : ∃ inner, base.unrooted = inner ++ ['/'] := by
        unfold unrooted
        split
        · next absolute =>
          have solid : front ≠ [] := fun empty => rooted ⟨absolute, empty⟩
          obtain ⟨first, rest, rfl⟩ := List.exists_cons_of_ne_nil solid
          exact ⟨rest, by simp [ended]⟩
        · exact ⟨front, ended⟩
      refine ⟨inner.splitOn '/', .inr ?_, ?_⟩
      · rw [cut, List.splitOn_append_cons_self, List.splitOn_nil]
      · rw [cut, List.append_assoc, List.singleton_append, List.splitOn_append_cons_self]
  · rw [if_neg slash]
    exact ⟨base.unrooted.splitOn '/', .inl rfl, List.splitOn_append_cons_self _ _⟩

theorem isAbsolute_of_slash_not_mem {path : Path} (clean : '/' ∉ path.text.toList) :
    path.isAbsolute = false := by
  rw [isAbsolute, beq_eq_false_iff_ne]
  intro slash
  exact clean (List.mem_of_head? slash)

theorem isAbsolute_join {base sub : Path} (first : base.isAbsolute = false)
    (second : sub.isAbsolute = false) : (base.join sub).isAbsolute = false := by
  by_cases written : base.text = ""
  · have same : base.join sub = ⟨sub.text⟩ := by
      simp [join, second, written]
    rw [same]
    exact second
  · rw [(parts_join second written).1, first]

theorem isAbsolute_joinAll {base : Path} {names : List String} (first : base.isAbsolute = false)
    (each : ∀ name ∈ names, (⟨name⟩ : Path).isAbsolute = false) :
    (base.joinAll names).isAbsolute = false := by
  unfold joinAll
  induction names generalizing base with
  | nil => exact first
  | cons name more ih =>
    rw [List.foldl_cons]
    apply ih (isAbsolute_join first (each name List.mem_cons_self))
    intro other member
    exact each other (List.mem_cons_of_mem _ member)

theorem slash_not_mem_of_mem_parts {path : Path} {part : List Char} (listed : part ∈ path.parts) :
    '/' ∉ part :=
  Text.not_mem_of_mem_splitOn listed

theorem joinAll_concat (base : Path) (names : List String) (name : String) :
    base.joinAll (names ++ [name]) = (base.joinAll names).join ⟨name⟩ := by
  simp [joinAll]

theorem parts_joinAll {root : Path} {names : List String} (written : root.text ≠ "")
    (further : names ≠ []) (solid : ∀ name ∈ names, name ≠ "")
    (slashFree : ∀ name ∈ names, '/' ∉ name.toList) :
    (root.joinAll names).text ≠ "" ∧ (root.joinAll names).isAbsolute = root.isAbsolute ∧
      ∃ front, (root.parts = front ∨ root.parts = front ++ [[]]) ∧
        (root.joinAll names).parts = front ++ names.map String.toList := by
  induction names using List.reverseRecOn with
  | nil => exact absurd rfl further
  | append_singleton names name ih =>
    have relative : (⟨name⟩ : Path).isAbsolute = false :=
      isAbsolute_of_slash_not_mem (slashFree name (by simp))
    have single : (⟨name⟩ : Path).parts = [name.toList] := by
      rw [parts_eq, unrooted, relative, if_neg Bool.false_ne_true]
      exact List.splitOn_eq_singleton (slashFree name (by simp))
    rw [joinAll_concat]
    by_cases first : names = []
    · subst first
      obtain ⟨same, front, spelled, whole⟩ := parts_join relative written
      obtain ⟨more, longer⟩ := exists_text_join root relative
      refine ⟨?_, same, front, spelled, ?_⟩
      · show (root.join ⟨name⟩).text ≠ ""
        rw [longer]
        simp [written]
      · show (root.join ⟨name⟩).parts = _
        rw [whole, single]
        rfl
    · obtain ⟨long, same, front, spelled, whole⟩ := ih first
        (fun other member => solid other (List.mem_append_left _ member))
        (fun other member => slashFree other (List.mem_append_left _ member))
      obtain ⟨sameNext, frontNext, spelledNext, wholeNext⟩ := parts_join relative long
      obtain ⟨more, longer⟩ := exists_text_join (root.joinAll names) relative
      refine ⟨?_, sameNext.trans same, front, spelled, ?_⟩
      · rw [longer]
        simp [long]
      · -- the names joined so far do not end with a slash
        have ended : (root.joinAll names).parts = frontNext := by
          refine spelledNext.resolve_right ?_
          intro slash
          rw [whole] at slash
          obtain ⟨before, last, split⟩ := (List.eq_nil_or_concat' names).resolve_left first
          rw [split, List.map_append, ← List.append_assoc] at slash
          have empty := (List.append_inj' slash rfl).2
          simp only [List.map_cons, List.map_nil, List.cons.injEq, and_true,
            String.toList_eq_nil_iff] at empty
          exact solid last (by simp [split]) empty
        rw [wholeNext, ← ended, whole, single]
        simp

section Extension

open Text

theorem extensionOf?_append {stem ending : String} (solid : stem ≠ "")
    (dotFree : '.' ∉ ending.toList) (other : stem ++ "." ++ ending ≠ "..") :
    extensionOf? (stem ++ "." ++ ending) = some ending := by
  have reversed : (stem ++ "." ++ ending).toList.reverse =
      ending.toList.reverse ++ '.' :: stem.toList.reverse := by
    rw [String.toList_append, String.toList_append, List.reverse_append, List.reverse_append]
    rfl
  have each : ∀ c ∈ ending.toList.reverse, (c != '.') = true := by
    intro c member
    rw [bne_iff_ne]
    rintro rfl
    exact dotFree (List.mem_reverse.mp member)
  have stops : Stops (· != '.') ('.' :: stem.toList.reverse) := stops_cons (by decide) _
  have cut : (stem ++ "." ++ ending).toList.reverse.span (· != '.') =
      (ending.toList.reverse, '.' :: stem.toList.reverse) := by
    rw [List.span_eq_takeWhile_dropWhile, reversed, takeWhile_append_stops each stops,
      dropWhile_append_stops each stops]
  have long : stem.toList.reverse ≠ [] := by
    simpa using solid
  obtain ⟨c, more, split⟩ := List.exists_cons_of_ne_nil long
  rw [extensionOf?, if_neg other, cut, split]
  simp

/-- The extension of a name is what stands behind its last dot, if something stands before that. -/
theorem extensionOf?_eq_some_iff {name ending : String} : extensionOf? name = some ending ↔
    name ≠ ".." ∧ ∃ stem, stem ≠ "" ∧ name = stem ++ "." ++ ending ∧ '.' ∉ ending.toList := by
  constructor
  · intro found
    unfold extensionOf? at found
    split at found
    · cases found
    · next other =>
      rw [List.span_eq_takeWhile_dropWhile] at found
      split at found
      · cases found
      · cases found
      · next last c d more cut =>
        obtain ⟨rfl, rest⟩ := Prod.mk.inj cut
        cases found
        have dot : c = '.' := by
          have stops := stops_dropWhile (· != '.') name.toList.reverse c (by rw [rest]; rfl)
          simpa using stops
        subst dot
        have whole : name.toList.reverse =
            name.toList.reverse.takeWhile (· != '.') ++ '.' :: d :: more := by
          rw [← rest, List.takeWhile_append_dropWhile]
        refine ⟨other, String.ofList (d :: more).reverse, by simp, ?_, ?_⟩
        · have spelled := congrArg List.reverse whole
          rw [List.reverse_reverse] at spelled
          apply String.toList_inj.mp
          simpa [String.toList_append] using spelled
        · rw [String.toList_ofList, List.mem_reverse]
          exact fun member => absurd (List.mem_takeWhile_imp member) (by decide)
  · rintro ⟨other, stem, solid, rfl, dotFree⟩
    exact extensionOf?_append solid dotFree other

end Extension

end ApiMigration.Path
