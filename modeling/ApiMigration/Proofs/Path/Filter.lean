import ApiMigration.Path.Basic
import ApiMigration.Path.Filter
import ApiMigration.Proofs.Text.Reader

/-!
Exclusions by components. An exclusion is read as the components between its slashes, whatever `./`
and slashes stand around them, and it covers the paths whose components begin with these. So a name
that merely begins with an excluded name is not excluded.
-/

namespace ApiMigration.Filter

open Text

section Covers

variable {excluded path : List Char}

theorem covers_iff : covers excluded path = true ↔
    path = excluded ∨ ∃ rest, path = excluded ++ '/' :: rest := by
  have after {rest : List Char} : afterPrefix? excluded path = some rest ↔ path = excluded ++ rest :=
    afterPrefix?_eq_some_iff
  rw [covers]
  split
  · next nothing =>
    simp only [Bool.false_eq_true, false_iff, not_or, not_exists]
    constructor
    · rintro rfl
      rw [after.mpr (List.append_nil _).symm] at nothing
      cases nothing
    · rintro rest rfl
      rw [after.mpr rfl] at nothing
      cases nothing
  · next rest found =>
    rw [after] at found
    subst found
    cases rest with
    | nil => simp
    | cons c rest => simp

theorem splitOn_inj {first second : List Char} :
    first.splitOn '/' = second.splitOn '/' ↔ first = second := by
  refine ⟨fun same => ?_, fun same => same ▸ rfl⟩
  have joined : ['/'].intercalate (first.splitOn '/') = first := List.intercalate_splitOn '/'
  rw [← joined, same, List.intercalate_splitOn]

theorem covers_iff_components :
    covers excluded path = true ↔ excluded.splitOn '/' <+: path.splitOn '/' := by
  rw [covers_iff]
  constructor
  · rintro (rfl | ⟨rest, rfl⟩)
    · exact List.prefix_rfl
    · rw [List.splitOn_append_cons_self]
      exact List.prefix_append _ _
  · rintro ⟨more, split⟩
    by_cases last : more = []
    · rw [last, List.append_nil, splitOn_inj] at split
      exact .inl split.symm
    · have clean : ∀ part ∈ more, '/' ∉ part := fun part listed =>
        not_mem_of_mem_splitOn (split ▸ List.mem_append_right _ listed)
      refine .inr ⟨List.intercalate ['/'] more, ?_⟩
      rw [← splitOn_inj, ← split, List.splitOn_append_cons_self,
        List.splitOn_intercalate '/' clean last]

theorem allows_eq_false_iff {exclusions : List String} {path : String} :
    allows exclusions path = false ↔ ∃ exclusion ∈ exclusions, plain exclusion ≠ [] ∧
      (plain exclusion).splitOn '/' <+: (withSlashes path.toList).splitOn '/' := by
  simp only [allows, List.all_eq_false, Bool.not_eq_true, Bool.or_eq_false_iff,
    List.isEmpty_eq_false_iff, Bool.not_eq_false', covers_iff_components, ne_eq]

theorem isActive_iff {exclusions : List String} :
    isActive exclusions = true ↔ ∃ exclusion ∈ exclusions, plain exclusion ≠ [] := by
  simp [isActive]

theorem allows_of_inactive {exclusions : List String} (inactive : isActive exclusions = false)
    (path : String) : allows exclusions path = true := by
  rw [← Bool.not_eq_false, allows_eq_false_iff]
  rintro ⟨exclusion, listed, solid, _⟩
  rw [isActive_iff.mpr ⟨exclusion, listed, solid⟩] at inactive
  cases inactive

theorem inactive_or_allows (exclusions : List String) (path : String) :
    (!isActive exclusions || allows exclusions path) = allows exclusions path := by
  cases active : isActive exclusions with
  | true => rfl
  | false => exact (allows_of_inactive active path).symm

end Covers

section Plain

variable {body text : List Char} {parts : List (List Char)}

/-- A text with any number of `./` and then of slashes before it, and of slashes behind it. -/
def around (heres before after : Nat) (body : List Char) : List Char :=
  (List.replicate heres ['.', '/']).flatten ++
    (List.replicate before '/' ++ body ++ List.replicate after '/')

theorem dropHere_replicate (heres : Nat) (text : List Char) :
    dropHere ((List.replicate heres ['.', '/']).flatten ++ text) = dropHere text := by
  induction heres with
  | zero => rfl
  | succ heres ih =>
    rw [List.replicate_succ, List.flatten_cons, List.append_assoc]
    exact ih

theorem dropHere_eq_self (other : ∀ rest, text ≠ '.' :: '/' :: rest) : dropHere text = text := by
  unfold dropHere
  split
  · exact absurd rfl (other _)
  · rfl

theorem trimSlashes_around (before after : Nat) (body : List Char) :
    trimSlashes (List.replicate before '/' ++ body ++ List.replicate after '/') =
      trimSlashes body := by
  have slashes {count : Nat} : ∀ c ∈ List.replicate count '/', (c == '/') = true := by
    intro c member
    rw [List.eq_of_mem_replicate member, beq_self_eq_true]
  have behind : (((body ++ List.replicate after '/').dropWhile (· == '/')).reverse).dropWhile (· == '/') =
      ((body.dropWhile (· == '/')).reverse).dropWhile (· == '/') := by
    rw [List.dropWhile_append]
    split
    · next void =>
      rw [List.isEmpty_iff.mp void, List.dropWhile_eq_nil_iff.mpr slashes]
    · rw [List.reverse_append, List.reverse_replicate, List.dropWhile_append_of_pos slashes]
  rw [trimSlashes, List.append_assoc, List.dropWhile_append_of_pos slashes, behind]
  rfl

theorem trimSlashes_eq_self (solid : [] ∉ body.splitOn '/') : trimSlashes body = body := by
  have head : body.head? ≠ some '/' := by
    intro slash
    obtain ⟨rest, rfl⟩ := List.head?_eq_some_iff.mp slash
    have split := List.splitOn_append_cons_self (a := '/') [] rest
    rw [List.nil_append] at split
    exact solid (by simp [split])
  have last : body.reverse.head? ≠ some '/' := by
    rw [List.head?_reverse]
    intro slash
    obtain ⟨front, rfl⟩ := List.getLast?_eq_some_iff.mp slash
    exact solid (by simp [List.splitOn_append_cons_self])
  have kept {text : List Char} (other : text.head? ≠ some '/') : text.dropWhile (· == '/') = text := by
    cases text with
    | nil => rfl
    | cons c text => exact List.dropWhile_cons_of_neg (by simpa using other)
  rw [trimSlashes, kept head, kept last, List.reverse_reverse]

theorem dropHere_append_slashes (written : body ≠ []) (solid : ['.'] ∉ body.splitOn '/')
    (after : Nat) :
    dropHere (body ++ List.replicate after '/') = body ++ List.replicate after '/' := by
  apply dropHere_eq_self
  intro rest same
  obtain ⟨c, more, rfl⟩ := List.exists_cons_of_ne_nil written
  obtain ⟨rfl, further⟩ := List.cons.inj same
  cases more with
  | nil => exact solid (by decide)
  | cons d more =>
    obtain ⟨rfl, _⟩ := List.cons.inj further
    have split := List.splitOn_append_cons_self (a := '/') ['.'] more
    rw [List.singleton_append] at split
    exact solid (by rw [split]; exact List.mem_append_left _ (by decide))

theorem dropHere_slash (text : List Char) : dropHere ('/' :: text) = '/' :: text :=
  dropHere_eq_self fun _ same => by simp at same

theorem trimSlashes_dropHere_void (heres before after : Nat) :
    trimSlashes (dropHere (around heres before after [])) = [] ∧
      (trimSlashes (dropHere (around heres before after ['.'])) = [] ∨
        trimSlashes (dropHere (around heres before after ['.'])) = ['.']) := by
  have slashes (count : Nat) : dropHere (List.replicate count '/') = List.replicate count '/' := by
    cases count with
    | zero => rfl
    | succ count => exact dropHere_slash _
  have nothing (count : Nat) : trimSlashes (List.replicate count '/') = [] := by
    have same := trimSlashes_around count 0 []
    rw [List.append_nil, List.replicate_zero, List.append_nil] at same
    exact same
  constructor
  · rw [around, dropHere_replicate, List.append_nil, List.replicate_append_replicate, slashes,
      nothing]
  · rw [around, dropHere_replicate]
    cases before with
    | succ before =>
      right
      rw [List.replicate_succ, List.cons_append, List.cons_append, dropHere_slash, ← List.cons_append,
        ← List.cons_append, ← List.replicate_succ, trimSlashes_around]
      rfl
    | zero =>
      cases after with
      | zero => exact .inr rfl
      | succ after =>
        left
        calc
          _ = trimSlashes (dropHere (List.replicate after '/')) := rfl
          _ = [] := by rw [slashes, nothing]

theorem trimSlashes_dropHere_around (written : body ≠ []) (solid : [] ∉ body.splitOn '/')
    (onward : ['.'] ∉ body.splitOn '/') (heres before after : Nat) :
    trimSlashes (dropHere (around heres before after body)) = body := by
  have kept : dropHere (List.replicate before '/' ++ body ++ List.replicate after '/') =
      List.replicate before '/' ++ body ++ List.replicate after '/' := by
    cases before with
    | zero => exact dropHere_append_slashes written onward after
    | succ before => exact dropHere_slash _
  rw [around, dropHere_replicate, kept, trimSlashes_around, trimSlashes_eq_self solid]

end Plain

section Shape

variable {exclusion : String} {components : List (List Char)}

def written (exclusion : String) : List Char :=
  withSlashes (trim exclusion.toList)

def IsVoid (text : List Char) : Prop :=
  ∃ heres before after, text = around heres before after [] ∨ text = around heres before after ['.']

/-- An exclusion that names what lies behind some components, written with slashes between them. -/
structure Names (text : List Char) (components : List (List Char)) : Prop where
  further : components ≠ []
  solid : ∀ part ∈ components, part ≠ [] ∧ part ≠ ['.']
  slashFree : ∀ part ∈ components, '/' ∉ part
  spelled : ∃ heres before after,
    text = around heres before after (List.intercalate ['/'] components)

theorem plain_eq_nil (void : IsVoid (written exclusion)) : plain exclusion = [] := by
  obtain ⟨heres, before, after, spelled | spelled⟩ := void
  · have nothing := (trimSlashes_dropHere_void heres before after).1
    rw [← spelled, written] at nothing
    simp [plain, nothing]
  · have nothing := (trimSlashes_dropHere_void heres before after).2
    rw [← spelled, written] at nothing
    rcases nothing with nothing | dot
    · simp [plain, nothing]
    · simp [plain, dot]

theorem Names.plain_eq (names : Names (written exclusion) components) :
    plain exclusion ≠ [] ∧ (plain exclusion).splitOn '/' = components := by
  obtain ⟨heres, before, after, spelled⟩ := names.spelled
  have split := List.splitOn_intercalate '/' names.slashFree names.further
  generalize List.intercalate ['/'] components = body at spelled split
  have solid : [] ∉ body.splitOn '/' := by
    rw [split]
    exact fun member => (names.solid _ member).1 rfl
  have onward : ['.'] ∉ body.splitOn '/' := by
    rw [split]
    exact fun member => (names.solid _ member).2 rfl
  have some : body ≠ [] := by
    rintro rfl
    exact solid (by simp)
  have other : body ≠ ['.'] := by
    rintro rfl
    exact onward (by decide)
  have same := trimSlashes_dropHere_around some solid onward heres before after
  rw [← spelled, written] at same
  have plain : plain exclusion = body := by
    simp [plain, same, other]
  rw [plain]
  exact ⟨some, split⟩

/-- Exclusions are prefixes of components. Of exclusions that are each void or name components, those
that name any count, and they exclude exactly the paths whose components begin with theirs. If none
does, nothing is excluded, so it makes no difference whether the paths are compared at all. -/
theorem excluded_iff_components {exclusions : List String}
    (each : ∀ exclusion ∈ exclusions,
      IsVoid (written exclusion) ∨ ∃ components, Names (written exclusion) components) :
    (∀ path : String, allows exclusions path = false ↔
      ∃ exclusion ∈ exclusions, ∃ components, Names (written exclusion) components ∧
        components <+: (withSlashes path.toList).splitOn '/') ∧
    (isActive exclusions = true ↔
      ∃ exclusion ∈ exclusions, ∃ components, Names (written exclusion) components) ∧
    (isActive exclusions = false → ∀ path, allows exclusions path = true) ∧
    ∀ path, (!isActive exclusions || allows exclusions path) = allows exclusions path := by
  have named {exclusion : String} (listed : exclusion ∈ exclusions) (solid : plain exclusion ≠ []) :
      ∃ components, Names (written exclusion) components := by
    refine (each exclusion listed).resolve_left ?_
    exact fun void => solid (plain_eq_nil void)
  refine ⟨fun path => ?_, ?_, allows_of_inactive, inactive_or_allows exclusions⟩
  · rw [allows_eq_false_iff]
    constructor
    · rintro ⟨exclusion, listed, solid, begins⟩
      obtain ⟨components, names⟩ := named listed solid
      rw [names.plain_eq.2] at begins
      exact ⟨exclusion, listed, components, names, begins⟩
    · rintro ⟨exclusion, listed, components, names, begins⟩
      obtain ⟨solid, split⟩ := names.plain_eq
      rw [← split] at begins
      exact ⟨exclusion, listed, solid, begins⟩
  · rw [isActive_iff]
    constructor
    · rintro ⟨exclusion, listed, solid⟩
      exact ⟨exclusion, listed, named listed solid⟩
    · rintro ⟨exclusion, listed, components, names⟩
      exact ⟨exclusion, listed, names.plain_eq.1⟩

theorem excluded_below_decorated :
    let exclusions := ["\t././/.//", " .\\gen\\", "//src/caf\u00e9 bar"]
    (∀ exclusion ∈ exclusions,
      IsVoid (written exclusion) ∨ ∃ components, Names (written exclusion) components) ∧
    isActive exclusions = true ∧ allows exclusions "gen\\stub.cj" = false ∧
    allows exclusions "generated/stub.cj" = true ∧ allows exclusions "src/caf\u00e9 bar" = false ∧
    allows exclusions "src/caf\u00e9 bars" = true := by
  intro exclusions
  have gen : Names (written " .\\gen\\") ["gen".toList] :=
    ⟨by decide, by decide, by decide, 1, 0, 1, by decide⟩
  have src : Names (written "//src/caf\u00e9 bar") ["src".toList, "caf\u00e9 bar".toList] :=
    ⟨by decide, by decide, by decide, 0, 2, 0, by decide⟩
  have each : ∀ exclusion ∈ exclusions,
      IsVoid (written exclusion) ∨ ∃ components, Names (written exclusion) components := by
    simp only [exclusions, List.forall_mem_cons, List.not_mem_nil, false_imp_iff, implies_true,
      and_true]
    exact ⟨.inl ⟨2, 1, 2, .inr (by decide)⟩, .inr ⟨_, gen⟩, .inr ⟨_, src⟩⟩
  obtain ⟨excluded, active, _, _⟩ := excluded_iff_components each
  refine ⟨each, ?_, ?_, by decide, ?_, by decide⟩
  · exact active.mpr ⟨_, by simp [exclusions], _, gen⟩
  · exact (excluded _).mpr ⟨_, by simp [exclusions], _, gen, by decide⟩
  · exact (excluded _).mpr ⟨_, by simp [exclusions], _, src, by decide⟩

end Shape

end ApiMigration.Filter
