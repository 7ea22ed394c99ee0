import ApiMigration.Proofs.FileTree.Additions
import ApiMigration.Proofs.Path.Ancestors

/-!
Making directories below one that is there, in a tree that may hold links. As long as nothing but
directories stands on the way, all that are missing are made and nothing else.
-/

namespace ApiMigration.FileTree

def origin (tree : FileTree) (rooted : Bool) : Location :=
  if rooted then [] else tree.workingDirectory

/-- Parts of a path lead to a directory. -/
structure Entered (tree : FileTree) (rooted : Bool) (parts : List String) (upper : Location) :
    Prop where
  trail : Trail tree {} linkLimit (tree.origin rooted) parts upper
  directory : tree.get? upper = some .directory

namespace Entered

variable {tree : FileTree} {rooted : Bool} {parts names : List String} {upper : Location}

theorem extend {new : FileTree} {added : List (Location × Entry)}
    (entered : Entered tree rooted parts upper) (grown : Grown tree added new) :
    Entered new rooted parts upper where
  trail := by
    rw [origin, grown.extend.workingDirectory_eq]
    exact entered.trail.extend grown.extend grown.links
  directory := grown.extend.get? entered.directory

theorem below (entered : Entered tree rooted parts upper) (named : ∀ name ∈ names, IsFileName name)
    (reached : ∀ front, front <+: names → tree.get? (upper ++ front) = some .directory) :
    Entered tree rooted (parts ++ names) (upper ++ names) where
  trail := by
    by_cases none : names = []
    · simpa [none] using entered.trail
    · have leads : Leads tree upper names := by
        refine ⟨named, fun front back split _ => reached front ⟨back, split.symm⟩, ?_⟩
        intro target linked
        rw [reached names (List.prefix_refl _)] at linked
        cases linked
      apply walk_eq_ok_iff_trail.mp
      apply entered.trail.walk_append entered.directory
      · simpa [none] using leads.rest_not_void
      · exact leads.walk_eq {}
  directory := reached names (List.prefix_refl _)

theorem walk_name {others rest : List String} {name : String} {approach : Approach}
    (entered : Entered tree rooted parts upper) (same : others.filter isSolid = parts.filter isSolid)
    (named : IsFileName name)
    (bare : ¬ (approach.wantsFile ∧ rest ≠ [] ∧ rest.all (· == "") = true))
    (free : tree.get? (upper ++ [name]) = none ∨
      tree.get? (upper ++ [name]) = some .directory ∧ rest = []) :
    tree.walk approach linkLimit (tree.origin rooted) (others ++ name :: rest) =
      if rest = [] then .ok (upper ++ [name]) else .error .notFound := by
  have isName : IsName approach.wantsFile name rest :=
    ⟨not_or.mpr ⟨named.solid, named.elsewhere⟩, named.downward, bare, named.short⟩
  apply (entered.trail.of_filter entered.directory same).walk_append entered.directory
  · simp [named.solid]
  · intro links
    rw [FileTree.walk_name isName]
    rcases free with free | ⟨directory, rfl⟩
    · simp only [free]
    · simp only [directory, walk_nil, if_pos]

variable {path : Path}

theorem locate_name {front after : List String} {name : String} {approach : Approach}
    (entered : Entered tree rooted front upper)
    (spells : path.Spells rooted (front ++ name :: after)) (named : IsFileName name)
    (free : tree.get? (upper ++ [name]) = none ∨
      tree.get? (upper ++ [name]) = some .directory ∧ after = []) :
    tree.locate path approach =
      if after = [] then .ok (upper ++ [name]) else .error .notFound := by
  obtain ⟨before, rest, whole, kept, others, ended⟩ := spells.cut
  have same : before.filter isSolid = front.filter isSolid := by
    rw [← kept, List.filter_filter]
    simp
  have last : after = [] ↔ rest = [] := by
    refine ⟨ended, ?_⟩
    rintro rfl
    exact others.symm
  have bare : ¬ (approach.wantsFile ∧ rest ≠ [] ∧ rest.all (· == "") = true) := by
    rintro ⟨_, further, void⟩
    obtain ⟨part, member⟩ := List.exists_mem_of_ne_nil after fun none => further (last.mp none)
    rw [← others, List.mem_filter] at member
    rw [beq_iff_eq.mp (List.all_eq_true.mp void part member.1)] at member
    cases member.2
  have started : tree.start path = tree.origin rooted := by
    rw [start, origin, spells.rooted_eq]
  rw [locate_eq_walk (spells.admissible (by simp)), started, whole,
    entered.walk_name same named bare (free.imp_right fun held => ⟨held.1, last.mp held.2⟩)]
  simp only [last]

theorem locate_directory (entered : Entered tree path.isAbsolute parts upper)
    (same : (path.parts.map String.ofList).filter isSolid = parts) (admissible : Admissible path) :
    tree.locate path = .ok upper := by
  rw [locate_eq_walk admissible, walk_eq_ok_iff_trail]
  apply entered.trail.of_filter entered.directory
  rw [← same, List.filter_filter]
  simp

end Entered

section Make

variable {tree made : FileTree} {path : Path} {above : List Path} {rooted : Bool}
  {parts names : List String} {upper : Location}

theorem makeChain_of_made (written : path.text ≠ "") (success : tree.makeDirectory path = .ok made) :
    tree.makeChain (path :: above) = (made, .ok ()) := by
  rw [makeChain, if_neg written, success]

theorem makeChain_of_missing {middle : FileTree} (written : path.text ≠ "")
    (missing : tree.makeDirectory path = .error .notFound)
    (chain : tree.makeChain above = (middle, .ok ()))
    (success : middle.makeDirectory path = .ok made) :
    tree.makeChain (path :: above) = (made, .ok ()) := by
  rw [makeChain, if_neg written, missing]
  simp only [chain, success]

theorem Entered.makeChain_eq (entered : Entered tree rooted parts upper)
    (spells : path.Spells rooted parts) : tree.makeChain (path :: above) = (tree, .ok ()) := by
  apply makeChain_of_isDirectory
  by_cases blank : path.text = ""
  · exact .inl blank
  · have located : tree.locate path = .ok upper :=
      (spells.rooted_eq ▸ entered).locate_directory spells.parts_eq (spells.fits.resolve_left blank)
    exact .inr (isDirectory_iff.mpr ⟨upper, located, entered.directory⟩)

/-- Nothing but directories stands on the way along names. -/
def Clear (tree : FileTree) (upper : Location) (names : List String) : Prop :=
  ∀ front, front <+: names →
    tree.get? (upper ++ front) = some .directory ∨ tree.get? (upper ++ front) = none

theorem Clear.cases (clear : Clear tree upper names)
    (directory : tree.get? upper = some .directory) :
    (∀ front, front <+: names → tree.get? (upper ++ front) = some .directory) ∨
      ∃ front name after, names = front ++ name :: after ∧
        (∀ shorter, shorter <+: front → tree.get? (upper ++ shorter) = some .directory) ∧
        tree.get? (upper ++ front ++ [name]) = none := by
  induction names generalizing upper with
  | nil =>
    left
    intro front begun
    rw [List.prefix_nil.mp begun, List.append_nil]
    exact directory
  | cons name names ih =>
    have shift : ∀ front, upper ++ name :: front = upper ++ [name] ++ front := by simp
    rcases clear [name] (by simp) with inside | absent
    · have onward : Clear tree (upper ++ [name]) names := by
        intro front begun
        rw [← shift]
        exact clear (name :: front) ((List.prefix_cons_inj name).mpr begun)
      rcases ih onward inside with all | ⟨front, next, after, split, before, free⟩
      · left
        intro front begun
        rcases List.prefix_cons_iff.mp begun with rfl | ⟨rest, rfl, inner⟩
        · rwa [List.append_nil]
        · rw [shift]
          exact all rest inner
      · right
        refine ⟨name :: front, next, after, by rw [split]; rfl, ?_, by rwa [shift]⟩
        intro shorter begun
        rcases List.prefix_cons_iff.mp begun with rfl | ⟨rest, rfl, inner⟩
        · rwa [List.append_nil]
        · rw [shift]
          exact before rest inner
    · right
      refine ⟨[], name, names, rfl, ?_, by simpa using absent⟩
      intro shorter begun
      rw [List.prefix_nil.mp begun, List.append_nil]
      exact directory

/-- One tree comes from another by putting directories on the way along names, which is then all
there. -/
structure Paved (old : FileTree) (upper : Location) (names : List String) (new : FileTree) :
    Prop where
  grown : ∃ added, Grown old added new ∧ ∀ entry ∈ added, entry.2 = .directory ∧
    ∃ front, front <+: names ∧ entry.1 = upper ++ front
  reached : ∀ front, front <+: names → new.get? (upper ++ front) = some .directory

theorem Paved.get?_cases (paved : Paved tree upper names made) {place : Location} {entry : Entry}
    (held : made.get? place = some entry) :
    tree.get? place = some entry ∨
      entry = .directory ∧ ∃ front, front <+: names ∧ place = upper ++ front := by
  obtain ⟨added, grown, entries⟩ := paved.grown
  exact (grown.get?_cases held).imp_right (entries _)

theorem Paved.absent {name : String} (paved : Paved tree upper names made)
    (free : tree.get? (upper ++ (names ++ [name])) = none) :
    made.get? (upper ++ (names ++ [name])) = none := by
  rw [Option.eq_none_iff_forall_ne_some]
  intro entry held
  rcases paved.get?_cases held with stood | ⟨_, shorter, begun, there⟩
  · rw [free] at stood
    cases stood
  · have long := begun.length_le
    rw [← List.append_cancel_left there, List.length_append, List.length_singleton] at long
    omega

theorem Paved.next {front : List String} {name : String}
    (paved : Paved tree upper front made) {approach : Approach}
    (located : made.locate path approach = .ok (upper ++ (front ++ [name])))
    (absent : made.get? (upper ++ (front ++ [name])) = none) :
    Paved tree upper (front ++ [name]) (made.set (upper ++ (front ++ [name])) .directory) where
  grown := by
    obtain ⟨added, grown, entries⟩ := paved.grown
    refine ⟨_, grown.next located absent (by simp), ?_⟩
    intro entry member
    rcases List.mem_append.mp member with member | member
    · obtain ⟨directory, shorter, begun, there⟩ := entries entry member
      exact ⟨directory, shorter, begun.trans (List.prefix_append _ _), there⟩
    · rw [List.mem_singleton.mp member]
      exact ⟨rfl, _, List.prefix_refl _, rfl⟩
  reached := by
    intro shorter begun
    rw [get?_set_of_absent _ absent]
    split
    · rfl
    · next elsewhere =>
      rcases List.prefix_concat_iff.mp begun with rfl | begun
      · exact absurd rfl elsewhere
      · exact paved.reached shorter begun

theorem Entered.makeDirectory_missing {front after : List String} {gap : String}
    (entered : Entered tree rooted front upper) (named : IsFileName gap) (further : after ≠ [])
    (free : tree.get? (upper ++ [gap]) = none)
    (spells : path.Spells rooted (front ++ gap :: after)) :
    tree.makeDirectory path = .error .notFound := by
  have stopped : tree.locate path { followLast := false } = .error .notFound := by
    rw [entered.locate_name spells named (.inl free), if_neg further]
  rw [makeDirectory, stopped]
  rfl

theorem Paved.makeDirectory {middle : FileTree} {name : String} (paved : Paved tree upper names middle)
    (entered : Entered tree rooted parts upper)
    (named : ∀ other ∈ names ++ [name], IsFileName other)
    (spells : path.Spells rooted (parts ++ (names ++ [name])))
    (absent : middle.get? (upper ++ (names ++ [name])) = none) :
    ∃ made, middle.makeDirectory path = .ok made ∧ Paved tree upper (names ++ [name]) made := by
  obtain ⟨_, grown, _⟩ := paved.grown
  have inner := (entered.extend grown).below
    (fun other member => named other (List.mem_append_left _ member)) paved.reached
  have located : middle.locate path { followLast := false } = .ok (upper ++ (names ++ [name])) := by
    rw [← List.append_assoc] at spells absent ⊢
    rw [inner.locate_name spells (named name (by simp)) (.inl absent), if_pos rfl]
  exact ⟨_, makeDirectory_eq_ok_iff.mpr ⟨_, located, absent, rfl⟩, paved.next located absent⟩

theorem Entered.makeChain_paved (proper : tree.Proper) (entered : Entered tree rooted parts upper)
    (named : ∀ name ∈ names, IsFileName name) (clear : Clear tree upper names)
    (spells : path.Spells rooted (parts ++ names)) {steps : Nat}
    (enough : names.length ≤ steps + 1) :
    ∃ after, tree.makeChain (path.ancestorsWithin steps) = (after, .ok ()) ∧
      Paved tree upper names after := by
  -- From the last name up, as the chain of ancestors goes.
  induction names using List.reverseRecOn generalizing path steps with
  | nil =>
    obtain ⟨above, chain⟩ := exists_ancestorsWithin_eq_cons steps path
    rw [List.append_nil] at spells
    refine ⟨tree, chain ▸ entered.makeChain_eq spells, ⟨[], .refl, by simp⟩, ?_⟩
    intro front begun
    rw [List.prefix_nil.mp begun, List.append_nil]
    exact entered.directory
  | append_singleton names name ih =>
    have written := (spells.admissible (by simp)).written
    rcases clear.cases entered.directory with all | ⟨front, gap, after, split, before, free⟩
    · obtain ⟨above, chain⟩ := exists_ancestorsWithin_eq_cons steps path
      exact ⟨tree, chain ▸ (entered.below named all).makeChain_eq spells, ⟨[], .refl, by simp⟩, all⟩
    by_cases last : after = []
    · -- only the last directory is missing
      subst last
      obtain ⟨rfl, same⟩ := List.append_inj' split rfl
      cases same
      obtain ⟨above, chain⟩ := exists_ancestorsWithin_eq_cons steps path
      have paved : Paved tree upper names tree := ⟨⟨[], .refl, by simp⟩, before⟩
      obtain ⟨made, success, further⟩ := paved.makeDirectory entered named spells
        (by rwa [List.append_assoc] at free)
      exact ⟨made, chain ▸ makeChain_of_made written success, further⟩
    · -- the directories above are made first
      have inner := entered.below (fun other member => named other (by simp [split, member])) before
      have missing : tree.makeDirectory path = .error .notFound := by
        rw [split, ← List.append_assoc] at spells
        exact inner.makeDirectory_missing (named gap (by simp [split])) last free spells
      have absent : tree.get? (upper ++ (names ++ [name])) = none := by
        have deeper : upper ++ (names ++ [name]) = upper ++ front ++ [gap] ++ after := by
          simp [split]
        rw [deeper]
        exact proper.absent_below free after
      have upward : path.Spells rooted (parts ++ names ++ [name]) := by
        rwa [List.append_assoc]
      obtain ⟨parent, above, short⟩ := upward.parent
      have count := congrArg List.length split
      have more := List.length_pos_iff.mpr last
      simp only [List.length_append, List.length_cons, List.length_nil] at count enough
      obtain ⟨fewer, rfl⟩ : ∃ fewer, steps = fewer + 1 := ⟨steps - 1, by omega⟩
      obtain ⟨middle, chain, paved⟩ : ∃ after,
          tree.makeChain (parent.ancestorsWithin fewer) = (after, .ok ()) ∧
            Paved tree upper names after :=
        ih (fun other member => named other (List.mem_append_left _ member))
          (fun front begun => clear front (begun.trans (List.prefix_append _ _))) short (by omega)
      obtain ⟨made, success, further⟩ := paved.makeDirectory entered named spells
        (paved.absent absent)
      refine ⟨made, ?_, further⟩
      rw [Path.ancestorsWithin, above]
      exact makeChain_of_missing written missing chain success

theorem Entered.makeParent_paved (proper : tree.Proper) (entered : Entered tree rooted parts upper)
    {name : String} (named : ∀ other ∈ names ++ [name], IsFileName other)
    (clear : Clear tree upper names) (spells : path.Spells rooted (parts ++ (names ++ [name])))
    (absent : tree.get? (upper ++ (names ++ [name])) = none) :
    ∃ middle, Paved tree upper names middle ∧ tree.makeParent path = (middle, .ok ()) ∧
      middle.get? (upper ++ (names ++ [name])) = none ∧
      ∀ approach, middle.locate path approach = .ok (upper ++ (names ++ [name])) := by
  have earlier : ∀ other ∈ names, IsFileName other := fun other member =>
    named other (List.mem_append_left _ member)
  have upward : path.Spells rooted (parts ++ names ++ [name]) := by
    rwa [List.append_assoc]
  obtain ⟨parent, above, short⟩ := upward.parent
  have enough : names.length ≤ parent.text.length + 1 := by
    have bound := short.length_le
    rw [List.length_append] at bound
    omega
  obtain ⟨middle, chain, paved⟩ := entered.makeChain_paved proper earlier clear short enough
  obtain ⟨_, grown, _⟩ := paved.grown
  have free := paved.absent absent
  refine ⟨middle, paved, ?_, free, ?_⟩
  · rw [makeParent, above]
    simp only [makeDirectories, Path.ancestors, chain]
  · intro approach
    have inner := (entered.extend grown).below earlier paved.reached
    rw [← List.append_assoc] at free ⊢
    rw [inner.locate_name upward (named name (by simp)) (.inl free), if_pos rfl]

end Make

end ApiMigration.FileTree
