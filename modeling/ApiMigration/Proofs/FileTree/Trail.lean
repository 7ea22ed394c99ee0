import ApiMigration.Proofs.FileTree.Growth
import ApiMigration.Proofs.Path.Parts

/-!
The way of a path through a tree that may hold links, as a relation. What one step of it can be is
said once; that a way survives growth, can be cut and can be continued follows by induction on it.
-/

namespace ApiMigration.FileTree

/-- A part of a path that is the name of an entry. The name of a file to be is not followed by
slashes. -/
structure IsName (wantsFile : Bool) (part : String) (rest : List String) : Prop where
  solid : ¬ (part = "" ∨ part = ".")
  downward : part ≠ ".."
  bare : ¬ (wantsFile = true ∧ rest ≠ [] ∧ rest.all (· == "") = true)
  short : ¬ nameLimit < part.utf8ByteSize

theorem IsName.relax {wantsFile : Bool} {part : String} {rest : List String}
    (named : IsName wantsFile part rest) (other : List String) : IsName false part other :=
  ⟨named.solid, named.downward, by simp, named.short⟩

/-- Following parts from a directory leads to a place, over so many links at most. -/
inductive Trail (tree : FileTree) (approach : Approach) :
    Nat → Location → List String → Location → Prop
  | stop {links : Nat} {here : Location} : Trail tree approach links here [] here
  | stay {links : Nat} {here place : Location} {part : String} {rest : List String}
      (void : part = "" ∨ part = ".") (onward : Trail tree approach links here rest place) :
      Trail tree approach links here (part :: rest) place
  | up {links : Nat} {here place : Location} {rest : List String}
      (onward : Trail tree approach links here.dropLast rest place) :
      Trail tree approach links here (".." :: rest) place
  | enter {links : Nat} {here place : Location} {part : String} {rest : List String}
      (named : IsName approach.wantsFile part rest)
      (directory : tree.get? (here ++ [part]) = some .directory)
      (onward : Trail tree approach links (here ++ [part]) rest place) :
      Trail tree approach links here (part :: rest) place
  | reach {links : Nat} {here : Location} {part : String} (named : IsName approach.wantsFile part [])
      (free : tree.get? (here ++ [part]) ≠ some .directory)
      (unfollowed : ∀ target, tree.get? (here ++ [part]) = some (.link target) →
        approach.followLast = false) :
      Trail tree approach links here [part] (here ++ [part])
  | follow {links : Nat} {here place : Location} {part : String} {rest : List String}
      {target : Path} (named : IsName approach.wantsFile part rest)
      (link : tree.get? (here ++ [part]) = some (.link target))
      (followed : ¬ (rest = [] ∧ approach.followLast = false))
      (onward : Trail tree approach links (if target.isAbsolute then [] else here)
        (target.parts.map String.ofList ++ rest) place) :
      Trail tree approach (links + 1) here (part :: rest) place

section Steps

variable {tree : FileTree} {approach : Approach} {links : Nat} {here : Location} {part : String}
  {rest : List String}

theorem walk_nil : tree.walk approach links here [] = .ok here := by
  cases links <;> rw [walk, walkWith]

theorem walk_stay (void : part = "" ∨ part = ".") :
    tree.walk approach links here (part :: rest) = tree.walk approach links here rest := by
  cases links <;> rw [walk, walkWith, if_pos void]

theorem walk_up :
    tree.walk approach links here (".." :: rest) = tree.walk approach links here.dropLast rest := by
  cases links <;> rw [walk, walkWith, if_neg (by decide), if_pos rfl]

theorem walk_name (named : IsName approach.wantsFile part rest) :
    tree.walk approach links here (part :: rest) =
      match tree.get? (here ++ [part]) with
      | none => if rest = [] then .ok (here ++ [part]) else .error .notFound
      | some .directory => tree.walk approach links (here ++ [part]) rest
      | some (.file _) => if rest = [] then .ok (here ++ [part]) else .error .notDirectory
      | some (.link target) =>
        if rest = [] ∧ approach.followLast = false then .ok (here ++ [part])
        else
          match links with
          | 0 => .error .tooManyLinks
          | links + 1 =>
            tree.walk approach links (if target.isAbsolute then [] else here)
              (target.parts.map String.ofList ++ rest) := by
  cases links with
  | zero =>
    rw [walk, walkWith, if_neg named.solid, if_neg named.downward, if_neg named.bare]
    exact if_neg named.short
  | succ links =>
    rw [walk, walkWith, if_neg named.solid, if_neg named.downward, if_neg named.bare]
    exact if_neg named.short

end Steps

section Relation

variable {tree : FileTree} {approach : Approach} {links : Nat} {here place : Location}
  {parts : List String}

theorem Trail.walk_eq (trail : Trail tree approach links here parts place) :
    tree.walk approach links here parts = .ok place := by
  induction trail with
  | stop => exact walk_nil
  | stay void _ ih => rw [walk_stay void, ih]
  | up _ ih => rw [walk_up, ih]
  | enter named directory _ ih => simp only [walk_name named, directory, ih]
  | @reach links here part named free unfollowed =>
    rw [walk_name named]
    cases held : tree.get? (here ++ [part]) with
    | none => simp
    | some entry =>
      cases entry with
      | directory => exact absurd held free
      | file bytes => simp
      | link target => simp [unfollowed target held]
  | follow named link followed _ ih => simp only [walk_name named, link, if_neg followed, ih]

theorem trail_of_step {part : String} {rest : List String}
    (walked : tree.walk approach links here (part :: rest) = .ok place)
    (onward : ∀ here, tree.walk approach links here rest = .ok place →
      Trail tree approach links here rest place)
    (jumps : ∀ fewer here parts, links = fewer + 1 →
      tree.walk approach fewer here parts = .ok place → Trail tree approach fewer here parts place) :
    Trail tree approach links here (part :: rest) place := by
  by_cases void : part = "" ∨ part = "."
  · rw [walk_stay void] at walked
    exact .stay void (onward here walked)
  by_cases upward : part = ".."
  · subst upward
    rw [walk_up] at walked
    exact .up (onward _ walked)
  by_cases slash : approach.wantsFile = true ∧ rest ≠ [] ∧ rest.all (· == "") = true
  · have refused : tree.walk approach links here (part :: rest) = .error .isDirectory := by
      cases links <;> rw [walk, walkWith, if_neg void, if_neg upward, if_pos slash]
    rw [refused] at walked
    cases walked
  by_cases long : nameLimit < part.utf8ByteSize
  · have refused : tree.walk approach links here (part :: rest) = .error .nameTooLong := by
      cases links <;> rw [walk, walkWith, if_neg void, if_neg upward, if_neg slash, if_pos long]
    rw [refused] at walked
    cases walked
  have named : IsName approach.wantsFile part rest := ⟨void, upward, slash, long⟩
  rw [walk_name named] at walked
  cases held : tree.get? (here ++ [part]) with
  | none =>
    simp only [held] at walked
    split at walked
    · next last =>
      subst last
      cases walked
      exact .reach named (by simp [held]) (by simp [held])
    · cases walked
  | some entry =>
    cases entry with
    | directory =>
      simp only [held] at walked
      exact .enter named held (onward _ walked)
    | file bytes =>
      simp only [held] at walked
      split at walked
      · next last =>
        subst last
        cases walked
        exact .reach named (by simp [held]) (by simp [held])
      · cases walked
    | link target =>
      simp only [held] at walked
      split at walked
      · next last =>
        obtain ⟨rfl, unfollowed⟩ := last
        cases walked
        exact .reach named (by simp [held]) fun _ _ => unfollowed
      · next followed =>
        cases links with
        | zero => cases walked
        | succ links => exact .follow named held followed (jumps links _ _ rfl walked)

theorem walk_eq_ok_iff_trail :
    tree.walk approach links here parts = .ok place ↔ Trail tree approach links here parts place := by
  refine ⟨?_, Trail.walk_eq⟩
  -- A link puts new parts before the rest, so the parts alone do not get fewer; the links do.
  induction links generalizing here parts with
  | zero =>
    induction parts generalizing here with
    | nil =>
      intro walked
      rw [walk_nil] at walked
      cases walked
      exact .stop
    | cons part rest ih => exact fun walked => trail_of_step walked (fun _ => ih) (by simp)
  | succ links further =>
    induction parts generalizing here with
    | nil =>
      intro walked
      rw [walk_nil] at walked
      cases walked
      exact .stop
    | cons part rest ih =>
      intro walked
      refine trail_of_step walked (fun _ => ih) ?_
      intro fewer other parts same jumped
      cases same
      exact further jumped

end Relation

def LinksWithin (new old : FileTree) : Prop :=
  ∀ place target, new.get? place = some (.link target) → old.get? place = some (.link target)

namespace Trail

variable {tree : FileTree} {approach : Approach} {links : Nat} {here place : Location}
  {parts : List String}

theorem extend {new : FileTree} (trail : Trail tree approach links here parts place)
    (extended : Extends tree new) (within : LinksWithin new tree) :
    Trail new approach links here parts place := by
  induction trail with
  | stop => exact .stop
  | stay void _ ih => exact .stay void ih
  | up _ ih => exact .up ih
  | enter named directory _ ih => exact .enter named (extended.get? directory) ih
  | @reach links here part named _ unfollowed =>
    by_cases directory : new.get? (here ++ [part]) = some .directory
    · exact .enter named directory .stop
    · exact .reach named directory fun target link => unfollowed target (within _ _ link)
  | follow named link followed _ ih => exact .follow named (extended.get? link) followed ih

theorem short (trail : Trail tree approach links here parts place) :
    ∀ part ∈ parts, ¬ nameLimit < part.utf8ByteSize := by
  have dots : ∀ part : String, part = "" ∨ part = "." ∨ part = ".." →
      ¬ nameLimit < part.utf8ByteSize := by
    rintro part (rfl | rfl | rfl) <;> decide
  induction trail with
  | stop => simp
  | stay void _ ih =>
    rw [List.forall_mem_cons]
    exact ⟨dots _ (void.imp_right .inl), ih⟩
  | up _ ih =>
    rw [List.forall_mem_cons]
    exact ⟨dots _ (.inr (.inr rfl)), ih⟩
  | enter named _ _ ih =>
    rw [List.forall_mem_cons]
    exact ⟨named.short, ih⟩
  | reach named _ _ => simpa using named.short
  | follow named _ _ _ ih =>
    rw [List.forall_mem_cons]
    exact ⟨named.short, fun part member => ih part (List.mem_append_right _ member)⟩

end Trail

def isSolid (part : String) : Bool :=
  !(part == "" || part == ".")

theorem isSolid_ofList (part : List Char) : isSolid (String.ofList part) = !Path.isVoid part := by
  have empty : (String.ofList part == "") = (part == []) := by
    rw [Bool.eq_iff_iff, beq_iff_eq, beq_iff_eq, String.ofList_eq_empty_iff]
  have dot : (String.ofList part == ".") = (part == ['.']) := by
    rw [Bool.eq_iff_iff, beq_iff_eq, beq_iff_eq, ← String.toList_inj, String.toList_ofList]
    exact Iff.rfl
  rw [isSolid, Path.isVoid, empty, dot]

theorem filter_map_ofList (parts : List (List Char)) :
    (parts.map String.ofList).filter isSolid =
      (parts.filter fun part => !Path.isVoid part).map String.ofList := by
  rw [List.filter_map]
  simp only [Function.comp_def, isSolid_ofList]

theorem isSolid_eq_false {part : String} (void : part = "" ∨ part = ".") : isSolid part = false := by
  rcases void with rfl | rfl <;> rfl

theorem IsName.isSolid {wantsFile : Bool} {part : String} {rest : List String}
    (named : IsName wantsFile part rest) : isSolid part = true := by
  simpa [FileTree.isSolid] using named.solid

theorem trail_void {tree : FileTree} {approach : Approach} {links : Nat} {here place : Location}
    {void rest : List String} (each : ∀ part ∈ void, isSolid part = false)
    (trail : Trail tree approach links here rest place) :
    Trail tree approach links here (void ++ rest) place := by
  induction void with
  | nil => exact trail
  | cons part void ih =>
    have nothing : part = "" ∨ part = "." := by
      simpa only [isSolid, Bool.not_eq_false', Bool.or_eq_true, beq_iff_eq] using
        each part List.mem_cons_self
    exact .stay nothing (ih fun other member => each other (List.mem_cons_of_mem _ member))

namespace Trail

variable {tree : FileTree} {approach : Approach} {links : Nat} {here place : Location}
  {parts : List String}

/-- Without steps upwards and links to be followed, the names on a way are those of its place. -/
theorem place_eq (trail : Trail tree approach links here parts place) (downward : ".." ∉ parts)
    (unlinked : ∀ front back, parts = front ++ back → (back = [] → approach.followLast = true) →
      ∀ target, tree.get? (here ++ front.filter isSolid) ≠ some (.link target)) :
    place = here ++ parts.filter isSolid := by
  induction trail with
  | stop => simp
  | @stay links here place part rest void _ ih =>
    have ignored := isSolid_eq_false void
    rw [List.filter_cons_of_neg (by simp [ignored])]
    refine ih (fun member => downward (List.mem_cons_of_mem _ member)) ?_
    intro front back split last target
    have clear := unlinked (part :: front) back (by rw [split]; rfl) last target
    rwa [List.filter_cons_of_neg (by simp [ignored])] at clear
  | up => exact absurd List.mem_cons_self downward
  | @enter links here place part rest named _ _ ih =>
    rw [List.filter_cons_of_pos named.isSolid, List.append_cons]
    refine ih (fun member => downward (List.mem_cons_of_mem _ member)) ?_
    intro front back split last target
    have clear := unlinked (part :: front) back (by rw [split]; rfl) last target
    rwa [List.filter_cons_of_pos named.isSolid, List.append_cons] at clear
  | reach named _ _ => rw [List.filter_cons_of_pos named.isSolid, List.filter_nil]
  | @follow links here place part rest target named link followed _ _ =>
    have last : rest = [] → approach.followLast = true := fun none =>
      (Bool.not_eq_false _).mp fun unfollowed => followed ⟨none, unfollowed⟩
    have clear := unlinked [part] rest rfl last target
    rw [List.filter_cons_of_pos named.isSolid, List.filter_nil] at clear
    exact absurd link clear

/-- Where no link stands for a directory on the way, plain names lead to the place they spell. -/
theorem place_of_plain {directories : List String} {last : String}
    (trail : Trail tree approach links here (directories ++ [last]) place)
    (plain : ∀ name ∈ directories ++ [last], Path.IsPlain name)
    (unfollowed : approach.followLast = false)
    (direct : ∀ front, front <+: directories →
      ∀ target, tree.get? (here ++ front) ≠ some (.link target)) :
    place = here ++ (directories ++ [last]) := by
  have solid : ∀ name ∈ directories ++ [last], FileTree.isSolid name = true := by
    intro name listed
    simp [FileTree.isSolid, (plain name listed).solid, (plain name listed).elsewhere]
  have led := trail.place_eq (fun up => (plain ".." up).downward rfl) ?_
  · rwa [List.filter_eq_self.mpr solid] at led
  -- The last name is not followed, so only the directories must not be links.
  · intro front back split last target
    have more : back ≠ [] := by
      intro none
      rw [last none] at unfollowed
      cases unfollowed
    obtain ⟨ahead, final, rfl⟩ := (List.eq_nil_or_concat' back).resolve_left more
    have kept : front.filter FileTree.isSolid = front :=
      List.filter_eq_self.mpr fun name listed => solid name (by simp [split, listed])
    rw [kept]
    rw [← List.append_assoc] at split
    exact direct front ⟨ahead, (List.append_inj_left' split rfl).symm⟩ target

end Trail

section Cuts

variable {tree : FileTree} {links : Nat} {here middle place : Location}

theorem Trail.of_filter {parts others : List String} (trail : Trail tree {} links here parts place)
    (directory : tree.get? place = some .directory)
    (same : others.filter isSolid = parts.filter isSolid) :
    Trail tree {} links here others place := by
  induction trail generalizing others with
  | @stop links here =>
    have void : ∀ part ∈ others, isSolid part = false := by
      simpa using same
    simpa using trail_void void (.stop : Trail tree {} links here [] here)
  | stay void _ ih =>
    rw [List.filter_cons_of_neg (by simp [isSolid_eq_false void])] at same
    exact ih directory same
  | up _ ih =>
    rw [List.filter_cons_of_pos (by decide)] at same
    obtain ⟨front, back, rfl, void, _, further⟩ := List.filter_eq_cons_iff.mp same
    exact trail_void (by simpa using void) (.up (ih directory further))
  | enter named inside _ ih =>
    rw [List.filter_cons_of_pos named.isSolid] at same
    obtain ⟨front, back, rfl, void, _, further⟩ := List.filter_eq_cons_iff.mp same
    exact trail_void (by simpa using void) (.enter (named.relax _) inside (ih directory further))
  | reach _ free _ => exact absurd directory free
  | @follow links here place part rest target named link _ _ ih =>
    rw [List.filter_cons_of_pos named.isSolid] at same
    obtain ⟨front, back, rfl, void, _, further⟩ := List.filter_eq_cons_iff.mp same
    have onward : Trail tree {} links _ (target.parts.map String.ofList ++ back) place :=
      ih directory (by rw [List.filter_append, List.filter_append, further])
    exact trail_void (by simpa using void) (.follow (named.relax _) link (by simp) onward)

theorem Trail.walk_append {approach : Approach} {front tail : List String}
    {result : Except FileError Location} (trail : Trail tree {} links here front middle)
    (directory : tree.get? middle = some .directory) (solid : tail.all (· == "") = false)
    (onward : ∀ links, tree.walk approach links middle tail = result) :
    tree.walk approach links here (front ++ tail) = result := by
  -- A tail of slashes only would turn the last name before it into that of a directory.
  have named : ∀ {part : String} {rest : List String}, IsName false part rest →
      IsName approach.wantsFile part (rest ++ tail) := by
    intro part rest name
    refine ⟨name.solid, name.downward, ?_, name.short⟩
    rintro ⟨_, _, blank⟩
    rw [List.all_append, solid, Bool.and_false] at blank
    cases blank
  have further : tail ≠ [] := by
    rintro rfl
    cases solid
  induction trail with
  | stop => exact onward _
  | stay void _ ih => rw [List.cons_append, walk_stay void, ih directory onward]
  | up _ ih => rw [List.cons_append, walk_up, ih directory onward]
  | enter name inside _ ih =>
    rw [List.cons_append, walk_name (named name)]
    simp only [inside, ih directory onward]
  | reach _ free _ => exact absurd directory free
  | @follow links here place part rest target name link _ _ ih =>
    rw [List.cons_append, walk_name (named name)]
    simp only [link]
    rw [if_neg (fun last => further (List.append_eq_nil_iff.mp last.1).2), ← List.append_assoc]
    exact ih directory onward

end Cuts

def Nested (tree : FileTree) : Prop :=
  ∀ place name, (tree.get? (place ++ [name])).isSome → tree.get? place = some .directory

theorem Nested.above {tree : FileTree} (nested : tree.Nested) {place : Location}
    (held : tree.get? place = some .directory) : tree.get? place.dropLast = some .directory := by
  rcases List.eq_nil_or_concat' place with rfl | ⟨upper, name, rfl⟩
  · exact held
  · rw [List.dropLast_concat]
    exact nested upper name (by simp [held])

section Directory

variable {tree : FileTree} {approach : Approach} {links : Nat} {here place : Location}

theorem Trail.cut {front tail : List String} (nested : tree.Nested)
    (entered : tree.get? here = some .directory) (further : tail ≠ [])
    (trail : Trail tree approach links here (front ++ tail) place) :
    ∃ fewer middle, Trail tree {} links here front middle ∧
      tree.get? middle = some .directory ∧ Trail tree approach fewer middle tail place := by
  -- By induction on the way, not on `front`: a link that is followed makes `front` longer.
  generalize whole : front ++ tail = parts at trail
  have whenever : ∀ {links here}, tree.get? here = some .directory →
      Trail tree approach links here tail place →
      ∃ fewer middle, Trail tree {} links here [] middle ∧
        tree.get? middle = some .directory ∧ Trail tree approach fewer middle tail place :=
    fun inside onward => ⟨_, _, .stop, inside, onward⟩
  induction trail generalizing front with
  | stop => exact absurd (List.append_eq_nil_iff.mp whole).2 further
  | stay void onward ih =>
    cases front with
    | nil =>
      obtain rfl : tail = _ := whole
      exact whenever entered (.stay void onward)
    | cons first front =>
      obtain ⟨rfl, rfl⟩ := List.cons.inj whole
      obtain ⟨fewer, middle, before, directory, after⟩ := ih entered rfl whenever
      exact ⟨fewer, middle, .stay void before, directory, after⟩
  | @up links here place rest onward ih =>
    cases front with
    | nil =>
      obtain rfl : tail = _ := whole
      exact whenever entered (.up onward)
    | cons first front =>
      obtain ⟨rfl, rfl⟩ := List.cons.inj whole
      obtain ⟨fewer, middle, before, directory, after⟩ := ih (nested.above entered) rfl whenever
      exact ⟨fewer, middle, .up before, directory, after⟩
  | enter named inside onward ih =>
    cases front with
    | nil =>
      obtain rfl : tail = _ := whole
      exact whenever entered (.enter named inside onward)
    | cons first front =>
      obtain ⟨rfl, rfl⟩ := List.cons.inj whole
      obtain ⟨fewer, middle, before, directory, after⟩ := ih inside rfl whenever
      exact ⟨fewer, middle, .enter (named.relax _) inside before, directory, after⟩
  | reach named free unfollowed =>
    cases front with
    | nil =>
      obtain rfl : tail = _ := whole
      exact whenever entered (.reach named free unfollowed)
    | cons first front =>
      obtain ⟨rfl, nothing⟩ := List.cons.inj whole
      exact absurd (List.append_eq_nil_iff.mp nothing).2 further
  | @follow links here place part rest target named link followed onward ih =>
    cases front with
    | nil =>
      obtain rfl : tail = _ := whole
      exact whenever entered (.follow named link followed onward)
    | cons first front =>
      obtain ⟨rfl, rfl⟩ := List.cons.inj whole
      have started : tree.get? (if target.isAbsolute then [] else here) = some .directory := by
        split
        · exact tree.get?_root
        · exact entered
      obtain ⟨fewer, middle, before, directory, after⟩ := ih started (List.append_assoc ..) whenever
      exact ⟨fewer, middle, .follow (named.relax _) link (by simp) before, directory, after⟩

end Directory

end ApiMigration.FileTree
