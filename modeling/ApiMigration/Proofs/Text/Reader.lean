import ApiMigration.Text.Lines
import ApiMigration.Text.Reader
import Mathlib.Data.List.TakeWhile

namespace ApiMigration.Text

/-- Only the characters of the text are checked. The general instance for characters would go through
all that there are. -/
instance (priority := 1100) decidableForallMem (text : List Char) (allowed : Char → Prop)
    [DecidablePred allowed] : Decidable (∀ c ∈ text, allowed c) :=
  text.decidableBAll allowed

def IsIdentifier (name : List Char) : Prop :=
  ∃ first rest, name = first :: rest ∧ isNameStart first = true ∧
    ∀ c ∈ rest, isNameChar c = true

theorem isIdentifier_cons {first : Char} {rest : List Char} :
    IsIdentifier (first :: rest) ↔ isNameStart first = true ∧ ∀ c ∈ rest, isNameChar c = true := by
  constructor
  · intro ⟨_, _, same, start, named⟩
    cases same
    exact ⟨start, named⟩
  · intro ⟨start, named⟩
    exact ⟨first, rest, rfl, start, named⟩

instance (name : List Char) : Decidable (IsIdentifier name) :=
  match name with
  | [] => .isFalse (by simp [IsIdentifier])
  | _ :: _ => decidable_of_iff _ isIdentifier_cons.symm

theorem isNameChar_of_isNameStart {c : Char} (start : isNameStart c = true) :
    isNameChar c = true := by
  simp only [isNameStart, isNameChar, Bool.or_eq_true, Char.isAlphanum] at start ⊢
  rcases start with letter | line
  · exact .inl (.inl letter)
  · exact .inr line

theorem IsIdentifier.isNameChar {name : List Char} (identifier : IsIdentifier name) :
    ∀ c ∈ name, isNameChar c = true := by
  obtain ⟨first, rest, rfl, start, named⟩ := identifier
  intro c member
  rcases List.mem_cons.mp member with rfl | member
  · exact isNameChar_of_isNameStart start
  · exact named c member

theorem IsIdentifier.ne_nil {name : List Char} (identifier : IsIdentifier name) : name ≠ [] := by
  obtain ⟨first, rest, rfl, _⟩ := identifier
  exact List.cons_ne_nil first rest

theorem slash_not_isPackageChar : isPackageChar '/' = false := by
  decide

theorem isIdentifier_of_identifier? {text name rest : List Char}
    (read : identifier? text = some (name, rest)) : IsIdentifier name := by
  unfold identifier? at read
  split at read
  · cases read
  · split at read
    · next first more start =>
      cases read
      exact ⟨first, _, rfl, start, fun c member => List.mem_takeWhile_imp member⟩
    · cases read

theorem eq_append_of_identifier? {text name rest : List Char}
    (read : identifier? text = some (name, rest)) : text = name ++ rest := by
  unfold identifier? at read
  split at read
  · cases read
  · split at read
    · cases read
      rw [List.cons_append, List.takeWhile_append_dropWhile]
    · cases read

theorem allowed_of_run? {allowed : Char → Bool} {text run rest : List Char}
    (read : run? allowed text = some (run, rest)) : ∀ c ∈ run, allowed c = true := by
  unfold run? at read
  split at read
  · cases read
  · cases read
    exact fun c member => List.mem_takeWhile_imp member

def Stops (allowed : Char → Bool) (text : List Char) : Prop :=
  ∀ c, text.head? = some c → allowed c = false

theorem stops_nil (allowed : Char → Bool) : Stops allowed [] := by
  intro c first
  cases first

theorem stops_cons {allowed : Char → Bool} {c : Char} (refused : allowed c = false)
    (text : List Char) : Stops allowed (c :: text) := by
  intro first same
  cases same
  exact refused

theorem Stops.append {allowed : Char → Bool} {left right : List Char}
    (first : Stops allowed left) (second : left = [] → Stops allowed right) :
    Stops allowed (left ++ right) := by
  cases left with
  | nil => exact second rfl
  | cons c left => exact stops_cons (first c rfl) _

theorem stops_dropWhile (allowed : Char → Bool) (text : List Char) :
    Stops allowed (text.dropWhile allowed) := by
  intro c first
  have member := List.head?_dropWhile_not allowed text
  rw [first] at member
  simpa using member

theorem stops_trimStart (text : List Char) : Stops isBlank (trimStart text) :=
  stops_dropWhile isBlank text

theorem not_mem_of_refused {allowed : Char → Bool} {text : List Char} {c : Char}
    (each : ∀ d ∈ text, allowed d = true) (refused : allowed c = false) : c ∉ text := by
  intro member
  rw [each c member] at refused
  cases refused

section Run

variable {allowed : Char → Bool} {run rest : List Char}

theorem takeWhile_append_stops (each : ∀ c ∈ run, allowed c = true) (stops : Stops allowed rest) :
    (run ++ rest).takeWhile allowed = run := by
  rw [List.takeWhile_append_of_pos each]
  cases rest with
  | nil => simp
  | cons c rest => simp [stops c rfl]

theorem dropWhile_append_stops (each : ∀ c ∈ run, allowed c = true) (stops : Stops allowed rest) :
    (run ++ rest).dropWhile allowed = rest := by
  rw [List.dropWhile_append_of_pos each]
  cases rest with
  | nil => rfl
  | cons c rest => simp [stops c rfl]

theorem takeWhile_front {front : List Char} (ended : ∃ c ∈ front, allowed c = false)
    (back : List Char) :
    (front ++ back).takeWhile allowed = front.takeWhile allowed ∧
      (front ++ back).dropWhile allowed = front.dropWhile allowed ++ back := by
  induction front with
  | nil =>
    obtain ⟨c, member, _⟩ := ended
    cases member
  | cons first front ih =>
    cases kept : allowed first with
    | false => simp [kept]
    | true =>
      have later : ∃ c ∈ front, allowed c = false := by
        obtain ⟨c, member, refused⟩ := ended
        rcases List.mem_cons.mp member with rfl | member
        · rw [kept] at refused
          cases refused
        · exact ⟨c, member, refused⟩
      simpa [kept] using ih later

theorem run?_eq_some_iff {text : List Char} :
    run? allowed text = some (run, rest) ↔
      text = run ++ rest ∧ run ≠ [] ∧ (∀ c ∈ run, allowed c = true) ∧ Stops allowed rest := by
  constructor
  · intro read
    have each := allowed_of_run? read
    unfold run? at read
    split at read
    · cases read
    · next solid =>
      cases read
      refine ⟨(List.takeWhile_append_dropWhile).symm, ?_, each, stops_dropWhile _ _⟩
      exact solid
  · rintro ⟨rfl, solid, each, stops⟩
    obtain ⟨c, more, rfl⟩ := List.exists_cons_of_ne_nil solid
    rw [run?, takeWhile_append_stops each stops, dropWhile_append_stops each stops]

end Run

theorem literal?_eq_some_iff {word : String} {text rest : List Char} :
    literal? word text = some rest ↔ text = word.toList ++ rest :=
  afterPrefix?_eq_some_iff

theorem eq_false_of_mem_splitOnP {separates : Char → Bool} {text part : List Char} {c : Char}
    (listed : part ∈ text.splitOnP separates) (member : c ∈ part) : separates c = false := by
  induction text generalizing part with
  | nil =>
    rw [List.splitOnP_nil, List.mem_singleton] at listed
    rw [listed] at member
    cases member
  | cons first text ih =>
    rw [List.splitOnP_cons_eq_if_modifyHead] at listed
    split at listed
    · rcases List.mem_cons.mp listed with rfl | listed
      · cases member
      · exact ih listed member
    · next solid =>
      obtain ⟨head, more, split⟩ := List.exists_cons_of_ne_nil (List.splitOnP_ne_nil separates text)
      rw [split] at listed ih
      rcases List.mem_cons.mp listed with rfl | listed
      · rcases List.mem_cons.mp member with rfl | member
        · simpa using solid
        · exact ih List.mem_cons_self member
      · exact ih (List.mem_cons_of_mem _ listed) member

theorem not_mem_of_mem_splitOn {separator : Char} {text part : List Char}
    (listed : part ∈ text.splitOn separator) : separator ∉ part := by
  intro member
  rw [List.splitOn_eq_splitOnP] at listed
  simpa using eq_false_of_mem_splitOnP listed member

theorem eq_or_exists_of_mem_splitOn {text : List Char} {separator c : Char} (member : c ∈ text) :
    c = separator ∨ ∃ part ∈ text.splitOn separator, c ∈ part := by
  induction text with
  | nil => cases member
  | cons first text ih =>
    rw [List.splitOn_cons_eq_if_modifyHead]
    split
    · next same =>
      rcases List.mem_cons.mp member with rfl | member
      · exact .inl (beq_iff_eq.mp same)
      · exact (ih member).imp_right fun ⟨part, listed, inside⟩ =>
          ⟨part, List.mem_cons_of_mem _ listed, inside⟩
    · obtain ⟨head, more, split⟩ := List.exists_cons_of_ne_nil (List.splitOn_ne_nil separator text)
      rw [split] at ih ⊢
      rw [List.modifyHead_cons]
      rcases List.mem_cons.mp member with rfl | member
      · exact .inr ⟨_, List.mem_cons_self, List.mem_cons_self⟩
      · rcases ih member with same | ⟨part, listed, inside⟩
        · exact .inl same
        · rcases List.mem_cons.mp listed with rfl | listed
          · exact .inr ⟨_, List.mem_cons_self, List.mem_cons_of_mem _ inside⟩
          · exact .inr ⟨part, List.mem_cons_of_mem _ listed, inside⟩

/-- Names of letters, digits and underscores with single dots between them. -/
def IsDotted (text : List Char) : Prop :=
  ∀ segment ∈ text.splitOn '.', segment ≠ [] ∧ ∀ c ∈ segment, isNameChar c = true

instance (text : List Char) : Decidable (IsDotted text) :=
  decidable_of_iff
    ((text.splitOn '.').all (fun segment => !segment.isEmpty && segment.all isNameChar) = true)
    (by simp [IsDotted])

theorem IsDotted.isPackageChar {text : List Char} (dotted : IsDotted text) :
    ∀ c ∈ text, isPackageChar c = true := by
  intro c member
  have placed : c = '.' ∨ ∃ segment ∈ text.splitOn '.', c ∈ segment :=
    eq_or_exists_of_mem_splitOn member
  rcases placed with rfl | ⟨segment, listed, inside⟩
  · decide
  · rw [Text.isPackageChar, (dotted segment listed).2 c inside, Bool.true_or]

theorem IsDotted.slash_not_mem {text : List Char} (dotted : IsDotted text) : '/' ∉ text := by
  intro slash
  have allowed := dotted.isPackageChar _ slash
  rw [slash_not_isPackageChar] at allowed
  cases allowed

theorem IsDotted.ne_nil {text : List Char} (dotted : IsDotted text) : text ≠ [] := by
  rintro rfl
  exact (dotted [] (by simp)).1 rfl

theorem toNat_lt_of_isNameChar {c : Char} (named : isNameChar c = true) : c.toNat < 128 := by
  have spelled : isNameChar c =
      (decide (c.val ≥ 'A'.val ∧ c.val ≤ 'Z'.val) ||
          (decide (c.val ≥ 'a'.val) && decide (c.val ≤ 'z'.val)) ||
        (decide (c.val ≥ '0'.val) && decide (c.val ≤ '9'.val)) || c == '_') := rfl
  rw [spelled] at named
  simp only [Bool.or_eq_true, Bool.and_eq_true, decide_eq_true_eq, beq_iff_eq,
    UInt32.le_iff_toNat_le, ge_iff_le] at named
  rcases named with ((upper | lower) | digit) | rfl
  · exact Nat.lt_of_le_of_lt upper.2 (by decide)
  · exact Nat.lt_of_le_of_lt lower.2 (by decide)
  · exact Nat.lt_of_le_of_lt digit.2 (by decide)
  · decide

theorem isBlank_below : ∀ code < 128, isNameChar (Char.ofNat code) = true →
    isBlank (Char.ofNat code) = false := by
  decide +kernel

theorem isBlank_eq_false_of_isNameChar {c : Char} (named : isNameChar c = true) :
    isBlank c = false := by
  have below := isBlank_below c.toNat (toNat_lt_of_isNameChar named)
  rw [Char.ofNat_toNat] at below
  exact below named

theorem isBlank_eq_false_of_isPackageChar {c : Char} (allowed : isPackageChar c = true) :
    isBlank c = false := by
  rw [isPackageChar, Bool.or_eq_true, beq_iff_eq] at allowed
  rcases allowed with named | dot
  · exact isBlank_eq_false_of_isNameChar named
  · rw [dot]
    decide

theorem ends_space : isNameChar ' ' = false ∧ isWordChar ' ' = false := by
  decide +kernel

theorem ends_bracket : isNameChar '<' = false ∧ isWordChar '<' = false := by
  decide +kernel

section Words

variable {text rest : List Char}

theorem trimStart_eq_self (stops : Stops isBlank text) : trimStart text = text := by
  cases text with
  | nil => rfl
  | cons c text => simp [trimStart, stops c rfl]

theorem word?_eq_none {word : String} (absent : ¬word.toList <+: text) : word? word text = none := by
  have unread : literal? word text = none := by
    rw [Option.eq_none_iff_forall_ne_some]
    intro rest read
    rw [literal?_eq_some_iff] at read
    exact absent ⟨rest, read.symm⟩
  rw [word?, unread, Option.bind_none]

theorem word?_append_space {word : String} (stops : Stops isBlank rest) :
    word? word (word.toList ++ ' ' :: rest) = some rest := by
  rw [word?, literal?_eq_some_iff.mpr rfl, Option.bind_some, blanks?, if_pos (by decide),
    trimStart_eq_self stops]

theorem stops_of_isIdentifier {name : List Char} (identifier : IsIdentifier name) :
    Stops isBlank (name ++ rest) := by
  obtain ⟨first, more, rfl, start, _⟩ := identifier
  exact stops_cons (isBlank_eq_false_of_isNameChar (isNameChar_of_isNameStart start)) _

theorem identifier?_append {name : List Char} (identifier : IsIdentifier name)
    (stops : Stops isNameChar rest) : identifier? (name ++ rest) = some (name, rest) := by
  obtain ⟨first, more, rfl, start, named⟩ := identifier
  rw [List.cons_append, identifier?, if_pos start, takeWhile_append_stops named stops,
    dropWhile_append_stops named stops]

end Words

theorem exists_read_of_firstAtLine {α : Type} {read : List Char → Option (α × List Char)}
    {text : List Char} {item : α} (found : firstAtLine read text = some item) :
    ∃ head rest, read head = some (item, rest) := by
  obtain ⟨head, _, taken⟩ := List.exists_of_findSome?_eq_some found
  obtain ⟨⟨_, rest⟩, success, rfl⟩ := Option.map_eq_some_iff.mp taken
  exact ⟨head, rest, success⟩

theorem exists_read_of_mem_allAtLines {α : Type} {read : List Char → Option (α × List Char)}
    {text : List Char} {item : α} (listed : item ∈ allAtLines read text) :
    ∃ head rest, read head = some (item, rest) := by
  unfold allAtLines at listed
  generalize lineHeads text = heads at listed
  fun_induction collectAt read heads with
  | case1 => cases listed
  | case2 _ _ _ ih => exact ih listed
  | case3 head _ found rest success ih =>
    rcases List.mem_cons.mp listed with rfl | listed
    · exact ⟨head, rest, success⟩
    · exact ih listed

end ApiMigration.Text
