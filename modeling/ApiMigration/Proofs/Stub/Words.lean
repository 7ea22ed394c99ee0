import ApiMigration.Proofs.Stub.FileStem
import Mathlib.Data.List.Basic
import Mathlib.Data.List.TakeWhile

/-!
Where the words of a type name begin. The two passes that put underscores into a name come to one
rule about a position and its two neighbours: what the first pass skips while it reads over a word
is found by the second, and nothing is marked twice.
-/

namespace ApiMigration.Stub

open Text

/-- Whether a word begins at a position of a name. A capital stands there; before it stands a small
letter or a digit, or it has any character but a line feed before it and a small letter after it. -/
def beginsWord (name : List Char) : Nat → Bool
  | 0 => false
  | i + 1 =>
    name[i + 1]?.any Char.isUpper &&
      (name[i]?.any (fun before => before.isLower || before.isDigit) ||
        name[i]?.any (· != '\n') && name[i + 2]?.any Char.isLower)

def wordsApart (name : List Char) : List Char :=
  name.zipIdx.flatMap fun (c, i) => if beginsWord name i then ['_', c] else [c]

def beginsAfter (before : Char) (text : List Char) : Bool :=
  text.head?.any Char.isUpper &&
    (before.isLower || before.isDigit || before != '\n' && text.tail.head?.any Char.isLower)

/-- The same underscores, each written when the character before it has been read. -/
def marked : List Char → List Char
  | [] => []
  | c :: text => c :: ((if beginsAfter c text then ['_'] else []) ++ marked text)

theorem marked_cons (c : Char) (text : List Char) :
    marked (c :: text) = c :: ((if beginsAfter c text then ['_'] else []) ++ marked text) :=
  rfl

theorem isUpper_eq_false_of_isLower {c : Char} (small : c.isLower = true) : c.isUpper = false := by
  rw [Bool.eq_false_iff]
  intro capital
  have above : 'a'.val ≤ c.val := of_decide_eq_true (Bool.and_eq_true_iff.mp small).1
  have below : c.val ≤ 'Z'.val := (of_decide_eq_true capital).2
  exact absurd (UInt32.le_trans above below) (by decide)

theorem isWordEnd_eq_false_of_isUpper {c : Char} (capital : c.isUpper = true) :
    (c.isLower || c.isDigit) = false := by
  rw [Bool.or_eq_false_iff]
  constructor
  · rw [Bool.eq_false_iff]
    intro small
    rw [isUpper_eq_false_of_isLower small] at capital
    cases capital
  · rw [Bool.eq_false_iff]
    intro digit
    have above : 'A'.val ≤ c.val := (of_decide_eq_true capital).1
    have below : c.val ≤ '9'.val := of_decide_eq_true (Bool.and_eq_true_iff.mp digit).2
    exact absurd (UInt32.le_trans above below) (by decide)

/-- The second pass is a local rule as it stands: the capital that it reads over begins no match. -/
theorem spaceCapitals_cons (c : Char) (text : List Char) :
    spaceCapitals (c :: text) =
      c :: ((if (c.isLower || c.isDigit) && text.head?.any Char.isUpper then ['_'] else []) ++
        spaceCapitals text) := by
  cases text with
  | nil => simp [spaceCapitals]
  | cons next text =>
    rw [spaceCapitals, List.head?_cons, Option.any_some]
    split
    · next found =>
      have capital : next.isUpper = true := (Bool.and_eq_true_iff.mp found).2
      have alone : spaceCapitals (next :: text) = next :: spaceCapitals text := by
        cases text with
        | nil => rfl
        | cons further text =>
          rw [spaceCapitals, isWordEnd_eq_false_of_isUpper capital]
          rfl
      rw [alone]
      rfl
    · rfl

/-- A pass that marks every capital after a small letter marks nothing inside a run of small letters
and whatever capital follows it. -/
theorem pass_run {pass : List Char → List Char}
    (step : ∀ c text, c.isLower = true → pass (c :: text) =
      c :: ((if text.head?.any Char.isUpper then ['_'] else []) ++ pass text))
    {run : List Char} (small : ∀ c ∈ run, c.isLower = true) (solid : run ≠ [])
    (rest : List Char) :
    pass (run ++ rest) =
      run ++ ((if rest.head?.any Char.isUpper then ['_'] else []) ++ pass rest) := by
  induction run with
  | nil => exact absurd rfl solid
  | cons c run ih =>
    rw [List.cons_append, step c _ (small c List.mem_cons_self)]
    cases run with
    | nil => rfl
    | cons next run =>
      have later := ih (fun d member => small d (List.mem_cons_of_mem c member)) (by simp)
      have other : next.isUpper = false := isUpper_eq_false_of_isLower (small next (by simp))
      rw [later, List.cons_append, List.head?_cons, Option.any_some, other]
      rfl

theorem spaceCapitals_small (c : Char) (text : List Char) (small : c.isLower = true) :
    spaceCapitals (c :: text) =
      c :: ((if text.head?.any Char.isUpper then ['_'] else []) ++ spaceCapitals text) := by
  rw [spaceCapitals_cons, small, Bool.true_or, Bool.true_and]

theorem marked_small (c : Char) (text : List Char) (small : c.isLower = true) :
    marked (c :: text) =
      c :: ((if text.head?.any Char.isUpper then ['_'] else []) ++ marked text) := by
  rw [marked_cons, beginsAfter, small, Bool.true_or, Bool.true_or, Bool.and_true]

theorem head?_spaceWords (text : List Char) : (spaceWords text).head? = text.head? := by
  unfold spaceWords
  split
  · split <;> rfl
  · rfl

theorem spaceCapitals_spaceWords (text : List Char) :
    spaceCapitals (spaceWords text) = marked text := by
  fun_induction spaceWords text with
  | case1 before capital small text spaced ih =>
    -- The first pass reads on over the small letters, so a capital right after them is left to the
    -- second pass.
    simp only [Bool.and_eq_true] at spaced
    obtain ⟨⟨inLine, upper⟩, lower⟩ := spaced
    let run := small :: text.takeWhile Char.isLower
    let rest := text.dropWhile Char.isLower
    have letters : ∀ c ∈ run, c.isLower = true := by
      intro c member
      rcases List.mem_cons.mp member with rfl | member
      · exact lower
      · exact List.mem_takeWhile_imp member
    have whole : small :: text = run ++ rest := by
      rw [List.cons_append, List.takeWhile_append_dropWhile]
    have other : small.isUpper = false := isUpper_eq_false_of_isLower lower
    have line : '_'.isUpper = false ∧ '_'.isLower = false ∧ '_'.isDigit = false := by decide
    calc spaceCapitals (before :: '_' :: capital :: (run ++ spaceWords rest))
        = before :: '_' :: capital :: spaceCapitals (run ++ spaceWords rest) := by
          rw [spaceCapitals_cons, spaceCapitals_cons, spaceCapitals_cons,
            isWordEnd_eq_false_of_isUpper upper]
          simp [line]
      _ = before :: '_' :: capital :: marked (run ++ rest) := by
          rw [pass_run spaceCapitals_small letters (List.cons_ne_nil _ _),
            pass_run marked_small letters (List.cons_ne_nil _ _), head?_spaceWords, ih]
      _ = marked (before :: capital :: small :: text) := by
          rw [← whole, marked_cons before, marked_cons capital, beginsAfter, beginsAfter]
          simp [inLine, upper, lower, other]
  | case2 before capital small text notSpaced ih =>
    have same : ((before.isLower || before.isDigit) && capital.isUpper) =
        beginsAfter before (capital :: small :: text) := by
      simp only [beginsAfter, List.head?_cons, Option.any_some, List.tail_cons]
      revert notSpaced
      generalize (before != '\n') = inLine
      cases capital.isUpper <;> cases small.isLower <;> cases inLine <;> simp
    rw [spaceCapitals_cons, head?_spaceWords, ih, marked_cons before, List.head?_cons,
      Option.any_some, same]
  | case3 text short =>
    rcases text with _ | ⟨c, _ | ⟨d, _ | ⟨small, text⟩⟩⟩
    · rfl
    · simp [spaceCapitals, marked, beginsAfter]
    · rw [spaceCapitals_cons, marked_cons]
      simp [spaceCapitals, marked, beginsAfter, Bool.and_comm]
    · exact absurd rfl (short c d small text)

theorem beginsWord_append (front : List Char) (c : Char) (text : List Char) :
    beginsWord (front ++ c :: text) front.length =
      front.getLast?.any fun before => beginsAfter before (c :: text) := by
  rcases List.eq_nil_or_concat' front with rfl | ⟨front, before, rfl⟩
  · rfl
  · have next : (front ++ [before] ++ c :: text)[front.length + 2]? = text.head? := by
      rw [List.getElem?_append_right (by simp)]
      simp [List.head?_eq_getElem?]
    rw [List.length_append, List.length_singleton, beginsWord, next]
    simp [beginsAfter]

theorem flatMap_zipIdx_eq_marked (front text : List Char) :
    (text.zipIdx front.length).flatMap
        (fun (c, i) => if beginsWord (front ++ text) i then ['_', c] else [c]) =
      (if front.getLast?.any (fun before => beginsAfter before text) then ['_'] else []) ++
        marked text := by
  induction text generalizing front with
  | nil =>
    have ended (before : Char) : beginsAfter before [] = false := rfl
    simp [marked, ended]
  | cons c text ih =>
    have later := ih (front ++ [c])
    rw [List.length_append, List.length_singleton, List.append_assoc, List.singleton_append,
      List.getLast?_concat, Option.any_some] at later
    rw [List.zipIdx_cons, List.flatMap_cons, later]
    dsimp only
    rw [beginsWord_append, marked_cons]
    split <;> rfl

theorem wordsApart_eq_marked (name : List Char) : wordsApart name = marked name :=
  flatMap_zipIdx_eq_marked [] name

/-- A file stem is the type name in small letters with one underscore before every position where a
word begins, and with nothing else added or left out. -/
theorem fileStem_eq_lowerCase_wordsApart (name : String) :
    fileStem name = String.ofList (lowerCase (wordsApart name.toList)) := by
  rw [fileStem, stemChars, spaceCapitals_spaceWords, wordsApart_eq_marked]

end ApiMigration.Stub
