import ApiMigration.Text.Blank

namespace ApiMigration.Text

def laterLines : List Char → List (List Char)
  | [] => []
  | c :: text => if c = '\n' then text :: laterLines text else laterLines text

/-- Every remainder of a text that begins where a line begins, the whole text first. -/
def lineStarts (text : List Char) : List (List Char) :=
  text :: laterLines text

/-- The text without its leading blanks, and the same for every later line start. Both are found in
one pass. -/
def headsFrom : List Char → List Char × List (List Char)
  | [] => ([], [])
  | c :: text =>
    let (head, later) := headsFrom text
    (if isBlank c then head else c :: text, if c = '\n' then head :: later else later)

theorem headsFrom_eq (text : List Char) :
    headsFrom text = (trimStart text, (laterLines text).map trimStart) := by
  induction text with
  | nil => rfl
  | cons c text ih =>
    simp only [headsFrom, ih, laterLines, trimStart, List.dropWhile_cons]
    by_cases feed : c = '\n'
    · simp only [feed, if_true, List.map_cons, trimStart]
    · simp only [feed, if_false]

/-- Every remainder of a text that begins with the first character after a line start and
blanks. The blanks may run over later line starts. -/
def lineHeads (text : List Char) : List (List Char) :=
  let (head, later) := headsFrom text
  head :: later

theorem lineHeads_eq (text : List Char) : lineHeads text = (lineStarts text).map trimStart := by
  simp [lineHeads, lineStarts, headsFrom_eq]

def firstAtLine {α : Type} (read : List Char → Option (α × List Char)) (text : List Char) :
    Option α :=
  (lineHeads text).findSome? fun head => (read head).map Prod.fst

/-- What a reader finds at the given line heads, from left to right. A find that runs over later
line heads hides them. -/
def collectAt {α : Type} (read : List Char → Option (α × List Char)) :
    List (List Char) → List α
  | [] => []
  | head :: more =>
    match read head with
    | none => collectAt read more
    | some (found, rest) =>
      found :: collectAt read (more.dropWhile fun later => rest.length < later.length)
termination_by heads => heads.length
decreasing_by
  · simp
  · exact Nat.lt_succ_of_le (List.dropWhile_sublist _).length_le

def allAtLines {α : Type} (read : List Char → Option (α × List Char)) (text : List Char) :
    List α :=
  collectAt read (lineHeads text)

def fullLines : List Char → List (List Char)
  | [] => []
  | c :: text =>
    if c = '\n' then [c] :: fullLines text
    else
      match fullLines text with
      | [] => [[c]]
      | line :: more => (c :: line) :: more

theorem flatten_fullLines (text : List Char) : (fullLines text).flatten = text := by
  induction text with
  | nil => rfl
  | cons c text ih =>
    by_cases feed : c = '\n'
    · simp [fullLines, feed, ih]
    · cases rest : fullLines text with
      | nil => simp_all [fullLines]
      | cons line more => simp_all [fullLines]

/-- A full line without its line feed and one carriage return before that. -/
def withoutEnd (line : List Char) : List Char :=
  match line.reverse with
  | '\n' :: '\r' :: shown => shown.reverse
  | '\n' :: shown => shown.reverse
  | _ => line

def shownLines (text : List Char) : List (List Char) :=
  (fullLines text).map withoutEnd

end ApiMigration.Text
