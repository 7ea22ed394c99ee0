import ApiMigration.Text.Affix
import ApiMigration.Text.Blank
import ApiMigration.Text.Lines

/-!
A generated section inside a document that is also edited by hand. The section lies between two
marker lines. Everything outside it is kept as it is.
-/

namespace ApiMigration.Report

open Text

structure Surroundings where
  before : List Char
  after : List Char
deriving DecidableEq, Repr

def isMarkerLine (marker line : List Char) : Bool :=
  trim line == marker

def afterMarker (marker line : List Char) : List Char :=
  line.drop ((upTo marker line).length + marker.length)

structure Opening where
  above : List (List Char)
  line : List Char
deriving DecidableEq, Repr

def Opening.before (opened : Opening) (marker : List Char) : List Char :=
  opened.above.reverse.flatten ++ upTo marker opened.line

/-- Looks for the region in the remaining lines. `above` are the lines before them, nearest first,
and `opened` is the last begin marker so far. The region ends at the first end marker that has a
begin marker above it. -/
def surroundingsFrom? (opening closing : List Char) (above : List (List Char))
    (opened : Option Opening) : List (List Char) → Option Surroundings
  | [] => none
  | line :: more =>
    match opened, isMarkerLine closing line with
    | some start, true => some ⟨start.before opening, afterMarker closing line ++ more.flatten⟩
    | _, _ =>
      surroundingsFrom? opening closing (line :: above)
        (if isMarkerLine opening line then some ⟨above, line⟩ else opened) more

def surroundings? (opening closing document : List Char) : Option Surroundings :=
  surroundingsFrom? (trim opening) (trim closing) [] none (fullLines document)

def withoutFinalFeed (text : List Char) : List Char :=
  if text.getLast? = some '\n' then text.dropLast else text

/-- The line feeds that put an empty line after a document. -/
def separator (document : List Char) : List Char :=
  match document.reverse with
  | [] => []
  | '\n' :: '\n' :: _ => []
  | '\n' :: _ => ['\n']
  | _ => ['\n', '\n']

def mergeChars (opening closing document newSection : List Char) : List Char :=
  match surroundings? opening closing document with
  | some around => around.before ++ withoutFinalFeed newSection ++ around.after
  | none => document ++ separator document ++ newSection

def merge (opening closing document newSection : String) : String :=
  String.ofList
    (mergeChars opening.toList closing.toList document.toList newSection.toList)

def hasRegion (opening closing document : String) : Bool :=
  (surroundings? opening.toList closing.toList document.toList).isSome

end ApiMigration.Report
