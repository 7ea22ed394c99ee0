import ApiMigration.Text.LowerCase

namespace ApiMigration.Stub

open Text

/-- An underscore before every capital that begins a word of small letters, if a character other
than a line feed stands before it. The small letters after the capital belong to the same word. -/
def spaceWords : List Char → List Char
  | before :: capital :: small :: text =>
    if before != '\n' && capital.isUpper && small.isLower then
      before :: '_' :: capital :: small :: text.takeWhile Char.isLower
        ++ spaceWords (text.dropWhile Char.isLower)
    else before :: spaceWords (capital :: small :: text)
  | text => text
termination_by text => text.length
decreasing_by
  · have shorter := (List.dropWhile_sublist Char.isLower (l := text)).length_le
    simp only [List.length_cons]
    omega
  · simp

/-- An underscore between a small letter or a digit and the capital after it. -/
def spaceCapitals : List Char → List Char
  | before :: capital :: text =>
    if (before.isLower || before.isDigit) && capital.isUpper then
      before :: '_' :: capital :: spaceCapitals text
    else before :: spaceCapitals (capital :: text)
  | text => text

def stemChars (name : List Char) : List Char :=
  lowerCase (spaceCapitals (spaceWords name))

def fileStem (name : String) : String :=
  String.ofList (stemChars name.toList)

end ApiMigration.Stub
