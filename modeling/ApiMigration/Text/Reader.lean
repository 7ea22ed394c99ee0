import ApiMigration.Text.Affix
import ApiMigration.Text.Blank
import ApiMigration.Text.WordTable

namespace ApiMigration.Text

def isNameStart (c : Char) : Bool :=
  c.isAlpha || c == '_'

def isNameChar (c : Char) : Bool :=
  c.isAlphanum || c == '_'

def isPackageChar (c : Char) : Bool :=
  isNameChar c || c == '.'

def isWordChar (c : Char) : Bool :=
  isNameChar c || inRanges wordRanges c.toNat

def blanks? : List Char → Option (List Char)
  | [] => none
  | c :: text => if isBlank c then some (trimStart text) else none

def literal? (word : String) (text : List Char) : Option (List Char) :=
  afterPrefix? word.toList text

def word? (word : String) (text : List Char) : Option (List Char) :=
  (literal? word text).bind blanks?

def skipWord (word : String) (text : List Char) : List Char :=
  (word? word text).getD text

def run? (allowed : Char → Bool) (text : List Char) : Option (List Char × List Char) :=
  match text.takeWhile allowed with
  | [] => none
  | run => some (run, text.dropWhile allowed)

def identifier? : List Char → Option (List Char × List Char)
  | [] => none
  | c :: text =>
    if isNameStart c then some (c :: text.takeWhile isNameChar, text.dropWhile isNameChar)
    else none

def endsWord : List Char → Bool
  | [] => true
  | c :: _ => !isWordChar c

end ApiMigration.Text
