import ApiMigration.Text.CaseTable
import ApiMigration.Text.Ranges

/-!
Lower-casing of text in all scripts. It is done character by character but for the Greek capital
sigma, whose form depends on whether it ends a word.
-/

namespace ApiMigration.Text

def CaseRange.apply? (range : CaseRange) (code : Nat) : Option Nat :=
  if range.first ≤ code ∧ code ≤ range.last ∧ (code - range.first) % range.step = 0 then
    some (range.image + (code - range.first))
  else none

def lowerChar (c : Char) : List Char :=
  if c = 'İ' then ['i', '\u0307']
  else
    match lowerRanges.findSome? fun range => range.apply? c.toNat with
    | some image => [Char.ofNat image]
    | none => [c]

def meetsCased (text : List Char) : Bool :=
  match text.dropWhile fun c => inRanges caseIgnorableRanges c.toNat with
  | [] => false
  | c :: _ => inRanges casedRanges c.toNat

/-- Lower-casing of the rest of a text, where `before` is what precedes it, last character first.
A capital sigma with a cased character before it and none after it is written in final form. -/
def lowerAfter (before : List Char) : List Char → List Char
  | [] => []
  | c :: text =>
    let lowered :=
      if c = 'Σ' then
        if meetsCased before && !meetsCased text then ['ς'] else ['σ']
      else lowerChar c
    lowered ++ lowerAfter (c :: before) text

def lowerCase (text : List Char) : List Char :=
  lowerAfter [] text

end ApiMigration.Text
