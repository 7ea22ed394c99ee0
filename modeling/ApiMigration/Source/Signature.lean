import ApiMigration.Source.Header

namespace ApiMigration.Source

open Text

def consToFirst (c : Char) : List (List Char) → List (List Char)
  | [] => [[c]]
  | part :: parts => (c :: part) :: parts

/-- The bracket depth after a character; it never goes below zero. -/
def depthAfter (depth : Nat) (c : Char) : Nat :=
  if c = '<' then depth + 1 else if c = '>' then depth - 1 else depth

def cutAtCommas : (depth : Nat) → List Char → List (List Char)
  | _, [] => [[]]
  | depth, c :: text =>
    if c = ',' ∧ depth = 0 then [] :: cutAtCommas 0 text
    else consToFirst c (cutAtCommas (depthAfter depth c) text)

def splitTopLevel (text : List Char) : List (List Char) :=
  ((cutAtCommas 0 text).map trim).filter fun part => !part.isEmpty

/-- The name of a type parameter: its first word, up to a bound. -/
def typeParameter? (part : List Char) : Option String :=
  match words part with
  | [] => none
  | word :: _ =>
    let name := trim (upTo "&".toList (upTo "extends".toList word))
    if name.isEmpty then none else some (String.ofList name)

def typeParameters (text : String) : List String :=
  (splitTopLevel text.toList).filterMap typeParameter?

/-- A parameter that counts as the `index`-th: its last word is the name, the words before it are
the type. Modifiers and annotations are no words of it. -/
def parameter (index : Nat) (part : List Char) : Parameter :=
  let kept := (words part).filter fun word => word != "final".toList && word.head? != some '@'
  match kept.reverse with
  | name :: last :: before =>
    { name := String.ofList name
      type := String.ofList (List.intercalate [' '] (last :: before).reverse) }
  | _ => { name := "p" ++ toString index, type := "" }

def parameters (text : String) : List Parameter :=
  (splitTopLevel text.toList).mapIdx parameter

def MethodText.method (header : MethodText) : Method where
  name := header.name
  returnType := header.returnType
  parameters := Source.parameters header.parameters

def signature (text : String) : Signature where
  typeParameters := ((interface? text).bind Prod.snd).elim [] typeParameters
  method := (method? text).map MethodText.method

/-- The declaration of a source file: its package and its first public type. Interfaces come with
their signature. -/
def declaration? (rootPackage : String) (origin : Path) (text : String) :
    Option SourceDeclaration := do
  let package ← package? text
  let (kind, name) ← publicType? text
  let declaration := SourceDeclaration.under rootPackage package kind name origin
  if kind = .interfaceType then
    return { declaration with signature := some (signature text) }
  else
    return declaration

end ApiMigration.Source
