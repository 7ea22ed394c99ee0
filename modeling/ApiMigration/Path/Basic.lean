import ApiMigration.Text.Affix

/-!
Paths. A path is kept as the text it was given; its meaning is the list of its components. Empty
parts and single dots between slashes mean nothing, but for a dot at the very start of a relative
path. Cutting a path keeps the text of what is left.
-/

namespace ApiMigration

structure Path where
  text : String
deriving DecidableEq, Repr

namespace Path

inductive Component where
  | root
  | here
  | up
  | name (text : String)
deriving DecidableEq, Repr

def Component.rank : Component → Nat
  | .root => 0
  | .here => 1
  | .up => 2
  | .name _ => 3

/-- The order of components: the root first, then `.`, then `..`, then names. -/
def Component.compare : Component → Component → Ordering
  | .name a, .name b => Ord.compare a b
  | a, b => Ord.compare a.rank b.rank

def Component.name? : Component → Option String
  | .name text => some text
  | _ => none

def isAbsolute (path : Path) : Bool :=
  path.text.toList.head? == some '/'

def parts (path : Path) : List (List Char) :=
  (if path.isAbsolute then path.text.toList.drop 1 else path.text.toList).splitOn '/'

def isVoid (part : List Char) : Bool :=
  part == [] || part == ['.']

def Component.ofPart (part : List Char) : Component :=
  if part = ['.', '.'] then .up else .name (String.ofList part)

def ofParts (absolute : Bool) (parts : List (List Char)) : Path :=
  let body := List.intercalate ['/'] parts
  ⟨String.ofList (if absolute then '/' :: body else body)⟩

/-- Whether a relative path starts with a part `.`, which is then a component. -/
def startsHere (path : Path) : Bool :=
  !path.isAbsolute && path.parts.head? == some ['.']

/-- The parts that can be void: all but a leading `.` of a relative path. -/
def body (path : Path) : List (List Char) :=
  if path.startsHere then path.parts.drop 1 else path.parts

def withBody (path : Path) (body : List (List Char)) : Path :=
  ofParts path.isAbsolute (if path.startsHere then ['.'] :: body else body)

def anchor (path : Path) : List Component :=
  if path.isAbsolute then [.root] else if path.startsHere then [.here] else []

def components (path : Path) : List Component :=
  path.anchor ++ (path.body.filter fun part => !isVoid part).map Component.ofPart

def compare (a b : Path) : Ordering :=
  List.compareLex Component.compare a.components b.components

def dropVoidEnd (parts : List (List Char)) : List (List Char) :=
  (parts.reverse.dropWhile isVoid).reverse

def dropLast? (parts : List (List Char)) : Option (List (List Char)) :=
  match parts.reverse.dropWhile isVoid with
  | [] => none
  | _ :: above => some (above.dropWhile isVoid).reverse

def parent? (path : Path) : Option Path :=
  match dropLast? path.body with
  | some above => some (path.withBody above)
  | none => if path.startsHere then some ⟨""⟩ else none

def ancestorsWithin : Nat → Path → List Path
  | 0, path => [path]
  | steps + 1, path =>
    match path.parent? with
    | none => [path]
    | some above => path :: ancestorsWithin steps above

def ancestors (path : Path) : List Path :=
  ancestorsWithin path.text.length path

def join (base path : Path) : Path :=
  if path.isAbsolute then path
  else if base.text = "" || base.text.toList.getLast? == some '/' then ⟨base.text ++ path.text⟩
  else ⟨base.text ++ "/" ++ path.text⟩

def joinAll (base : Path) (names : List String) : Path :=
  names.foldl (fun path name => path.join ⟨name⟩) base

def afterComponents : List Component → List (List Char) → Option (List (List Char))
  | [], parts => some parts
  | _ :: _, [] => none
  | component :: more, part :: parts =>
    if isVoid part then afterComponents (component :: more) parts
    else if Component.ofPart part = component then afterComponents more parts
    else none

/-- The path relative to a directory that contains it. With nothing to take away, only void parts
at the end are dropped. -/
def relativeTo? (path base : Path) : Option Path :=
  match base.components with
  | [] => some (path.withBody (dropVoidEnd path.body))
  | components =>
    let remaining :=
      match path.anchor, components with
      | [], _ => afterComponents components path.body
      | first :: _, component :: more =>
        if first = component then afterComponents more path.body else none
      | _ :: _, [] => none
    remaining.map fun parts => ofParts false (dropVoidEnd (parts.dropWhile isVoid))

/-- The text after the last dot of a file name; none when the only dot comes first. -/
def extensionOf? (name : String) : Option String :=
  if name = ".." then none
  else
    match name.toList.reverse.span (· != '.') with
    | (_, []) => none
    | (_, [_]) => none
    | (ending, _ :: _ :: _) => some (String.ofList ending.reverse)

end Path

end ApiMigration
