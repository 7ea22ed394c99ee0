import ApiMigration.Toml.Moment

/-!
Values of a TOML document and the rules by which its statements build them: a table is opened once,
a key is set once, and a dotted key is set only in a table that dotted keys have made.
-/

namespace ApiMigration.Toml

inductive Form where
  | inline
  | header
  | implied
  | dotted
deriving DecidableEq, Repr

inductive Value where
  | string (text : String)
  | integer (value : Int)
  | boolean (value : Bool)
  /-- A number that is not whole. No setting takes one, so its value is not kept. -/
  | float
  | moment (moment : Moment)
  | array (items : List Value)
  /-- An array that grows by headers, each opening one more table. -/
  | tables (items : List Value)
  | table (form : Form) (entries : List (String × Value))
deriving Inhabited

abbrev Entries := List (String × Value)

inductive Statement where
  | pair (path : List String) (key : String) (value : Value)
  | tableHeader (path : List String) (key : String)
  | elementHeader (path : List String) (key : String)

namespace Entries

def put (entries : Entries) (key : String) (value : Value) : Entries :=
  match entries with
  | [] => [(key, value)]
  | (first, held) :: more =>
    if first = key then (key, value) :: more else (first, held) :: put more key value

/-- Sets a key that is not set, along a path of dotted keys. The table that gets the key has to be
one that dotted keys have made; tables on the way may also be implied or last in an array. -/
def insertPair (key : String) (value : Value) (path : List String) (entries : Entries) :
    Option Entries :=
  match path with
  | [] => if (entries.lookup key).isSome then none else some (entries.put key value)
  | step :: path =>
    match entries.lookup step with
    | none => (insertPair key value path []).map fun inner => entries.put step (.table .dotted inner)
    | some (.table .dotted inner) =>
      (insertPair key value path inner).map fun inner => entries.put step (.table .dotted inner)
    | some (.table .implied inner) =>
      if path.isEmpty then none
      else (insertPair key value path inner).map fun inner => entries.put step (.table .implied inner)
    | some (.tables items) =>
      match path.isEmpty, items.reverse with
      | false, .table form inner :: before =>
        (insertPair key value path inner).map fun inner =>
          entries.put step (.tables (Value.table form inner :: before).reverse)
      | _, _ => none
    | some _ => none

/-- Changes the table at the end of a path of headers. Missing tables on the way are implied; an
array of tables stands for its last table. -/
def changeAt (change : Entries → Option Entries) (path : List String) (entries : Entries) :
    Option Entries :=
  match path with
  | [] => change entries
  | step :: path =>
    match entries.lookup step with
    | none => (changeAt change path []).map fun inner => entries.put step (.table .implied inner)
    | some (.table .inline _) => none
    | some (.table form inner) =>
      (changeAt change path inner).map fun inner => entries.put step (.table form inner)
    | some (.tables items) =>
      match items.reverse with
      | .table form inner :: before =>
        (changeAt change path inner).map fun inner =>
          entries.put step (.tables (Value.table form inner :: before).reverse)
      | _ => none
    | some _ => none

def openTable (key : String) (entries : Entries) : Option Entries :=
  match entries.lookup key with
  | none => some (entries.put key (.table .header []))
  | some (.table .implied inner) => some (entries.put key (.table .header inner))
  | some _ => none

def openElement (key : String) (entries : Entries) : Option Entries :=
  match entries.lookup key with
  | none => some (entries.put key (.tables [.table .header []]))
  | some (.tables items) => some (entries.put key (.tables (items ++ [.table .header []])))
  | some _ => none

end Entries

structure Document where
  current : List String := []
  entries : Entries := []

def Document.step (document : Document) : Statement → Option Document
  | .pair path key value =>
    (document.entries.changeAt (Entries.insertPair key value path) document.current).map
      fun entries => { document with entries }
  | .tableHeader path key =>
    (document.entries.changeAt (Entries.openTable key) path).map fun entries =>
      { current := path ++ [key], entries }
  | .elementHeader path key =>
    (document.entries.changeAt (Entries.openElement key) path).map fun entries =>
      { current := path ++ [key], entries }

def build? (statements : List Statement) : Option Entries :=
  (statements.foldlM Document.step {}).map Document.entries

end ApiMigration.Toml
