namespace ApiMigration.Text

def afterPrefix? : List Char → List Char → Option (List Char)
  | [], text => some text
  | _ :: _, [] => none
  | p :: beginning, c :: text => if p = c then afterPrefix? beginning text else none

theorem afterPrefix?_eq_some_iff {beginning text rest : List Char} :
    afterPrefix? beginning text = some rest ↔ text = beginning ++ rest := by
  induction beginning generalizing text with
  | nil => simp [afterPrefix?]
  | cons p beginning ih =>
    cases text with
    | nil => simp [afterPrefix?]
    | cons c text =>
      by_cases same : p = c
      · simp [afterPrefix?, same, ih]
      · simp [afterPrefix?, same, Ne.symm same]

def contains (mark : List Char) : List Char → Bool
  | [] => mark.isEmpty
  | c :: text => mark.isPrefixOf (c :: text) || contains mark text

def upTo (mark : List Char) : List Char → List Char
  | [] => []
  | c :: text => if mark.isPrefixOf (c :: text) then [] else c :: upTo mark text

def endsWith (text ending : String) : Bool :=
  ending.toList.isSuffixOf text.toList

def holds (text mark : String) : Bool :=
  contains mark.toList text.toList

def afterRoot (name root : String) : String :=
  match afterPrefix? (root.toList ++ ['.']) name.toList with
  | some rest => String.ofList rest
  | none => name

def joinWith (separator : String) : List String → String
  | [] => ""
  | [text] => text
  | text :: more => text ++ separator ++ joinWith separator more

end ApiMigration.Text
