import ApiMigration.Path.Basic

namespace ApiMigration

inductive Json where
  | text (value : String)
  | number (value : Nat)
  | boolean (value : Bool)
  | list (items : List Json)
  | object (members : List (String × Json))

namespace Json

def hexByte (code : Nat) : List Char :=
  [Nat.digitChar (code / 16 % 16), Nat.digitChar (code % 16)]

def escapedChar (c : Char) : List Char :=
  if c = '"' then ['\\', '"']
  else if c = '\\' then ['\\', '\\']
  else if c = '\n' then ['\\', 'n']
  else if c = '\r' then ['\\', 'r']
  else if c = '\t' then ['\\', 't']
  else if c = '\x08' then ['\\', 'b']
  else if c = '\x0c' then ['\\', 'f']
  else if c.toNat < 0x20 then ['\\', 'u', '0', '0'] ++ hexByte c.toNat
  else [c]

def stringText (value : String) : String :=
  String.ofList ('"' :: value.toList.flatMap escapedChar ++ ['"'])

def indent (depth : Nat) : String :=
  "\n" ++ String.ofList (List.replicate (2 * depth) ' ')

/-- Items on lines of their own between brackets; nothing between them when there is no item. -/
def enclosed (opening closing : String) (depth : Nat) (items : List String) : String :=
  if items.isEmpty then opening ++ closing
  else
    opening ++ Text.joinWith "," (items.map fun item => indent (depth + 1) ++ item) ++ indent depth
      ++ closing

mutual

def render (depth : Nat) : Json → String
  | .text value => stringText value
  | .number value => toString value
  | .boolean value => if value then "true" else "false"
  | .list items => enclosed "[" "]" depth (renderItems (depth + 1) items)
  | .object members => enclosed "\x7b" "\x7d" depth (renderMembers (depth + 1) members)

def renderItems (depth : Nat) : List Json → List String
  | [] => []
  | item :: items => render depth item :: renderItems depth items

def renderMembers (depth : Nat) : List (String × Json) → List String
  | [] => []
  | (key, value) :: members =>
    (stringText key ++ ": " ++ render depth value) :: renderMembers depth members

end

def paths (paths : List Path) : Json :=
  .list (paths.map fun path => .text path.text)

end Json

end ApiMigration
