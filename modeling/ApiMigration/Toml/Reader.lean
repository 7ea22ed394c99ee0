import ApiMigration.Text.Affix
import ApiMigration.Toml.Value

/-!
Reading of TOML documents. A reading step gives what it read and the text after it. The steps that
repeat take a bound on the number of repetitions; one more than the length of the document is
always enough.
-/

namespace ApiMigration.Toml

open Text

def isGap (c : Char) : Bool :=
  c == ' ' || c == '\t'

def isShown (c : Char) : Bool :=
  c == '\t' || (c.toNat ≥ 0x20 && c.toNat != 0x7F)

def skipGap (text : List Char) : List Char :=
  text.dropWhile isGap

def newline? : List Char → Option (List Char)
  | '\n' :: text => some text
  | '\r' :: '\n' :: text => some text
  | _ => none

def skipComment : List Char → List Char
  | '#' :: text => text.dropWhile isShown
  | text => text

def lineEnd? (text : List Char) : Option (List Char) :=
  match skipComment (skipGap text) with
  | [] => some []
  | rest => newline? rest

def skipLayout : (bound : Nat) → List Char → List Char
  | 0, text => text
  | bound + 1, text =>
    match newline? (skipComment (skipGap text)) with
    | some rest => skipLayout bound rest
    | none => skipGap text

def skipContinued : (bound : Nat) → List Char → List Char
  | 0, text => text
  | bound + 1, text =>
    match newline? (skipGap text) with
    | some rest => skipContinued bound rest
    | none => skipGap text

def codePoint? (count : Nat) (text : List Char) : Option (Char × List Char) := do
  if (text.take count).length < count then none
  let code ← number? 16 (text.take count)
  if code.isValidChar then some (Char.ofNat code, text.drop count) else none

def escape? : List Char → Option (Char × List Char)
  | 'b' :: text => some ('\x08', text)
  | 't' :: text => some ('\t', text)
  | 'n' :: text => some ('\n', text)
  | 'f' :: text => some ('\x0c', text)
  | 'r' :: text => some ('\r', text)
  | '"' :: text => some ('"', text)
  | '\\' :: text => some ('\\', text)
  | 'u' :: text => codePoint? 4 text
  | 'U' :: text => codePoint? 8 text
  | _ => none

def basicBody? : (bound : Nat) → List Char → Option (List Char × List Char)
  | 0, _ => none
  | _ + 1, [] => none
  | _ + 1, '"' :: text => some ([], text)
  | bound + 1, '\\' :: text => do
    let (c, text) ← escape? text
    let (more, text) ← basicBody? bound text
    return (c :: more, text)
  | bound + 1, c :: text => do
    if !isShown c then none
    let (more, text) ← basicBody? bound text
    return (c :: more, text)

def literalBody? (text : List Char) : Option (List Char × List Char) :=
  let inside (c : Char) : Bool := isShown c && c != '\''
  match text.dropWhile inside with
  | '\'' :: rest => some (text.takeWhile inside, rest)
  | _ => none

/-- The rest of a string over several lines. Up to two quotes in a row belong to it, also just
before the three that end it. A line end is one line feed. With `escapes`, a backslash starts an
escape or continues the line. -/
def multilineBody? (quote : Char) (escapes : Bool) :
    (bound : Nat) → List Char → Option (List Char × List Char)
  | 0, _ => none
  | _ + 1, [] => none
  | bound + 1, c :: text =>
    if c = quote then
      let quotes := (c :: text).takeWhile (· == quote)
      let rest := (c :: text).dropWhile (· == quote)
      if quotes.length < 3 then
        (multilineBody? quote escapes bound rest).map fun (more, rest) => (quotes ++ more, rest)
      else if quotes.length ≤ 5 then some (quotes.drop 3, rest)
      else none
    else if escapes && c == '\\' then
      match newline? (skipGap text) with
      | some rest => multilineBody? quote escapes bound (skipContinued bound rest)
      | none =>
        match escape? text with
        | some (escaped, rest) =>
          (multilineBody? quote escapes bound rest).map fun (more, rest) => (escaped :: more, rest)
        | none => none
    else
      match newline? (c :: text) with
      | some rest =>
        (multilineBody? quote escapes bound rest).map fun (more, rest) => ('\n' :: more, rest)
      | none =>
        if isShown c then
          (multilineBody? quote escapes bound text).map fun (more, rest) => (c :: more, rest)
        else none

def skipFirstFeed (text : List Char) : List Char :=
  (newline? text).getD text

def string? (bound : Nat) (text : List Char) : Option (String × List Char) := do
  let (body, rest) ←
    match text with
    | '"' :: '"' :: '"' :: inner => multilineBody? '"' true bound (skipFirstFeed inner)
    | '"' :: inner => basicBody? bound inner
    | '\'' :: '\'' :: '\'' :: inner => multilineBody? '\'' false bound (skipFirstFeed inner)
    | '\'' :: inner => literalBody? inner
    | _ => none
  return (String.ofList body, rest)

def isKeyChar (c : Char) : Bool :=
  c.isAlphanum || c == '_' || c == '-'

def simpleKey? (bound : Nat) (text : List Char) : Option (String × List Char) :=
  match text with
  | '"' :: inner => (basicBody? bound inner).map fun (key, rest) => (String.ofList key, rest)
  | '\'' :: inner => (literalBody? inner).map fun (key, rest) => (String.ofList key, rest)
  | _ =>
    match text.takeWhile isKeyChar with
    | [] => none
    | key => some (String.ofList key, text.dropWhile isKeyChar)

/-- A key of at most `limit` parts with dots between them, all but the last of them a path. -/
def keyWithin? (bound : Nat) :
    (limit : Nat) → List Char → Option ((List String × String) × List Char)
  | 0, _ => none
  | limit + 1, text => do
    let (part, text) ← simpleKey? bound (skipGap text)
    match skipGap text with
    | '.' :: text =>
      let ((path, key), text) ← keyWithin? bound limit text
      return ((part :: path, key), text)
    | text => return (([], part), text)

def keyLimit : Nat := 79

def key? (bound : Nat) (text : List Char) : Option ((List String × String) × List Char) :=
  keyWithin? bound keyLimit text

def scalar? (bound : Nat) (text : List Char) : Option (Value × List Char) :=
  match afterPrefix? "true".toList text, afterPrefix? "false".toList text with
  | some rest, _ => some (.boolean true, rest)
  | _, some rest => some (.boolean false, rest)
  | none, none =>
    ((string? bound text).map fun (value, rest) => (Value.string value, rest))
      |>.or ((moment? text).map fun (value, rest) => (.moment value, rest))
      |>.or ((float? text).map fun rest => (.float, rest))
      |>.or ((integer? text).map fun (value, rest) => (.integer value, rest))

def items? (item? : List Char → Option (Value × List Char)) :
    (bound : Nat) → List Char → Option (List Value × List Char)
  | 0, _ => none
  | _ + 1, ']' :: text => some ([], text)
  | bound + 1, text => do
    let (item, text) ← item? text
    match skipLayout bound text with
    | ',' :: text =>
      let (items, text) ← items? item? bound (skipLayout bound text)
      return (item :: items, text)
    | ']' :: text => return ([item], text)
    | _ => none

def pairs? (item? : List Char → Option (Value × List Char)) :
    (bound : Nat) → Entries → List Char → Option (Entries × List Char)
  | 0, _, _ => none
  | bound + 1, entries, text => do
    let ((path, key), text) ← key? bound text
    match text with
    | '=' :: text =>
      let (value, text) ← item? (skipGap text)
      let entries ← entries.insertPair key value path
      match skipGap text with
      | ',' :: text => pairs? item? bound entries text
      | '\x7d' :: text => return (entries, text)
      | _ => none
    | _ => none

def value? (bound : Nat) : (depth : Nat) → List Char → Option (Value × List Char)
  | 0, text => scalar? bound text
  | depth + 1, '[' :: text =>
    (items? (value? bound depth) bound (skipLayout bound text)).map
      fun (items, rest) => (.array items, rest)
  | depth + 1, '\x7b' :: text =>
    match skipGap text with
    | '\x7d' :: rest => some (.table .inline [], rest)
    | text =>
      (pairs? (value? bound depth) bound [] text).map
        fun (entries, rest) => (.table .inline entries, rest)
  | _ + 1, text => scalar? bound text

def depthLimit : Nat := 79

def statement? (bound : Nat) (text : List Char) : Option (Statement × List Char) := do
  match text with
  | '[' :: '[' :: text =>
    let ((path, key), text) ← key? bound text
    let text ← afterPrefix? "]]".toList text
    return (.elementHeader path key, ← lineEnd? text)
  | '[' :: text =>
    let ((path, key), text) ← key? bound text
    let text ← afterPrefix? "]".toList text
    return (.tableHeader path key, ← lineEnd? text)
  | text =>
    let ((path, key), text) ← key? bound text
    let text ← afterPrefix? "=".toList text
    let (value, text) ← value? bound depthLimit (skipGap text)
    return (.pair path key value, ← lineEnd? text)

def statements? (bound : Nat) : (limit : Nat) → List Char → Option (List Statement)
  | 0, _ => none
  | limit + 1, text =>
    match skipGap text with
    | [] => some []
    | text =>
      match lineEnd? text with
      | some rest => statements? bound limit rest
      | none => do
        let (statement, rest) ← statement? bound text
        let statements ← statements? bound limit rest
        return statement :: statements

/-- The entries of a document, if it is well formed. A byte order mark before it does not count. -/
def parse? (text : String) : Option Entries := do
  let chars := text.toList
  let chars := (afterPrefix? ['\uFEFF'] chars).getD chars
  let bound := chars.length + 1
  build? (← statements? bound bound chars)

end ApiMigration.Toml
