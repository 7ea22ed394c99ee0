/-!
Numbers of a document. Whole numbers have sixty-four bits with sign; of the others only the form is
checked, and that they are not too large for a binary floating point number of sixty-four bits.
-/

namespace ApiMigration.Toml

def digit? (base : Nat) (c : Char) : Option Nat :=
  let value :=
    if c.isDigit then c.toNat - '0'.toNat
    else if 'a' ≤ c ∧ c ≤ 'f' then c.toNat - 'a'.toNat + 10
    else if 'A' ≤ c ∧ c ≤ 'F' then c.toNat - 'A'.toNat + 10
    else base
  if value < base then some value else none

def number? (base : Nat) (digits : List Char) : Option Nat :=
  digits.foldlM (fun value c => (digit? base c).map (value * base + ·)) 0

/-- More digits of a base after those read so far, last one first. Single underscores may stand
between digits. -/
def moreDigits (base : Nat) (read : List Char) : List Char → List Char × List Char
  | '_' :: c :: text =>
    if (digit? base c).isSome then moreDigits base (c :: read) text
    else (read.reverse, '_' :: c :: text)
  | c :: text =>
    if (digit? base c).isSome then moreDigits base (c :: read) text else (read.reverse, c :: text)
  | [] => (read.reverse, [])

def digits? (base : Nat) : List Char → Option (List Char × List Char)
  | [] => none
  | c :: text => if (digit? base c).isSome then some (moreDigits base [c] text) else none

def wordSized? (value : Int) : Option Int :=
  if -9223372036854775808 ≤ value ∧ value ≤ 9223372036854775807 then some value else none

def based? (base : Nat) (text : List Char) : Option (Int × List Char) := do
  let (digits, rest) ← digits? base text
  return (← wordSized? (← number? base digits), rest)

def sign : List Char → Bool × List Char
  | '+' :: text => (false, text)
  | '-' :: text => (true, text)
  | text => (false, text)

def decimalDigits? : List Char → Option (List Char × List Char)
  | '0' :: text => some (['0'], text)
  | text => digits? 10 text

def decimal? (text : List Char) : Option (Int × List Char) := do
  let (negative, text) := sign text
  let (digits, rest) ← decimalDigits? text
  let value := Int.ofNat (← number? 10 digits)
  return (← wordSized? (if negative then -value else value), rest)

def integer? : List Char → Option (Int × List Char)
  | '0' :: 'x' :: text => based? 16 text
  | '0' :: 'o' :: text => based? 8 text
  | '0' :: 'b' :: text => based? 2 text
  | text => decimal? text

def fraction? : List Char → Option (List Char × List Char)
  | '.' :: text => digits? 10 text
  | _ => none

def exponent? : List Char → Option (Int × List Char)
  | c :: text =>
    if c = 'e' ∨ c = 'E' then do
      let (negative, text) := sign text
      let (digits, rest) ← digits? 10 text
      let value := Int.ofNat (← number? 10 digits)
      return (if negative then -value else value, rest)
    else none
  | [] => none

/-- The least number that is nearer to the power after the largest floating point number than to
that number itself. -/
def floatBound : Nat := Nat.pow 2 1024 - Nat.pow 2 970

/-- Whether `digits * 10 ^ scale` is at least the bound. Scales that settle it are looked at
first. -/
def exceedsFloat (digits : Nat) : (scale : Int) → Bool
  | .ofNat up => digits != 0 && (308 < up || floatBound ≤ digits * Nat.pow 10 up)
  | .negSucc down => down < Nat.log2 digits && floatBound * Nat.pow 10 (down + 1) ≤ digits

def unbounded? (text : List Char) : Option (List Char) :=
  match (sign text).2 with
  | 'i' :: 'n' :: 'f' :: rest => some rest
  | 'n' :: 'a' :: 'n' :: rest => some rest
  | _ => none

/-- The text after a number with a fraction or an exponent. One that is too large is refused unless
it is negative. -/
def finite? (text : List Char) : Option (List Char) := do
  let (negative, text) := sign text
  let (whole, text) ← decimalDigits? text
  let fraction := fraction? text
  let (decimals, text) := fraction.getD ([], text)
  let exponent := exponent? text
  if fraction.isNone && exponent.isNone then none
  let (scale, rest) := exponent.getD (0, text)
  let digits ← number? 10 (whole ++ decimals)
  if !negative && exceedsFloat digits (scale - Int.ofNat decimals.length) then none else some rest

def float? (text : List Char) : Option (List Char) :=
  (finite? text).or (unbounded? text)

end ApiMigration.Toml
