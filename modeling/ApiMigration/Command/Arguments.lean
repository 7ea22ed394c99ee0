import ApiMigration.Path.Basic

namespace ApiMigration.Command

inductive Task where
  | scaffold (dryRun json : Bool)
  | refresh (json : Bool)
  | check (json : Bool)
  | repackage (directory : Path) (package : String) (dryRun json : Bool)
deriving DecidableEq, Repr

structure Invocation where
  projectRoot : Option Path := none
  config : Option Path := none
  sourceRoot : Option Path := none
  targetRoot : Option Path := none
  task : Task
deriving DecidableEq, Repr

inductive Stop where
  | usage
  | help
  | version
deriving DecidableEq, Repr

/-- What may stand on one level of the command line: before the command or after it. -/
structure Level where
  flags : List String
  options : List String
  operands : Nat := 0
  commands : List String := []
deriving DecidableEq, Repr

def sharedOptions : List String :=
  ["project-root", "config", "source-root", "target-root"]

def sharedFlags : List String :=
  ["verbose", "quiet"]

def mainLevel : Level where
  flags := sharedFlags
  options := sharedOptions
  commands := ["scaffold", "refresh", "check", "repackage"]

def commandLevel (command : String) : Level :=
  if command = "scaffold" then
    { flags := "dry-run" :: "json" :: sharedFlags, options := sharedOptions }
  else if command = "repackage" then
    { flags := "dry-run" :: "json" :: sharedFlags
      options := "prefix" :: sharedOptions
      operands := 1 }
  else { flags := "json" :: sharedFlags, options := sharedOptions }

structure Reading where
  flags : List String := []
  values : List (String × String) := []
  operands : List String := []
  command : Option (String × List String) := none
deriving DecidableEq, Repr

def takesEmpty (option : String) : Bool :=
  option == "prefix"

namespace Reading

def addFlag (reading : Reading) (flag : String) : Except Stop Reading :=
  if reading.flags.contains flag then .error .usage
  else .ok { reading with flags := flag :: reading.flags }

def addValue (reading : Reading) (option value : String) : Except Stop Reading :=
  if (reading.values.lookup option).isSome then .error .usage
  else if value = "" && !takesEmpty option then .error .usage
  else .ok { reading with values := (option, value) :: reading.values }

def addOperand (reading : Reading) (level : Level) (operand : String) : Except Stop Reading :=
  if level.operands ≤ reading.operands.length || operand = "" then .error .usage
  else .ok { reading with operands := reading.operands ++ [operand] }

end Reading

/-- Whether an argument looks like an option, so that it cannot be the value of another. -/
def looksLikeOption (argument : String) : Bool :=
  match argument.toList with
  | '-' :: _ :: _ => true
  | _ => false

def readLetters (level : Level) (reading : Reading) : List Char → Except Stop Reading
  | [] => .ok reading
  | 'v' :: letters => do readLetters level (← reading.addFlag "verbose") letters
  | 'h' :: _ => .error .help
  | 'V' :: _ => if level.commands.isEmpty then .error .usage else .error .version
  | _ :: _ => .error .usage

def readFlag (level : Level) (reading : Reading) (name : String) : Except Stop Reading :=
  if level.flags.contains name then reading.addFlag name
  else if name = "help" then .error .help
  else if name = "version" && !level.commands.isEmpty then .error .version
  else .error .usage

def helpKnown (level : Level) : List String → Bool
  | [] => true
  | [command] => level.commands.contains command || command == "help"
  | _ => false

/-- Reads the arguments of one level. After `--` all arguments are free. -/
def readLevel (level : Level) (onlyOperands : Bool) (reading : Reading) :
    List String → Except Stop Reading
  | [] => .ok reading
  | argument :: rest =>
    if onlyOperands then do
      readLevel level true (← reading.addOperand level argument) rest
    else if level.commands.contains argument then
      .ok { reading with command := some (argument, rest) }
    else if argument = "help" && !level.commands.isEmpty then
      .error (if helpKnown level rest then .help else .usage)
    else
      match argument.toList with
      | ['-', '-'] => readLevel level true reading rest
      | '-' :: '-' :: long =>
        let name := String.ofList (long.takeWhile (· != '='))
        match long.dropWhile (· != '=') with
        | _ :: value =>
          if level.options.contains name then do
            readLevel level false (← reading.addValue name (String.ofList value)) rest
          else .error .usage
        | [] =>
          if level.options.contains name then
            match rest with
            | value :: rest =>
              if looksLikeOption value then .error .usage
              else do readLevel level false (← reading.addValue name value) rest
            | [] => .error .usage
          else do readLevel level false (← readFlag level reading name) rest
      | '-' :: letter :: letters => do
        readLevel level false (← readLetters level reading (letter :: letters)) rest
      | _ => do readLevel level false (← reading.addOperand level argument) rest

def task (command : String) (reading : Reading) : Except Stop Task :=
  let dryRun := reading.flags.contains "dry-run"
  let json := reading.flags.contains "json"
  if command = "scaffold" then .ok (.scaffold dryRun json)
  else if command = "refresh" then .ok (.refresh json)
  else if command = "check" then .ok (.check json)
  else
    match reading.operands, reading.values.lookup "prefix" with
    | [directory], some package => .ok (.repackage ⟨directory⟩ package dryRun json)
    | _, _ => .error .usage

/-- What the arguments ask for. An option that stands before and after the command takes its later
value. -/
def parse (arguments : List String) : Except Stop Invocation := do
  let before ← readLevel mainLevel false {} arguments
  match before.command with
  | none => .error .usage
  | some (command, rest) =>
    let after ← readLevel (commandLevel command) false {} rest
    let value (option : String) : Option Path :=
      ((after.values.lookup option).or (before.values.lookup option)).map Path.mk
    return {
      projectRoot := value "project-root"
      config := value "config"
      sourceRoot := value "source-root"
      targetRoot := value "target-root"
      task := ← task command after }

end ApiMigration.Command
