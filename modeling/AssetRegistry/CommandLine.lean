import AssetRegistry.Text.Numeral

namespace AssetRegistry

/-- To run the service, which is done without a command as well, or to bring the store's tables up to date. -/
inductive Command where
  /-- Serves requests, under another number than the settings say if one is given. -/
  | serve (listensOn : Option UInt16)
  | migrate
  deriving DecidableEq, Repr

namespace Command

/-- Why the arguments name no command: something is to be shown, or something is wrong with them. -/
inductive Interruption where
  | help
  | version
  | unknownArgument
  /-- An option stands at the end without its value. -/
  | missingValue
  | invalidValue
  /-- An option is given a second time. -/
  | repeatedOption
  /-- A flag is given a value. -/
  | unwantedValue
  | unknownCommand
  deriving DecidableEq, Repr

/-- The forms of an argument. -/
inductive Form where
  /-- Two hyphens alone: nothing behind them is an option. -/
  | separator
  | long (name : String) (value : Option String)
  | short (letters : List Char)
  | plain (s : String)
  deriving DecidableEq, Repr

def formOf (arg : String) : Form :=
  match arg.toList with
  | ['-', '-'] => .separator
  | '-' :: '-' :: cs =>
    let name := String.ofList (cs.takeWhile (· != '='))
    match cs.dropWhile (· != '=') with
    | _ :: value => .long name (some (.ofList value))
    | [] => .long name none
  | '-' :: c :: cs => .short (c :: cs)
  | _ => .plain arg

/-- The options of the service read so far. A value is looked at only when the next option begins, or at the end. -/
structure Reading where
  listensOn : Option UInt16 := none
  pending : Option (Option String) := none

/-- A number from 0 to 65535, written as a signed number may be. -/
def listenNumber? (s : String) : Option UInt16 := do
  let n ← Text.int64? s
  if 0 ≤ n && n ≤ 65535 then some (UInt16.ofNat n.toInt.toNat) else none

def Reading.settle (r : Reading) : Except Interruption Reading :=
  match r.pending with
  | none => .ok r
  | some none => .error .missingValue
  | some (some value) =>
    if r.listensOn.isSome then .error .repeatedOption
    else match listenNumber? value with
      | some n => .ok { listensOn := some n }
      | none => .error .invalidValue

def parseServe (r : Reading) : List String → Except Interruption Command
  | [] => do return .serve (← r.settle).listensOn
  | arg :: rest =>
    match formOf arg with
    | .separator => if rest.isEmpty then do return .serve (← r.settle).listensOn else .error .unknownArgument
    | .long name value =>
      if name = "port" then do
        let r ← r.settle
        match value with
        | some value => parseServe (← Reading.settle { r with pending := some (some value) }) rest
        | none => parseServe { r with pending := some none } rest
      else if name = "help" then
        if value.isSome then .error .unwantedValue else do let _ ← r.settle; throw .help
      else .error .unknownArgument
    | .short letters =>
      if letters.head? = some 'h' then do let _ ← r.settle; throw .help else .error .unknownArgument
    | .plain value =>
      match r.pending with
      | some none => parseServe { r with pending := some (some value) } rest
      | _ => .error .unknownArgument

/-- Reads the arguments of the command that has no options. -/
def parseMigrate : List String → Except Interruption Command
  | [] => .ok .migrate
  | arg :: rest =>
    match formOf arg with
    | .separator => if rest.isEmpty then .ok .migrate else .error .unknownArgument
    | .long "help" value => .error (if value.isSome then .unwantedValue else .help)
    | .short letters => .error (if letters.head? = some 'h' then .help else .unknownArgument)
    | _ => .error .unknownArgument

def names : List String := ["serve", "migrate", "help"]

/-- What follows the command that shows help: nothing, or one command to be explained. -/
def parseHelp : List String → Interruption
  | [] => .help
  | [name] => if names.contains name then .help else .unknownCommand
  | _ => .unknownCommand

/-- Reads the arguments of a process; without any there is no command. -/
def parse : List String → Except Interruption (Option Command)
  | [] => .ok none
  | arg :: rest =>
    if arg = "serve" then (parseServe {} rest).map some
    else if arg = "migrate" then (parseMigrate rest).map some
    else if arg = "help" then .error (parseHelp rest)
    else match formOf arg with
      | .separator =>
        match rest with
        | [] => .ok none
        | name :: _ => .error (if names.contains name then .unknownArgument else .unknownCommand)
      | .long name value =>
        if name = "help" then .error (if value.isSome then .unwantedValue else .help)
        else if name = "version" then .error (if value.isSome then .unwantedValue else .version)
        else .error .unknownArgument
      | .short letters =>
        .error (if letters.head? = some 'h' then .help
          else if letters.head? = some 'V' then .version else .unknownArgument)
      | .plain _ => .error .unknownCommand

end Command

end AssetRegistry
