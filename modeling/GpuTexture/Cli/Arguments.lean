/-!
# Command line arguments

Two commands, `info` and `plan`, each with its own options. Arguments are read from left to right,
and the first that is refused, or that asks for help or the version, decides. Options have a long
and mostly a short spelling; short ones may be run together, the last of them with its value.
-/

namespace GpuTexture.Cli

inductive Command where
  | info (input : String)
  | plan (input : String) (mipCount : Option UInt32) (json : Bool)
deriving DecidableEq, Repr

def Command.input : Command → String
  | .info input => input
  | .plan input _ _ => input

inductive ArgumentError where
  | missingCommand
  | unknownCommand (text : String)
  | unexpected (text : String)
  | repeated (text : String)
  | missingValue (text : String)
  | unexpectedValue (text : String)
  | invalidValue (text : String)
  | missingInput
deriving DecidableEq, Repr

def ArgumentError.message : ArgumentError → String
  | .missingCommand => "a command is required"
  | .unknownCommand text => s!"there is no command '{text}'"
  | .unexpected text => s!"unexpected argument '{text}'"
  | .repeated text => s!"the argument '{text}' cannot be used multiple times"
  | .missingValue text => s!"a value is required for '{text}'"
  | .unexpectedValue text => s!"unexpected value '{text}'"
  | .invalidValue text => s!"invalid value '{text}'"
  | .missingInput => "the argument '--input' is required"

/-- Why the reading of arguments ends before their end. -/
inductive Halt where
  | help
  | version
  | refused (error : ArgumentError)
deriving DecidableEq, Repr

inductive OptionName where
  | verbose | input | mipCount | json | help | version
deriving DecidableEq, Repr

def OptionName.takesValue : OptionName → Bool
  | .input | .mipCount => true
  | _ => false

/-- The place of an option: before any command, or behind one. -/
inductive Scope where
  | top | info | plan
deriving DecidableEq, Repr

def Scope.options : Scope → List (OptionName × String × Option Char)
  | .top =>
    [(.verbose, "verbose", some 'v'), (.help, "help", some 'h'), (.version, "version", some 'V')]
  | .info =>
    [(.verbose, "verbose", some 'v'), (.help, "help", some 'h'), (.input, "input", some 'i')]
  | .plan =>
    [(.verbose, "verbose", some 'v'), (.help, "help", some 'h'), (.input, "input", some 'i'),
      (.mipCount, "mip-count", some 'm'), (.json, "json", none)]

def Scope.long? (scope : Scope) (name : String) : Option OptionName :=
  (scope.options.find? fun (_, long, _) => long == name).map (·.1)

def Scope.short? (scope : Scope) (letter : Char) : Option OptionName :=
  (scope.options.find? fun (_, _, short) => short == some letter).map (·.1)

structure Settings where
  verbose : Bool
  input : Option String
  mipCount : Option UInt32
  json : Bool
deriving DecidableEq, Repr

def Settings.empty : Settings :=
  ⟨false, none, none, false⟩

inductive Token where
  | escape
  | long (name : String) (value : Option String)
  | short (letters : List Char)
  | plain (text : String)
deriving DecidableEq, Repr

/-- The form of an argument. A single dash is an ordinary word. -/
def Token.ofString (text : String) : Token :=
  match text.toList with
  | ['-', '-'] => .escape
  | '-' :: '-' :: rest =>
    let name := rest.takeWhile (· ≠ '=')
    match rest.drop name.length with
    | _ :: value => .long (String.ofList name) (some (String.ofList value))
    | [] => .long (String.ofList name) none
  | '-' :: letter :: rest => .short (letter :: rest)
  | _ => .plain text

def decimal? (digits : List Char) : Option Nat :=
  if digits.isEmpty || !digits.all Char.isDigit then none
  else some (digits.foldl (fun value digit => 10 * value + (digit.toNat - 48)) 0)

/-- A 32-bit count: decimal digits behind an optional sign. A minus sign leaves only zero. -/
def count? (text : String) : Option UInt32 := do
  let value ← match text.toList with
    | '-' :: digits => (decimal? digits).filter (· = 0)
    | '+' :: digits => decimal? digits
    | digits => decimal? digits
  if value < UInt32.size then some (UInt32.ofNat value) else none

def applyFlag (settings : Settings) : OptionName → Except Halt Settings
  | .help => throw .help
  | .version => throw .version
  | .verbose =>
    if settings.verbose then throw (.refused (.repeated "--verbose"))
    else return { settings with verbose := true }
  | .json =>
    if settings.json then throw (.refused (.repeated "--json"))
    else return { settings with json := true }
  | .input => throw (.refused (.missingValue "--input"))
  | .mipCount => throw (.refused (.missingValue "--mip-count"))

def applyValue (settings : Settings) (value : String) : OptionName → Except Halt Settings
  | .input =>
    if settings.input.isSome then throw (.refused (.repeated "--input"))
    else if value.isEmpty then throw (.refused (.invalidValue value))
    else return { settings with input := some value }
  | .mipCount =>
    if settings.mipCount.isSome then throw (.refused (.repeated "--mip-count"))
    else
      match count? value with
      | some count => return { settings with mipCount := some count }
      | none => throw (.refused (.invalidValue value))
  | _ => throw (.refused (.unexpectedValue value))

/-- Reads letters that are run together: the settings, and the option that still lacks a value. -/
def applyShort (scope : Scope) : List Char → Settings → Except Halt (Settings × Option OptionName)
  | [], settings => return (settings, none)
  | letter :: rest, settings =>
    match scope.short? letter with
    | none => throw (.refused (.unexpected ("-" ++ letter.toString)))
    | some option =>
      if option.takesValue then
        match rest with
        | [] => return (settings, some option)
        | '=' :: value => return (← applyValue settings (String.ofList value) option, none)
        | value => return (← applyValue settings (String.ofList value) option, none)
      else do
        let settings ← applyFlag settings option
        applyShort scope rest settings

def applyToken (scope : Scope) (settings : Settings) :
    Token → Except Halt (Settings × Option OptionName)
  | .escape => return (settings, none)
  | .plain text => throw (.refused (.unexpected text))
  | .short letters => applyShort scope letters settings
  | .long name value =>
    match scope.long? name, value with
    | none, _ => throw (.refused (.unexpected ("--" ++ name)))
    | some option, some value => return (← applyValue settings value option, none)
    | some option, none =>
      if option.takesValue then return (settings, some option)
      else return (← applyFlag settings option, none)

/-- Reads the arguments behind a command. A value that stands apart is an ordinary word. -/
def readOptions (scope : Scope) : List String → Settings → Except Halt Settings
  | [], settings => return settings
  | argument :: rest, settings => do
    match Token.ofString argument with
    | .escape =>
      match rest with
      | [] => return settings
      | next :: _ => throw (.refused (.unexpected next))
    | token =>
      let (settings, pending) ← applyToken scope settings token
      match pending with
      | none => readOptions scope rest settings
      | some option =>
        match rest with
        | [] => throw (.refused (.missingValue argument))
        | value :: rest =>
          match Token.ofString value with
          | .plain value => readOptions scope rest (← applyValue settings value option)
          | _ => throw (.refused (.missingValue argument))

def complete (scope : Scope) (environment : Option String) (settings : Settings) :
    Except Halt Command := do
  let fallback := environment.filter fun value => !value.isEmpty
  match settings.input <|> fallback with
  | none => throw (.refused .missingInput)
  | some input =>
    match scope with
    | .plan => return .plan input settings.mipCount settings.json
    | _ => return .info input

def readHelp : List String → Halt
  | [] | ["info"] | ["plan"] | ["help"] => .help
  | "info" :: next :: _ | "plan" :: next :: _ | "help" :: next :: _ =>
    .refused (.unknownCommand next)
  | next :: _ => .refused (.unknownCommand next)

def readCommand (environment : Option String) : List String → Settings → Except Halt Command
  | [], _ => throw (.refused .missingCommand)
  | argument :: rest, settings => do
    match Token.ofString argument with
    | .escape =>
      match rest with
      | [] => throw (.refused .missingCommand)
      | next :: _ => throw (.refused (.unexpected next))
    | .plain "info" => complete .info environment (← readOptions .info rest .empty)
    | .plain "plan" => complete .plan environment (← readOptions .plan rest .empty)
    | .plain "help" => throw (readHelp rest)
    | .plain text => throw (.refused (.unknownCommand text))
    | token =>
      let (settings, _) ← applyToken .top settings token
      readCommand environment rest settings

end GpuTexture.Cli
