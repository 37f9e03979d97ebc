import Tether.Command.Arguments
import Tether.Text.Numeral

/-!
Reading the words of a command line. The first word that is neither an option nor an option's value
names the command, and the words behind it belong to the command. Options for the file of settings,
the log level and the format may stand on either side; the command's own side wins. A value is
looked at when the next option or argument comes, unless it is attached to its option.
-/

namespace Tether

/-- Why the words make no sense, or what is shown instead of running a command. -/
inductive UsageError where
  | displayHelp
  | displayVersion
  | displayHelpOnMissing
  | missingCommand
  | invalidCommand
  | missingArgument
  | unknownArgument
  | argumentConflict
  | invalidValue
  | valueValidation
  | tooManyValues
  deriving Repr, DecidableEq

/-- Help and version are no failures. -/
def UsageError.exitCode : UsageError → Nat
  | displayHelp | displayVersion => 0
  | _ => 2

namespace Usage

/-- The variable that names a file of settings. -/
def configVariable : String := "HANDLEPOOL_CONFIG"

/-- Where words stand: before the command or behind its name. -/
inductive Level where
  | top
  | probe
  | soak
  | config
  deriving Repr, DecidableEq

inductive OptionName where
  | config
  | logLevel
  | format
  | duration
  | interval
  deriving Repr, DecidableEq

inductive FlagName where
  | hold
  | help
  | version
  deriving Repr, DecidableEq

/-- The words that name commands. -/
def commandNamed (word : String) : Option Level :=
  if word = "probe" then some .probe
  else if word = "soak" then some .soak
  else if word = "config" then some .config
  else none

/-- The option that a name stands for, without the dashes. -/
def optionNamed (level : Level) (name : String) : Option OptionName :=
  if name = "config" then some .config
  else if name = "log-level" then some .logLevel
  else if name = "format" then some .format
  else if level = .soak ∧ name = "duration-secs" then some .duration
  else if level = .soak ∧ name = "interval-ms" then some .interval
  else none

def flagNamed (level : Level) (name : String) : Option FlagName :=
  if name = "help" then some .help
  else if level = .top ∧ name = "version" then some .version
  else if level = .soak ∧ name = "hold" then some .hold
  else none

def flagLettered (level : Level) (letter : Char) : Option FlagName :=
  if letter = 'h' then some .help
  else if level = .top ∧ letter = 'V' then some .version
  else none

/-- What the words of one level have given so far. -/
structure Given where
  config : Option String := none
  logLevel : Option String := none
  format : Option OutputFormat := none
  duration : Option Nat := none
  interval : Option Nat := none
  hold : Bool := false
  endpoints : List String := []
  /-- The latest option, and its value if that has come. -/
  pending : Option (OptionName × Option String) := none

namespace Given

def count (text : String) : Except UsageError (Option Nat) :=
  match Text.numeral Text.max64 text.toList with
  | some n => .ok (some n)
  | none => .error .valueValidation

def formatNamed (text : String) : Except UsageError (Option OutputFormat) :=
  if text = "text" then .ok (some .text)
  else if text = "json" then .ok (some .json)
  else .error .invalidValue

/-- Whether the option has a value already. -/
def has (g : Given) : OptionName → Bool
  | .config => g.config.isSome
  | .logLevel => g.logLevel.isSome
  | .format => g.format.isSome
  | .duration => g.duration.isSome
  | .interval => g.interval.isSome

/-- Give an option its value. An option that is given twice is an error whatever the values. -/
def store (name : OptionName) (text : String) (g : Given) : Except UsageError Given :=
  if g.has name then .error .argumentConflict
  else match name with
    | .config => .ok { g with config := some text }
    | .logLevel => .ok { g with logLevel := some text }
    | .format => do return { g with format := ← formatNamed text }
    | .duration => do return { g with duration := ← count text }
    | .interval => do return { g with interval := ← count text }

/-- Look at the latest option's value. -/
def settle (g : Given) : Except UsageError Given :=
  match g.pending with
  | none => .ok g
  | some (_, none) => .error .invalidValue
  | some (name, some text) => { g with pending := none }.store name text

/-- Whether the next word is the value of an option. -/
def awaitsValue (g : Given) : Bool :=
  match g.pending with
  | some (_, none) => true
  | _ => false

def raise (name : FlagName) (g : Given) : Except UsageError Given :=
  g.settle.bind fun g =>
    match name with
    | .help => .error .displayHelp
    | .version => .error .displayVersion
    | .hold => if g.hold then .error .argumentConflict else .ok { g with hold := true }

/-- A word that is no option. Which words a command takes depends on the command. -/
def argument (level : Level) (trailing : Bool) (word : String) (g : Given) :
    Except UsageError Given :=
  match level with
  | .top =>
    if trailing && ((commandNamed word).isSome || word == "help") then .error .unknownArgument
    else .error .invalidCommand
  | .config => .error .unknownArgument
  | .probe => g.settle.map fun g => { g with endpoints := g.endpoints ++ [word] }
  | .soak =>
    if g.endpoints.isEmpty then g.settle.map fun g => { g with endpoints := [word] }
    else .error .unknownArgument

/-- A word behind two dashes, with what follows an equals sign in it. -/
def long (level : Level) (name : String) (attached : Option String) (g : Given) :
    Except UsageError Given :=
  match optionNamed level name, flagNamed level name, attached with
  | some name, _, some text => g.settle.bind fun g => g.store name text
  | some name, _, none => g.settle.map fun g => { g with pending := some (name, none) }
  | none, some _, some _ => .error .tooManyValues
  | none, some name, none => g.raise name
  | none, none, _ => .error .unknownArgument

/-- Letters behind one dash. -/
def short (level : Level) : List Char → Given → Except UsageError Given
  | [], g => .ok g
  | letter :: rest, g =>
    match flagLettered level letter with
    | some name => (g.raise name).bind (short level rest)
    | none => .error .unknownArgument

end Given

/-- A word apart at its first equals sign. -/
def splitEquals (cs : List Char) : String × Option String :=
  let name := String.ofList (cs.takeWhile (· != '='))
  match cs.dropWhile (· != '=') with
  | [] => (name, none)
  | _ :: text => (name, some (String.ofList text))

/-- Words after the name of the command, if a command has been named. -/
abbrev Rest := Option (Level × List String)

/-- Help on a command that the words name. -/
def helpOn : List String → UsageError
  | [] => .displayHelp
  | word :: rest =>
    if (commandNamed word).isSome || word == "help" then
      if rest.isEmpty then .displayHelp else .invalidCommand
    else .invalidCommand

/-- Read the words of one level. Behind two lone dashes every word is an argument. -/
def readWords (level : Level) : Bool → List String → Given → Except UsageError (Given × Rest)
  | _, [], g => .ok (g, none)
  | true, word :: rest, g => (g.argument level true word).bind (readWords level true rest)
  | false, word :: rest, g =>
    if level = .top ∧ !g.awaitsValue ∧ word = "help" then .error (helpOn rest)
    else match if level = .top ∧ !g.awaitsValue then commandNamed word else none with
      | some command => .ok (g, some (command, rest))
      | none =>
        match word.toList with
        | ['-', '-'] => readWords level true rest g
        | '-' :: '-' :: cs =>
          let (name, attached) := splitEquals cs
          (g.long level name attached).bind (readWords level false rest)
        | '-' :: c :: cs => (g.short level (c :: cs)).bind (readWords level false rest)
        | _ =>
          match g.pending with
          | some (name, none) =>
            readWords level false rest { g with pending := some (name, some word) }
          | _ => (g.argument level false word).bind (readWords level false rest)

/-- The command that the words of its level make. -/
def commandOf (level : Level) (g : Given) : Except UsageError Command :=
  match level, g.endpoints with
  | .probe, [] | .soak, [] => .error .missingArgument
  | .probe, endpoints => .ok (.probe endpoints)
  | .soak, endpoint :: _ =>
    .ok (.soak endpoint (g.duration.getD 30) (g.interval.getD 1000) g.hold)
  | .config, _ => .ok .config
  | .top, _ => .error .missingCommand

/-- Read a command line. `config` is the text of the variable that names a file of settings; an
option wins over it. -/
def read (config : Option String) (words : List String) : Except UsageError Arguments := do
  let (outer, rest) ← readWords .top false words {}
  match rest with
  | none =>
    let outer ← outer.settle
    if outer.config.isNone && outer.logLevel.isNone && outer.format.isNone && config.isNone then
      throw .displayHelpOnMissing
    else throw .missingCommand
  | some (level, words) =>
    let (inner, _) ← readWords level false words {}
    let inner ← inner.settle
    let command ← commandOf level inner
    let outer ← outer.settle
    return {
      config := (inner.config.or outer.config).or config
      logLevel := (inner.logLevel.or outer.logLevel).getD "info"
      format := (inner.format.or outer.format).getD .text
      command }

end Usage

end Tether
