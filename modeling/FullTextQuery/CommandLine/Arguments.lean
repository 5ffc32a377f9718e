import FullTextQuery.Host.Path

/-!
The arguments of the command line. They are read from left to right: options of the program come
before or after the command, options of a command after it, and two hyphens make everything after
them operands. A request for help ends the reading where it stands, and so does the first mistake.
-/

namespace FullTextQuery.CommandLine

/-! ## What may be given -/

/-- A command of the program. -/
inductive Command where
  /-- Converts queries. -/
  | parse (queries : List Text) (keepGoing : Bool)
  /-- Shows how a query is converted. -/
  | explain (query : Text)
  /-- Shows the preferences, or writes a file of defaults. -/
  | config (create : Bool)
  /-- Shows the version. -/
  | version
deriving DecidableEq, Repr

/-- What a command line asks for. -/
structure Invocation where
  /-- Whether debug messages are shown. -/
  verbose : Bool
  /-- Whether results are written for programs. -/
  json : Bool
  /-- The file of preferences, if one is named. -/
  configPath : Option Path
  /-- The command, if there is one. -/
  command : Option Command
deriving DecidableEq, Repr

/-- What is wrong with a command line. -/
inductive UsageError where
  | unknownOption (text : Text)
  | unknownCommand (text : Text)
  | unexpectedOperand (text : Text)
  | repeatedOption (text : Text)
  | needlessValue (text : Text)
  | missingValue (text : Text)
  | missingQuery
deriving DecidableEq, Repr

/-- The text of a usage error. -/
def UsageError.message : UsageError → Text
  | .unknownOption text => "unexpected option ".toList ++ text
  | .unknownCommand text => "unknown command ".toList ++ text
  | .unexpectedOperand text => "unexpected argument ".toList ++ text
  | .repeatedOption text => text ++ " is given twice".toList
  | .needlessValue text => text ++ " takes no value".toList
  | .missingValue text => text ++ " needs a value".toList
  | .missingQuery => "explain needs a query".toList

/-- Why a command line names nothing to run. -/
inductive Stop where
  /-- It asks for help. -/
  | help
  /-- It asks for the version of the program. -/
  | version
  /-- It is wrong. -/
  | refused (error : UsageError)
deriving DecidableEq, Repr

/-- The part of a command line that options belong to: before the command, or after it. -/
inductive Scope where
  | program
  | parse
  | explain
  | config
  | version
deriving DecidableEq, Repr

namespace Scope

/-- The word that opens a scope. -/
def name : Scope → Text
  | .program => []
  | .parse => "parse".toList
  | .explain => "explain".toList
  | .config => "config".toList
  | .version => "version".toList

/-- The scope that a command opens. -/
def ofCommand? (text : Text) : Option Scope :=
  [parse, explain, config, version].find? fun scope => scope.name = text

end Scope

/-- What a scope has been given so far. -/
structure Given where
  verbose : Bool := false
  json : Bool := false
  configPath : Option Path := none
  keepGoing : Bool := false
  create : Bool := false
  operands : List Text := []
deriving DecidableEq, Repr

/-! ## Single arguments -/

/-- A switch that options turn on. -/
inductive Switch where
  | verbose
  | json
  | keepGoing
  | create
  | help
  | version
deriving DecidableEq, Repr

/-- The switch of a long name, where it is known. -/
def Switch.ofName? (scope : Scope) (name : Text) : Option Switch :=
  if name = "verbose".toList then some .verbose
  else if name = "json".toList then some .json
  else if name = "help".toList then some .help
  else if name = "version".toList ∧ scope = .program then some .version
  else if name = "keep-going".toList ∧ scope = .parse then some .keepGoing
  else if name = "init".toList ∧ scope = .config then some .create
  else none

/-- The switch of a letter, where it is known. -/
def Switch.ofLetter? (scope : Scope) (letter : Char) : Option Switch :=
  if letter = 'v' then some .verbose
  else if letter = 'h' then some .help
  else if letter = 'V' ∧ scope = .program then some .version
  else if letter = 'k' ∧ scope = .parse then some .keepGoing
  else none

/-- Turns a switch on; `text` is the option as it was written. A switch is turned on only once in
a scope. -/
def Given.turnOn (given : Given) (text : Text) : Switch → Except Stop Given
  | .verbose =>
    if given.verbose then .error (.refused (.repeatedOption text))
    else .ok { given with verbose := true }
  | .json =>
    if given.json then .error (.refused (.repeatedOption text))
    else .ok { given with json := true }
  | .keepGoing =>
    if given.keepGoing then .error (.refused (.repeatedOption text))
    else .ok { given with keepGoing := true }
  | .create =>
    if given.create then .error (.refused (.repeatedOption text))
    else .ok { given with create := true }
  | .help => .error .help
  | .version => .error .version

/-- Turns on the switches of letters after one hyphen. -/
def Given.turnOnLetters (given : Given) (scope : Scope) : Text → Except Stop Given
  | [] => .ok given
  | letter :: letters =>
    match Switch.ofLetter? scope letter with
    | none => .error (.refused (.unknownOption ['-', letter]))
    | some switch => do
      let given ← given.turnOn ['-', letter] switch
      given.turnOnLetters scope letters

/-- Names the file of preferences, once in a scope. -/
def Given.nameConfig (given : Given) (path : Path) : Except Stop Given :=
  if path.isEmpty then .error (.refused (.missingValue "--config".toList))
  else if given.configPath.isSome then .error (.refused (.repeatedOption "--config".toList))
  else .ok { given with configPath := some path }

/-- Takes an operand. Queries may follow each other, and an explanation is of one query. -/
def Given.takeOperand (given : Given) (scope : Scope) (text : Text) : Except Stop Given :=
  match scope with
  | .parse => .ok { given with operands := given.operands ++ [text] }
  | .explain =>
    if given.operands.isEmpty then .ok { given with operands := [text] }
    else .error (.refused (.unexpectedOperand text))
  | .program => .error (.refused (.unknownCommand text))
  | .config | .version => .error (.refused (.unexpectedOperand text))

/-- Takes every argument as an operand. -/
def Given.takeOperands (given : Given) (scope : Scope) : List Text → Except Stop Given
  | [] => .ok given
  | text :: rest => do
    let given ← given.takeOperand scope text
    given.takeOperands scope rest

/-! ## Scopes -/

/-- Whether an argument is an option by its form; a lone hyphen is an operand. -/
def isOption (text : Text) : Bool :=
  text.head? == some '-' && text != ['-']

/-- What follows the word `help`: names of commands, each within the one before. Only the word
itself has names within it. -/
def stopAtHelp : List Text → Stop
  | [] => .help
  | name :: rest =>
    if name = "help".toList then stopAtHelp rest
    else
      match Scope.ofCommand? name, rest with
      | some _, [] => .help
      | some _, extra :: _ => .refused (.unknownCommand extra)
      | none, _ => .refused (.unknownCommand name)

/-- Reads the arguments of a scope. The program's own scope ends at a command, which is given with
the arguments after it. -/
def readScope (scope : Scope) (given : Given) :
    List Text → Except Stop (Given × Option (Scope × List Text))
  | [] => .ok (given, none)
  | text :: rest =>
    if text = ['-', '-'] then do .ok (← given.takeOperands scope rest, none)
    else if text = "--config".toList then
      match rest with
      | [] => .error (.refused (.missingValue text))
      | path :: rest =>
        if isOption path then .error (.refused (.missingValue text))
        else do readScope scope (← given.nameConfig path) rest
    else if text.take 2 = ['-', '-'] then
      let name := (text.drop 2).takeWhile (· != '=')
      let attached := text.drop (2 + name.length)
      if attached.isEmpty then
        match Switch.ofName? scope name with
        | none => .error (.refused (.unknownOption text))
        | some switch => do readScope scope (← given.turnOn text switch) rest
      else if name = "config".toList then do
        readScope scope (← given.nameConfig (attached.drop 1)) rest
      else .error (.refused (.needlessValue text))
    else if isOption text then do
      readScope scope (← given.turnOnLetters scope (text.drop 1)) rest
    else if scope = .program then
      match Scope.ofCommand? text with
      | some command => .ok (given, some (command, rest))
      | none =>
        if text = "help".toList then .error (stopAtHelp rest)
        else .error (.refused (.unknownCommand text))
    else do readScope scope (← given.takeOperand scope text) rest

/-- The command of a scope with what it was given. -/
def commandOf (scope : Scope) (given : Given) : Except Stop (Option Command) :=
  match scope with
  | .program => .ok none
  | .parse => .ok (some (.parse given.operands given.keepGoing))
  | .explain =>
    match given.operands with
    | query :: _ => .ok (some (.explain query))
    | [] => .error (.refused .missingQuery)
  | .config => .ok (some (.config given.create))
  | .version => .ok (some .version)

/-- What a command line asks for. Options of the program count wherever they stand, and of two
files of preferences the one after the command. -/
def readArguments (arguments : List Text) : Except Stop Invocation := do
  let (outer, command) ← readScope .program {} arguments
  match command with
  | none => .ok ⟨outer.verbose, outer.json, outer.configPath, none⟩
  | some (scope, rest) =>
    let (inner, _) ← readScope scope {} rest
    let command ← commandOf scope inner
    .ok ⟨outer.verbose || inner.verbose, outer.json || inner.json,
      inner.configPath <|> outer.configPath, command⟩

end FullTextQuery.CommandLine
