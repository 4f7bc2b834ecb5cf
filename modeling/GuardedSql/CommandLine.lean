import GuardedSql.Session

set_option autoImplicit false

/-!
The command line.

A run names an allow-list file, says whether to be verbose, and renders either a request or a filter
from a file or from standard input. Instead of a run the arguments may ask for the version; they are
read from left to right, so that a fault before that question counts and one after it does not.

`Demand.ofArguments` reads the arguments, and `Invocation.run` says what a run prints and which code
it ends with, given the contents it reads. A run reads its input only after the allow-list has been
loaded; `Invocation.load` is the part before that, and `Loaded.finish` the part after it.

`Demand.perform` does what is demanded with given sources to read from. The sources may be those of
the system, or any others, and so may be the reader for the doubles in a text.
-/

namespace GuardedSql

inductive Command where
  | render
  | filter
  deriving DecidableEq

/-- The arguments of a run. Without a file the input is standard input. -/
structure Invocation where
  config : String
  verbose : Bool
  command : Command
  file : Option String
  deriving DecidableEq

inductive Demand where
  | improper
  | version
  | run (invocation : Invocation)
  deriving DecidableEq

namespace Demand

structure Options where
  config : Option String
  verbose : Bool
  deriving DecidableEq

/-- Names the allow-list file, which is done once and not with an empty name. -/
def Options.setConfig? (options : Options) (path : String) : Option Options :=
  if options.config.isSome ∨ path = "" then none else some { options with config := some path }

/-- Asks for verbose output, which is done once. -/
def Options.setVerbose? (options : Options) : Option Options :=
  if options.verbose then none else some { options with verbose := true }

/-- Whether an argument is written as an option. A lone hyphen is not. -/
def isOption (argument : String) : Bool :=
  argument.startsWith "-" && argument != "-"

inductive Reading where
  | version
  | extended (options : Options)
  /-- The options are extended, and the next argument names the allow-list file. -/
  | pending (options : Options)

/-- A cluster of one-letter options without its hyphen. What follows the letter of an option with a
value is the value, after an equals sign if there is one. -/
def readCluster? (options : Options) : List Char → Option Reading
  | [] => some (.extended options)
  | 'V' :: _ => some .version
  | 'v' :: rest =>
      match options.setVerbose? with
      | none => none
      | some extended => readCluster? extended rest
  | ['c'] => some (.pending options)
  | 'c' :: '=' :: value => (options.setConfig? (String.ofList value)).map .extended
  | 'c' :: value => (options.setConfig? (String.ofList value)).map .extended
  | _ :: _ => none

def readLong? (options : Options) (argument : String) : Option Reading :=
  if argument = "--version" then
    some .version
  else if argument = "--verbose" then
    options.setVerbose?.map .extended
  else if argument = "--config" then
    some (.pending options)
  else if argument.startsWith "--config=" then
    (options.setConfig? (String.ofList (argument.toList.drop "--config=".length))).map .extended
  else
    none

def readOption? (options : Options) (argument : String) : Option Reading :=
  if argument.startsWith "--" then
    readLong? options argument
  else
    readCluster? options (argument.toList.drop 1)

/-- The file after a command, if there is one. After two hyphens nothing is an option. -/
def readFile? (file : Option String) (literal : Bool) : List String → Option (Option String)
  | [] => some file
  | argument :: rest =>
      if ¬ literal ∧ argument = "--" then
        readFile? file true rest
      else if ¬ literal ∧ isOption argument then
        none
      else if file.isSome ∨ argument = "" then
        none
      else
        readFile? (some argument) literal rest

def command? (word : String) : Option Command :=
  if word = "render" then some .render
  else if word = "filter" then some .filter
  else none

/-- The arguments after the options: a command and perhaps a file. The environment may name the
allow-list file if the options do not. -/
def readCommand? (environment : Option String) (options : Options) (word : String)
    (rest : List String) : Option Invocation := do
  let command ← command? word
  let file ← readFile? none false rest
  let config ← options.config.or environment
  if config = "" then none else some { config, verbose := options.verbose, command, file }

def readArguments (environment : Option String) (options : Options) : List String → Demand
  | [] => improper
  | argument :: rest =>
      if isOption argument then
        match readOption? options argument with
        | none => improper
        | some .version => version
        | some (.extended extended) => readArguments environment extended rest
        | some (.pending extended) =>
            match rest with
            | [] => improper
            | value :: others =>
                if isOption value then
                  improper
                else
                  match extended.setConfig? value with
                  | none => improper
                  | some named => readArguments environment named others
      else
        match readCommand? environment options argument rest with
        | none => improper
        | some invocation => run invocation

def ofArguments (environment : Option String) (arguments : List String) : Demand :=
  readArguments environment ⟨none, false⟩ arguments

end Demand

/-! ### Runs -/

/-- What a run ends with: its code, its output, what it reports beside the output, and the problem
that kept it from doing its work, if there was one. -/
structure Outcome where
  code : Nat
  output : String
  reports : List String
  problem : Option String
  deriving DecidableEq

/-- What a run prints beside its output, line by line. -/
def Outcome.errorLines (outcome : Outcome) : List String :=
  outcome.reports ++ outcome.problem.toList

def Outcome.usage : Outcome where
  code := 2
  output := ""
  reports := []
  problem := none

def Outcome.version : Outcome where
  code := 0
  output := "jsonsql 0.1.0\n"
  reports := []
  problem := none

/-- The outcome of a run that could not do its work. The problem is the outermost one; the causes
behind it are not listed. -/
def Outcome.failed (reports : List String) (problem : String) : Outcome where
  code := 1
  output := ""
  reports := reports
  problem := some ("Error: " ++ problem)

structure Loaded where
  invocation : Invocation
  allow : AllowList
  reports : List String

namespace Invocation

def debug (invocation : Invocation) (reports : List String) : List String :=
  if invocation.verbose then reports else []

/-- The run after its allow-list has been loaded from the content of its file, or its outcome if it
cannot be loaded. -/
def load (invocation : Invocation) (config : Except ReadFailure String) :
    Except Outcome Loaded :=
  match AllowList.ofFile? config with
  | .error _ => .error (.failed [] ("failed to load allow-list " ++ invocation.config))
  | .ok allow =>
      .ok {
        invocation
        allow
        reports := invocation.debug ["DEBUG loaded allow-list tables=" ++
          toString allow.tables.size ++ " columns=" ++ toString allow.columns.size] }

def renderValue (command : Command) (allow : AllowList) (value : Json) :
    Logged (Except Rejection BoundSql) :=
  match command with
  | .render => renderRequest allow value
  | .filter => renderFilter allow value

/-- The report of an event. Rendered SQL is not reported. -/
def report? : Event → Option String
  | .rendered _ _ _ => none
  | event@(.rejected _ reason) => some ("DEBUG " ++ event.message ++ " reason=" ++ reason)

end Invocation

namespace Loaded

def inputName (loaded : Loaded) : String :=
  loaded.invocation.file.getD "stdin"

def conclude (loaded : Loaded) (value : Json) : Outcome :=
  let rendered := Invocation.renderValue loaded.invocation.command loaded.allow value
  let reports := loaded.reports ++
    loaded.invocation.debug (rendered.events.filterMap Invocation.report?)
  match rendered.value with
  | .ok bound =>
      { code := 0
        output := bound.toSortedJson.pretty ++ "\n"
        reports := reports ++ [" INFO rendered params=" ++ toString bound.params.length]
        problem := none }
  | .error cause =>
      { code := 1
        output := ""
        reports := reports ++ [cause.message]
        problem := none }

def finish (read : DoubleReader) (loaded : Loaded) (input : Except ReadFailure String) :
    Outcome :=
  match input with
  | .error _ => .failed loaded.reports ("failed to read " ++ loaded.inputName)
  | .ok text =>
      match Json.ofText? read text with
      | none => .failed loaded.reports "input is not valid JSON"
      | some value => loaded.conclude value

end Loaded

def Invocation.run (read : DoubleReader) (invocation : Invocation)
    (config input : Except ReadFailure String) : Outcome :=
  match invocation.load config with
  | .error outcome => outcome
  | .ok loaded => loaded.finish read input

/-- What a run reads from: files by their names, and standard input. What cannot be read has no
content. -/
structure Sources (m : Type → Type) where
  file : String → m (Option ByteArray)
  standardInput : m (Option ByteArray)

section Performing

variable {m : Type → Type}

def Sources.input (sources : Sources m) (invocation : Invocation) : m (Option ByteArray) :=
  match invocation.file with
  | some path => sources.file path
  | none => sources.standardInput

variable [Monad m]

def Invocation.perform (read : DoubleReader) (sources : Sources m) (invocation : Invocation) :
    m Outcome := do
  let config ← sources.file invocation.config
  match invocation.load (fileText config) with
  | .error outcome => return outcome
  | .ok loaded =>
      let input ← sources.input invocation
      return loaded.finish read (fileText input)

def Demand.perform (read : DoubleReader) (sources : Sources m) : Demand → m Outcome
  | .improper => return .usage
  | .version => return .version
  | .run invocation => invocation.perform read sources

/-- What the program does with its arguments, in an environment that may name an allow-list file. -/
def performArguments (read : DoubleReader) (sources : Sources m) (environment : Option String)
    (arguments : List String) : m Outcome :=
  (Demand.ofArguments environment arguments).perform read sources

end Performing

end GuardedSql
