import GuardedSql.CommandLine

set_option autoImplicit false

/-!
The command line agrees with the library.

A run whose arguments are its options, its command and perhaps a file ends in one of two ways. It
prints the SQL that the library renders from the contents of its files, or it fails and names the
first thing that is wrong: the allow-list, the input, its syntax, or the reason of the rejection.
`Invocation.ended_agrees` says so for all contents and for any reader for doubles, and that the rest
does not matter: whether the input is a file or standard input, what standard input holds beside a
file, and whether the run is verbose.
-/

namespace GuardedSql

namespace Demand

/-- The word is not taken for an option, nor is it empty. -/
def IsPath (word : String) : Prop :=
  isOption word = false ∧ word ≠ ""

variable {environment : Option String} {options : Options} {rest : List String}

theorem readArguments_config {path : String} (isPath : IsPath path)
    (unnamed : options.config = none) :
    readArguments environment options ("-c" :: path :: rest) =
      readArguments environment { options with config := some path } rest := by
  have isMark : isOption "-c" = true := by decide +kernel
  have isPending : readOption? options "-c" = some (.pending options) := by
    have isShort : ¬"-c".startsWith "--" = true := by decide +kernel
    rw [readOption?, if_neg isShort]
    rfl
  have named : options.setConfig? path = some { options with config := some path } := by
    have notSet : ¬(options.config.isSome = true ∨ path = "") := by
      rw [unnamed]
      exact not_or.mpr ⟨Bool.false_ne_true, isPath.2⟩
    rw [Options.setConfig?, if_neg notSet]
  rw [readArguments, if_pos isMark, isPending]
  simp only [isPath.1, Bool.false_eq_true, if_false, named]

theorem readArguments_verbose (quiet : options.verbose = false) :
    readArguments environment options ("-v" :: rest) =
      readArguments environment { options with verbose := true } rest := by
  have isMark : isOption "-v" = true := by decide +kernel
  have extended : readOption? options "-v" =
      some (.extended { options with verbose := true }) := by
    have isShort : ¬"-v".startsWith "--" = true := by decide +kernel
    have cluster : "-v".toList.drop 1 = ['v'] := rfl
    rw [readOption?, if_neg isShort, cluster, readCluster?, Options.setVerbose?, quiet]
    rfl
  rw [readArguments, if_pos isMark, extended]

end Demand

def Command.word : Command → String
  | render => "render"
  | filter => "filter"

theorem Command.command?_word (command : Command) :
    Demand.command? command.word = some command := by
  cases command <;> rfl

theorem Command.isOption_word (command : Command) : Demand.isOption command.word = false := by
  cases command <;> decide +kernel

namespace Invocation

/-- The arguments of a run: its options, its command, and its file if there is one. -/
def arguments (invocation : Invocation) : List String :=
  "-c" :: invocation.config ::
    ((if invocation.verbose then ["-v"] else []) ++
      invocation.command.word :: invocation.file.toList)

/-- The names of the files cannot be taken for options. -/
structure Named (invocation : Invocation) : Prop where
  config : Demand.IsPath invocation.config
  file : ∀ path ∈ invocation.file, Demand.IsPath path

variable {invocation : Invocation}

theorem Named.readFile?_toList (named : invocation.Named) :
    Demand.readFile? none false invocation.file.toList = some invocation.file := by
  cases isFile : invocation.file with
  | none => rfl
  | some path =>
      obtain ⟨noOption, nonempty⟩ := named.file path isFile
      have notHyphens : path ≠ "--" := by
        rintro rfl
        have isMark : Demand.isOption "--" = true := by decide +kernel
        exact absurd noOption (ne_false_of_eq_true isMark)
      simp only [Option.toList_some, Demand.readFile?, notHyphens, noOption, nonempty, and_false,
        if_false, Bool.false_eq_true, Option.isSome_none, or_self]

theorem Named.readCommand?_word (named : invocation.Named) {environment : Option String}
    {verbose : Bool} (isVerbose : verbose = invocation.verbose) :
    Demand.readCommand? environment ⟨some invocation.config, verbose⟩ invocation.command.word
      invocation.file.toList = some invocation := by
  rw [Demand.readCommand?, Command.command?_word, named.readFile?_toList, isVerbose]
  exact if_neg named.config.2

theorem Named.ofArguments_arguments (named : invocation.Named) (environment : Option String) :
    Demand.ofArguments environment invocation.arguments = .run invocation := by
  have atCommand {verbose : Bool} (isVerbose : verbose = invocation.verbose) :
      Demand.readArguments environment ⟨some invocation.config, verbose⟩
        (invocation.command.word :: invocation.file.toList) = .run invocation := by
    rw [Demand.readArguments, if_neg (ne_true_of_eq_false invocation.command.isOption_word),
      named.readCommand?_word isVerbose]
  rw [Demand.ofArguments, arguments, Demand.readArguments_config named.config rfl]
  cases isVerbose : invocation.verbose with
  | true => exact (Demand.readArguments_verbose rfl).trans (atCommand isVerbose.symm)
  | false => exact atCommand isVerbose.symm

end Invocation

/-! ### What the library makes of the contents -/

/-- The content can be read and is the text in UTF-8. -/
def HoldsText (content : Option ByteArray) (text : String) : Prop :=
  ∃ bytes, content = some bytes ∧ String.fromUTF8? bytes = some text

theorem fileText_eq_ok_iff {content : Option ByteArray} {text : String} :
    fileText content = .ok text ↔ HoldsText content text := by
  cases content with
  | none => exact iff_of_false nofun nofun
  | some bytes =>
      cases isText : String.fromUTF8? bytes with
      | none =>
          refine iff_of_false (by simp only [fileText, isText, reduceCtorEq, not_false_eq_true]) ?_
          rintro ⟨_, isBytes, isTextToo⟩
          cases isBytes
          cases isText.symm.trans isTextToo
      | some found =>
          simp only [fileText, isText, Except.ok.injEq]
          constructor
          · rintro rfl
            exact ⟨bytes, rfl, isText⟩
          · rintro ⟨_, isBytes, isTextToo⟩
            cases isBytes
            exact Option.some.inj (isText.symm.trans isTextToo)

/-- The content can be read and is the text of an allow-list. -/
def HoldsAllowList (content : Option ByteArray) (allow : AllowList) : Prop :=
  ∃ text, HoldsText content text ∧ AllowList.ofText? text = some allow

/-- What the library answers to a text under the call of a command. -/
def Command.answer (read : DoubleReader) (command : Command) (allow : AllowList) (text : String) :
    Except Failure BoundSql :=
  match command with
  | render => (renderRequestText read allow text).value
  | filter => (renderFilterText read allow text).value

/-- Both contents can be used, and the library renders the input under the allow-list. -/
def Renders (read : DoubleReader) (command : Command) (config input : Option ByteArray)
    (bound : BoundSql) : Prop :=
  ∃ allow text, HoldsAllowList config allow ∧ HoldsText input text ∧
    command.answer read allow text = .ok bound

/-- The first thing that is wrong with the contents of a run, as the run reports it. -/
inductive FirstProblem (read : DoubleReader) (invocation : Invocation)
    (config input : Option ByteArray) : String → Prop where
  | allowList (unloadable : ¬∃ allow, HoldsAllowList config allow) :
      FirstProblem read invocation config input
        ("Error: failed to load allow-list " ++ invocation.config)
  | input {allow : AllowList} (loaded : HoldsAllowList config allow)
      (unreadable : ¬∃ text, HoldsText input text) :
      FirstProblem read invocation config input
        ("Error: failed to read " ++ invocation.file.getD "stdin")
  | form {allow : AllowList} {text : String} (loaded : HoldsAllowList config allow)
      (holds : HoldsText input text) (malformed : Json.ofText? read text = none) :
      FirstProblem read invocation config input "Error: input is not valid JSON"
  | rejection {allow : AllowList} {text : String} {cause : Rejection}
      (loaded : HoldsAllowList config allow) (holds : HoldsText input text)
      (rejected : invocation.command.answer read allow text = .error (.rejected cause)) :
      FirstProblem read invocation config input cause.message

section Contents

variable {read : DoubleReader} {command : Command} {config input : Option ByteArray}

theorem HoldsText.unique {content : Option ByteArray} {first second : String}
    (holds : HoldsText content first) (holdsToo : HoldsText content second) : first = second := by
  rw [← fileText_eq_ok_iff] at holds holdsToo
  exact Except.ok.inj (holds.symm.trans holdsToo)

theorem HoldsAllowList.unique {content : Option ByteArray} {first second : AllowList}
    (holds : HoldsAllowList content first) (holdsToo : HoldsAllowList content second) :
    first = second := by
  obtain ⟨_, holdsText, isAllow⟩ := holds
  obtain ⟨_, holdsTextToo, isAllowToo⟩ := holdsToo
  cases holdsText.unique holdsTextToo
  exact Option.some.inj (isAllow.symm.trans isAllowToo)

theorem Renders.unique {first second : BoundSql}
    (renders : Renders read command config input first)
    (rendersToo : Renders read command config input second) : first = second := by
  obtain ⟨_, _, loaded, holds, answered⟩ := renders
  obtain ⟨_, _, loadedToo, holdsToo, answeredToo⟩ := rendersToo
  cases loaded.unique loadedToo
  cases holds.unique holdsToo
  exact Except.ok.inj (answered.symm.trans answeredToo)

theorem Command.answer_of_none (command : Command) (allow : AllowList) {text : String}
    (malformed : Json.ofText? read text = none) :
    command.answer read allow text = .error .malformed := by
  cases command <;>
    simp only [answer, renderRequestText, renderFilterText, renderText, malformed, Logged.silent]

theorem Command.answer_of_some (command : Command) (allow : AllowList) {text : String}
    {value : Json} (isValue : Json.ofText? read text = some value) :
    command.answer read allow text =
      (Invocation.renderValue command allow value).value.mapError .rejected := by
  cases command <;>
    simp only [answer, renderRequestText, renderFilterText, renderText, isValue, Logged.map,
      Invocation.renderValue]

theorem FirstProblem.not_renders {invocation : Invocation} {problem : String} {bound : BoundSql}
    (first : FirstProblem read invocation config input problem) :
    ¬Renders read invocation.command config input bound := by
  rintro ⟨_, _, loaded, holds, answered⟩
  cases first with
  | allowList unloadable => exact unloadable ⟨_, loaded⟩
  | input _ unreadable => exact unreadable ⟨_, holds⟩
  | form loadedToo holdsToo malformed =>
      cases loaded.unique loadedToo
      cases holds.unique holdsToo
      cases answered.symm.trans (invocation.command.answer_of_none _ malformed)
  | rejection loadedToo holdsToo rejected =>
      cases loaded.unique loadedToo
      cases holds.unique holdsToo
      cases answered.symm.trans rejected

end Contents

/-- The run has printed the SQL and the number of its parameters. -/
structure Outcome.Prints (outcome : Outcome) (bound : BoundSql) : Prop where
  code : outcome.code = 0
  output : outcome.output = bound.toSortedJson.pretty ++ "\n"
  report : outcome.errorLines.getLast? =
    some (" INFO rendered params=" ++ toString bound.params.length)

/-- The run has printed nothing and reported the problem. -/
structure Outcome.Fails (outcome : Outcome) (problem : String) : Prop where
  code : outcome.code = 1
  output : outcome.output = ""
  report : outcome.errorLines.getLast? = some problem

theorem Outcome.fails_failed (reports : List String) (problem : String) :
    (failed reports problem).Fails ("Error: " ++ problem) where
  code := rfl
  output := rfl
  report := List.getLast?_concat ..

namespace Loaded

variable {loaded : Loaded} {value : Json}

theorem prints_conclude {bound : BoundSql}
    (rendered : (Invocation.renderValue loaded.invocation.command loaded.allow value).value =
      .ok bound) : (loaded.conclude value).Prints bound := by
  simp only [conclude, rendered]
  refine ⟨rfl, rfl, ?_⟩
  rw [Outcome.errorLines, Option.toList_none, List.append_nil]
  exact List.getLast?_concat ..

theorem fails_conclude {cause : Rejection}
    (rejected : (Invocation.renderValue loaded.invocation.command loaded.allow value).value =
      .error cause) : (loaded.conclude value).Fails cause.message := by
  simp only [conclude, rejected]
  refine ⟨rfl, rfl, ?_⟩
  rw [Outcome.errorLines, Option.toList_none, List.append_nil]
  exact List.getLast?_concat ..

end Loaded

theorem ofFile?_eq_ok_iff {config : Option ByteArray} {allow : AllowList} :
    AllowList.ofFile? (fileText config) = .ok allow ↔ HoldsAllowList config allow := by
  constructor
  · intro loaded
    unfold AllowList.ofFile? at loaded
    split at loaded
    · cases loaded
    · rename_i text isText
      split at loaded
      · cases loaded
      · rename_i isAllow
        cases loaded
        exact ⟨text, fileText_eq_ok_iff.mp isText, isAllow⟩
  · rintro ⟨text, holds, isAllow⟩
    unfold AllowList.ofFile?
    simp only [fileText_eq_ok_iff.mpr holds, isAllow]

namespace Invocation

variable {read : DoubleReader} {config input : Option ByteArray}

/-- A run prints what is rendered from the contents, or reports the first problem with them. -/
theorem run_ends (read : DoubleReader) (invocation : Invocation)
    (config input : Option ByteArray) :
    (∃ bound, Renders read invocation.command config input bound ∧
      (invocation.run read (fileText config) (fileText input)).Prints bound) ∨
    (∃ problem, FirstProblem read invocation config input problem ∧
      (invocation.run read (fileText config) (fileText input)).Fails problem) := by
  unfold run load
  cases isLoaded : AllowList.ofFile? (fileText config) with
  | error failure =>
      refine .inr ⟨_, .allowList ?_, Outcome.fails_failed [] _⟩
      rintro ⟨allow, holds⟩
      cases isLoaded.symm.trans (ofFile?_eq_ok_iff.mpr holds)
  | ok allow =>
      have loaded := ofFile?_eq_ok_iff.mp isLoaded
      dsimp only [Loaded.finish]
      cases isRead : fileText input with
      | error failure =>
          refine .inr ⟨_, .input loaded ?_, Outcome.fails_failed _ _⟩
          rintro ⟨text, holds⟩
          cases isRead.symm.trans (fileText_eq_ok_iff.mpr holds)
      | ok text =>
          have holds := fileText_eq_ok_iff.mp isRead
          dsimp only
          cases isValue : Json.ofText? read text with
          | none => exact .inr ⟨_, .form loaded holds isValue, Outcome.fails_failed _ _⟩
          | some value =>
              dsimp only
              have answered := invocation.command.answer_of_some allow isValue
              cases isResult : (renderValue invocation.command allow value).value with
              | ok bound =>
                  rw [isResult] at answered
                  exact .inl ⟨bound, ⟨allow, text, loaded, holds, answered⟩,
                    Loaded.prints_conclude isResult⟩
              | error cause =>
                  rw [isResult] at answered
                  exact .inr ⟨_, .rejection loaded holds answered,
                    Loaded.fails_conclude isResult⟩

theorem prints_run {invocation : Invocation} {bound : BoundSql}
    (renders : Renders read invocation.command config input bound) :
    (invocation.run read (fileText config) (fileText input)).Prints bound := by
  rcases run_ends read invocation config input with ⟨_, rendersToo, prints⟩ | ⟨_, first, _⟩
  · exact renders.unique rendersToo ▸ prints
  · exact absurd renders first.not_renders

theorem run_code_eq_zero_iff {invocation : Invocation} :
    (invocation.run read (fileText config) (fileText input)).code = 0 ↔
      ∃ bound, Renders read invocation.command config input bound := by
  constructor
  · intro succeeds
    rcases run_ends read invocation config input with ⟨bound, renders, _⟩ | ⟨_, _, fails⟩
    · exact ⟨bound, renders⟩
    · cases fails.code.symm.trans succeeds
  · rintro ⟨_, renders⟩
    exact (prints_run renders).code

theorem fails_run {invocation : Invocation}
    (unsuccessful : (invocation.run read (fileText config) (fileText input)).code ≠ 0) :
    ∃ problem, FirstProblem read invocation config input problem ∧
      (invocation.run read (fileText config) (fileText input)).Fails problem := by
  rcases run_ends read invocation config input with ⟨_, _, prints⟩ | failure
  · exact absurd prints.code unsuccessful
  · exact failure

/-- Runs of one command with the same contents end with the same code and the same output. -/
theorem run_congr {first second : Invocation} (sameCommand : first.command = second.command) :
    (first.run read (fileText config) (fileText input)).code =
        (second.run read (fileText config) (fileText input)).code ∧
      (first.run read (fileText config) (fileText input)).output =
        (second.run read (fileText config) (fileText input)).output := by
  rcases run_ends read first config input with ⟨_, renders, prints⟩ | ⟨_, problem, fails⟩
  · have printsToo := prints_run (sameCommand ▸ renders)
    exact ⟨prints.code.trans printsToo.code.symm, prints.output.trans printsToo.output.symm⟩
  · rcases run_ends read second config input with ⟨_, renders, _⟩ | ⟨_, _, failsToo⟩
    · exact absurd (sameCommand ▸ renders) problem.not_renders
    · exact ⟨fails.code.trans failsToo.code.symm, fails.output.trans failsToo.output.symm⟩

/-! ### The program -/

/-- With sources that are at hand, a run reads the contents of its files. -/
theorem perform_eq_run (sources : Sources Id) (invocation : Invocation) :
    (invocation.perform read sources).run =
      invocation.run read (fileText (sources.file invocation.config).run)
        (fileText (sources.input invocation).run) := by
  simp only [perform, Id.run_bind, run]
  cases invocation.load (fileText (sources.file invocation.config).run) <;> rfl

/-- What the program ends with when it is called with the arguments of the run. -/
def ended (read : DoubleReader) (invocation : Invocation) (environment : Option String)
    (sources : Sources Id) : Outcome :=
  (performArguments read sources environment invocation.arguments).run

theorem Named.ended_eq {invocation : Invocation} (named : invocation.Named)
    (environment : Option String) (sources : Sources Id) :
    invocation.ended read environment sources =
      invocation.run read (fileText (sources.file invocation.config).run)
        (fileText (sources.input invocation).run) := by
  rw [ended, performArguments, named.ofArguments_arguments, Demand.perform, perform_eq_run]

end Invocation

/-- The two runs end with the same code and the same output. -/
def Outcome.Agrees (first second : Outcome) : Prop :=
  first.code = second.code ∧ first.output = second.output

namespace Invocation

variable {read : DoubleReader} {invocation : Invocation}

/-- A file counts like standard input with the same content. -/
theorem Named.ended_file_agrees (named : invocation.Named) (environment : Option String)
    {sources : Sources Id} {path : String} (isPath : Demand.IsPath path)
    (sameContent : sources.file path = sources.standardInput) :
    ({ invocation with file := some path }.ended read environment sources).Agrees
      ({ invocation with file := none }.ended read environment sources) := by
  have namedFile : Named { invocation with file := some path } :=
    ⟨named.config, fun _ isFile => Option.some.inj isFile ▸ isPath⟩
  have namedNone : Named { invocation with file := none } := ⟨named.config, nofun⟩
  have sameInput : sources.input { invocation with file := some path } =
      sources.input { invocation with file := none } := sameContent
  rw [namedFile.ended_eq, namedNone.ended_eq, sameInput]
  exact run_congr rfl

/-- Beside a file standard input does not count. -/
theorem Named.ended_standardInput (named : invocation.Named) (environment : Option String)
    (sources : Sources Id) {path : String} (isFile : invocation.file = some path)
    (standardInput : Id (Option ByteArray)) :
    invocation.ended read environment { sources with standardInput } =
      invocation.ended read environment sources := by
  have sameInput : Sources.input { sources with standardInput } invocation =
      sources.input invocation := by
    simp only [Sources.input, isFile]
  rw [named.ended_eq, named.ended_eq, sameInput]

theorem Named.ended_verbose_agrees (named : invocation.Named) (environment : Option String)
    (sources : Sources Id) (verbose : Bool) :
    ({ invocation with verbose }.ended read environment sources).Agrees
      (invocation.ended read environment sources) := by
  have namedToo : Named { invocation with verbose } := ⟨named.config, named.file⟩
  rw [namedToo.ended_eq, named.ended_eq]
  exact run_congr rfl

/-- The program ends with code zero exactly if the library renders the contents, and then it prints
what is rendered; otherwise it reports the first problem. A file counts like standard input with the
same content, beside a file standard input does not count, and neither does verbose output. -/
theorem ended_agrees (read : DoubleReader) (named : invocation.Named)
    (environment : Option String) (sources : Sources Id) :
    let config := (sources.file invocation.config).run
    let input := (sources.input invocation).run
    let outcome := invocation.ended read environment sources
    (outcome.code = 0 ↔ ∃ bound, Renders read invocation.command config input bound) ∧
      (∀ bound, Renders read invocation.command config input bound → outcome.Prints bound) ∧
      (outcome.code ≠ 0 →
        ∃ problem, FirstProblem read invocation config input problem ∧ outcome.Fails problem) ∧
      (∀ path, Demand.IsPath path → sources.file path = sources.standardInput →
        ({ invocation with file := some path }.ended read environment sources).Agrees
          ({ invocation with file := none }.ended read environment sources)) ∧
      (∀ path standardInput, invocation.file = some path →
        invocation.ended read environment { sources with standardInput } = outcome) ∧
      ∀ verbose, ({ invocation with verbose }.ended read environment sources).Agrees outcome := by
  intro config input outcome
  have isRun : outcome = invocation.run read (fileText config) (fileText input) :=
    named.ended_eq environment sources
  refine ⟨?_, ?_, ?_, fun _ => named.ended_file_agrees environment,
    fun _ standardInput isFile =>
      named.ended_standardInput environment sources isFile standardInput,
    named.ended_verbose_agrees environment sources⟩
  · rw [isRun]
    exact run_code_eq_zero_iff
  · rw [isRun]
    exact fun _ => prints_run
  · rw [isRun]
    exact fails_run

end Invocation

namespace IdFilter

def configText : String :=
  "\x7b\"columns\": \x7b\"id\": \"integer\"\x7d\x7d"

def inputText : String :=
  "\x7b\"id\": \x7b\"=\": 7\x7d\x7d"

/-- Every file is an allow-list of one column, and standard input is a filter on this column. -/
def sources : Sources Id where
  file _ := some configText.toUTF8
  standardInput := some inputText.toUTF8

def invocation : Invocation where
  config := "config.json"
  verbose := true
  command := .filter
  file := none

/-- The filter is rendered and printed, and quietly just as well. -/
theorem ended_idFilter :
    invocation.Named ∧
      (invocation.ended .stepwise none sources).output =
        "\x7b\n  \"params\": [\n    7\n  ],\n  \"sql\": \"id = ?\"\n\x7d\n" ∧
      (∃ bound, Renders .stepwise .filter (some configText.toUTF8) (some inputText.toUTF8) bound ∧
        (invocation.ended .stepwise none sources).Prints bound) ∧
      ({ invocation with verbose := false }.ended .stepwise none sources).Agrees
        (invocation.ended .stepwise none sources) := by
  have named : invocation.Named := ⟨⟨by decide +kernel, by decide⟩, nofun⟩
  have succeeds : (invocation.ended .stepwise none sources).code = 0 := by decide +kernel
  obtain ⟨isZero, prints, _, _, _, verbose⟩ := Invocation.ended_agrees .stepwise named none sources
  obtain ⟨bound, renders⟩ := isZero.mp succeeds
  exact ⟨named, by decide +kernel, ⟨bound, renders, prints bound renders⟩, verbose false⟩

end IdFilter

end GuardedSql
