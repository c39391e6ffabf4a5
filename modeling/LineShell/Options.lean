import LineShell.ReadLoop

/-!
# The command line

The options of the program, its usage text, and what the program does with them: run one line, or
read lines from standard input. How options are read and how the usage text is laid out is what a program
of this kind takes from a library; it is here so that the program can be run as a whole, and no statement
of the theory is about it.
-/

namespace LineShell

/-- The options of the program. -/
structure Options where
  /-- The one line to run. -/
  command : Option String := none
  /-- The file that keeps the history. -/
  history : Option String := none
deriving DecidableEq, Repr

namespace Options

/-- The name of the program in its messages. -/
def programName : String := "tidesh"

/-- An option that takes a value. -/
structure Spec where
  short : Option Char
  long : String
  description : String
deriving DecidableEq, Repr

/-- The option that gives a line to run. -/
def commandSpec : Spec where
  short := some 'c'
  long := "command"
  description := "run a single command line and exit instead of prompting."

/-- The option that names the history file. -/
def historySpec : Spec where
  short := none
  long := "history"
  description := "file to load line-editing history from and save it to on exit."

/-- The options in the order in which they are listed. -/
def specs : List Spec := [commandSpec, historySpec]

/-- The words that ask for the usage text. -/
def helpWords : List String := ["--help", "help"]

/-- What the program is for. -/
def summary : String :=
  "A small interactive shell with builtins, PATH lookup and output redirection."

namespace Spec

/-- The long form of an option. -/
def longForm (s : Spec) : String := s!"--{s.long}"

/-- The forms of an option, the short one first. -/
def forms (s : Spec) : List String :=
  match s.short with
  | some c => [s!"-{c}", s.longForm]
  | none => [s.longForm]

/-- An option in the first line of the usage text. -/
def usage (s : Spec) : String :=
  s!"[{s.forms.headD s.longForm} <{s.long}>]"

end Spec

/-- The column where descriptions start. -/
def descriptionColumn : Nat := 20

/-- The column that no line of a description passes, unless one word is too long for it. -/
def lineWidth : Nat := 80

/-- Lines of words with one blank between them, each starting at the description column and none
longer than `lineWidth` if its words allow it. `line` is the line in progress. -/
def wrap (line : String) : List String → List String
  | [] => [line]
  | w :: ws =>
    if line.length + 1 + w.length > lineWidth then
      line :: wrap ("".pushn ' ' descriptionColumn ++ w) ws
    else wrap (line ++ " " ++ w) ws

/-- The lines that describe `forms`. -/
def describe (forms : List String) (description : String) : List String :=
  let head := "  " ++ ", ".intercalate forms
  let head := head.pushn ' ' (descriptionColumn - head.length)
  match description.splitOn " " with
  | [] => [head]
  | w :: ws => wrap (head ++ w) ws

/-- The usage text, without its last newline. -/
def usageText : String :=
  "\n".intercalate <|
    [" ".intercalate (s!"Usage: {programName}" :: specs.map Spec.usage), "", summary, "",
      "Options:"] ++
    specs.flatMap (fun s => describe s.forms s.description) ++
    describe helpWords "display usage information" ++ [""]

/-- Why the options are not taken. -/
inductive Stop where
  /-- The usage text was asked for. -/
  | usage
  /-- An argument is none of the options. -/
  | unrecognized (arg : String)
  /-- An option is the last argument. -/
  | noValue (form : String)
  /-- An option was given twice. -/
  | duplicate (form value : String)
  /-- An option follows a request for the usage text. -/
  | trailing
deriving DecidableEq, Repr

/-- The message of a refusal. -/
def Stop.message : Stop → String
  | .usage => usageText
  | .unrecognized arg => s!"Unrecognized argument: {arg}\n"
  | .noValue form => s!"No value provided for option '{form}'.\n"
  | .duplicate form value =>
    s!"Error parsing option '{form}' with value '{value}': duplicate values provided\n"
  | .trailing => "Trailing arguments are not allowed after \x60help\x60."

/-- Where the reader of the arguments stands. -/
structure Progress where
  options : Options := {}
  /-- The usage text was asked for. -/
  help : Bool := false
  /-- The word that ends the options has been read. -/
  ended : Bool := false

/-- Set one option. -/
def set (o : Options) (s : Spec) (form value : String) : Except Stop Options :=
  if s = commandSpec then
    if o.command.isSome then .error (.duplicate form value)
    else .ok { o with command := some value }
  else
    if o.history.isSome then .error (.duplicate form value)
    else .ok { o with history := some value }

/-- Read arguments from `p` on. -/
def parseFrom (p : Progress) : List String → Except Stop Options
  | [] => if p.help then .error .usage else .ok p.options
  | arg :: rest =>
    if !p.ended && helpWords.contains arg then parseFrom { p with help := true } rest
    else if p.ended || !arg.startsWith "-" then .error (.unrecognized arg)
    else if arg = "--" then parseFrom { p with ended := true } rest
    else if p.help then .error .trailing
    else
      match specs.find? (·.forms.contains arg), rest with
      | none, _ => .error (.unrecognized arg)
      | some _, [] => .error (.noValue arg)
      | some s, value :: rest =>
        match set p.options s arg value with
        | .ok options => parseFrom { p with options := options } rest
        | .error stop => .error stop

/-- The options in the arguments of the program. -/
def parse (args : List String) : Except Stop Options :=
  parseFrom {} args

end Options

/-- The failure of the read loop as it is shown when it ends the program: reasons have numbers where there
are several. -/
def LoopFailure.report (f : LoopFailure) : String :=
  match f.causes with
  | [] => s!"Error: {f.message}"
  | [cause] => s!"Error: {f.message}\n\nCaused by:\n    {cause}"
  | causes => s!"Error: {f.message}\n\nCaused by:" ++
      String.join (causes.zipIdx.map fun c => s!"\n    {c.2}: {c.1}")

/-- The exit code of a program that cannot tell what it was asked for. -/
def abortCode : Nat := 101

/-- Write a text to the stream `s` and end with `code`. -/
def endWith (s : Stream) (text : String) (code : Nat) : Action Nat := do
  match ← Sink.console s text with
  | .ok () => return code
  | .error _ => return abortCode

/-- The program: its arguments, its environment, and the directory it was started in. It asks
for at most `n` lines of input. The result is its exit code. -/
def runProgram (args : List String) (env : Environment) (dir? : Option Path) (n : Nat) :
    Action Nat := do
  match Options.parse args with
  | .error .usage => endWith .stdout Options.usageText 0
  | .error stop =>
    let hint := s!"Run {Options.programName} --help for more information."
    endWith .stderr (stop.message ++ "\n" ++ hint) 1
  | .ok options =>
    let sh := Shell.start env (State.ofProcess dir?)
    match options.command with
    | some line =>
      let _ ← sh.handle line
      return 0
    | none =>
      let history? := options.history.map Path.ofString
      match ← sh.readLoop n history? with
      | (_, .ok ()) => return 0
      | (_, .error failure) =>
        let _ ← Sink.console .stderr failure.report
        return 1

end LineShell
