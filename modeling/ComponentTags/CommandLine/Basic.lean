/-
# Commands

The command `parse` shows the nodes of a template, as a tree with a summary or as a plain listing; the
command `lower` shows its lowered text.  Both read one template and are told the names of the known
components.
-/
import ComponentTags.CommandLine.Arguments
import ComponentTags.CommandLine.Tree
import ComponentTags.Compile
import ComponentTags.Text.Lines

namespace ComponentTags.CommandLine

/-- The commands. -/
inductive Command where
  /-- Shows the nodes of a template. -/
  | parse
  /-- Shows the lowered text of a template. -/
  | lower
deriving DecidableEq, Repr

/-- A command with what it is given. -/
structure Invocation where
  /-- The command. -/
  command : Command
  /-- The options and arguments. -/
  given : Given
deriving DecidableEq, Repr

/-- Why a command fails. -/
inductive Trouble where
  /-- The command line is not as it should be. -/
  | usage (e : UsageError)
  /-- The template cannot be compiled. -/
  | template (e : ParseError)
deriving DecidableEq, Repr

/-- The message of a failure. -/
def Trouble.message : Trouble → Text
  | usage e => e.message
  | template e => e.message

/-- The options in front of the command. -/
def generalOptions : List OptionForm := [{ long := "verbose", short := some 'v' }]

/-- The options of both commands. -/
def commandOptions : List OptionForm :=
  [{ long := "component", short := some 'c', takesValue := true },
    { long := "name", short := some 'n', takesValue := true },
    { long := "plain" }]

/-- The command of a name. -/
def command? (name : Text) : Option Command :=
  if name = "parse" then some .parse else if name = "lower" then some .lower else none

namespace Invocation

/-- Reads a command line. -/
def read (arguments : List Text) : Except UsageError Invocation := do
  let general ← readArguments generalOptions false arguments
  match general.arguments with
  | [] => throw .missingCommand
  | name :: rest =>
    match command? name with
    | none => throw (.noSuchCommand name)
    | some command => return ⟨command, ← readArguments commandOptions true rest⟩

/-- The path of the template. -/
def path? (i : Invocation) : Option Text := i.given.arguments.head?

/-- The names of the components that are given. -/
def components (i : Invocation) : List Text := i.given.valuesOf "component"

/-- The name of the template itself, if it is given and not empty. -/
def name? (i : Invocation) : Option Text :=
  match (i.given.valuesOf "name").getLast? with
  | none | some [] => none
  | some name => some name

/-- Whether the output is to be plain. -/
def isPlain (i : Invocation) : Bool := !(i.given.valuesOf "plain").isEmpty

end Invocation

/-- The last part of a path. -/
def fileName (path : Text) : Text := (path.reverse.takeWhile (· != '/')).reverse

/-- Names in order with commas between them, or a minus sign if there are none. -/
def listed (names : List Text) : Text :=
  match Text.sort names.eraseDups with
  | [] => "-"
  | names => Text.join ", " names

/-- The nodes of a template as a tree, with the components that it uses and those that it may use
later. -/
def summary (file : Text) (c : Compiled) : List Text :=
  file :: forestLines [] c.nodes ++
    ["components: " ++ listed ((Node.walk c.nodes).filterMap Node.tag?),
      "deferred: " ++ listed c.deferred]

/-- The characters that a display does not show. -/
def isHidden (c : Char) : Bool := [7, 8, 11, 12, 13].contains c.toNat

/-- A text as a display shows it. -/
def displayed (text : Text) : Text := (Text.expandTabs 4 text).filter fun c => !isHidden c

/-- Lines as they are printed, each with a line feed. -/
def printed (lines : List Text) : Text := lines.flatMap (· ++ ['\n'])

/-- What a command prints for a compiled template. -/
def output (i : Invocation) (file : Text) (c : Compiled) : Text :=
  match i.command, i.isPlain with
  | .parse, true => printed [Node.pretty 0 c.nodes]
  | .parse, false => printed (summary file c)
  | .lower, true => printed [c.lowered.write .standard]
  | .lower, false => printed [displayed (c.lowered.write .standard)]

/-- Runs a command, given the content of the template's file if there is such a file. -/
def run (i : Invocation) (content : Option Text) : Except Trouble Text :=
  match i.given.arguments, content with
  | [], _ => .error (.usage .missingTemplate)
  | path :: _, none => .error (.usage (.noSuchFile path))
  | _ :: extra :: more, some _ => .error (.usage (.extraArguments (extra :: more)))
  | [path], some content =>
    let file := fileName path
    match compile usualLevels (Text.unified content) (i.components ++ i.name?.toList) .standard
        (some (i.name?.getD file)) with
    | .error e => .error (.template e)
    | .ok c => .ok (output i file c)

end ComponentTags.CommandLine
