/-
# Arguments of the command line

An argument that begins with a minus sign is an option, perhaps with a value: `-cCard`, `-c Card`,
`--component=Card` and `--component Card` mean the same.  All arguments behind `--` are taken as they
stand.
-/
import ComponentTags.Text.Quoted

namespace ComponentTags.CommandLine

/-- What is wrong with a command line. -/
inductive UsageError where
  /-- There is no such option. -/
  | noSuchOption (name : Text)
  /-- An option has no value. -/
  | missingValue (name : Text)
  /-- An option has a value but takes none. -/
  | unwantedValue (name : Text)
  /-- There is no such command. -/
  | noSuchCommand (name : Text)
  /-- No command is given. -/
  | missingCommand
  /-- No template is given. -/
  | missingTemplate
  /-- The file of the template does not exist. -/
  | noSuchFile (path : Text)
  /-- More arguments are given than are taken. -/
  | extraArguments (arguments : List Text)
deriving DecidableEq, Repr

/-- The message of an error. -/
def UsageError.message : UsageError → Text
  | noSuchOption name => "No such option: " ++ name
  | missingValue name => "Option " ++ Text.quoted name ++ " requires an argument."
  | unwantedValue name => "Option " ++ Text.quoted name ++ " does not take a value."
  | noSuchCommand name => "No such command " ++ Text.quoted name ++ "."
  | missingCommand => "Missing command."
  | missingTemplate => "Missing argument 'TEMPLATE'."
  | noSuchFile path =>
    "Invalid value for 'TEMPLATE': File " ++ Text.quoted path ++ " does not exist."
  | extraArguments [a] => "Got unexpected extra argument (" ++ a ++ ")"
  | extraArguments as => "Got unexpected extra arguments (" ++ Text.join " " as ++ ")"

/-- An option. -/
structure OptionForm where
  /-- The name behind two minus signs. -/
  long : Text
  /-- The letter behind one minus sign. -/
  short : Option Char := none
  /-- Whether the option takes a value. -/
  takesValue : Bool := false

/-- What a command line gives: options with their values, an empty one for those that take none, and
the other arguments. -/
structure Given where
  /-- The options by their long names. -/
  options : List (Text × Text) := []
  /-- The other arguments. -/
  arguments : List Text := []
deriving DecidableEq, Repr

/-- Adds options in front. -/
def Given.withOptions (g : Given) (options : List (Text × Text)) : Given :=
  { g with options := options ++ g.options }

/-- The values of an option. -/
def Given.valuesOf (g : Given) (name : Text) : List Text :=
  (g.options.filter fun o => o.1 = name).map Prod.snd

/-- Reads the letters behind a minus sign: options without values, and perhaps an option whose value is
the rest of the letters or, if there are none, the next argument. -/
def readLetters (forms : List OptionForm) :
    Text → Except UsageError (List (Text × Text) × Option OptionForm)
  | [] => .ok ([], none)
  | c :: rest =>
    match forms.find? fun f => f.short = some c with
    | none => .error (.noSuchOption ['-', c])
    | some f =>
      if f.takesValue then
        if rest.isEmpty then .ok ([], some f) else .ok ([(f.long, rest)], none)
      else (readLetters forms rest).map fun (options, last) => ((f.long, []) :: options, last)

/-- What an argument is. -/
inductive Form where
  /-- The sign that no options follow. -/
  | stop
  /-- An argument without a minus sign. -/
  | plain
  /-- Options that are complete. -/
  | complete (options : List (Text × Text))
  /-- Options of which the last one has its value in the next argument. -/
  | pending (options : List (Text × Text)) (last : Text) (name : Text)

/-- Reads one argument. -/
def readForm (forms : List OptionForm) (argument : Text) : Except UsageError Form :=
  match argument with
  | ['-', '-'] => .ok .stop
  | '-' :: c :: rest =>
    let name := argument.takeWhile (· != '=')
    let value := argument.drop (name.length + 1)
    let hasValue := name.length < argument.length
    match forms.find? fun f => '-' :: '-' :: f.long = name with
    | some f =>
      if f.takesValue then
        if hasValue then .ok (.complete [(f.long, value)]) else .ok (.pending [] f.long name)
      else if hasValue then .error (.unwantedValue name)
      else .ok (.complete [(f.long, [])])
    | none =>
      if c == '-' then .error (.noSuchOption name)
      else
        match readLetters forms (c :: rest) with
        | .error e => .error e
        | .ok (options, none) => .ok (.complete options)
        | .ok (options, some f) => .ok (.pending options f.long ('-' :: f.short.toList))
  | _ => .ok .plain

/-- Reads arguments.  Options are read up to the first other argument, or everywhere if they may stand
anywhere. -/
def readArguments (forms : List OptionForm) (anywhere : Bool) :
    List Text → Except UsageError Given
  | [] => .ok {}
  | argument :: rest =>
    match readForm forms argument with
    | .error e => .error e
    | .ok .stop => .ok { arguments := rest }
    | .ok .plain =>
      if anywhere then
        (readArguments forms anywhere rest).map fun g =>
          { g with arguments := argument :: g.arguments }
      else .ok { arguments := argument :: rest }
    | .ok (.complete options) => (readArguments forms anywhere rest).map (·.withOptions options)
    | .ok (.pending options last name) =>
      match rest with
      | [] => .error (.missingValue name)
      | value :: more =>
        (readArguments forms anywhere more).map (·.withOptions (options ++ [(last, value)]))

end ComponentTags.CommandLine
