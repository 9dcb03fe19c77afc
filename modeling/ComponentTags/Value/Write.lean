/-
# Writing values

How a value is shown in the output of a template, and how it is written inside another value: texts
are shown as they are and written in quotes.
-/
import ComponentTags.Value.Failure

namespace ComponentTags.Value

/-- How a byte is written between quotes of the kind `quote`. -/
def writtenByte (quote : Char) (byte : UInt8) : Text :=
  let c := Char.ofNat byte.toNat
  if c == quote || c == '\\' then ['\\', c]
  else if c == '\t' then ['\\', 't']
  else if c == '\n' then ['\\', 'n']
  else if c == '\r' then ['\\', 'r']
  else if 32 ≤ byte.toNat && byte.toNat < 127 then [c]
  else '\\' :: 'x' :: Text.hex 2 byte.toNat

/-- A sequence of bytes in quotes. -/
def writtenBytes (data : List UInt8) : Text :=
  let quote := Text.quoteFor (data.map fun byte => Char.ofNat byte.toNat)
  'b' :: quote :: data.flatMap (writtenByte quote) ++ [quote]

/-- A callable value. -/
def writtenCallable : Callable → Text
  | .macroCall _ name => "<Macro " ++ Text.quoted name ++ ">"
  | .counting => "<class 'range'>"
  | _ => "<function>"

/-- A range. -/
def writtenRange (start stop step : Int) : Text :=
  "range(" ++ Text.ofInt start ++ ", " ++ Text.ofInt stop ++
    (if step = 1 then [] else ',' :: ' ' :: Text.ofInt step) ++ ")"

mutual

/-- A value as it is written inside another value. -/
def written : Value → Text
  | none => "None"
  | bool b => if b then "True" else "False"
  | int n => Text.ofInt n
  | real x => Decimal.ofFloat x
  | complex t => t
  | text t => Text.quoted t
  | markup t => "Markup(" ++ Text.quoted t ++ ")"
  | bytes data => writtenBytes data
  | list items => "[" ++ Text.join ", " (writtenItems items) ++ "]"
  | tuple [item] => "(" ++ written item ++ ",)"
  | tuple items => "(" ++ Text.join ", " (writtenItems items) ++ ")"
  | set [] => "set()"
  | set items => "\x7b" ++ Text.join ", " (writtenItems items) ++ "\x7d"
  | frozenset [] => "frozenset()"
  | frozenset items => "frozenset(\x7b" ++ Text.join ", " (writtenItems items) ++ "\x7d)"
  | dict es => "\x7b" ++ Text.join ", " (writtenEntries ": " es) ++ "\x7d"
  | undefined .. => "Undefined"
  | component home type listed members _ =>
    match listed with
    | some names => type ++ "(" ++ Text.join ", " (writtenMembers names members) ++ ")"
    | .none => "<" ++ home ++ "." ++ type ++ " object>"
  | context dot root locals =>
    "BlockContext(dot=" ++ written dot ++ ", root=" ++ written root ++ ", locals=\x7b" ++
      Text.join ", " (writtenLocals locals) ++ "\x7d)"
  | callable c => writtenCallable c
  | method _ name => "<method " ++ name ++ ">"
  | loop place items =>
    "<LoopContext " ++ Text.ofNat (place + 1) ++ "/" ++ Text.ofNat items.length ++ ">"
  | range start stop step => writtenRange start stop step
  | entries es => "dict_items([" ++ Text.join ", " (writtenPairs es) ++ "])"
  | other type => "<" ++ type ++ " object>"

/-- The items of a sequence. -/
def writtenItems : List Value → List Text
  | [] => []
  | v :: rest => written v :: writtenItems rest

/-- The entries of a dictionary, with `sign` between key and value. -/
def writtenEntries (sign : Text) : List (Value × Value) → List Text
  | [] => []
  | (k, v) :: rest => (written k ++ sign ++ written v) :: writtenEntries sign rest

/-- The entries of a dictionary as tuples. -/
def writtenPairs : List (Value × Value) → List Text
  | [] => []
  | (k, v) :: rest => ("(" ++ written k ++ ", " ++ written v ++ ")") :: writtenPairs rest

/-- Captured variables. -/
def writtenLocals : List (Text × Value) → List Text
  | [] => []
  | (k, v) :: rest => (Text.quoted k ++ ": " ++ written v) :: writtenLocals rest

/-- The fields of a component that are listed. -/
def writtenMembers (names : List Text) : List (Text × Value) → List Text
  | [] => []
  | (k, v) :: rest =>
    if names.contains k then (k ++ "=" ++ written v) :: writtenMembers names rest
    else writtenMembers names rest

end

/-- A value as it is shown. -/
def shown (v : Value) : Text :=
  match v with
  | text t | markup t => t
  | undefined .. => []
  | v => v.written

/-- A value as it is shown, unless it is a missing value that must not be. -/
def display (v : Value) : Except Failure Text :=
  match v with
  | undefined true reason => .error (.undefinedUse reason)
  | v => .ok v.shown

/-! ## Markup -/

/-- How a character is written in markup. -/
def escapedChar (c : Char) : Text :=
  match c with
  | '&' => "&amp;"
  | '<' => "&lt;"
  | '>' => "&gt;"
  | '"' => "&#34;"
  | '\'' => "&#39;"
  | c => [c]

/-- A text as markup that shows it. -/
def escapedText (t : Text) : Text := t.flatMap escapedChar

/-- Whether a value is markup. -/
def isMarkup : Value → Bool
  | markup _ => true
  | _ => false

/-- A value as markup: markup itself, or else what it is shown as, escaped. -/
def escaped (v : Value) : Except Failure Text :=
  match v with
  | markup t => .ok t
  | v => v.display.map escapedText

end ComponentTags.Value
