/-
# Writing lowered templates

The text of a lowered template in the template language.  A call is an expression that calls a
function, a block is a macro with the context as its only parameter.
-/
import ComponentTags.Lowered.Basic

namespace ComponentTags

/-- A text as a string literal of the template language: quotes and backslashes have a backslash in
front. -/
def stringLiteral (text : Text) : Text :=
  '"' :: text.flatMap (fun c => if c == '\\' || c == '"' then ['\\', c] else [c]) ++ ['"']

namespace ValuePart

/-- A part of a value as an expression. -/
def write : ValuePart → Text
  | literal text => stringLiteral text
  | expression text => '(' :: text ++ [')']

end ValuePart

/-- The parts of a value as one expression. -/
def writeValue (parts : List ValuePart) : Text := Text.join " ~ " (parts.map ValuePart.write)

/-- Entries as a dictionary of the template language, given the texts of their values. -/
def writeDictionary (entries : List (Text × Text)) : Text :=
  "\x7b" ++ Text.join ", " (entries.map fun (key, value) => stringLiteral key ++ ": " ++ value) ++
    "\x7d"

/-- The values of attributes as a dictionary. -/
def writeAttributes (attributes : Table Text (List ValuePart)) : Text :=
  writeDictionary (attributes.map fun (key, parts) => (key, writeValue parts))

/-- The captured variables as a dictionary of their values. -/
def writeCapture (names : List Text) : Text := writeDictionary (names.map fun name => (name, name))

/-- The function that makes the context of a content. -/
def scopeFunction : Text := "glam__scope"

/-- The function that renders a component. -/
def renderFunction : Text := "glam__render"

namespace Carrier

/-- A carrier as an expression.  The context of a block is passed on as it is when nothing is
captured. -/
def write : Carrier → Text
  | absent => "none"
  | fresh captured =>
    scopeFunction ++ "(" ++ thisName ++ ", " ++ rootName ++ ", " ++ writeCapture captured ++ ")"
  | extended [] => contextName
  | extended captured => contextName ++ ".extend(" ++ writeCapture captured ++ ")"

end Carrier

/-- A call as an expression span. -/
def Call.write (d : Delimiters) (c : Call) : Text :=
  d.expressionStart ++ " " ++ renderFunction ++ "(" ++
    Text.join ", " [stringLiteral c.tag, stringLiteral c.block, writeAttributes c.attributes,
      c.carrier.write] ++
    ") " ++ d.expressionEnd

/-- An item as text. -/
def Item.write (d : Delimiters) : Item → Text
  | text content => content
  | call c => c.write d

/-- Items one after the other. -/
def writeItems (d : Delimiters) (items : List Item) : Text := items.flatMap (Item.write d)

/-- A statement span. -/
def writeStatement (d : Delimiters) (body : Text) : Text :=
  d.statementStart ++ " " ++ body ++ " " ++ d.statementEnd

/-- A block as the definition of a macro. -/
def Block.write (d : Delimiters) (b : Block) : Text :=
  writeStatement d ("macro " ++ b.name ++ "(" ++ contextName ++ ")") ++ writeItems d b.body ++
    writeStatement d "endmacro"

/-- A lowered template: the blocks, then the body. -/
def Lowered.write (d : Delimiters) (l : Lowered) : Text :=
  l.blocks.flatMap (Block.write d) ++ writeItems d l.body

end ComponentTags
