/-
# Errors

Everything that can go wrong before a template runs, and the errors of rendering that belong to the
library itself.  An error is a cause together with the template it happened in; markup that cannot
be parsed also has an offset, which is shown as a line and a column when the text is known.  The
wording of every message is in this file.
-/
import ComponentTags.Delimiters
import ComponentTags.Text.Position
import ComponentTags.Text.Quoted

namespace ComponentTags

/-! ## Malformed markup -/

/-- What is wrong at a place of a template. -/
inductive Malformed where
  /-- A span was asked for where none begins. -/
  | noSpan
  /-- A span has no closing delimiter. -/
  | unterminatedSpan (kind : SpanKind)
  /-- A raw block has no closing statement. -/
  | unterminatedRawBlock
  /-- An expression begins inside a span where none may begin. -/
  | nestedExpression
  /-- A span has no characters, so that nothing behind it can be reached. -/
  | emptySpan
  /-- The text ends in the name of a tag. -/
  | endInTagName
  /-- The text ends between the attributes of a tag. -/
  | endInTag (tag : Text)
  /-- The text ends in a closing tag. -/
  | endInClosingTag
  /-- The text ends in a markup declaration. -/
  | endInDeclaration
  /-- A markup comment has no end. -/
  | unterminatedMarkupComment
  /-- A component is closed that is not open. -/
  | unexpectedClosing (tag : Text)
  /-- A component is closed while another one is open. -/
  | mismatchedClosing (found expected : Text)
  /-- A component is never closed. -/
  | unclosed (tag : Text)
  /-- A span stands between the attributes of a component. -/
  | spanBetweenAttributes (tag : Text)
  /-- An attribute of a component has no name. -/
  | malformedAttribute (tag : Text)
  /-- An attribute of a component is given twice. -/
  | duplicateAttribute (name tag : Text)
  /-- A value of a component's attribute has no quotes. -/
  | unquotedValue (name tag : Text)
  /-- A quoted value has no closing quote. -/
  | unterminatedValue (name tag : Text)
  /-- A value of a component's attribute has a statement or a comment in it. -/
  | onlyExpressions (name tag : Text)
  /-- More components are open at the same time than may be. -/
  | nestedTooDeeply
  /-- A fault described by its message. -/
  | described (message : Text)
deriving DecidableEq, Repr

/-- The message of a fault, without its place. -/
def Malformed.message : Malformed → Text
  | .noSpan => "expected a template span"
  | .unterminatedSpan kind => "unterminated " ++ kind.word
  | .unterminatedRawBlock => "unterminated raw block"
  | .nestedExpression => "nested expression delimiter"
  | .emptySpan => "template span without characters"
  | .endInTagName => "unexpected end of input in tag name"
  | .endInTag tag => "unexpected end of input in tag <" ++ tag ++ ">"
  | .endInClosingTag => "unexpected end of input in closing tag"
  | .endInDeclaration => "unexpected end of input in markup declaration"
  | .unterminatedMarkupComment => "unterminated comment"
  | .unexpectedClosing tag => "unexpected closing tag </" ++ tag ++ ">"
  | .mismatchedClosing found expected =>
    "mismatched closing tag </" ++ found ++ ">, expected </" ++ expected ++ ">"
  | .unclosed tag => "unclosed component tag <" ++ tag ++ ">"
  | .spanBetweenAttributes tag =>
    "template tags are not allowed between attributes of <" ++ tag ++ ">"
  | .malformedAttribute tag => "malformed attribute in <" ++ tag ++ ">"
  | .duplicateAttribute name tag =>
    "duplicate attribute " ++ Text.quoted name ++ " in <" ++ tag ++ ">"
  | .unquotedValue name tag =>
    "value of attribute " ++ Text.quoted name ++ " in <" ++ tag ++ "> must be quoted"
  | .unterminatedValue name tag =>
    "unterminated value of attribute " ++ Text.quoted name ++ " in <" ++ tag ++ ">"
  | .onlyExpressions name tag =>
    "only expressions are allowed in attribute " ++ Text.quoted name ++ " of <" ++ tag ++ ">"
  | .nestedTooDeeply => "template nested too deeply"
  | .described message => message

/-- A fault at a place of the text that is being scanned. -/
structure Fault where
  /-- The number of characters in front of the place. -/
  offset : Nat
  /-- What is wrong there. -/
  cause : Malformed
deriving DecidableEq, Repr

/-- The same fault in a text that has `count` more characters in front. -/
def Fault.shift (count : Nat) (f : Fault) : Fault := { f with offset := count + f.offset }

/-- The template's name in front of a message.  A template without a name, or with an empty one, is
not mentioned. -/
def atTemplate (template : Option Text) (message : Text) : Text :=
  match template with
  | none | some [] => message
  | some name => name ++ ": " ++ message

/-- Malformed markup in a template. -/
structure ParseError where
  /-- What is wrong. -/
  cause : Malformed
  /-- Where it is wrong. -/
  offset : Int
  /-- The text of the template, if it is known. -/
  source : Option Text := none
  /-- The name of the template, if it has one. -/
  template : Option Text := none
deriving DecidableEq, Repr

namespace ParseError

/-- The line and the column of the error, if the text of the template is known. -/
def position? (e : ParseError) : Option Text.Position := e.source.map (Text.position · e.offset)

/-- The error as it is shown: template, message and place. -/
def message (e : ParseError) : Text :=
  atTemplate e.template e.cause.message ++
    match e.position? with
    | some p => " at line " ++ Text.ofNat p.line ++ ", column " ++ Text.ofNat p.column
    | none => " at offset " ++ Text.ofInt e.offset

/-- The same error in a template of another name. -/
def withTemplate (e : ParseError) (name : Text) : ParseError := { e with template := some name }

/-- The error that a fault means in a text. -/
def ofFault (source : Text) (template : Option Text) (f : Fault) : ParseError :=
  ⟨f.cause, f.offset, some source, template⟩

end ParseError

/-! ## All errors -/

/-- The kinds of errors. -/
inductive ErrorKind where
  /-- An error of no particular kind. -/
  | general
  /-- Malformed markup. -/
  | parse
  /-- A lowered template that the template language rejects. -/
  | compile
  /-- A component that cannot be registered. -/
  | registration
  /-- A component that is not registered. -/
  | notFound
  /-- A template that fails while it runs. -/
  | render
deriving DecidableEq, Repr

/-- The name of a kind of error, as components that recover from errors see it. -/
def ErrorKind.name : ErrorKind → Text
  | .general => "GlamError"
  | .parse => "ParseError"
  | .compile => "CompileError"
  | .registration => "RegistrationError"
  | .notFound => "ComponentNotFoundError"
  | .render => "RenderError"

/-- What went wrong outside the markup of a template. -/
inductive Problem where
  /-- The template language rejects a lowered template at a line of it. -/
  | rejected (reason : Text) (line : Nat)
  /-- The name of a component does not begin with a capital. -/
  | privateComponent (component : Text)
  /-- The name of a component is the name of an element. -/
  | elementName (component : Text)
  /-- A component has several fields for its children. -/
  | severalChildrenFields (component : Text) (fields : List Text)
  /-- A field of a component has a name that templates use for something else. -/
  | reservedField (component field : Text)
  /-- No component of this name is registered. -/
  | notRegistered (component : Text)
  /-- A template failed while it ran; the failure has a kind and a message of its own. -/
  | failed (kind message : Text)
  /-- A component was called with children that no macro holds. -/
  | missingBlock (block : Text)
  /-- A problem described by its message. -/
  | described (kind : ErrorKind) (message : Text)
deriving DecidableEq, Repr

namespace Problem

/-- The kind of error that a problem is. -/
def kind : Problem → ErrorKind
  | rejected .. => .compile
  | privateComponent _ | elementName _ | severalChildrenFields .. | reservedField .. =>
    .registration
  | notRegistered _ => .notFound
  | failed .. | missingBlock _ => .render
  | described kind _ => kind

/-- The message of a problem, without the template's name. -/
def message : Problem → Text
  | rejected reason line =>
    "error compiling template: " ++ reason ++ " (line " ++ Text.ofNat line ++ ")"
  | privateComponent component =>
    "component " ++ component ++ " is private, registered components must be public"
  | elementName component =>
    "component " ++ component ++ " conflicts with an existing HTML tag"
  | severalChildrenFields component fields =>
    "component " ++ component ++ " declares more than one children field: " ++
      Text.join ", " fields
  | reservedField component field =>
    "component " ++ component ++ " uses reserved field name " ++ Text.quoted field
  | notRegistered component => "no component registered for type " ++ component
  | failed _ message => "error rendering component: " ++ message
  | missingBlock block => "children block " ++ block ++ " is not defined"
  | described _ message => message

end Problem

/-- An error of the library. -/
inductive Error where
  /-- Malformed markup. -/
  | malformed (e : ParseError)
  /-- Any other problem, in a template if one is known. -/
  | problem (p : Problem) (template : Option Text)
deriving DecidableEq, Repr

namespace Error

/-- The kind of an error. -/
def kind : Error → ErrorKind
  | malformed _ => .parse
  | problem p _ => p.kind

/-- The template that an error happened in. -/
def template : Error → Option Text
  | malformed e => e.template
  | problem _ template => template

/-- An error as it is shown. -/
def message : Error → Text
  | malformed e => e.message
  | problem p template => atTemplate template p.message

end Error

end ComponentTags
