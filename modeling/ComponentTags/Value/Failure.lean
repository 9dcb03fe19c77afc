/-
# Failures

What can go wrong while a component is made or a template runs.  A failure has a kind and a message;
components that recover see both.
-/
import ComponentTags.Error
import ComponentTags.Value.Basic

namespace ComponentTags

/-- The failures of a run. -/
inductive Failure where
  /-- An error of the library. -/
  | library (e : Error)
  /-- A missing value was made use of. -/
  | undefinedUse (reason : Text)
  /-- A number was divided by zero. -/
  | divisionByZero (message : Text)
  /-- An operator does not go with its operands. -/
  | operands (operator left right : Text)
  /-- An operator does not go with its operand. -/
  | operand (operator type : Text)
  /-- Something was appended to a sequence of another type. -/
  | concatenation (type other : Text)
  /-- A sequence was multiplied by something that is no whole number. -/
  | repetition (type : Text)
  /-- Two values have no order. -/
  | order (operator left right : Text)
  /-- A value has no items to go through. -/
  | notIterable (type : Text)
  /-- A value has no items to look among. -/
  | notContainer (type : Text)
  /-- Something that is no text was looked for in a text. -/
  | notSubtext (type : Text)
  /-- A value has no length. -/
  | noLength (type : Text)
  /-- A value cannot be called. -/
  | notCallable (type : Text)
  /-- A value is no whole number. -/
  | notInteger (type : Text)
  /-- A value cannot be a key. -/
  | unhashable (type : Text)
  /-- An item cannot be taken apart. -/
  | notUnpackable (type : Text)
  /-- An item has too few parts. -/
  | tooFewParts (expected found : Nat)
  /-- An item has too many parts. -/
  | tooManyParts (expected : Nat)
  /-- Something is called with arguments that it does not take. -/
  | arguments (message : Text)
  /-- A filter that does not exist was applied. -/
  | unknownFilter (name : Text)
  /-- A test that does not exist was applied. -/
  | unknownTest (name : Text)
  /-- A field of a component that cannot be changed was set. -/
  | frozenField (name : Text)
  /-- A value is not accepted. -/
  | unsuitable (message : Text)
  /-- A function failed with a kind and a message of its own. -/
  | thrown (kind message : Text)
  /-- Calls are nested too deeply. -/
  | tooDeep
deriving DecidableEq, Repr

namespace Failure

/-- The name of the kind of a failure. -/
def kind : Failure → Text
  | library e => e.kind.name
  | undefinedUse _ => "UndefinedError"
  | divisionByZero _ => "ZeroDivisionError"
  | operands .. | operand .. | concatenation .. | repetition _ | order .. | notIterable _
  | notContainer _ | notSubtext _ | noLength _ | notCallable _ | notInteger _ | unhashable _
  | notUnpackable _ | arguments _ => "TypeError"
  | tooFewParts .. | tooManyParts _ | unsuitable _ => "ValueError"
  | unknownFilter _ | unknownTest _ => "TemplateRuntimeError"
  | frozenField _ => "FrozenInstanceError"
  | thrown kind _ => kind
  | tooDeep => "RecursionError"

/-- The message of a failure. -/
def message : Failure → Text
  | library e => e.message
  | undefinedUse reason => reason
  | divisionByZero message => message
  | operands operator left right =>
    "unsupported operand type(s) for " ++ operator ++ ": '" ++ left ++ "' and '" ++ right ++ "'"
  | operand operator type => "bad operand type for unary " ++ operator ++ ": '" ++ type ++ "'"
  | concatenation type other =>
    "can only concatenate " ++ type ++ " (not \"" ++ other ++ "\") to " ++ type
  | repetition type => "can't multiply sequence by non-int of type '" ++ type ++ "'"
  | order operator left right =>
    "'" ++ operator ++ "' not supported between instances of '" ++ left ++ "' and '" ++ right ++ "'"
  | notIterable type => "'" ++ type ++ "' object is not iterable"
  | notContainer type => "argument of type '" ++ type ++ "' is not iterable"
  | notSubtext type => "'in <string>' requires string as left operand, not " ++ type
  | noLength type => "object of type '" ++ type ++ "' has no len()"
  | notCallable type => "'" ++ type ++ "' object is not callable"
  | notInteger type => "'" ++ type ++ "' object cannot be interpreted as an integer"
  | unhashable type => "unhashable type: '" ++ type ++ "'"
  | notUnpackable type => "cannot unpack non-iterable " ++ type ++ " object"
  | tooFewParts expected found =>
    "not enough values to unpack (expected " ++ Text.ofNat expected ++ ", got " ++
      Text.ofNat found ++ ")"
  | tooManyParts expected => "too many values to unpack (expected " ++ Text.ofNat expected ++ ")"
  | arguments message => message
  | unknownFilter name => "No filter named " ++ Text.quoted name ++ " found."
  | unknownTest name => "No test named " ++ Text.quoted name ++ " found."
  | frozenField name => "cannot assign to field " ++ Text.quoted name
  | unsuitable message => message
  | thrown _ message => message
  | tooDeep => "maximum recursion depth exceeded"

end Failure

end ComponentTags
