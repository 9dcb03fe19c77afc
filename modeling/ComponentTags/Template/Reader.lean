/-
# Reading lexemes

A reader takes lexemes from the front of a sequence and either gives what it has read or rejects the
template.  The first lexeme is the one that a reader decides by.  A fault among the lexemes rejects
the template as soon as it becomes the first.
-/
import ComponentTags.Template.Lexeme

namespace ComponentTags.Template

/-- What is still to be read of a template. -/
structure Unread where
  /-- The lexemes. -/
  lexemes : List Placed
  /-- A number that is greater than that of the lexemes. -/
  limit : Nat

/-- What reads an `α` from the front of a sequence of lexemes. -/
abbrev Reader (α : Type) := StateT Unread (Except Rejection) α

namespace Reader

/-- The first lexeme. -/
def current : Reader Placed := fun unread =>
  match unread.lexemes with
  | [] => .ok (⟨.finish, 1⟩, unread)
  | first :: _ => .ok (first, unread)

/-- The lexeme behind the first one. -/
def next : Reader Lexeme := fun unread =>
  match unread.lexemes with
  | _ :: second :: _ => .ok (second.lexeme, unread)
  | _ => .ok (.finish, unread)

/-- Rejects the template for a reason at a line. -/
def rejectAt {α : Type} (line : Nat) (reason : Text) : Reader α := fun _ => .error ⟨reason, line⟩

/-- Rejects the template for a reason at the line of the first lexeme. -/
def reject {α : Type} (reason : Text) : Reader α := do rejectAt (← current).line reason

/-- Rejects the template if its first lexeme is a fault. -/
def settle : Reader Unit := do
  let first ← current
  match first.lexeme with
  | .fault reason => rejectAt first.line reason
  | _ => return

/-- Takes the first lexeme; the end of the template stays. -/
def take : Reader Placed := do
  let first ← current
  modify fun unread =>
    match unread.lexemes with
    | _ :: second :: rest => { unread with lexemes := second :: rest }
    | _ => unread
  settle
  return first

/-- Takes the first lexeme if it passes a test, and says whether it did. -/
def takeIf (test : Lexeme → Bool) : Reader Bool := do
  if test (← current).lexeme then
    let _ ← take
    return true
  else return false

/-- Takes the first lexeme, which has to pass a test; `expected` describes it. -/
def expect (test : Lexeme → Bool) (expected : Text) : Reader Placed := do
  let first ← current
  if test first.lexeme then take
  else
    match first.lexeme with
    | .finish => reject ("unexpected end of template, expected " ++ Text.quoted expected ++ ".")
    | found =>
      reject ("expected token " ++ Text.quoted expected ++ ", got " ++ Text.quoted found.describe)

/-- Takes a sign. -/
def expectSign (sign : Text) : Reader Unit := do
  let _ ← expect (Lexeme.isSign sign) sign

/-- Takes a keyword. -/
def expectWord (word : Text) : Reader Placed := expect (Lexeme.isName word) word

/-- Takes a name. -/
def expectName : Reader (Text × Nat) := do
  let first ← expect (fun | .name _ => true | _ => false) "name"
  match first.lexeme with
  | .name n => return (n, first.line)
  | _ => reject "name expected"

/-- Takes the end of a statement span. -/
def expectBlockEnd : Reader Unit := do
  let _ ← expect (fun | .blockEnd => true | _ => false) Lexeme.blockEnd.describe

/-- Takes the end of an expression span. -/
def expectValueEnd : Reader Unit := do
  let _ ← expect (fun | .valueEnd => true | _ => false) Lexeme.valueEnd.describe

/-- Takes steps from a value as long as they lead on, at most `fuel` of them. -/
def iterateWithin {α : Type} (step : α → Reader (Option α)) : Nat → α → Reader α
  | 0, a => return a
  | fuel + 1, a => do
    match ← step a with
    | some b => iterateWithin step fuel b
    | none => return a

/-- Takes steps from a value as long as they lead on.  A step that leads on takes a lexeme. -/
def iterate {α : Type} (step : α → Reader (Option α)) (a : α) : Reader α := do
  iterateWithin step (← get).limit a

/-- Reads items with commas between them up to a closing sign, which is taken too.  Where `trailing`
commas are accepted, one may stand in front of the closing sign.  An item is read with a view to those
before it. -/
def listUntil {α : Type} (close : Text) (trailing : Bool) (item : List α → Reader α) :
    Reader (List α) := do
  let items ← iterate (fun items => do
    if (← current).lexeme.isSign close then return none
    if !items.isEmpty then
      expectSign ","
      if trailing && (← current).lexeme.isSign close then return none
    return some (items ++ [← item items])) []
  expectSign close
  return items

end Reader

end ComponentTags.Template
