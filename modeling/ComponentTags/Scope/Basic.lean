/-
# Scopes

The names that are bound at a place of a template when it is read from the front.  Every open block
whose bindings end with it has a frame of its own, and a frame is closed by the end statement that
belongs to its block; an end statement that belongs to no innermost block changes nothing.
-/
import ComponentTags.Scope.Binding

namespace ComponentTags

/-- The names bound by an open block. -/
structure Frame where
  /-- The statement that closes the block. -/
  closer : Text
  /-- The names bound in the block so far. -/
  names : List Text
deriving DecidableEq, Repr

/-- The names bound at a place. -/
structure Scope where
  /-- The names bound outside all blocks. -/
  base : List Text
  /-- The open blocks, the innermost first. -/
  frames : List Frame := []
deriving DecidableEq, Repr

namespace Scope

/-- All bound names. -/
def names (s : Scope) : List Text := s.frames.flatMap Frame.names ++ s.base

/-- Binds names up to the end of the innermost block. -/
def bind (s : Scope) (names : List Text) : Scope :=
  match s.frames with
  | [] => { s with base := s.base ++ names }
  | f :: rest => { s with frames := { f with names := f.names ++ names } :: rest }

/-- Opens a block that binds names. -/
def push (s : Scope) (closer : Text) (names : List Text) : Scope :=
  { s with frames := ⟨closer, names⟩ :: s.frames }

/-- Closes the innermost block if the statement is the one that closes it. -/
def pop (s : Scope) (closer : Text) : Scope :=
  match s.frames with
  | f :: rest => if f.closer = closer then { s with frames := rest } else s
  | [] => s

/-- The statement that closes a block whose bindings end with it. -/
def closerOf? (tag : Text) : Option Text :=
  if tag = "for" then some "endfor"
  else if tag = "with" then some "endwith"
  else if tag = "macro" then some "endmacro"
  else if tag = "call" then some "endcall"
  else none

/-- The statements that close such blocks. -/
def closers : List Text := ["endfor", "endwith", "endmacro", "endcall"]

/-- The scope behind a statement.  A macro's own name is bound outside the macro. -/
def afterStatement (s : Scope) (ts : List Token) : Scope :=
  match statementTag? ts with
  | none => s
  | some (tag, rest) =>
    let names := bindingsOf tag rest
    let s := if tag = "macro" then s.bind (namesOf (rest.take 1)) else s
    match closerOf? tag with
    | some closer => s.push closer names
    | none => if closers.contains tag then s.pop tag else s.bind names

/-! ## Small facts -/

theorem names_push (s : Scope) (closer : Text) (names : List Text) :
    (s.push closer names).names = names ++ s.names := by
  simp [push, Scope.names]

theorem pop_push (s : Scope) (closer : Text) (names : List Text) :
    (s.push closer names).pop closer = s := by
  simp [push, pop]

theorem mem_names_bind {s : Scope} {names : List Text} {x : Text} :
    x ∈ (s.bind names).names ↔ x ∈ s.names ∨ x ∈ names := by
  obtain ⟨base, frames⟩ := s
  cases frames with
  | nil => simp [bind, Scope.names]
  | cons f rest =>
    simp only [bind, Scope.names, List.flatMap_cons, List.mem_append]
    grind

end Scope

end ComponentTags
