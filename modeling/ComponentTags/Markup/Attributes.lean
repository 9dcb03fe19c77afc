/-
# Attributes

The attributes of a tag, up to and with the end of the tag.  A component's tag is read strictly:
values are quoted and hold no spans but expressions, no span stands between attributes, and no name
occurs twice.  Any other tag is read leniently, which only means to find its end; a name that occurs
twice has its last value.

All functions see the text in front of them; places in faults are counted from there.
-/
import ComponentTags.Node
import ComponentTags.Span

namespace ComponentTags.Markup

/-- The value of an attribute that is given without one. -/
def bareValue : Text := "true"

/-- Whether the name of an attribute ends in front of a character, given what follows that. -/
def endsName (d : Delimiters) (c : Char) (rest : Text) : Bool :=
  Text.isBlank c || c == '=' || c == '>' || c == '"' || c == '\'' ||
    (Span.kindAt? d (c :: rest)).isSome || (c == '/' && rest.head? == some '>')

/-- The number of characters of the attribute name that begins a text, of which `count` are already
passed. -/
def nameLength (d : Delimiters) (count : Nat) : Text → Nat
  | [] => count
  | c :: rest => if endsName d c rest then count else nameLength d (count + 1) rest

/-- The number of characters of a value without quotes, of which `count` are already passed. -/
def unquotedLength (d : Delimiters) (count : Nat) : Text → Except Fault Nat
  | [] => .ok count
  | c :: rest =>
    if Text.isBlank c || c == '>' then .ok count
    else if (Span.kindAt? d (c :: rest)).isSome then
      match Span.length d false (c :: rest) with
      | .error f => .error (f.shift count)
      | .ok 0 => .error ⟨count, .emptySpan⟩
      | .ok (n + 1) => unquotedLength d (count + (n + 1)) (rest.drop n)
    else unquotedLength d (count + 1) rest
termination_by text => text.length
decreasing_by all_goals (simp only [List.length_cons, List.length_drop]; omega)

/-- The number of characters of a quoted value, of which `count` are already passed, up to its closing
quote. -/
def quotedLength (d : Delimiters) (tag name : Text) (strict : Bool) (quote : Char) (count : Nat) :
    Text → Except Fault Nat
  | [] => .error ⟨0, .unterminatedValue name tag⟩
  | c :: rest =>
    if c = quote then .ok count
    else
      match Span.kindAt? d (c :: rest) with
      | none => quotedLength d tag name strict quote (count + 1) rest
      | some kind =>
        if strict && decide (kind ≠ .expression) then .error ⟨count, .onlyExpressions name tag⟩
        else
          match Span.length d strict (c :: rest) with
          | .error f => .error (f.shift count)
          | .ok 0 => .error ⟨count, .emptySpan⟩
          | .ok (n + 1) => quotedLength d tag name strict quote (count + (n + 1)) (rest.drop n)
termination_by text => text.length
decreasing_by all_goals (simp only [List.length_cons, List.length_drop]; omega)

/-- The value that begins a text, and the number of characters it takes with its quotes. -/
def value (d : Delimiters) (tag name : Text) (strict : Bool) (text : Text) :
    Except Fault (Text × Nat) :=
  match text with
  | c :: rest =>
    if Span.isQuote c then
      match quotedLength d tag name strict c 1 rest with
      | .error f => .error f
      | .ok n => .ok (rest.take (n - 1), n + 1)
    else bare
  | [] => bare
where
  /-- A value without quotes, which only a lenient tag may have. -/
  bare : Except Fault (Text × Nat) :=
    if strict then .error ⟨0, .unquotedValue name tag⟩
    else
      match unquotedLength d 0 text with
      | .error f => .error f
      | .ok n => .ok (text.take n, n)

/-- What the attributes of a tag come to. -/
structure Attributes where
  /-- The values of the attributes, in the order of their names. -/
  entries : Table Text Text
  /-- The number of characters up to the end of the tag. -/
  count : Nat
  /-- Whether the tag closes itself. -/
  selfClosing : Bool
deriving DecidableEq, Repr

/-- Reads what follows the name of an attribute: the value behind an equals sign, or nothing.  The
result is the value and the number of characters that it takes. -/
def assigned (d : Delimiters) (tag name : Text) (strict : Bool) (text : Text) :
    Except Fault (Text × Nat) :=
  let blanks := (text.takeWhile Text.isBlank).length
  match text.drop blanks with
  | '=' :: rest =>
    let more := (rest.takeWhile Text.isBlank).length
    match value d tag name strict (rest.drop more) with
    | .error f => .error (f.shift (blanks + 1 + more))
    | .ok (v, n) => .ok (v, blanks + 1 + more + n)
  | _ => .ok (bareValue, blanks)

/-- Reads the attributes of a tag from a text of which `count` characters are already passed and
`entries` were read. -/
def attributes (d : Delimiters) (tag : Text) (strict : Bool) (count : Nat)
    (entries : Table Text Text) : Text → Except Fault Attributes
  | [] => .error ⟨count, .endInTag tag⟩
  | c :: rest =>
    if Text.isBlank c then attributes d tag strict (count + 1) entries rest
    else if c == '>' then .ok ⟨entries, count + 1, false⟩
    else if c == '/' && rest.head? == some '>' then .ok ⟨entries, count + 2, true⟩
    else if (Span.kindAt? d (c :: rest)).isSome then
      if strict then .error ⟨count, .spanBetweenAttributes tag⟩
      else
        match Span.length d false (c :: rest) with
        | .error f => .error (f.shift count)
        | .ok 0 => .error ⟨count, .emptySpan⟩
        | .ok (n + 1) => attributes d tag strict (count + (n + 1)) entries (rest.drop n)
    else
      match nameLength d 0 (c :: rest) with
      | 0 =>
        if strict then .error ⟨count, .malformedAttribute tag⟩
        else attributes d tag strict (count + 1) entries rest
      | n + 1 =>
        let name := (c :: rest).take (n + 1)
        match assigned d tag name strict (rest.drop n) with
        | .error f => .error (f.shift (count + (n + 1)))
        | .ok (v, m) =>
          if strict && entries.has name then .error ⟨count, .duplicateAttribute name tag⟩
          else
            attributes d tag strict (count + (n + 1) + m) (entries.set name v)
              ((rest.drop n).drop m)
termination_by text => text.length
decreasing_by all_goals (simp only [List.length_cons, List.length_drop]; omega)

end ComponentTags.Markup
