/-
# Parsing markup

A template is split into raw text and components.  Everything that is not a component whose name is
known stays raw text: literal markup, template spans, comments and declarations.  A tag that begins
with a capital and is neither known nor the name of an element may become a component later; its name
is deferred.

Content is read from the front, character by character, and what was read since the last node is held
back until a tag begins or the content ends.  Places are counted from the front of the template.
-/
import ComponentTags.Markup.Attributes
import ComponentTags.Markup.Names

namespace ComponentTags.Markup

/-- What stays the same while a template is parsed. -/
structure Setting where
  /-- The names of the known components. -/
  components : List Text
  /-- The delimiters of template spans. -/
  delimiters : Delimiters
  /-- The whole template in lower case, in which the ends of raw text elements are looked up. -/
  lowered : Text

/-- A component whose closing tag is still to come. -/
structure Opened where
  /-- The name of the component. -/
  tag : Text
  /-- The place of its opening tag. -/
  place : Nat

/-! ## Pieces of markup -/

/-- Whether the name of a tag ends in front of a character. -/
def endsTagName (c : Char) : Bool := Text.isBlank c || c == '>' || c == '/'

/-- Reads a closing tag, given what follows `</`: its name and the number of characters up to its
end. -/
def closingTag (rest : Text) : Except Fault (Text × Nat) :=
  match Text.index? ">" rest with
  | none => .error ⟨0, .endInClosingTag⟩
  | some n => .ok (Text.trim (rest.take n), n + 1)

/-- The number of characters of a comment, a declaration or a stray `<`, given what follows the
`<`. -/
def declarationLength (rest : Text) : Except Fault Nat :=
  if ("!--" : Text).isPrefixOf rest then
    match Text.indexAfter? "-->" 3 rest with
    | none => .error ⟨0, .unterminatedMarkupComment⟩
    | some n => .ok (1 + n + 3)
  else if rest.head? == some '!' || rest.head? == some '?' then
    match Text.index? ">" rest with
    | none => .error ⟨0, .endInDeclaration⟩
    | some n => .ok (1 + n + 1)
  else .ok 1

/-- The number of characters up to the closing tag of a raw text element whose opening tag ends at
`place`; `rest` is what follows.  The closing tag is looked up in the lower-case form of the whole
template. -/
def rawTextLength (s : Setting) (tag : Text) (place : Nat) (rest : Text) : Nat :=
  (Text.index? ("</" ++ Text.lower tag) (s.lowered.drop place)).getD rest.length

/-- The nodes read so far, in reverse order, after the text held back has become a raw node. -/
def flush (held : Text) (nodes : List Node) : List Node :=
  if held.isEmpty then nodes else .raw held.reverse :: nodes

/-- The first `count` characters of a text held back behind `held`, which is in reverse order. -/
def hold (held : Text) (count : Nat) (text : Text) : Text := (text.take count).reverseAux held

/-! ## Tags and content -/

/-- A tag that was read. -/
structure TagReading where
  /-- The node that the tag becomes, with its children if it has any. -/
  node : Node
  /-- The place behind the tag, or behind its closing tag. -/
  place : Nat
  /-- The names that were deferred. -/
  deferred : List Text

/-- Content that was read. -/
structure ContentReading where
  /-- The nodes of the content. -/
  nodes : List Node
  /-- The place behind the content and its closing tag. -/
  place : Nat
  /-- The names that were deferred. -/
  deferred : List Text

mutual

/-- Reads the tag whose `<` is at `place`, given what follows the `<`.  At most `levels` more
components may be opened. -/
def readTag (s : Setting) (levels place : Nat) (rest : Text) : Except Fault TagReading :=
  let name := rest.takeWhile (!endsTagName ·)
  let behindName := rest.drop name.length
  let known := isComponentName name && s.components.contains name
  if behindName.isEmpty then .error ⟨place, .endInTagName⟩
  else
    match attributes s.delimiters name known 0 [] behindName with
    | .error f => .error (f.shift (place + 1 + name.length))
    | .ok a =>
      let count := name.length + a.count
      if !isComponentName name then
        let count :=
          if isRawTextName name && !a.selfClosing then
            count + rawTextLength s name (place + 1 + count) (rest.drop count)
          else count
        .ok ⟨.raw ('<' :: rest.take count), place + 1 + count, []⟩
      else if !known then
        .ok ⟨.raw ('<' :: rest.take count), place + 1 + count,
          if isElementName name then [] else [name]⟩
      else if a.selfClosing then
        .ok ⟨.component name a.entries [] true place, place + 1 + count, []⟩
      else
        match levels with
        | 0 => .error ⟨place, .nestedTooDeeply⟩
        | levels + 1 =>
          match readContent s levels (some ⟨name, place⟩) (place + 1 + count) [] [] []
              (rest.drop count) with
          | .error f => .error f
          | .ok inner =>
            .ok ⟨.component name a.entries inner.nodes false place, inner.place, inner.deferred⟩
termination_by 2 * rest.length + 2
decreasing_by all_goals (simp only [List.length_drop]; omega)

/-- Reads content from `place` on, up to the closing tag of the component `opened`, or to the end of
the template if no component is open.  The text `held` and the nodes were read already and are in
reverse order; the names `deferred` were deferred already. -/
def readContent (s : Setting) (levels : Nat) (opened : Option Opened) (place : Nat) (held : Text)
    (nodes : List Node) (deferred : List Text) : Text → Except Fault ContentReading
  | [] =>
    match opened with
    | none => .ok ⟨(flush held nodes).reverse, place, deferred⟩
    | some o => .error ⟨o.place, .unclosed o.tag⟩
  | c :: rest =>
    if (Span.kindAt? s.delimiters (c :: rest)).isSome then
      match Span.length s.delimiters false (c :: rest) with
      | .error f => .error (f.shift place)
      | .ok 0 => .error ⟨place, .emptySpan⟩
      | .ok (n + 1) =>
        readContent s levels opened (place + (n + 1)) (hold held (n + 1) (c :: rest)) nodes
          deferred (rest.drop n)
    else if c ≠ '<' then
      readContent s levels opened (place + 1) (c :: held) nodes deferred rest
    else if rest.head? == some '/' then
      match closingTag (rest.drop 1) with
      | .error f => .error (f.shift place)
      | .ok (name, n) =>
        if opened.map Opened.tag = some name then
          .ok ⟨(flush held nodes).reverse, place + 2 + n, deferred⟩
        else if s.components.contains name then
          match opened with
          | none => .error ⟨place, .unexpectedClosing name⟩
          | some o => .error ⟨place, .mismatchedClosing name o.tag⟩
        else
          readContent s levels opened (place + 2 + n) (hold held (2 + n) (c :: rest)) nodes
            deferred (rest.drop (1 + n))
    else if rest.head?.any Text.isLetter then
      match readTag s levels place rest with
      | .error f => .error f
      | .ok t =>
        readContent s levels opened t.place [] (t.node :: flush held nodes) (deferred ++ t.deferred)
          (rest.drop (t.place - (place + 1)))
    else
      match declarationLength rest with
      | .error f => .error (f.shift place)
      | .ok n =>
        readContent s levels opened (place + n) (hold held n (c :: rest)) nodes deferred
          (rest.drop (n - 1))
termination_by text => 2 * text.length + 1
decreasing_by all_goals (simp only [List.length_cons, List.length_drop]; omega)

end

/-! ## Templates -/

/-- A parsed template. -/
structure Parsed where
  /-- The nodes of the template. -/
  nodes : List Node
  /-- The names of tags that may become components, each once. -/
  deferred : List Text
deriving Repr

/-- What stays the same while a text is parsed. -/
def settingFor (text : Text) (components : List Text) (d : Delimiters) : Setting where
  components := components
  delimiters := d
  lowered := Text.lower text

/-- Parses a template in which at most `levels` components are open at the same time, given the names
of the known components. -/
def parseWithin (levels : Nat) (text : Text) (components : List Text) (d : Delimiters := .standard)
    (name : Option Text := none) : Except ParseError Parsed :=
  match readContent (settingFor text components d) levels none 0 [] [] [] text with
  | .error f => .error (.ofFault text name f)
  | .ok content => .ok ⟨content.nodes, content.deferred.eraseDups⟩

end ComponentTags.Markup
