/-
# Lexemes

A template as a sequence of lexemes: text, delimiters, and the names, numbers, strings and signs
between them.  A sign behind an opening delimiter and in front of a closing one controls the blanks
around the span.  A closing delimiter counts only where no bracket is open.

Reading ends with the template or with the first fault; the parser sees the fault only when it comes
to it.
-/
import ComponentTags.Delimiters
import ComponentTags.Template.Syntax
import ComponentTags.Text.Classes
import ComponentTags.Text.Lines

namespace ComponentTags.Template

/-- The kinds of lexemes. -/
inductive Lexeme where
  /-- Text that is put out. -/
  | data (text : Text)
  /-- The beginning of an expression span. -/
  | valueBegin
  /-- The end of an expression span. -/
  | valueEnd
  /-- The beginning of a statement span. -/
  | blockBegin
  /-- The end of a statement span. -/
  | blockEnd
  /-- A name or a keyword. -/
  | name (text : Text)
  /-- A string. -/
  | string (text : Text)
  /-- A whole number. -/
  | int (n : Nat)
  /-- A binary fraction. -/
  | real (x : Float)
  /-- A sign. -/
  | sign (text : Text)
  /-- The end of the template. -/
  | finish
  /-- A fault. -/
  | fault (reason : Text)

/-- A lexeme with the line that it begins in. -/
structure Placed where
  /-- The lexeme. -/
  lexeme : Lexeme
  /-- The line, counted from one. -/
  line : Nat

namespace Lexeme

/-- A lexeme in messages. -/
def describe : Lexeme → Text
  | data _ => "template data / text"
  | valueBegin => "begin of print statement"
  | valueEnd => "end of print statement"
  | blockBegin => "begin of statement block"
  | blockEnd => "end of statement block"
  | name text => text
  | string _ => "string"
  | int _ => "integer"
  | real _ => "float"
  | sign text => text
  | finish => "end of template"
  | fault reason => reason

/-- Whether a lexeme is a certain sign. -/
def isSign (text : Text) : Lexeme → Bool
  | sign t => t = text
  | _ => false

/-- Whether a lexeme is a certain name. -/
def isName (text : Text) : Lexeme → Bool
  | name t => t = text
  | _ => false

end Lexeme

/-! ## Lines -/

/-- A text whose line ends are all line feeds, without the one at its end. -/
def normalised (text : Text) : Text :=
  let t := Text.unified text
  match t.getLast? with
  | some '\n' => t.dropLast
  | _ => t

/-- The number of line feeds in a text. -/
def feeds (text : Text) : Nat := text.count '\n'

/-! ## Strings and numbers -/

/-- The value of a hexadecimal digit. -/
def hexValue? (c : Char) : Option Nat :=
  if c.isDigit then some (c.toNat - '0'.toNat)
  else if 'a' ≤ c && c ≤ 'f' then some (c.toNat - 'a'.toNat + 10)
  else if 'A' ≤ c && c ≤ 'F' then some (c.toNat - 'A'.toNat + 10)
  else none

/-- The number that some digits write in a base. -/
def numberIn (base : Nat) (digits : Text) : Nat :=
  digits.foldl (fun n c => base * n + (hexValue? c).getD 0) 0

/-- The text with every character that is not ASCII written as an escape. -/
def spelledOut (text : Text) : Text :=
  text.flatMap fun c => if c.toNat < 128 then [c] else Text.codeEscape c

/-- The characters that an escape by their code stands for. -/
def codeText (digits : Text) (length : Nat) (kind : Text) : Except Text Text :=
  let found := digits.takeWhile fun c => (hexValue? c).isSome
  if found.length < length then .error ("truncated \\" ++ kind ++ " escape")
  else
    let n := numberIn 16 found
    if 0x10ffff < n then .error "illegal Unicode character" else .ok [Char.ofNat n]

/-- The text that the escapes of a string stand for. -/
def unescaped : Text → Except Text Text
  | [] => .ok []
  | '\\' :: c :: rest =>
    let simple (t : Text) : Except Text Text := (unescaped rest).map (t ++ ·)
    match c with
    | '\n' => simple []
    | '\\' => simple ['\\']
    | '\'' => simple ['\'']
    | '"' => simple ['"']
    | 'a' => simple [Char.ofNat 7]
    | 'b' => simple [Char.ofNat 8]
    | 'f' => simple [Char.ofNat 12]
    | 'n' => simple ['\n']
    | 'r' => simple ['\r']
    | 't' => simple ['\t']
    | 'v' => simple [Char.ofNat 11]
    | 'x' => coded rest 2 "xXX"
    | 'u' => coded rest 4 "uXXXX"
    | 'U' => coded rest 8 "UXXXXXXXX"
    | 'N' => .error "malformed \\N character escape"
    | c =>
      if '0' ≤ c && c ≤ '7' then
        let more := (rest.take 2).takeWhile fun c => '0' ≤ c && c ≤ '7'
        (unescaped (rest.drop more.length)).map (Char.ofNat (numberIn 8 (c :: more)) :: ·)
      else (unescaped rest).map ('\\' :: c :: ·)
  | c :: rest => (unescaped rest).map (c :: ·)
termination_by text => text.length
decreasing_by all_goals (simp only [List.length_cons, List.length_drop]; omega)
where
  /-- A character given by its code. -/
  coded (rest : Text) (length : Nat) (kind : Text) : Except Text Text :=
    match codeText (rest.take length) length kind with
    | .error e => .error e
    | .ok t => (unescaped (rest.drop length)).map (t ++ ·)
  termination_by rest.length + 1
  decreasing_by all_goals (simp only [List.length_drop]; omega)

/-- The characters of a string up to its closing quote, if it has one, and the number of characters
with both quotes. -/
def stringBody? (quote : Char) (text : Text) : Option (Text × Nat) :=
  go 1 [] text
where
  /-- Goes on behind `count` characters; those of the string are in reverse order. -/
  go (count : Nat) (held : Text) : Text → Option (Text × Nat)
    | [] => none
    | '\\' :: c :: rest => go (count + 2) (c :: '\\' :: held) rest
    | c :: rest =>
      if c = quote then some (held.reverse, count + 1)
      else if c = '\\' then none
      else go (count + 1) (c :: held) rest

/-- The number of characters of digits that may have single underscores between them. -/
def digitsLength (isDigit : Char → Bool) : Text → Nat
  | [] => 0
  | [c] => if isDigit c then 1 else 0
  | c :: '_' :: d :: rest =>
    if isDigit c then if isDigit d then 2 + digitsLength isDigit (d :: rest) else 1 else 0
  | c :: rest => if isDigit c then 1 + digitsLength isDigit rest else 0

/-- The number of characters of a fraction, if a text begins with one. -/
def realLength? (text : Text) : Option Nat :=
  let whole := digitsLength Char.isDigit text
  if whole = 0 then none
  else
    let behind := text.drop whole
    let places :=
      match behind with
      | '.' :: rest =>
        let n := digitsLength Char.isDigit rest
        if n = 0 then 0 else n + 1
      | _ => 0
    let power :=
      match behind.drop places with
      | e :: rest =>
        if e == 'e' || e == 'E' then
          let marks := (rest.take 1).takeWhile fun c => c == '+' || c == '-'
          let n := digitsLength Char.isDigit (rest.drop marks.length)
          if n = 0 then 0 else 1 + marks.length + n
        else 0
      | [] => 0
    if places + power = 0 then none else some (whole + places + power)

/-- A whole number in a base, if a text begins with one behind `skipped` characters. -/
def basedInt? (base skipped : Nat) (isDigit : Char → Bool) (text : Text) : Option (Nat × Nat) :=
  let body := text.drop skipped
  let lead := match body with
    | '_' :: c :: _ => if isDigit c then 1 else 0
    | _ => 0
  let n := digitsLength isDigit (body.drop lead)
  if n = 0 then none
  else
    some (numberIn base ((body.take (lead + n)).filter (· != '_')), skipped + lead + n)

/-- A whole number with the number of its characters, if a text begins with one. -/
def int? (text : Text) : Option (Nat × Nat) :=
  match text with
  | '0' :: b :: _ =>
    let found :=
      if b == 'b' || b == 'B' then basedInt? 2 2 (fun c => c == '0' || c == '1') text
      else if b == 'o' || b == 'O' then basedInt? 8 2 (fun c => '0' ≤ c && c ≤ '7') text
      else if b == 'x' || b == 'X' then basedInt? 16 2 (fun c => (hexValue? c).isSome) text
      else none
    found <|> some (0, digitsLength (· == '0') text)
  | ['0'] => some (0, 1)
  | c :: _ => if c.isDigit then basedInt? 10 0 Char.isDigit text else none
  | [] => none

/-! ## The inside of a span -/

/-- The signs of the template language, those of two characters first. -/
def signs : List Text :=
  ["//", "**", "==", "!=", ">=", "<=", "+", "-", "/", "*", "%", "~", "[", "]", "(", ")", "\x7b",
    "\x7d", ">", "<", "=", ".", ":", "|", ",", ";"]

/-- The closing bracket that belongs to an opening one. -/
def closing? (sign : Text) : Option Text :=
  if sign = "(" then some ")"
  else if sign = "[" then some "]"
  else if sign = "\x7b" then some "\x7d"
  else none

/-- What begins at the front of a text inside a span. -/
inductive Beginning where
  /-- Blanks. -/
  | blanks (count : Nat)
  /-- The end of the span. -/
  | close (count : Nat)
  /-- A lexeme. -/
  | lexeme (l : Lexeme) (count : Nat)
  /-- Nothing that the language knows. -/
  | stray (c : Char)

/-- The end of a span at the front of a text: the number of characters with the blanks that its sign
takes away. -/
def closeLength? (d : Delimiters) (isValue : Bool) (text : Text) : Option Nat :=
  let stop := if isValue then d.expressionEnd else d.statementEnd
  let behind (n : Nat) : Nat := ((text.drop n).takeWhile Text.isBlank).length
  if !isValue && ('+' :: stop).isPrefixOf text then some (stop.length + 1)
  else if ('-' :: stop).isPrefixOf text then some (stop.length + 1 + behind (stop.length + 1))
  else if stop.isPrefixOf text then some stop.length
  else none

/-- A name, if it is one. -/
def nameLexeme (text : Text) : Lexeme :=
  if Text.isIdentifier text then .name text else .fault "Invalid character in identifier"

/-- Whether a character may stand in a name. -/
def isNameChar (c : Char) : Bool := Text.isWordChar c || Text.isIdentifierChar c

/-- A string from its characters between the quotes. -/
def stringLexeme (body : Text) : Lexeme :=
  match unescaped (spelledOut body) with
  | .ok t => .string t
  | .error reason => .fault reason

/-- What begins at the front of a text that is not empty, given the character in front of it and
whether a bracket is open. -/
def beginning (d : Delimiters) (isValue isOpen : Bool) (before : Option Char) (c : Char)
    (rest : Text) : Beginning :=
  let text := c :: rest
  match if isOpen then none else closeLength? d isValue text with
  | some n => .close n
  | none =>
    if Text.isBlank c then .blanks (text.takeWhile Text.isBlank).length
    else
      match if before = some '.' then none else realLength? text with
      | some n => .lexeme (.real (Decimal.toFloat ((text.take n).filter (· != '_')))) n
      | none =>
        match int? text with
        | some (v, n) => .lexeme (.int v) n
        | none =>
          if isNameChar c then
            let name := text.takeWhile isNameChar
            .lexeme (nameLexeme name) name.length
          else
            match if c == '\'' || c == '"' then stringBody? c rest else none with
            | some (body, n) => .lexeme (stringLexeme body) n
            | none =>
              match signs.find? (·.isPrefixOf text) with
              | some s => .lexeme (.sign s) s.length
              | none => .stray c

/-! ## The outside of spans -/

/-- What can begin outside a span. -/
inductive Opening where
  /-- A raw block. -/
  | raw
  /-- A span. -/
  | span (kind : SpanKind)
deriving DecidableEq, Repr

/-- The opening of a raw block at the front of a text: the number of its characters. -/
def rawOpening? (d : Delimiters) (text : Text) : Option Nat :=
  if d.statementStart.isPrefixOf text then
    let n := d.statementStart.length
    let signed := match text.drop n with
      | c :: _ => if c == '-' || c == '+' then n + 1 else n
      | [] => n
    let first := signed + ((text.drop signed).takeWhile Text.isBlank).length
    if ("raw" : Text).isPrefixOf (text.drop first) then
      let last := first + 3 + ((text.drop (first + 3)).takeWhile Text.isBlank).length
      match text.drop last with
      | '-' :: rest =>
        if d.statementEnd.isPrefixOf rest then
          let stop := last + 1 + d.statementEnd.length
          some (stop + ((text.drop stop).takeWhile Text.isBlank).length)
        else none
      | rest => if d.statementEnd.isPrefixOf rest then some (last + d.statementEnd.length) else none
    else none
  else none

/-- Puts a delimiter in front of those that are not longer. -/
def insertByLength (delimiter : SpanKind × Text) : List (SpanKind × Text) → List (SpanKind × Text)
  | [] => [delimiter]
  | first :: rest =>
    if first.2.length ≤ delimiter.2.length then delimiter :: first :: rest
    else first :: insertByLength delimiter rest

/-- The opening delimiters, the longest first; of two as long as each other the expression's comes
first and the statement's last. -/
def byLength (d : Delimiters) : List (SpanKind × Text) :=
  [(.expression, d.expressionStart), (.comment, d.commentStart),
      (.statement, d.statementStart)].foldr insertByLength []

/-- What opens at the front of a text, and the number of characters up to a control sign behind it. -/
def opening? (d : Delimiters) (text : Text) : Option (Opening × Nat) :=
  match rawOpening? d text with
  | some n => some (.raw, n)
  | none =>
    ((byLength d).find? fun (_, start) => start.isPrefixOf text).map fun (kind, start) =>
      (.span kind, start.length)

/-- The control sign at the front of a text. -/
def controlSign : Text → Text
  | c :: _ => if c == '-' || c == '+' then [c] else []
  | [] => []

/-- The end of a comment or a raw block that a text begins with, as the number of characters of its
content and of the end itself. -/
structure Ending where
  /-- The number of characters in front of the end. -/
  content : Nat
  /-- The number of characters of the end. -/
  length : Nat
  /-- Whether a sign at the end takes the blanks in front of it away. -/
  trims : Bool

/-- The end of a comment. -/
def commentEnding? (d : Delimiters) (count : Nat) : Text → Option Ending
  | [] => none
  | c :: rest =>
    let text := c :: rest
    let n := d.commentEnd.length
    if ('+' :: d.commentEnd).isPrefixOf text then some ⟨count, n + 1, false⟩
    else if ('-' :: d.commentEnd).isPrefixOf text then
      some ⟨count, n + 1 + ((text.drop (n + 1)).takeWhile Text.isBlank).length, false⟩
    else if d.commentEnd.isPrefixOf text then some ⟨count, n, false⟩
    else commentEnding? d (count + 1) rest

/-- The closing statement of a raw block at the front of a text. -/
def rawClosing? (d : Delimiters) (count : Nat) (text : Text) : Option Ending :=
  if d.statementStart.isPrefixOf text then
    let n := d.statementStart.length
    let sign := controlSign (text.drop n)
    let first := n + sign.length
    let first := first + ((text.drop first).takeWhile Text.isBlank).length
    if ("endraw" : Text).isPrefixOf (text.drop first) then
      let last := first + 6 + ((text.drop (first + 6)).takeWhile Text.isBlank).length
      (closeLength? d false (text.drop last)).map fun m => ⟨count, last + m, sign = ['-']⟩
    else none
  else none

/-- The end of a raw block. -/
def rawEnding? (d : Delimiters) (count : Nat) : Text → Option Ending
  | [] => none
  | c :: rest =>
    match rawClosing? d count (c :: rest) with
    | some e => some e
    | none => rawEnding? d (count + 1) rest

/-! ## Reading -/

/-- Text that was held back, without the blanks at its end if they are taken away. -/
def heldData (line : Nat) (held : Text) (trims : Bool) : List Placed :=
  let text := if trims then Text.trimEnd held.reverse else held.reverse
  if text.isEmpty then [] else [⟨.data text, line⟩]

/-- Where reading stands. -/
inductive Standing where
  /-- Outside spans, with text held back in reverse order that began in a line. -/
  | outside (held : Text) (since : Nat)
  /-- Inside a span, with the closing brackets that are due and the character in front. -/
  | inside (isValue : Bool) (due : List Text) (before : Option Char)

/-- The lexemes of a text.  At most `fuel` steps are taken; each passes a character.  `place` and
`line` say where the text begins, and `last` is the line of the lexeme before. -/
def readLexemes (d : Delimiters) : Nat → Standing → (place line last : Nat) → Text → List Placed
  | 0, _, _, line, _, _ => [⟨.fault "unexpected end of template", line⟩]
  | fuel + 1, .outside held since, place, line, last, text =>
    match text with
    | [] =>
      let data := heldData since held false
      data ++ [⟨.finish, ((data.getLast?).map Placed.line).getD last⟩]
    | c :: rest =>
      match opening? d text with
      | none =>
        readLexemes d fuel (.outside (c :: held) (if held.isEmpty then line else since)) (place + 1)
          (line + feeds [c]) last rest
      | some (.raw, n) =>
        let trims := controlSign (text.drop d.statementStart.length) = ['-']
        let data := heldData since held trims
        let last := ((data.getLast?).map Placed.line).getD last
        let inner := text.drop n
        let start := line + feeds (text.take n)
        match rawEnding? d 0 inner with
        | none => data ++ [⟨.fault "Missing end of raw directive", start⟩]
        | some e =>
          let content := inner.take e.content
          let shown := if e.trims then Text.trimEnd content else content
          let more := n + e.content + e.length
          let block := if shown.isEmpty then [] else [⟨Lexeme.data shown, start⟩]
          let last := if shown.isEmpty then last else start
          data ++ block ++
            readLexemes d fuel (.outside [] 0) (place + more) (line + feeds (text.take more)) last
              (text.drop more)
      | some (.span kind, n) =>
        let sign := controlSign (text.drop n)
        let data := heldData since held (sign = ['-'])
        let last := ((data.getLast?).map Placed.line).getD last
        let n := n + sign.length
        match kind with
        | .comment =>
          match commentEnding? d 0 (text.drop n) with
          | none => data ++ [⟨.fault "Missing end of comment tag", line + feeds (text.take n)⟩]
          | some e =>
            let more := n + e.content + e.length
            data ++ readLexemes d fuel (.outside [] 0) (place + more)
              (line + feeds (text.take more)) last (text.drop more)
        | kind =>
          let isValue := kind == .expression
          let begun := if isValue then Lexeme.valueBegin else .blockBegin
          data ++ ⟨begun, line⟩ ::
            readLexemes d fuel (.inside isValue [] (text.take n).getLast?) (place + n)
              (line + feeds (text.take n)) line (text.drop n)
  | fuel + 1, .inside isValue due before, place, line, last, text =>
    match text with
    | [] => [⟨.finish, last⟩]
    | c :: rest =>
      let behind (n : Nat) : Option Char := (text.take n).getLast?
      match beginning d isValue (!due.isEmpty) before c rest with
      | .blanks n =>
        readLexemes d fuel (.inside isValue due (behind n)) (place + n) (line + feeds (text.take n))
          last (text.drop n)
      | .close n =>
        ⟨if isValue then .valueEnd else .blockEnd, line⟩ ::
          readLexemes d fuel (.outside [] 0) (place + n) (line + feeds (text.take n)) line
            (text.drop n)
      | .stray c =>
        [⟨.fault ("unexpected char " ++ Text.quoted [c] ++ " at " ++ Text.ofNat place), line⟩]
      | .lexeme (.fault reason) _ => [⟨.fault reason, line⟩]
      | .lexeme l n =>
        let go (due : List Text) : List Placed :=
          ⟨l, line⟩ ::
            readLexemes d fuel (.inside isValue due (behind n)) (place + n)
              (line + feeds (text.take n)) line (text.drop n)
        match l with
        | .sign s =>
          match closing? s with
          | some close => go (close :: due)
          | none =>
            if s = ")" || s = "]" || s = "\x7d" then
              match due with
              | [] => [⟨.fault ("unexpected '" ++ s ++ "'"), line⟩]
              | close :: others =>
                if close = s then go others
                else [⟨.fault ("unexpected '" ++ s ++ "', expected '" ++ close ++ "'"), line⟩]
            else go due
        | _ => go due

/-- The lexemes of a template, the last of which is its end or a fault. -/
def lexemes (d : Delimiters) (template : Text) : List Placed :=
  let text := normalised template
  readLexemes d (text.length + 2) (.outside [] 1) 0 1 1 text

end ComponentTags.Template
