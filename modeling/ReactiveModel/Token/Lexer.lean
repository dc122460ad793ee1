import ReactiveModel.Text.Letters
import ReactiveModel.Token.Basic

/-!
# Reading tokens from text

Blanks and comments separate tokens; a documentation comment stands for the attribute that holds
its text. Everything else is an opening or closing bracket, a literal, a mark or a word. A literal
is tried first, because `r"..."` and `b'x'` begin like words and `'a'` like a lifetime. Each reader
takes the text and gives what follows the piece it has read.
-/

namespace ReactiveModel.Lexer

open Text

/-! ## Blanks and comments -/

/-- What follows the text's beginning, if it begins so. -/
def after? (start : String) (text : List Char) : Option (List Char) :=
  if start.toList.isPrefixOf text then some (text.drop start.length) else none

/-- Whether the text begins so. -/
def starts (start : String) (text : List Char) : Bool :=
  start.toList.isPrefixOf text

/-- Reads a block comment, which may hold others, up to the end that matches its beginning: what it
holds without that end, and the text after it. -/
def blockComment : (depth : Nat) → List Char → Option (List Char × List Char)
  | depth, '/' :: '*' :: rest =>
    (blockComment (depth + 1) rest).map fun (held, tail) => ('/' :: '*' :: held, tail)
  | depth, '*' :: '/' :: rest =>
    if depth ≤ 1 then some ([], rest)
    else (blockComment (depth - 1) rest).map fun (held, tail) => ('*' :: '/' :: held, tail)
  | depth, c :: rest => (blockComment depth rest).map fun (held, tail) => (c :: held, tail)
  | _, [] => none

/-- Reads up to the end of the line: the line, and the text from the line feed on. -/
def line : List Char → List Char × List Char
  | [] => ([], [])
  | '\r' :: '\n' :: rest => ([], '\n' :: rest)
  | c :: rest =>
    if c = '\n' then ([], c :: rest)
    else
      let (held, tail) := line rest
      (c :: held, tail)

/-- The marks that set the direction of writing count as blank between tokens. -/
def isSeparator (c : Char) : Bool :=
  isBlank c || c = '\u200e' || c = '\u200f'

/-- One blank or comment at the beginning; none where a token, a documentation comment or a comment
without end begins. -/
def skipOne (text : List Char) : Option (List Char) :=
  if starts "//" text && (!starts "///" text || starts "////" text) && !starts "//!" text then
    some (line text).2
  else if starts "/**/" text then
    some (text.drop 4)
  else if starts "/*" text && (!starts "/**" text || starts "/***" text) && !starts "/*!" text then
    (blockComment 0 text).map (·.2)
  else
    match text with
    | c :: rest => if isSeparator c then some rest else none
    | [] => none

/-- The text from its first token on. -/
def skip : (fuel : Nat) → List Char → List Char
  | 0, text => text
  | fuel + 1, text =>
    match skipOne text with
    | some rest => skip fuel rest
    | none => text

/-- The text of a documentation comment, whether it documents what holds it, and what follows. -/
def docComment (text : List Char) : Option (List Char × Bool × List Char) :=
  if starts "//!" text then
    let (held, rest) := line (text.drop 3)
    some (held, true, rest)
  else if starts "/*!" text then
    (blockComment 0 text).map fun (held, rest) => (held.drop 3, true, rest)
  else if starts "///" text then
    if starts "////" text then none
    else
      let (held, rest) := line (text.drop 3)
      some (held, false, rest)
  else if starts "/**" text && !starts "/***" text then
    (blockComment 0 text).map fun (held, rest) => (held.drop 3, false, rest)
  else none

/-- Whether every carriage return is followed by a line feed. -/
def wholeLineEnds : List Char → Bool
  | '\r' :: rest => rest.head? == some '\n' && wholeLineEnds rest
  | _ :: rest => wholeLineEnds rest
  | [] => true

/-- The attribute that a documentation comment stands for. -/
def docAttribute (held : List Char) (inner : Bool) : List Token :=
  [.mark '#' .alone] ++ (if inner then [.mark '!' .alone] else []) ++
    [.group .bracket
      [.word (.plain "doc"), .mark '=' .alone, Token.string (String.ofList held)]]

/-! ## Words -/

/-- The characters of a word and what follows it. -/
def bareWord (text : List Char) : Option (List Char × List Char) :=
  match text with
  | c :: rest =>
    if isIdentifierStart c then
      some (c :: rest.takeWhile isIdentifierContinue, rest.dropWhile isIdentifierContinue)
    else none
  | [] => none

/-- A word, raw or not. -/
def word (text : List Char) : Option (Ident × List Char) :=
  match after? "r#" text with
  | some rest => do
    let (name, tail) ← bareWord rest
    let name := String.ofList name
    if Ident.reserved.contains name then none else some (⟨true, name⟩, tail)
  | none => do
    let (name, tail) ← bareWord text
    some (.plain (String.ofList name), tail)

/-- The beginnings of literals, where no word can begin. -/
def literalStarts : List String :=
  ["r\"", "r#\"", "r##", "b\"", "b'", "br\"", "br#", "c\"", "cr\"", "cr#"]

/-- The text after a literal's suffix. -/
def skipSuffix (text : List Char) : List Char :=
  ((bareWord text).map (·.2)).getD text

/-- The text, provided that no word goes on in it. -/
def wordEnd (text : List Char) : Option (List Char) :=
  if text.head?.any isIdentifierContinue then none else some text

/-! ## Literals -/

/-- Reads on from within an escape of a single character to the end of the escape. -/
def escapeEnd (rules : QuoteRules) : Phase → List Char → Option (List Char)
  | _, [] => none
  | phase, c :: rest =>
    match effect rules phase c with
    | .next .plain _ => some rest
    | .next .continued _ => none
    | .next .continuedLineEnd _ => none
    | .next next _ => escapeEnd rules next rest
    | _ => none

/-- A character between single quotes, from after the first. -/
def quotedChar (rules : QuoteRules) (text : List Char) : Option (List Char) := do
  let rest ← match text with
    | '\\' :: rest => escapeEnd rules .escape rest
    | c :: rest => if rules.plain c then some rest else none
    | [] => none
  after? "'" rest

/-- Where the mantissa of a decimal fraction ends, and whether a point stands in it. -/
def mantissa : (point : Bool) → List Char → Option (Bool × List Char)
  | point, [] => some (point, [])
  | point, c :: rest =>
    if c.isDigit || c = '_' then mantissa point rest
    else if c = '.' && !point then
      if rest.head?.any fun d => d = '.' || isIdentifierStart d then none
      else mantissa true rest
    else some (point, c :: rest)

/-- Where an exponent ends, from after its letter; `before` is the end of a number without it. -/
def exponent (before : Option (List Char)) :
    (signed valued : Bool) → List Char → Option (List Char)
  | _, valued, [] => if valued then some [] else before
  | signed, valued, c :: rest =>
    if c = '+' || c = '-' then
      if valued then some (c :: rest)
      else if signed then before
      else exponent before true valued rest
    else if c.isDigit then exponent before signed true rest
    else if c = '_' then exponent before signed valued rest
    else if valued then some (c :: rest)
    else before

/-- A number with a point or an exponent. -/
def fraction (text : List Char) : Option (List Char) := do
  guard (text.head?.any (·.isDigit))
  let (point, rest) ← mantissa false text
  let tail ← match rest with
    | 'e' :: digits | 'E' :: digits =>
      exponent (if point then some rest else none) false false digits
    | _ => if point then some rest else none
  wordEnd (skipSuffix tail)

/-- The value of a digit in bases up to sixteen. -/
def digitsEnd (base : Nat) : (empty : Bool) → List Char → Option (List Char)
  | empty, [] => if empty then none else some []
  | empty, c :: rest =>
    match hexValue c with
    | some digit =>
      if digit < base then digitsEnd base false rest
      else if c.isDigit || empty then none
      else some (c :: rest)
    | none =>
      if c = '_' then
        if empty && base = 10 then none else digitsEnd base empty rest
      else if empty then none
      else some (c :: rest)

/-- The base that a number's beginning announces, and the text after it. -/
def radix (text : List Char) : Nat × List Char :=
  match text with
  | '0' :: 'x' :: rest => (16, rest)
  | '0' :: 'o' :: rest => (8, rest)
  | '0' :: 'b' :: rest => (2, rest)
  | _ => (10, text)

/-- A whole number in any base. -/
def whole (text : List Char) : Option (List Char) := do
  let (base, digits) := radix text
  let rest ← digitsEnd base true digits
  wordEnd (skipSuffix rest)

/-- What an earlier reader leaves where it could not read a literal. -/
def unreadable : String := "(/*ERROR*/)"

/-- The text after the literal at the beginning. -/
def literalEnd (text : List Char) : Option (List Char) :=
  let ofString (r : Option (List Char × List Char)) := r.map fun (_, rest) => skipSuffix rest
  match text with
  | '"' :: rest => ofString (readQuoted textRules .plain rest)
  | 'b' :: '"' :: rest => ofString (readQuoted byteRules .plain rest)
  | 'c' :: '"' :: rest => ofString (readQuoted zeroEndedRules .plain rest)
  | 'b' :: '\'' :: rest => (quotedChar byteRules rest).map skipSuffix
  | 'b' :: 'r' :: rest => ofString (readRawQuoted byteRules.plain rest)
  | 'c' :: 'r' :: rest => ofString (readRawQuoted zeroEndedRules.plain rest)
  | 'r' :: rest => ofString (readRawQuoted textRules.plain rest)
  | '\'' :: rest => (quotedChar textRules rest).map skipSuffix
  | _ => (fraction text).or (whole text)

/-- The literal at the beginning. -/
def literal (text : List Char) : Option (Token × List Char) :=
  (literalEnd text).map fun rest =>
    (.literal (String.ofList (text.take (text.length - rest.length))), rest)

/-! ## Marks -/

/-- The characters that are marks. -/
def marks : List Char := "~!@#$%^&*-=+|;:,<.>/?'".toList

/-- The mark at the beginning, unless it begins a comment. -/
def markChar (text : List Char) : Option (Char × List Char) :=
  if starts "//" text || starts "/*" text then none
  else
    match text with
    | c :: rest => if marks.contains c then some (c, rest) else none
    | [] => none

/-- A mark, joint if another follows at once. A quote must begin a lifetime. -/
def mark (text : List Char) : Option (Token × List Char) := do
  let (c, rest) ← markChar text
  if c = '\'' then
    let (_, tail) ← word rest
    if starts "'" tail || (starts "#" tail && !starts "r#" rest) then none
    else some (.mark c .joint, rest)
  else
    some (.mark c (if (markChar rest).isSome then .joint else .alone), rest)

/-- A token that is no bracket. -/
def leaf (text : List Char) : Option (Token × List Char) :=
  (literal text).orElse fun _ => (mark text).orElse fun _ =>
    if literalStarts.any (starts · text) then none
    else (word text).map fun (i, rest) => (.word i, rest)

/-! ## Streams -/

/-- The brackets that a character opens. -/
def opened : Char → Option Delimiter
  | '(' => some .parenthesis
  | '[' => some .bracket
  | '\x7b' => some .brace
  | _ => none

/-- The brackets that a character closes. -/
def closed : Char → Option Delimiter
  | ')' => some .parenthesis
  | ']' => some .bracket
  | '\x7d' => some .brace
  | _ => none

/-- Reads the tokens of the text. `open_` holds the groups not closed yet, innermost first, each
with the tokens before it; `read` holds the tokens of the innermost group, latest first. -/
def tokens : (fuel : Nat) → (open_ : List (Delimiter × List Token)) → (read : List Token) →
    List Char → Option (List Token)
  | 0, _, _, _ => none
  | fuel + 1, open_, read, text =>
    let text := skip text.length text
    match docComment text with
    | some (held, inner, rest) =>
      if wholeLineEnds held then
        tokens fuel open_ ((docAttribute held inner).reverse ++ read) rest
      else none
    | none =>
      match text with
      | [] => if open_.isEmpty then some read.reverse else none
      | c :: rest =>
        match after? unreadable text with
        | some rest => tokens fuel open_ (.literal unreadable :: read) rest
        | none =>
          match opened c, closed c with
          | some delimiter, _ => tokens fuel ((delimiter, read) :: open_) [] rest
          | none, some delimiter =>
            match open_ with
            | (expected, before) :: outer =>
              if expected = delimiter then
                tokens fuel outer (.group delimiter read.reverse :: before) rest
              else none
            | [] => none
          | none, none =>
            match leaf text with
            | some (token, rest) => tokens fuel open_ (token :: read) rest
            | none => none

/-- A mark that may stand at the beginning of a text and means nothing. -/
def byteOrderMark : Char := '\ufeff'

/-- The text without a leading byte order mark. -/
def withoutByteOrderMark (text : List Char) : List Char :=
  match text with
  | c :: rest => if c = byteOrderMark then rest else text
  | [] => []

/-- The tokens of a text; none if it has a piece that is no token or brackets that do not match. -/
def lex (text : String) : Option (List Token) :=
  let text := withoutByteOrderMark text.toList
  tokens (text.length + 1) [] [] text

end ReactiveModel.Lexer
