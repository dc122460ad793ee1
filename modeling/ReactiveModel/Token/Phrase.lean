import ReactiveModel.Token.Basic

/-!
# Phrases

Fixed code is written as a phrase: words, lifetimes and operators with blanks between them.
-/

namespace ReactiveModel.Token

/-- The tokens of a word, a lifetime or an operator. -/
def piece (text : List Char) : List Token :=
  match text with
  | [] => []
  | '\'' :: name => lifetime (.plain (String.ofList name))
  | c :: _ =>
    if c.isAlpha || c = '_' then [.word (.plain (String.ofList text))] else opMarks text

/-- The pieces of a text between blanks. -/
def pieces : (current : List Char) → List Char → List (List Char)
  | current, [] => [current]
  | current, c :: rest =>
    if c = ' ' then current :: pieces [] rest else pieces (current ++ [c]) rest

/-- The tokens of a phrase. -/
def phrase (text : String) : List Token := (pieces [] text.toList).flatMap piece

/-- A group in parentheses. -/
def parenthesized (body : List Token) : List Token := [.group .parenthesis body]

/-- A group in square brackets. -/
def bracketed (body : List Token) : List Token := [.group .bracket body]

/-- A group in braces. -/
def braced (body : List Token) : List Token := [.group .brace body]

/-- Pieces of code with commas between them. -/
def commaSeparated (parts : List (List Token)) : List Token := (op ",").intercalate parts

end ReactiveModel.Token
