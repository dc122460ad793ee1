import ReactiveModel.Text.Quoted
import ReactiveModel.Text.Identifier

/-!
# Tokens

A stream of tokens is a list of words, marks, literals and bracketed groups. Several marks make one
operator when each but the last is joint. The text of a stream puts one space after every token
that is not joint, so it says exactly which tokens it was made of.
-/

namespace ReactiveModel

/-! ## Identifiers -/

/-- An identifier; a raw one is never a keyword. -/
structure Ident where
  raw : Bool
  name : String
  deriving DecidableEq, Repr, Inhabited

namespace Ident

/-- An identifier that is not raw. -/
def plain (name : String) : Ident := ⟨false, name⟩

/-- The identifier as it is written. -/
def text (i : Ident) : String := if i.raw then "r#" ++ i.name else i.name

/-- The words with a meaning of their own, which no plain identifier may be. -/
def keywords : List String :=
  ["_", "abstract", "as", "async", "await", "become", "box", "break", "const", "continue",
   "crate", "do", "dyn", "else", "enum", "extern", "false", "final", "fn", "for", "if", "impl",
   "in", "let", "loop", "macro", "match", "mod", "move", "mut", "override", "priv", "pub", "ref",
   "return", "Self", "self", "static", "struct", "super", "trait", "true", "try", "type",
   "typeof", "unsafe", "unsized", "use", "virtual", "where", "while", "yield"]

/-- The words that keep their meaning even where a raw identifier is written. -/
def reserved : List String := ["_", "super", "self", "Self", "crate"]

/-- Whether the word can name something where it stands. -/
def isName (i : Ident) : Bool := i.raw || !keywords.contains i.name

/-- Whether the word is the given keyword. -/
def isWord (i : Ident) (word : String) : Bool := !i.raw && i.name == word

end Ident

/-! ## Trees -/

/-- Whether the next mark belongs to the same operator. -/
inductive Spacing where
  | alone
  | joint
  deriving DecidableEq, Repr

/-- The three kinds of brackets. -/
inductive Delimiter where
  | parenthesis
  | bracket
  | brace
  deriving DecidableEq, Repr

/-- The bracket that ends a group. -/
def Delimiter.closing : Delimiter → String
  | .parenthesis => ")"
  | .bracket => "]"
  | .brace => "\x7d"

/-- A token, or a group of tokens between brackets. -/
inductive Token where
  | word (i : Ident)
  | mark (c : Char) (spacing : Spacing)
  | literal (text : String)
  | group (delimiter : Delimiter) (body : List Token)
  deriving Repr, Inhabited

namespace Token

/-- Whether the next token follows without a space. -/
def isJoint : Token → Bool
  | .mark _ .joint => true
  | _ => false

/-- An operator: all its marks but the last are joint. -/
def opMarks : List Char → List Token
  | [] => []
  | [c] => [.mark c .alone]
  | c :: rest => .mark c .joint :: opMarks rest

/-- The tokens of an operator. -/
def op (text : String) : List Token := opMarks text.toList

/-- A lifetime: its quote is joint with the name. -/
def lifetime (i : Ident) : List Token := [.mark '\'' .joint, .word i]

/-- A string literal with the given value. -/
def string (value : String) : Token := .literal (Text.quoted value)

/-- What stands before, between and after the tokens of a group. Only braces keep a space inside. -/
def enclose (delimiter : Delimiter) (inner : String) : String :=
  match delimiter with
  | .parenthesis => "(" ++ inner ++ ")"
  | .bracket => "[" ++ inner ++ "]"
  | .brace => if inner.isEmpty then "\x7b \x7d" else "\x7b " ++ inner ++ " \x7d"

mutual

/-- The text of one token. -/
def text : Token → String
  | .word i => i.text
  | .mark c _ => c.toString
  | .literal t => t
  | .group delimiter body => enclose delimiter (render body)

/-- The text of a stream. -/
def render : List Token → String
  | [] => ""
  | [t] => t.text
  | t :: rest => t.text ++ ((if t.isJoint then "" else " ") ++ render rest)

end

mutual

/-- The number of tokens in a tree, brackets counted once. -/
def size : Token → Nat
  | .group _ body => sizeAll body + 1
  | _ => 1

/-- The number of tokens in a stream, at every depth. -/
def sizeAll : List Token → Nat
  | [] => 0
  | t :: rest => t.size + sizeAll rest

end

end Token

end ReactiveModel
