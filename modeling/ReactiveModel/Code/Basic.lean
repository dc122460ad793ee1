import ReactiveModel.Token.Basic

/-!
# Source code as a tree

A tree keeps every token of the source in order, so that the source can be written back. Of its
structure it keeps what the analysis of updaters and the removal of markers look at: member access
and method calls, lone identifiers used as values, identifiers bound by patterns, the tokens handed
to macros, and attributes with the kind of declaration they stand on. All other syntax is a
sequence of its parts. The analysis passes the parts of some pieces in another order than they are
written in; these say how they are arranged.
-/

namespace ReactiveModel

/-! ## Attributes -/

/-- The path an attribute is named by. -/
structure AttributePath where
  /-- Whether the path begins with `::`. -/
  global : Bool
  segments : List Ident
  deriving DecidableEq, Repr

namespace AttributePath

/-- The identifier of a path that is nothing but one identifier. -/
def lone? (p : AttributePath) : Option Ident :=
  match p.global, p.segments with
  | false, [i] => some i
  | _, _ => none

/-- Whether the path is the given word alone. -/
def isLone (p : AttributePath) (word : String) : Bool := p.lone? == some (.plain word)

/-- The tokens of a path. -/
def toTokens (p : AttributePath) : List Token :=
  (if p.global then Token.op "::" else []) ++
    List.intercalate (Token.op "::") (p.segments.map fun i => [.word i])

end AttributePath

/-- What follows the path of an attribute. -/
inductive AttributeArguments where
  | none
  | list (delimiter : Delimiter) (tokens : List Token)
  /-- An equals sign and an expression. -/
  | value
  deriving Repr

/-- An attribute without the expression it may assign. -/
structure AttributeHead where
  /-- Whether the attribute stands inside of what it describes. -/
  inner : Bool
  path : AttributePath
  arguments : AttributeArguments
  deriving Repr

/-- The attribute around the tokens of the expression it assigns. -/
def AttributeHead.toTokens (a : AttributeHead) (value : List Token) : List Token :=
  let arguments := match a.arguments with
    | .none => []
    | .list delimiter tokens => [.group delimiter tokens]
    | .value => Token.op "=" ++ value
  [.mark '#' .alone] ++ (if a.inner then [.mark '!' .alone] else []) ++
    [.group .bracket (a.path.toTokens ++ arguments)]

/-- The kind of declaration an attribute stands on. -/
inductive Site where
  /-- A struct, an enum or a union. -/
  | type (name : Ident)
  | field
  /-- A function in an impl block. -/
  | method
  | elsewhere
  deriving DecidableEq, Repr

/-! ## Trees -/

/-- How parts are written that are passed in another order. -/
inductive Arrangement where
  /-- The second part comes first, and brackets, if there are some, enclose the others. -/
  | secondFirst (brackets : Option Delimiter)
  /-- Lifetimes come before the other parts, wherever they stand in the source. Parts that are not
  told to be lifetimes are none. -/
  | lifetimesFirst (isLifetime : List Bool)
  deriving Repr

namespace Arrangement

/-- Tokens in brackets, if there are some. -/
def enclose : Option Delimiter → List Token → List Token
  | none, tokens => tokens
  | some delimiter, tokens => [.group delimiter tokens]

/-- The tokens of the parts that are told to be lifetimes, or of those that are not. -/
def pick (lifetimes : Bool) : List Bool → List (List Token) → List Token
  | _, [] => []
  | [], part :: rest => (if lifetimes then [] else part) ++ pick lifetimes [] rest
  | isLifetime :: marks, part :: rest =>
    (if isLifetime = lifetimes then part else []) ++ pick lifetimes marks rest

/-- The tokens of parts as they are written, given in the order in which the parts are passed. -/
def write : Arrangement → List (List Token) → List Token
  | .secondFirst brackets, first :: second :: rest =>
    second ++ enclose brackets (first ++ rest.flatten)
  | .secondFirst _, parts => parts.flatten
  | .lifetimesFirst marks, parts => pick true marks parts ++ pick false marks parts

end Arrangement

/-- A piece of source code. -/
inductive Code where
  /-- Tokens that nothing is asked of. -/
  | raw (tokens : List Token)
  | group (delimiter : Delimiter) (body : Code)
  | seq (parts : List Code)
  /-- Parts in the order in which they are passed, written in another one. -/
  | arranged (arrangement : Arrangement) (parts : List Code)
  /-- A lone identifier used as a value. -/
  | name (i : Ident)
  /-- A named member of a value. -/
  | member (base : Code) (i : Ident)
  /-- A method call; the arguments include type arguments. -/
  | call (base : Code) (i : Ident) (arguments : Code)
  /-- An identifier that a pattern binds. -/
  | binding (i : Ident)
  /-- The tokens handed to a macro. -/
  | invocation (delimiter : Delimiter) (tokens : List Token)
  | attribute (site : Site) (head : AttributeHead) (value : Code)
  deriving Repr, Inhabited

namespace Code

/-- An operator. -/
def op (text : String) : Code := .raw (Token.op text)

/-- A word of the language. -/
def keyword (text : String) : Code := .raw [.word (.plain text)]

/-- An identifier with no meaning for the analysis. -/
def ident (i : Ident) : Code := .raw [.word i]

/-- No code at all. -/
def empty : Code := .raw []

/-- Code with a piece after it that is passed first, as a where clause is. -/
def before (c later : Code) : Code := .arranged (.secondFirst none) [later, c]

/-- A body in braces after its head; the attributes in it are passed before the head. -/
def bodied (head attributes body : Code) : Code :=
  .arranged (.secondFirst (some .brace)) [attributes, head, body]

mutual

/-- The tokens of a tree. -/
def toTokens : Code → List Token
  | .raw tokens => tokens
  | .group delimiter body => [.group delimiter body.toTokens]
  | .seq parts => listTokens parts
  | .arranged arrangement parts => arrangement.write (tokensOfEach parts)
  | .name i => [.word i]
  | .member base i => base.toTokens ++ (Token.op "." ++ [.word i])
  | .call base i arguments => base.toTokens ++ (Token.op "." ++ [.word i] ++ arguments.toTokens)
  | .binding i => [.word i]
  | .invocation delimiter tokens => [.group delimiter tokens]
  | .attribute _ head value => head.toTokens value.toTokens

/-- The tokens of trees in a row. -/
def listTokens : List Code → List Token
  | [] => []
  | c :: rest => c.toTokens ++ listTokens rest

/-- The tokens of each of several trees. -/
def tokensOfEach : List Code → List (List Token)
  | [] => []
  | c :: rest => c.toTokens :: tokensOfEach rest

end

/-- The text of a tree. -/
def text (c : Code) : String := Token.render c.toTokens

end Code

end ReactiveModel
