import ReactiveModel.Code.Declaration
import ReactiveModel.Token.Lexer

/-!
# Readers

A reader reads from the front of a stream of tokens and gives back the rest or the cause of its
failure. Questions about what a stream begins with are plain functions. A list is read with as much
fuel as there are tokens left, which is enough for every list whose elements are not empty.
-/

namespace ReactiveModel

/-! ## Failures -/

/-- Why tokens are not what was to be read. -/
inductive SyntaxError where
  /-- The text has a piece that is no token, or brackets that do not match. -/
  | unlexable
  /-- Something follows where nothing should: within a group, or after everything. -/
  | surplus (within : Option Delimiter)
  /-- Something else stands in the place of what was expected, or nothing. -/
  | expected (what : String) (atEnd : Bool)
  /-- A keyword stands in the place of a name. -/
  | keyword (word : String)
  /-- The tokens are read but not allowed. -/
  | refused (reason : String)
  deriving DecidableEq, Repr

/-- The wording of a failure. -/
def SyntaxError.message : SyntaxError → String
  | .unlexable => "cannot parse string into token stream"
  | .surplus none => "unexpected token"
  | .surplus (some delimiter) => "unexpected token, expected `" ++ delimiter.closing ++ "`"
  | .expected what true => "unexpected end of input, " ++ what
  | .expected what false => what
  | .keyword word => "expected identifier, found keyword `" ++ word ++ "`"
  | .refused reason => reason

/-! ## Questions about a stream -/

namespace Ahead

/-- Whether the stream begins with the marks: all but the last must be joint. -/
def beginsMarks : List Char → List Token → Bool
  | [], _ => true
  | [c], .mark d _ :: _ => c == d
  | c :: cs, .mark d .joint :: rest => c == d && beginsMarks cs rest
  | _, _ => false

/-- Whether the stream begins with the operator, which a longer one may begin with, too. -/
def beginsOp (op : String) (ts : List Token) : Bool := beginsMarks op.toList ts

/-- Whether the stream begins with the word of the language. -/
def beginsWord (word : String) : List Token → Bool
  | .word i :: _ => i.isWord word
  | _ => false

/-- Whether the stream begins with a name. -/
def beginsName : List Token → Bool
  | .word i :: _ => i.isName
  | _ => false

/-- Whether the stream begins with a name or a keyword. -/
def beginsIdent : List Token → Bool
  | .word _ :: _ => true
  | _ => false

/-- Whether the stream begins with a lifetime. -/
def beginsLifetime : List Token → Bool
  | .mark '\'' .joint :: .word _ :: _ => true
  | _ => false

/-- Whether the stream begins with a group in the given brackets. -/
def beginsGroup (delimiter : Delimiter) : List Token → Bool
  | .group d _ :: _ => d == delimiter
  | _ => false

/-- Whether the literal is a number. -/
def isNumber (literal : String) : Bool := literal.toList.head?.any (·.isDigit)

/-- Whether the stream begins with a literal, which a sign may precede if it is a number. -/
def beginsLiteral : List Token → Bool
  | .literal _ :: _ => true
  | .word i :: _ => i.isWord "true" || i.isWord "false"
  | .mark '-' _ :: .literal text :: _ => isNumber text
  | _ => false

/-- Whether the stream begins with a string literal. -/
def beginsString : List Token → Bool
  | .literal text :: _ => (Text.quotedValue? text).isSome
  | _ => false

/-- The stream after its first tree; a lifetime counts as one. -/
def skip : List Token → List Token
  | .mark '\'' .joint :: .word _ :: rest => rest
  | _ :: rest => rest
  | [] => []

/-- Whether one of the words stands first. -/
def beginsAnyWord (words : List String) (ts : List Token) : Bool := words.any (beginsWord · ts)

/-- Whether one of the operators stands first. -/
def beginsAnyOp (ops : List String) (ts : List Token) : Bool := ops.any (beginsOp · ts)

end Ahead

/-! ## Readers -/

/-- A reader of streams of tokens. -/
abbrev Reader (α : Type) := StateT (List Token) (Except SyntaxError) α

namespace Reader

open Ahead

/-- Fails because of what stands here, or because nothing does. -/
def fail {α : Type} (what : String) : Reader α := do
  throw (.expected what (← get).isEmpty)

/-- Fails because what was read is not allowed. -/
def refuse {α : Type} (reason : String) : Reader α := throw (.refused reason)

/-- Whether the rest of the stream has the property. -/
def sees (p : List Token → Bool) : Reader Bool := do return p (← get)

/-- Reads the marks of an operator. -/
def op (text : String) : Reader Code := do
  let ts ← get
  if beginsOp text ts then
    set (ts.drop text.length)
    return .op text
  else fail ("expected `" ++ text ++ "`")

/-- Reads the operator if it stands here. -/
def op? (text : String) : Reader Bool := do
  if ← sees (beginsOp text) then
    discard (op text)
    return true
  else return false

/-- Reads a word of the language. -/
def keyword (text : String) : Reader Code := do
  let ts ← get
  if beginsWord text ts then
    set (ts.drop 1)
    return .keyword text
  else fail ("expected `" ++ text ++ "`")

/-- Reads the word if it stands here. -/
def keyword? (text : String) : Reader Bool := do
  if ← sees (beginsWord text) then
    discard (keyword text)
    return true
  else return false

/-- The word, if it stands here, as code. -/
def keywordCode? (text : String) : Reader Code := do
  return if ← keyword? text then .keyword text else .empty

/-- Reads a name or a keyword. -/
def anyIdent : Reader Ident := do
  match ← get with
  | .word i :: rest =>
    set rest
    return i
  | _ => fail "expected ident"

/-- Reads a name. -/
def name : Reader Ident := do
  match ← get with
  | .word i :: rest =>
    if i.isName then
      set rest
      return i
    else throw (.keyword i.text)
  | _ => fail "expected identifier"

/-- Reads the name of a lifetime. -/
def lifetime : Reader Ident := do
  match ← get with
  | .mark '\'' .joint :: .word i :: rest =>
    set rest
    return i
  | _ => fail "expected lifetime"

/-- Reads a lifetime if it stands here. -/
def lifetime? : Reader (Option Ident) := do
  if ← sees beginsLifetime then return some (← lifetime) else return none

/-- Reads a literal; a sign before a number is a token of its own. -/
def literal : Reader Code := do
  match ← get with
  | .literal text :: rest =>
    set rest
    return .raw [.literal text]
  | .word i :: rest =>
    if i.isWord "true" || i.isWord "false" then
      set rest
      return .raw [.word i]
    else fail "expected literal"
  | .mark '-' _ :: .literal text :: rest =>
    if isNumber text then
      set rest
      return .raw [.mark '-' .alone, .literal text]
    else fail "expected literal"
  | _ => fail "expected literal"

/-- Reads all that is left. -/
def remaining : Reader (List Token) := do
  let ts ← get
  set ([] : List Token)
  return ts

/-- Reads a stream to its end, which is that of a group or of everything. -/
def whole {α : Type} (within : Option Delimiter) (p : Reader α) (ts : List Token) :
    Except SyntaxError α := do
  let (a, rest) ← p ts
  if rest.isEmpty then return a else throw (.surplus within)

/-- Reads a group in the given brackets, the reader all that is inside. -/
def group {α : Type} (delimiter : Delimiter) (p : Reader α) : Reader α := do
  match ← get with
  | .group d body :: rest =>
    if d = delimiter then
      let a ← whole (some delimiter) p body
      set rest
      return a
    else fail ("expected " ++ wording delimiter)
  | _ => fail ("expected " ++ wording delimiter)
where
  wording : Delimiter → String
    | .parenthesis => "parentheses"
    | .bracket => "square brackets"
    | .brace => "curly braces"

/-- Reads a group in any brackets without looking inside. -/
def anyGroup : Reader (Delimiter × List Token) := do
  match ← get with
  | .group delimiter body :: rest =>
    set rest
    return (delimiter, body)
  | _ => fail "expected delimiter"

/-- The tokens that the reader reads, as they stand. -/
def verbatim {α : Type} (p : Reader α) : Reader (α × Code) := do
  let before ← get
  let a ← p
  let after ← get
  return (a, .raw (before.take (before.length - after.length)))

/-- What the reader reads, or nothing if it fails, which reads nothing. -/
def attempt {α : Type} (p : Reader α) : Reader (Option α) := do
  match p (← get) with
  | .ok (a, rest) =>
    set rest
    return some a
  | .error _ => return none

/-- Reads the code if the condition holds here. -/
def codeIf (condition : List Token → Bool) (p : Reader Code) : Reader Code := do
  if ← sees condition then p else return .empty

/-! ## Lists -/

/-- Reads elements until there is none, at most `fuel` many. -/
def elements {α : Type} (p : Reader (Option α)) : (fuel : Nat) → Reader (List α)
  | 0 => return []
  | fuel + 1 => do
    match ← p with
    | none => return []
    | some a => return a :: (← elements p fuel)

/-- Reads elements until there is none. -/
def many {α : Type} (p : Reader (Option α)) : Reader (List α) := do
  elements p ((← get).length + 1)

/-- Reads elements up to the end of the stream. -/
def toEnd {α : Type} (p : Reader α) : Reader (List α) :=
  many do if ← sees (·.isEmpty) then return none else return some (← p)

/-- Changes a value until the step says that it is done, at most `fuel` times. -/
def steps {α : Type} (step : α → Reader (α × Bool)) : (fuel : Nat) → α → Reader α
  | 0, a => return a
  | fuel + 1, a => do
    let (a, more) ← step a
    if more then steps step fuel a else return a

/-- Changes a value until the step says that it is done. -/
def loop {α : Type} (step : α → Reader (α × Bool)) (a : α) : Reader α := do
  steps step ((← get).length + 1) a

/-- Reads separated elements up to where the list stops; each other element must be followed by a
separator. -/
def separated {α : Type} (stop : List Token → Bool) (separator : String) (p : Reader α) :
    Reader (Separated α) :=
  loop (fun items => do
    if ← sees stop then return (items, false)
    let a ← p
    if ← sees stop then return (items ++ [(a, false)], false)
    discard (op separator)
    return (items ++ [(a, true)], true)) []

/-- Reads separated elements up to where the list stops or no separator follows. -/
def joined {α : Type} (stop : List Token → Bool) (separator : String) (p : Reader α) :
    Reader (Separated α) :=
  loop (fun items => do
    if ← sees stop then return (items, false)
    let a ← p
    if ← op? separator then return (items ++ [(a, true)], true)
    else return (items ++ [(a, false)], false)) []

/-- Reads elements separated by commas up to the end of the stream. -/
def commas {α : Type} (p : Reader α) : Reader (Separated α) := separated (·.isEmpty) "," p

end Reader

end ReactiveModel
