import ReactiveModel.Grammar.Statement

/-!
# Reading source code

The rules of the grammar are tied together up to a depth that no stream of tokens can exceed: each
rule that enters another without reading a token does so only a few times in a row. On top of them
stand the readers for whole texts.
-/

namespace ReactiveModel.Grammar

open Ahead Reader

/-- The rules with at most `depth` of them inside one another. -/
def rules : (depth : Nat) → Rules
  | 0 => .exhausted
  | depth + 1 =>
    { bound := fun capture constants ts => bound (rules depth) capture constants ts
      type := fun plus ts => type (rules depth) plus ts
      expr := fun braces ts => expr (rules depth) braces ts
      operand := fun braces ts => operand (rules depth) braces ts
      climb := fun braces left floor ts => climb (rules depth) braces left floor ts
      bounded := fun ts => boundedExpr (rules depth) ts
      pattern := fun ts => pattern (rules depth) ts
      statements := fun ts => statements (rules depth) ts
      item := fun ts => item (rules depth) ts }

/-- Reads a whole stream. -/
def readTokens {α : Type} (p : Rules → Reader α) (ts : List Token) : Except SyntaxError α :=
  whole none (p (rules (4 * Token.sizeAll ts + 16))) ts

/-- Reads a whole text. -/
def read {α : Type} (p : Rules → Reader α) (text : String) : Except SyntaxError α :=
  match Lexer.lex text with
  | some ts => readTokens p ts
  | none => throw .unlexable

/-! ## Files -/

/-- The items of a file after the attributes at its beginning. -/
def fileItems (r : Rules) : Reader (List Item) := do
  discard (innerAttributes r)
  toEnd r.item

/-- The text after the line that names an interpreter, if there is one. A line that begins like one
but goes on with a bracket is an attribute. -/
def afterShebang (text : List Char) : List Char :=
  match text with
  | '#' :: '!' :: rest =>
    match Lexer.skip rest.length rest with
    | '[' :: _ => text
    | _ => text.dropWhile (· ≠ '\n')
  | _ => text

/-- The items of a file. -/
def readUnit (text : String) : Except SyntaxError (List Item) :=
  read fileItems (String.ofList (afterShebang (Lexer.withoutByteOrderMark text.toList)))

/-! ## Other texts -/

/-- A single module. -/
def readModule (text : String) : Except SyntaxError Module :=
  read (fun r => do module r (← outerAttributes r) (← visibility)) text

/-- A single struct. -/
def readStruct (text : String) : Except SyntaxError Struct :=
  read (fun r => do struct r (← outerAttributes r) (← visibility)) text

/-- A single method, as in an impl block; it must have a body. -/
def readMethod (text : String) : Except SyntaxError Method :=
  read (fun r => do
    let attributes ← outerAttributes r
    let visible ← visibility
    let isDefault ← keyword? "default"
    let s ← signature r
    let (inner, body) ← functionBody r
    return ⟨attributes ++ inner, visible, isDefault, s, body⟩) text

/-- Attributes before nothing. -/
def readAttributes (text : String) : Except SyntaxError (List Attribute) :=
  read outerAttributes text

/-- A type. -/
def readType (text : String) : Except SyntaxError Code :=
  read (fun r => (·.code) <$> r.type true) text

/-- A visibility. -/
def readVisibility (text : String) : Except SyntaxError Visibility :=
  read (fun _ => visibility) text

/-- A path in a type. -/
def readPath (text : String) : Except SyntaxError PathCode :=
  read (fun r => path r false) text

end ReactiveModel.Grammar
