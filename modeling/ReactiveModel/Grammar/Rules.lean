import ReactiveModel.Grammar.Reader

/-!
# The grammar's recursion

Types, expressions, patterns, statements and items contain one another. Each rule of the grammar is
a plain function of the rules for what it contains, so the recursion is tied in one place, where it
is bounded. What a rule reads is given back with as much of its shape as the rules around it ask
for.
-/

namespace ReactiveModel.Grammar

open Ahead Reader

/-! ## What rules read -/

/-- A path. -/
structure PathCode where
  code : Code
  /-- Whether the path begins with a type in angle brackets. -/
  qualified : Bool
  /-- Whether the path begins with `::`. -/
  global : Bool
  /-- The segments, each with whether it has arguments. -/
  segments : List (Ident × Bool)

namespace PathCode

/-- The identifier of a path that is nothing but one identifier. -/
def lone? (p : PathCode) : Option Ident :=
  match p.qualified, p.global, p.segments with
  | false, false, [(i, false)] => some i
  | _, _, _ => none

/-- Whether no segment has arguments. -/
def isPlain (p : PathCode) : Bool := !p.qualified && p.segments.all (!·.2)

/-- Whether the last segment has no arguments. -/
def isOpen (p : PathCode) : Bool := (p.segments.getLast?.map (!·.2)).getD false

/-- The path as an expression. -/
def value (p : PathCode) : Code := (p.lone?.map Code.name).getD p.code

end PathCode

/-- The shapes of types that are told apart. -/
inductive TypeForm where
  | path (p : PathCode)
  /-- A single bound. -/
  | bound
  | other

/-- A type. -/
structure TypeCode where
  code : Code
  form : TypeForm

/-- The shapes of expressions that are told apart. -/
inductive ExprForm where
  /-- An expression that ends a statement by its closing brace. -/
  | block
  | invocation (braced : Bool)
  | range
  | comparison
  /-- Kept as it stands in the source. -/
  | verbatim
  | other
  deriving DecidableEq

/-- An expression, by its first operand and what follows it. Attributes at the beginning of a
statement stand on the first operand. -/
structure ExprCode where
  /-- The first operand; a range counts as one. -/
  first : Code
  firstForm : ExprForm
  /-- The operators after the first operand, each with its right side. -/
  rest : List Code
  form : ExprForm

namespace ExprCode

/-- An expression that is a single operand. -/
def of (code : Code) (form : ExprForm) : ExprCode := ⟨code, form, [], form⟩

/-- The expression as a tree. -/
def code (e : ExprCode) : Code := if e.rest.isEmpty then e.first else .seq (e.first :: e.rest)

/-- The left side of an operator, with the operator and its right side. -/
def followedBy (e : ExprCode) (more : List Code) (form : ExprForm) : ExprCode :=
  { e with rest := e.rest ++ more, form }

end ExprCode

/-- How tightly operators bind, from the loosest on. -/
inductive Precedence where
  | jump | assign | range | or | and | condition | compare | bitOr | bitXor | bitAnd | shift | sum
  | product | cast
  deriving DecidableEq

/-- The place of a precedence among all, counted from the loosest. -/
def Precedence.rank (p : Precedence) : Nat := p.ctorIdx

/-- A pattern. -/
structure PatternCode where
  code : Code
  /-- Whether the pattern is a range without one of its bounds. -/
  halfOpen : Bool

/-! ## The rules that contain one another -/

/-- A bound: its code, and whether it is a trait. -/
structure BoundCode where
  code : Code
  isTrait : Bool

/-- The rules for what a piece of code contains. -/
structure Rules where
  /-- A bound of a type; captured parameters and constant traits only where they are allowed. -/
  bound : (captures constants : Bool) → Reader BoundCode
  /-- A type; `+` joins bounds only where it is allowed. -/
  type : (plus : Bool) → Reader TypeCode
  /-- An expression; a brace after a path begins a struct only where it is allowed. -/
  expr : (braces : Bool) → Reader ExprCode
  /-- An operand with what precedes and follows it at once. -/
  operand : (braces : Bool) → Reader ExprCode
  /-- What follows an expression, down to a precedence. -/
  climb : (braces : Bool) → ExprCode → (floor : Precedence) → Reader ExprCode
  /-- An expression up to where a statement or an arm of a `match` may end. -/
  bounded : Reader ExprCode
  /-- A pattern without alternatives. -/
  pattern : Reader PatternCode
  /-- The statements up to the end of a block. -/
  statements : Reader Code
  item : Reader Item

/-- The rules where the recursion may go no deeper. -/
def Rules.exhausted : Rules :=
  let stop {α : Type} : Reader α := refuse "nesting too deep"
  { bound := fun _ _ => stop
    type := fun _ => stop
    expr := fun _ => stop
    operand := fun _ => stop
    climb := fun _ _ _ => stop
    bounded := stop
    pattern := stop
    statements := stop
    item := stop }

/-! ## Attributes -/

/-- The path of an attribute: without arguments, `unsafe` alone allowed of the keywords. -/
def attributePath : Reader AttributePath := do
  if ← keyword? "unsafe" then return ⟨false, [.plain "unsafe"]⟩
  plainPath
where
  segmentHere (ts : List Token) : Bool :=
    beginsName ts || beginsAnyWord ["super", "self", "Self", "crate"] ts
  plainPath : Reader AttributePath := do
    let global ← op? "::"
    let (segments, isOpen) ← loop (fun (segments, isOpen) => do
      if ← sees segmentHere then
        let i ← anyIdent
        let more ← op? "::"
        return ((segments ++ [i], more), more)
      else return ((segments, isOpen), false)) ([], false)
    if segments.isEmpty then discard name
    if isOpen then fail "expected path segment after `::`"
    return ⟨global, segments⟩

/-- A path without arguments. -/
def plainPath : Reader AttributePath := attributePath.plainPath

/-- An attribute, with what is left to parse of it after its path. -/
def attributeBody (r : Rules) (inner : Bool) : Reader Attribute := do
  let path ← attributePath
  match ← get with
  | .group delimiter body :: rest =>
    set rest
    return ⟨⟨inner, path, .list delimiter body⟩, .empty⟩
  | ts =>
    if beginsOp "=" ts && !beginsOp "==" ts then
      discard (op "=")
      return ⟨⟨inner, path, .value⟩, ← value⟩
    else return ⟨⟨inner, path, .none⟩, .empty⟩
where
  value : Reader Code := do
    let ts ← get
    if let .ok (lit, []) := literal ts then
      set ([] : List Token)
      return lit
    if beginsOp "#" ts && beginsGroup .bracket (skip ts) then
      fail "unexpected attribute inside of attribute"
    return (← r.expr true).code

/-- The attributes before what they describe. -/
def outerAttributes (r : Rules) : Reader (List Attribute) :=
  many do
    if ← sees (beginsOp "#") then
      discard (op "#")
      return some (← group .bracket (attributeBody r false))
    else return none

/-- The attributes at the beginning of what they describe. -/
def innerAttributes (r : Rules) : Reader (List Attribute) :=
  many do
    if ← sees fun ts => beginsOp "#" ts && beginsOp "!" (skip ts) then
      discard (op "#")
      discard (op "!")
      return some (← group .bracket (attributeBody r true))
    else return none

/-- Attributes that no marker can be among. -/
def plainAttributes (r : Rules) : Reader Code := do
  return Attribute.outer .elsewhere (← outerAttributes r)

/-! ## Blocks -/

/-- A block without attributes. -/
def bareBlock (r : Rules) : Reader Code := do
  return .group .brace (← group .brace r.statements)

/-- A block, attributes at its beginning allowed. -/
def block (r : Rules) : Reader Code := do
  let body ← group .brace do
    let attributes ← innerAttributes r
    return Code.seq [Attribute.inner .elsewhere attributes, ← r.statements]
  return .group .brace body

/-- A block that ends what its head begins; the attributes at its beginning stand on all of it. -/
def blockAfter (r : Rules) (head : Code) (body : Reader Code) : Reader Code := do
  let (attributes, body) ← group .brace do
    let attributes ← innerAttributes r
    return (attributes, ← body)
  return .bodied head (Attribute.inner .elsewhere attributes) body

end ReactiveModel.Grammar
