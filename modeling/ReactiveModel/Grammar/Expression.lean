import ReactiveModel.Grammar.Pattern

/-!
# Expressions

An operand is an atom with unary operators before it and accesses, calls and indices after it.
Binary operators are read by climbing: what has been read so far is the left side, and the right
side takes all operators that bind more tightly. Comparisons do not associate, a range is no left
side of anything, and a cast must not be followed by an access.
-/

namespace ReactiveModel.Grammar

open Ahead Reader

/-! ## Operators -/

/-- The binary operators, each longer one before those that it begins with. -/
def operators : List (String × Precedence) :=
  [("+=", .assign), ("-=", .assign), ("*=", .assign), ("/=", .assign), ("%=", .assign),
   ("^=", .assign), ("&=", .assign), ("|=", .assign), ("<<=", .assign), (">>=", .assign),
   ("&&", .and), ("||", .or), ("<<", .shift), (">>", .shift), ("==", .compare), ("<=", .compare),
   ("!=", .compare), (">=", .compare), ("+", .sum), ("-", .sum), ("*", .product),
   ("/", .product), ("%", .product), ("^", .bitXor), ("&", .bitAnd), ("|", .bitOr),
   ("<", .compare), (">", .compare)]

/-- The binary operator at the beginning of a stream. -/
def operator? (ts : List Token) : Option (String × Precedence) :=
  operators.find? (beginsOp ·.1 ts)

/-- Whether an assignment stands here. -/
def beginsAssignment (ts : List Token) : Bool := beginsOp "=" ts && !beginsOp "=>" ts

/-- How tightly what stands here binds to an operand before it. -/
def precedenceAhead (ts : List Token) : Precedence :=
  match operator? ts with
  | some (_, p) => p
  | none =>
    if beginsAssignment ts then .assign
    else if beginsOp ".." ts then .range
    else if beginsWord "as" ts then .cast
    else .jump

/-- The right side of an operator: all that binds more tightly; assignments group to the right. -/
def rightSide (r : Rules) (braces : Bool) (p : Precedence) : Reader ExprCode := do
  let first ← r.operand braces
  loop (fun right => do
    let next := precedenceAhead (← get)
    if p.rank < next.rank || (next = p && p = .assign) then
      let before := (← get).length
      let right ← r.climb braces right next
      return (right, (← get).length != before)
    else return (right, false)) first

/-- Whether a range without an end stops here. -/
def endsRange (braces : Bool) (ts : List Token) : Bool :=
  ts.isEmpty || (beginsOp "." ts && !beginsOp ".." ts) || (!braces && beginsGroup .brace ts) ||
    beginsWord "as" ts ||
    beginsAnyOp [",", ";", "?", "=>", "=", "+", "/", "%", "^", ">", "<=", "!=", "-=", "*=", "&=",
      "|=", "<<="] ts

/-- A range from its dots on. -/
def rangeFrom (r : Rules) (braces : Bool) (start : Code) : Reader ExprCode := do
  let (dots, closed) ← rangeDots false
  if ← sees fun ts => !closed && endsRange braces ts then return .of (.seq [start, dots]) .range
  else return .of (.seq [start, dots, (← rightSide r braces .range).code]) .range

/-- Refuses an access after a cast. -/
def castEnd : Reader Unit := do
  let ts ← get
  let access :=
    if beginsOp "." ts && !beginsOp ".." ts then
      let member := ts.drop 1
      if beginsWord "await" member then some "`.await`"
      else if beginsName member &&
        (beginsGroup .parenthesis (member.drop 1) || beginsOp "::" (member.drop 1)) then
        some "a method call"
      else some "a field access"
    else if beginsOp "?" ts then some "`?`"
    else if beginsGroup .bracket ts then some "indexing"
    else if beginsGroup .parenthesis ts then some "a function call"
    else none
  if let some access := access then refuse ("casts cannot be followed by " ++ access)

/-- What follows an expression, as long as it binds at least as tightly as the floor. -/
def climb (r : Rules) (braces : Bool) (left : ExprCode) (floor : Precedence) : Reader ExprCode :=
  loop (fun left => do
    let ts ← get
    if left.form = .range then return (left, false)
    if let some (text, p) := operator? ts then
      if p.rank < floor.rank then return (left, false)
      if p = .compare && left.form = .comparison then
        fail "comparison operators cannot be chained"
      let sign ← op text
      let right ← rightSide r braces p
      let form := if p = .compare then .comparison else .other
      return (left.followedBy [sign, right.code] form, true)
    else if floor.rank ≤ Precedence.assign.rank && beginsAssignment ts then
      let sign ← op "="
      let right ← rightSide r braces .assign
      return (left.followedBy [sign, right.code] .other, true)
    else if floor.rank ≤ Precedence.range.rank && beginsOp ".." ts then
      return (← rangeFrom r braces left.code, true)
    else if beginsWord "as" ts then
      let sign ← keyword "as"
      let type ← r.type false
      castEnd
      return (left.followedBy [sign, type.code] .other, true)
    else return (left, false)) left

/-! ## Accesses, calls and indices -/

/-- An operand with attributes before it. They stand on its last access, so its member comes before
the names in them, and so does a lone identifier. -/
def attributed (attributes : Code) : Code → Code
  | .member base i => .member (.seq [attributes, base]) i
  | .call base i arguments => .call (.seq [attributes, base]) i arguments
  | .name i => attributes.before (.name i)
  | operand => .seq [attributes, operand]

/-- An expression with attributes before its first operand; they are dropped before one that is kept
as it stands. -/
def ExprCode.under (attributes : List Attribute) (e : ExprCode) : ExprCode :=
  if attributes.isEmpty || e.firstForm = .verbatim then e
  else { e with first := attributed (Attribute.outer .elsewhere attributes) e.first }

/-- Expressions separated by commas in parentheses. -/
def callGroup (r : Rules) : Reader Code := do
  let arguments ← group .parenthesis (commas ((·.code) <$> r.expr true))
  return .group .parenthesis (Separated.toCode "," id arguments)

/-- The positions that a literal with points between digits stands for, and whether a point ends
it. -/
def positions? (literal : String) : Option (List Nat × Bool) := do
  let parts := literal.toList.splitOn '.'
  let isOpen := parts.length > 1 && parts.getLast?.any (·.isEmpty)
  let positions ← (if isOpen then parts.dropLast else parts).mapM fun part =>
    position? (String.ofList part)
  return (positions, isOpen)

/-- What follows a point: a member, a call or `await`. -/
def member (r : Rules) (base : Code) : Reader Code := do
  if ← keyword? "await" then return .seq [base, .op ".", .keyword "await"]
  match ← memberName with
  | .inr n => return .seq [base, .op ".", positionCode n]
  | .inl i =>
    let typeArguments ← codeIf (beginsOp "::") (angleArguments r)
    if !typeArguments.toTokens.isEmpty || (← sees (beginsGroup .parenthesis)) then
      return .call base i (.seq [typeArguments, ← callGroup r])
    else return .member base i

/-- An access from its point on; a number with points in it is several accesses. -/
def access (r : Rules) (base : Code) : Reader Code := do
  discard (op ".")
  match ← get with
  | .literal text :: rest =>
    match positions? text with
    | none => fail "expected identifier or integer"
    | some (positions, isOpen) =>
      set rest
      let code := positions.foldl (fun code n => .seq [code, .op ".", positionCode n]) base
      if isOpen then member r code else return code
  | _ => member r base

/-- Whether an access stands here. -/
def beginsAccess (ts : List Token) : Bool := beginsOp "." ts && !beginsOp ".." ts

/-- What follows an atom at once. -/
def trailers (r : Rules) (e : ExprCode) : Reader ExprCode :=
  loop (fun e => do
    let ts ← get
    if beginsGroup .parenthesis ts then
      return (.of (.seq [e.code, ← callGroup r]) .other, true)
    else if beginsAccess ts && e.form ≠ .range then
      return (.of (← access r e.code) .other, true)
    else if beginsGroup .bracket ts then
      let index ← group .bracket (r.expr true)
      return (.of (.seq [e.code, .group .bracket index.code]) .other, true)
    else if beginsOp "?" ts && e.form ≠ .range then
      return (.of (.seq [e.code, ← op "?"]) .other, true)
    else return (e, false)) e

/-! ## Blocks, conditions and loops -/

/-- An `if` with all that follows by `else`. -/
def conditional (r : Rules) : Reader Code := do
  let parts ← loop (fun parts => do
    let start ← keyword "if"
    let condition ← r.expr false
    let parts := parts ++ [start, condition.code, ← bareBlock r]
    if ← keyword? "else" then
      let parts := parts ++ [.keyword "else"]
      if ← sees (beginsWord "if") then return (parts, true)
      else return (parts ++ [← bareBlock r], false)
    else return (parts, false)) []
  return .seq parts

/-- Whether a closure with bound lifetimes stands here. -/
def beginsBinder (ts : List Token) : Bool :=
  let inner := (ts.drop 1).drop 1
  beginsWord "for" ts && beginsOp "<" (ts.drop 1) &&
    (beginsLifetime inner || beginsOp ">" inner)

/-- Whether a block stands here after the word. -/
def beginsBlock (word : String) (ts : List Token) : Bool :=
  beginsWord word ts && beginsGroup .brace (ts.drop 1)

/-- Whether an expression stands here that is over with its closing brace. -/
def beginsBlockLike (ts : List Token) : Bool :=
  beginsAnyWord ["if", "while", "loop", "match", "unsafe"] ts ||
    (beginsWord "for" ts && !beginsBinder ts) || beginsBlock "try" ts || beginsBlock "const" ts ||
    beginsGroup .brace ts || beginsLifetime ts

/-- The arms of a `match`. -/
def arms (r : Rules) : Reader Code := do
  let arms ← toEnd do
    let attributes ← plainAttributes r
    let p ← alternatives r true
    let guarded ← codeIf (beginsWord "if") do return .seq [← keyword "if", (← r.expr true).code]
    let arrow ← op "=>"
    let body ← r.bounded
    let comma ← if body.form ≠ .block && !(← get).isEmpty then op ","
      else codeIf (beginsOp ",") (op ",")
    return Code.seq [attributes, p.code, guarded, arrow, body.code, comma]
  return .seq arms

/-- A loop, a `match` or a block. -/
def blockLike (r : Rules) : Reader Code := do
  let label ← lifetime?
  let before ← match label with
    | some i => pure (Code.seq [.raw (Token.lifetime i), ← op ":"])
    | none => pure .empty
  let ts ← get
  if beginsWord "while" ts then
    let head := Code.seq [before, ← keyword "while", (← r.expr false).code]
    blockAfter r head r.statements
  else if beginsWord "for" ts then
    let start ← keyword "for"
    let p ← alternatives r true
    let head := Code.seq [before, start, p.code, ← keyword "in", (← r.expr false).code]
    blockAfter r head r.statements
  else if beginsWord "loop" ts then return .seq [before, ← keyword "loop", ← block r]
  else if beginsGroup .brace ts then return .seq [before, ← block r]
  else if label.isSome then fail "expected loop or block expression"
  else if beginsWord "if" ts then conditional r
  else if beginsWord "match" ts then
    let start ← keyword "match"
    let value ← r.expr false
    blockAfter r (.seq [start, value.code]) (arms r)
  else if beginsWord "try" ts then return .seq [← keyword "try", ← bareBlock r]
  else if beginsWord "unsafe" ts then return .seq [← keyword "unsafe", ← block r]
  else return .seq [← keyword "const", ← block r]

/-- An expression up to where a statement or an arm may end: one that is over with its closing
brace goes on only by an access. -/
def boundedExpr (r : Rules) : Reader ExprCode := do
  let attributes ← outerAttributes r
  let e ← if ← sees beginsBlockLike then (.of · .block) <$> blockLike r else r.operand true
  if e.form ≠ .block then r.climb true (e.under attributes) .jump
  else if ← sees fun ts => beginsAccess ts || beginsOp "?" ts then
    let e ← trailers r e
    r.climb true (e.under attributes) .jump
  else return e.under attributes

/-! ## Closures and jumps -/

/-- Whether a closure stands here. -/
def beginsClosure (ts : List Token) : Bool :=
  beginsOp "|" ts || beginsAnyWord ["move", "static"] ts || beginsBinder ts ||
    (beginsWord "const" ts && !beginsBlock "const" ts) ||
    (beginsWord "async" ts && (beginsOp "|" (ts.drop 1) || beginsWord "move" (ts.drop 1)))

/-- The parameters of a closure. -/
def closureParams (r : Rules) : Reader Code := do
  let params ← separated (beginsOp "|") "," do
    let attributes ← plainAttributes r
    let p ← r.pattern
    let type ← codeIf (beginsOp ":") do return .seq [← op ":", (← r.type true).code]
    return Code.seq [attributes, p.code, type]
  return Separated.toCode "," id params

/-- A closure; with a return type its body is a block. -/
def closure (r : Rules) (braces : Bool) : Reader Code := do
  let bound ← binder r
  let isConst ← keywordCode? "const"
  let isStatic ← keywordCode? "static"
  let isAsync ← keywordCode? "async"
  let isMove ← keywordCode? "move"
  let start ← op "|"
  let params ← closureParams r
  let close ← op "|"
  let head := Code.seq [bound, isConst, isStatic, isAsync, isMove, start, params, close]
  match ← output? r true with
  | some type => return .seq [head, .op "->", type.code, ← bareBlock r]
  | none => return .seq [head, (← r.expr braces).code]

/-- Whether an expression can begin here. -/
def beginsExpr (ts : List Token) : Bool :=
  (beginsIdent ts && !beginsWord "as" ts) || beginsGroup .parenthesis ts ||
    beginsGroup .bracket ts || beginsGroup .brace ts || beginsLiteral ts || beginsBang ts ||
    (beginsOp "-" ts && !beginsAnyOp ["-=", "->"] ts) || (beginsOp "*" ts && !beginsOp "*=" ts) ||
    (beginsOp "|" ts && !beginsOp "|=" ts) || (beginsOp "&" ts && !beginsOp "&=" ts) ||
    (beginsOp "<" ts && !beginsAnyOp ["<=", "<<="] ts) || beginsAnyOp ["..", "::", "#"] ts ||
    beginsLifetime ts

/-- A jump out of a function with the value it takes along. -/
def jump (r : Rules) (word : String) : Reader Code := do
  let start ← keyword word
  return .seq [start, ← codeIf beginsExpr ((·.code) <$> r.expr true)]

/-- A jump out of a loop or a block. -/
def breakExpr (r : Rules) (braces : Bool) : Reader Code := do
  let start ← keyword "break"
  let label ← lifetime?
  if label.isSome && (← sees (beginsOp ":")) then refuse "parentheses required"
  let value ← codeIf (fun ts => beginsExpr ts && (braces || !beginsGroup .brace ts))
    ((·.code) <$> r.expr true)
  return .seq [start, .raw ((label.map Token.lifetime).getD []), value]

/-! ## Atoms -/

/-- The fields of a struct; the value that gives the others ends them. -/
def fieldValues (r : Rules) : Reader Code := do
  let fields ← loop (fun fields => do
    if ← sees (·.isEmpty) then return (fields, false)
    if ← sees (beginsOp "..") then
      let dots ← op ".."
      let rest ← codeIf (!·.isEmpty) ((·.code) <$> r.expr true)
      return (fields ++ [dots, rest], false)
    let attributes ← plainAttributes r
    let label ← memberName
    let field ← match label with
      | .inl i => do
        if ← sees (beginsOp ":") then pure (Code.seq [.ident i, ← op ":", (← r.expr true).code])
        else pure (.name i)
      | .inr n => do pure (.seq [positionCode n, ← op ":", (← r.expr true).code])
    let field := Code.seq [attributes, field]
    if ← sees (·.isEmpty) then return (fields ++ [field], false)
    return (fields ++ [field, ← op ","], true)) []
  return .seq fields

/-- An expression that begins with a path: a macro, a struct or the path itself. -/
def pathExpr (r : Rules) (braces : Bool) : Reader ExprCode := do
  let p ← qualifiedPath r true
  if p.isPlain && (← sees beginsBang) then
    let (tail, braced) ← invocationTail
    return .of (.seq [p.code, tail]) (.invocation braced)
  if braces && (← sees (beginsGroup .brace)) then
    return .of (.seq [p.code, .group .brace (← group .brace (fieldValues r))]) .other
  return .of p.value .other

/-- An expression in parentheses, or a tuple. -/
def enclosedExpr (r : Rules) : Reader Code := do
  let elements ← group .parenthesis (commas ((·.code) <$> r.expr true))
  return .group .parenthesis (Separated.toCode "," id elements)

/-- An array, by its elements or by one of them and their number. -/
def arrayExpr (r : Rules) : Reader Code := do
  let body ← group .bracket do
    if ← sees (·.isEmpty) then return Code.empty
    let first ← r.expr true
    if ← op? ";" then return .seq [first.code, .op ";", (← r.expr true).code]
    if ← sees (·.isEmpty) then return first.code
    let comma ← op ","
    let rest ← commas ((·.code) <$> r.expr true)
    return .seq [first.code, comma, Separated.toCode "," id rest]
  return .group .bracket body

/-- A pattern that a value must match. -/
def letExpr (r : Rules) (braces : Bool) : Reader Code := do
  let start ← keyword "let"
  let p ← alternatives r true
  let sign ← op "="
  let value ← r.climb braces (← r.operand braces) .compare
  return .seq [start, p.code, sign, value.code]

/-- An expression that is kept as it stands. -/
def keptExpr (r : Rules) : Reader ExprCode := do
  let (_, code) ← verbatim do
    if ← keyword? "become" then discard (r.expr true)
    else
      discard anyIdent
      discard (op "#")
      discard name
      discard (group .parenthesis remaining)
  return .of code .verbatim

/-- Whether a path can begin an expression here. -/
def beginsPathExpr (ts : List Token) : Bool :=
  beginsNamedType ts || beginsAnyOp ["::", "<"] ts ||
    (beginsWord "try" ts && beginsAnyOp ["!", "::"] (ts.drop 1))

/-- An expression without operators, accesses, calls and indices. -/
def atom (r : Rules) (braces : Bool) : Reader ExprCode := do
  let ts ← get
  let other (p : Reader Code) : Reader ExprCode := (.of · .other) <$> p
  if beginsLiteral ts then other literal
  else if beginsBlock "async" ts ||
    (beginsWord "async" ts && beginsBlock "move" (ts.drop 1)) then
    let start ← keyword "async"
    let isMove ← keywordCode? "move"
    return .of (.seq [start, isMove, ← bareBlock r]) .other
  else if beginsBlock "try" ts then return .of (← blockLike r) .block
  else if beginsClosure ts then other (closure r braces)
  else if beginsWord "builtin" ts && beginsOp "#" (ts.drop 1) then keptExpr r
  else if beginsPathExpr ts then pathExpr r braces
  else if beginsGroup .parenthesis ts then other (enclosedExpr r)
  else if beginsWord "break" ts then other (breakExpr r braces)
  else if beginsWord "continue" ts then
    let start ← keyword "continue"
    let label ← lifetime?
    return .of (.seq [start, .raw ((label.map Token.lifetime).getD [])]) .other
  else if beginsWord "return" ts then other (jump r "return")
  else if beginsWord "become" ts then keptExpr r
  else if beginsGroup .bracket ts then other (arrayExpr r)
  else if beginsWord "let" ts then other (letExpr r braces)
  else if beginsWord "yield" ts then other (jump r "yield")
  else if beginsBlockLike ts then return .of (← blockLike r) .block
  else if beginsOp ".." ts then rangeFrom r braces .empty
  else if beginsWord "_" ts then other (keyword "_")
  else fail "expected an expression"

/-- An operand: unary operators, an atom and what follows it at once. -/
def operand (r : Rules) (braces : Bool) : Reader ExprCode := do
  let start ← get
  let attributes ← outerAttributes r
  let ts ← get
  if beginsOp "&" ts then
    let sign ← op "&"
    let isRaw ← codeIf (fun ts => beginsWord "raw" ts && beginsAnyWord ["mut", "const"] (ts.drop 1))
      (keyword "raw")
    let isMut ← keywordCode? "mut"
    let isConst ← if isRaw.toTokens.isEmpty || !isMut.toTokens.isEmpty then pure .empty
      else keyword "const"
    let e ← r.operand braces
    return under attributes (.of (.seq [sign, isRaw, isMut, isConst, e.code]) .other)
  else if beginsAnyOp ["*", "!", "-"] ts then
    let sign ← if beginsOp "*" ts then op "*" else if beginsOp "!" ts then op "!" else op "-"
    let e ← r.operand braces
    return under attributes (.of (.seq [sign, e.code]) .other)
  else
    let e ← trailers r (← atom r braces)
    match e.form with
    | .verbatim =>
      let rest ← get
      return .of (.raw (start.take (start.length - rest.length))) .verbatim
    | .range =>
      if attributes.isEmpty then return e
      else refuse "attributes are not allowed on range expressions starting with `..`"
    | _ => return under attributes e
where
  under (attributes : List Attribute) (e : ExprCode) : ExprCode := e.under attributes

/-- An expression. -/
def expr (r : Rules) (braces : Bool) : Reader ExprCode := do
  r.climb braces (← r.operand braces) .jump

end ReactiveModel.Grammar
