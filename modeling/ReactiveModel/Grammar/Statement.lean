import ReactiveModel.Grammar.Item

/-!
# Statements

A statement is a declaration of variables, an item, a macro or an expression. An expression needs a
semicolon after it unless it is over with its closing brace or is the last of its block.
-/

namespace ReactiveModel.Grammar

open Ahead Reader

/-! ## Which statement stands here -/

/-- Whether a macro that is given a name stands here. -/
def beginsNamedMacro (ts : List Token) : Bool :=
  match plainPath ts with
  | .ok (_, rest) =>
    let next := skip rest
    beginsOp "!" rest && (beginsName next || beginsWord "try" next)
  | .error _ => false

/-- Whether a macro with its tokens in braces stands here that nothing is taken from. -/
def beginsBracedMacro (ts : List Token) : Bool :=
  match plainPath ts with
  | .ok (_, rest) =>
    let next := skip (skip rest)
    beginsOp "!" rest && beginsGroup .brace (skip rest) &&
      !(beginsAccess next || beginsOp "?" next)
  | .error _ => false

/-- Whether a static variable stands here, and not a closure. -/
def beginsStatic (ts : List Token) : Bool :=
  let next := ts.drop 1
  let third := next.drop 1
  beginsWord "static" ts && (beginsWord "mut" next ||
    (beginsName next && !(beginsWord "async" next &&
      (beginsWord "move" third || beginsOp "|" third))))

/-- Whether a constant or a constant function stands here, and not an expression. -/
def beginsConstItem (ts : List Token) : Bool :=
  let next := ts.drop 1
  beginsWord "const" ts && !(beginsGroup .brace next || beginsAnyWord ["static", "move"] next ||
    beginsOp "|" next ||
    (beginsWord "async" next && !beginsAnyWord ["unsafe", "extern", "fn"] (next.drop 1)))

/-- Whether an item stands here. -/
def beginsItem (ts : List Token) : Bool :=
  let next := skip ts
  beginsAnyWord ["pub", "extern", "use", "fn", "mod", "type", "struct", "enum", "trait", "impl",
    "macro"] ts ||
  (beginsWord "crate" ts && !beginsOp "::" next) || beginsStatic ts || beginsConstItem ts ||
  (beginsWord "unsafe" ts && !beginsGroup .brace next) ||
  (beginsWord "async" ts && beginsAnyWord ["unsafe", "extern", "fn"] next) ||
  (beginsWord "union" ts && beginsName next) ||
  (beginsWord "auto" ts && beginsWord "trait" next) ||
  (beginsWord "default" ts && beginsAnyWord ["unsafe", "impl"] next) ||
  beginsNamedMacro ts

/-! ## Statements -/

/-- Whether the code ends with a closing brace. -/
def endsWithBrace (c : Code) : Bool :=
  match c.toTokens.getLast? with
  | some (.group .brace _) => true
  | _ => false

/-- A declaration of variables after its attributes. -/
def declaration (r : Rules) : Reader Code := do
  let start ← keyword "let"
  let p ← r.pattern
  let type ← codeIf (beginsOp ":") do return .seq [← op ":", (← r.type true).code]
  let value ← codeIf (beginsOp "=") do
    let sign ← op "="
    let value ← r.expr true
    let otherwise ← codeIf (fun ts => beginsWord "else" ts && !endsWithBrace value.code) do
      return .seq [← keyword "else", ← bareBlock r]
    return .seq [sign, value.code, otherwise]
  return .seq [start, p.code, type, value, ← op ";"]

/-- A statement, and whether another may follow it without a semicolon. -/
def statement (r : Rules) : Reader (Code × Bool) := do
  let start ← get
  let attributes ← outerAttributes r
  let before := Attribute.outer .elsewhere attributes
  let ts ← get
  if beginsBracedMacro ts then
    let path ← plainPath
    let (tail, _) ← invocationTail
    return (.seq [before, .raw path.toTokens, tail, ← codeIf (beginsOp ";") (op ";")], true)
  else if beginsWord "let" ts then return (.seq [before, ← declaration r], true)
  else if beginsItem ts then
    set start
    return ((← r.item).toCode, true)
  else
    let e := (← r.bounded).under attributes
    if ← op? ";" then return (.seq [e.code, .op ";"], true)
    else return (e.code, e.form == .block || e.form == .invocation true)

/-- The statements up to the end of a block. -/
def statements (r : Rules) : Reader Code := do
  let parts ← toEnd do
    if ← sees (beginsOp ";") then op ";"
    else
      let (code, isClosed) ← statement r
      if isClosed || (← get).isEmpty then return code
      else fail "unexpected token, expected `;`"
  return .seq parts

end ReactiveModel.Grammar
