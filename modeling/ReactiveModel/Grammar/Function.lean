import ReactiveModel.Grammar.Expression

/-!
# Function heads, visibilities and where clauses

The parts of a declaration before its body. A receiver is tried before a pattern, since both may
begin with `self` or `mut`.
-/

namespace ReactiveModel.Grammar

open Ahead Reader

/-! ## Visibilities -/

/-- A visibility. Parentheses after `pub` belong to it only if they hold a scope, and nothing else;
otherwise they begin a type. -/
def visibility : Reader Visibility := do
  if ← keyword? "pub" then
    match ← get with
    | .group .parenthesis (.word i :: path) :: rest =>
      if i.isWord "in" then
        let scope ← whole (some .parenthesis) plainPath path
        set rest
        return .restricted (.word i :: scope.toTokens)
      else if path.isEmpty && ["crate", "self", "super"].any i.isWord then
        set rest
        return .restricted [.word i]
      else return .everyone
    | _ => return .everyone
  else return .inherited

/-! ## Where clauses -/

/-- Whether a where clause stops here. -/
def endsWhere (ts : List Token) : Bool :=
  ts.isEmpty || beginsGroup .brace ts || beginsAnyOp [",", ";", "="] ts ||
    (beginsOp ":" ts && !beginsOp "::" ts)

/-- A predicate of a where clause. -/
def wherePredicate (r : Rules) : Reader Code := do
  if ← sees fun ts => beginsLifetime ts && beginsOp ":" (skip ts) then
    let i ← lifetime
    let colon ← op ":"
    let bounds ← joined (fun ts => endsWhere ts || beginsOp ":" ts) "+"
      ((fun i => Code.raw (Token.lifetime i)) <$> lifetime)
    return .seq [.raw (Token.lifetime i), colon, Separated.toCode "+" id bounds]
  else
    let bound ← binder r
    let bounded ← r.type true
    let colon ← op ":"
    let bounds ← joined endsWhere "+" ((·.code) <$> r.bound false true)
    return .seq [bound, bounded.code, colon, Separated.toCode "+" id bounds]

/-- The predicates of a where clause, if there is one. -/
def wherePredicates (r : Rules) : Reader (Separated Code) := do
  if ← keyword? "where" then joined endsWhere "," (wherePredicate r) else return []

/-- Generic parameters without a where clause. -/
def generics (r : Rules) : Reader Generics := do return ⟨← genericParams r, []⟩

/-- Generic parameters with the where clause after them. -/
def constrained (r : Rules) (g : Generics) : Reader Generics := do
  return { g with predicates := ← wherePredicates r }

/-! ## Parameters -/

/-- The receiver of a method. -/
def receiver (r : Rules) (attributes : List Attribute) : Reader Param := do
  let borrow ← if ← op? "&" then some <$> lifetime? else pure none
  let isMut ← keyword? "mut"
  discard (keyword "self")
  if ← sees fun ts => borrow.isNone && beginsOp ":" ts then
    discard (op ":")
    return .receiver attributes borrow isMut (some (← r.type true).code)
  else return .receiver attributes borrow isMut none

/-- Parameters, and dots for any number of them. -/
structure ParamList where
  params : Separated Param
  variadic : Option Code

/-- Dots after what names them, and a comma unless nothing follows. -/
def dots (before : Code) : Reader Code := do
  let dots ← op "..."
  return .seq [before, dots, ← codeIf (!·.isEmpty) (op ",")]

/-- One step of reading parameters, and whether there are more. -/
def paramStep (r : Rules) (list : ParamList) : Reader (ParamList × Bool) := do
  if ← sees (·.isEmpty) then return (list, false)
  let attributes ← outerAttributes r
  let before := Attribute.outer .elsewhere attributes
  if ← sees (beginsOp "...") then return ({ list with variadic := ← dots before }, false)
  if let some self ← attempt (receiver r attributes) then
    if list.params.isEmpty then next self else refuse "unexpected method receiver"
  else if ← sees fun ts => beginsName ts && beginsOp "<" (ts.drop 1) then
    next (.typed attributes (.keyword "_") (← r.type true).code)
  else
    let p ← r.pattern
    discard (op ":")
    if ← sees (beginsOp "...") then
      return ({ list with variadic := ← dots (.seq [before, p.code, .op ":"]) }, false)
    else next (.typed attributes p.code (← r.type true).code)
where
  next (param : Param) : Reader (ParamList × Bool) := do
    if ← sees (·.isEmpty) then
      return ({ list with params := list.params ++ [(param, false)] }, false)
    discard (op ",")
    return ({ list with params := list.params ++ [(param, true)] }, true)

/-! ## Signatures -/

/-- Whether the head of a function stands here; where it is allowed, `safe` may stand for
`unsafe`. -/
def beginsSignature (allowSafe : Bool) (ts : List Token) : Bool :=
  let after (word : String) (ts : List Token) := if beginsWord word ts then ts.drop 1 else ts
  let ts := after "async" (after "const" ts)
  let ts := if allowSafe && beginsWord "safe" ts then ts.drop 1 else after "unsafe" ts
  let ts := if beginsWord "extern" ts then
      let ts := ts.drop 1
      if beginsString ts then ts.drop 1 else ts
    else ts
  beginsWord "fn" ts

/-- The head of a function. -/
def signature (r : Rules) : Reader Signature := do
  let isConst ← keyword? "const"
  let isAsync ← keyword? "async"
  let isUnsafe ← keyword? "unsafe"
  let abi ← convention
  discard (keyword "fn")
  let i ← name
  let g ← generics r
  let list ← group .parenthesis (loop (paramStep r) ⟨[], none⟩)
  let output ← output? r true
  let g ← constrained r g
  return ⟨isConst, isAsync, isUnsafe, abi, i, g, list.params, list.variadic, output.map (·.code)⟩

/-- The body of a function: the attributes at its beginning and its statements. -/
def functionBody (r : Rules) : Reader (List Attribute × Code) :=
  group .brace do
    let attributes ← innerAttributes r
    return (attributes, ← r.statements)

end ReactiveModel.Grammar
