import ReactiveModel.Grammar.Rules

/-!
# Paths, bounds and generic parameters

In a type the arguments of a segment may follow it at once; in an expression they need `::` before
them, since `<` is an operator there. Lists in angle brackets are written back with the lifetimes
first.
-/

namespace ReactiveModel.Grammar

open Ahead Reader

/-! ## Arguments of segments -/

/-- A constant as an argument: a literal, a name or a block. -/
def constArgument (r : Rules) : Reader Code := do
  if ← sees beginsLiteral then literal
  else if ← sees beginsName then return .name (← name)
  else if ← sees (beginsGroup .brace) then block r
  else fail "expected one of: literal, identifier, curly braces"

/-- Whether a constant stands here that cannot be taken for a type. -/
def beginsConstant (ts : List Token) : Bool := beginsLiteral ts || beginsGroup .brace ts

/-- Bounds joined by `+`, up to where the list stops. -/
def boundList (r : Rules) (stop : List String) : Reader (Separated Code) :=
  joined (beginsAnyOp stop) "+" ((·.code) <$> r.bound false true)

/-- A generic argument: whether it is a lifetime, and its code. -/
def genericArgument (r : Rules) : Reader (Bool × Code) := do
  if ← sees fun ts => beginsLifetime ts && !beginsOp "+" (skip ts) then
    return (true, .raw (Token.lifetime (← lifetime)))
  if ← sees beginsConstant then return (false, ← constArgument r)
  let argument ← r.type true
  match argument.form with
  | .path ⟨_, false, false, [_]⟩ =>
    if ← op? "=" then
      let value ← if ← sees beginsConstant then constArgument r else (·.code) <$> r.type true
      return (false, .seq [argument.code, .op "=", value])
    if ← op? ":" then
      let bounds ← boundList r [",", ">"]
      return (false, .seq [argument.code, .op ":", Separated.toCode "+" id bounds])
    return (false, argument.code)
  | _ => return (false, argument.code)

/-- Generic arguments in angle brackets, `::` before them allowed. -/
def angleArguments (r : Rules) : Reader Code := do
  let apart ← op? "::"
  let less ← op "<"
  let arguments ← separated (beginsOp ">") "," (genericArgument r)
  return .seq [if apart then .op "::" else .empty, less,
    Generics.lifetimesFirst (·.1) (·.2) arguments, ← op ">"]

/-- A return type, if there is one. -/
def output? (r : Rules) (plus : Bool) : Reader (Option TypeCode) := do
  if ← op? "->" then return some (← r.type plus) else return none

/-- A return type as it is written. -/
def outputCode (output : Option TypeCode) : Code :=
  match output with
  | none => .empty
  | some type => .seq [.op "->", type.code]

/-- Types in parentheses and the return type after them. -/
def callArguments (r : Rules) : Reader Code := do
  let inputs ← group .parenthesis (commas ((·.code) <$> r.type true))
  return .seq [.group .parenthesis (Separated.toCode "," id inputs), outputCode (← output? r false)]

/-- Whether types in parentheses stand here, `::` before them allowed. -/
def beginsCallArguments (ts : List Token) : Bool :=
  beginsGroup .parenthesis ts || (beginsOp "::" ts && beginsGroup .parenthesis (ts.drop 2))

/-! ## Paths -/

/-- One segment of a path with its arguments. -/
def segment (r : Rules) (inExpr : Bool) : Reader (Code × Ident × Bool) := do
  if ← sees (beginsAnyWord ["super", "self", "crate", "try"]) then
    let i ← anyIdent
    return (.ident i, i, false)
  let i ← if ← sees (beginsWord "Self") then anyIdent else name
  let applied ← sees fun ts =>
    (!inExpr && beginsOp "<" ts && !beginsOp "<=" ts) ||
      (beginsOp "::" ts && beginsOp "<" (ts.drop 2))
  if applied then return (.seq [.ident i, ← angleArguments r], i, true)
  else return (.ident i, i, false)

/-- The segments that follow the first ones. -/
def moreSegments (r : Rules) (inExpr : Bool) : Reader (List (Code × Ident × Bool)) :=
  many do
    if ← sees fun ts => beginsOp "::" ts && !beginsGroup .parenthesis (ts.drop 2) then
      discard (op "::")
      return some (← segment r inExpr)
    else return none

/-- A path with more segments. -/
def PathCode.extend (p : PathCode) (more : List (Code × Ident × Bool)) : PathCode :=
  { p with
    code := .seq (p.code :: more.flatMap fun (code, _) => [.op "::", code])
    segments := p.segments ++ more.map (·.2) }

/-- A path. -/
def path (r : Rules) (inExpr : Bool) : Reader PathCode := do
  let global ← op? "::"
  let (code, first) ← segment r inExpr
  let start : PathCode := ⟨.seq [if global then .op "::" else .empty, code], false, global, [first]⟩
  return start.extend (← moreSegments r inExpr)

/-- A path that may begin with a type in angle brackets. -/
def qualifiedPath (r : Rules) (inExpr : Bool) : Reader PathCode := do
  if ← sees (beginsOp "<") then
    let less ← op "<"
    let self ← r.type true
    let implemented ← codeIf (beginsWord "as") do
      return .seq [← keyword "as", (← path r false).code]
    let greater ← op ">"
    discard (op "::")
    let rest ← loop (fun rest => do
      let next ← segment r inExpr
      let more ← op? "::"
      return (rest ++ [next], more)) []
    let start : PathCode := ⟨.seq [less, self.code, implemented, greater], true, false, []⟩
    return start.extend rest
  else path r inExpr

/-! ## Generic parameters -/

/-- Bounds after their colon; a colon without bounds is dropped. -/
def afterColon (bounds : Separated Code) : Code :=
  if bounds.isEmpty then .empty else .seq [.op ":", Separated.toCode "+" id bounds]

/-- A parameter of a generic declaration; `_` stands for one only where it is allowed. -/
def genericParam (r : Rules) (blank : Bool) : Reader GenericParam := do
  let attributes ← plainAttributes r
  if ← sees beginsLifetime then
    let i ← lifetime
    let bounds ← if ← op? ":" then
        joined (beginsAnyOp [",", ">"]) "+" ((fun i => Code.raw (Token.lifetime i)) <$> lifetime)
      else pure []
    return .lifetime attributes i (afterColon bounds)
  else if ← sees beginsName then
    let i ← name
    let bounds ← if ← op? ":" then boundList r [",", ">", "="] else pure []
    let default ← codeIf (beginsOp "=") do return .seq [← op "=", (← r.type true).code]
    return .type attributes i (afterColon bounds) default
  else if ← keyword? "const" then
    let i ← name
    discard (op ":")
    let valueType ← r.type true
    let default ← codeIf (beginsOp "=") do return .seq [← op "=", ← constArgument r]
    return .const attributes i valueType.code default
  else if ← sees fun ts => blank && beginsWord "_" ts then
    return .type attributes (← anyIdent) .empty .empty
  else fail "expected one of: lifetime, identifier, `const`, `_`"

/-- The parameters of a generic declaration, in angle brackets. -/
def genericParams (r : Rules) : Reader (Separated GenericParam) := do
  if ← sees (beginsOp "<") then
    discard (op "<")
    let params ← separated (beginsOp ">") "," (genericParam r true)
    discard (op ">")
    return params
  else return []

/-- Parameters bound by `for<...>`, if there are some. -/
def binder (r : Rules) : Reader Code :=
  codeIf (beginsWord "for") do
    let start ← keyword "for"
    let less ← op "<"
    let params ← separated (beginsOp ">") "," (genericParam r false)
    return .seq [start, less, Separated.toCode "," GenericParam.declared params, ← op ">"]

/-! ## Bounds -/

/-- A trait as a bound: a path with what may stand before and after it; and whether the bound is
constant. -/
def traitBound (r : Rules) (constants : Bool) : Reader (Code × Bool) := do
  let bindsFirst ← sees (beginsWord "for")
  let before ← binder r
  let isBracketed ← sees (beginsGroup .bracket)
  if isBracketed then discard (group .bracket (keyword "const"))
  let isConst ← if isBracketed then pure true else keyword? "const"
  if isConst && !constants then refuse "`const` is not allowed here"
  let maybe ← op? "?"
  let after ← if maybe && !bindsFirst then binder r else pure .empty
  let path ← path r false
  let inputs ← if path.isOpen && (← sees beginsCallArguments) then
      discard (op? "::")
      callArguments r
    else pure .empty
  if maybe && bindsFirst then
    refuse "`for<...>` binder not allowed with `?` trait polarity modifier"
  return (.seq [if maybe then .op "?" else .empty, before, after, path.code, inputs], isConst)

/-- The generic parameters that an opaque type captures. -/
def captures : Reader Code := do
  let start ← keyword "use"
  let less ← op "<"
  let params ← separated (beginsOp ">") "," do
    if ← sees beginsLifetime then return (true, Code.raw (Token.lifetime (← lifetime)))
    else if ← sees (beginsWord "Self") then return (false, Code.ident (← anyIdent))
    else return (false, Code.ident (← name))
  return .seq [start, less, Generics.lifetimesFirst (·.1) (·.2) params, ← op ">"]

/-- One bound: a lifetime, a capture or a trait, which may stand in parentheses. A constant trait is
kept as it stands. -/
def bound (r : Rules) (capture constants : Bool) : Reader BoundCode := do
  if ← sees beginsLifetime then return ⟨.raw (Token.lifetime (← lifetime)), false⟩
  if ← sees (beginsWord "use") then
    let code ← captures
    if capture then return ⟨code, false⟩
    else refuse "`use<...>` precise capturing syntax is not allowed here"
  let ((code, isConst), asWritten) ← verbatim do
    if ← sees (beginsGroup .parenthesis) then
      let (code, isConst) ← group .parenthesis (traitBound r constants)
      return (Code.group .parenthesis code, isConst)
    else traitBound r constants
  return ⟨if isConst then asWritten else code, true⟩

/-- Bounds joined by `+`, several only if that is allowed. A `+` that no bound follows ends them. -/
def bounds (r : Rules) (plus capture constants : Bool) : Reader (List BoundCode × Code) := do
  let bounds ← loop (fun bounds => do
    let bound ← r.bound capture constants
    if plus && (← sees (beginsOp "+")) then
      discard (op "+")
      return (bounds ++ [(bound, true)], ← sees (beginsBound constants))
    else return (bounds ++ [(bound, false)], false)) []
  return (bounds.map (·.1), Separated.toCode "+" BoundCode.code bounds)
where
  beginsBound (constants : Bool) (ts : List Token) : Bool :=
    beginsIdent ts || beginsAnyOp ["::", "?"] ts || beginsLifetime ts ||
      beginsGroup .parenthesis ts || (constants && beginsGroup .bracket ts)

/-- Bounds of which one at least is a trait. -/
def traitBounds (r : Rules) (plus opaqueType : Bool) : Reader Code := do
  let (bounds, code) ← bounds r plus opaqueType opaqueType
  if bounds.any (·.isTrait) then return code
  else refuse "at least one trait is required for an object type"

end ReactiveModel.Grammar
