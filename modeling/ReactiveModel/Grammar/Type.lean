import ReactiveModel.Grammar.Path

/-!
# Types

A type is read as far as it goes; `+` belongs to it only where bounds may follow one another.
Bounds without `dyn` are a type, too, so a path that `+` follows is the first of several.
-/

namespace ReactiveModel.Grammar

open Ahead Reader

/-! ## Macros -/

/-- The tokens of a macro invocation from the exclamation mark on, and whether they are in
braces. -/
def invocationTail : Reader (Code × Bool) := do
  let bang ← op "!"
  let (delimiter, tokens) ← anyGroup
  return (.seq [bang, .invocation delimiter tokens], delimiter == .brace)

/-- Whether an exclamation mark stands here that is not part of `!=`. -/
def beginsBang (ts : List Token) : Bool := beginsOp "!" ts && !beginsOp "!=" ts

/-! ## Types in parentheses -/

/-- More bounds, each after a `+`. -/
def moreBounds (r : Rules) : Reader (List Code) :=
  many do
    if ← op? "+" then return some (.seq [.op "+", (← r.bound false false).code])
    else return none

/-- A type in parentheses, a tuple, or a bound in parentheses with those that follow it. -/
def enclosedType (r : Rules) (plus : Bool) : Reader TypeCode := do
  if ← sees (inside (·.isEmpty)) then
    discard anyGroup
    return ⟨.group .parenthesis .empty, .other⟩
  if ← sees (inside (beginsOp "?")) then
    let (code, _) ← group .parenthesis (traitBound r false)
    return several (.group .parenthesis code) (← moreBounds r)
  let (first, rest) ← group .parenthesis do
    let first ← r.type true
    if ← op? "," then return (first, some (← commas ((·.code) <$> r.type true)))
    else return (first, none)
  match rest with
  | some rest =>
    let elements := .seq [first.code, .op ",", Separated.toCode "," id rest]
    return ⟨.group .parenthesis elements, .other⟩
  | none =>
    let code := Code.group .parenthesis first.code
    if plus && (← sees (beginsOp "+")) then
      match first.form with
      | .path ⟨_, false, _, _⟩ => return several code (← moreBounds r)
      | .bound => return several (once first.code) (← moreBounds r)
      | _ => return ⟨code, .other⟩
    else return ⟨code, .other⟩
where
  inside (p : List Token → Bool) : List Token → Bool
    | .group .parenthesis body :: _ => p body
    | _ => false
  several (first : Code) (more : List Code) : TypeCode :=
    ⟨.seq (first :: more), if more.isEmpty then .bound else .other⟩
  /-- A bound that stands in parentheses already needs no others. -/
  once : Code → Code
    | .seq [.group .parenthesis code] => .group .parenthesis code
    | code => .group .parenthesis code

/-! ## Function pointers -/

/-- The calling convention, if one is declared. -/
def convention : Reader (Option Code) := do
  if ← sees (beginsWord "extern") then
    let start ← keyword "extern"
    return some (.seq [start, ← codeIf beginsString literal])
  else return none

/-- A name with a colon after it, but not two. -/
def isLabel (isName : List Token → Bool) (ts : List Token) : Bool :=
  isName ts && beginsOp ":" (skip ts) && !beginsOp "::" (skip ts)

/-- Whether a name or `_` stands here. -/
def beginsNameOrBlank (ts : List Token) : Bool := beginsName ts || beginsWord "_" ts

/-- A parameter of a function pointer after its attributes. Only the first may be `self`; with
`mut` before it the parameter is kept as it stands. -/
def pointerParam (r : Rules) (first : Bool) : Reader Code := do
  let label := isLabel fun ts => beginsNameOrBlank ts || (first && beginsWord "self" ts)
  if ← sees fun ts => first && beginsWord "mut" ts && beginsWord "self" (ts.drop 1) then
    let (_, code) ← verbatim do
      discard (keyword "mut")
      if ← sees label then
        discard anyIdent
        discard (op ":")
        discard (r.type true)
      else discard (keyword "self")
    return code
  let labelled ← codeIf label do return .seq [.ident (← anyIdent), ← op ":"]
  return .seq [labelled, (← r.type true).code]

/-- The parameters of a function pointer; dots, which may have a name, end them. -/
def pointerParams (r : Rules) : Reader Code := do
  let params ← loop (fun params => do
    if ← sees (·.isEmpty) then return (params, false)
    let attributes ← plainAttributes r
    if ← sees dotsHere then
      let label ← codeIf beginsNameOrBlank do return .seq [.ident (← anyIdent), ← op ":"]
      let dots ← op "..."
      let comma ← codeIf (beginsOp ",") (op ",")
      return (params ++ [.seq [attributes, label, dots, comma]], false)
    let param := Code.seq [attributes, ← pointerParam r params.isEmpty]
    if ← sees (·.isEmpty) then return (params ++ [param], false)
    let comma ← op ","
    return (params ++ [.seq [param, comma]], true)) []
  return .seq params
where
  dotsHere (ts : List Token) : Bool :=
    beginsOp "..." ts ||
      (beginsNameOrBlank ts && beginsOp ":" (skip ts) && beginsOp "..." ((skip ts).drop 1))

/-- A function pointer. -/
def pointerType (r : Rules) : Reader Code := do
  let isUnsafe ← keywordCode? "unsafe"
  let abi ← convention
  let start ← keyword "fn"
  let params ← group .parenthesis (pointerParams r)
  return .seq [isUnsafe, abi.getD .empty, start, .group .parenthesis params,
    outputCode (← output? r false)]

/-! ## All types -/

/-- A type that begins with a path: the path itself, a macro or bounds. -/
def namedType (r : Rules) (plus : Bool) (before : Code) (bound : Bool) : Reader TypeCode := do
  let p ← qualifiedPath r false
  if p.qualified then return ⟨p.code, .path p⟩
  if p.isPlain && (← sees beginsBang) then
    return ⟨.seq [p.code, (← invocationTail).1], .other⟩
  let first := Code.seq [before, p.code]
  if plus && (← sees (beginsOp "+")) then
    let sum ← op "+"
    let more ← codeIf (bounds.beginsBound false) do return (← bounds r true false false).2
    return ⟨.seq [first, sum, more], .other⟩
  return if bound then ⟨first, .bound⟩ else ⟨p.code, .path p⟩

/-- Whether a type stands here that is a path or begins with one. -/
def beginsNamedType (ts : List Token) : Bool :=
  beginsName ts || beginsAnyWord ["super", "self", "Self", "crate"] ts

/-- Whether a function pointer stands here. -/
def beginsPointerType (ts : List Token) : Bool := beginsAnyWord ["fn", "unsafe", "extern"] ts

/-- What is missed where no type stands. -/
def typeExpected : String :=
  "expected one of: `for`, parentheses, `fn`, `unsafe`, `extern`, identifier, `::`, `<`, `dyn`, " ++
    "square brackets, `*`, `&`, `!`, `impl`, `_`, lifetime"

/-- What is missed where no type stands after lifetimes. -/
def boundTypeExpected : String :=
  "expected one of: identifier, `fn`, `unsafe`, `extern`, `super`, `self`, `Self`, `crate`"

/-- A type; `plus` allows several bounds. -/
def type (r : Rules) (plus : Bool) : Reader TypeCode := do
  if ← sees (beginsWord "for") then
    let before ← binder r
    if ← sees beginsPointerType then return ⟨.seq [before, ← pointerType r], .other⟩
    else if ← sees beginsNamedType then namedType r plus before true
    else fail boundTypeExpected
  else if ← sees (beginsGroup .parenthesis) then enclosedType r plus
  else if ← sees beginsPointerType then return ⟨← pointerType r, .other⟩
  else if ← sees fun ts => beginsNamedType ts || beginsAnyOp ["::", "<"] ts then
    namedType r plus .empty false
  else if ← sees (beginsWord "dyn") then
    let ((code, isStarred), asWritten) ← verbatim do
      let start ← keyword "dyn"
      let isStarred ← op? "*"
      return (Code.seq [start, ← traitBounds r plus false], isStarred)
    return ⟨if isStarred then asWritten else code, .other⟩
  else if ← sees (beginsGroup .bracket) then
    let body ← group .bracket do
      let element ← r.type true
      if ← op? ";" then return Code.seq [element.code, .op ";", (← r.expr true).code]
      else return element.code
    return ⟨.group .bracket body, .other⟩
  else if ← sees (beginsOp "*") then
    let star ← op "*"
    let mode ← if ← sees (beginsWord "const") then keyword "const" else keyword "mut"
    return ⟨.seq [star, mode, (← r.type false).code], .other⟩
  else if ← sees (beginsOp "&") then
    let start ← op "&"
    let life ← lifetime?
    let isMut ← keywordCode? "mut"
    let life := Code.raw ((life.map Token.lifetime).getD [])
    return ⟨.seq [start, life, isMut, (← r.type false).code], .other⟩
  else if ← sees fun ts => beginsBang ts then return ⟨← op "!", .other⟩
  else if ← sees (beginsWord "impl") then
    return ⟨.seq [← keyword "impl", ← traitBounds r plus true], .other⟩
  else if ← sees (beginsWord "_") then return ⟨← keyword "_", .other⟩
  else if ← sees beginsLifetime then return ⟨← traitBounds r true false, .other⟩
  else fail typeExpected

end ReactiveModel.Grammar
