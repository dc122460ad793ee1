import ReactiveModel.Grammar.Function

/-!
# Members of traits, impl blocks and foreign blocks

A member that is accepted but has no meaning where it stands is kept as it is written: a function
without a body in an impl block, a generic constant, a type with both bounds and a definition.
-/

namespace ReactiveModel.Grammar

open Ahead Reader

/-- The tokens from the given point of the stream up to here, as they stand. -/
def asWritten (start : List Token) : Reader Code := do
  let rest ← get
  return .raw (start.take (start.length - rest.length))

/-! ## Macros, constants and types -/

/-- Whether the path of a macro can begin here. -/
def beginsMacroPath (ts : List Token) : Bool :=
  beginsName ts || beginsOp "::" ts || beginsAnyWord ["self", "super", "crate"] ts

/-- A macro as a member; a semicolon must follow unless its tokens are in braces. -/
def macroMember : Reader Code := do
  let path ← plainPath
  let (tail, braced) ← invocationTail
  return .seq [.raw path.toTokens, tail, ← if braced then pure .empty else op ";"]

/-- A constant, with whether it has a value and whether it is generic. -/
structure ConstCode where
  code : Code
  hasValue : Bool
  isGeneric : Bool

/-- A constant. -/
def constant (r : Rules) : Reader ConstCode := do
  let start ← keyword "const"
  let i ← if ← sees beginsNameOrBlank then anyIdent else fail "expected identifier or `_`"
  let angled ← sees (beginsOp "<")
  let g ← generics r
  let colon ← op ":"
  let type ← r.type true
  let value ← codeIf (beginsOp "=") do return .seq [← op "=", (← r.expr true).code]
  let restricted ← sees (beginsWord "where")
  let g ← constrained r g
  let stop ← op ";"
  return ⟨.seq [start, .ident i, g.declared, colon, type.code, value, g.whereClause, stop],
    !value.toTokens.isEmpty, angled || restricted⟩

/-- A type as a member or an item. -/
structure AliasCode where
  /-- The name and the parameters. -/
  head : Code
  /-- The bounds, if there is a colon. -/
  bounds : Option (Separated Code)
  /-- The type it stands for, with the equals sign. -/
  definition : Option Code
  whereClause : Code

/-- A type, with a where clause before its definition, after it or at either place. -/
def typeAlias (r : Rules) (before after : Bool) : Reader AliasCode := do
  discard (keyword "type")
  let i ← name
  let g ← generics r
  let bounds ← if ← op? ":" then
      some <$> separated stop "+" ((·.code) <$> r.bound false true)
    else pure none
  let g ← if before then constrained r g else pure g
  let definition ← if ← op? "=" then pure (some (Code.seq [.op "=", (← r.type true).code]))
    else pure none
  let g ← if after && g.predicates.isEmpty then constrained r g else pure g
  discard (op ";")
  return ⟨.seq [.keyword "type", .ident i, g.declared], bounds, definition, g.whereClause⟩
where
  stop (ts : List Token) : Bool := beginsWord "where" ts || beginsAnyOp ["=", ";"] ts

/-! ## Impl blocks -/

/-- A member of an impl block. -/
def implItem (r : Rules) : Reader ImplItem := do
  let start ← get
  let attributes ← outerAttributes r
  let visible ← visibility
  let isDefault ← if ← sees fun ts => beginsWord "default" ts && !beginsOp "!" (ts.drop 1) then
      keyword? "default"
    else pure false
  let head := Code.seq [Attribute.outer .elsewhere attributes, visible.toCode,
    if isDefault then .keyword "default" else .empty]
  let ts ← get
  if beginsSignature false ts then
    let s ← signature r
    if ← op? ";" then return .other (← asWritten start)
    let (inner, body) ← functionBody r
    return .method ⟨attributes ++ inner, visible, isDefault, s, body⟩
  else if beginsWord "const" ts then
    let c ← constant r
    if c.hasValue && !c.isGeneric then return .other (.seq [head, c.code])
    else return .other (← asWritten start)
  else if beginsWord "type" ts then
    let t ← typeAlias r false true
    match t.bounds, t.definition with
    | none, some definition =>
      return .other (.seq [head, t.head, definition.before t.whereClause, .op ";"])
    | _, _ => return .other (← asWritten start)
  else if visible.isInherited && !isDefault && beginsMacroPath ts then
    return .other (.seq [head, ← macroMember])
  else fail "expected an item of an impl block"

/-! ## Traits -/

/-- A member of a trait after its attributes and what may stand before it. -/
def traitItemTail (r : Rules) (start : List Token) (attributes : List Attribute) (plain : Bool) :
    Reader Code := do
  let head := Attribute.outer .elsewhere attributes
  let ts ← get
  if beginsSignature false ts then
    let s ← signature r
    if ← op? ";" then return .seq [head, s.toCode, .op ";"]
    return .seq [head, ← blockAfter r s.toCode r.statements]
  else if beginsWord "const" ts then
    let c ← constant r
    if c.isGeneric then asWritten start else return .seq [head, c.code]
  else if beginsWord "type" ts then
    let t ← typeAlias r false true
    let bounds := t.bounds.getD []
    let definition := Code.seq [afterColon bounds, t.definition.getD .empty]
    return .seq [head, t.head, definition.before t.whereClause, .op ";"]
  else if plain && beginsMacroPath ts then return .seq [head, ← macroMember]
  else fail "expected an item of a trait"

/-- A member of a trait; one with a visibility or `default` is kept as it is written. -/
def traitItem (r : Rules) : Reader Code := do
  let start ← get
  let attributes ← outerAttributes r
  let visible ← visibility
  let isDefault ← keyword? "default"
  let code ← traitItemTail r start attributes (visible.isInherited && !isDefault)
  if visible.isInherited && !isDefault then return code else asWritten start

/-! ## Foreign blocks -/

/-- A member of a foreign block. -/
def foreignItem (r : Rules) : Reader Code := do
  let start ← get
  let attributes ← outerAttributes r
  let visible ← visibility
  let head := Code.seq [Attribute.outer .elsewhere attributes, visible.toCode]
  let ts ← get
  if beginsSignature true ts then
    let (s, isSafe) ← safeSignature
    if ← sees (beginsGroup .brace) then
      discard (functionBody r)
      asWritten start
    else
      discard (op ";")
      if isSafe then asWritten start else return .seq [head, s.toCode, .op ";"]
  else if beginsWord "static" ts ||
    (beginsAnyWord ["unsafe", "safe"] ts && beginsWord "static" (ts.drop 1)) then
    let marked ← sees (beginsAnyWord ["unsafe", "safe"])
    if marked then discard anyIdent
    let word ← keyword "static"
    let isMut ← keywordCode? "mut"
    let i ← name
    let colon ← op ":"
    let type ← r.type true
    let hasValue ← op? "="
    if hasValue then discard (r.expr true)
    discard (op ";")
    if marked || hasValue then asWritten start
    else return .seq [head, word, isMut, .ident i, colon, type.code, .op ";"]
  else if beginsWord "type" ts then
    let t ← typeAlias r true true
    match t.bounds, t.definition with
    | none, none => return .seq [head, t.head, t.whereClause, .op ";"]
    | _, _ => asWritten start
  else if visible.isInherited && beginsMacroPath ts then return .seq [head, ← macroMember]
  else fail "expected an item of a foreign block"
where
  /-- A signature in which `safe` may stand, and whether it does. -/
  safeSignature : Reader (Signature × Bool) := do
    let ts ← get
    let safes := ts.takeWhile fun t => !beginsWord "fn" [t]
    if safes.any fun t => beginsWord "safe" [t] then
      set (safes.filter (fun t => !beginsWord "safe" [t]) ++ ts.drop safes.length)
      return (← signature r, true)
    else return (← signature r, false)

end ReactiveModel.Grammar
