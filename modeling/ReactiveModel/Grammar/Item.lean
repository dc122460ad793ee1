import ReactiveModel.Grammar.Member

/-!
# Items

Structs and impl blocks are read in full, modules by their items, enums and unions by their
attributes and names; every other item is a tree. An item that is accepted but has no meaning, such
as a function without a body, is kept as it is written.
-/

namespace ReactiveModel.Grammar

open Ahead Reader

/-! ## Fields -/

/-- Fields without names. -/
def positionalFields (r : Rules) : Reader Code := do
  let fields ← group .parenthesis (commas do
    let attributes ← outerAttributes r
    let visible ← visibility
    return Code.seq [Attribute.outer .field attributes, visible.toCode, (← r.type true).code])
  return .group .parenthesis (Separated.toCode "," id fields)

/-- Named fields, given the type of a field without a name. -/
def namedFieldsWith (r : Rules) (unnamed : Reader Code) : Reader (Separated Field) :=
  group .brace (commas do
    let attributes ← outerAttributes r
    let visible ← visibility
    let blank ← sees (beginsWord "_")
    let i ← if blank then anyIdent else name
    discard (op ":")
    let isInPlace ← sees fun ts => blank &&
      (beginsWord "struct" ts || (beginsWord "union" ts && beginsGroup .brace (ts.drop 1)))
    let type ← if isInPlace then unnamed else (·.code) <$> r.type true
    return ⟨attributes, visible, i, type⟩)

/-- Named fields. A field without a name may declare its fields in place, which are kept as they
are written. -/
def namedFields (r : Rules) : Reader (Separated Field) :=
  namedFieldsWith r do
    let (_, code) ← verbatim do
      discard anyIdent
      discard (namedFieldsWith r (refuse "nesting too deep"))
    return code

/-- Named fields as a tree. -/
def fieldsCode (fields : Separated Field) : Code :=
  .group .brace (Separated.toCode "," Field.toCode fields)

/-! ## Types -/

/-- A struct from its keyword on. -/
def struct (r : Rules) (attributes : List Attribute) (visible : Visibility) : Reader Struct := do
  discard (keyword "struct")
  let i ← name
  let g ← generics r
  let constrainedFirst ← sees (beginsWord "where")
  let g ← constrained r g
  if ← sees fun ts => !constrainedFirst && beginsGroup .parenthesis ts then
    let fields ← positionalFields r
    let g ← constrained r g
    discard (op ";")
    return ⟨attributes, visible, i, g, .positional fields⟩
  else if ← sees (beginsGroup .brace) then
    return ⟨attributes, visible, i, g, .named (← namedFields r)⟩
  else
    discard (op ";")
    return ⟨attributes, visible, i, g, .unit⟩

/-- A variant of an enum; a visibility before it is dropped. -/
def variant (r : Rules) : Reader Code := do
  let attributes ← plainAttributes r
  discard visibility
  let i ← name
  let fields ← if ← sees (beginsGroup .brace) then fieldsCode <$> namedFields r
    else codeIf (beginsGroup .parenthesis) (positionalFields r)
  let value ← codeIf (beginsOp "=") do return .seq [← op "=", (← r.expr true).code]
  return .seq [attributes, .ident i, fields, value]

/-- An enum from its keyword on. -/
def enum (r : Rules) (attributes : List Attribute) (visible : Visibility) :
    Reader OtherType := do
  let start ← keyword "enum"
  let i ← name
  let g ← constrained r (← generics r)
  let variants ← group .brace (commas (variant r))
  return ⟨attributes, i, .seq [visible.toCode, start, .ident i, g.declared, g.whereClause,
    .group .brace (Separated.toCode "," id variants)]⟩

/-- A union from its keyword on. -/
def union (r : Rules) (attributes : List Attribute) (visible : Visibility) :
    Reader OtherType := do
  let start ← keyword "union"
  let i ← name
  let g ← constrained r (← generics r)
  let fields ← namedFields r
  return ⟨attributes, i, .seq [visible.toCode, start, .ident i, g.declared, g.whereClause,
    fieldsCode fields]⟩

/-! ## Modules and impl blocks -/

/-- A module from its qualifiers on. -/
def module (r : Rules) (attributes : List Attribute) (visible : Visibility) : Reader Module := do
  let isUnsafe ← keywordCode? "unsafe"
  discard (keyword "mod")
  let i ← if ← sees (beginsWord "try") then anyIdent else name
  let qualifiers := Code.seq [visible.toCode, isUnsafe]
  if ← op? ";" then return ⟨⟨attributes, qualifiers, i⟩, none⟩
  let (inner, items) ← group .brace do
    let inner ← innerAttributes r
    return (inner, ← toEnd r.item)
  return ⟨⟨attributes ++ inner, qualifiers, i⟩, some items⟩

/-- Whether generic parameters follow `impl`, and not a path that begins with a type in angle
brackets. -/
def beginsParams (ts : List Token) : Bool :=
  let first := ts.drop 1
  let second := skip first
  beginsOp "<" ts && (beginsAnyOp [">", "#"] first || beginsWord "const" first ||
    ((beginsLifetime first || beginsName first) &&
      (beginsAnyOp [">", ",", "="] second || (beginsOp ":" second && !beginsOp "::" second))))

/-- An impl block from its qualifiers on; none if it has no meaning where it stands. -/
def implBlock (r : Rules) (attributes : List Attribute) : Reader (Option Impl) := do
  let isDefault ← keywordCode? "default"
  let isUnsafe ← keywordCode? "unsafe"
  discard (keyword "impl")
  let g ← if ← sees beginsParams then generics r else pure Generics.empty
  let isConst ← sees fun ts =>
    beginsWord "const" ts || (beginsOp "?" ts && beginsWord "const" (ts.drop 1))
  if isConst then
    discard (op? "?")
    discard (keyword "const")
  let negative ← codeIf (fun ts => beginsOp "!" ts && !beginsGroup .brace (ts.drop 1)) (op "!")
  let first ← r.type true
  let (implemented, type, isPath) ← if ← keyword? "for" then do
      let isPath := match first.form with
        | .path p => !p.qualified
        | _ => false
      pure (some (Code.seq [negative, first.code, .keyword "for"]), ← r.type true, isPath)
    else if negative.toTokens.isEmpty then pure (none, first, true)
    else refuse "inherent impls cannot be negative"
  let g ← constrained r g
  let (inner, items) ← group .brace do
    let inner ← innerAttributes r
    return (inner, ← toEnd (implItem r))
  let self := match type.form with
    | .path p => if p.qualified then none else some ⟨p.global, p.segments.map (·.1)⟩
    | _ => none
  if isConst || !isPath then return none
  return some ⟨attributes ++ inner, .seq [isDefault, isUnsafe], g, implemented, self, type.code,
    items⟩

/-! ## Other items -/

/-- A foreign block from its qualifiers on. -/
def foreignBlock (r : Rules) (attributes : List Attribute) : Reader Item := do
  let isUnsafe ← keywordCode? "unsafe"
  let abi ← convention
  let (inner, body) ← group .brace do
    let inner ← innerAttributes r
    return (inner, Code.seq (← toEnd (foreignItem r)))
  return .other (.seq [Attribute.outer .elsewhere attributes, isUnsafe, abi.getD .empty,
    .group .brace (.seq [Attribute.inner .elsewhere inner, body])])

/-- A declaration of an external crate. -/
def externCrate : Reader Code := do
  let start ← keyword "extern"
  let word ← keyword "crate"
  let i ← if ← sees (beginsWord "self") then anyIdent else name
  let rename ← codeIf (beginsWord "as") do
    let sign ← keyword "as"
    return .seq [sign, .ident (← if ← sees (beginsWord "_") then anyIdent else name)]
  return .seq [start, word, .ident i, rename, ← op ";"]

/-- The names that an import names, at most `fuel` levels deep, and whether all of them can be
imported: below a path or another `::` none may begin with `::`. -/
def useTree (global : Bool) : (fuel : Nat) → Reader (Code × Bool)
  | 0 => refuse "nesting too deep"
  | fuel + 1 => do
    if ← sees fun ts => beginsName ts || beginsAnyWord ["self", "super", "crate", "try"] ts then
      let i ← anyIdent
      if ← op? "::" then
        let (code, isValid) ← useTree false fuel
        return (.seq [.ident i, .op "::", code], isValid)
      else if ← keyword? "as" then
        let rename ← if ← sees (beginsWord "_") then anyIdent else name
        return (.seq [.ident i, .keyword "as", .ident rename], true)
      else return (.ident i, true)
    else if ← sees (beginsOp "*") then return (← op "*", true)
    else
      let trees ← group .brace (commas do
        let isGlobal ← if global then op? "::" else pure false
        let (code, isValid) ← useTree (global && !isGlobal) fuel
        return (code, isValid && !isGlobal))
      return (.group .brace (Separated.toCode "," (·.1) trees), trees.all (·.1.2))

/-- A trait from its qualifiers on, or another name for bounds. -/
def trait (r : Rules) (attributes : List Attribute) (visible : Visibility) : Reader Code := do
  let isUnsafe ← keywordCode? "unsafe"
  let isAuto ← keywordCode? "auto"
  let start ← keyword "trait"
  let i ← name
  let g ← generics r
  let plain := isUnsafe.toTokens.isEmpty && isAuto.toTokens.isEmpty
  let before := Attribute.outer .elsewhere attributes
  let head := Code.seq [visible.toCode, isUnsafe, isAuto, start, .ident i, g.declared]
  let bound := (·.code) <$> r.bound false true
  if ← sees fun ts => plain && beginsOp "=" ts then
    let sign ← op "="
    let bounds ← separated (fun ts => beginsWord "where" ts || beginsOp ";" ts) "+" bound
    let g ← constrained r g
    let bounds := Code.seq [sign, Separated.toCode "+" id bounds]
    return .seq [before, head, bounds.before g.whereClause, ← op ";"]
  let bounds ← if ← op? ":" then
      separated (fun ts => beginsWord "where" ts || beginsGroup .brace ts) "+" bound
    else pure []
  let g ← constrained r g
  let head := Code.seq [head, (afterColon bounds).before g.whereClause]
  return .seq [before, ← blockAfter r head (.seq <$> toEnd (traitItem r))]

/-- A static variable; without a type or a value it has no meaning. -/
def static (r : Rules) : Reader (Option Code) := do
  let start ← keyword "static"
  let isMut ← keywordCode? "mut"
  let i ← name
  if ← op? "=" then
    discard (r.expr true)
    discard (op ";")
    return none
  let colon ← op ":"
  let type ← r.type true
  if ← op? ";" then return none
  let sign ← op "="
  let value ← r.expr true
  return some (.seq [start, isMut, .ident i, colon, type.code, sign, value.code, ← op ";"])

/-- A macro as an item; it may be given a name. -/
def macroItem : Reader Code := do
  let path ← plainPath
  let bang ← op "!"
  let i ← if ← sees fun ts => beginsName ts || beginsWord "try" ts then
      Code.ident <$> anyIdent
    else pure .empty
  let (delimiter, tokens) ← anyGroup
  let stop ← if delimiter = .brace then pure .empty else op ";"
  return .seq [.raw path.toTokens, bang, i, .invocation delimiter tokens, stop]

/-- A macro by its patterns, which is kept as it is written. -/
def macroDefinition : Reader Unit := do
  discard (keyword "macro")
  discard name
  if ← sees (beginsGroup .parenthesis) then discard anyGroup
  discard (group .brace remaining)

/-! ## All items -/

/-- An item after its attributes and its visibility; none if it is to be kept as it is written. -/
def itemTail (r : Rules) (attributes : List Attribute) (visible : Visibility) :
    Reader (Option Item) := do
  let ts ← get
  let next := ts.drop 1
  let inherited := visible.isInherited
  let head := Code.seq [Attribute.outer .elsewhere attributes, visible.toCode]
  let other (code : Code) : Option Item := some (.other (.seq [head, code]))
  if beginsSignature false ts then
    let s ← signature r
    if ← op? ";" then return none
    return other (← blockAfter r s.toCode r.statements)
  else if beginsWord "extern" ts then
    if beginsWord "crate" next then return other (← externCrate)
    else if inherited then some <$> foreignBlock r attributes
    else fail "expected `crate`"
  else if beginsWord "use" ts then
    let start ← keyword "use"
    let global ← op? "::"
    let (tree, isValid) ← useTree (!global) (Token.sizeAll ts + 1)
    let stop ← op ";"
    if isValid then return other (.seq [start, if global then .op "::" else .empty, tree, stop])
    else return none
  else if beginsWord "static" ts then return (← static r).bind other
  else if beginsWord "const" ts then
    let c ← constant r
    return if c.hasValue && !c.isGeneric then other c.code else none
  else if beginsWord "mod" ts || (beginsWord "unsafe" ts && beginsWord "mod" next) then
    return some (← module r attributes visible).toItem
  else if beginsWord "type" ts then
    let t ← typeAlias r true false
    match t.bounds, t.definition with
    | none, some definition =>
      return other (.seq [t.head, t.whereClause, definition, .op ";"])
    | _, _ => return none
  else if beginsWord "struct" ts then return some (.struct (← struct r attributes visible))
  else if beginsWord "enum" ts then return some (.enum (← enum r attributes visible))
  else if beginsWord "union" ts && beginsName next then
    return some (.union (← union r attributes visible))
  else if beginsTrait ts || (beginsWord "unsafe" ts && beginsTrait next) then
    return some (.other (← trait r attributes visible))
  else if beginsWord "impl" ts || (beginsWord "default" ts && !beginsOp "!" next) ||
    (beginsWord "unsafe" ts && beginsWord "impl" next) then
    let block ← implBlock r attributes
    return if inherited then block.map Item.impl else none
  else if beginsWord "unsafe" ts && beginsWord "extern" next && inherited then
    some <$> foreignBlock r attributes
  else if beginsWord "macro" ts then
    macroDefinition
    return none
  else if inherited && beginsMacroPath ts then return other (← macroItem)
  else fail "expected an item"
where
  beginsTrait (ts : List Token) : Bool :=
    beginsWord "trait" ts || (beginsWord "auto" ts && beginsWord "trait" (ts.drop 1))

/-- An item. -/
def item (r : Rules) : Reader Item := do
  let start ← get
  let attributes ← outerAttributes r
  let visible ← visibility
  match ← itemTail r attributes visible with
  | some item => return item
  | none => return .other (← asWritten start)

end ReactiveModel.Grammar
