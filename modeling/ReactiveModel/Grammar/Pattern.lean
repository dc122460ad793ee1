import ReactiveModel.Grammar.Type

/-!
# Patterns

A pattern keeps which identifiers it binds; a lone identifier that bounds a range is a value and
binds nothing. Alternatives are allowed wherever a pattern is enclosed, elsewhere a pattern is a
single one.
-/

namespace ReactiveModel.Grammar

open Ahead Reader

/-! ## Members -/

/-- The digits of a whole number in the given base; other marks end it. -/
def wholeNumber (base : Nat) (digits : List Char) : Option (Nat × List Char) :=
  let value (c : Char) : Nat :=
    if c.isDigit then c.toNat - 48
    else if 'a' ≤ c && c ≤ 'f' then c.toNat - 87
    else if 'A' ≤ c && c ≤ 'F' then c.toNat - 55
    else 99
  let isPart (c : Char) : Bool := c = '_' || value c < base
  let part := (digits.takeWhile isPart).filter (· ≠ '_')
  if part.isEmpty then none
  else some (part.foldl (fun n c => n * base + value c) 0, digits.dropWhile isPart)

/-- The position that an integer literal without suffix stands for. -/
def position? (literal : String) : Option Nat :=
  let number := match literal.toList with
    | '0' :: 'x' :: digits => wholeNumber 16 digits
    | '0' :: 'o' :: digits => wholeNumber 8 digits
    | '0' :: 'b' :: digits => wholeNumber 2 digits
    | digits => if digits.head?.any Char.isDigit then wholeNumber 10 digits else none
  match number with
  | some (n, []) => if n < Nat.pow 2 32 then some n else none
  | _ => none

/-- A position in a tuple, as code. -/
def positionCode (n : Nat) : Code := .raw [.literal (toString n)]

/-- The name or the position of a member. -/
def memberName : Reader (Ident ⊕ Nat) := do
  match ← get with
  | .literal text :: rest =>
    match position? text with
    | some n =>
      set rest
      return .inr n
    | none => fail "expected identifier or integer"
  | ts => if beginsName ts then return .inl (← name) else fail "expected identifier or integer"

/-! ## Ranges -/

/-- The dots of a range, and whether its end is included; three dots are an old spelling. -/
def rangeDots (old : Bool) : Reader (Code × Bool) := do
  if ← op? "..=" then return (.op "..=", true)
  if ← sees (beginsOp "...") then
    if ← sees fun _ => old then
      discard (op "...")
      return (.op "..=", true)
    else fail "expected `..`"
  return (← op "..", false)

/-- A value that bounds a range, unless something follows that ends the pattern. -/
def rangeBound? (r : Rules) : Reader (Option Code) := do
  if ← sees ends then return none
  if ← sees beginsLiteral then return some (← literal)
  if ← sees fun ts => beginsNamedType ts || beginsAnyOp ["::", "<"] ts then
    return some (← qualifiedPath r true).value
  if ← sees (beginsWord "const") then return some (.seq [← keyword "const", ← block r])
  fail "expected range bound"
where
  ends (ts : List Token) : Bool :=
    ts.isEmpty || beginsAnyOp ["|", "=", ",", ";"] ts || beginsWord "if" ts ||
      (beginsOp ":" ts && !beginsOp "::" ts)

/-- The rest of a range pattern from the dots on. -/
def rangeTail (r : Rules) (start : Option Code) (old : Bool) : Reader PatternCode := do
  let (dots, closed) ← rangeDots old
  let last ← rangeBound? r
  if closed && last.isNone then fail "expected range upper bound"
  let code := Code.seq [start.getD .empty, dots, last.getD .empty]
  match start, last with
  | some _, some _ => return ⟨code, false⟩
  | none, none => return ⟨code, false⟩
  | _, _ => return ⟨code, true⟩

/-! ## Enclosed patterns -/

/-- Patterns of which one must match. -/
def alternatives (r : Rules) (leading : Bool) : Reader PatternCode := do
  let before ← if leading then codeIf (beginsOp "|") (op "|") else pure .empty
  let first ← r.pattern
  let rest ← many do
    if ← sees fun ts => beginsOp "|" ts && !beginsAnyOp ["||", "|="] ts then
      return some (.seq [← op "|", (← r.pattern).code])
    else return none
  let halfOpen := first.halfOpen && rest.isEmpty && before.toTokens.isEmpty
  return ⟨.seq (before :: first.code :: rest), halfOpen⟩

/-- A field in a pattern after its attributes. -/
def patternField (r : Rules) : Reader Code := do
  let boxed ← sees (beginsWord "box")
  let (code, asWritten) ← verbatim do
    discard (keyword? "box")
    let isRef ← keyword? "ref"
    let isMut ← keyword? "mut"
    let member ← if boxed || isRef || isMut then Sum.inl <$> name else memberName
    let field := fun (label : Code) => do
      return Code.seq [label, ← op ":", (← alternatives r true).code]
    match member with
    | .inr n => field (positionCode n)
    | .inl i =>
      if !boxed && !isRef && !isMut && (← sees (beginsOp ":")) then field (.ident i)
      else return .seq [if isRef then .keyword "ref" else .empty,
        if isMut then .keyword "mut" else .empty, .binding i]
  return if boxed then asWritten else code

/-- The fields of a struct pattern; dots end them. -/
def patternFields (r : Rules) : Reader Code := do
  let fields ← loop (fun fields => do
    if ← sees (·.isEmpty) then return (fields, false)
    let attributes ← plainAttributes r
    if ← sees (beginsOp "..") then
      return (fields ++ [.seq [attributes, ← op ".."]], false)
    let field := Code.seq [attributes, ← patternField r]
    if ← sees (·.isEmpty) then return (fields ++ [field], false)
    return (fields ++ [.seq [field, ← op ","]], true)) []
  return .seq fields

/-- Patterns separated by commas in brackets. -/
def enclosedPatterns (r : Rules) (delimiter : Delimiter) : Reader Code := do
  let patterns ← group delimiter (commas do
    let p ← alternatives r true
    if delimiter = .bracket && p.halfOpen then
      refuse "range pattern is not allowed unparenthesized inside slice pattern"
    return p.code)
  return .group delimiter (Separated.toCode "," id patterns)

/-! ## Single patterns -/

/-- A pattern that begins with a path. -/
def pathPattern (r : Rules) : Reader PatternCode := do
  let p ← qualifiedPath r true
  if p.isPlain && (← sees beginsBang) then
    return ⟨.seq [p.code, (← invocationTail).1], false⟩
  if ← sees (beginsGroup .brace) then
    return ⟨.seq [p.code, .group .brace (← group .brace (patternFields r))], false⟩
  if ← sees (beginsGroup .parenthesis) then
    return ⟨.seq [p.code, ← enclosedPatterns r .parenthesis], false⟩
  if ← sees (beginsOp "..") then rangeTail r (some p.value) true
  else return ⟨p.value, false⟩

/-- A pattern that binds an identifier. -/
def bindingPattern (r : Rules) : Reader Code := do
  let isRef ← keywordCode? "ref"
  let isMut ← keywordCode? "mut"
  let i ← if ← sees (beginsWord "self") then anyIdent else name
  let part ← codeIf (beginsOp "@") do return .seq [← op "@", (← r.pattern).code]
  return .seq [isRef, isMut, .binding i, part]

/-- Whether a pattern stands here that begins with a path. -/
def beginsPathPattern (ts : List Token) : Bool :=
  (beginsName ts && (beginsAnyOp ["::", "!", ".."] (skip ts) ||
    beginsGroup .brace (skip ts) || beginsGroup .parenthesis (skip ts))) ||
  (beginsWord "self" ts && beginsOp "::" (skip ts)) ||
  beginsAnyOp ["::", "<"] ts || beginsAnyWord ["Self", "super", "crate"] ts

/-- A single pattern. -/
def pattern (r : Rules) : Reader PatternCode := do
  if ← sees beginsPathPattern then pathPattern r
  else if ← sees (beginsWord "_") then return ⟨← keyword "_", false⟩
  else if ← sees (beginsWord "box") then
    let (_, code) ← verbatim do
      discard (keyword "box")
      r.pattern
    return ⟨code, false⟩
  else if ← sees fun ts => beginsOp "-" ts || beginsLiteral ts || beginsWord "const" ts then
    let start ← rangeBound? r
    if ← sees (beginsOp "..") then rangeTail r start true
    else return ⟨start.getD .empty, false⟩
  else if ← sees fun ts => beginsName ts || beginsAnyWord ["ref", "mut", "self"] ts then
    return ⟨← bindingPattern r, false⟩
  else if ← sees (beginsOp "&") then
    let start ← op "&"
    return ⟨.seq [start, ← keywordCode? "mut", (← r.pattern).code], false⟩
  else if ← sees (beginsGroup .parenthesis) then
    return ⟨← enclosedPatterns r .parenthesis, false⟩
  else if ← sees (beginsGroup .bracket) then return ⟨← enclosedPatterns r .bracket, false⟩
  else if ← sees fun ts => beginsOp ".." ts && !beginsOp "..." ts then rangeTail r none false
  else fail "expected pattern"

end ReactiveModel.Grammar
