import ReactiveModel.Code.Basic

/-!
# Declarations

The declarations that a reactive model is read from: structs with their fields, impl blocks with
their methods, and the modules around them. Function bodies, types and all other items stay trees.
Each declaration can be written back as code; an attribute is written together with the kind of
declaration it stands on.
-/

namespace ReactiveModel

/-- An attribute; the value is empty unless the attribute assigns one. -/
structure Attribute where
  head : AttributeHead
  value : Code

namespace Attribute

/-- An attribute as it stands on a declaration. -/
def toCode (site : Site) (a : Attribute) : Code := .attribute site a.head a.value

/-- The attributes outside of what they describe. -/
def outer (site : Site) (as : List Attribute) : Code :=
  .seq ((as.filter (!·.head.inner)).map (toCode site))

/-- The attributes inside of what they describe. -/
def inner (site : Site) (as : List Attribute) : Code :=
  .seq ((as.filter (·.head.inner)).map (toCode site))

end Attribute

/-- Elements of a list, each with whether a separator follows it. -/
abbrev Separated (α : Type) := List (α × Bool)

namespace Separated

/-- The elements and separators in order. -/
def toCode {α : Type} (separator : String) (write : α → Code) (items : Separated α) : Code :=
  .seq (items.flatMap fun (item, more) => write item :: if more then [Code.op separator] else [])

/-- Whether the list is empty or ends with a separator. -/
def isOpen {α : Type} (items : Separated α) : Bool := (items.getLast?.map (·.2)).getD true

/-- The list with one more element, after a separator if it needs one. -/
def push {α : Type} (items : Separated α) (item : α) : Separated α :=
  match items.reverse with
  | [] => [(item, false)]
  | (last, _) :: before => before.reverse ++ [(last, true), (item, false)]

end Separated

/-! ## Visibility and fields -/

/-- Who may see a declaration. -/
inductive Visibility where
  | inherited
  | everyone
  /-- Public within a scope, given by the tokens in parentheses. -/
  | restricted (scope : List Token)

/-- Whether nothing is said about who may see a declaration. -/
def Visibility.isInherited : Visibility → Bool
  | .inherited => true
  | _ => false

/-- A visibility as it is written. -/
def Visibility.toCode : Visibility → Code
  | .inherited => .empty
  | .everyone => .keyword "pub"
  | .restricted scope => .seq [.keyword "pub", .raw [.group .parenthesis scope]]

/-- A named field. -/
structure Field where
  attributes : List Attribute
  visibility : Visibility
  name : Ident
  type : Code

/-- A field as it is written. -/
def Field.toCode (f : Field) : Code :=
  .seq [Attribute.outer .field f.attributes, f.visibility.toCode, .ident f.name, .op ":", f.type]

/-- The fields of a struct. -/
inductive Fields where
  | named (fields : Separated Field)
  /-- Fields without names, in parentheses. -/
  | positional (code : Code)
  | unit

/-! ## Generics -/

/-- A parameter of a generic declaration. The bounds include their colon; the default includes its
equals sign. -/
inductive GenericParam where
  | lifetime (attributes : Code) (name : Ident) (bounds : Code)
  | type (attributes : Code) (name : Ident) (bounds default : Code)
  | const (attributes : Code) (name : Ident) (type default : Code)

namespace GenericParam

/-- Whether the parameter is a lifetime. -/
def isLifetime : GenericParam → Bool
  | .lifetime .. => true
  | _ => false

/-- The parameter as it is declared. -/
def declared : GenericParam → Code
  | .lifetime attributes name bounds => .seq [attributes, .raw (Token.lifetime name), bounds]
  | .type attributes name bounds default => .seq [attributes, .ident name, bounds, default]
  | .const attributes name valueType default =>
    .seq [attributes, .keyword "const", .ident name, .op ":", valueType, default]

/-- The parameter as an impl block repeats it: without its default. -/
def repeated : GenericParam → Code
  | .type attributes name bounds _ => declared (.type attributes name bounds .empty)
  | .const attributes name valueType _ => declared (.const attributes name valueType .empty)
  | p => p.declared

/-- The parameter as an argument: its name alone. -/
def argument : GenericParam → Code
  | .lifetime _ name _ => .raw (Token.lifetime name)
  | .type _ name _ _ => .ident name
  | .const _ name _ _ => .ident name

end GenericParam

/-- The generic parameters of a declaration and its where clause. -/
structure Generics where
  params : Separated GenericParam
  predicates : Separated Code

namespace Generics

/-- No parameters and no where clause. -/
def empty : Generics := ⟨[], []⟩

/-- Lifetimes are written before all other elements of a list in angle brackets, and a comma after
the last of them if other elements follow. -/
def lifetimesFirst {α : Type} (isLifetime : α → Bool) (write : α → Code)
    (items : Separated α) : Code :=
  let lifetimes := items.filter (isLifetime ·.1)
  let others := items.filter (!isLifetime ·.1)
  let comma := if Separated.isOpen lifetimes || others.isEmpty then [] else [Code.op ","]
  .arranged (.lifetimesFirst (items.map (isLifetime ·.1) ++ comma.map fun _ => true))
    (items.map (fun item => Separated.toCode "," write [item]) ++ comma)

/-- The parameters in angle brackets, nothing if there are none. -/
def angled (write : GenericParam → Code) (g : Generics) : Code :=
  if g.params.isEmpty then .empty
  else .seq [.op "<", lifetimesFirst GenericParam.isLifetime write g.params, .op ">"]

/-- The parameters as they are declared. -/
def declared (g : Generics) : Code := g.angled GenericParam.declared

/-- The parameters as an impl block repeats them. -/
def repeated (g : Generics) : Code := g.angled GenericParam.repeated

/-- The parameters as arguments of the declared type. -/
def arguments (g : Generics) : Code := g.angled GenericParam.argument

/-- The where clause, nothing if it has no predicates. -/
def whereClause (g : Generics) : Code :=
  if g.predicates.isEmpty then .empty
  else .seq [.keyword "where", Separated.toCode "," id g.predicates]

end Generics

/-! ## Functions -/

/-- A parameter of a function. -/
inductive Param where
  /-- The receiver: borrowed or not, with a lifetime perhaps, and with a type of its own only after
  a colon. -/
  | receiver (attributes : List Attribute) (borrow : Option (Option Ident)) (mutable : Bool)
      (type : Option Code)
  | typed (attributes : List Attribute) (pattern type : Code)

/-- A parameter as it is written. -/
def Param.toCode : Param → Code
  | .receiver attributes borrow mutable type =>
    .seq [Attribute.outer .elsewhere attributes,
      match borrow with
      | none => .empty
      | some none => .op "&"
      | some (some lifetime) => .seq [.op "&", .raw (Token.lifetime lifetime)],
      if mutable then .keyword "mut" else .empty,
      .keyword "self",
      match type with
      | none => .empty
      | some type => .seq [.op ":", type]]
  | .typed attributes pattern type =>
    .seq [Attribute.outer .elsewhere attributes, pattern, .op ":", type]

/-- The head of a function. -/
structure Signature where
  isConst : Bool
  isAsync : Bool
  isUnsafe : Bool
  /-- The calling convention, if one is declared. -/
  abi : Option Code
  name : Ident
  generics : Generics
  params : Separated Param
  /-- The dots of a function that takes any number of arguments, if they are there. -/
  variadic : Option Code
  /-- The declared return type. -/
  output : Option Code

/-- The head of a function as it is written. -/
def Signature.toCode (s : Signature) : Code :=
  .seq [if s.isConst then .keyword "const" else .empty,
    if s.isAsync then .keyword "async" else .empty,
    if s.isUnsafe then .keyword "unsafe" else .empty,
    s.abi.getD .empty, .keyword "fn", .ident s.name, s.generics.declared,
    Code.before (.seq [.group .parenthesis (.seq [Separated.toCode "," Param.toCode s.params,
        match s.variadic with
        | none => .empty
        | some dots => .seq [if Separated.isOpen s.params then .empty else .op ",", dots]]),
      match s.output with
      | none => .empty
      | some type => .seq [.op "->", type]])
      s.generics.whereClause]

/-- A function in an impl block. -/
structure Method where
  attributes : List Attribute
  visibility : Visibility
  isDefault : Bool
  signature : Signature
  /-- The statements of the body. -/
  body : Code

namespace Method

/-- The name of a method. -/
def name (m : Method) : Ident := m.signature.name

/-- A method as it is written. -/
def toCode (m : Method) : Code :=
  .seq [Attribute.outer .method m.attributes,
    Code.bodied (.seq [m.visibility.toCode, if m.isDefault then .keyword "default" else .empty,
      m.signature.toCode]) (Attribute.inner .method m.attributes) m.body]

end Method

/-! ## Items -/

/-- A struct. -/
structure Struct where
  attributes : List Attribute
  visibility : Visibility
  name : Ident
  generics : Generics
  fields : Fields

/-- A struct as it is written. -/
def Struct.toCode (s : Struct) : Code :=
  .seq [Attribute.outer (.type s.name) s.attributes, s.visibility.toCode, .keyword "struct",
    .ident s.name, s.generics.declared,
    match s.fields with
    | .named fields =>
      .seq [s.generics.whereClause, .group .brace (Separated.toCode "," Field.toCode fields)]
    | .positional code => .seq [code.before s.generics.whereClause, .op ";"]
    | .unit => .seq [s.generics.whereClause, .op ";"]]

/-- An enum or a union: only its attributes and its name matter. -/
structure OtherType where
  attributes : List Attribute
  name : Ident
  /-- The declaration without its attributes. -/
  body : Code

/-- An enum or a union as it is written. -/
def OtherType.toCode (t : OtherType) : Code :=
  .seq [Attribute.outer (.type t.name) t.attributes, t.body]

/-- A member of an impl block. -/
inductive ImplItem where
  | method (m : Method)
  | other (code : Code)

/-- A member of an impl block as it is written. -/
def ImplItem.toCode : ImplItem → Code
  | .method m => m.toCode
  | .other code => code

/-- A path to a type, without type arguments. -/
structure TypePath where
  /-- Whether the path begins with `::`. -/
  global : Bool
  segments : List Ident
  deriving DecidableEq

/-- An impl block. -/
structure Impl where
  attributes : List Attribute
  /-- The words before `impl`. -/
  qualifiers : Code
  generics : Generics
  /-- The implemented trait with the `for` after it; none for an inherent block. -/
  implemented : Option Code
  /-- The path of the type, if it is a plain one. -/
  self : Option TypePath
  type : Code
  items : List ImplItem

namespace Impl

/-- The methods of a block. -/
def methods (i : Impl) : List Method :=
  i.items.filterMap fun
    | .method m => some m
    | .other _ => none

/-- An impl block as it is written. -/
def toCode (i : Impl) : Code :=
  .seq [Attribute.outer .elsewhere i.attributes,
    Code.bodied (.seq [i.qualifiers, .keyword "impl", i.generics.declared,
      Code.before (.seq [i.implemented.getD .empty, i.type]) i.generics.whereClause])
      (Attribute.inner .elsewhere i.attributes) (.seq (i.items.map ImplItem.toCode))]

end Impl

/-- The head of a module. -/
structure ModuleHead where
  attributes : List Attribute
  /-- The words before `mod`. -/
  qualifiers : Code
  name : Ident

namespace ModuleHead

/-- A module around the code of its items. -/
def toCode (h : ModuleHead) (items : Code) : Code :=
  .seq [Attribute.outer .elsewhere h.attributes, h.qualifiers, .keyword "mod", .ident h.name,
    .group .brace (.seq [Attribute.inner .elsewhere h.attributes, items])]

/-- A module that is only announced. -/
def announced (h : ModuleHead) : Code :=
  .seq [Attribute.outer .elsewhere h.attributes, h.qualifiers, .keyword "mod", .ident h.name,
    .op ";"]

end ModuleHead

/-- An item of a file or a module. -/
inductive Item where
  | struct (s : Struct)
  | enum (t : OtherType)
  | union (t : OtherType)
  | impl (i : Impl)
  | module (head : ModuleHead) (items : List Item)
  | other (code : Code)

namespace Item

mutual

/-- An item as it is written. -/
def toCode : Item → Code
  | .struct s => s.toCode
  | .enum t => t.toCode
  | .union t => t.toCode
  | .impl i => i.toCode
  | .module head items => head.toCode (.seq (listCode items))
  | .other code => code

/-- Items in a row as they are written. -/
def listCode : List Item → List Code
  | [] => []
  | item :: rest => item.toCode :: listCode rest

end

end Item

/-- A module, with its items if it has them in place. -/
structure Module where
  head : ModuleHead
  items : Option (List Item)

/-- A module as an item. -/
def Module.toItem (m : Module) : Item :=
  match m.items with
  | some items => .module m.head items
  | none => .other m.head.announced

end ReactiveModel
