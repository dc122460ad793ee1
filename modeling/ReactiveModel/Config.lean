import ReactiveModel.Grammar.Source

/-!
# Configuration

A configuration is given as plain data: a record of named options, or a sequence of them in order.
Options that are left out have their defaults; options that do not exist are ignored.
-/

namespace ReactiveModel

/-- What to do about updaters that depend on themselves. -/
inductive CyclePolicy where
  | reject
  | allow
  deriving DecidableEq, Repr

/-- The name of a policy. -/
def CyclePolicy.name : CyclePolicy → String
  | .reject => "Reject"
  | .allow => "Allow"

/-- The policy with the given name. -/
def CyclePolicy.ofName? (name : String) : Option CyclePolicy :=
  [CyclePolicy.reject, .allow].find? (·.name == name)

/-- How models are read and code is generated. -/
structure Config where
  /-- What is stripped from the names of fields; at most one of them, the longest that fits. -/
  fieldPrefixes : List String := ["_", "m_"]
  cyclePolicy : CyclePolicy := .reject
  /-- The path by which generated code refers to its library. -/
  runtimePath : String := "::bindable"
  deriving DecidableEq, Repr

/-! ## Reading a configuration -/

/-- Plain data, as far as a configuration is made of it. -/
inductive Setting where
  | null
  | text (value : String)
  | sequence (items : List Setting)
  | record (entries : List (String × Setting))
  /-- Truth values and numbers, which no option takes. -/
  | other
  deriving Inhabited

namespace Setting

/-- A list of texts. -/
def texts? : Setting → Option (List String)
  | .sequence items => items.mapM fun
    | .text value => some value
    | _ => none
  | _ => none

/-- A policy: its name, or a record with the name alone and nothing under it. -/
def policy? : Setting → Option CyclePolicy
  | .text name => CyclePolicy.ofName? name
  | .record [(name, .null)] => CyclePolicy.ofName? name
  | _ => none

/-- A text. -/
def text? : Setting → Option String
  | .text value => some value
  | _ => none

end Setting

namespace Config

/-- The configuration with the given options, each left out or not. -/
def ofOptions? (prefixes policy path : Option Setting) : Option Config := do
  let default : Config := {}
  return { fieldPrefixes := ← (prefixes.map Setting.texts?).getD (some default.fieldPrefixes)
           cyclePolicy := ← (policy.map Setting.policy?).getD (some default.cyclePolicy)
           runtimePath := ← (path.map Setting.text?).getD (some default.runtimePath) }

/-- The configuration that data stands for. -/
def ofSetting? : Setting → Option Config
  | .record entries =>
    ofOptions? (entries.lookup "field_prefixes") (entries.lookup "cycle_policy")
      (entries.lookup "runtime_path")
  | .sequence items =>
    if items.length ≤ 3 then ofOptions? items[0]? items[1]? items[2]? else none
  | _ => none

/-! ## What follows from a configuration -/

/-- Whether one prefix is tried before another: longer ones first, then in the order of texts. -/
def triedBefore (a b : String) : Bool :=
  b.utf8ByteSize < a.utf8ByteSize || (a.utf8ByteSize == b.utf8ByteSize && decide (a ≤ b))

/-- The prefixes in the order in which they are tried. -/
def prefixesLongestFirst (c : Config) : List String := c.fieldPrefixes.mergeSort triedBefore

/-- The path that stands in for one that cannot be read. -/
def defaultRuntime : List Token := Token.op "::" ++ [.word (.plain "bindable")]

/-- The path of the library, or why its text is no path. -/
def runtime? (c : Config) : Except SyntaxError (List Token) :=
  (Grammar.readPath c.runtimePath).map (·.code.toTokens)

/-- The path of the library. -/
def runtime (c : Config) : List Token := (c.runtime?.toOption).getD defaultRuntime

end Config

end ReactiveModel
