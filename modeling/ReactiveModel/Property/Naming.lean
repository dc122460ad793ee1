import ReactiveModel.Text.SnakeCase
import ReactiveModel.Text.Identifier
import ReactiveModel.Text.Letters
import ReactiveModel.Token.Basic

/-!
# Names of properties

The name of a property is derived from the name of its field, and the names of its accessors from
the name of the property. A name that is a keyword is spelled as a raw identifier; a few texts can
be no identifier at all.
-/

namespace ReactiveModel

/-- A text that no identifier can spell. -/
structure Unspellable where
  name : String
  deriving DecidableEq, Repr

/-- Words that newer code reserves, but that are not keywords everywhere. -/
def Ident.reservedLater : List String := ["gen"]

/-- The identifier that spells a name, a raw one for a keyword. -/
def Ident.spelling (name : String) : Except Unspellable Ident :=
  if !Text.isIdentifier name.toList then throw ⟨name⟩
  else if !keywords.contains name && !reservedLater.contains name then return ⟨false, name⟩
  else if reserved.contains name then throw ⟨name⟩
  else return ⟨true, name⟩

namespace Naming

/-- The text with its first letter in upper case. -/
def capitalized : List Char → List Char
  | [] => []
  | c :: rest => Text.toUpper c ++ rest

/-- The text after a prefix, if something is left of it. -/
def afterPrefix? (start text : List Char) : Option (List Char) :=
  if start.isPrefixOf text && start.length < text.length then some (text.drop start.length)
  else none

/-- The text after the mark of a raw identifier, if it has one. -/
def withoutRawMark : List Char → List Char
  | 'r' :: '#' :: rest => rest
  | text => text

/-- The name of the property that a field gives: without the first prefix that fits, and with its
first letter in upper case. -/
def property (prefixes : List String) (field : String) : String :=
  let name := withoutRawMark field.toList
  let stem := (prefixes.findSome? fun start => afterPrefix? start.toList name).getD name
  String.ofList (capitalized stem)

/-- The name of the method that reads a property. -/
def accessor (property : String) : String := Text.snakeCase property

/-- The name of the method that writes a property. -/
def setter (property : String) : String := "set_" ++ accessor property

/-- Whether a property has a name that its accessors can be named by. -/
def isUsable (property : String) : Bool :=
  let name := accessor property
  name.toList.head?.any Text.isAlphabetic && !(["self", "super", "crate"].contains name)

end Naming

end ReactiveModel
