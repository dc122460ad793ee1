import ReactiveModel.Code.Basic

/-!
# Names in code

The names that code refers to and the names that its patterns bind. A name after a single point is
a member, which no local variable hides; any other lone identifier is bare. The tokens handed to a
macro are read the same way: a range `..` is no member access, and a call is a member with a
parenthesised group after it. References come in the order in which the analysis passes them:
outermost first, so a member comes before the names of the value it is taken from.
-/

namespace ReactiveModel

/-- A name as it occurs in code. -/
inductive Reference where
  /-- A member, called if arguments in parentheses follow. -/
  | member (i : Ident) (called : Bool)
  /-- A name by itself. -/
  | bare (i : Ident)
  deriving DecidableEq, Repr

namespace Token

/-- The spacing of a point. -/
def pointSpacing : Token → Option Spacing
  | .mark c spacing => if c = '.' then some spacing else none
  | _ => none

/-- Whether the stream begins with a parenthesised group. -/
def beginsCall : List Token → Bool
  | .group .parenthesis _ :: _ => true
  | _ => false

mutual

/-- The references inside a group. -/
def innerReferences : Token → List Reference
  | .group _ body => references none none body
  | _ => []

/-- The references in a stream of tokens. `last` is the spacing of the token just before, if it is
a point, and `before` that of the one before it. -/
def references (before last : Option Spacing) : List Token → List Reference
  | [] => []
  | t :: rest =>
    (match t with
      | .word i =>
        if last.isSome && before != some .joint then [.member i (beginsCall rest)]
        else [.bare i]
      | t => t.innerReferences) ++
    references last t.pointSpacing rest

end

end Token

namespace Code

mutual

/-- The references in a tree, in the order in which they are passed. -/
def references : Code → List Reference
  | .raw _ => []
  | .group _ body => body.references
  | .seq parts => listReferences parts
  | .arranged _ parts => listReferences parts
  | .name i => [.bare i]
  | .member base i => .member i false :: base.references
  | .call base i arguments => .member i true :: (base.references ++ arguments.references)
  | .binding _ => []
  | .invocation _ tokens => Token.references none none tokens
  | .attribute _ _ value => value.references

/-- The references in trees in a row. -/
def listReferences : List Code → List Reference
  | [] => []
  | c :: rest => c.references ++ listReferences rest

end

mutual

/-- The identifiers that the patterns in a tree bind. -/
def bound : Code → List Ident
  | .raw _ => []
  | .group _ body => body.bound
  | .seq parts => listBound parts
  | .arranged _ parts => listBound parts
  | .name _ => []
  | .member base _ => base.bound
  | .call base _ arguments => base.bound ++ arguments.bound
  | .binding i => [i]
  | .invocation _ _ => []
  | .attribute _ _ value => value.bound

/-- The identifiers that the patterns in trees in a row bind. -/
def listBound : List Code → List Ident
  | [] => []
  | c :: rest => c.bound ++ listBound rest

end

end Code

end ReactiveModel
