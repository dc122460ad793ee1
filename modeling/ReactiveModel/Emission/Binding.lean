import ReactiveModel.Emission.Accessors

/-!
# Binding

The binding routine makes the model the data source of a root and subscribes each click handler to
the button of its element, in order. A subscription refers to the model weakly, so that it does not
keep it alive, and skips a click that comes while the model is borrowed.
-/

namespace ReactiveModel.Emission

open Token

/-! ## Subscriptions -/

/-- A subscription of a handler to a button. -/
structure Subscription where
  className : String
  element : String
  handler : Ident

namespace Subscription

/-- What is logged of a subscription: the format, the class, the element and the handler. -/
def warning (runtime : List Token) (format : String) (s : Subscription) : List Token :=
  runtime ++ phrase ":: bindable_deps :: log :: warn !" ++
    parenthesized (commaSeparated [[.string format], [.string s.className], [.string s.element],
      [.string s.handler.text]])

/-- The element and the handler as arguments. -/
def names (s : Subscription) : List Token :=
  parenthesized ([.string s.element] ++ op "," ++ [.string s.handler.text])

/-- What a click does. -/
def activation (runtime : List Token) (s : Subscription) : List Token :=
  phrase "let :: std :: option :: Option :: Some" ++ parenthesized (phrase "model") ++
    phrase "= model . upgrade" ++ parenthesized [] ++ phrase "else" ++ braced (phrase "return ;") ++
    op ";" ++
  phrase "match model . try_borrow_mut" ++ parenthesized [] ++
    braced (phrase ":: std :: result :: Result :: Ok" ++ parenthesized (phrase "mut model") ++
        phrase "=> model ." ++ [.word s.handler] ++ parenthesized [] ++ op "," ++
      phrase ":: std :: result :: Result :: Err" ++ parenthesized (phrase "_") ++ op "=>" ++
        s.warning runtime
          "\x7b\x7d: '\x7b\x7d' activated while the model is borrowed; '\x7b\x7d' skipped" ++
        op ",") ++
    op ";"

/-- What is done if the button is found. -/
def whenFound (runtime : List Token) (s : Subscription) : List Token :=
  phrase "let model = :: std :: rc :: Rc :: downgrade" ++ parenthesized (phrase "this") ++ op ";" ++
  runtime ++ phrase ":: Button :: on_activate" ++
    parenthesized (phrase "& * button , :: std :: boxed :: Box :: new" ++
      parenthesized (phrase "move ||" ++ braced (s.activation runtime))) ++ op ";" ++
  phrase "report . record_subscribed" ++ s.names ++ op ";"

/-- What is done if there is no such button. -/
def whenMissing (runtime : List Token) (s : Subscription) : List Token :=
  s.warning runtime "\x7b\x7d: no button named '\x7b\x7d' for click handler '\x7b\x7d'" ++ op ";" ++
  phrase "report . record_missing" ++ s.names ++ op ";"

/-- The subscription as a statement. -/
def toTokens (runtime : List Token) (s : Subscription) : List Token :=
  phrase "match" ++ runtime ++ phrase ":: UiRoot :: find_button" ++
    parenthesized (phrase "root ," ++ [.string s.element]) ++
    braced (phrase ":: std :: option :: Option :: Some" ++ parenthesized (phrase "button") ++
        op "=>" ++ braced (s.whenFound runtime) ++
      phrase ":: std :: option :: Option :: None =>" ++ braced (s.whenMissing runtime))

end Subscription

/-! ## The binding routine -/

/-- The subscriptions of a class. -/
def subscriptions (c : ReactiveClass) : List Subscription :=
  c.handlers.map fun h => ⟨c.qualifiedName, h.element, h.name⟩

/-- A data source lives without bounds, so a generic class must, too. -/
def unbounded (g : Generics) : Generics :=
  if g.params.isEmpty then g
  else { g with predicates := Separated.push g.predicates (.raw (phrase "Self : 'static")) }

/-- The statements of the binding routine. -/
def bindingBody (runtime : List Token) (c : ReactiveClass) : List Token :=
  phrase "let mut report =" ++ runtime ++ phrase ":: BindReport :: new" ++
    parenthesized [.string c.qualifiedName] ++ op ";" ++
  runtime ++ phrase ":: UiRoot :: set_data_source" ++
    parenthesized (phrase "root , :: std :: rc :: Rc :: clone" ++ parenthesized (phrase "this") ++
      phrase "as" ++ runtime ++ phrase ":: DataSource") ++ op ";" ++
  (subscriptions c).flatMap (Subscription.toTokens runtime) ++
  phrase "report"

/-- The impl block with the binding routine. -/
def binding (runtime : List Token) (c : ReactiveClass) : List Token :=
  implHead c.name (unbounded c.generics) (runtime ++ phrase ":: Bindable for") ++
    braced (phrase "fn bind" ++
      parenthesized (phrase "this : &" ++ runtime ++ phrase ":: Shared < Self > , root : & dyn" ++
        runtime ++ phrase ":: UiRoot") ++
      op "->" ++ runtime ++ phrase ":: BindReport" ++ braced (bindingBody runtime c))

end ReactiveModel.Emission
