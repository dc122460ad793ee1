/-!
# Subscriptions to changes

A hub keeps the subscribers of a model in the order in which they came. Each of them gets an
identifier that is never used again, and may be interested in a single property. Identifiers are
numbers below `Hub.identifiers`; past the last one, counting begins anew.
-/

namespace ReactiveModel.Live

/-- A subscriber, shown by its tag. -/
structure Subscriber where
  id : Nat
  /-- The only property that the subscriber is told of. -/
  wanted : Option String
  tag : String
  deriving DecidableEq, Repr

/-- A property that a model does not have. -/
structure UnknownProperty where
  model : String
  property : String
  deriving DecidableEq, Repr

/-- The wording of an error. -/
def UnknownProperty.message (e : UnknownProperty) : String :=
  "Unknown property '" ++ e.property ++ "' on " ++ e.model

/-- The subscribers of a model. -/
structure Hub where
  subscribers : List Subscriber := []
  /-- The identifier that the next subscriber gets. -/
  nextId : Nat := 0
  deriving DecidableEq, Repr

namespace Hub

/-- How many identifiers there are. -/
def identifiers : Nat := UInt64.size

/-- The hub with one more subscriber. -/
def insert (h : Hub) (wanted : Option String) (tag : String) : Nat × Hub :=
  (h.nextId, ⟨h.subscribers ++ [⟨h.nextId, wanted, tag⟩], (h.nextId + 1) % identifiers⟩)

/-- Subscribes to all properties. -/
def subscribe (h : Hub) (tag : String) : Nat × Hub := h.insert none tag

/-- Subscribes to one of the given properties, if it is one of them. -/
def subscribeTo (h : Hub) (properties : List String) (tag property : String) :
    Option (Nat × Hub) :=
  if properties.contains property then some (h.insert (some property) tag) else none

/-- Removes a subscriber, and tells whether there was one. -/
def unsubscribe (h : Hub) (id : Nat) : Bool × Hub :=
  (h.subscribers.any (·.id == id), { h with subscribers := h.subscribers.filter (·.id != id) })

/-- The subscribers that are told of a change, in order. -/
def notified (h : Hub) (property : String) : List Subscriber :=
  h.subscribers.filter fun s => s.wanted.all (· == property)

/-- How many subscribers there are. -/
def length (h : Hub) : Nat := h.subscribers.length

/-- Whether there is no subscriber. -/
def isEmpty (h : Hub) : Bool := h.subscribers.isEmpty

/-- How an identifier is shown. -/
def displayId (id : Nat) : String := "subscription#" ++ toString id

/-- How a hub is shown. -/
def display (h : Hub) : String :=
  "PropertyChangedHub \x7b subscribers: " ++ toString h.length ++ " \x7d"

/-! ## Requests -/

/-- What can be asked of a hub. -/
inductive Request where
  | subscribe (tag : String)
  /-- Subscribes to a property of a model that has the given ones. -/
  | subscribeTo (model : String) (properties : List String) (tag property : String)
  | unsubscribe (id : Nat)
  | notify (property : String)
  deriving DecidableEq, Repr

/-- What a hub gives back. -/
inductive Reply where
  | subscribed (id : Nat)
  | unknownProperty (e : UnknownProperty)
  | unsubscribed (found : Bool)
  /-- The subscribers that have been called, in order. -/
  | notified (called : List Subscriber)
  deriving DecidableEq, Repr

/-- The reply to a request, and the hub after it. -/
def respond (h : Hub) : Request → Reply × Hub
  | .subscribe tag =>
    let (id, h) := h.subscribe tag
    (.subscribed id, h)
  | .subscribeTo model properties tag property =>
    match h.subscribeTo properties tag property with
    | some (id, h) => (.subscribed id, h)
    | none => (.unknownProperty ⟨model, property⟩, h)
  | .unsubscribe id =>
    let (found, h) := h.unsubscribe id
    (.unsubscribed found, h)
  | .notify property => (.notified (h.notified property), h)

/-- The hub after requests, one after the other. -/
def after (h : Hub) (requests : List Request) : Hub :=
  requests.foldl (fun h request => (h.respond request).2) h

/-- Requests with the replies to them. -/
abbrev History := List (Request × Reply)

/-- The history that requests make, one after the other. -/
def history (h : Hub) : List Request → History
  | [] => []
  | request :: rest =>
    let (reply, h) := h.respond request
    (request, reply) :: h.history rest

end Hub

end ReactiveModel.Live
