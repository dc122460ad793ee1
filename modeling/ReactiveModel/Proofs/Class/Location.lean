import ReactiveModel.Proofs.Class.Scope

/-!
# The places of items in a file

An item stands in the list of items of the file, or in the list of a module that stands somewhere in
the file. Its place is told by positions: those of the modules on the way to it and its own, each in
its list. So the order of the source is the lexicographic order of positions. All places can be
listed in this order (`Item.mem_locations_iff`, `Item.pairwise_locations`), and the search for
classes is made at one after the other (`Candidate.find_eq_flatMap`).
-/

namespace ReactiveModel

/-- Where an item stands in a file. -/
structure Location where
  /-- The positions of the modules around the item, the outermost first, and that of the item. -/
  position : List Nat
  /-- The names of the modules around the item, the outermost first. -/
  modules : List String
  /-- The list of items that the item stands in. -/
  siblings : List Item
  item : Item

namespace Location

/-- A place in a module, seen from the list that the module stands in at a position. -/
def inside (i : Nat) (head : ModuleHead) (l : Location) : Location :=
  { l with position := i :: l.position, modules := head.name.text :: l.modules }

/-- The item stands at the place, which is one of the list of items itself or one in a module. -/
inductive StandsIn : List Item → Location → Prop
  | here {items : List Item} {i : Nat} {item : Item} (h : items[i]? = some item) :
    StandsIn items ⟨[i], [], items, item⟩
  | inside {items inner : List Item} {i : Nat} {head : ModuleHead} {l : Location}
    (h : items[i]? = some (.module head inner)) (hl : StandsIn inner l) :
    StandsIn items (l.inside i head)

/-- A place comes before another one in the source. -/
def Precedes (l l' : Location) : Prop := l.position < l'.position

/-- The place is that of something in the item, which stands at a position of its list. -/
def LiesIn (i : Nat) (item : Item) (l : Location) : Prop :=
  ∃ head inner, item = .module head inner ∧
    ∃ l' : Location, l'.StandsIn inner ∧ l = l'.inside i head

variable {items siblings : List Item} {i : Nat} {item : Item} {l l' : Location}

theorem standsIn_iff : l.StandsIn items ↔
    ∃ i item, items[i]? = some item ∧ (l = ⟨[i], [], items, item⟩ ∨ l.LiesIn i item) := by
  constructor
  · rintro (h | ⟨h, hl⟩)
    · exact ⟨_, _, h, .inl rfl⟩
    · exact ⟨_, _, h, .inr ⟨_, _, rfl, _, hl, rfl⟩⟩
  · rintro ⟨i, item, h, rfl | ⟨head, inner, rfl, l', hl, rfl⟩⟩
    · exact .here h
    · exact .inside h hl

theorem StandsIn.position_ne_nil (h : l.StandsIn items) : l.position ≠ [] := by
  cases h <;> simp [Location.inside]

theorem precedes_inside_iff {head head' : ModuleHead} :
    (l.inside i head).Precedes (l'.inside i head') ↔ l.Precedes l' := by
  simp [Precedes, inside]

end Location

/-! ## All places -/

namespace Item

open Location

mutual

/-- The places in an item at a position of its list. -/
def innerLocations (i : Nat) : Item → List Location
  | .module head inner => (locationsFrom inner 0 inner).map (Location.inside i head)
  | _ => []

/-- The places of the items of a list from a position on, and those in them. -/
def locationsFrom (siblings : List Item) (i : Nat) : List Item → List Location
  | [] => []
  | first :: rest =>
    ⟨[i], [], siblings, first⟩ :: (innerLocations i first ++ locationsFrom siblings (i + 1) rest)

end

/-- All places of a file, in the order of the source. -/
def locations (items : List Item) : List Location := locationsFrom items 0 items

mutual

theorem mem_innerLocations_iff {l : Location} (i : Nat) : ∀ item : Item,
    l ∈ item.innerLocations i ↔ l.LiesIn i item
  | .module head inner => by
    have hinner : ∀ l, l ∈ locationsFrom inner 0 inner ↔ l.StandsIn inner := fun l => by
      rw [mem_locationsFrom_iff inner 0 inner, standsIn_iff]
      simp only [Nat.zero_add]
    simp only [innerLocations, List.mem_map, hinner, LiesIn]
    constructor
    · rintro ⟨l', hl', rfl⟩
      exact ⟨head, inner, rfl, l', hl', rfl⟩
    · rintro ⟨_, _, hmodule, l', hl', rfl⟩
      cases hmodule
      exact ⟨l', hl', rfl⟩
  | .struct _ | .enum _ | .union _ | .impl _ | .other _ => by simp [innerLocations, LiesIn]

theorem mem_locationsFrom_iff {l : Location} (siblings : List Item) (i : Nat) :
    ∀ rest : List Item, l ∈ locationsFrom siblings i rest ↔ ∃ k item, rest[k]? = some item ∧
      (l = ⟨[i + k], [], siblings, item⟩ ∨ l.LiesIn (i + k) item)
  | [] => by simp [locationsFrom]
  | first :: rest => by
    rw [locationsFrom, List.mem_cons, List.mem_append, mem_innerLocations_iff i first,
      mem_locationsFrom_iff siblings (i + 1) rest, ← or_assoc]
    constructor
    · rintro (h | ⟨k, item, hk, h⟩)
      · exact ⟨0, first, rfl, h⟩
      · exact ⟨k + 1, item, hk, by rwa [Nat.add_right_comm] at h⟩
    · rintro ⟨_ | k, item, hk, h⟩
      · cases hk
        exact .inl h
      · exact .inr ⟨k, item, hk, by rwa [Nat.add_right_comm]⟩

end

theorem mem_locations_iff {items : List Item} {l : Location} :
    l ∈ locations items ↔ l.StandsIn items := by
  rw [locations, mem_locationsFrom_iff, standsIn_iff]
  simp only [Nat.zero_add]

/-- Places in an item begin with its position. -/
theorem exists_position_of_mem_locationsFrom {siblings rest : List Item} {i : Nat} {l : Location}
    (h : l ∈ locationsFrom siblings i rest) : ∃ k p, l.position = (i + k) :: p := by
  obtain ⟨k, item, -, rfl | ⟨head, inner, -, l', -, rfl⟩⟩ := (mem_locationsFrom_iff _ _ _).1 h
  · exact ⟨k, [], rfl⟩
  · exact ⟨k, l'.position, rfl⟩

mutual

theorem pairwise_innerLocations (i : Nat) : ∀ item : Item,
    (item.innerLocations i).Pairwise Precedes
  | .module head inner => by
    rw [innerLocations, List.pairwise_map]
    exact (pairwise_locationsFrom inner 0 inner).imp precedes_inside_iff.2
  | .struct _ | .enum _ | .union _ | .impl _ | .other _ => .nil

theorem pairwise_locationsFrom (siblings : List Item) (i : Nat) : ∀ rest : List Item,
    (locationsFrom siblings i rest).Pairwise Precedes
  | [] => .nil
  | first :: rest => by
    have hinner : ∀ l ∈ first.innerLocations i, ∃ j p, l.position = i :: j :: p := by
      intro l hl
      obtain ⟨head, inner, -, l', hl', rfl⟩ := (mem_innerLocations_iff i first).1 hl
      obtain ⟨j, p, hp⟩ := List.exists_cons_of_ne_nil hl'.position_ne_nil
      exact ⟨j, p, congrArg (i :: ·) hp⟩
    have hrest : ∀ l ∈ locationsFrom siblings (i + 1) rest, ∃ j p, l.position = j :: p ∧ i < j := by
      intro l hl
      obtain ⟨k, p, hp⟩ := exists_position_of_mem_locationsFrom hl
      exact ⟨_, p, hp, by omega⟩
    rw [locationsFrom, List.pairwise_cons, List.pairwise_append]
    refine ⟨?_, pairwise_innerLocations i first, pairwise_locationsFrom siblings (i + 1) rest, ?_⟩
    · intro l hl
      rcases List.mem_append.1 hl with hl | hl
      · obtain ⟨j, p, hp⟩ := hinner l hl
        simp [Precedes, hp]
      · obtain ⟨j, p, hp, hj⟩ := hrest l hl
        simp [Precedes, hp, List.cons_lt_cons_iff, hj]
    · intro l hl l' hl'
      obtain ⟨j, p, hp⟩ := hinner l hl
      obtain ⟨j', p', hp', hj'⟩ := hrest l' hl'
      simp [Precedes, hp, hp', List.cons_lt_cons_iff, hj']

end

/-- The places of a file are listed in the order of the source. -/
theorem pairwise_locations (items : List Item) : (locations items).Pairwise Precedes :=
  pairwise_locationsFrom items 0 items

end Item

/-! ## The search -/

namespace Candidate

/-- What is found at a place in modules of the given names. -/
def findingsAt (modules : List String) (l : Location) : List Finding :=
  match l.item with
  | .struct s => ofStruct (modules ++ l.modules) l.siblings s
  | .enum t => ofOther (modules ++ l.modules) t "an enum"
  | .union t => ofOther (modules ++ l.modules) t "a union"
  | _ => []

theorem findingsAt_inside (modules : List String) (i : Nat) (head : ModuleHead) (l : Location) :
    findingsAt modules (l.inside i head) = findingsAt (modules ++ [head.name.text]) l := by
  simp [findingsAt, Location.inside]

mutual

theorem ofItem_eq_flatMap (modules : List String) (siblings : List Item) (i : Nat) :
    ∀ item : Item, ofItem modules siblings item =
      findingsAt modules ⟨[i], [], siblings, item⟩ ++
        (item.innerLocations i).flatMap (findingsAt modules)
  | .module head inner => by
    rw [ofItem, Item.innerLocations, List.flatMap_map,
      ofItems_eq_flatMap (modules ++ [head.name.text]) inner 0 inner]
    simp only [findingsAt_inside]
    rfl
  | .struct _ | .enum _ | .union _ | .impl _ | .other _ => by
    simp [ofItem, findingsAt, Item.innerLocations]

theorem ofItems_eq_flatMap (modules : List String) (siblings : List Item) (i : Nat) :
    ∀ rest : List Item, ofItems modules siblings rest =
      (Item.locationsFrom siblings i rest).flatMap (findingsAt modules)
  | [] => rfl
  | first :: rest => by
    rw [ofItems, Item.locationsFrom, List.flatMap_cons, List.flatMap_append, ← List.append_assoc,
      ofItem_eq_flatMap modules siblings i first, ofItems_eq_flatMap modules siblings (i + 1) rest]

end

/-- The search takes the places of a file in the order of the source. -/
theorem find_eq_flatMap (items : List Item) :
    find items = (Item.locations items).flatMap (findingsAt []) :=
  ofItems_eq_flatMap [] items 0 items

end Candidate

end ReactiveModel
