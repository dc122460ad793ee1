import Mathlib.Data.List.Flatten
import Mathlib.Data.List.Perm.Basic
import ReactiveModel.Class.Candidate

/-!
# The lists of items in a file

The items of a file and those of each module in it are the scopes in which classes are declared.
Every candidate that is found is declared in one of them (`perm_scopes`), where the candidates are
in the order in which they are found (`sublist_found`). Different scopes may have the same names of
modules around them.
-/

namespace ReactiveModel

/-- A marker of a kind is found if and only if there is one. -/
theorem Marker.isSome_find?_iff {kind : MarkerKind} {as : List Attribute} :
    (Marker.find? kind as).isSome = true ↔ ∃ a ∈ as, MarkerKind.of? a.head = some kind := by
  unfold Marker.find?
  cases h : as.findIdx? fun a => decide (MarkerKind.of? a.head = some kind) with
  | none =>
    rw [List.findIdx?_eq_none_iff] at h
    simpa using h
  | some position =>
    obtain ⟨hposition, hmarks, -⟩ := List.findIdx?_eq_some_iff_getElem.1 h
    have hmem : ∃ a ∈ as, MarkerKind.of? a.head = some kind :=
      ⟨_, List.getElem_mem hposition, of_decide_eq_true hmarks⟩
    simpa [List.getElem?_eq_getElem hposition] using hmem

namespace Candidate

/-- The candidates in a file. -/
def found (items : List Item) : List Candidate := among (find items)

/-- A list of items, told by the names of the modules around it and its classes. -/
structure Scope where
  modules : List String
  /-- The candidates that are declared among the items, in order. -/
  classes : List Candidate

/-- The candidate that an item among others declares. -/
def declaredBy (modules : List String) (items : List Item) : Item → List Candidate
  | .struct s => among (ofStruct modules items s)
  | _ => []

/-- A list of items as a scope. -/
def Scope.ofItems (modules : List String) (items : List Item) : Scope :=
  ⟨modules, items.flatMap (declaredBy modules items)⟩

mutual

/-- The scopes within an item. -/
def scopesOfItem (modules : List String) : Item → List Scope
  | .module head items =>
    let inner := modules ++ [head.name.text]
    .ofItems inner items :: scopesWithin inner items
  | _ => []

/-- The scopes within items. -/
def scopesWithin (modules : List String) : List Item → List Scope
  | [] => []
  | item :: rest => scopesOfItem modules item ++ scopesWithin modules rest

end

/-- The scopes of a file. -/
def scopes (items : List Item) : List Scope := .ofItems [] items :: scopesWithin [] items

variable {modules : List String} {items : List Item} {s : Scope} {c : Candidate}

/-! ## Names of modules -/

theorem modules_of_mem_declaredBy {item : Item} (h : c ∈ declaredBy modules items item) :
    c.modules = modules := by
  cases item with
  | struct s =>
    rw [declaredBy, ofStruct] at h
    split at h
    · split at h
      · rw [List.mem_singleton.1 h]
      · cases h
    · cases h
    · cases h
  | _ => cases h

theorem modules_of_mem_ofItems (h : c ∈ (Scope.ofItems modules items).classes) :
    c.modules = modules := by
  obtain ⟨item, -, h⟩ := List.mem_flatMap.1 h
  exact modules_of_mem_declaredBy h

mutual

theorem modules_of_mem_scopesOfItem (modules : List String) : ∀ item : Item,
    ∀ s ∈ scopesOfItem modules item, ∀ c ∈ s.classes, c.modules = s.modules
  | .module head items, s, hs, c, hc => by
    rcases List.mem_cons.1 hs with rfl | hs
    · exact modules_of_mem_ofItems hc
    · exact modules_of_mem_scopesWithin _ items s hs c hc

theorem modules_of_mem_scopesWithin (modules : List String) : ∀ items : List Item,
    ∀ s ∈ scopesWithin modules items, ∀ c ∈ s.classes, c.modules = s.modules
  | item :: rest, s, hs, c, hc => by
    rcases List.mem_append.1 hs with hs | hs
    · exact modules_of_mem_scopesOfItem modules item s hs c hc
    · exact modules_of_mem_scopesWithin modules rest s hs c hc

end

/-- A candidate has the names of the modules around its scope. -/
theorem modules_of_mem_scopes (hs : s ∈ scopes items) (hc : c ∈ s.classes) :
    c.modules = s.modules := by
  rcases List.mem_cons.1 hs with rfl | hs
  · exact modules_of_mem_ofItems hc
  · exact modules_of_mem_scopesWithin _ items s hs c hc

/-! ## The candidates of scopes -/

theorem among_append (fs gs : List Finding) : among (fs ++ gs) = among fs ++ among gs :=
  List.filterMap_append

theorem among_ofOther (modules : List String) (t : OtherType) (what : String) :
    among (ofOther modules t what) = [] := by
  unfold ofOther
  split <;> rfl

mutual

/-- What is found at an item is what it declares and what the scopes in it have. -/
theorem perm_ofItem (modules : List String) (items : List Item) : ∀ item : Item,
    (among (ofItem modules items item)).Perm
      (declaredBy modules items item ++ (scopesOfItem modules item).flatMap (·.classes))
  | .struct s => by simp [ofItem, declaredBy, scopesOfItem]
  | .enum t => by simp [ofItem, declaredBy, scopesOfItem, among_ofOther]
  | .union t => by simp [ofItem, declaredBy, scopesOfItem, among_ofOther]
  | .impl _ => by simp [ofItem, declaredBy, scopesOfItem, among]
  | .module head inner => by
    have h := perm_ofItems (modules ++ [head.name.text]) inner inner
    simpa [ofItem, declaredBy, scopesOfItem, Scope.ofItems] using h
  | .other _ => by simp [ofItem, declaredBy, scopesOfItem, among]

theorem perm_ofItems (modules : List String) (items : List Item) : ∀ rest : List Item,
    (among (ofItems modules items rest)).Perm
      (rest.flatMap (declaredBy modules items) ++
        (scopesWithin modules rest).flatMap (·.classes))
  | [] => .refl _
  | item :: rest => by
    have hitem := perm_ofItem modules items item
    have hrest := perm_ofItems modules items rest
    rw [ofItems, among_append, scopesWithin, List.flatMap_cons, List.flatMap_append]
    refine (hitem.append hrest).trans ?_
    rw [List.append_assoc, List.append_assoc]
    exact (List.perm_append_comm_assoc _ _ _).append_left _

end

/-- The candidates that are found are those of all scopes. -/
theorem perm_scopes (items : List Item) :
    (found items).Perm ((scopes items).flatMap (·.classes)) := perm_ofItems [] items items

/-! ## The order of candidates -/

theorem declaredBy_sublist (modules : List String) (items : List Item) (item : Item) :
    (declaredBy modules items item).Sublist (among (ofItem modules items item)) := by
  cases item with
  | struct s => exact .refl _
  | _ => exact List.nil_sublist _

theorem declared_sublist (modules : List String) (items : List Item) : ∀ rest : List Item,
    (rest.flatMap (declaredBy modules items)).Sublist (among (ofItems modules items rest))
  | [] => .refl _
  | item :: rest => by
    rw [ofItems, among_append]
    exact (declaredBy_sublist modules items item).append (declared_sublist modules items rest)

mutual

theorem sublist_ofItem (modules : List String) (items : List Item) : ∀ item : Item,
    ∀ s ∈ scopesOfItem modules item, s.classes.Sublist (among (ofItem modules items item))
  | .module head inner, s, hs => by
    rcases List.mem_cons.1 hs with rfl | hs
    · exact declared_sublist _ inner inner
    · exact sublist_ofItems _ inner inner s hs

theorem sublist_ofItems (modules : List String) (items : List Item) : ∀ rest : List Item,
    ∀ s ∈ scopesWithin modules rest, s.classes.Sublist (among (ofItems modules items rest))
  | item :: rest, s, hs => by
    rw [ofItems, among_append]
    rcases List.mem_append.1 hs with hs | hs
    · exact (sublist_ofItem modules items item s hs).trans (List.sublist_append_left _ _)
    · exact (sublist_ofItems modules items rest s hs).trans (List.sublist_append_right _ _)

end

/-- The candidates of a scope are found in their order. -/
theorem sublist_found (hs : s ∈ scopes items) : s.classes.Sublist (found items) := by
  rcases List.mem_cons.1 hs with rfl | hs
  · exact declared_sublist [] items items
  · exact sublist_ofItems [] items items s hs

/-! ## Scopes with the same names -/

/-- No two scopes have the same names of modules around them, unless neither has classes. -/
def Separate (scopes : List Scope) : Prop :=
  scopes.Pairwise fun s t => s.modules = t.modules → s.classes = [] ∧ t.classes = []

instance (scopes : List Scope) : Decidable (Separate scopes) :=
  inferInstanceAs (Decidable (scopes.Pairwise fun s t =>
    s.modules = t.modules → s.classes = [] ∧ t.classes = []))

/-- The candidates that are found with the names of modules that a scope has. -/
def Scope.namesakes (items : List Item) (s : Scope) : List Candidate :=
  (found items).filter (·.modules = s.modules)

/-- Namesakes come from the scopes of the same names. -/
theorem perm_namesakes (items : List Item) (s : Scope) :
    (s.namesakes items).Perm
      ((scopes items).flatMap fun t => t.classes.filter (·.modules = s.modules)) := by
  rw [← List.filter_flatMap]
  exact (perm_scopes items).filter _

theorem filter_classes (hs : s ∈ scopes items) :
    s.classes.filter (·.modules = s.modules) = s.classes :=
  List.filter_eq_self.2 fun _ hc => decide_eq_true (modules_of_mem_scopes hs hc)

theorem filter_classes_of_ne {t : Scope} (ht : t ∈ scopes items) (h : t.modules ≠ s.modules) :
    t.classes.filter (·.modules = s.modules) = [] :=
  List.filter_eq_nil_iff.2 fun _ hc => by
    rw [modules_of_mem_scopes ht hc]
    simpa using h

theorem sublist_namesakes (hs : s ∈ scopes items) : s.classes.Sublist (s.namesakes items) := by
  have h := (sublist_found hs).filter (·.modules = s.modules)
  rwa [filter_classes hs] at h

/-- Among separate scopes, the namesakes of a scope are its own candidates. -/
theorem namesakes_of_separate (h : Separate (scopes items)) (hs : s ∈ scopes items) :
    s.namesakes items = s.classes := by
  have hperm := perm_namesakes items s
  have hself := filter_classes hs
  obtain ⟨before, after, e⟩ := List.append_of_mem hs
  rw [Separate, e] at h
  obtain ⟨-, hcons, hbefore⟩ := List.pairwise_append.1 h
  have hother : ∀ t ∈ before ++ after, t.classes.filter (·.modules = s.modules) = [] := by
    intro t ht
    by_cases hmodules : t.modules = s.modules
    · have hempty : t.classes = [] := by
        rcases List.mem_append.1 ht with ht | ht
        · exact (hbefore t ht s List.mem_cons_self hmodules).1
        · exact ((List.pairwise_cons.1 hcons).1 t ht hmodules.symm).2
      rw [hempty]
      rfl
    · have hmem := ((List.sublist_cons_self s after).append_left before).subset ht
      rw [← e] at hmem
      exact filter_classes_of_ne hmem hmodules
  have hsplit : (before ++ s :: after).flatMap (fun t => t.classes.filter (·.modules = s.modules)) =
      s.classes := by
    rw [List.flatMap_append, List.flatMap_cons, hself,
      List.flatMap_eq_nil_iff.2 fun t ht => hother t (List.mem_append_left _ ht),
      List.flatMap_eq_nil_iff.2 fun t ht => hother t (List.mem_append_right _ ht),
      List.nil_append, List.append_nil]
  rw [e, hsplit] at hperm
  exact ((sublist_namesakes hs).eq_of_length hperm.length_eq.symm).symm

/-- Two scopes of the same names share their namesakes. -/
theorem length_add_length_le {α : Type} (code : Candidate → List α) {t : Scope}
    (hst : [s, t].Sublist (scopes items)) (hmodules : s.modules = t.modules) :
    (s.classes.flatMap code).length + (t.classes.flatMap code).length ≤
      ((s.namesakes items).flatMap code).length := by
  have hs : s ∈ scopes items := hst.subset List.mem_cons_self
  have ht : t ∈ scopes items := hst.subset (List.mem_cons_of_mem _ List.mem_cons_self)
  have hsub := (hst.flatMap fun t => t.classes.filter (·.modules = s.modules)).flatMap code
  have hperm := (perm_namesakes items s).flatMap_right code
  have hpair : [s, t].flatMap (fun t => t.classes.filter (·.modules = s.modules)) =
      s.classes ++ t.classes := by
    rw [List.flatMap_cons, List.flatMap_cons, filter_classes hs, hmodules, filter_classes ht]
    simp
  rw [hpair, List.flatMap_append] at hsub
  rw [hperm.length_eq, ← List.length_append]
  exact hsub.length_le

/-- Where each scope has the code of its namesakes just once, the scopes are separate. -/
theorem separate_of_code {α : Type} {code : Candidate → List α}
    (hcode : ∀ c ∈ found items, code c ≠ [])
    (h : ∀ s ∈ scopes items, (s.namesakes items).flatMap code = s.classes.flatMap code) :
    Separate (scopes items) := by
  have hempty : ∀ s ∈ scopes items, (s.classes.flatMap code).length = 0 → s.classes = [] := by
    intro s hs hlength
    refine List.eq_nil_iff_forall_not_mem.2 fun c hc => ?_
    have hnil := List.flatMap_eq_nil_iff.1 (List.length_eq_zero_iff.1 hlength) c hc
    exact hcode c ((sublist_found hs).subset hc) hnil
  refine List.pairwise_iff_forall_sublist.2 fun {s t} hst hmodules => ?_
  have hs : s ∈ scopes items := hst.subset List.mem_cons_self
  have ht : t ∈ scopes items := hst.subset (List.mem_cons_of_mem _ List.mem_cons_self)
  have hle := length_add_length_le code hst hmodules
  have hsame : s.namesakes items = t.namesakes items := by
    rw [Scope.namesakes, Scope.namesakes, hmodules]
  have hcode_s := congrArg List.length (h s hs)
  have hcode_t := congrArg List.length (h t ht)
  rw [← hsame] at hcode_t
  exact ⟨hempty s hs (by omega), hempty t ht (by omega)⟩

end Candidate

end ReactiveModel
