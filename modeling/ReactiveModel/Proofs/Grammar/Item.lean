import ReactiveModel.Grammar.Source

/-!
# The shape of items that are read

The attributes of a type that is read stand before it, and all code that is kept is more than a
single attribute (`Grammar.proper_of_readModule`). A property of what a reader gives follows from
the steps of the reader.
-/

namespace ReactiveModel

/-! ## What readers give -/

namespace Reader

/-- Whatever the reader reads, it gives something with the property. -/
def Gives {α : Type} (p : Reader α) (P : α → Prop) : Prop :=
  ∀ ts a rest, p ts = .ok (a, rest) → P a

namespace Gives

variable {α β : Type} {p : Reader α} {P : α → Prop} {Q : β → Prop} {f : α → Reader β}

theorem bind_of (hp : Gives p P) (hf : ∀ a, P a → Gives (f a) Q) : Gives (p >>= f) Q := by
  intro ts b rest h
  cases hts : p ts with
  | error e =>
    change (p ts >>= fun x => f x.1 x.2) = _ at h
    rw [hts] at h
    cases h
  | ok r =>
    change (p ts >>= fun x => f x.1 x.2) = _ at h
    rw [hts] at h
    exact hf r.1 (hp ts r.1 r.2 hts) r.2 b rest h

theorem trivial (p : Reader α) : Gives p fun _ => True := fun _ _ _ _ => True.intro

theorem bind (hf : ∀ a, Gives (f a) Q) : Gives (p >>= f) Q :=
  (Gives.trivial p).bind_of fun a _ => hf a

theorem pure {a : α} (h : P a) : Gives (pure a) P := by
  intro ts b rest e
  cases e
  exact h

theorem throw (e : SyntaxError) : Gives (throw e) P := by
  intro ts a rest h
  cases h

theorem fail (what : String) : Gives (fail what) P := bind fun _ => throw _

theorem refuse (reason : String) : Gives (refuse reason) P := throw _

theorem mono {P' : α → Prop} (h : Gives p P) (hP : ∀ a, P a → P' a) : Gives p P' :=
  fun ts a rest e => hP a (h ts a rest e)

theorem map {g : α → β} (h : Gives p fun a => Q (g a)) : Gives (g <$> p) Q := by
  intro ts b rest e
  cases hts : p ts with
  | error e' =>
    change (Except.map _ (p ts)) = _ at e
    rw [hts] at e
    cases e
  | ok r =>
    change (Except.map _ (p ts)) = _ at e
    rw [hts] at e
    cases e
    exact h ts r.1 r.2 hts

theorem ite {c : Prop} [Decidable c] {p' : Reader α} (h : c → Gives p P) (h' : ¬ c → Gives p' P) :
    Gives (if c then p else p') P := by
  split
  · next hc => exact h hc
  · next hc => exact h' hc

/-- Two branches that go on in the same way. -/
theorem branch {c : Prop} [Decidable c] {p' : Reader α} (hf : ∀ a, Gives (f a) Q) :
    Gives (if c then p >>= f else p' >>= f) Q :=
  ite (fun _ => bind hf) fun _ => bind hf

theorem whole (h : Gives p P) {within : Option Delimiter} {ts : List Token} {a : α}
    (e : whole within p ts = .ok a) : P a := by
  unfold Reader.whole at e
  cases hts : p ts with
  | error e' =>
    rw [hts] at e
    cases e
  | ok r =>
    rw [hts] at e
    change (if r.2.isEmpty then .ok r.1 else .error (SyntaxError.surplus within)) = Except.ok a at e
    split at e
    · cases e
      exact h ts r.1 r.2 hts
    · cases e

theorem lift {e : Except SyntaxError α} (h : ∀ a, e = .ok a → P a) :
    Gives (liftM e : Reader α) P := by
  intro ts a rest hts
  cases e with
  | error e => cases hts
  | ok a' =>
    cases hts
    exact h a rfl

theorem group (delimiter : Delimiter) (h : Gives p P) : Gives (group delimiter p) P := by
  unfold Reader.group
  refine bind fun ts => ?_
  split
  · split
    · exact (lift fun a e => h.whole e).bind_of fun a ha => bind fun _ => pure ha
    · exact fail _
  · exact fail _

theorem elements {p : Reader (Option α)} (h : Gives p fun o => ∀ a ∈ o, P a) (fuel : Nat) :
    Gives (elements p fuel) fun as => ∀ a ∈ as, P a := by
  induction fuel with
  | zero => exact pure (by simp)
  | succ fuel ih =>
    refine h.bind_of fun o ho => ?_
    cases o with
    | none => exact pure (by simp)
    | some a =>
      refine ih.bind_of fun as has => pure ?_
      exact List.forall_mem_cons.2 ⟨ho a rfl, has⟩

theorem many {p : Reader (Option α)} (h : Gives p fun o => ∀ a ∈ o, P a) :
    Gives (many p) fun as => ∀ a ∈ as, P a :=
  bind fun _ => h.elements _

theorem toEnd (h : Gives p P) : Gives (toEnd p) fun as => ∀ a ∈ as, P a := by
  refine many (bind fun atEnd => ?_)
  split
  · exact pure (by simp)
  · exact h.bind_of fun a ha => pure (by simpa using ha)

end Gives

end Reader

/-! ## Proper items -/

/-- Whether the code is nothing but an attribute. -/
def Code.isAttribute : Code → Bool
  | .attribute .. => true
  | _ => false

namespace Item

mutual

/-- Whether the attributes of all types that the item declares stand before them, and none is taken
for an item. -/
def Proper : Item → Prop
  | .struct s => ∀ a ∈ s.attributes, a.head.inner = false
  | .enum t => ∀ a ∈ t.attributes, a.head.inner = false
  | .union t => ∀ a ∈ t.attributes, a.head.inner = false
  | .impl _ => True
  | .module _ items => ListProper items
  | .other code => code.isAttribute = false

/-- Whether all of the items are proper. -/
def ListProper : List Item → Prop
  | [] => True
  | item :: rest => item.Proper ∧ ListProper rest

end

theorem listProper_iff {items : List Item} : ListProper items ↔ ∀ item ∈ items, item.Proper := by
  induction items with
  | nil => simp [ListProper]
  | cons item items ih => rw [ListProper, ih, List.forall_mem_cons]

theorem proper_of_mem_some {item : Item} (h : item.Proper) : ∀ i ∈ some item, i.Proper := by
  intro i hi
  cases hi
  exact h

theorem proper_toItem {m : Module} (h : ∀ items ∈ m.items, ListProper items) :
    m.toItem.Proper := by
  unfold Module.toItem
  split
  · next items hitems => exact h items hitems
  · rfl

end Item

/-! ## Items that are read -/

namespace Grammar

open Reader Ahead Item

variable {r : Rules} {attributes : List Attribute} {visible : Visibility}

theorem gives_attributeBody (inner : Bool) :
    Gives (attributeBody r inner) fun a => a.head.inner = inner := by
  unfold attributeBody
  refine .bind fun path => .bind fun ts => ?_
  split
  · exact .bind fun _ => .pure rfl
  · split
    · exact .bind fun _ => .bind fun _ => .pure rfl
    · exact .pure rfl

theorem gives_outerAttributes :
    Gives (outerAttributes r) fun as => ∀ a ∈ as, a.head.inner = false := by
  refine .many (.bind fun here => ?_)
  split
  · exact .bind fun _ => ((gives_attributeBody false).group .bracket).bind_of fun a ha =>
      .pure (by simpa using ha)
  · exact .pure (by simp)

section Types

variable (h : ∀ a ∈ attributes, a.head.inner = false)

include h

theorem gives_struct : Gives (struct r attributes visible) fun s => (Item.struct s).Proper := by
  unfold struct
  refine .bind fun _ => .bind fun _ => .bind fun _ => .bind fun _ => .bind fun _ => .bind fun _ => ?_
  split
  · exact .bind fun _ => .bind fun _ => .bind fun _ => .pure h
  · refine .bind fun _ => ?_
    split
    · exact .bind fun _ => .pure h
    · exact .bind fun _ => .pure h

theorem gives_enum : Gives (enum r attributes visible) fun t => (Item.enum t).Proper :=
  .bind fun _ => .bind fun _ => .bind fun _ => .bind fun _ => .bind fun _ => .pure h

theorem gives_union : Gives (union r attributes visible) fun t => (Item.union t).Proper :=
  .bind fun _ => .bind fun _ => .bind fun _ => .bind fun _ => .bind fun _ => .pure h

end Types

theorem gives_module (h : Gives r.item Proper) :
    Gives (module r attributes visible) fun m => ∀ items ∈ m.items, ListProper items := by
  have hitems : Gives (group .brace do
      let inner ← innerAttributes r
      return (inner, ← toEnd r.item)) fun p => ListProper p.2 :=
    .group .brace (.bind fun inner => (Gives.toEnd h).bind_of fun items hitems =>
      .pure (listProper_iff.2 hitems))
  unfold module
  refine .bind fun _ => .bind fun _ => .bind fun _ => .branch fun i => .bind fun announced => ?_
  refine .ite (fun _ => .pure (by simp)) fun _ => ?_
  exact hitems.bind_of fun p hp => .pure (by simpa using hp)

theorem gives_foreignBlock : Gives (foreignBlock r attributes) Proper :=
  .bind fun _ => .bind fun _ => .bind fun _ => .pure rfl

theorem gives_trait : Gives (trait r attributes visible) fun code => (Item.other code).Proper := by
  unfold trait
  refine .bind fun _ => .bind fun _ => .bind fun _ => .bind fun _ => .bind fun _ => .bind fun _ => ?_
  refine .ite (fun _ => ?_) fun _ => .bind fun _ => .branch fun _ => ?_
  · exact .bind fun _ => .bind fun _ => .bind fun _ => .bind fun _ => .pure rfl
  · exact .bind fun _ => .bind fun _ => .pure rfl

theorem gives_asWritten (start : List Token) :
    Gives (asWritten start) fun code => (Item.other code).Proper :=
  .bind fun _ => .pure rfl

theorem gives_itemTail (hattributes : ∀ a ∈ attributes, a.head.inner = false)
    (h : Gives r.item Proper) :
    Gives (itemTail r attributes visible) fun o => ∀ item ∈ o, item.Proper := by
  have hnone : ∀ item ∈ (none : Option Item), item.Proper := by simp
  have hother : ∀ parts, ∀ item ∈ some (Item.other (.seq parts)), item.Proper :=
    fun parts => proper_of_mem_some rfl
  have hforeign : Gives (some <$> foreignBlock r attributes) fun o => ∀ item ∈ o, item.Proper :=
    .map (gives_foreignBlock.mono fun _ => proper_of_mem_some)
  unfold itemTail
  refine .bind fun ts => ?_
  refine .ite (fun _ => ?signature) fun _ => .ite (fun _ => ?foreign) fun _ =>
    .ite (fun _ => ?imports) fun _ => .ite (fun _ => ?statics) fun _ =>
    .ite (fun _ => ?constant) fun _ => .ite (fun _ => ?module) fun _ =>
    .ite (fun _ => ?typeName) fun _ => .ite (fun _ => ?struct) fun _ =>
    .ite (fun _ => ?enum) fun _ => .ite (fun _ => ?union) fun _ =>
    .ite (fun _ => ?trait) fun _ => .ite (fun _ => ?block) fun _ =>
    .ite (fun _ => hforeign) fun _ => .ite (fun _ => ?definition) fun _ =>
    .ite (fun _ => ?invocation) fun _ => .fail _
  case signature =>
    exact .bind fun s => .bind fun _ => .ite (fun _ => .pure hnone) fun _ =>
      .bind fun _ => .pure (hother _)
  case foreign =>
    exact .ite (fun _ => .bind fun _ => .pure (hother _)) fun _ =>
      .ite (fun _ => hforeign) fun _ => .fail _
  case imports =>
    exact .bind fun _ => .bind fun _ => .bind fun (tree, isValid) => .bind fun _ =>
      .ite (fun _ => .pure (hother _)) fun _ => .pure hnone
  case statics =>
    refine .bind fun o => .pure fun item hitem => ?_
    obtain ⟨code, -, hitem⟩ := Option.bind_eq_some_iff.1 hitem
    exact hother _ item hitem
  case constant =>
    refine .bind fun c => .pure ?_
    split
    · exact hother _
    · exact hnone
  case module =>
    exact (gives_module h).bind_of fun m hm => .pure (proper_of_mem_some (proper_toItem hm))
  case typeName =>
    refine .bind fun t => ?_
    dsimp only
    split
    · exact .pure (hother _)
    · exact .pure hnone
  case struct =>
    exact (gives_struct hattributes).bind_of fun _ hs => .pure (proper_of_mem_some hs)
  case enum =>
    exact (gives_enum hattributes).bind_of fun _ ht => .pure (proper_of_mem_some ht)
  case union =>
    exact (gives_union hattributes).bind_of fun _ ht => .pure (proper_of_mem_some ht)
  case trait => exact gives_trait.bind_of fun _ hcode => .pure (proper_of_mem_some hcode)
  case block =>
    refine .bind fun block => .pure ?_
    split
    · intro item hitem
      obtain ⟨i, -, rfl⟩ := Option.map_eq_some_iff.1 hitem
      exact trivial
    · exact hnone
  case definition => exact .bind fun _ => .pure hnone
  case invocation => exact .bind fun _ => .pure (hother _)

theorem gives_item (h : Gives r.item Proper) : Gives (item r) Proper := by
  refine .bind fun start => gives_outerAttributes.bind_of fun attributes hattributes =>
    .bind fun _ => (gives_itemTail hattributes h).bind_of fun o ho => ?_
  cases o with
  | some item => exact .pure (ho item rfl)
  | none => exact (gives_asWritten start).bind_of fun _ hcode => .pure hcode

/-- Items that are read are proper, however deep the rules may go. -/
theorem gives_rules_item (depth : Nat) : Gives (rules depth).item Proper := by
  induction depth with
  | zero => exact .refuse _
  | succ depth ih => exact gives_item ih

theorem proper_of_readModule {text : String} {head : ModuleHead} {items : List Item}
    (h : readModule text = .ok ⟨head, some items⟩) : ListProper items := by
  unfold readModule read at h
  split at h
  · refine Gives.whole (P := fun m => ∀ items ∈ m.items, ListProper items) ?_ h items rfl
    exact .bind fun _ => .bind fun _ => gives_module (gives_rules_item _)
  · cases h

end Grammar

end ReactiveModel
