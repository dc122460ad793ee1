import ReactiveModel.Proofs.Code.SourceOrder
import ReactiveModel.Proofs.Dependency.Order
import ReactiveModel.Proofs.Dependency.SetterCall

/-!
# The order of reads and writes

The references of an updater are passed outermost first, and its reads and writes are listed in that
order. A member is passed ahead of the value that it is taken from, a where clause ahead of the
parameters, and attributes in braces ahead of what the braces belong to; all other names are passed
as they stand. So the lists are in the order of the source if and only if nothing that is passed
ahead is the first to refer to a property that comes later there (`reference_order`). The tokens
handed to a macro are passed as they stand.
-/

namespace ReactiveModel

open Updater

/-! ## What is new in a list -/

section Unseen

variable {α : Type} [DecidableEq α] {seen seen' as bs as' bs' : List α} {o : Option α} {a : α}

/-- The elements of a list that are not among those seen before, each where it comes first. -/
def unseen (seen l : List α) : List α := (l.filter (· ∉ seen)).eraseDups

theorem mem_unseen : a ∈ unseen seen as ↔ a ∈ as ∧ a ∉ seen := by
  rw [unseen, List.mem_eraseDups, List.mem_filter, decide_eq_true_iff]

theorem unseen_nil_left (l : List α) : unseen [] l = l.eraseDups := by
  simp [unseen]

theorem unseen_congr (h : ∀ a, a ∈ seen ↔ a ∈ seen') : unseen seen as = unseen seen' as := by
  unfold unseen
  simp only [h]

/-- What is seen in the first part of a list is not new in the second. -/
theorem unseen_append :
    unseen seen (as ++ bs) = unseen seen as ++ unseen (seen ++ as) bs := by
  unfold unseen
  rw [List.filter_append, List.eraseDups_append]
  congr 2
  unfold List.removeAll
  rw [List.filter_filter]
  refine List.filter_congr fun b _ => ?_
  by_cases hb : b ∈ seen <;> simp [hb]

/-- With more elements seen, those of them that were new are not. -/
theorem unseen_append_left : unseen (seen ++ bs) as = (unseen seen as).filter (· ∉ bs) := by
  unfold unseen
  rw [filter_eraseDups, List.filter_filter]
  congr 1
  refine List.filter_congr fun a _ => ?_
  by_cases ha : a ∈ seen <;> simp [ha]

theorem perm_unseen (h : as.Perm as') : (unseen seen as).Perm (unseen seen as') := by
  refine (List.perm_ext_iff_of_nodup (nodup_eraseDups _) (nodup_eraseDups _)).2 fun a => ?_
  rw [← unseen, ← unseen, mem_unseen, mem_unseen, h.mem_iff]

/-- Lists with the same elements in two parts have the same new elements in the same order if and
only if both parts have. -/
theorem unseen_append_eq_iff (h : as.Perm as') :
    unseen seen (as ++ bs) = unseen seen (as' ++ bs') ↔
      unseen seen as = unseen seen as' ∧ unseen (seen ++ as) bs = unseen (seen ++ as) bs' := by
  have hseen : unseen (seen ++ as') bs' = unseen (seen ++ as) bs' := by
    refine unseen_congr fun a => ?_
    rw [List.mem_append, List.mem_append, h.mem_iff]
  rw [unseen_append, unseen_append, hseen]
  constructor
  · exact fun heq => List.append_inj heq (perm_unseen h).length_eq
  · rintro ⟨hfirst, hsecond⟩
    rw [hfirst, hsecond]

/-- What begins with all that is new in another list goes on with what is new after it. -/
theorem unseen_eq_append_of_begins (h : unseen seen as <+: unseen seen bs) :
    unseen seen bs = unseen seen as ++ unseen (seen ++ as) bs := by
  obtain ⟨rest, hrest⟩ := h
  have hnodup : (unseen seen as ++ rest).Nodup := hrest ▸ nodup_eraseDups _
  have hfirst : (unseen seen as).filter (· ∉ as) = [] := by
    rw [List.filter_eq_nil_iff]
    intro a ha
    simpa using (mem_unseen.1 ha).1
  have hlast : rest.filter (· ∉ as) = rest := by
    rw [List.filter_eq_self]
    intro a ha
    have hnew : a ∉ seen := (mem_unseen.1 (hrest ▸ List.mem_append_right _ ha)).2
    have hnot : a ∉ as := fun hold =>
      (List.nodup_append.1 hnodup).2.2 a (mem_unseen.2 ⟨hold, hnew⟩) a ha rfl
    simpa using hnot
  rw [unseen_append_left, ← hrest, List.filter_append, hfirst, hlast, List.nil_append]

/-- Nothing is left of a list after one that begins with all that is new in it. -/
theorem unseen_eq_nil_of_begins (h : unseen seen as <+: unseen seen bs) :
    unseen (seen ++ bs) as = [] := by
  rw [List.eq_nil_iff_forall_not_mem]
  intro a ha
  obtain ⟨ha, hnew⟩ := mem_unseen.1 ha
  rw [List.mem_append, not_or] at hnew
  exact hnew.2 (mem_unseen.1 (h.subset (mem_unseen.2 ⟨ha, hnew.1⟩))).1

/-- What begins with all that is new in a list may be passed after it and stand before it if and only
if what is new after the list comes in the same order. -/
theorem unseen_exchanged_eq_iff_of_begins (has : as.Perm as')
    (h : unseen seen as <+: unseen seen bs') :
    unseen seen (as ++ bs) = unseen seen (bs' ++ as') ↔
      unseen (seen ++ as) bs = unseen (seen ++ as) bs' := by
  have hnone : unseen (seen ++ bs') as' = [] :=
    (unseen_eq_nil_of_begins h ▸ perm_unseen has.symm).eq_nil
  rw [unseen_append, unseen_append, hnone, List.append_nil, unseen_eq_append_of_begins h,
    List.append_cancel_left_eq]

/-- One list may be passed before another and stand after it if and only if the new elements of one
of them begin with those of the other, and what is new after these comes in the same order. -/
theorem unseen_exchanged_eq_iff (has : as.Perm as') (hbs : bs.Perm bs') :
    unseen seen (as ++ bs) = unseen seen (bs' ++ as') ↔
      (unseen seen as <+: unseen seen bs' ∧
        unseen (seen ++ as) bs = unseen (seen ++ as) bs') ∨
      (unseen seen bs' <+: unseen seen as ∧
        unseen (seen ++ bs) as = unseen (seen ++ bs) as') := by
  have hafter : ∀ l, unseen (seen ++ bs) l = unseen (seen ++ bs') l := fun l =>
    unseen_congr fun a => by rw [List.mem_append, List.mem_append, hbs.mem_iff]
  have hsecond (h : unseen seen bs' <+: unseen seen as) :
      unseen seen (as ++ bs) = unseen seen (bs' ++ as') ↔
        unseen (seen ++ bs) as = unseen (seen ++ bs) as' := by
    rw [eq_comm, unseen_exchanged_eq_iff_of_begins hbs.symm h, ← hafter, ← hafter, eq_comm]
  have hbegins : ∀ as bs : List α, unseen seen as <+: unseen seen (as ++ bs) := by
    intro as bs
    rw [unseen_append]
    exact List.prefix_append _ _
  constructor
  · intro heq
    rcases List.prefix_or_prefix_of_prefix (heq ▸ hbegins as bs) (hbegins bs' as') with h | h
    · exact .inl ⟨h, (unseen_exchanged_eq_iff_of_begins has h).1 heq⟩
    · exact .inr ⟨h, (hsecond h).1 heq⟩
  · rintro (⟨h, heq⟩ | ⟨h, heq⟩)
    · exact (unseen_exchanged_eq_iff_of_begins has h).2 heq
    · exact (hsecond h).2 heq

end Unseen

/-! ## What references refer to for the first time -/

section Subjects

variable {subject : Reference → Option String} {seen as bs cs as' bs' cs' : List Reference}

/-- What references refer to for the first time, after some others. -/
def firsts (subject : Reference → Option String) (seen references : List Reference) :
    List String := unseen (seen.filterMap subject) (references.filterMap subject)

/-- Two rows of references refer to the same for the first time, in the same order. -/
def FirstsAgree (subject : Reference → Option String) (seen as bs : List Reference) : Prop :=
  firsts subject seen as = firsts subject seen bs

/-- What is passed ahead of other code does not disturb the order of first references: those in one
of the two begin with those in the other, and the one keeps its order after the other. -/
def KeepsAhead (ahead others : List String) (othersKept aheadKept : Prop) : Prop :=
  (ahead <+: others ∧ othersKept) ∨ (others <+: ahead ∧ aheadKept)

theorem firstsAgree_append_iff (h : as.Perm as') :
    FirstsAgree subject seen (as ++ bs) (as' ++ bs') ↔
      FirstsAgree subject seen as as' ∧ FirstsAgree subject (seen ++ as) bs bs' := by
  unfold FirstsAgree firsts
  simp only [List.filterMap_append]
  exact unseen_append_eq_iff (h.filterMap subject)

theorem firstsAgree_exchanged_iff (has : as.Perm as') (hbs : bs.Perm bs') :
    FirstsAgree subject seen (as ++ bs) (bs' ++ as') ↔
      KeepsAhead (firsts subject seen as) (firsts subject seen bs')
        (FirstsAgree subject (seen ++ as) bs bs') (FirstsAgree subject (seen ++ bs) as as') := by
  unfold KeepsAhead FirstsAgree firsts
  simp only [List.filterMap_append]
  exact unseen_exchanged_eq_iff (has.filterMap subject) (hbs.filterMap subject)

theorem firstsAgree_ahead_iff (has : as.Perm as') (hbs : bs.Perm bs') :
    FirstsAgree subject seen (as ++ (bs ++ cs)) (bs' ++ (as' ++ cs')) ↔
      KeepsAhead (firsts subject seen as) (firsts subject seen bs')
        (FirstsAgree subject (seen ++ as) bs bs') (FirstsAgree subject (seen ++ bs) as as') ∧
      FirstsAgree subject (seen ++ (as ++ bs)) cs cs' := by
  have hboth : (as ++ bs).Perm (bs' ++ as') := (has.append hbs).trans List.perm_append_comm
  rw [← List.append_assoc, ← List.append_assoc, firstsAgree_append_iff hboth,
    firstsAgree_exchanged_iff has hbs]

theorem firstsAgree_self (seen as : List Reference) :
    FirstsAgree subject seen as as ↔ True := iff_of_true rfl trivial

end Subjects

/-! ## Code that keeps the order -/

namespace Code

mutual

/-- After some references, what code refers to for the first time is passed in the order of the
source. A member is passed ahead of what it is taken from, and the first part of an arrangement
ahead of the second one. -/
def KeepsOrder (subject : Reference → Option String) : Code → List Reference → Prop
  | .group _ body, seen => body.KeepsOrder subject seen
  | .seq parts, seen => listKeepsOrder subject parts seen
  | .arranged (.secondFirst _) (first :: second :: rest), seen =>
    KeepsAhead (firsts subject seen first.references) (firsts subject seen second.inOrder)
      (second.KeepsOrder subject (seen ++ first.references))
      (first.KeepsOrder subject (seen ++ second.references)) ∧
    listKeepsOrder subject rest (seen ++ (first.references ++ second.references))
  | .arranged _ parts, seen => listKeepsOrder subject parts seen
  | .member base i, seen =>
    KeepsAhead (firsts subject seen [.member i false]) (firsts subject seen base.inOrder)
      (base.KeepsOrder subject (seen ++ [.member i false])) True
  | .call base i arguments, seen =>
    KeepsAhead (firsts subject seen [.member i true]) (firsts subject seen base.inOrder)
      (base.KeepsOrder subject (seen ++ [.member i true])) True ∧
    arguments.KeepsOrder subject (seen ++ .member i true :: base.references)
  | .attribute _ _ value, seen => value.KeepsOrder subject seen
  | _, _ => True

/-- The same of pieces of code one after another. -/
def listKeepsOrder (subject : Reference → Option String) : List Code → List Reference → Prop
  | [], _ => True
  | c :: rest, seen =>
    c.KeepsOrder subject seen ∧ listKeepsOrder subject rest (seen ++ c.references)

end

variable {subject : Reference → Option String}

mutual

/-- References as they are passed refer to the same for the first time as in the order of the source,
and in the same order, if and only if the code keeps it. -/
theorem keepsOrder_iff : ∀ (c : Code) (seen : List Reference),
    c.KeepsOrder subject seen ↔ FirstsAgree subject seen c.references c.inOrder
  | .raw _, _ => iff_of_true trivial rfl
  | .group _ body, seen => keepsOrder_iff body seen
  | .seq cs, seen => listKeepsOrder_iff cs seen
  | .arranged (.secondFirst _) (first :: second :: rest), seen => by
    rw [KeepsOrder, keepsOrder_iff second, keepsOrder_iff first, listKeepsOrder_iff rest]
    exact (firstsAgree_ahead_iff (perm_inOrder first) (perm_inOrder second)).symm
  | .arranged (.secondFirst _) [], seen => listKeepsOrder_iff [] seen
  | .arranged (.secondFirst _) [c], seen => listKeepsOrder_iff [c] seen
  | .arranged (.lifetimesFirst _) cs, seen => listKeepsOrder_iff cs seen
  | .name _, _ => iff_of_true trivial rfl
  | .member base i, seen => by
    rw [KeepsOrder, keepsOrder_iff base, ← firstsAgree_self (seen ++ base.references)]
    exact (firstsAgree_exchanged_iff (.refl [.member i false]) (perm_inOrder base)).symm
  | .call base i arguments, seen => by
    rw [KeepsOrder, keepsOrder_iff base, keepsOrder_iff arguments,
      ← firstsAgree_self (seen ++ base.references)]
    exact (firstsAgree_ahead_iff (.refl [.member i true]) (perm_inOrder base)).symm
  | .binding _, _ => iff_of_true trivial rfl
  | .invocation _ _, _ => iff_of_true trivial rfl
  | .attribute _ _ value, seen => keepsOrder_iff value seen

theorem listKeepsOrder_iff : ∀ (cs : List Code) (seen : List Reference),
    listKeepsOrder subject cs seen ↔
      FirstsAgree subject seen (listReferences cs) (inOrderOfEach cs).flatten
  | [], _ => iff_of_true trivial rfl
  | c :: cs, seen => by
    rw [listKeepsOrder, listReferences, inOrderOfEach, List.flatten_cons,
      firstsAgree_append_iff (perm_inOrder c), keepsOrder_iff c, listKeepsOrder_iff cs]

end

end Code

/-- What a tree refers to, listed as it is passed for the first time: it is the same as in the order
of the source, and in the same order if and only if the code keeps it. -/
theorem eraseDups_references (subject : Reference → Option String) (c : Code) :
    let listed := (c.references.filterMap subject).eraseDups
    let inSource := (c.inOrder.filterMap subject).eraseDups
    listed.Perm inSource ∧ (listed = inSource ↔ c.KeepsOrder subject []) := by
  have hkeeps := @Code.keepsOrder_iff subject c []
  have hperm := @perm_unseen _ _ [] _ _ (c.perm_inOrder.filterMap subject)
  simp only [FirstsAgree, firsts, List.filterMap_nil, unseen_nil_left] at hkeeps
  rw [unseen_nil_left, unseen_nil_left] at hperm
  exact ⟨hperm, hkeeps.symm⟩

/-- The reads of an updater are the properties that its code refers to, and they are listed in the
order of their first references in the source if and only if no member or clause that is passed ahead
of other code disturbs it; and likewise the writes. The names of the references follow one another
as in the tokens of the code, if these are written as they stand in the source. -/
theorem reference_order (fs : List ObservableField) (m : Method) :
    let index := PropertyIndex.ofFields fs
    let u := ofMethod index m
    let read := read? index (Locals.ofMethod m)
    let written := written? index
    (u.reads.Perm (m.body.inOrder.filterMap read).eraseDups ∧
      (u.reads = (m.body.inOrder.filterMap read).eraseDups ↔ m.body.KeepsOrder read [])) ∧
    (u.writes.Perm (m.body.inOrder.filterMap written).eraseDups ∧
      (u.writes = (m.body.inOrder.filterMap written).eraseDups ↔
        m.body.KeepsOrder written [])) ∧
    (m.body.IsAsInSource →
      (m.body.inOrder.map Reference.ident).Sublist (Token.words m.body.toTokens)) := by
  intro index u read written
  exact ⟨eraseDups_references read m.body, eraseDups_references written m.body,
    Code.follow_inOrder m.body⟩

/-! ## A member taken from a member -/

/-- A call of a method on what another one returns. -/
def chainedCall (first second : String) : Code :=
  let arguments := Code.group .parenthesis .empty
  .seq [.call (.call (.name (.plain "self")) (.plain first) arguments) (.plain second) arguments,
    .op ";"]

theorem isAsInSource_chainedCall (first second : String) :
    (chainedCall first second).IsAsInSource := by
  have hleaf : ∀ c : Code, c.WritesSource → c.parts = [] → c.IsAsInSource := fun c hc hparts =>
    Code.isAsInSource_iff.2 ⟨hc, by simp [hparts]⟩
  have harguments : (Code.group .parenthesis .empty).IsAsInSource :=
    Code.isAsInSource_iff.2 ⟨trivial, List.forall_mem_singleton.2 (hleaf .empty trivial rfl)⟩
  have hcall : ∀ (base : Code) (i : Ident), base.IsAsInSource →
      (Code.call base i (.group .parenthesis .empty)).IsAsInSource := fun base i hbase =>
    Code.isAsInSource_iff.2 ⟨trivial, List.forall_mem_cons.2
      ⟨hbase, List.forall_mem_singleton.2 harguments⟩⟩
  have hchain := hcall _ (.plain second) <| hcall _ (.plain first) <|
    hleaf (.name (.plain "self")) trivial rfl
  exact Code.isAsInSource_iff.2 ⟨trivial, List.forall_mem_cons.2
    ⟨hchain, List.forall_mem_singleton.2 (hleaf (.op ";") trivial rfl)⟩⟩

theorem reference_order_chained :
    let index := PropertyIndex.ofFields
      [.sample "_count" "Count" "count", .sample "m_label" "Label" "label"]
    let m := Method.sample (chainedCall "count" "label")
    let read := read? index (Locals.ofMethod m)
    m.body.inOrder.filterMap read = ["Count", "Label"] ∧
      (ofMethod index m).reads.Perm ["Count", "Label"] ∧ ¬ m.body.KeepsOrder read [] ∧
      (m.body.inOrder.map Reference.ident).Sublist (Token.words m.body.toTokens) := by
  intro index m read
  have hsource : m.body.inOrder.filterMap read = ["Count", "Label"] := by decide
  obtain ⟨⟨hperm, hkeeps⟩, -, hfollow⟩ := reference_order
    [.sample "_count" "Count" "count", .sample "m_label" "Label" "label"] m
  refine ⟨hsource, ?_, ?_, hfollow (isAsInSource_chainedCall "count" "label")⟩
  · rwa [hsource] at hperm
  · rw [← hkeeps, hsource]
    decide

/-- The same tokens in a macro are taken in the order in which they stand. -/
example :
    let fs : List ObservableField :=
      [.sample "_count" "Count" "count", .sample "m_label" "Label" "label"]
    let tokens := (chainedCall "count" "label").toTokens
    (ofMethod (.ofFields fs) (.sample (chainedCall "count" "label"))).reads = ["Label", "Count"] ∧
      (ofMethod (.ofFields fs) (.sample (.invocation .brace tokens))).reads =
        ["Count", "Label"] := by
  decide

/-- The names of a clause that stands after others are read before them. -/
example :
    let fs : List ObservableField :=
      [.sample "_count" "Count" "count", .sample "m_label" "Label" "label"]
    let clause := Code.before (.name (.plain "count")) (.name (.plain "label"))
    Token.words clause.toTokens = [.plain "count", .plain "label"] ∧
      (ofMethod (.ofFields fs) (.sample clause)).reads = ["Label", "Count"] := by
  decide

/-- Not all reads and writes are listed in the order of the source. -/
theorem not_forall_reference_order :
    ¬ ∀ (config : Config) (className : String) (decls : List FieldDecl)
      (fs : List ObservableField) (ds : List Diagnostic),
      Resolution.fields config className decls = .ok (fs, ds) → ∀ m : Method,
        (ofMethod (.ofFields fs) m).reads =
            (m.body.inOrder.filterMap (read? (.ofFields fs) (Locals.ofMethod m))).eraseDups ∧
          (ofMethod (.ofFields fs) m).writes =
            (m.body.inOrder.filterMap (written? (.ofFields fs))).eraseDups := by
  intro h
  have hreads := (h {} "Model" _ _ _ fields_count_label (.sample (chainedCall "count" "label"))).1
  exact absurd hreads (by decide)

end ReactiveModel
