import ReactiveModel.Proofs.Generation.Unit

/-!
# Classes on their own

What a file yields for a struct depends on the names of the modules around it, on the struct and on
the inherent impl blocks beside it, and on nothing else in the file: two files with the same struct
at places that agree in these have the same share in what they yield (`share_unique`).
-/

namespace ReactiveModel

open Candidate

/-! ## Places in a file -/

/-- A module, with the items before and after it. -/
structure Enclosure where
  before : List Item
  head : ModuleHead
  after : List Item

/-- Where an item stands: the modules around it, the outermost first, and the items beside it. -/
structure Place where
  enclosures : List Enclosure
  before : List Item
  after : List Item

/-- Items within modules. -/
def enclose : List Enclosure → List Item → List Item
  | [], items => items
  | e :: es, items => e.before ++ .module e.head (enclose es items) :: e.after

/-- The names of modules, after those of the modules around them. -/
def innermost (modules : List String) (es : List Enclosure) : List String :=
  modules ++ es.map (·.head.name.text)

/-- What is found before the items within modules. -/
def foundBefore (modules : List String) : List Enclosure → List Item → List Finding
  | [], _ => []
  | e :: es, items =>
    ofItems modules (enclose (e :: es) items) e.before ++
      foundBefore (modules ++ [e.head.name.text]) es items

/-- What is found after the items within modules. -/
def foundAfter (modules : List String) : List Enclosure → List Item → List Finding
  | [], _ => []
  | e :: es, items =>
    foundAfter (modules ++ [e.head.name.text]) es items ++
      ofItems modules (enclose (e :: es) items) e.after

theorem ofItems_append (modules : List String) (all xs ys : List Item) :
    ofItems modules all (xs ++ ys) = ofItems modules all xs ++ ofItems modules all ys := by
  induction xs with
  | nil => rfl
  | cons x xs ih => rw [List.cons_append, ofItems, ofItems, ih, List.append_assoc]

/-- A search goes through the modules around the items, and looks at the items by themselves. -/
theorem ofItems_enclose (items : List Item) : ∀ (modules : List String) (es : List Enclosure),
    ofItems modules (enclose es items) (enclose es items) =
      foundBefore modules es items ++ ofItems (innermost modules es) items items ++
        foundAfter modules es items
  | modules, [] => by simp [enclose, foundBefore, foundAfter, innermost]
  | modules, e :: es => by
    have ih := ofItems_enclose items (modules ++ [e.head.name.text]) es
    have hinner : innermost modules (e :: es) = innermost (modules ++ [e.head.name.text]) es := by
      simp [innermost]
    have hsplit : ofItems modules (enclose (e :: es) items) (enclose (e :: es) items) =
        ofItems modules (enclose (e :: es) items) e.before ++
          (ofItems (modules ++ [e.head.name.text]) (enclose es items) (enclose es items) ++
            ofItems modules (enclose (e :: es) items) e.after) := by
      conv_lhs => arg 3; rw [enclose]
      rw [ofItems_append, ofItems, ofItem]
    rw [hsplit, ih, hinner, foundBefore, foundAfter]
    simp only [List.append_assoc]

namespace Place

variable (p : Place) (s : Struct)

/-- The names of the modules around a place. -/
def modules : List String := p.enclosures.map (·.head.name.text)

/-- The list of items that a struct stands in. -/
def siblings : List Item := p.before ++ .struct s :: p.after

/-- The file with a struct at a place. -/
def file : List Item := enclose p.enclosures (p.siblings s)

/-- What is found before the struct. -/
def earlier : List Finding :=
  foundBefore [] p.enclosures (p.siblings s) ++ ofItems p.modules (p.siblings s) p.before

/-- What is found at the struct. -/
def own : List Finding := ofStruct p.modules (p.siblings s) s

/-- What is found after the struct. -/
def later : List Finding :=
  ofItems p.modules (p.siblings s) p.after ++ foundAfter [] p.enclosures (p.siblings s)

theorem find_file : find (p.file s) = p.earlier s ++ p.own s ++ p.later s := by
  have hscope : ofItems p.modules (p.siblings s) (p.siblings s) =
      ofItems p.modules (p.siblings s) p.before ++
        (p.own s ++ ofItems p.modules (p.siblings s) p.after) := by
    conv_lhs => arg 3; rw [siblings]
    rw [ofItems_append, ofItems, ofItem, own]
  have hinner : innermost [] p.enclosures = p.modules := by simp [innermost, modules]
  rw [find, file, ofItems_enclose, hinner, hscope, earlier, later]
  simp only [List.append_assoc]

variable {p s} {q : Place}

/-- What is found at a struct is told by the modules around it and the impl blocks beside it. -/
theorem own_congr (hmodules : p.modules = q.modules)
    (himpls : implsOf s.name (p.siblings s) = implsOf s.name (q.siblings s)) :
    p.own s = q.own s := by
  unfold own ofStruct
  rw [hmodules, himpls]

theorem length_among_own_le : (among (p.own s)).length ≤ 1 := by
  unfold own ofStruct
  split
  · split
    · exact Nat.le_refl 1
    · exact Nat.zero_le 1
  · exact Nat.zero_le 1
  · exact Nat.zero_le 1

end Place

/-! ## Shares -/

/-- What a unit has of a piece of its file, and of what is before and after this piece. -/
structure GeneratedUnit.HasShare (u : GeneratedUnit) (before share after : UnitOutput) : Prop where
  classes : u.classes = before.result.classes ++ share.result.classes ++ after.result.classes
  diagnostics : u.diagnostics =
    (before.scanned ++ share.scanned ++ after.scanned) ++
      (before.raised ++ share.raised ++ after.raised)

variable {config : Config} {text : String} {u : GeneratedUnit} {p q : Place} {s : Struct}

/-- A unit has the share of a struct between those of what is found before and after it. -/
theorem exists_share (hread : Grammar.readUnit text = .ok (p.file s))
    (hu : generate config text = .ok u) :
    ∃ before share after, UnitOutput.ofFindings config (p.earlier s) = .ok before ∧
      UnitOutput.ofFindings config (p.own s) = .ok share ∧
      UnitOutput.ofFindings config (p.later s) = .ok after ∧ u.HasShare before share after := by
  obtain ⟨o, ho, rfl⟩ := (generate_eq_ok_iff hread).1 hu
  have hfind : UnitOutput.ofFindings config (find (p.file s)) = .ok o := ho
  rw [p.find_file s] at hfind
  obtain ⟨o', after, ho', hafter, rfl⟩ := UnitOutput.ofFindings_append_eq_ok_iff.1 hfind
  obtain ⟨before, share, hbefore, hshare, rfl⟩ := UnitOutput.ofFindings_append_eq_ok_iff.1 ho'
  refine ⟨before, share, after, hbefore, hshare, hafter, ?_, ?_⟩
  · rw [UnitOutput.result_classes_append, UnitOutput.result_classes_append]
  · simp only [UnitOutput.result_diagnostics, UnitOutput.scanned_append, UnitOutput.raised_append]

theorem length_classes_le {share : UnitOutput}
    (h : UnitOutput.ofFindings config (p.own s) = .ok share) : share.result.classes.length ≤ 1 := by
  obtain ⟨os, hos, h⟩ := bind_eq_ok_iff.1 h
  cases h
  calc _ = (os.filter (·.failure?.isNone)).length := List.length_map _
    _ ≤ os.length := List.length_filter_le _ _
    _ = (among (p.own s)).length := (mapM_eq_ok_iff.1 hos).length_eq.symm
    _ ≤ 1 := Place.length_among_own_le

/-- Two files that have a struct in modules of the same names, with the same inherent impl blocks
beside it, yield the same for it: the code of its class, or no code in both, and the violations
that are found at it and raised while it is processed. -/
theorem share_unique {text' : String} {u' : GeneratedUnit}
    (hread : Grammar.readUnit text = .ok (p.file s))
    (hread' : Grammar.readUnit text' = .ok (q.file s))
    (hu : generate config text = .ok u) (hu' : generate config text' = .ok u')
    (hmodules : p.modules = q.modules)
    (himpls : implsOf s.name (p.siblings s) = implsOf s.name (q.siblings s)) :
    ∃ share, UnitOutput.ofFindings config (p.own s) = .ok share ∧
      share.result.classes.length ≤ 1 ∧
      (∃ before after, UnitOutput.ofFindings config (p.earlier s) = .ok before ∧
        UnitOutput.ofFindings config (p.later s) = .ok after ∧ u.HasShare before share after) ∧
      ∃ before after, UnitOutput.ofFindings config (q.earlier s) = .ok before ∧
        UnitOutput.ofFindings config (q.later s) = .ok after ∧ u'.HasShare before share after := by
  obtain ⟨before, share, after, hbefore, hshare, hafter, h⟩ := exists_share hread hu
  obtain ⟨before', share', after', hbefore', hshare', hafter', h'⟩ := exists_share hread' hu'
  have hsame : share' = share := by
    rw [← Place.own_congr hmodules himpls, hshare] at hshare'
    exact (Except.ok.inj hshare').symm
  rw [hsame] at h'
  exact ⟨share, hshare, length_classes_le hshare, ⟨before, after, hbefore, hafter, h⟩,
    before', after', hbefore', hafter', h'⟩

/-! ## A class with and without others -/

/-- An inherent impl block without members. -/
def bareImpl (name : String) : Impl :=
  ⟨[], .seq [.empty, .empty], .empty, none, some ⟨false, [.plain name]⟩,
    .seq [.seq [.empty, .ident (.plain name)]], []⟩

/-- The tokens of an inherent impl block without members. -/
def bareImplTokens (name : String) : List Token :=
  [.word (.plain "impl"), .word (.plain name), .group .brace []]

/-- A model alone in a module. -/
def aloneText : String := "mod m { #[reactive_model] struct A { } impl A { } }"

/-- The place of the model `A`, its impl block after it. -/
def alonePlace : Place := ⟨[⟨[], plainModule "m", []⟩], [], [.impl (bareImpl "A")]⟩

/-- The same model in a module with others. -/
def amongText : String :=
  "struct B; mod m { #[reactive_model] struct D { } impl A { } #[reactive_model] struct A { } }"

/-- The place of the model `A`, its impl block before it. -/
def amongPlace : Place :=
  ⟨[⟨[.struct ⟨[], .inherited, .plain "B", .empty, .unit⟩], plainModule "m", []⟩],
    [.struct (bareModel "D"), .impl (bareImpl "A")], []⟩

set_option maxRecDepth 10000 in
theorem readUnit_alone : Grammar.readUnit aloneText = .ok (alonePlace.file (bareModel "A")) :=
  Grammar.readUnit_eq_ok
    (plainModuleTokens "m" (bareModelTokens "struct" "A" ++ bareImplTokens "A")) rfl rfl

set_option maxRecDepth 10000 in
theorem readUnit_among : Grammar.readUnit amongText = .ok (amongPlace.file (bareModel "A")) :=
  Grammar.readUnit_eq_ok
    ([.word (.plain "struct"), .word (.plain "B"), .mark ';' .alone] ++
      plainModuleTokens "m"
        (bareModelTokens "struct" "D" ++ bareImplTokens "A" ++ bareModelTokens "struct" "A"))
    rfl rfl

theorem share_unique_alone_among :
    ∃ (u u' : GeneratedUnit) (share before after before' after' : UnitOutput),
      generate {} aloneText = .ok u ∧ generate {} amongText = .ok u' ∧
      share.classes.length = 1 ∧
      u.HasShare before share after ∧ u'.HasShare before' share after' := by
  obtain ⟨u, hu⟩ : ∃ u, generate {} aloneText = .ok u :=
    ⟨_, (generate_eq_ok_iff readUnit_alone).2 ⟨_, rfl, rfl⟩⟩
  obtain ⟨u', hu'⟩ : ∃ u, generate {} amongText = .ok u :=
    ⟨_, (generate_eq_ok_iff readUnit_among).2 ⟨_, rfl, rfl⟩⟩
  obtain ⟨share, hshare, -, ⟨before, after, -, -, h⟩, before', after', -, -, h'⟩ :=
    share_unique readUnit_alone readUnit_among hu hu' rfl rfl
  cases hshare
  exact ⟨u, u', _, before, after, before', after', hu, hu', rfl, h, h'⟩

end ReactiveModel
