import ReactiveModel.Proofs.Dependency.Order
import ReactiveModel.Proofs.Dependency.SetterCall
import ReactiveModel.Proofs.Dependency.Shadowing
import ReactiveModel.Proofs.Grammar.Item

/-!
# What the scan of an updater finds

The names that count in the body of an updater are told by the places where they stand: a member of
a value, with or without a call, a path that is nothing but one identifier, and a word among the
tokens handed to a macro, however deep in groups. The properties that an updater reads and writes
are just those that the index gives for these names (`scan_exact`).
-/

namespace ReactiveModel

open Updater

/-! ## Places of names -/

namespace Code

/-- Whether a piece of code has a member of the name, called or not, its parts apart. Among the
tokens of a macro, a member is a word after a single point, called if a group in parentheses
follows. -/
def HasMember (name : String) (called : Bool) : Code → Prop
  | .member _ i => called = false ∧ i.name = name
  | .call _ i _ => called = true ∧ i.name = name
  | .invocation _ tokens => ∃ before i after, Token.Nested tokens (before ++ .word i :: after) ∧
      Token.endsInPoint before = true ∧ Token.beginsCall after = called ∧ i.name = name
  | _ => False

/-- Whether a piece of code has the name by itself, its parts apart: as a lone identifier, or as a
word among the tokens of a macro that does not follow a single point. -/
def HasName (name : String) : Code → Prop
  | .name i => i.name = name
  | .invocation _ tokens => ∃ before i after, Token.Nested tokens (before ++ .word i :: after) ∧
      Token.endsInPoint before = false ∧ i.name = name
  | _ => False

end Code

namespace Method

/-- A member of the name stands somewhere in the body. -/
def HasMember (m : Method) (name : String) (called : Bool) : Prop :=
  ∃ piece, m.body.Contains piece ∧ piece.HasMember name called

/-- The name stands by itself somewhere in the body. -/
def HasName (m : Method) (name : String) : Prop :=
  ∃ piece, m.body.Contains piece ∧ piece.HasName name

end Method

/-! ## Names and references -/

namespace Code

variable {piece : Code} {name : String} {called : Bool}

theorem hasMember_iff :
    piece.HasMember name called ↔ ∃ i, piece.Refers (.member i called) ∧ i.name = name := by
  cases piece with
  | invocation delimiter tokens =>
    show (∃ before i after, _ ∧ _ ∧ _ ∧ _) ↔ ∃ i, Token.Occurs tokens _ ∧ _
    constructor
    · rintro ⟨before, i, after, hnested, hpoint, hcall, hname⟩
      exact ⟨i, ⟨before, i, after, hnested,
        Token.wordReference_eq_member_iff.2 ⟨hpoint, hcall, rfl⟩⟩, hname⟩
    · rintro ⟨i, ⟨before, j, after, hnested, href⟩, hname⟩
      obtain ⟨hpoint, hcall, rfl⟩ := Token.wordReference_eq_member_iff.1 href
      exact ⟨before, j, after, hnested, hpoint, hcall, hname⟩
  | _ => simp [HasMember, Refers]

theorem hasName_iff : piece.HasName name ↔ ∃ i, piece.Refers (.bare i) ∧ i.name = name := by
  cases piece with
  | invocation delimiter tokens =>
    show (∃ before i after, _ ∧ _ ∧ _) ↔ ∃ i, Token.Occurs tokens _ ∧ _
    constructor
    · rintro ⟨before, i, after, hnested, hpoint, hname⟩
      exact ⟨i, ⟨before, i, after, hnested, Token.wordReference_eq_bare_iff.2 ⟨hpoint, rfl⟩⟩,
        hname⟩
    · rintro ⟨i, ⟨before, j, after, hnested, href⟩, hname⟩
      obtain ⟨hpoint, rfl⟩ := Token.wordReference_eq_bare_iff.1 href
      exact ⟨before, j, after, hnested, hpoint, hname⟩
  | _ => simp [HasName, Refers]

/-- References of one shape to a name, found piece by piece. -/
theorem exists_contains_refers_iff {code : Code} {shape : Ident → Reference} :
    (∃ piece, code.Contains piece ∧ ∃ i, piece.Refers (shape i) ∧ i.name = name) ↔
      ∃ i, code.Occurs (shape i) ∧ i.name = name := by
  constructor
  · rintro ⟨piece, hpart, i, href, hname⟩
    exact ⟨i, ⟨piece, hpart, href⟩, hname⟩
  · rintro ⟨i, ⟨piece, hpart, href⟩, hname⟩
    exact ⟨piece, hpart, i, href, hname⟩

end Code

namespace Method

variable {m : Method} {name : String} {called : Bool}

theorem hasMember_iff :
    m.HasMember name called ↔ ∃ i, m.body.Occurs (.member i called) ∧ i.name = name := by
  simp only [HasMember, Code.hasMember_iff, Code.exists_contains_refers_iff]

theorem hasName_iff : m.HasName name ↔ ∃ i, m.body.Occurs (.bare i) ∧ i.name = name := by
  simp only [HasName, Code.hasName_iff, Code.exists_contains_refers_iff]

end Method

/-! ## Paths -/

namespace Grammar

open Reader

/-- A path is a sequence of pieces, none of which is the path. -/
theorem gives_path (r : Rules) (inExpr : Bool) :
    Gives (path r inExpr) fun p => ∃ parts, p.code = .seq parts :=
  .bind fun _ => .bind fun _ => .bind fun _ => .pure ⟨_, rfl⟩

theorem gives_qualifiedPath (r : Rules) (inExpr : Bool) :
    Gives (qualifiedPath r inExpr) fun p => ∃ parts, p.code = .seq parts :=
  .bind fun _ => .ite
    (fun _ => .bind fun _ => .bind fun _ => .bind fun _ => .bind fun _ => .bind fun _ =>
      .bind fun _ => .pure ⟨_, rfl⟩)
    fun _ => gives_path r inExpr

theorem PathCode.lone?_eq_some_iff {p : PathCode} {i : Ident} :
    p.lone? = some i ↔ p.qualified = false ∧ p.global = false ∧ p.segments = [(i, false)] := by
  obtain ⟨code, qualified, global, segments⟩ := p
  unfold lone?
  dsimp only
  split
  · simp
  · next h =>
    constructor
    · intro hnone
      cases hnone
    · rintro ⟨hqualified, hglobal, hsegments⟩
      exact absurd hsegments (h i hqualified hglobal)

/-- A path is a name by itself if it is one identifier, without a type in angle brackets, a leading
`::` or arguments. -/
theorem hasName_value_iff {r : Rules} {inExpr : Bool} {ts rest : List Token} {p : PathCode}
    (h : qualifiedPath r inExpr ts = .ok (p, rest)) {name : String} :
    p.value.HasName name ↔
      ∃ i, p.qualified = false ∧ p.global = false ∧ p.segments = [(i, false)] ∧ i.name = name := by
  obtain ⟨parts, hcode⟩ := gives_qualifiedPath r inExpr ts p rest h
  have hlone : (∃ i, p.qualified = false ∧ p.global = false ∧ p.segments = [(i, false)] ∧
      i.name = name) ↔ ∃ i, p.lone? = some i ∧ i.name = name := by
    simp only [PathCode.lone?_eq_some_iff, and_assoc]
  rw [hlone]
  unfold PathCode.value
  cases p.lone? with
  | none => simp [hcode, Code.HasName]
  | some i => simp [Code.HasName]

end Grammar

/-! ## Reads and writes -/

section Reads

variable {index : PropertyIndex} {m : Method} {p : String}

/-- A member writes nothing unless it is the call of a setter. -/
theorem written?_member_eq_none_iff {i : Ident} {called : Bool} :
    written? index (.member i called) = none ↔
      ¬ (called = true ∧ (index.write? i.name).isSome = true) := by
  cases called with
  | true => simp [written?]
  | false => simp [written?]

theorem readsMember_iff : m.ReadsMember index p ↔
    ∃ n called, m.HasMember n called ∧ ¬ (called = true ∧ (index.write? n).isSome = true) ∧
      index.read? n = some p := by
  simp only [Method.ReadsMember, written?_member_eq_none_iff, Method.hasMember_iff]
  constructor
  · rintro ⟨i, called, hoccurs, hsetter, hread⟩
    exact ⟨i.name, called, ⟨i, hoccurs, rfl⟩, hsetter, hread⟩
  · rintro ⟨_, called, ⟨i, hoccurs, rfl⟩, hsetter, hread⟩
    exact ⟨i, called, hoccurs, hsetter, hread⟩

theorem exists_readsName_iff : (∃ i, m.ReadsName index i p ∧ ¬ m.Hides i.name) ↔
    ∃ n, m.HasName n ∧ (Locals.ofMethod m).contains n = false ∧ index.read? n = some p := by
  simp only [Method.ReadsName, Method.hasName_iff, ← Method.contains_ofMethod,
    Bool.not_eq_true]
  constructor
  · rintro ⟨i, ⟨hoccurs, hread⟩, hlocal⟩
    exact ⟨i.name, ⟨i, hoccurs, rfl⟩, hlocal, hread⟩
  · rintro ⟨_, ⟨i, hoccurs, rfl⟩, hlocal, hread⟩
    exact ⟨i, ⟨hoccurs, hread⟩, hlocal⟩

end Reads

/-- The scan of an updater is exact. A property is written if and only if a called member of a name
that writes it stands somewhere in the body. A property is read if and only if a member of a name
that reads it, other than the call of a setter, or such a name by itself that is no local name
stands there. Nothing is listed twice. A path counts as a name by itself just if it is one
identifier, without a type in angle brackets, a leading `::` or arguments. -/
theorem scan_exact (fs : List ObservableField) (m : Method) :
    let index := PropertyIndex.ofFields fs
    let u := ofMethod index m
    u.reads.Nodup ∧ u.writes.Nodup ∧
    (∀ p, p ∈ u.writes ↔ ∃ n, m.HasMember n true ∧ index.write? n = some p) ∧
    (∀ p, p ∈ u.reads ↔
      (∃ n called, m.HasMember n called ∧ ¬ (called = true ∧ (index.write? n).isSome = true) ∧
        index.read? n = some p) ∨
      ∃ n, m.HasName n ∧ (Locals.ofMethod m).contains n = false ∧ index.read? n = some p) ∧
    ∀ (r : Grammar.Rules) (ts rest : List Token) (path : Grammar.PathCode),
      Grammar.qualifiedPath r true ts = .ok (path, rest) → ∀ n, path.value.HasName n ↔
        ∃ i, path.qualified = false ∧ path.global = false ∧ path.segments = [(i, false)] ∧
          i.name = n := by
  intro index u
  refine ⟨nodup_eraseDups _, nodup_eraseDups _, fun p => ?_, fun p => ?_,
    fun r ts rest path h n => Grammar.hasName_value_iff h⟩
  · rw [mem_writes_iff]
    simp only [Method.callsMember_iff, Method.hasMember_iff]
  · rw [mem_reads_iff, readsMember_iff, exists_readsName_iff]

/-- A path of one identifier reads the property of the name. -/
theorem scan_exact_count :
    let fs : List ObservableField :=
      [.sample "_count" "Count" "count", .sample "m_label" "Label" "label"]
    ∃ path rest, Grammar.qualifiedPath .exhausted true
        [.word (.plain "count"), .mark '+' .alone, .literal "1"] = .ok (path, rest) ∧
      path.value.HasName "count" ∧
      "Count" ∈ (ofMethod (.ofFields fs) (.sample (.seq [path.value]))).reads := by
  intro fs
  obtain ⟨path, rest, hpath, hqualified, hglobal, hsegments⟩ :
      ∃ path rest, Grammar.qualifiedPath .exhausted true
          [.word (.plain "count"), .mark '+' .alone, .literal "1"] = .ok (path, rest) ∧
        path.qualified = false ∧ path.global = false ∧
        path.segments = [(.plain "count", false)] := ⟨_, _, rfl, rfl, rfl, rfl⟩
  obtain ⟨-, -, -, hreads, hpaths⟩ := scan_exact fs (.sample (.seq [path.value]))
  have hname : path.value.HasName "count" :=
    (hpaths .exhausted _ rest path hpath "count").2
      ⟨.plain "count", hqualified, hglobal, hsegments, rfl⟩
  have hlocals : (Locals.ofMethod (.sample (.seq [path.value]))).contains "count" = false := by
    rw [Grammar.PathCode.value,
      Grammar.PathCode.lone?_eq_some_iff.2 ⟨hqualified, hglobal, hsegments⟩]
    rfl
  refine ⟨path, rest, hpath, hname, (hreads "Count").2 (.inr ⟨"count", ⟨path.value, ?_, hname⟩,
    hlocals, rfl⟩)⟩
  exact .single (List.mem_singleton_self _)

end ReactiveModel
