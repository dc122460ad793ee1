import ReactiveModel.Marker
import ReactiveModel.Proofs.Property.Resolution

/-!
# The spelling of markers

An attribute is a well-formed marker if and only if its path is nothing but the name of the marker
and its arguments are spelled as markers of that name ask (`spelled_iff`). A model has a
single option, so its arguments are this word any number of times, with commas between and perhaps
one at the end; cycles are allowed if the word is there at all.
-/

namespace ReactiveModel

/-! ## Names -/

/-- The path that is the name of a marker alone. -/
def MarkerKind.path (kind : MarkerKind) : AttributePath := ⟨false, [.plain kind.name]⟩

theorem AttributePath.isLone_iff {p : AttributePath} {word : String} :
    p.isLone word = true ↔ p = ⟨false, [.plain word]⟩ := by
  obtain ⟨_ | _, segments⟩ := p
  · rcases segments with _ | ⟨i, _ | ⟨j, segments⟩⟩ <;> simp [isLone, lone?]
  · simp [isLone, lone?]

/-- An attribute is a marker of a kind if and only if it has the name of the kind and no more. -/
theorem MarkerKind.of?_eq_some_iff {a : AttributeHead} {kind : MarkerKind} :
    MarkerKind.of? a = some kind ↔ a.path = kind.path := by
  constructor
  · intro h
    have hlone := (List.find?_eq_some_iff_append.1 h).1
    exact AttributePath.isLone_iff.1 hlone
  · intro h
    rw [of?, h]
    cases kind <;> decide

/-! ## Options -/

/-- A token as if no other were joint with it. -/
def Token.apart : Token → Token
  | .mark c _ => .mark c .alone
  | t => t

theorem Token.apart_eq_word_iff {t : Token} {i : Ident} : t.apart = .word i ↔ t = .word i := by
  cases t <;> simp [apart]

theorem Token.apart_eq_mark_iff {t : Token} {c : Char} :
    t.apart = .mark c .alone ↔ ∃ spacing, t = .mark c spacing := by
  cases t <;> simp [apart, eq_comm]

namespace Marker

/-- The only option of a model. -/
def allowCyclesOption : Token := .word (.plain "allow_cycles")

/-- The tokens are the option `n` times, with single commas between and perhaps one at the end. -/
def IsOptionList (n : Nat) (ts : List Token) : Prop :=
  let separated := (List.replicate n allowCyclesOption).intersperse (.mark ',' .alone)
  ts.map Token.apart = separated ∨ 0 < n ∧ ts.map Token.apart = separated ++ [.mark ',' .alone]

variable {n : Nat} {ts : List Token}

theorem map_apart_eq_singleton_iff :
    ts.map Token.apart = [allowCyclesOption] ↔ ts = [allowCyclesOption] := by
  constructor
  · intro h
    obtain ⟨t, rfl, ht⟩ := List.map_eq_singleton_iff.1 h
    rw [Token.apart_eq_word_iff.1 ht]
    rfl
  · rintro rfl
    rfl

theorem map_apart_eq_cons_iff {tail : List Token} :
    ts.map Token.apart = allowCyclesOption :: .mark ',' .alone :: tail ↔
      ∃ spacing rest, ts = allowCyclesOption :: .mark ',' spacing :: rest ∧
        rest.map Token.apart = tail := by
  constructor
  · intro h
    obtain ⟨t, after, rfl, ht, hafter⟩ := List.map_eq_cons_iff.1 h
    obtain ⟨comma, rest, rfl, hcomma, hrest⟩ := List.map_eq_cons_iff.1 hafter
    obtain ⟨spacing, rfl⟩ := Token.apart_eq_mark_iff.1 hcomma
    exact ⟨spacing, rest, by rw [Token.apart_eq_word_iff.1 ht]; rfl, hrest⟩
  · rintro ⟨spacing, rest, rfl, rfl⟩
    rfl

theorem isOptionList_zero_iff : IsOptionList 0 ts ↔ ts = [] := by
  simp [IsOptionList]

theorem isOptionList_succ_iff :
    IsOptionList (n + 1) ts ↔ n = 0 ∧ ts = [allowCyclesOption] ∨
      ∃ spacing rest, ts = allowCyclesOption :: .mark ',' spacing :: rest ∧
        IsOptionList n rest := by
  cases n with
  | zero =>
    have hone : IsOptionList 1 ts ↔ ts.map Token.apart = [allowCyclesOption] ∨
        ts.map Token.apart = allowCyclesOption :: .mark ',' .alone :: [] := by
      simp [IsOptionList]
    rw [hone, map_apart_eq_singleton_iff, map_apart_eq_cons_iff]
    simp [isOptionList_zero_iff]
  | succ n =>
    rw [IsOptionList, List.replicate_succ, List.replicate_succ, List.intersperse_cons_cons,
      ← List.replicate_succ]
    simp only [List.cons_append, map_apart_eq_cons_iff, Nat.succ_ne_zero, false_and, false_or,
      Nat.succ_pos, true_and, ← exists_or, ← and_or_left, IsOptionList]

/-- A path goes on only after two colons. -/
theorem goesOn_of_not_colon {t : Token} {rest : List Token} (h : t ≠ .mark ':' .joint) :
    goesOn (t :: rest) = .ok false := by
  unfold goesOn
  split
  · next heq => exact absurd (List.cons.inj heq).1 h
  · next heq => exact absurd (List.cons.inj heq).1 h
  · rfl

/-- The options are read to their end if there are none, or one, or one with a comma after it and
options after that. -/
theorem options_eq_ok_step :
    options ts = .ok () ↔ ts = [] ∨ ts = [allowCyclesOption] ∨
      ∃ spacing rest, ts = allowCyclesOption :: .mark ',' spacing :: rest ∧
        options rest = .ok () := by
  constructor
  · intro h
    unfold options at h
    split at h
    · exact .inl rfl
    · next i rest =>
      obtain ⟨more, -, hrest⟩ := bind_eq_ok_iff.1 h
      clear h
      by_cases hunknown : (more || decide (i ≠ .plain "allow_cycles")) = true
      · rw [if_pos hunknown] at hrest
        obtain ⟨_, hthrow, -⟩ := bind_eq_ok_iff.1 hrest
        cases hthrow
      · rw [if_neg hunknown] at hrest
        obtain ⟨-, rfl⟩ : more = false ∧ i = .plain "allow_cycles" := by simpa using hunknown
        dsimp only at hrest
        split at hrest
        · exact .inr (.inl rfl)
        · exact .inr (.inr ⟨_, _, rfl, hrest⟩)
        · cases hrest
    · split at h
      · obtain ⟨-, -, h⟩ := bind_eq_ok_iff.1 h
        cases h
      · cases h
    · cases h
  · rintro (rfl | rfl | ⟨spacing, rest, rfl, h⟩)
    · rfl
    · rfl
    · have hgoesOn : goesOn (.mark ',' spacing :: rest) = .ok false := goesOn_of_not_colon (by simp)
      rw [allowCyclesOption, options, hgoesOn]
      exact h

theorem options_eq_ok_iff : options ts = .ok () ↔ ∃ n, IsOptionList n ts := by
  constructor
  · intro h
    -- each option but the last leaves a shorter list of options
    induction hlength : ts.length using Nat.strongRecOn generalizing ts with
    | ind k ih =>
      rcases options_eq_ok_step.1 h with rfl | rfl | ⟨spacing, rest, rfl, hrest⟩
      · exact ⟨0, isOptionList_zero_iff.2 rfl⟩
      · exact ⟨1, isOptionList_succ_iff.2 (.inl ⟨rfl, rfl⟩)⟩
      · have hshorter : rest.length < k := by
          rw [← hlength, List.length_cons, List.length_cons]
          omega
        obtain ⟨n, hn⟩ := ih rest.length hshorter hrest rfl
        exact ⟨n + 1, isOptionList_succ_iff.2 (.inr ⟨spacing, rest, rfl, hn⟩)⟩
  · rintro ⟨n, hn⟩
    induction n generalizing ts with
    | zero => exact options_eq_ok_step.2 (.inl (isOptionList_zero_iff.1 hn))
    | succ n ih =>
      rcases isOptionList_succ_iff.1 hn with ⟨-, rfl⟩ | ⟨spacing, rest, rfl, hrest⟩
      · exact options_eq_ok_step.2 (.inr (.inl rfl))
      · exact options_eq_ok_step.2 (.inr (.inr ⟨spacing, rest, rfl, ih hrest⟩))

/-- There is an option if and only if there are tokens. -/
theorem IsOptionList.pos_iff (h : IsOptionList n ts) : 0 < n ↔ ts ≠ [] := by
  cases n with
  | zero => simp [isOptionList_zero_iff.1 h]
  | succ n =>
    rcases isOptionList_succ_iff.1 h with ⟨-, rfl⟩ | ⟨spacing, rest, rfl, -⟩ <;> simp

/-! ## All markers -/

/-- The arguments of an attribute spell what the marker says. -/
def IsSpelled (arguments : AttributeArguments) : Marker → Prop
  | .reactiveModel allowCycles => arguments = .none ∧ allowCycles = false ∨
    ∃ delimiter ts n, arguments = .list delimiter ts ∧ IsOptionList n ts ∧
      (allowCycles = true ↔ 0 < n)
  | .observable => arguments = .none
  | .dependentUpdater => arguments = .none
  | .clickHandler element => ∃ delimiter text, arguments = .list delimiter [.literal text] ∧
    Text.quotedValue? text = some element ∧ element ≠ ""

variable {a : AttributeHead} {m : Marker}

theorem alone_eq_ok_iff {m' : Marker} : alone a m' = .ok m ↔ m' = m ∧ a.arguments = .none := by
  unfold alone
  cases a.arguments with
  | none => simp [pure, Except.pure]
  | _ => simp [throw, throwThe, MonadExceptOf.throw]

theorem ofKind_reactiveModel_eq_ok_iff :
    ofKind .reactiveModel a = .ok m ↔ m.kind = .reactiveModel ∧ m.IsSpelled a.arguments := by
  cases harguments : a.arguments with
  | list delimiter ts =>
    simp only [ofKind, harguments]
    rw [bind_eq_ok_iff]
    constructor
    · rintro ⟨⟨⟩, hts, hm⟩
      obtain ⟨n, hn⟩ := options_eq_ok_iff.1 hts
      cases hm
      exact ⟨rfl, .inr ⟨delimiter, ts, n, rfl, hn, by simp [hn.pos_iff]⟩⟩
    · rintro ⟨hkind, hm⟩
      cases m with
      | reactiveModel allowCycles =>
        rcases hm with ⟨hnone, -⟩ | ⟨delimiter', ts', n, hlist, hn, hallow⟩
        · cases hnone
        · cases hlist
          have hflag : allowCycles = !ts.isEmpty := by
            rw [hn.pos_iff] at hallow
            cases ts <;> simpa using hallow
          rw [hflag]
          exact ⟨(), options_eq_ok_iff.2 ⟨n, hn⟩, rfl⟩
      | _ => cases hkind
  | _ =>
    simp only [ofKind, harguments]
    rw [alone_eq_ok_iff, harguments]
    cases m <;> simp [kind, IsSpelled, eq_comm]

theorem ofKind_clickHandler_eq_ok_iff :
    ofKind .clickHandler a = .ok m ↔ m.kind = .clickHandler ∧ m.IsSpelled a.arguments := by
  constructor
  · intro h
    simp only [ofKind] at h
    split at h
    · next delimiter text harguments =>
      split at h
      · next element hvalue =>
        split at h
        · cases h
        · next hempty =>
          cases h
          exact ⟨rfl, delimiter, text, harguments, hvalue, by simpa using hempty⟩
      · cases h
    · cases h
  · rintro ⟨hkind, hm⟩
    cases m with
    | clickHandler element =>
      obtain ⟨delimiter, text, harguments, hvalue, hempty⟩ := hm
      have hnonempty : element.isEmpty = false := by simpa using hempty
      simp only [ofKind, harguments, hvalue, hnonempty]
      rfl
    | _ => cases hkind

theorem ofKind_eq_ok_iff {kind : MarkerKind} :
    ofKind kind a = .ok m ↔ m.kind = kind ∧ m.IsSpelled a.arguments := by
  cases kind with
  | reactiveModel => exact ofKind_reactiveModel_eq_ok_iff
  | clickHandler => exact ofKind_clickHandler_eq_ok_iff
  | _ =>
    rw [ofKind, alone_eq_ok_iff]
    cases m <;> simp [kind, IsSpelled]

/-- The marker of a model is read as nothing else. -/
theorem exists_of_ofKind_reactiveModel (h : ofKind .reactiveModel a = .ok m) :
    ∃ allowCycles, m = .reactiveModel allowCycles := by
  have hkind := (ofKind_eq_ok_iff.1 h).1
  cases m with
  | reactiveModel allowCycles => exact ⟨allowCycles, rfl⟩
  | _ => cases hkind

/-- An attribute is read as a marker if and only if its path is the name of the marker alone and its
arguments are spelled as the marker says; it is no marker at all, not even a malformed one, if and
only if it has the name of none. -/
theorem spelled_iff (a : AttributeHead) :
    (∀ m, of? a = some (.ok m) ↔ a.path = m.kind.path ∧ m.IsSpelled a.arguments) ∧
      (of? a = none ↔ ∀ kind : MarkerKind, a.path ≠ kind.path) := by
  constructor
  · intro m
    rw [of?, Option.map_eq_some_iff]
    constructor
    · rintro ⟨kind, hkind, hm⟩
      obtain ⟨rfl, hspelled⟩ := ofKind_eq_ok_iff.1 hm
      exact ⟨MarkerKind.of?_eq_some_iff.1 hkind, hspelled⟩
    · rintro ⟨hpath, hspelled⟩
      exact ⟨m.kind, MarkerKind.of?_eq_some_iff.2 hpath, ofKind_eq_ok_iff.2 ⟨rfl, hspelled⟩⟩
  · rw [of?, Option.map_eq_none_iff, Option.eq_none_iff_forall_ne_some]
    exact forall_congr' fun kind => not_congr MarkerKind.of?_eq_some_iff

/-- A comma may stand at the end, but not twice. -/
example :
    let marker (commas : List Token) : AttributeHead :=
      ⟨false, MarkerKind.path .reactiveModel, .list .parenthesis (allowCyclesOption :: commas)⟩
    of? (marker [.mark ',' .alone]) = some (.ok (.reactiveModel true)) ∧
      of? (marker [.mark ',' .alone, .mark ',' .alone]) = some (.error .notAnOption) :=
  ⟨rfl, rfl⟩

/-! ## The first marker -/

/-- The first marker of a kind among attributes, well-formed or not. -/
def first? (kind : MarkerKind) (as : List Attribute) : Option Attribute :=
  as.find? fun a => MarkerKind.of? a.head = some kind

variable {kind : MarkerKind} {as : List Attribute} {first : Attribute}

theorem first?_eq_none_iff :
    first? kind as = none ↔ ∀ a ∈ as, MarkerKind.of? a.head ≠ some kind := by
  simp [first?]

theorem of?_of_first? (h : first? kind as = some first) :
    of? first.head = some (ofKind kind first.head) := by
  have hkind : MarkerKind.of? first.head = some kind :=
    of_decide_eq_true (List.find?_eq_some_iff_append.1 h).1
  rw [of?, hkind, Option.map_some]

/-- A marker is found by its attribute. -/
theorem map_snd_find? (kind : MarkerKind) (as : List Attribute) :
    (find? kind as).map (·.2) = (first? kind as).map fun a => ofKind kind a.head := by
  rw [find?, first?, List.find?_eq_bind_findIdx?_getElem?]
  cases as.findIdx? fun a => decide (MarkerKind.of? a.head = some kind) with
  | none => rfl
  | some position =>
    rw [Option.bind_some, Option.bind_some, Option.map_map]
    rfl

end Marker

end ReactiveModel
