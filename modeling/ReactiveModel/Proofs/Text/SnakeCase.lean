import ReactiveModel.Proofs.Text.IdentifierCase

/-!
# Names that are in snake case already

A name of lower-case letters and digits, in groups with underscores between them, is cut into just
these groups, and with a capital in front it is cut in the same places. So such a name is the snake
case of the name with a capital (`snakeCase_modifyHead`).
-/

namespace ReactiveModel.Text

variable {c first : Char} {run tail rest : List Char} {groups : List (List Char)} {name : String}

/-! ## Letters and digits -/

/-- An ASCII lower-case letter or digit. -/
def isSnakeChar (c : Char) : Bool := c.isLower || c.isDigit

/-- The name is an ASCII lower-case letter, followed by such letters and digits and by groups of
them, each after an underscore. -/
def IsSnakeName (name : String) : Prop :=
  ∃ (first : Char) (rest : List Char) (groups : List (List Char)),
    first.isLower = true ∧ (∀ c ∈ rest, isSnakeChar c = true) ∧
    (∀ group ∈ groups, group ≠ [] ∧ ∀ c ∈ group, isSnakeChar c = true) ∧
    name.toList = first :: rest ++ groups.flatMap ('_' :: ·)

theorem isSnakeChar_of_isLower (h : c.isLower = true) : isSnakeChar c = true := by
  rw [isSnakeChar, h, Bool.true_or]

theorem toNat_lt_of_isSnakeChar (h : isSnakeChar c = true) : c.toNat < 128 := by
  change c.val.toNat < 128
  rcases Bool.or_eq_true_iff.1 h with h | h
  · have hlast : c.val ≤ 'z'.val := of_decide_eq_true (Bool.and_eq_true_iff.1 h).2
    exact Nat.lt_of_le_of_lt (UInt32.le_iff_toNat_le.1 hlast) (by decide)
  · have hlast : c.val ≤ '9'.val := of_decide_eq_true (Bool.and_eq_true_iff.1 h).2
    exact Nat.lt_of_le_of_lt (UInt32.le_iff_toNat_le.1 hlast) (by decide)

/-- What holds of all ASCII lower-case letters and digits, one by one. -/
theorem of_isSnakeChar {p : Char → Prop}
    (h : ∀ n : Fin 128, isSnakeChar (Char.ofNat n) = true → p (Char.ofNat n))
    (hc : isSnakeChar c = true) : p c :=
  of_forall_ascii (p := fun c => isSnakeChar c = true → p c) h (toNat_lt_of_isSnakeChar hc) hc

theorem isAlphanumeric_of_isSnakeChar (h : isSnakeChar c = true) : isAlphanumeric c = true :=
  of_isSnakeChar (p := fun c => isAlphanumeric c = true) (by decide) h

theorem isUpper_of_isSnakeChar (h : isSnakeChar c = true) : isUpper c = false :=
  of_isSnakeChar (p := fun c => isUpper c = false) (by decide) h

theorem toLower_of_isSnakeChar (h : isSnakeChar c = true) : toLower c = [c] :=
  of_isSnakeChar (p := fun c => toLower c = [c]) (by decide) h

/-- The capital of a lower-case letter is a letter, and gives it back in lower case. -/
theorem toUpper_of_isLower (h : c.isLower = true) :
    toUpper c = [c.toUpper] ∧ isAlphanumeric c.toUpper = true ∧ toLower c.toUpper = [c] :=
  of_isSnakeChar (p := fun c => c.isLower = true →
    toUpper c = [c.toUpper] ∧ isAlphanumeric c.toUpper = true ∧ toLower c.toUpper = [c])
    (by decide) (isSnakeChar_of_isLower h) h

/-! ## Words -/

/-- Letters and digits belong to the first run of what follows them. -/
theorem alphanumericRuns_append {runs : List (List Char)}
    (hrun : ∀ c ∈ run, isAlphanumeric c = true) (h : alphanumericRuns tail = rest :: runs) :
    alphanumericRuns (run ++ tail) = (run ++ rest) :: runs := by
  induction run with
  | nil => exact h
  | cons c run ih =>
    obtain ⟨hc, hrun⟩ := List.forall_mem_cons.1 hrun
    rw [List.cons_append, alphanumericRuns, ih hrun]
    exact if_pos hc

/-- Groups after underscores are runs of their own, after an empty one. -/
theorem alphanumericRuns_flatMap (h : ∀ group ∈ groups, ∀ c ∈ group, isAlphanumeric c = true) :
    alphanumericRuns (groups.flatMap ('_' :: ·)) = [] :: groups := by
  induction groups with
  | nil => rfl
  | cons group groups ih =>
    obtain ⟨hgroup, hgroups⟩ := List.forall_mem_cons.1 h
    rw [List.flatMap_cons, List.cons_append, alphanumericRuns,
      alphanumericRuns_append hgroup (ih hgroups), List.append_nil]
    rfl

/-- A run without capitals but for its first character is one word. -/
theorem caseWords_eq_singleton {case : WordCase} {word : List Char}
    (hfirst : case = .upper → isUpper first = false) (hrest : ∀ c ∈ rest, isUpper c = false) :
    caseWords case word (first :: rest) = [word ++ first :: rest] := by
  induction rest generalizing case word first with
  | nil => rfl
  | cons d rest ih =>
    obtain ⟨hd, hrest⟩ := List.forall_mem_cons.1 hrest
    have hbreak : ¬ (case = .upper ∧ isUpper first = true ∧ isLower d = true) := by
      rintro ⟨hcase, hupper, -⟩
      rw [hfirst hcase] at hupper
      cases hupper
    rw [caseWords, hd, if_neg (by simp), if_neg (by simpa using hbreak), ih (fun _ => hd) hrest,
      List.append_assoc, List.singleton_append]

/-- A name is cut at its underscores if it has no capitals but for its first character. -/
theorem words_append_flatMap (hfirst : isAlphanumeric first = true)
    (hrest : ∀ c ∈ rest, isSnakeChar c = true)
    (hgroups : ∀ group ∈ groups, group ≠ [] ∧ ∀ c ∈ group, isSnakeChar c = true) :
    words (first :: rest ++ groups.flatMap ('_' :: ·)) = (first :: rest) :: groups := by
  have hruns : alphanumericRuns (first :: rest ++ groups.flatMap ('_' :: ·)) =
      (first :: rest ++ []) :: groups := by
    refine alphanumericRuns_append (List.forall_mem_cons.2 ⟨hfirst, fun c hc => ?_⟩)
      (alphanumericRuns_flatMap fun group hgroup c hc => ?_)
    · exact isAlphanumeric_of_isSnakeChar (hrest c hc)
    · exact isAlphanumeric_of_isSnakeChar ((hgroups group hgroup).2 c hc)
  have hword : ∀ group ∈ groups, caseWords .none [] group = [group] := by
    intro group hgroup
    obtain ⟨hne, hchars⟩ := hgroups group hgroup
    obtain ⟨d, more, rfl⟩ := List.exists_cons_of_ne_nil hne
    exact caseWords_eq_singleton (by simp) fun c hc =>
      isUpper_of_isSnakeChar (hchars c (List.mem_cons_of_mem _ hc))
  have hhead : caseWords .none [] (first :: rest) = [first :: rest] :=
    caseWords_eq_singleton (by simp) fun c hc => isUpper_of_isSnakeChar (hrest c hc)
  rw [words, hruns, List.append_nil, List.flatMap_cons, hhead, List.flatMap_congr hword]
  simp

/-! ## Lower case -/

theorem lowerWord_cons (h : ∀ c ∈ rest, isSnakeChar c = true) (hfirst : toLower c = [first])
    (hsigma : c ≠ 'Σ') : lowerWord (c :: rest) = first :: rest := by
  induction rest generalizing c first with
  | nil => rw [lowerWord, if_neg hsigma, hfirst]
  | cons d rest ih =>
    obtain ⟨hd, hrest⟩ := List.forall_mem_cons.1 h
    have hne : d ≠ 'Σ' := of_isSnakeChar (p := (· ≠ 'Σ')) (by decide) hd
    rw [lowerWord, hfirst, ih hrest (toLower_of_isSnakeChar hd) hne]
    · rfl
    · exact List.cons_ne_nil _ _

theorem lowerWord_eq_self (h : ∀ c ∈ run, isSnakeChar c = true) : lowerWord run = run := by
  cases run with
  | nil => rfl
  | cons c rest =>
    obtain ⟨hc, hrest⟩ := List.forall_mem_cons.1 h
    exact lowerWord_cons hrest (toLower_of_isSnakeChar hc)
      (of_isSnakeChar (p := (· ≠ 'Σ')) (by decide) hc)

theorem intercalate_cons_eq_append_flatMap (separator : Char) (run : List Char)
    (groups : List (List Char)) :
    List.intercalate [separator] (run :: groups) = run ++ groups.flatMap (separator :: ·) := by
  induction groups generalizing run with
  | nil => simp
  | cons group groups ih => simp [List.intercalate_cons_cons, ih]

/-- A name in snake case is the snake case of itself with a capital. -/
theorem snakeCase_modifyHead (h : IsSnakeName name) :
    snakeCase (String.ofList (name.toList.modifyHead Char.toUpper)) = name := by
  obtain ⟨first, rest, groups, hfirst, hrest, hgroups, hname⟩ := h
  obtain ⟨-, hcapital, hlower⟩ := toUpper_of_isLower hfirst
  have hsigma : first.toUpper ≠ 'Σ' :=
    of_isSnakeChar (p := fun c => c.toUpper ≠ 'Σ') (by decide) (isSnakeChar_of_isLower hfirst)
  have hlowered : groups.map lowerWord = groups := by
    rw [List.map_congr_left fun group hgroup => lowerWord_eq_self (hgroups group hgroup).2,
      List.map_id']
  rw [← String.toList_inj, snakeCase, String.toList_ofList, String.toList_ofList, hname,
    List.cons_append, List.modifyHead_cons, ← List.cons_append,
    words_append_flatMap hcapital hrest hgroups, List.map_cons, lowerWord_cons hrest hlower hsigma,
    hlowered, intercalate_cons_eq_append_flatMap, List.cons_append]

end ReactiveModel.Text
