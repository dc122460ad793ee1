import Mathlib.Data.List.Basic
import ReactiveModel.Text.Identifier
import ReactiveModel.Text.SnakeCase

/-!
# Case within identifiers

A character that may stand in an identifier keeps to such characters in upper and in lower case, and
so does a whole name in snake case (`isIdentifierContinue_of_mem_snakeCase`). The tables of cases
are compared with the tables of identifiers range by range, not code point by code point.
-/

namespace ReactiveModel.Text

variable {ranges : List (Nat × Nat)} {c x : Char} {n : Nat}

/-! ## Ranges -/

/-- The code point lies in one of the ranges. -/
def Inside (ranges : List (Nat × Nat)) (n : Nat) : Prop := ∃ r ∈ ranges, r.1 ≤ n ∧ n ≤ r.2

/-- Whether one of the ranges has all code points between two. Bounds are compared by `Nat.ble`,
which the kernel computes at once. -/
def covers (ranges : List (Nat × Nat)) (lo hi : Nat) : Bool :=
  ranges.any fun r => Nat.ble r.1 lo && Nat.ble hi r.2

/-- Whether one of the ranges has a code point between two. -/
def meets (ranges : List (Nat × Nat)) (lo hi : Nat) : Bool :=
  ranges.any fun r => Nat.ble r.1 hi && Nat.ble lo r.2

theorem inside_of_covers {lo hi : Nat} (h : covers ranges lo hi = true) (hlo : lo ≤ n)
    (hhi : n ≤ hi) : Inside ranges n := by
  obtain ⟨r, hr, h⟩ := List.any_eq_true.1 h
  simp only [Bool.and_eq_true, Nat.ble_eq] at h
  exact ⟨r, hr, Nat.le_trans h.1 hlo, Nat.le_trans hhi h.2⟩

theorem meets_of_inside {lo hi : Nat} (h : Inside ranges n) (hlo : lo ≤ n) (hhi : n ≤ hi) :
    meets ranges lo hi = true := by
  obtain ⟨r, hr, h⟩ := h
  refine List.any_eq_true.2 ⟨r, hr, ?_⟩
  simp only [Bool.and_eq_true, Nat.ble_eq]
  exact ⟨Nat.le_trans h.1 hhi, Nat.le_trans hlo h.2⟩

theorem covers_self_iff : covers ranges n n = true ↔ Inside ranges n :=
  ⟨fun h => inside_of_covers h n.le_refl n.le_refl,
    fun h => meets_of_inside h n.le_refl n.le_refl⟩

theorem inside_append {others : List (Nat × Nat)} :
    Inside (ranges ++ others) n ↔ Inside ranges n ∨ Inside others n := by
  simp only [Inside, List.mem_append, or_and_right, exists_or]

/-- In ascending ranges the search does not stop before the range of the code point. -/
theorem inRanges_iff (h : ranges.IsChain fun a b => a.1 ≤ b.1) :
    inRanges ranges n = true ↔ Inside ranges n := by
  have : Trans (fun a b : Nat × Nat => a.1 ≤ b.1) (fun a b => a.1 ≤ b.1)
    (fun a b : Nat × Nat => a.1 ≤ b.1) := ⟨Nat.le_trans⟩
  replace h := h.pairwise
  induction ranges with
  | nil => simp [inRanges, Inside]
  | cons r ranges ih =>
    rw [inRanges]
    simp only [Inside, List.mem_cons, exists_eq_or_imp]
    rw [List.pairwise_cons] at h
    by_cases hn : n < r.1
    · -- the ranges that follow begin at this one or later
      have hrest : ¬ ∃ r' ∈ ranges, r'.1 ≤ n ∧ n ≤ r'.2 := by
        rintro ⟨r', hr', hlo, -⟩
        have := h.1 r' hr'
        omega
      rw [if_pos hn]
      constructor
      · intro h
        cases h
      · rintro (⟨hlo, -⟩ | h)
        · omega
        · exact absurd h hrest
    · simp only [hn, if_false, Bool.or_eq_true, decide_eq_true_eq, ih h.2, Inside]
      rw [and_iff_right (Nat.le_of_not_lt hn)]

/-! ## Characters of identifiers -/

/-- The ASCII code points of digits, letters and the underscore. -/
def asciiRanges : List (Nat × Nat) := [(48, 57), (65, 90), (95, 95), (97, 122)]

/-- The code points that an identifier goes on with. -/
def identifierRanges : List (Nat × Nat) :=
  asciiRanges ++ (identifierStartRanges ++ identifierContinueRanges)

theorem isChain_identifierStartRanges :
    identifierStartRanges.IsChain fun a b => a.1 ≤ b.1 := by
  decide +kernel

theorem isChain_identifierContinueRanges :
    identifierContinueRanges.IsChain fun a b => a.1 ≤ b.1 := by
  decide +kernel

/-- The tables begin after ASCII. -/
theorem inside_identifierRanges_of_lt (hn : n < 128) :
    Inside identifierRanges n ↔ Inside asciiRanges n := by
  rw [identifierRanges, inside_append, or_iff_left]
  intro h
  have hmeets : meets (identifierStartRanges ++ identifierContinueRanges) 0 127 = true :=
    meets_of_inside h n.zero_le (Nat.le_of_lt_succ hn)
  exact absurd hmeets (by decide +kernel)

theorem inside_identifierRanges_of_ge (hn : 128 ≤ n) :
    Inside identifierRanges n ↔
      Inside identifierStartRanges n ∨ Inside identifierContinueRanges n := by
  rw [identifierRanges, inside_append, inside_append, or_iff_right]
  rintro ⟨r, hr, -, hhi⟩
  have hascii : ∀ r ∈ asciiRanges, r.2 < 128 := by decide
  have := hascii r hr
  omega

/-- The characters that may stand in an identifier are those of the ranges. -/
theorem isIdentifierContinue_iff :
    isIdentifierContinue c = true ↔ Inside identifierRanges c.toNat := by
  by_cases hc : c.toNat < 128
  · have hascii : ∀ n : Fin 128, isIdentifierContinue (Char.ofNat n) = covers asciiRanges n n := by
      decide
    have h := hascii ⟨c.toNat, hc⟩
    rw [Char.ofNat_toNat] at h
    rw [inside_identifierRanges_of_lt hc, h]
    exact covers_self_iff
  · rw [inside_identifierRanges_of_ge (Nat.le_of_not_lt hc),
      ← inRanges_iff isChain_identifierStartRanges,
      ← inRanges_iff isChain_identifierContinueRanges, ← Bool.or_eq_true, isIdentifierContinue,
      if_neg hc]

/-- Code points of identifiers are those of characters: no range has a surrogate. -/
theorem toNat_ofNat_of_inside (h : Inside identifierRanges n) : (Char.ofNat n).toNat = n := by
  obtain ⟨r, hr, hlo, hhi⟩ := h
  have hall : identifierRanges.all (fun r =>
      Nat.ble r.2 0xd7ff || (Nat.ble 0xe000 r.1 && Nat.ble r.2 0x10ffff)) = true := by
    decide +kernel
  have hvalid := List.all_eq_true.1 hall r hr
  simp only [Bool.or_eq_true, Bool.and_eq_true, Nat.ble_eq] at hvalid
  have hchar : n.isValidChar := by
    unfold Nat.isValidChar
    omega
  rw [Char.ofNat, dif_pos hchar]
  rfl

/-! ## Tables of cases -/

/-- The code points of a run. -/
def Run.codes (r : Run) : List Nat :=
  (List.range ((r.last - r.first) / r.step + 1)).map fun k => r.first + k * r.step

/-- Whether a move takes code points of the ranges to code points of the ranges: the run ends up
within one of them, or has none of their code points, or each of its code points ends up in one. -/
def keeps (ranges : List (Nat × Nat)) (move : Run × Nat) : Bool :=
  let (r, target) := move
  covers ranges target (target + (r.last - r.first)) || !meets ranges r.first r.last ||
    r.codes.all fun n => covers ranges (target + (n - r.first)) (target + (n - r.first))

theorem Run.mem_codes {r : Run} (h : r.contains n = true) : n ∈ r.codes := by
  simp only [contains, Bool.and_eq_true, decide_eq_true_eq, beq_iff_eq] at h
  obtain ⟨⟨hfirst, hlast⟩, hstep⟩ := h
  refine List.mem_map.2 ⟨(n - r.first) / r.step, List.mem_range.2 ?_, ?_⟩
  · exact Nat.lt_succ_of_le (Nat.div_le_div_right (by omega))
  · rw [Nat.div_mul_cancel (Nat.dvd_of_mod_eq_zero hstep)]
    omega

theorem inside_of_keeps {r : Run} {target : Nat} (h : keeps ranges (r, target) = true)
    (hr : r.contains n = true) (hn : Inside ranges n) :
    Inside ranges (target + (n - r.first)) := by
  have hbounds := hr
  simp only [Run.contains, Bool.and_eq_true, decide_eq_true_eq] at hbounds
  obtain ⟨⟨hfirst, hlast⟩, -⟩ := hbounds
  simp only [keeps, Bool.or_eq_true, Bool.not_eq_true'] at h
  rcases h with (hcovers | hapart) | heach
  · exact inside_of_covers hcovers (by omega) (by omega)
  · rw [meets_of_inside hn hfirst hlast] at hapart
    cases hapart
  · exact covers_self_iff.1 (List.all_eq_true.1 heach n (Run.mem_codes hr))

theorem exists_of_moved_eq_some {moves : List (Run × Nat)} {m : Nat}
    (h : moved moves n = some m) :
    ∃ r target, (r, target) ∈ moves ∧ r.contains n = true ∧ m = target + (n - r.first) := by
  induction moves with
  | nil => cases h
  | cons move moves ih =>
    rw [moved] at h
    split_ifs at h with hfirst hr
    · exact ⟨move.1, move.2, List.mem_cons_self, hr, (Option.some.inj h).symm⟩
    · obtain ⟨r, target, hmove, hr, hm⟩ := ih h
      exact ⟨r, target, List.mem_cons_of_mem _ hmove, hr, hm⟩

/-- A character becomes the text of an expansion, or is moved to another code point, or stays. -/
theorem of_mem_caseImage {moves : List (Run × Nat)} {expansions : List (Nat × List Nat)}
    (h : x ∈ caseImage moves expansions c) :
    (∃ image, (c.toNat, image) ∈ expansions ∧ ∃ m ∈ image, x = Char.ofNat m) ∨
    (∃ r target, (r, target) ∈ moves ∧ r.contains c.toNat = true ∧
      x = Char.ofNat (target + (c.toNat - r.first))) ∨ x = c := by
  unfold caseImage at h
  cases hlookup : expansions.lookup c.toNat with
  | some image =>
    rw [hlookup] at h
    obtain ⟨m, hm, rfl⟩ := List.mem_map.1 h
    obtain ⟨before, after, rfl, -⟩ := List.lookup_eq_some_iff.1 hlookup
    exact .inl ⟨image, by simp, m, hm, rfl⟩
  | none =>
    rw [hlookup] at h
    have hx := List.mem_singleton.1 h
    cases hmoved : moved moves c.toNat with
    | none => exact .inr (.inr (by rw [hx, hmoved]; rfl))
    | some m =>
      obtain ⟨r, target, hmove, hr, rfl⟩ := exists_of_moved_eq_some hmoved
      exact .inr (.inl ⟨r, target, hmove, hr, by rw [hx, hmoved]; rfl⟩)

theorem isIdentifierContinue_ofNat (h : Inside identifierRanges n) :
    isIdentifierContinue (Char.ofNat n) = true := by
  rw [isIdentifierContinue_iff, toNat_ofNat_of_inside h]
  exact h

/-- Tables that keep to the ranges take characters of identifiers to characters of identifiers. -/
theorem isIdentifierContinue_of_mem_caseImage {moves : List (Run × Nat)}
    {expansions : List (Nat × List Nat)} (hmoves : moves.all (keeps identifierRanges) = true)
    (hexpansions : expansions.all (fun (_, image) =>
      image.all fun m => covers identifierRanges m m) = true)
    (hc : isIdentifierContinue c = true) (hx : x ∈ caseImage moves expansions c) :
    isIdentifierContinue x = true := by
  rcases of_mem_caseImage hx with ⟨image, himage, m, hm, rfl⟩ | ⟨r, target, hmove, hr, rfl⟩ | rfl
  · have himage' := List.all_eq_true.1 hexpansions _ himage
    exact isIdentifierContinue_ofNat (covers_self_iff.1 (List.all_eq_true.1 himage' m hm))
  · have hkeeps := List.all_eq_true.1 hmoves _ hmove
    exact isIdentifierContinue_ofNat
      (inside_of_keeps hkeeps hr (isIdentifierContinue_iff.1 hc))
  · exact hc

theorem of_forall_ascii {p : Char → Prop} (h : ∀ n : Fin 128, p (Char.ofNat n))
    (hc : c.toNat < 128) : p c := by
  have hn := h ⟨c.toNat, hc⟩
  rwa [Char.ofNat_toNat] at hn

theorem isIdentifierContinue_of_mem_toUpper (hc : isIdentifierContinue c = true)
    (hx : x ∈ toUpper c) : isIdentifierContinue x = true := by
  unfold toUpper at hx
  split_ifs at hx with hascii
  · rw [List.mem_singleton.1 hx]
    exact of_forall_ascii (p := fun c => isIdentifierContinue c = true →
      isIdentifierContinue c.toUpper = true) (by decide) hascii hc
  · exact isIdentifierContinue_of_mem_caseImage (by decide +kernel) (by decide +kernel) hc hx

theorem isIdentifierContinue_of_mem_toLower (hc : isIdentifierContinue c = true)
    (hx : x ∈ toLower c) : isIdentifierContinue x = true := by
  unfold toLower at hx
  split_ifs at hx with hascii
  · rw [List.mem_singleton.1 hx]
    exact of_forall_ascii (p := fun c => isIdentifierContinue c = true →
      isIdentifierContinue c.toLower = true) (by decide) hascii hc
  · exact isIdentifierContinue_of_mem_caseImage (by decide +kernel) (by decide +kernel) hc hx

theorem toNat_le_of_isUpper (hc : c.isUpper = true) : c.toNat ≤ 90 :=
  UInt32.le_iff_toNat_le.1 (of_decide_eq_true hc).2

theorem isUpper_ofNat (hn : 90 < n) : (Char.ofNat n).isUpper = false := by
  by_cases hchar : n.isValidChar
  · rw [Char.ofNat, dif_pos hchar]
    exact Bool.eq_false_iff.2 fun hc => Nat.not_le.2 hn (toNat_le_of_isUpper hc)
  · rw [Char.ofNat, dif_neg hchar]
    rfl

/-- No lower case has an ASCII capital in it. -/
theorem isUpper_of_mem_toLower (hx : x ∈ toLower c) : x.isUpper = false := by
  unfold toLower at hx
  split_ifs at hx with hascii
  · rw [List.mem_singleton.1 hx]
    exact of_forall_ascii (p := fun c => c.toLower.isUpper = false) (by decide) hascii
  · rcases of_mem_caseImage hx with ⟨image, himage, m, hm, rfl⟩ | ⟨r, target, hmove, -, rfl⟩ | rfl
    · have hexpansions : lowerExpansions.all (fun (_, image) => image.all (Nat.blt 90)) = true := by
        decide
      have hm := List.all_eq_true.1 (List.all_eq_true.1 hexpansions _ himage) m hm
      exact isUpper_ofNat (by simpa using hm)
    · have hmoves : lowerMoves.all (fun (_, target) => Nat.blt 90 target) = true := by
        decide +kernel
      have htarget := List.all_eq_true.1 hmoves _ hmove
      exact isUpper_ofNat (Nat.lt_add_right _ (by simpa using htarget))
    · rw [← Char.ofNat_toNat x]
      exact isUpper_ofNat (by omega)

/-! ## Snake case -/

theorem mem_of_mem_alphanumericRuns {name run : List Char}
    (hrun : run ∈ alphanumericRuns name) (hx : x ∈ run) : x ∈ name := by
  induction name generalizing run with
  | nil =>
    rw [List.mem_singleton.1 hrun] at hx
    cases hx
  | cons c name ih =>
    rw [alphanumericRuns] at hrun
    cases hruns : alphanumericRuns name with
    | nil =>
      rw [hruns] at hrun
      rw [List.mem_singleton.1 hrun] at hx
      cases hx
    | cons first runs =>
      rw [hruns] at hrun ih
      have hfirst : x ∈ first → x ∈ name := ih List.mem_cons_self
      have hmore : run ∈ runs → x ∈ c :: name := fun h =>
        List.mem_cons_of_mem _ (ih (List.mem_cons_of_mem _ h) hx)
      dsimp only at hrun
      split_ifs at hrun with hc
      · rcases List.mem_cons.1 hrun with rfl | h
        · rcases List.mem_cons.1 hx with rfl | hx
          · exact List.mem_cons_self
          · exact List.mem_cons_of_mem _ (hfirst hx)
        · exact hmore h
      · rcases List.mem_cons.1 hrun with rfl | h
        · cases hx
        · rcases List.mem_cons.1 h with rfl | h
          · exact List.mem_cons_of_mem _ (hfirst hx)
          · exact hmore h

theorem mem_of_mem_caseWords {case : WordCase} {word name w : List Char}
    (hw : w ∈ caseWords case word name) (hx : x ∈ w) : x ∈ word ∨ x ∈ name := by
  -- the first word that is found begins with what has been read of it before
  fun_induction caseWords case word name with
  | case1 => cases hw
  | case2 case word c =>
    rw [List.mem_singleton.1 hw] at hx
    exact List.mem_append.1 hx
  | case3 case word c d rest hcase ih =>
    rcases List.mem_cons.1 hw with rfl | hw
    · simp only [List.mem_append, List.mem_singleton] at hx
      exact hx.imp_right fun h => List.mem_cons.2 (.inl h)
    · have hrest := (ih hw).resolve_left (List.not_mem_nil)
      exact .inr (List.mem_cons_of_mem _ hrest)
  | case4 case word c d rest hcase hcapital ih =>
    rcases List.mem_cons.1 hw with rfl | hw
    · exact .inl hx
    · rcases ih hw with h | h
      · exact .inr (List.mem_cons.2 (.inl (List.mem_singleton.1 h)))
      · exact .inr (List.mem_cons_of_mem _ h)
  | case5 case word c d rest hcase hcapital ih =>
    rcases ih hw with h | h
    · simp only [List.mem_append, List.mem_singleton] at h
      exact h.imp_right fun h => List.mem_cons.2 (.inl h)
    · exact .inr (List.mem_cons_of_mem _ h)

theorem mem_of_mem_words {name w : List Char} (hw : w ∈ words name) (hx : x ∈ w) : x ∈ name := by
  obtain ⟨run, hrun, hw⟩ := List.mem_flatMap.1 hw
  rcases mem_of_mem_caseWords hw hx with h | h
  · cases h
  · exact mem_of_mem_alphanumericRuns hrun h

theorem of_mem_lowerWord {w : List Char} (hx : x ∈ lowerWord w) :
    x = 'ς' ∨ ∃ c ∈ w, x ∈ toLower c := by
  fun_induction lowerWord w with
  | case1 => cases hx
  | case2 => exact .inl (List.mem_singleton.1 hx)
  | case3 c hc => exact .inr ⟨c, List.mem_cons_self, hx⟩
  | case4 c rest hrest ih =>
    rcases List.mem_append.1 hx with hx | hx
    · exact .inr ⟨c, List.mem_cons_self, hx⟩
    · rcases ih hx with h | ⟨d, hd, h⟩
      · exact .inl h
      · exact .inr ⟨d, List.mem_cons_of_mem _ hd, h⟩

theorem mem_of_mem_intercalate {sep : List Char} {parts : List (List Char)}
    (hx : x ∈ List.intercalate sep parts) : x ∈ sep ∨ ∃ part ∈ parts, x ∈ part := by
  induction parts with
  | nil => cases hx
  | cons part parts ih =>
    cases parts with
    | nil =>
      rw [List.intercalate_singleton] at hx
      exact .inr ⟨part, List.mem_cons_self, hx⟩
    | cons next parts =>
      rw [List.intercalate_cons_of_ne_nil (List.cons_ne_nil _ _), List.mem_append,
        List.mem_append] at hx
      rcases hx with (hx | hx) | hx
      · exact .inr ⟨part, List.mem_cons_self, hx⟩
      · exact .inl hx
      · rcases ih hx with h | ⟨p, hp, h⟩
        · exact .inl h
        · exact .inr ⟨p, List.mem_cons_of_mem _ hp, h⟩

/-- A name in snake case is made of underscores and of the lower case of its characters. -/
theorem of_mem_snakeCase {name : String} (hx : x ∈ (snakeCase name).toList) :
    x = '_' ∨ x = 'ς' ∨ ∃ c ∈ name.toList, x ∈ toLower c := by
  rw [snakeCase, String.toList_ofList] at hx
  rcases mem_of_mem_intercalate hx with h | ⟨w, hw, h⟩
  · exact .inl (List.mem_singleton.1 h)
  · obtain ⟨word, hword, rfl⟩ := List.mem_map.1 hw
    rcases of_mem_lowerWord h with rfl | ⟨c, hc, h⟩
    · exact .inr (.inl rfl)
    · exact .inr (.inr ⟨c, mem_of_mem_words hword hc, h⟩)

/-- A name of characters of identifiers is one in snake case too. -/
theorem isIdentifierContinue_of_mem_snakeCase {name : String}
    (hname : ∀ c ∈ name.toList, isIdentifierContinue c = true)
    (hx : x ∈ (snakeCase name).toList) : isIdentifierContinue x = true := by
  rcases of_mem_snakeCase hx with rfl | rfl | ⟨c, hc, hx⟩
  · decide
  · decide +kernel
  · exact isIdentifierContinue_of_mem_toLower (hname c hc) hx

theorem isUpper_of_mem_snakeCase {name : String} (hx : x ∈ (snakeCase name).toList) :
    x.isUpper = false := by
  rcases of_mem_snakeCase hx with rfl | rfl | ⟨c, -, hx⟩
  · decide
  · decide
  · exact isUpper_of_mem_toLower hx

end ReactiveModel.Text
