import Mathlib.Data.List.Basic
import ReactiveModel.Config
import ReactiveModel.Property.Naming

/-!
# The prefix of a name

The prefixes are tried by their sizes in bytes. Those that a name begins with are nested, so among
them a larger size is a greater length, and the first that leaves something of the name is the
longest that does. What remains of the name is thereby told by the set of prefixes alone
(`property_strips_longest`).
-/

namespace ReactiveModel

/-! ## The order in which prefixes are tried -/

namespace Config

variable {a b : String} {c : Config}

theorem triedBefore_iff : triedBefore a b = true ↔
    b.utf8ByteSize < a.utf8ByteSize ∨ a.utf8ByteSize = b.utf8ByteSize ∧ a ≤ b := by
  simp [triedBefore]

theorem triedBefore_trans (a b d : String) (hab : triedBefore a b = true)
    (hbd : triedBefore b d = true) : triedBefore a d = true := by
  rw [triedBefore_iff] at hab hbd ⊢
  rcases hab with hab | ⟨hab, hle⟩ <;> rcases hbd with hbd | ⟨hbd, hle'⟩
  · exact .inl (Nat.lt_trans hbd hab)
  · exact .inl (hbd ▸ hab)
  · exact .inl (hab ▸ hbd)
  · exact .inr ⟨Eq.trans hab hbd, String.le_trans hle hle'⟩

theorem triedBefore_total (a b : String) : (triedBefore a b || triedBefore b a) = true := by
  rw [Bool.or_eq_true, triedBefore_iff, triedBefore_iff]
  rcases Nat.lt_trichotomy a.utf8ByteSize b.utf8ByteSize with h | h | h
  · exact .inr (.inl h)
  · exact (String.le_total a b).imp (fun hle => .inr ⟨h, hle⟩) fun hle => .inr ⟨h.symm, hle⟩
  · exact .inl (.inl h)

theorem mem_prefixesLongestFirst : a ∈ c.prefixesLongestFirst ↔ a ∈ c.fieldPrefixes :=
  List.mem_mergeSort

/-- No prefix is tried before one that is larger. -/
theorem pairwise_prefixesLongestFirst :
    c.prefixesLongestFirst.Pairwise fun a b => b.utf8ByteSize ≤ a.utf8ByteSize := by
  have hsorted : c.prefixesLongestFirst.Pairwise fun a b => triedBefore a b = true :=
    List.pairwise_mergeSort triedBefore_trans triedBefore_total _
  refine hsorted.imp fun h => ?_
  rcases triedBefore_iff.1 h with h | ⟨h, -⟩
  · exact Nat.le_of_lt h
  · exact Nat.le_of_eq h.symm

end Config

namespace Naming

/-! ## What a prefix leaves -/

/-- The name begins with the prefix, and something is left after it. -/
def Leaves (start name rest : String) : Prop := start ++ rest = name ∧ rest ≠ ""

/-- What remains of a name: what follows the longest of the prefixes that leave something, or the
whole name if none does. -/
inductive IsStem (prefixes : List String) (name : String) : String → Prop
  | stripped {start rest : String} (hmem : start ∈ prefixes) (hleaves : Leaves start name rest)
      (hlongest : ∀ other ∈ prefixes, ∀ left, Leaves other name left →
        other.length ≤ start.length) :
    IsStem prefixes name rest
  | whole (hnone : ∀ start ∈ prefixes, ∀ rest, ¬ Leaves start name rest) :
    IsStem prefixes name name

/-- What remains of a name if the first prefix that leaves something is stripped. -/
def stem (prefixes : List String) (name : List Char) : List Char :=
  (prefixes.findSome? fun start => afterPrefix? start.toList name).getD name

variable {prefixes prefixes' : List String} {start start' name rest rest' : String}

theorem afterPrefix?_eq_some_iff {start text rest : List Char} :
    afterPrefix? start text = some rest ↔ start ++ rest = text ∧ rest ≠ [] := by
  unfold afterPrefix?
  split_ifs with h
  · simp only [Bool.and_eq_true, List.isPrefixOf_iff_prefix, decide_eq_true_eq] at h
    obtain ⟨⟨left, rfl⟩, hlength⟩ := h
    have hleft : left ≠ [] := by
      rintro rfl
      simp at hlength
    rw [List.drop_left, Option.some_inj, List.append_cancel_left_eq]
    constructor
    · rintro rfl
      exact ⟨rfl, hleft⟩
    · exact fun h => h.1.symm
  · refine iff_of_false (by simp) ?_
    rintro ⟨rfl, hrest⟩
    have hlength := List.length_pos_iff.2 hrest
    simp only [Bool.and_eq_true, List.isPrefixOf_iff_prefix, decide_eq_true_eq, not_and,
      List.length_append] at h
    exact h (List.prefix_append _ _) (by omega)

theorem afterPrefix?_toList_eq_some_iff :
    afterPrefix? start.toList name.toList = some rest.toList ↔ Leaves start name rest := by
  rw [afterPrefix?_eq_some_iff, Leaves, ← String.toList_append, String.toList_inj, Ne, Ne,
    String.toList_eq_nil_iff]

theorem leaves_of_afterPrefix? {text : List Char}
    (h : afterPrefix? start.toList name.toList = some text) :
    Leaves start name (String.ofList text) := by
  rw [← afterPrefix?_toList_eq_some_iff, h, String.toList_ofList]

/-- Of two prefixes of a name, the one that is not larger is not longer. -/
theorem Leaves.length_le (h : Leaves start name rest) (h' : Leaves start' name rest')
    (hsize : start'.utf8ByteSize ≤ start.utf8ByteSize) : start'.length ≤ start.length := by
  have happend : start.toList ++ rest.toList = start'.toList ++ rest'.toList := by
    rw [← String.toList_append, ← String.toList_append, h.1, h'.1]
  rcases List.append_eq_append_iff.1 happend with ⟨more, hmore, -⟩ | ⟨more, hmore, -⟩
  · have hstart' : start' = start ++ String.ofList more := by
      rw [← String.toList_inj, hmore, String.toList_append, String.toList_ofList]
    rw [hstart', String.utf8ByteSize_append] at hsize
    have hempty : String.ofList more = "" := String.utf8ByteSize_eq_zero_iff.1 (by omega)
    exact Nat.le_of_eq (by rw [hstart', hempty, String.append_empty])
  · rw [← String.length_toList, ← String.length_toList, hmore, List.length_append]
    exact Nat.le_add_right _ _

/-- Prefixes of one length leave the same of a name. -/
theorem Leaves.eq_of_length_eq (h : Leaves start name rest) (h' : Leaves start' name rest')
    (hlength : start.length = start'.length) : rest = rest' := by
  have happend : start.toList ++ rest.toList = start'.toList ++ rest'.toList := by
    rw [← String.toList_append, ← String.toList_append, h.1, h'.1]
  rw [← String.length_toList, ← String.length_toList] at hlength
  exact String.toList_inj.1 (List.append_inj_right happend hlength)

/-! ## What remains of a name -/

theorem IsStem.unique (h : IsStem prefixes name rest) (h' : IsStem prefixes name rest') :
    rest = rest' := by
  cases h with
  | stripped hmem hleaves hlongest =>
    cases h' with
    | stripped hmem' hleaves' hlongest' =>
      exact hleaves.eq_of_length_eq hleaves'
        (Nat.le_antisymm (hlongest' _ hmem _ hleaves) (hlongest _ hmem' _ hleaves'))
    | whole hnone => exact absurd hleaves (hnone _ hmem _)
  | whole hnone =>
    cases h' with
    | stripped hmem' hleaves' => exact absurd hleaves' (hnone _ hmem' _)
    | whole => rfl

theorem IsStem.congr (h : IsStem prefixes name rest) (hmem : ∀ p, p ∈ prefixes' ↔ p ∈ prefixes) :
    IsStem prefixes' name rest := by
  cases h with
  | stripped hstart hleaves hlongest =>
    exact .stripped ((hmem _).2 hstart) hleaves fun other hother =>
      hlongest other ((hmem other).1 hother)
  | whole hnone => exact .whole fun start hstart => hnone start ((hmem start).1 hstart)

/-- If no prefix stands before a larger one, the first that leaves something is the longest. -/
theorem isStem_stem (h : prefixes.Pairwise fun a b => b.utf8ByteSize ≤ a.utf8ByteSize)
    (name : String) : IsStem prefixes name (String.ofList (stem prefixes name.toList)) := by
  cases hfind : prefixes.findSome? fun start => afterPrefix? start.toList name.toList with
  | none =>
    have hnone := List.findSome?_eq_none_iff.1 hfind
    rw [stem, hfind, Option.getD_none, String.ofList_toList]
    refine .whole fun start hstart rest hleaves => ?_
    rw [← afterPrefix?_toList_eq_some_iff, hnone start hstart] at hleaves
    cases hleaves
  | some text =>
    obtain ⟨before, start, after, rfl, htext, hbefore⟩ := List.findSome?_eq_some_iff.1 hfind
    have hleaves := leaves_of_afterPrefix? htext
    rw [stem, hfind, Option.getD_some]
    refine .stripped (List.mem_append_right _ List.mem_cons_self) hleaves
      fun other hother left hleft => ?_
    rcases List.mem_append.1 hother with hother | hother
    · rw [← afterPrefix?_toList_eq_some_iff, hbefore other hother] at hleft
      cases hleft
    · rcases List.mem_cons.1 hother with rfl | hother
      · exact Nat.le_refl _
      · have hpairwise := (List.pairwise_append.1 h).2.1
        exact hleaves.length_le hleft (List.rel_of_pairwise_cons hpairwise hother)

theorem property_eq : property prefixes name =
    String.ofList (capitalized (stem prefixes (withoutRawMark name.toList))) := rfl

theorem withoutRawMark_eq_self {text : List Char} (h : ¬ ['r', '#'] <+: text) :
    withoutRawMark text = text := by
  unfold withoutRawMark
  split
  · exact absurd ⟨_, rfl⟩ h
  · rfl

/-- The stem of a name under configured prefixes. -/
theorem isStem_iff (c : Config) :
    IsStem c.fieldPrefixes name rest ↔
      rest = String.ofList (stem c.prefixesLongestFirst name.toList) := by
  have hstem := (isStem_stem c.pairwise_prefixesLongestFirst name).congr
    fun _ => c.mem_prefixesLongestFirst.symm
  constructor
  · exact fun h => h.unique hstem
  · rintro rfl
    exact hstem

theorem property_of_isStem {c : Config} (hname : ¬ ['r', '#'] <+: name.toList)
    (h : IsStem c.fieldPrefixes name rest) :
    property c.prefixesLongestFirst name = String.ofList (capitalized rest.toList) := by
  rw [property_eq, withoutRawMark_eq_self hname, (isStem_iff c).1 h, String.toList_ofList]

/-- The name of a property is what remains of the name of its field, with the first character in
upper case: what follows the longest prefix that leaves something, or the whole name if none does.
So prefixes of the same set, in any order and any number of times, give the same properties. -/
theorem property_strips_longest (c : Config) :
    (∀ name : String, ¬ ['r', '#'] <+: name.toList →
      ∃ stem, (∀ s, IsStem c.fieldPrefixes name s ↔ s = stem) ∧
        property c.prefixesLongestFirst name = String.ofList (capitalized stem.toList)) ∧
    ∀ c' : Config, (∀ start, start ∈ c'.fieldPrefixes ↔ start ∈ c.fieldPrefixes) →
      ∀ name, property c'.prefixesLongestFirst name = property c.prefixesLongestFirst name := by
  refine ⟨fun name hname => ?_, fun c' hset name => ?_⟩
  · exact ⟨_, fun s => isStem_iff c, property_of_isStem hname ((isStem_iff c).2 rfl)⟩
  · -- a raw mark is taken off before the prefixes are looked at
    have hstem : IsStem c'.fieldPrefixes (String.ofList (withoutRawMark name.toList)) _ :=
      (isStem_iff c').2 rfl
    have heq := (isStem_iff c).1 (hstem.congr fun start => (hset start).symm)
    rw [String.toList_ofList, String.ofList_inj] at heq
    rw [property_eq, property_eq, heq]

/-- Of nested prefixes, the longest one is passed over because it is the whole name. -/
theorem property_nested_prefixes :
    property (Config.prefixesLongestFirst { fieldPrefixes := ["", "é", "éab", "éa", "é"] }) "éab" =
      "B" := by
  obtain ⟨stem, hstem, hproperty⟩ :=
    (property_strips_longest { fieldPrefixes := ["", "é", "éab", "éa", "é"] }).1 "éab" (by decide)
  have hb : IsStem ["", "é", "éab", "éa", "é"] "éab" "b" := by
    have hleaves : Leaves "éa" "éab" "b" := ⟨by decide, by decide⟩
    refine .stripped (by decide) hleaves fun other _ left h => ?_
    -- a prefix of three characters is the whole name
    have hleft : 0 < left.length := by
      rw [← String.length_toList, List.length_pos_iff, Ne, String.toList_eq_nil_iff]
      exact h.2
    have hlength := congrArg String.length h.1
    rw [String.length_append] at hlength
    change other.length + left.length = 3 at hlength
    change other.length ≤ 2
    omega
  rw [hproperty, ← (hstem _).1 hb]
  decide

end Naming

end ReactiveModel
