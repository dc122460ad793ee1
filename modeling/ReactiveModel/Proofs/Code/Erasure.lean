import ReactiveModel.Marker
import ReactiveModel.Proofs.Code.Occurrence

/-!
# Code without its markers

Taking one marker off a type, a field or a method is a step from one piece of code to another that
leaves everything else as it is. Such steps lead from any code to the code without its markers, and
to no other code that has none (`eq_withoutMarkers_iff`). Each of them makes the code shorter.
-/

namespace ReactiveModel

namespace Token

theorem sizeAll_append (ts us : List Token) : sizeAll (ts ++ us) = sizeAll ts + sizeAll us := by
  induction ts with
  | nil => simp [sizeAll]
  | cons t ts ih => rw [List.cons_append, sizeAll, sizeAll, ih, Nat.add_assoc]

end Token

namespace Code

open Relation Token

variable {c d : Code} {cs : List Code} {a : AttributeHead}

/-! ## Markers in code -/

mutual

/-- The markers on the types, fields and methods in a tree. -/
def markers : Code → List AttributeHead
  | .raw _ => []
  | .group _ body => body.markers
  | .seq parts => listMarkers parts
  | .arranged _ parts => listMarkers parts
  | .name _ => []
  | .member base _ => base.markers
  | .call base _ arguments => base.markers ++ arguments.markers
  | .binding _ => []
  | .invocation _ _ => []
  | .attribute site head value => (if isRemoved site head then [head] else []) ++ value.markers

/-- The markers on the types, fields and methods in trees in a row. -/
def listMarkers : List Code → List AttributeHead
  | [] => []
  | c :: rest => c.markers ++ listMarkers rest

end

/-- Whether a piece of code is the marker of a type, a field or a method. -/
def IsMarker (a : AttributeHead) : Code → Prop
  | .attribute site head _ => isRemoved site head ∧ head = a
  | _ => False

mutual

/-- The markers of a tree are those of the pieces inside. -/
theorem mem_markers_iff : ∀ c : Code, a ∈ c.markers ↔ ∃ d, c.Contains d ∧ d.IsMarker a
  | .raw _ => by rw [exists_contains_iff]; simp [markers, parts, IsMarker]
  | .group _ body => by
    rw [exists_contains_iff]; simp [markers, parts, IsMarker, mem_markers_iff body]
  | .seq cs => by rw [exists_contains_iff]; simp [markers, parts, IsMarker, mem_listMarkers_iff cs]
  | .arranged _ cs => by
    rw [exists_contains_iff]; simp [markers, parts, IsMarker, mem_listMarkers_iff cs]
  | .name _ => by rw [exists_contains_iff]; simp [markers, parts, IsMarker]
  | .member base _ => by
    rw [exists_contains_iff]; simp [markers, parts, IsMarker, mem_markers_iff base]
  | .call base _ arguments => by
    rw [exists_contains_iff]
    simp [markers, parts, IsMarker, mem_markers_iff base, mem_markers_iff arguments]
  | .binding _ => by rw [exists_contains_iff]; simp [markers, parts, IsMarker]
  | .invocation _ _ => by rw [exists_contains_iff]; simp [markers, parts, IsMarker]
  | .attribute site head value => by
    rw [exists_contains_iff]
    rw [markers, List.mem_append, mem_markers_iff value]
    by_cases h : isRemoved site head
    · simp [parts, IsMarker, h, @eq_comm _ a]
    · simp [parts, IsMarker, h]

theorem mem_listMarkers_iff : ∀ cs : List Code,
    a ∈ listMarkers cs ↔ ∃ c ∈ cs, ∃ d, c.Contains d ∧ d.IsMarker a
  | [] => by simp [listMarkers]
  | c :: cs => by simp [listMarkers, mem_markers_iff c, mem_listMarkers_iff cs]

end

theorem markers_eq_nil_iff : c.markers = [] ↔ ∀ d a, c.Contains d → ¬ d.IsMarker a := by
  rw [List.eq_nil_iff_forall_not_mem]
  simp only [mem_markers_iff, not_exists, not_and]
  exact forall_comm

mutual

theorem markers_withoutMarkers : ∀ c : Code, c.withoutMarkers.markers = []
  | .raw _ => rfl
  | .group _ body => markers_withoutMarkers body
  | .seq cs => listMarkers_listWithoutMarkers cs
  | .arranged _ cs => listMarkers_listWithoutMarkers cs
  | .name _ => rfl
  | .member base _ => markers_withoutMarkers base
  | .call base _ arguments => by
    rw [withoutMarkers, markers, markers_withoutMarkers base, markers_withoutMarkers arguments]
    rfl
  | .binding _ => rfl
  | .invocation _ _ => rfl
  | .attribute site head value => by
    rw [withoutMarkers]
    split
    · rfl
    · next h => rw [markers, if_neg h, markers_withoutMarkers value]; rfl

theorem listMarkers_listWithoutMarkers : ∀ cs : List Code,
    listMarkers (listWithoutMarkers cs) = []
  | [] => rfl
  | c :: cs => by
    rw [listWithoutMarkers, listMarkers, markers_withoutMarkers c,
      listMarkers_listWithoutMarkers cs]
    rfl

end

mutual

/-- Code that has no markers stays as it is. -/
theorem withoutMarkers_eq_self : ∀ c : Code, c.markers = [] → c.withoutMarkers = c
  | .raw _, _ => rfl
  | .group _ body, h => by rw [withoutMarkers, withoutMarkers_eq_self body h]
  | .seq cs, h => by rw [withoutMarkers, listWithoutMarkers_eq_self cs h]
  | .arranged _ cs, h => by rw [withoutMarkers, listWithoutMarkers_eq_self cs h]
  | .name _, _ => rfl
  | .member base _, h => by rw [withoutMarkers, withoutMarkers_eq_self base h]
  | .call base _ arguments, h => by
    obtain ⟨hbase, harguments⟩ := List.append_eq_nil_iff.1 h
    rw [withoutMarkers, withoutMarkers_eq_self base hbase,
      withoutMarkers_eq_self arguments harguments]
  | .binding _, _ => rfl
  | .invocation _ _, _ => rfl
  | .attribute site head value, h => by
    obtain ⟨hhead, hvalue⟩ := List.append_eq_nil_iff.1 h
    have hkept : ¬ isRemoved site head := fun hremoved => by simp [hremoved] at hhead
    rw [withoutMarkers, if_neg hkept, withoutMarkers_eq_self value hvalue]

theorem listWithoutMarkers_eq_self : ∀ cs : List Code,
    listMarkers cs = [] → listWithoutMarkers cs = cs
  | [], _ => rfl
  | c :: cs, h => by
    obtain ⟨hc, hcs⟩ := List.append_eq_nil_iff.1 h
    rw [listWithoutMarkers, withoutMarkers_eq_self c hc, listWithoutMarkers_eq_self cs hcs]

end

/-! ## Taking off one marker -/

theorem listWithoutMarkers_eq_map (cs : List Code) :
    listWithoutMarkers cs = cs.map withoutMarkers := by
  induction cs with
  | nil => rfl
  | cons c cs ih => rw [listWithoutMarkers, ih, List.map_cons]

/-- One marker is taken off a type, a field or a method. -/
inductive Sheds : Code → Code → Prop
  | marker {site : Site} {head : AttributeHead} {value : Code} (h : isRemoved site head) :
    Sheds (.attribute site head value) .empty
  | group {delimiter : Delimiter} {body body' : Code} (h : Sheds body body') :
    Sheds (.group delimiter body) (.group delimiter body')
  | seq {before after : List Code} {c c' : Code} (h : Sheds c c') :
    Sheds (.seq (before ++ c :: after)) (.seq (before ++ c' :: after))
  | arranged {arrangement : Arrangement} {before after : List Code} {c c' : Code}
    (h : Sheds c c') :
    Sheds (.arranged arrangement (before ++ c :: after))
      (.arranged arrangement (before ++ c' :: after))
  | member {base base' : Code} {i : Ident} (h : Sheds base base') :
    Sheds (.member base i) (.member base' i)
  | base {base base' arguments : Code} {i : Ident} (h : Sheds base base') :
    Sheds (.call base i arguments) (.call base' i arguments)
  | arguments {base arguments arguments' : Code} {i : Ident} (h : Sheds arguments arguments') :
    Sheds (.call base i arguments) (.call base i arguments')
  | value {site : Site} {head : AttributeHead} {value value' : Code} (h : Sheds value value') :
    Sheds (.attribute site head value) (.attribute site head value')

/-- Whichever marker is taken off first, the same code is left without all of them. -/
theorem Sheds.withoutMarkers_eq (h : Sheds c d) : c.withoutMarkers = d.withoutMarkers := by
  induction h with
  | marker h => rw [withoutMarkers, if_pos h]; rfl
  | group _ ih => rw [withoutMarkers, withoutMarkers, ih]
  | seq _ ih =>
    simp only [withoutMarkers, listWithoutMarkers_eq_map, List.map_append, List.map_cons, ih]
  | arranged _ ih =>
    simp only [withoutMarkers, listWithoutMarkers_eq_map, List.map_append, List.map_cons, ih]
  | member _ ih => rw [withoutMarkers, withoutMarkers, ih]
  | base _ ih => rw [withoutMarkers, withoutMarkers, ih]
  | arguments _ ih => rw [withoutMarkers, withoutMarkers, ih]
  | value _ ih => rw [withoutMarkers, withoutMarkers, ih]

theorem withoutMarkers_eq_of_sheds (h : ReflTransGen Sheds c d) :
    c.withoutMarkers = d.withoutMarkers := by
  induction h with
  | refl => rfl
  | tail _ h ih => rw [ih, h.withoutMarkers_eq]

mutual

theorem sheds_withoutMarkers : ∀ c : Code, ReflTransGen Sheds c c.withoutMarkers
  | .raw _ => .refl
  | .group _ body => (sheds_withoutMarkers body).lift _ fun _ _ => .group
  | .seq cs => sheds_listWithoutMarkers .seq (fun _ _ _ _ => .seq) [] cs
  | .arranged arrangement cs =>
    sheds_listWithoutMarkers (.arranged arrangement) (fun _ _ _ _ => .arranged) [] cs
  | .name _ => .refl
  | .member base _ => (sheds_withoutMarkers base).lift (Code.member · _) fun _ _ => .member
  | .call base i arguments =>
    ((sheds_withoutMarkers base).lift (Code.call · i arguments) fun _ _ => .base).trans
      ((sheds_withoutMarkers arguments).lift (Code.call _ i) fun _ _ => .arguments)
  | .binding _ => .refl
  | .invocation _ _ => .refl
  | .attribute site head value => by
    rw [withoutMarkers]
    split
    · next h => exact .single (.marker h)
    · exact (sheds_withoutMarkers value).lift _ fun _ _ => .value

/-- In a row, the pieces are taken in order; the first ones have none of their markers left. -/
theorem sheds_listWithoutMarkers (row : List Code → Code)
    (hrow : ∀ before after c c', Sheds c c' →
      Sheds (row (before ++ c :: after)) (row (before ++ c' :: after)))
    (before : List Code) : ∀ cs : List Code,
    ReflTransGen Sheds (row (before ++ cs)) (row (before ++ listWithoutMarkers cs))
  | [] => .refl
  | c :: cs => by
    have hhead : ReflTransGen Sheds (row (before ++ c :: cs))
        (row (before ++ c.withoutMarkers :: cs)) :=
      (sheds_withoutMarkers c).lift (fun c => row (before ++ c :: cs)) fun _ _ => hrow _ _ _ _
    have htail := sheds_listWithoutMarkers row hrow (before ++ [c.withoutMarkers]) cs
    rw [List.append_assoc, List.append_assoc] at htail
    exact hhead.trans htail

end

/-- Taking off markers until there is none leads to the code without markers, and nowhere else. -/
theorem eq_withoutMarkers_iff :
    d = c.withoutMarkers ↔ ReflTransGen Sheds c d ∧ d.markers = [] := by
  constructor
  · rintro rfl
    exact ⟨sheds_withoutMarkers c, markers_withoutMarkers c⟩
  · rintro ⟨h, hd⟩
    rw [withoutMarkers_eq_of_sheds h, withoutMarkers_eq_self d hd]

/-! ## Lengths -/

theorem sizeAll_pick (marks : List Bool) (parts : List (List Token)) :
    sizeAll (Arrangement.pick true marks parts) + sizeAll (Arrangement.pick false marks parts) =
      sizeAll parts.flatten := by
  induction parts generalizing marks with
  | nil => cases marks <;> rfl
  | cons part parts ih =>
    cases marks with
    | nil =>
      have hrest := ih []
      simp only [Arrangement.pick, List.flatten_cons, sizeAll_append, if_true, sizeAll,
        Bool.false_eq_true, if_false]
      omega
    | cons m marks =>
      have hrest := ih marks
      cases m <;> simp [Arrangement.pick, sizeAll_append] <;> omega

theorem sizeAll_enclose (brackets : Option Delimiter) (ts : List Token) :
    sizeAll (Arrangement.enclose brackets ts) = sizeAll ts + if brackets.isSome then 1 else 0 := by
  cases brackets <;> simp [Arrangement.enclose, sizeAll, size]

/-- The brackets around parts add the same to the number of their tokens, whatever the parts are. -/
theorem exists_sizeAll_write (arrangement : Arrangement) (n : Nat) :
    ∃ k, ∀ parts : List (List Token), parts.length = n →
      sizeAll (arrangement.write parts) = sizeAll parts.flatten + k := by
  cases arrangement with
  | lifetimesFirst marks =>
    refine ⟨0, fun parts _ => ?_⟩
    rw [Arrangement.write, sizeAll_append, sizeAll_pick, Nat.add_zero]
  | secondFirst brackets =>
    refine ⟨if 2 ≤ n ∧ brackets.isSome then 1 else 0, fun parts hlength => ?_⟩
    subst hlength
    match parts with
    | [] => simp [Arrangement.write, sizeAll]
    | [_] => simp [Arrangement.write]
    | first :: second :: rest =>
      have htwo : 2 ≤ (first :: second :: rest).length := by simp
      simp only [Arrangement.write, sizeAll_append, sizeAll_enclose, List.flatten_cons, htwo,
        true_and]
      omega

theorem tokensOfEach_eq_map (cs : List Code) : tokensOfEach cs = cs.map toTokens := by
  induction cs with
  | nil => rfl
  | cons c cs ih => rw [tokensOfEach, ih, List.map_cons]

theorem listTokens_append (cs ds : List Code) :
    listTokens (cs ++ ds) = listTokens cs ++ listTokens ds := by
  induction cs with
  | nil => rfl
  | cons c cs ih => rw [List.cons_append, listTokens, listTokens, ih, List.append_assoc]

/-- Taking off a marker leaves fewer tokens, or the same ones if it stands in the value of an
attribute that does not assign its value. -/
theorem Sheds.tokens (h : Sheds c d) :
    d.toTokens = c.toTokens ∨ sizeAll d.toTokens < sizeAll c.toTokens := by
  induction h with
  | marker h =>
    right
    simp only [empty, toTokens, AttributeHead.toTokens, sizeAll_append, sizeAll, size]
    omega
  | group _ ih => simpa [toTokens, sizeAll, size] using ih
  | seq _ ih => simpa [toTokens, listTokens_append, listTokens, sizeAll_append] using ih
  | @arranged arrangement before after c c' _ ih =>
    rcases ih with ih | ih
    · left
      simp only [toTokens, tokensOfEach_eq_map, List.map_append, List.map_cons, ih]
    · right
      obtain ⟨k, hk⟩ := exists_sizeAll_write arrangement (before.length + (after.length + 1))
      have hwrite : ∀ c : Code, sizeAll (Code.arranged arrangement (before ++ c :: after)).toTokens
          = sizeAll (tokensOfEach (before ++ c :: after)).flatten + k := fun c =>
        hk _ (by simp [tokensOfEach_eq_map])
      simpa [hwrite, tokensOfEach_eq_map, sizeAll_append] using ih
  | member _ ih => simpa [toTokens, sizeAll_append] using ih
  | base _ ih => simpa [toTokens, sizeAll_append] using ih
  | arguments _ ih => simpa [toTokens, sizeAll_append, sizeAll] using ih
  | @value _ head value value' _ ih =>
    rcases ih with ih | ih
    · left
      rw [toTokens, toTokens, ih]
    · cases h : head.arguments with
      | value =>
        right
        simpa [toTokens, AttributeHead.toTokens, h, sizeAll_append, sizeAll, size] using ih
      | none =>
        left
        simp only [toTokens, AttributeHead.toTokens, h]
      | list delimiter ts =>
        left
        simp only [toTokens, AttributeHead.toTokens, h]

/-- No marker is written anywhere in the code. -/
def Unmarked (c : Code) : Prop := c.withoutMarkers.toTokens = c.toTokens

theorem unmarked_or_sizeAll_lt (c : Code) :
    c.Unmarked ∨ sizeAll c.withoutMarkers.toTokens < sizeAll c.toTokens := by
  unfold Unmarked
  have h := sheds_withoutMarkers c
  generalize c.withoutMarkers = d at h
  induction h with
  | refl => exact .inl rfl
  | tail _ h ih =>
    rcases h.tokens with htokens | hlt
    · rwa [htokens]
    · rcases ih with ih | ih
      · rw [ih] at hlt
        exact .inr hlt
      · exact .inr (Nat.lt_trans hlt ih)

end Code

end ReactiveModel
