import Mathlib.Tactic
import Metrology.UnitExpression

/-!
# Combining terms

Adding terms one after another gives each token once, with the sum of its
exponents.  Terms may be combined before or after they are joined, and combined
terms that are put in order are what a written expression states.
-/

namespace Metrology.UnitExpression

/-! ## Adding one term -/

theorem addTerm_addTerm (term : UnitTerm) (exponent : Int) (terms : List UnitTerm) :
    addTerm ⟨term.token, exponent⟩ (addTerm term terms) =
      addTerm ⟨term.token, term.exponent + exponent⟩ terms := by
  induction terms with
  | nil => simp [addTerm]
  | cons first rest ih =>
      by_cases same : first.token = term.token
      · simp [addTerm, same, add_assoc]
      · simp [addTerm, same, ih]

/-- Terms are added in any order to a list that has the token of one of them. -/
theorem addTerm_comm {term : UnitTerm} {terms : List UnitTerm}
    (present : term.token ∈ terms.map (·.token)) (other : UnitTerm) :
    addTerm term (addTerm other terms) = addTerm other (addTerm term terms) := by
  induction terms with
  | nil => cases present
  | cons first rest ih =>
      by_cases same : first.token = term.token
      · by_cases otherSame : first.token = other.token
        · simp [addTerm, same, ← otherSame, add_right_comm]
        · have apart : ¬ term.token = other.token := by rwa [← same]
          simp [addTerm, same, apart]
      · have later : term.token ∈ rest.map (·.token) := by
          rcases List.mem_cons.1 present with head | tail
          · exact absurd head.symm same
          · exact tail
        by_cases otherSame : first.token = other.token
        · have apart : ¬ other.token = term.token := by rwa [← otherSame]
          simp [addTerm, otherSame, apart]
        · simp [addTerm, same, otherSame, ih later]

theorem mem_tokens_addTerm {term : UnitTerm} {terms : List UnitTerm} {token : String} :
    token ∈ (addTerm term terms).map (·.token) ↔
      token = term.token ∨ token ∈ terms.map (·.token) := by
  induction terms with
  | nil => simp [addTerm]
  | cons first rest ih =>
      rw [addTerm]
      split
      · next same =>
          rw [List.map_cons, List.mem_cons, List.map_cons, List.mem_cons, same]
          tauto
      · rw [List.map_cons, List.mem_cons, ih, List.map_cons, List.mem_cons]
        tauto

theorem nodup_tokens_addTerm {terms : List UnitTerm} (distinct : (terms.map (·.token)).Nodup)
    (term : UnitTerm) : ((addTerm term terms).map (·.token)).Nodup := by
  induction terms with
  | nil => simp [addTerm]
  | cons first rest ih =>
      obtain ⟨fresh, restDistinct⟩ := List.nodup_cons.1 distinct
      rw [addTerm]
      split
      · exact distinct
      · next apart =>
          refine List.nodup_cons.2 ⟨fun member => ?_, ih restDistinct⟩
          rcases mem_tokens_addTerm.1 member with same | later
          · exact apart same
          · exact fresh later

theorem positive_addTerm {term : UnitTerm} {terms : List UnitTerm} (sign : 0 < term.exponent)
    (signs : ∀ other ∈ terms, 0 < other.exponent) :
    ∀ other ∈ addTerm term terms, 0 < other.exponent := by
  induction terms with
  | nil => simpa [addTerm] using sign
  | cons first rest ih =>
      have firstSign := signs first List.mem_cons_self
      have restSigns := ih fun other member => signs other (List.mem_cons_of_mem _ member)
      intro other member
      rw [addTerm] at member
      split at member
      · rcases List.mem_cons.1 member with rfl | later
        · exact Int.add_pos firstSign sign
        · exact signs other (List.mem_cons_of_mem _ later)
      · rcases List.mem_cons.1 member with rfl | later
        · exact firstSign
        · exact restSigns other later

theorem length_addTerm_le (term : UnitTerm) (terms : List UnitTerm) :
    (addTerm term terms).length ≤ terms.length + 1 := by
  induction terms with
  | nil => exact Nat.le_refl _
  | cons first rest ih =>
      rw [addTerm]
      split
      · exact Nat.le_succ _
      · exact Nat.succ_le_succ ih

/-- A term that makes the list longer has come last. -/
theorem addTerm_eq_append {term : UnitTerm} {terms : List UnitTerm}
    (longer : terms.length + 1 ≤ (addTerm term terms).length) :
    addTerm term terms = terms ++ [term] := by
  induction terms with
  | nil => rfl
  | cons first rest ih =>
      rw [addTerm] at longer ⊢
      split at longer
      · exact absurd longer (by simp)
      · next apart =>
          rw [if_neg apart, ih (Nat.le_of_succ_le_succ longer)]
          rfl

/-- The sum of all exponents. -/
def total (terms : List UnitTerm) : Int :=
  (terms.map (·.exponent)).sum

theorem total_addTerm (term : UnitTerm) (terms : List UnitTerm) :
    total (addTerm term terms) = total terms + term.exponent := by
  induction terms with
  | nil => simp [total, addTerm]
  | cons first rest ih =>
      rw [addTerm]
      split
      · simp only [total, List.map_cons, List.sum_cons]
        omega
      · simp only [total, List.map_cons, List.sum_cons] at ih ⊢
        omega

/-- The sum of the sizes of all exponents. -/
def weight (terms : List UnitTerm) : Nat :=
  (terms.map (·.exponent.natAbs)).sum

theorem weight_addTerm_le (term : UnitTerm) (terms : List UnitTerm) :
    weight (addTerm term terms) ≤ weight terms + term.exponent.natAbs := by
  induction terms with
  | nil => simp [weight, addTerm]
  | cons first rest ih =>
      rw [addTerm]
      split
      · simp only [weight, List.map_cons, List.sum_cons]
        omega
      · simp only [weight, List.map_cons, List.sum_cons] at ih ⊢
        omega

theorem weight_append (left right : List UnitTerm) :
    weight (left ++ right) = weight left + weight right := by
  simp [weight]

theorem natAbs_le_weight {terms : List UnitTerm} {term : UnitTerm} (member : term ∈ terms) :
    term.exponent.natAbs ≤ weight terms :=
  List.single_le_sum (fun _ _ => Nat.zero_le _) _ (List.mem_map_of_mem member)

/-- Multiply all exponents. -/
def scaled (power : Int) (terms : List UnitTerm) : List UnitTerm :=
  terms.map fun term => { term with exponent := term.exponent * power }

theorem addTerm_scaled (power : Int) (term : UnitTerm) (terms : List UnitTerm) :
    addTerm { term with exponent := term.exponent * power } (scaled power terms) =
      scaled power (addTerm term terms) := by
  induction terms with
  | nil => rfl
  | cons first rest ih =>
      by_cases same : first.token = term.token
      · simp [scaled, addTerm, same, add_mul]
      · simpa [scaled, addTerm, same] using ih

theorem scaled_scaled (terms : List UnitTerm) : scaled (-1) (scaled (-1) terms) = terms := by
  simp [scaled, Function.comp_def]

theorem scaled_one (terms : List UnitTerm) : scaled 1 terms = terms := by
  simp [scaled]

/-! ## Adding all terms -/

theorem combine_append_singleton (terms : List UnitTerm) (term : UnitTerm) :
    combine (terms ++ [term]) = addTerm term (combine terms) := by
  rw [combine, List.foldl_append]
  rfl

/-- A term whose token is there already may as well be added before others. -/
theorem addTerm_foldl {term : UnitTerm} {sofar : List UnitTerm}
    (present : term.token ∈ sofar.map (·.token)) (terms : List UnitTerm) :
    addTerm term (terms.foldl (fun combined term => addTerm term combined) sofar) =
      terms.foldl (fun combined term => addTerm term combined) (addTerm term sofar) := by
  induction terms generalizing sofar with
  | nil => rfl
  | cons first rest ih =>
      rw [List.foldl_cons, List.foldl_cons, ← addTerm_comm present]
      exact ih (mem_tokens_addTerm.2 (.inr present))

theorem foldl_addTerm (term : UnitTerm) (terms sofar : List UnitTerm) :
    (addTerm term terms).foldl (fun combined term => addTerm term combined) sofar =
      addTerm term (terms.foldl (fun combined term => addTerm term combined) sofar) := by
  induction terms generalizing sofar with
  | nil => rfl
  | cons first rest ih =>
      rw [addTerm]
      split
      · next same =>
          have merged := addTerm_addTerm first term.exponent sofar
          rw [List.foldl_cons, List.foldl_cons,
            addTerm_foldl (mem_tokens_addTerm.2 (.inl same.symm))]
          congr 1
          rw [← merged, same]
      · rw [List.foldl_cons, List.foldl_cons, ih]

/-- Terms may be combined before they are added. -/
theorem foldl_combine (sofar terms : List UnitTerm) :
    (combine terms).foldl (fun combined term => addTerm term combined) sofar =
      terms.foldl (fun combined term => addTerm term combined) sofar := by
  induction terms using List.reverseRecOn with
  | nil => rfl
  | append_singleton terms term ih =>
      rw [combine_append_singleton, foldl_addTerm, ih, List.foldl_append]
      rfl

theorem combine_append (left right : List UnitTerm) :
    combine (combine left ++ combine right) = combine (left ++ right) := by
  rw [combine, List.foldl_append, foldl_combine, foldl_combine, combine, List.foldl_append]

theorem combine_scaled (power : Int) (terms : List UnitTerm) :
    combine (scaled power terms) = scaled power (combine terms) := by
  induction terms using List.reverseRecOn with
  | nil => rfl
  | append_singleton terms term ih =>
      rw [scaled, List.map_append, List.map_singleton, combine_append_singleton, ← scaled, ih,
        addTerm_scaled, combine_append_singleton]

theorem mem_tokens_combine {terms : List UnitTerm} {token : String} :
    token ∈ (combine terms).map (·.token) ↔ token ∈ terms.map (·.token) := by
  induction terms using List.reverseRecOn with
  | nil => rfl
  | append_singleton terms term ih =>
      rw [combine_append_singleton, mem_tokens_addTerm, ih, List.map_append, List.mem_append,
        List.map_singleton, List.mem_singleton, or_comm]

theorem nodup_tokens_combine (terms : List UnitTerm) :
    ((combine terms).map (·.token)).Nodup := by
  induction terms using List.reverseRecOn with
  | nil => exact List.nodup_nil
  | append_singleton terms term ih =>
      rw [combine_append_singleton]
      exact nodup_tokens_addTerm ih term

/-- Terms with positive exponents stay such. -/
theorem positive_combine {terms : List UnitTerm} (positive : ∀ term ∈ terms, 0 < term.exponent) :
    ∀ term ∈ combine terms, 0 < term.exponent := by
  induction terms using List.reverseRecOn with
  | nil => exact fun _ impossible => absurd impossible List.not_mem_nil
  | append_singleton terms term ih =>
      rw [combine_append_singleton]
      have last := positive term (List.mem_append_right _ (List.mem_singleton_self _))
      exact positive_addTerm last (ih fun other member =>
        positive other (List.mem_append_left _ member))

theorem total_combine (terms : List UnitTerm) : total (combine terms) = total terms := by
  induction terms using List.reverseRecOn with
  | nil => rfl
  | append_singleton terms term ih =>
      rw [combine_append_singleton, total_addTerm, ih]
      simp [total]

theorem weight_combine_le (terms : List UnitTerm) : weight (combine terms) ≤ weight terms := by
  induction terms using List.reverseRecOn with
  | nil => exact Nat.le_refl _
  | append_singleton terms term ih =>
      have last := weight_addTerm_le term (combine terms)
      have single : weight [term] = term.exponent.natAbs := by simp [weight]
      rw [combine_append_singleton, weight_append]
      omega

theorem length_combine_le (terms : List UnitTerm) :
    (combine terms).length ≤ terms.length := by
  induction terms using List.reverseRecOn with
  | nil => exact Nat.le_refl _
  | append_singleton terms term ih =>
      rw [combine_append_singleton, List.length_append]
      exact (length_addTerm_le term _).trans (Nat.succ_le_succ ih)

/-- If no terms have been merged, nothing has changed. -/
theorem combine_eq_self {terms : List UnitTerm}
    (unmerged : terms.length ≤ (combine terms).length) : combine terms = terms := by
  induction terms using List.reverseRecOn with
  | nil => rfl
  | append_singleton terms term ih =>
      rw [combine_append_singleton] at unmerged ⊢
      rw [List.length_append, List.length_singleton] at unmerged
      have bound := length_addTerm_le term (combine terms)
      have shorter := length_combine_le terms
      have same := ih (by omega)
      rw [addTerm_eq_append (by omega), same]

/-! ## Order -/

/-- The terms above the slash. -/
def aboveTerms (terms : List UnitTerm) : List UnitTerm :=
  terms.filter (0 < ·.exponent)

/-- The terms below the slash. -/
def belowTerms (terms : List UnitTerm) : List UnitTerm :=
  terms.filter (·.exponent < 0)

/-- Terms as they are read back: combined, without those that vanish, and those below
the slash last. -/
def canonical (terms : List UnitTerm) : List UnitTerm :=
  aboveTerms (combine terms) ++ belowTerms (combine terms)

theorem canonical_of_positive {terms : List UnitTerm}
    (positive : ∀ term ∈ terms, 0 < term.exponent) : canonical terms = combine terms := by
  have signs := positive_combine positive
  have above : aboveTerms (combine terms) = combine terms :=
    List.filter_eq_self.2 fun term member => by simpa using signs term member
  have below : belowTerms (combine terms) = [] :=
    List.filter_eq_nil_iff.2 fun term member => by simpa using (signs term member).le
  rw [canonical, above, below, List.append_nil]

/-- Vanishing terms do not count. -/
theorem total_canonical (terms : List UnitTerm) : total (canonical terms) = total terms := by
  rw [← total_combine terms, canonical]
  induction combine terms with
  | nil => rfl
  | cons first rest ih =>
      simp only [total, aboveTerms, belowTerms, List.map_append, List.sum_append,
        List.filter_cons, List.map_cons, List.sum_cons] at ih ⊢
      rcases lt_trichotomy first.exponent 0 with negative | vanishing | positive
      · simp only [negative, not_lt_of_gt negative, decide_true, decide_false, if_true,
          Bool.false_eq_true, if_false, List.map_cons, List.sum_cons]
        omega
      · simp only [vanishing, lt_irrefl, decide_false, Bool.false_eq_true, if_false]
        omega
      · simp only [positive, not_lt_of_gt positive, decide_true, decide_false, if_true,
          Bool.false_eq_true, if_false, List.map_cons, List.sum_cons]
        omega

theorem length_above_below_le (terms : List UnitTerm) :
    (aboveTerms terms ++ belowTerms terms).length ≤ terms.length := by
  induction terms with
  | nil => exact Nat.le_refl _
  | cons first rest ih =>
      simp only [aboveTerms, belowTerms, List.length_append, List.filter_cons] at ih ⊢
      split_ifs with isPositive isNegative
      · have below := of_decide_eq_true isNegative
        have above := of_decide_eq_true isPositive
        omega
      · simp only [List.length_cons]
        omega
      · simp only [List.length_cons]
        omega
      · simp only [List.length_cons]
        omega

/-- Terms in order that all remain are read back as they are. -/
theorem canonical_eq_self {terms : List UnitTerm}
    (inOrder : aboveTerms terms ++ belowTerms terms = terms)
    (remaining : terms.length ≤ (canonical terms).length) : canonical terms = terms := by
  have unmerged := remaining.trans (length_above_below_le (combine terms))
  rw [canonical, combine_eq_self unmerged, inOrder]

theorem mem_canonical {terms : List UnitTerm} {term : UnitTerm} :
    term ∈ canonical terms ↔ term ∈ combine terms ∧ term.exponent ≠ 0 := by
  simp only [canonical, aboveTerms, belowTerms, List.mem_append, List.mem_filter,
    decide_eq_true_eq]
  constructor
  · rintro (⟨member, positive⟩ | ⟨member, negative⟩)
    · exact ⟨member, positive.ne'⟩
    · exact ⟨member, negative.ne⟩
  · rintro ⟨member, nonzero⟩
    rcases lt_or_gt_of_ne nonzero with negative | positive
    · exact .inr ⟨member, negative⟩
    · exact .inl ⟨member, positive⟩

theorem nodup_tokens_canonical (terms : List UnitTerm) :
    ((canonical terms).map (·.token)).Nodup := by
  have distinct := nodup_tokens_combine terms
  rw [canonical, List.map_append, List.nodup_append]
  refine ⟨distinct.sublist (List.filter_sublist.map _),
    distinct.sublist (List.filter_sublist.map _), ?_⟩
  intro token inAbove _ inBelow rfl
  obtain ⟨upper, upperMember, rfl⟩ := List.mem_map.1 inAbove
  obtain ⟨lower, lowerMember, same⟩ := List.mem_map.1 inBelow
  obtain ⟨upperInside, positive⟩ := List.mem_filter.1 upperMember
  obtain ⟨lowerInside, negative⟩ := List.mem_filter.1 lowerMember
  have equal := List.inj_on_of_nodup_map distinct lowerInside upperInside same
  rw [equal] at negative
  have above := of_decide_eq_true positive
  have below := of_decide_eq_true negative
  omega

/-- Terms with distinct tokens are combined already. -/
theorem combine_of_nodup {terms : List UnitTerm} (distinct : (terms.map (·.token)).Nodup) :
    combine terms = terms := by
  have kept := (distinct.subperm fun _ member => mem_tokens_combine.2 member).length_le
  rw [List.length_map, List.length_map] at kept
  exact combine_eq_self kept

theorem aboveTerms_canonical (terms : List UnitTerm) :
    aboveTerms (canonical terms) = aboveTerms (combine terms) := by
  have above : aboveTerms (aboveTerms (combine terms)) = aboveTerms (combine terms) :=
    List.filter_eq_self.2 fun _ member => (List.mem_filter.1 member).2
  have below : aboveTerms (belowTerms (combine terms)) = [] := by
    refine List.filter_eq_nil_iff.2 fun term member => ?_
    have negative := of_decide_eq_true (List.mem_filter.1 member).2
    simpa using negative.le
  have whole : aboveTerms (canonical terms) =
      aboveTerms (aboveTerms (combine terms)) ++ aboveTerms (belowTerms (combine terms)) :=
    List.filter_append _ _
  rw [whole, above, below, List.append_nil]

theorem belowTerms_canonical (terms : List UnitTerm) :
    belowTerms (canonical terms) = belowTerms (combine terms) := by
  have below : belowTerms (belowTerms (combine terms)) = belowTerms (combine terms) :=
    List.filter_eq_self.2 fun _ member => (List.mem_filter.1 member).2
  have above : belowTerms (aboveTerms (combine terms)) = [] := by
    refine List.filter_eq_nil_iff.2 fun term member => ?_
    have positive := of_decide_eq_true (List.mem_filter.1 member).2
    simpa using positive.le
  have whole : belowTerms (canonical terms) =
      belowTerms (aboveTerms (combine terms)) ++ belowTerms (belowTerms (combine terms)) :=
    List.filter_append _ _
  rw [whole, above, below, List.nil_append]

end Metrology.UnitExpression
