import Mathlib.Order.UpperLower.Basic
import Mathlib.Algebra.Order.BigOperators.Group.List
import Mathlib.Tactic

/-!
# Earliest deadline first

Amounts with deadlines, from which demands are served and which are lost when their deadline passes.
A stock is seen through the sets of deadlines: `s U` is what it holds with a deadline in `U`.  A stock
dominates another one when it holds at least as much in every upper set of deadlines, that is from every
deadline on and in total.

`Dominates.take` is the exchange argument: serving a demand earliest deadline first keeps the dominance
over any other way to serve it.  New amounts and the passing of a deadline keep it as well
(`Dominates.add`, `Dominates.expire`), so that it holds along every run, and with it nothing is lost that
another allocation would have kept.
-/

namespace EarliestFirst

variable {D α : Type*}

/-- What is on hand, by sets of deadlines. -/
abbrev Stock (D : Type*) := Set D → ℤ

/-! ## Stocks of items -/

variable (items : List α) (deadline : α → D)

open scoped Classical in
/-- The stock of some items with their amounts. -/
noncomputable def stock (amount : α → ℤ) : Stock D :=
  fun U => (items.map fun i => if deadline i ∈ U then amount i else 0).sum

variable {items deadline}

theorem stock_univ (amount : α → ℤ) : stock items deadline amount Set.univ = (items.map amount).sum := by
  unfold stock
  simp only [Set.mem_univ, if_true]

theorem stock_map {β : Type*} (f : β → α) (items : List β) (deadline : α → D) (amount : α → ℤ) :
    stock (items.map f) deadline amount = stock items (fun i => deadline (f i)) fun i => amount (f i) := by
  funext U
  unfold stock
  rw [List.map_map]
  rfl

theorem stock_append (items items' : List α) (amount : α → ℤ) (U : Set D) :
    stock (items ++ items') deadline amount U =
      stock items deadline amount U + stock items' deadline amount U := by
  unfold stock
  rw [List.map_append, List.sum_append]

theorem stock_congr {deadline' : α → D} (h : ∀ i ∈ items, deadline' i = deadline i) (amount : α → ℤ) :
    stock items deadline' amount = stock items deadline amount := by
  funext U
  unfold stock
  refine congrArg List.sum (List.map_congr_left fun i hi => ?_)
  rw [h i hi]

theorem stock_mono {amount amount' : α → ℤ} (h : ∀ i ∈ items, amount i ≤ amount' i) (U : Set D) :
    stock items deadline amount U ≤ stock items deadline amount' U := by
  unfold stock
  refine List.sum_le_sum fun i hi => ?_
  split_ifs
  · exact h i hi
  · exact le_rfl

/-- Amounts that are not negative count the more the larger the set. -/
theorem stock_le_of_subset {amount : α → ℤ} (h : ∀ i ∈ items, 0 ≤ amount i) {U V : Set D} (hUV : U ⊆ V) :
    stock items deadline amount U ≤ stock items deadline amount V := by
  unfold stock
  refine List.sum_le_sum fun i hi => ?_
  by_cases hU : deadline i ∈ U
  · rw [if_pos hU, if_pos (hUV hU)]
  · rw [if_neg hU]
    split_ifs
    · exact h i hi
    · exact le_rfl

variable [LinearOrder D]

/-! ## Dominance -/

/-- At least as much is on hand in every upper set of deadlines. -/
def Dominates (s t : Stock D) : Prop := ∀ U, IsUpperSet U → t U ≤ s U

theorem Dominates.refl (s : Stock D) : Dominates s s := fun _ _ => le_rfl

theorem Dominates.total {s t : Stock D} (h : Dominates s t) : t Set.univ ≤ s Set.univ :=
  h _ isUpperSet_univ

/-- The amount `x` is taken, in whatever way. -/
structure Takes (s : Stock D) (x : ℤ) (s' : Stock D) : Prop where
  total : s' Set.univ = s Set.univ - x
  le : ∀ U, IsUpperSet U → s' U ≤ s U
  le_total : ∀ U, IsUpperSet U → s' U ≤ s' Set.univ

/-- The amount `x` is taken from an upper set only when nothing is left outside of it. -/
structure TakesEarliest (s : Stock D) (x : ℤ) (s' : Stock D) : Prop where
  total : s' Set.univ = s Set.univ - x
  first : ∀ U, IsUpperSet U → s' U = s U ∨ s' U = s' Set.univ

/-- **Earliest first keeps the dominance** over any other way to serve the same demand. -/
theorem Dominates.take {s t s' t' : Stock D} {x : ℤ} (h : Dominates s t) (hs : TakesEarliest s x s')
    (ht : Takes t x t') : Dominates s' t' := by
  intro U hU
  rcases hs.first U hU with hsame | hall
  · rw [hsame]
    exact (ht.le U hU).trans (h U hU)
  · have htotal := h.total
    have hle := ht.le_total U hU
    rw [ht.total] at hle
    rw [hall, hs.total]
    omega

/-- The same amounts are added to both. -/
theorem Dominates.add {s t s' t' : Stock D} (n : Stock D) (h : Dominates s t)
    (hs : ∀ U, s' U = s U + n U) (ht : ∀ U, t' U = t U + n U) : Dominates s' t' := by
  intro U hU
  have hle := h U hU
  rw [hs U, ht U]
  omega

/-- What is due by `now` is lost on both sides. -/
theorem Dominates.expire {s t s' t' : Stock D} (now : D) (h : Dominates s t)
    (hs : ∀ U, s' U = s (U ∩ Set.Ioi now)) (ht : ∀ U, t' U = t (U ∩ Set.Ioi now)) : Dominates s' t' := by
  intro U hU
  rw [hs U, ht U]
  exact h _ (hU.inter (isUpperSet_Ioi now))

/-! ## Changes of the amounts -/

variable {before after : α → ℤ}

/-- Dropping the items that are due by `now`. -/
theorem stock_expire {now : D} (h : ∀ i ∈ items, after i = if deadline i ≤ now then 0 else before i)
    (U : Set D) : stock items deadline after U = stock items deadline before (U ∩ Set.Ioi now) := by
  unfold stock
  refine congrArg List.sum (List.map_congr_left fun i hi => ?_)
  rw [h i hi]
  by_cases hdue : deadline i ≤ now
  · have hout : deadline i ∉ U ∩ Set.Ioi now := fun hmem => not_lt.2 hdue hmem.2
    rw [if_pos hdue, if_neg hout, ite_self]
  · rw [if_neg hdue]
    by_cases hU : deadline i ∈ U
    · rw [if_pos hU, if_pos ⟨hU, not_le.1 hdue⟩]
    · have hout : deadline i ∉ U ∩ Set.Ioi now := fun hmem => hU hmem.1
      rw [if_neg hU, if_neg hout]

/-- Any amounts not above the old ones, and not negative. -/
theorem takes_of_items {x : ℤ} (htotal : (items.map after).sum = (items.map before).sum - x)
    (hle : ∀ i ∈ items, after i ≤ before i) (h0 : ∀ i ∈ items, 0 ≤ after i) :
    Takes (stock items deadline before) x (stock items deadline after) where
  total := by
    rw [stock_univ, stock_univ, htotal]
  le U _ := stock_mono hle U
  le_total U _ := stock_le_of_subset h0 (Set.subset_univ U)

/-- An item is touched only when all items with an earlier deadline are used up. -/
theorem takesEarliest_of_items {x : ℤ} (htotal : (items.map after).sum = (items.map before).sum - x)
    (hfirst : ∀ i ∈ items, ∀ j ∈ items, deadline i < deadline j → after j ≠ before j → after i = 0) :
    TakesEarliest (stock items deadline before) x (stock items deadline after) where
  total := by
    rw [stock_univ, stock_univ, htotal]
  first U hU := by
    by_cases htouched : ∃ j ∈ items, deadline j ∈ U ∧ after j ≠ before j
    · obtain ⟨j, hj, hjU, hne⟩ := htouched
      right
      unfold stock
      refine congrArg List.sum (List.map_congr_left fun i hi => ?_)
      rw [if_pos (Set.mem_univ _)]
      by_cases hiU : deadline i ∈ U
      · exact if_pos hiU
      · -- an item outside of the upper set is due before the one that is touched
        have hlt : deadline i < deadline j := not_le.1 fun hge => hiU (hU hge hjU)
        rw [if_neg hiU, hfirst i hi j hj hlt hne]
    · left
      unfold stock
      refine congrArg List.sum (List.map_congr_left fun i hi => ?_)
      by_cases hiU : deadline i ∈ U
      · rw [if_pos hiU, if_pos hiU]
        by_contra hne
        exact htouched ⟨i, hi, hiU, hne⟩
      · rw [if_neg hiU, if_neg hiU]

end EarliestFirst
