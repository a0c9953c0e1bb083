import KasbOKar.Lib.Table

/-!
# Aggregates over two tables

A report adds up the rows of one table for each row of another: the ledger for each owner, the orders for
each customer.  If every row belongs to someone, nothing is counted twice or left out, and the parts add up
to the total over all rows (`sum_join`).
-/

namespace Table

variable {α β : Type} [Keyed α] [Keyed β]

theorem sum_add (t : Table α) (g h : α → ℤ) : t.sum (fun r => g r + h r) = t.sum g + t.sum h := by
  unfold sum
  exact List.sum_map_add

theorem sum_nonpos {t : Table α} {g : α → ℤ} (h : ∀ r ∈ t.rows, g r ≤ 0) : t.sum g ≤ 0 := by
  have hle : (t.rows.map g).sum ≤ (t.rows.map fun _ => 0).sum := List.sum_le_sum h
  rwa [List.map_const', List.sum_replicate, smul_zero] at hle

/-- The share of the row that has the key, and nothing for the others. -/
theorem sum_key {t : Table α} {i : ℕ} (h : i ∈ t.ids) (x : ℤ) :
    (t.sum fun r => if i = Keyed.id r then x else 0) = x := by
  obtain ⟨r, hr⟩ := exists_find? h
  obtain ⟨l₁, l₂, hl, h₁, h₂⟩ := exists_split hr
  have hid : Keyed.id r = i := id_of_find? hr
  have hnone : ∀ l : List α, (∀ s ∈ l, Keyed.id s ≠ i) →
      (l.map fun s => if i = Keyed.id s then x else 0).sum = 0 := by
    intro l hne
    rw [List.map_congr_left fun s hs => if_neg (hne s hs).symm]
    simp
  unfold sum
  rw [hl, List.map_append, List.map_cons, List.sum_append, List.sum_cons, hnone l₁ h₁, hnone l₂ h₂,
    if_pos hid.symm, zero_add, add_zero]

/-- **The parts add up**, if every row of `u` belongs to a row of `t`. -/
theorem sum_join {t : Table α} {u : Table β} {key : β → ℕ} (h : ∀ b ∈ u.rows, key b ∈ t.ids)
    (g : β → ℤ) : (t.sum fun a => u.sum fun b => if key b = Keyed.id a then g b else 0) = u.sum g := by
  have hrows : ∀ bs : List β, (∀ b ∈ bs, key b ∈ t.ids) →
      (t.sum fun a => (bs.map fun b => if key b = Keyed.id a then g b else 0).sum) = (bs.map g).sum := by
    intro bs
    induction bs with
    | nil => intro _; exact sum_eq_zero fun _ _ => rfl
    | cons b bs ih =>
      intro hbs
      simp only [List.map_cons, List.sum_cons]
      rw [sum_add, sum_key (hbs b List.mem_cons_self),
        ih fun b' hb' => hbs b' (List.mem_cons_of_mem _ hb')]
  exact hrows u.rows h

end Table
