import KasbOKar.Lib.Table

/-!
# Cached totals

A column of one table often repeats a sum over the rows of another: the balance of an account, the
reserved units of a product.  The two sides are written by different statements, so in the middle
of an operation they disagree; `Cached … pend t u` says that the cached column of `t` is the sum
over `u` plus `pend`.  Each statement moves `pend` of one key by a known amount, and an operation
keeps the cache when the amounts cancel (`bump_bump`, `bump_zero`).
-/

namespace Cached

/-- Add `delta` to what is pending for one key. -/
def bump (pend : ℕ → ℤ) (key : ℕ) (delta : ℤ) (i : ℕ) : ℤ := pend i + if i = key then delta else 0

theorem bump_bump (pend : ℕ → ℤ) (key : ℕ) (a b : ℤ) :
    bump (bump pend key a) key b = bump pend key (a + b) := by
  funext i
  unfold bump
  split_ifs <;> ring

@[simp] theorem bump_zero (pend : ℕ → ℤ) (key : ℕ) : bump pend key 0 = pend := by
  funext i
  unfold bump
  rw [ite_self, add_zero]

/-- Nothing is pending. -/
def settled : ℕ → ℤ := fun _ => 0

variable {α β : Type} [Keyed α] [Keyed β] {val : α → ℤ} {share : ℕ → β → ℤ} {pend : ℕ → ℤ}
  {t : Table α} {u : Table β}

/-- The column `val` of `t` is the sum of the shares in `u`, up to what is pending. -/
def Agrees (val : α → ℤ) (share : ℕ → β → ℤ) (pend : ℕ → ℤ) (t : Table α) (u : Table β) : Prop :=
  ∀ r ∈ t.rows, val r = u.sum (share (Keyed.id r)) + pend (Keyed.id r)

/-- An `UPDATE` of a cached value. -/
theorem Agrees.modify_cache {i : ℕ} {delta : ℤ} {f : α → α} (h : Agrees val share pend t u)
    (hf : ∀ r, Keyed.id (f r) = Keyed.id r)
    (hval : ∀ r ∈ t.rows, Keyed.id r = i → val (f r) = val r + delta) :
    Agrees val share (bump pend i delta) (t.modify i f hf) u := by
  intro r hr
  unfold bump
  rcases Table.mem_modify_cases hf hr with ⟨hr, hne⟩ | ⟨s, hs, hid, rfl⟩
  · rw [if_neg hne, add_zero]
    exact h r hr
  · rw [hf, if_pos hid, hval s hs hid, h s hs]
    ring

/-- A statement on the other table that changes the sum of one key. -/
theorem Agrees.change_sum {u' : Table β} {key : ℕ} {delta : ℤ} (h : Agrees val share pend t u)
    (hsum : ∀ i, u'.sum (share i) = u.sum (share i) + if key = i then delta else 0) :
    Agrees val share (bump pend key (-delta)) t u' := by
  intro r hr
  rw [hsum, h r hr]
  unfold bump
  by_cases hk : key = Keyed.id r
  · rw [if_pos hk, if_pos hk.symm]
    ring
  · rw [if_neg hk, if_neg (Ne.symm hk)]
    ring

end Cached
