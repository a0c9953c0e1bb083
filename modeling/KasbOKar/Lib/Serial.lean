import KasbOKar.Lib.Table

/-!
# Tables whose rows are deleted

`Serial` puts the sequence of the primary key beside a table: `last` is the last key that was given out,
and no row has a later one.  A key is not given out twice, also after its row is deleted.
-/

/-- A table and the sequence of its keys. -/
structure Serial (α : Type) [Keyed α] where
  table : Table α
  last : ℕ
  le_last : ∀ r ∈ table.rows, Keyed.id r ≤ last

namespace Serial

variable {α : Type} [Keyed α]

/-- No row, and no key given out. -/
def empty : Serial α := ⟨.empty, 0, fun _ h => absurd h List.not_mem_nil⟩

def rows (t : Serial α) : List α := t.table.rows

/-- The row with primary key `i`. -/
def find? (t : Serial α) (i : ℕ) : Option α := t.table.find? i

theorem succ_last_notMem (t : Serial α) : t.last + 1 ∉ t.table.ids := by
  intro h
  obtain ⟨r, hr, hid⟩ := Table.mem_ids.1 h
  have := t.le_last r hr
  omega

/-- `INSERT`: the row is made for the next key. -/
def add (t : Serial α) (make : ℕ → α) (hmake : ∀ n, Keyed.id (make n) = n := by intro _; rfl) :
    Serial α where
  table := t.table.insert (make (t.last + 1))
  last := t.last + 1
  le_last r hr := by
    rcases (Table.mem_insert (hmake _ ▸ t.succ_last_notMem)).1 hr with hr | rfl
    · exact (t.le_last r hr).trans (Nat.le_succ _)
    · exact (hmake _).le

/-- `DELETE … WHERE id = i`. -/
def delete (t : Serial α) (i : ℕ) : Serial α where
  table := ⟨t.table.rows.filter fun r => Keyed.id r != i,
    t.table.nodup.sublist (List.filter_sublist.map _)⟩
  last := t.last
  le_last r hr := t.le_last r (List.mem_of_mem_filter hr)

/-- `UPDATE … WHERE id = i`. -/
def modify (t : Serial α) (i : ℕ) (f : α → α)
    (hf : ∀ r, Keyed.id (f r) = Keyed.id r := by intro _; rfl) : Serial α where
  table := t.table.modify i f hf
  last := t.last
  le_last r hr := by
    obtain ⟨hr, -⟩ | ⟨s, hs, -, rfl⟩ := Table.mem_modify_cases hf hr
    · exact t.le_last r hr
    · exact (hf s).trans_le (t.le_last s hs)

theorem rows_add (t : Serial α) (make : ℕ → α) (hmake : ∀ n, Keyed.id (make n) = n) :
    (t.add make hmake).rows = t.rows ++ [make (t.last + 1)] :=
  Table.insert_rows (hmake _ ▸ t.succ_last_notMem)

theorem rows_delete (t : Serial α) (i : ℕ) :
    (t.delete i).rows = t.rows.filter fun r => Keyed.id r != i := rfl

theorem rows_modify (t : Serial α) (i : ℕ) {f : α → α} (hf : ∀ r, Keyed.id (f r) = Keyed.id r) :
    (t.modify i f hf).rows = t.rows.map fun r => if Keyed.id r = i then f r else r := rfl

theorem find?_eq_some_iff {t : Serial α} {i : ℕ} {r : α} :
    t.find? i = some r ↔ r ∈ t.rows ∧ Keyed.id r = i := Table.find?_eq_some_iff

theorem mem_add {t : Serial α} {make : ℕ → α} {hmake : ∀ n, Keyed.id (make n) = n} {r : α} :
    r ∈ (t.add make hmake).rows ↔ r ∈ t.rows ∨ r = make (t.last + 1) := by
  rw [rows_add, List.mem_append, List.mem_singleton]

theorem mem_delete {t : Serial α} {i : ℕ} {r : α} :
    r ∈ (t.delete i).rows ↔ r ∈ t.rows ∧ Keyed.id r ≠ i := by
  rw [rows_delete, List.mem_filter, bne_iff_ne]

theorem mem_modify_cases {t : Serial α} {i : ℕ} {f : α → α} {hf : ∀ r, Keyed.id (f r) = Keyed.id r} {r : α}
    (h : r ∈ (t.modify i f hf).rows) :
    (r ∈ t.rows ∧ Keyed.id r ≠ i) ∨ ∃ s ∈ t.rows, Keyed.id s = i ∧ r = f s := Table.mem_modify_cases hf h

/-- A property of all rows survives a change of one row that keeps it. -/
theorem forall_modify {t : Serial α} {i : ℕ} {f : α → α} {hf : ∀ r, Keyed.id (f r) = Keyed.id r}
    {P : α → Prop} (h : ∀ r ∈ t.rows, P r) (hP : ∀ r, P r → P (f r)) :
    ∀ r ∈ (t.modify i f hf).rows, P r := by
  intro r hr
  obtain ⟨hr, -⟩ | ⟨s, hs, -, rfl⟩ := mem_modify_cases hr
  · exact h r hr
  · exact hP s (h s hs)

/-- Other values of the changed row stay as they are. -/
theorem map_modify {β : Type} {t : Serial α} {i : ℕ} {f : α → α}
    {hf : ∀ r, Keyed.id (f r) = Keyed.id r} {g : α → β} (hg : ∀ r, g (f r) = g r) :
    (t.modify i f hf).rows.map g = t.rows.map g := by
  rw [rows_modify, List.map_map]
  refine List.map_congr_left fun r _ => ?_
  show g (if Keyed.id r = i then f r else r) = g r
  split_ifs
  · exact hg r
  · rfl

end Serial
