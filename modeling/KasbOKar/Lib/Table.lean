import Mathlib.Algebra.BigOperators.Group.List.Basic
import Mathlib.Data.List.Sort
import Mathlib.Tactic

/-!
# Tables of rows with an integer primary key

A `Table α` is a finite list of rows whose keys are pairwise distinct; the distinctness is a
field, so every table that can be written down is one a database could hold.  The two facts the
accounting proofs rest on are `sum_insert` and `sum_modify`: how a sum over all rows moves when
one row is added or changed.
-/

/-- A row type with an integer primary key. -/
class Keyed (α : Type) where
  id : α → ℕ

/-- A table: rows with pairwise distinct primary keys. -/
structure Table (α : Type) [Keyed α] where
  rows : List α
  nodup : (rows.map Keyed.id).Nodup

namespace Table

variable {α : Type} [Keyed α]

/-- The table without rows. -/
def empty : Table α := ⟨[], List.nodup_nil⟩

/-- The primary keys in use. -/
def ids (t : Table α) : List ℕ := t.rows.map Keyed.id

/-- The row with primary key `i`. -/
def find? (t : Table α) (i : ℕ) : Option α := t.rows.find? fun r => Keyed.id r == i

/-- A key larger than every key in use, as a serial column assigns it. -/
def nextId (t : Table α) : ℕ := t.ids.foldr max 0 + 1

/-- `INSERT`: the row is appended; a row whose key is taken is refused. -/
def insert (t : Table α) (r : α) : Table α :=
  if h : Keyed.id r ∈ t.ids then t
  else ⟨t.rows ++ [r], by
    rw [List.map_append, List.map_singleton]
    exact List.nodup_append.2 ⟨t.nodup, List.nodup_singleton _, fun a ha b hb => by
      rw [List.mem_singleton] at hb
      rintro rfl
      exact h (hb ▸ ha)⟩⟩

/-- `UPDATE … WHERE id = i`: the row with key `i` is replaced by its image under `f`, which
keeps the key. -/
def modify (t : Table α) (i : ℕ) (f : α → α)
    (hf : ∀ r, Keyed.id (f r) = Keyed.id r := by intro _; rfl) : Table α :=
  ⟨t.rows.map fun r => if Keyed.id r = i then f r else r, by
    have h : (t.rows.map fun r => if Keyed.id r = i then f r else r).map Keyed.id =
        t.rows.map Keyed.id := by
      rw [List.map_map]
      refine List.map_congr_left fun r _ => ?_
      show Keyed.id (if Keyed.id r = i then f r else r) = Keyed.id r
      split_ifs
      · exact hf r
      · rfl
    rw [h]
    exact t.nodup⟩

/-- The sum of `g` over all rows. -/
def sum (t : Table α) (g : α → ℤ) : ℤ := (t.rows.map g).sum

/-! ## Looking up a row -/

theorem mem_ids {t : Table α} {i : ℕ} : i ∈ t.ids ↔ ∃ r ∈ t.rows, Keyed.id r = i := by
  unfold ids; rw [List.mem_map]

theorem id_mem_ids {t : Table α} {r : α} (h : r ∈ t.rows) : Keyed.id r ∈ t.ids :=
  List.mem_map_of_mem h

theorem eq_of_id_eq {t : Table α} {r s : α} (hr : r ∈ t.rows) (hs : s ∈ t.rows)
    (h : Keyed.id r = Keyed.id s) : r = s :=
  List.inj_on_of_nodup_map t.nodup hr hs h

theorem mem_of_find? {t : Table α} {i : ℕ} {r : α} (h : t.find? i = some r) : r ∈ t.rows :=
  List.mem_of_find?_eq_some h

theorem id_of_find? {t : Table α} {i : ℕ} {r : α} (h : t.find? i = some r) : Keyed.id r = i := by
  have := List.find?_some h
  simpa using this

theorem find?_of_mem {t : Table α} {r : α} (h : r ∈ t.rows) : t.find? (Keyed.id r) = some r := by
  obtain ⟨s, hs⟩ : ∃ s, t.find? (Keyed.id r) = some s := by
    rw [← Option.isSome_iff_exists]
    unfold find?
    rw [List.find?_isSome]
    exact ⟨r, h, by simp⟩
  rw [hs, eq_of_id_eq h (mem_of_find? hs) (id_of_find? hs).symm]

theorem find?_eq_some_iff {t : Table α} {i : ℕ} {r : α} :
    t.find? i = some r ↔ r ∈ t.rows ∧ Keyed.id r = i := by
  constructor
  · intro h
    exact ⟨mem_of_find? h, id_of_find? h⟩
  · rintro ⟨hr, rfl⟩
    exact find?_of_mem hr

theorem exists_find? {t : Table α} {i : ℕ} (h : i ∈ t.ids) : ∃ r, t.find? i = some r := by
  obtain ⟨r, hr, hi⟩ := mem_ids.1 h
  exact ⟨r, find?_eq_some_iff.2 ⟨hr, hi⟩⟩

theorem find?_eq_none_iff {t : Table α} {i : ℕ} : t.find? i = none ↔ i ∉ t.ids := by
  unfold find? ids
  rw [List.find?_eq_none, List.mem_map]
  constructor
  · rintro h ⟨r, hr, rfl⟩
    exact h r hr (by simp)
  · intro h r hr hi
    exact h ⟨r, hr, by simpa using hi⟩

theorem le_foldr_max {l : List ℕ} {i : ℕ} (h : i ∈ l) : i ≤ l.foldr max 0 := by
  induction l with
  | nil => cases h
  | cons a l ih =>
    rw [List.foldr_cons]
    rcases List.mem_cons.1 h with rfl | h
    · exact le_max_left _ _
    · exact (ih h).trans (le_max_right _ _)

theorem nextId_notMem (t : Table α) : t.nextId ∉ t.ids := by
  intro h
  have := le_foldr_max h
  unfold nextId at this
  omega

/-! ## Inserting a row -/

theorem insert_rows {t : Table α} {r : α} (h : Keyed.id r ∉ t.ids) :
    (t.insert r).rows = t.rows ++ [r] := by
  unfold insert; rw [dif_neg h]

theorem mem_insert {t : Table α} {r s : α} (h : Keyed.id r ∉ t.ids) :
    s ∈ (t.insert r).rows ↔ s ∈ t.rows ∨ s = r := by
  rw [insert_rows h, List.mem_append, List.mem_singleton]

theorem mem_insert_of_mem {t : Table α} {r s : α} (h : s ∈ t.rows) : s ∈ (t.insert r).rows := by
  unfold insert
  split_ifs
  · exact h
  · exact List.mem_append_left _ h

theorem sum_insert {t : Table α} {r : α} (h : Keyed.id r ∉ t.ids) (g : α → ℤ) :
    (t.insert r).sum g = t.sum g + g r := by
  unfold sum
  rw [insert_rows h, List.map_append, List.sum_append, List.map_singleton, List.sum_singleton]

theorem find?_insert_self {t : Table α} {r : α} (h : Keyed.id r ∉ t.ids) :
    (t.insert r).find? (Keyed.id r) = some r :=
  find?_of_mem ((mem_insert h).2 (Or.inr rfl))

theorem find?_insert_of_ne {t : Table α} {r : α} {i : ℕ} (h : i ≠ Keyed.id r) :
    (t.insert r).find? i = t.find? i := by
  unfold insert
  split_ifs
  · rfl
  · unfold find?
    rw [List.find?_append]
    have hr : ([r].find? fun s => Keyed.id s == i) = none := by
      rw [List.find?_singleton, if_neg (by simpa using h.symm)]
    rw [hr, Option.or_none]

theorem find?_insert (t : Table α) (r : α) (i : ℕ) :
    (t.insert r).find? i = if i = Keyed.id r then some ((t.find? i).getD r) else t.find? i := by
  by_cases h : i = Keyed.id r
  · subst h
    rw [if_pos rfl]
    cases hr : t.find? (Keyed.id r) with
    | none => rw [find?_insert_self (find?_eq_none_iff.1 hr), Option.getD_none]
    | some s =>
      have hmem : Keyed.id r ∈ t.ids := mem_ids.2 ⟨s, find?_eq_some_iff.1 hr⟩
      unfold insert
      rw [dif_pos hmem, hr, Option.getD_some]
  · rw [if_neg h, find?_insert_of_ne h]

/-! ## Changing a row -/

section Modify

variable {t : Table α} {i : ℕ} {f : α → α} (hf : ∀ r, Keyed.id (f r) = Keyed.id r)

theorem mem_modify {s : α} :
    s ∈ (t.modify i f hf).rows ↔ ∃ r ∈ t.rows, (if Keyed.id r = i then f r else r) = s := by
  unfold modify; rw [List.mem_map]

theorem mem_modify_cases {s : α} (h : s ∈ (t.modify i f hf).rows) :
    (s ∈ t.rows ∧ Keyed.id s ≠ i) ∨ ∃ r ∈ t.rows, Keyed.id r = i ∧ s = f r := by
  obtain ⟨r, hr, hs⟩ := (mem_modify hf).1 h
  by_cases hi : Keyed.id r = i
  · rw [if_pos hi] at hs
    exact Or.inr ⟨r, hr, hi, hs.symm⟩
  · rw [if_neg hi] at hs
    subst hs
    exact Or.inl ⟨hr, hi⟩

theorem mem_modify_of_ne {s : α} (hs : s ∈ t.rows) (hi : Keyed.id s ≠ i) :
    s ∈ (t.modify i f hf).rows :=
  (mem_modify hf).2 ⟨s, hs, if_neg hi⟩

theorem mem_modify_self {s : α} (hs : s ∈ t.rows) (hi : Keyed.id s = i) :
    f s ∈ (t.modify i f hf).rows :=
  (mem_modify hf).2 ⟨s, hs, if_pos hi⟩

/-- A column that does not see the change is unchanged. -/
theorem map_modify_of_eq {β : Type} {g : α → β} (h : ∀ r, g (f r) = g r) :
    (t.modify i f hf).rows.map g = t.rows.map g := by
  unfold modify
  rw [List.map_map]
  refine List.map_congr_left fun r _ => ?_
  show g (if Keyed.id r = i then f r else r) = g r
  split_ifs
  · exact h r
  · rfl

@[simp] theorem ids_modify : (t.modify i f hf).ids = t.ids := map_modify_of_eq hf hf

theorem find?_modify_self {r : α} (h : t.find? i = some r) :
    (t.modify i f hf).find? i = some (f r) := by
  obtain ⟨hr, hi⟩ := find?_eq_some_iff.1 h
  exact find?_eq_some_iff.2 ⟨mem_modify_self hf hr hi, (hf r).trans hi⟩

theorem find?_modify_of_ne {j : ℕ} (h : j ≠ i) : (t.modify i f hf).find? j = t.find? j := by
  cases hj : t.find? j with
  | none =>
    rw [find?_eq_none_iff] at hj ⊢
    rwa [ids_modify]
  | some r =>
    obtain ⟨hr, rfl⟩ := find?_eq_some_iff.1 hj
    exact find?_eq_some_iff.2 ⟨mem_modify_of_ne hf hr h, rfl⟩

theorem find?_modify (j : ℕ) :
    (t.modify i f hf).find? j = if j = i then (t.find? j).map f else t.find? j := by
  by_cases h : j = i
  · subst h
    rw [if_pos rfl]
    cases hj : t.find? j with
    | none =>
      rw [find?_eq_none_iff] at hj
      rw [Option.map_none, find?_eq_none_iff, ids_modify]
      exact hj
    | some r => rw [find?_modify_self hf hj, Option.map_some]
  · rw [if_neg h, find?_modify_of_ne hf h]

/-- The rows before and after the one with key `i`. -/
theorem exists_split {r : α} (h : t.find? i = some r) :
    ∃ l₁ l₂, t.rows = l₁ ++ r :: l₂ ∧ (∀ s ∈ l₁, Keyed.id s ≠ i) ∧ ∀ s ∈ l₂, Keyed.id s ≠ i := by
  obtain ⟨hr, hi⟩ := find?_eq_some_iff.1 h
  obtain ⟨l₁, l₂, hl⟩ := List.append_of_mem hr
  have hn := t.nodup
  rw [hl, List.map_append, List.map_cons, List.nodup_append, List.nodup_cons] at hn
  obtain ⟨-, ⟨hn2, -⟩, hn1⟩ := hn
  refine ⟨l₁, l₂, hl, fun s hs e => ?_, fun s hs e => ?_⟩
  · exact hn1 _ (List.mem_map_of_mem hs) _ List.mem_cons_self (e.trans hi.symm)
  · exact hn2 (List.mem_map.2 ⟨s, hs, e.trans hi.symm⟩)

/-- The rows before and behind the one that is changed stay as they are. -/
theorem modify_split {r : α} (h : t.find? i = some r) :
    ∃ l₁ l₂, t.rows = l₁ ++ r :: l₂ ∧ (t.modify i f hf).rows = l₁ ++ f r :: l₂ := by
  obtain ⟨l₁, l₂, hl, h₁, h₂⟩ := exists_split h
  have hkeep : ∀ l : List α, (∀ s ∈ l, Keyed.id s ≠ i) →
      (l.map fun r => if Keyed.id r = i then f r else r) = l := by
    intro l hl'
    conv_rhs => rw [← List.map_id l]
    exact List.map_congr_left fun s hs => if_neg (hl' s hs)
  refine ⟨l₁, l₂, hl, ?_⟩
  unfold modify
  simp only [hl, List.map_append, List.map_cons, hkeep l₁ h₁, hkeep l₂ h₂, if_pos (id_of_find? h)]

/-- Changing one row moves a sum by the difference of its two values. -/
theorem sum_modify {r : α} (h : t.find? i = some r) (g : α → ℤ) :
    (t.modify i f hf).sum g = t.sum g + (g (f r) - g r) := by
  obtain ⟨l₁, l₂, hl, hl'⟩ := modify_split hf h
  unfold sum
  rw [hl', hl]
  simp only [List.map_append, List.map_cons, List.sum_append, List.sum_cons]
  ring

/-- Only what happens to the row matters. -/
theorem modify_congr {g : α → α} (hg : ∀ r, Keyed.id (g r) = Keyed.id r)
    (h : ∀ r ∈ t.rows, Keyed.id r = i → f r = g r) : t.modify i f hf = t.modify i g hg := by
  unfold modify
  simp only [mk.injEq]
  refine List.map_congr_left fun r hr => ?_
  by_cases hi : Keyed.id r = i
  · rw [if_pos hi, if_pos hi, h r hr hi]
  · rw [if_neg hi, if_neg hi]

/-- A change that has been made already. -/
theorem modify_modify (h : ∀ r, f (f r) = f r) :
    (t.modify i f hf).modify i f hf = t.modify i f hf := by
  unfold modify
  simp only [mk.injEq, List.map_map]
  refine List.map_congr_left fun r _ => ?_
  by_cases hi : Keyed.id r = i
  · simp [hi, hf, h]
  · simp [hi]

theorem sum_modify_of_eq {g : α → ℤ} (h : ∀ r, g (f r) = g r) :
    (t.modify i f hf).sum g = t.sum g := by
  unfold sum
  rw [map_modify_of_eq hf h]

end Modify

/-! ## Rows that stay -/

/-- No row is deleted, and `g` is the same of every row as before. -/
def Keeps {β : Type} (g : α → β) (t t' : Table α) : Prop :=
  ∀ i r, t.find? i = some r → ∃ r', t'.find? i = some r' ∧ g r' = g r

section Keeps

variable {β : Type} {g : α → β}

theorem Keeps.refl (t : Table α) : Keeps g t t := fun _ r h => ⟨r, h, rfl⟩

theorem Keeps.ids {t t' : Table α} (h : Keeps g t t') {i : ℕ} (hi : i ∈ t.ids) : i ∈ t'.ids := by
  obtain ⟨r, hr, hid⟩ := mem_ids.1 hi
  obtain ⟨r', hr', -⟩ := h i r (find?_eq_some_iff.2 ⟨hr, hid⟩)
  exact mem_ids.2 ⟨r', find?_eq_some_iff.1 hr'⟩

theorem keeps_insert (t : Table α) (r : α) : Keeps g t (t.insert r) := by
  intro i s hs
  refine ⟨s, ?_, rfl⟩
  rw [find?_insert, hs]
  split_ifs <;> rfl

theorem keeps_modify (t : Table α) (i : ℕ) {f : α → α} (hf : ∀ r, Keyed.id (f r) = Keyed.id r)
    (hg : ∀ r, g (f r) = g r) : Keeps g t (t.modify i f hf) := by
  intro j r hr
  rw [find?_modify, hr]
  split_ifs
  · exact ⟨f r, rfl, hg r⟩
  · exact ⟨r, rfl, rfl⟩

end Keeps

/-! ## Sums -/

theorem sum_congr {t : Table α} {g h : α → ℤ} (e : ∀ r ∈ t.rows, g r = h r) :
    t.sum g = t.sum h := by
  unfold sum
  rw [List.map_congr_left e]

theorem sum_nonneg {t : Table α} {g : α → ℤ} (h : ∀ r ∈ t.rows, 0 ≤ g r) : 0 ≤ t.sum g := by
  unfold sum
  refine List.sum_nonneg fun x hx => ?_
  obtain ⟨r, hr, rfl⟩ := List.mem_map.1 hx
  exact h r hr

/-- One row's share of a sum of non-negative terms. -/
theorem le_sum {t : Table α} {g : α → ℤ} (h : ∀ r ∈ t.rows, 0 ≤ g r) {r : α} (hr : r ∈ t.rows) :
    g r ≤ t.sum g := by
  unfold sum
  exact List.single_le_sum (fun x hx => by
    obtain ⟨s, hs, rfl⟩ := List.mem_map.1 hx
    exact h s hs) _ (List.mem_map_of_mem hr)

theorem sum_eq_zero {t : Table α} {g : α → ℤ} (h : ∀ r ∈ t.rows, g r = 0) : t.sum g = 0 := by
  rw [sum_congr h]
  unfold sum
  simp

theorem sum_sub (t : Table α) (g h : α → ℤ) :
    t.sum (fun r => g r - h r) = t.sum g - t.sum h := by
  unfold sum
  induction t.rows with
  | nil => rfl
  | cons r rows ih =>
    simp only [List.map_cons, List.sum_cons, ih]
    ring

end Table

namespace Table

variable {α : Type} [Keyed α]

/-- Two tables with the same keys in the same order, row by row. -/
theorem rows_eq_map {t t' : Table α} (h : t'.ids = t.ids) :
    t'.rows = t.rows.map fun r => (t'.find? (Keyed.id r)).getD r := by
  have hlen : t'.rows.length = t.rows.length := by
    have hlen := congrArg List.length h
    unfold ids at hlen
    rwa [List.length_map, List.length_map] at hlen
  refine List.ext_getElem (by rw [List.length_map, hlen]) fun i hi hi' => ?_
  have hi₀ : i < t.rows.length := hlen ▸ hi
  have hid : Keyed.id t'.rows[i] = Keyed.id t.rows[i] := by
    have hget := List.getElem_of_eq h (i := i) (by rwa [ids, List.length_map])
    unfold ids at hget
    rwa [List.getElem_map, List.getElem_map] at hget
  rw [List.getElem_map, ← hid, find?_of_mem (List.getElem_mem hi)]
  rfl

end Table

/-! ## Row order

A `SELECT` without `ORDER BY`, and the ties that `ORDER BY` leaves, come in an order the server
is free to choose.  A `Scan` is one such choice. -/

/-- The order in which the server happens to return the rows of one `SELECT`. -/
structure Scan (α : Type) where
  order : List α → List α
  perm : ∀ l, (order l).Perm l

/-- Rows in the order of insertion. -/
def Scan.plain {α : Type} : Scan α := ⟨fun l => l, fun _ => List.Perm.refl _⟩

instance {α : Type} : Inhabited (Scan α) := ⟨Scan.plain⟩

/-- `ORDER BY key ASC`; the order of ties is the order of the list. -/
def orderBy {α : Type} (key : α → ℤ) (l : List α) : List α :=
  l.insertionSort fun a b => key a ≤ key b

theorem orderBy_perm {α : Type} (key : α → ℤ) (l : List α) : (orderBy key l).Perm l :=
  List.perm_insertionSort _ l

namespace Table

variable {α : Type} [Keyed α]

/-- `SELECT … WHERE p`. -/
def select (t : Table α) (scan : Scan α) (p : α → Bool) : List α := scan.order (t.rows.filter p)

theorem select_perm (t : Table α) (scan : Scan α) (p : α → Bool) :
    (t.select scan p).Perm (t.rows.filter p) := scan.perm _

theorem mem_select {t : Table α} {scan : Scan α} {p : α → Bool} {r : α} :
    r ∈ t.select scan p ↔ r ∈ t.rows ∧ p r = true := by
  rw [(select_perm t scan p).mem_iff, List.mem_filter]

theorem select_nodup (t : Table α) (scan : Scan α) (p : α → Bool) :
    ((t.select scan p).map Keyed.id).Nodup := by
  rw [((select_perm t scan p).map Keyed.id).nodup_iff]
  exact t.nodup.sublist (List.filter_sublist.map _)

end Table
