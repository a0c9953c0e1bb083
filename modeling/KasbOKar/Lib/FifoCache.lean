import Mathlib.Data.List.DropRight
import KasbOKar.Lib.Transcript

/-!
# Bounded caches that forget the oldest key

A key that is in the cache is a hit and leaves the cache as it is; any other one is a miss, goes to the
end, and pushes the first one out when there is no room.  After any visits the cache is exactly the last
`capacity` misses (`state_eq`), so a visit is a hit if and only if its key is one of them (`hit_iff`), and
two misses of one key are at least `capacity` misses of other keys apart (`misses_between`).
-/

namespace FifoCache

variable {κ : Type*} [DecidableEq κ] (capacity : ℕ)

/-- A visit: the cache after it, and whether it was a hit. -/
def visit (cache : List κ) (key : κ) : List κ × Bool :=
  if key ∈ cache then (cache, true)
  else if capacity < (cache ++ [key]).length then ((cache ++ [key]).tail, false)
  else (cache ++ [key], false)

/-- The keys of the misses. -/
def misses (log : List (κ × Bool)) : List κ := (log.filter fun e => !e.2).map Prod.fst

variable {capacity} {log log' : List (κ × Bool)}

omit [DecidableEq κ] in
theorem misses_append : misses (log ++ log') = misses log ++ misses log' := by
  unfold misses
  rw [List.filter_append, List.map_append]

theorem visit_of_mem {cache : List κ} {key : κ} (h : key ∈ cache) :
    visit capacity cache key = (cache, true) := if_pos h

/-- A miss, when the cache holds the last misses: so it does afterwards. -/
theorem visit_of_notMem {misses : List κ} {key : κ}
    (h : key ∉ misses.rtake capacity) :
    visit capacity (misses.rtake capacity) key = ((misses ++ [key]).rtake capacity, false) := by
  unfold visit
  rw [if_neg h]
  unfold List.rtake
  have hlen : (misses.drop (misses.length - capacity) ++ [key]).length =
      min misses.length capacity + 1 := by
    rw [List.length_append, List.length_drop, List.length_singleton]
    omega
  split_ifs with hfull
  · -- the cache was full: the first of the last `capacity` misses goes
    rw [hlen] at hfull
    have hdrop : (misses ++ [key]).length - capacity = misses.length - capacity + 1 := by
      rw [List.length_append, List.length_singleton]
      omega
    rw [hdrop, ← List.drop_drop, List.drop_one, List.drop_append_of_le_length (by omega)]
  · rw [hlen] at hfull
    have hroom : misses.length - capacity = 0 := by omega
    have hroom' : (misses ++ [key]).length - capacity = 0 := by
      rw [List.length_append, List.length_singleton]
      omega
    rw [hroom, hroom', List.drop_zero, List.drop_zero]

/-- The cache holds the last misses. -/
theorem state_eq (keys : List κ) :
    Transcript.state (visit capacity) [] keys =
      (misses (Transcript.log (visit capacity) [] keys)).rtake capacity := by
  induction keys using List.reverseRecOn with
  | nil => exact (List.rtake_nil _).symm
  | append_singleton keys key ih =>
    rw [Transcript.state_snoc, Transcript.log_snoc, misses_append, ih]
    by_cases hmem : key ∈ (misses (Transcript.log (visit capacity) [] keys)).rtake capacity
    · rw [visit_of_mem hmem]
      unfold misses
      rw [List.filter_cons_of_neg (by simp), List.filter_nil, List.map_nil, List.append_nil]
    · rw [visit_of_notMem hmem]
      unfold misses
      rw [List.filter_cons_of_pos (by simp), List.filter_nil]
      rfl

theorem length_state_le (keys : List κ) :
    (Transcript.state (visit capacity) [] keys).length ≤ capacity := by
  rw [state_eq]
  unfold List.rtake
  rw [List.length_drop]
  omega

theorem nodup_visit {cache : List κ} (h : cache.Nodup) (key : κ) :
    (visit capacity cache key).1.Nodup := by
  unfold visit
  split_ifs with hmem hfull
  · exact h
  · rw [← List.concat_eq_append]
    exact (h.concat hmem).sublist (List.tail_sublist _)
  · rw [← List.concat_eq_append]
    exact h.concat hmem

theorem nodup_state (keys : List κ) : (Transcript.state (visit capacity) [] keys).Nodup := by
  induction keys using List.reverseRecOn with
  | nil => exact List.nodup_nil
  | append_singleton keys key ih =>
    rw [Transcript.state_snoc]
    exact nodup_visit ih key

/-- A visit is a hit exactly if its key is one of the last misses. -/
theorem hit_iff {keys : List κ} {before after : List (κ × Bool)} {key : κ}
    {hit : Bool} (h : Transcript.log (visit capacity) [] keys = before ++ (key, hit) :: after) :
    hit = true ↔ key ∈ (misses before).rtake capacity := by
  obtain ⟨keys₁, keys₂, -, rfl, rfl⟩ := Transcript.log_split h
  rw [state_eq]
  by_cases hmem : key ∈ (misses (Transcript.log (visit capacity) [] keys₁)).rtake capacity
  · rw [visit_of_mem hmem]
    exact iff_of_true rfl hmem
  · rw [visit_of_notMem hmem]
    exact iff_of_false Bool.false_ne_true hmem

omit [DecidableEq κ] in
/-- A key is among the last ones until `capacity` others have come. -/
theorem mem_rtake {left right : List κ} {key : κ} (h : right.length < capacity) :
    key ∈ (left ++ key :: right).rtake capacity := by
  unfold List.rtake
  have hle : (left ++ key :: right).length - capacity ≤ left.length := by
    rw [List.length_append, List.length_cons]
    omega
  rw [List.drop_append_of_le_length hle]
  exact List.mem_append_right _ List.mem_cons_self

omit [DecidableEq κ] in
/-- The misses before a miss. -/
theorem misses_split {log : List (κ × Bool)} {left right : List κ} {key : κ}
    (h : misses log = left ++ key :: right) :
    ∃ before after, log = before ++ (key, false) :: after ∧ misses before = left := by
  unfold misses at h
  obtain ⟨first, rest, hfilter, rfl, hrest⟩ := List.map_eq_append_iff.1 h
  obtain ⟨e, rest, rfl, rfl, -⟩ := List.map_eq_cons_iff.1 hrest
  obtain ⟨before, tail, rfl, rfl, htail⟩ := List.filter_eq_append_iff.1 hfilter
  obtain ⟨skipped, after, rfl, hskipped, he, -⟩ := List.filter_eq_cons_iff.1 htail
  obtain ⟨key, hit⟩ := e
  cases hit with
  | true => cases he
  | false =>
    refine ⟨before ++ skipped, after, by rw [List.append_assoc], ?_⟩
    unfold misses
    rw [List.filter_append, List.filter_eq_nil_iff.2 hskipped, List.append_nil]

/-- Between two misses of a key there are `capacity` misses of other keys. -/
theorem misses_between {keys left between right : List κ} {key : κ}
    (h : misses (Transcript.log (visit capacity) [] keys) = left ++ key :: between ++ key :: right) :
    capacity ≤ (between.filter fun k => k ≠ key).length := by
  -- the first of the later misses of the key
  have hmem : key ∈ between ++ [key] := List.mem_append_right _ List.mem_cons_self
  obtain ⟨others, rest, hsplit, hothers⟩ := List.eq_append_cons_of_mem hmem
  have hmisses : misses (Transcript.log (visit capacity) [] keys) =
      (left ++ key :: others) ++ key :: (rest ++ right) := by
    calc _ = left ++ key :: ((between ++ [key]) ++ right) := by rw [h]; simp
      _ = _ := by rw [hsplit]; simp
  obtain ⟨before, after, hlog, hbefore⟩ := misses_split hmisses
  have hmiss : key ∉ (misses before).rtake capacity := fun hmem =>
    Bool.false_ne_true ((hit_iff hlog).2 hmem)
  rw [hbefore] at hmiss
  have hlen : capacity ≤ others.length := not_lt.1 fun hlt => hmiss (mem_rtake hlt)
  have hpre : others <+: between := by
    refine List.prefix_of_prefix_length_le ⟨key :: rest, hsplit.symm⟩ (List.prefix_append ..) ?_
    have := congrArg List.length hsplit
    simp only [List.length_append, List.length_cons, List.length_nil] at this
    omega
  have hkept : others.filter (fun k => k ≠ key) = others :=
    List.filter_eq_self.2 fun k hk => decide_eq_true fun heq => hothers (heq ▸ hk)
  calc capacity ≤ (others.filter fun k => k ≠ key).length := by rwa [hkept]
    _ ≤ _ := (hpre.sublist.filter _).length_le

end FifoCache
