import Mathlib.Data.List.Pairwise
import Mathlib.Tactic

/-!
# Sliding windows

A limiter keeps the times at which it accepted a request.  A request first drops the stale ones from the
front of the window, and is accepted when fewer than `limit` are left.  The window forgets times, and only
from one end; `Represents` says that it forgets nothing that counts: of what was accepted, the window and
the whole history have the same times that are not stale, now and at any later time.

`accept_fst` is the exact answer that follows, and `stale_of_sublist` the bound for the whole history: of
any `limit + 1` requests that were accepted, the first is stale at the time of the last.
-/

namespace SlidingWindow

variable {τ : Type*} (stale : τ → τ → Bool) (limit : ℕ)

/-- The times that are not stale. -/
def fresh (now : τ) (times : List τ) : List τ := times.filter fun s => !stale now s

/-- The window without the stale times at its front. -/
def prune (now : τ) (window : List τ) : List τ := window.dropWhile (stale now)

/-- A request: whether it is accepted, and the window after it. -/
def accept (now : τ) (window : List τ) : Bool × List τ :=
  if limit ≤ (prune stale now window).length then (false, prune stale now window)
  else (true, prune stale now window ++ [now])

section

variable {stale} {now : τ}

theorem fresh_append (times times' : List τ) :
    fresh stale now (times ++ times') = fresh stale now times ++ fresh stale now times' :=
  List.filter_append ..

theorem fresh_of_forall {times : List τ} (h : ∀ s ∈ times, stale now s = false) :
    fresh stale now times = times := by
  refine List.filter_eq_self.2 fun s hs => ?_
  rw [h s hs]
  rfl

end

variable [Preorder τ]

/-- What is stale stays stale, and so is everything older. -/
def Ageing : Prop :=
  ∀ now now' s s', now ≤ now' → s' ≤ s → stale now s = true → stale now' s' = true

/-- The window stands for all that was accepted up to `now`. -/
structure Represents (now : τ) (accepted window : List τ) : Prop where
  sorted : window.Pairwise (· ≤ ·)
  le_now : ∀ s ∈ window, s ≤ now
  fresh_eq : ∀ t, now ≤ t → fresh stale t window = fresh stale t accepted

variable {stale limit} {now t : τ} {accepted window : List τ}

/-- In a sorted window the stale times are the ones at the front. -/
theorem prune_eq_fresh (hage : Ageing stale) (hsorted : window.Pairwise (· ≤ ·)) :
    prune stale now window = fresh stale now window := by
  induction window with
  | nil => rfl
  | cons s window ih =>
    obtain ⟨hs, hrest⟩ := List.pairwise_cons.1 hsorted
    unfold prune fresh
    rw [List.dropWhile_cons, List.filter_cons]
    by_cases hstale : stale now s = true
    · rw [if_pos hstale, if_neg (by simp [hstale])]
      exact ih hrest
    · -- the first time that is not stale: none of the later ones is
      rw [if_neg hstale, if_pos (by simp [hstale])]
      congr 1
      refine (fresh_of_forall fun s' hs' => ?_).symm
      by_contra h
      exact hstale (hage now now s' s le_rfl (hs s' hs') (by simpa using h))

/-- What is fresh later on is fresh now. -/
theorem fresh_prune (hage : Ageing stale) (hsorted : window.Pairwise (· ≤ ·)) (ht : now ≤ t) :
    fresh stale t (prune stale now window) = fresh stale t window := by
  rw [prune_eq_fresh hage hsorted]
  unfold fresh
  rw [List.filter_filter]
  refine List.filter_congr fun s _ => ?_
  by_cases hs : stale now s = true
  · rw [hage now t s s ht le_rfl hs]
    rfl
  · simp [hs]

namespace Represents

theorem nil : Represents stale now [] [] where
  sorted := List.Pairwise.nil
  le_now := nofun
  fresh_eq _ _ := rfl

theorem later (h : Represents stale now accepted window) (ht : now ≤ t) :
    Represents stale t accepted window where
  sorted := h.sorted
  le_now s hs := (h.le_now s hs).trans ht
  fresh_eq t' ht' := h.fresh_eq t' (ht.trans ht')

variable (hage : Ageing stale)
include hage

theorem prune_eq (h : Represents stale now accepted window) :
    prune stale now window = fresh stale now accepted :=
  (prune_eq_fresh hage h.sorted).trans (h.fresh_eq now le_rfl)

theorem prune (h : Represents stale now accepted window) :
    Represents stale now accepted (prune stale now window) where
  sorted := h.sorted.sublist (List.dropWhile_sublist _)
  le_now s hs := h.le_now s ((List.dropWhile_sublist _).subset hs)
  fresh_eq t ht := (fresh_prune hage h.sorted ht).trans (h.fresh_eq t ht)

/-- The answer counts all requests that were accepted and are not stale. -/
theorem accept_fst (h : Represents stale now accepted window) :
    (accept stale limit now window).1 = true ↔ (fresh stale now accepted).length < limit := by
  unfold accept
  rw [h.prune_eq hage]
  split_ifs with hfull
  · simp only [false_iff]
    omega
  · simp only [true_iff]
    omega

/-- The window stands for what was accepted, with this request if it was. -/
theorem accept_snd (h : Represents stale now accepted window) :
    Represents stale now (if (accept stale limit now window).1 then accepted ++ [now] else accepted)
      (accept stale limit now window).2 := by
  unfold accept
  have hpruned := h.prune hage
  split_ifs with hfull hfalse htrue
  · cases hfalse
  · exact hpruned
  · refine ⟨?_, ?_, fun t ht => ?_⟩
    · refine List.pairwise_append.2 ⟨hpruned.sorted, List.pairwise_singleton .., fun s hs s' hs' => ?_⟩
      rw [List.mem_singleton.1 hs']
      exact hpruned.le_now s hs
    · intro s hs
      rcases List.mem_append.1 hs with hs | hs
      · exact hpruned.le_now s hs
      · exact (List.mem_singleton.1 hs).le
    · rw [fresh_append, fresh_append, hpruned.fresh_eq t ht]
  · exact absurd rfl htrue

end Represents

/-! ## The whole history -/

/-- Each request was accepted when fewer than `limit` of those before it were fresh. -/
def Limited (stale : τ → τ → Bool) (limit : ℕ) (accepted : List τ) : Prop :=
  ∀ before s after, accepted = before ++ s :: after → (fresh stale s before).length < limit

omit [Preorder τ] in
theorem limited_nil : Limited stale limit [] := by
  intro before s after h
  cases List.append_eq_nil_iff.1 h.symm |>.2

omit [Preorder τ] in
theorem Limited.snoc (h : Limited stale limit accepted)
    (hfew : (fresh stale now accepted).length < limit) : Limited stale limit (accepted ++ [now]) := by
  intro before s after hsplit
  rcases List.eq_nil_or_concat after with rfl | ⟨after, last, rfl⟩
  · obtain ⟨rfl, hlast⟩ := List.append_inj' hsplit rfl
    cases hlast
    exact hfew
  · have hsplit' : accepted ++ [now] = (before ++ s :: after) ++ [last] := by simpa using hsplit
    exact h before s after (List.append_inj' hsplit' rfl).1

/-- Of any `limit + 1` requests that were accepted, the first is stale at the time of the last. -/
theorem stale_of_sublist (hage : Ageing stale) (hlimited : Limited stale limit accepted)
    (hsorted : accepted.Pairwise (· ≤ ·)) {first last : τ} {between : List τ}
    (hsub : (first :: between ++ [last]).Sublist accepted) (hlen : between.length + 1 = limit) :
    stale last first = true := by
  obtain ⟨left, right, rfl, hleft, hright⟩ := List.append_sublist_iff.1 hsub
  obtain ⟨before, after, rfl⟩ := List.append_of_mem (List.singleton_sublist.1 hright)
  by_contra hfresh
  -- if the first one is fresh, so are all the others before the last
  have hall : fresh stale last (first :: between) = first :: between := by
    refine fresh_of_forall fun s hs => ?_
    have hle : first ≤ s := by
      rcases List.mem_cons.1 hs with rfl | hs
      · exact le_rfl
      · have := (hsorted.sublist hsub)
        rw [List.cons_append, List.pairwise_cons] at this
        exact this.1 s (List.mem_append_left _ hs)
    by_contra hstale
    exact hfresh (hage last last s first le_rfl hle (by simpa using hstale))
  have hcount := hlimited (left ++ before) last after (by rw [List.append_assoc])
  have hfew : (fresh stale last (first :: between)).length ≤ (fresh stale last (left ++ before)).length :=
    ((hleft.trans (List.sublist_append_left _ _)).filter _).length_le
  rw [hall, List.length_cons] at hfew
  omega

end SlidingWindow
