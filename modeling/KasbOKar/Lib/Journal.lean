import Mathlib.Tactic

/-!
# Journals

A journal is the list of the events so far, oldest first.  `replay` is the state that it leads to, and it
is `Sound` if each event was allowed in the state that the events before it lead to.  A system keeps its
state in a journal, `Kept`, if the state can be read off from a sound journal; `Kept.snoc` is the step.
-/

namespace Journal

variable {ρ η : Type} (apply : ρ → η → ρ) (may : ρ → η → Prop) (init : ρ)

/-- The state that a journal leads to. -/
def replay (j : List η) : ρ := j.foldl apply init

/-- Each event was allowed when it happened. -/
def Sound (j : List η) : Prop :=
  ∀ before e after, j = before ++ e :: after → may (replay apply init before) e

/-- The state is the one that a sound journal leads to. -/
structure Kept (state : ρ) (j : List η) : Prop where
  replay_eq : replay apply init j = state
  sound : Sound apply may init j

variable {apply may init}

theorem replay_append (j j' : List η) :
    replay apply init (j ++ j') = j'.foldl apply (replay apply init j) := List.foldl_append

theorem sound_nil : Sound apply may init [] := by
  intro before e after h
  cases before <;> cases h

theorem kept_nil : Kept apply may init init [] := ⟨rfl, sound_nil⟩

/-- One more event, allowed in the state before it. -/
theorem Kept.snoc {state : ρ} {j : List η} {e : η} (h : Kept apply may init state j)
    (hmay : may state e) : Kept apply may init (apply state e) (j ++ [e]) := by
  refine ⟨?_, fun before e' after hsplit => ?_⟩
  · rw [replay_append, h.replay_eq]
    rfl
  · rcases List.eq_nil_or_concat after with rfl | ⟨after', last, rfl⟩
    · -- the last event
      obtain ⟨rfl, he⟩ := List.append_inj' hsplit rfl
      cases he
      rw [h.replay_eq]
      exact hmay
    · have hsplit' : j ++ [e] = (before ++ e' :: after') ++ [last] := by
        rw [hsplit, List.append_assoc, List.cons_append, List.concat_eq_append]
      exact h.sound before e' after' (List.append_inj' hsplit' rfl).1

end Journal
