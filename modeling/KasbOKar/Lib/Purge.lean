import KasbOKar.Lib.Runs

/-!
# Actions without influence

Some actions of a system are to have no influence on what can be seen of it.  `view` is what can be seen,
and `silent` says which actions these are.  If no silent action of a run changes the view, and the view
decides what every other action does to it, then the run without its silent actions leads to the same view
(`exec_purge`).
-/

namespace Runs

variable {σ α β : Type} {step : σ → α → Option σ} {silent : α → Bool} {view : σ → β}

/-- The view decides what an action that is not silent does to it. -/
def Respects (step : σ → α → Option σ) (silent : α → Bool) (view : σ → β) : Prop :=
  ∀ s t a s', silent a = false → view s = view t → step s a = some s' →
    ∃ t', step t a = some t' ∧ view s' = view t'

/-- A silent action does not change the view. -/
def Unseen (step : σ → α → Option σ) (silent : α → Bool) (view : σ → β) (s : σ) (a : α) : Prop :=
  silent a = true → ∀ s', step s a = some s' → view s' = view s

/-- The run without its silent actions. -/
theorem exec_purge (hrespects : Respects step silent view) {as : List α} : ∀ {s t s' : σ},
    view s = view t → Along step (Unseen step silent view) s as → exec step s as = some s' →
      ∃ t', exec step t (as.filter fun a => !silent a) = some t' ∧ view s' = view t' := by
  induction as with
  | nil =>
    intro s t s' hview _ h
    cases h
    exact ⟨t, rfl, hview⟩
  | cons a as ih =>
    intro s t s' hview halong h
    obtain ⟨s₁, hs₁, hrest⟩ := exec_cons h
    cases hsilent : silent a with
    | true =>
      rw [List.filter_cons_of_neg (by simp [hsilent])]
      exact ih ((halong.1 hsilent s₁ hs₁).trans hview) (halong.2 s₁ hs₁) hrest
    | false =>
      obtain ⟨t₁, ht₁, hview₁⟩ := hrespects s t a s₁ hsilent hview hs₁
      obtain ⟨t', ht', hview'⟩ := ih hview₁ (halong.2 s₁ hs₁) hrest
      refine ⟨t', ?_, hview'⟩
      rw [List.filter_cons_of_pos (by simp [hsilent])]
      unfold exec
      rw [ht₁, Option.bind_some]
      exact ht'

end Runs
