import KasbOKar.Lib.Runs

/-!
# What has held in a run

`Since step Q s₀ as P` says that `P` held at some moment of the run `as` from `s₀`, and that all actions from
then on meet `Q`.  It is kept by every further action that meets `Q` (`Since.snoc`), so an invariant may
remember what was seen earlier without a record of it in the state.
-/

namespace Runs

variable {σ α : Type}

/-- `P` has held at some moment of the run, and only actions with `Q` have followed. -/
def Since (step : σ → α → Option σ) (Q : α → Prop) (s₀ : σ) (as : List α) (P : σ → Prop) : Prop :=
  ∃ before after s, as = before ++ after ∧ exec step s₀ before = some s ∧ P s ∧ ∀ a ∈ after, Q a

variable {step : σ → α → Option σ} {Q : α → Prop} {s₀ : σ} {as : List α} {P P' : σ → Prop}

theorem since_now {s : σ} (hrun : exec step s₀ as = some s) (h : P s) : Since step Q s₀ as P :=
  ⟨as, [], s, (List.append_nil as).symm, hrun, h, fun _ ha => absurd ha List.not_mem_nil⟩

theorem Since.snoc (h : Since step Q s₀ as P) {a : α} (ha : Q a) : Since step Q s₀ (as ++ [a]) P := by
  obtain ⟨before, after, s, rfl, hs, hP, hafter⟩ := h
  refine ⟨before, after ++ [a], s, List.append_assoc _ _ _, hs, hP, fun b hb => ?_⟩
  rcases List.mem_append.1 hb with hb | hb
  · exact hafter b hb
  · rwa [List.mem_singleton.1 hb]

theorem Since.mono (h : Since step Q s₀ as P) (hP : ∀ s, P s → P' s) : Since step Q s₀ as P' := by
  obtain ⟨before, after, s, heq, hs, hPs, hafter⟩ := h
  exact ⟨before, after, s, heq, hs, hP s hPs, hafter⟩

end Runs
