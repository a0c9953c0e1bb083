import Mathlib.Data.List.Basic
import Mathlib.Tactic

/-!
# Transcripts

A machine that answers every input: `step s a` is its next state and the answer.  The transcript of a
list of inputs has each of them with its answer.  `log_split` reads an entry of a transcript back: the
entries before it are the transcript of the inputs before it, and the answer is the one of the machine in
the state those inputs lead to.
-/

namespace Transcript

variable {σ α β : Type*} (step : σ → α → σ × β)

/-- The state after some inputs. -/
def state (s : σ) (inputs : List α) : σ := inputs.foldl (fun s a => (step s a).1) s

/-- The inputs with their answers. -/
def log (s : σ) : List α → List (α × β)
  | [] => []
  | a :: inputs => (a, (step s a).2) :: log (step s a).1 inputs

variable {step} {s : σ}

@[simp] theorem log_nil : log step s [] = [] := rfl

@[simp] theorem state_nil : state step s [] = s := rfl

theorem log_cons (a : α) (inputs : List α) :
    log step s (a :: inputs) = (a, (step s a).2) :: log step (step s a).1 inputs := rfl

theorem state_cons (a : α) (inputs : List α) :
    state step s (a :: inputs) = state step (step s a).1 inputs := rfl

theorem state_snoc (inputs : List α) (a : α) :
    state step s (inputs ++ [a]) = (step (state step s inputs) a).1 := by
  unfold state
  rw [List.foldl_append]
  rfl

theorem log_append (inputs inputs' : List α) :
    log step s (inputs ++ inputs') = log step s inputs ++ log step (state step s inputs) inputs' := by
  induction inputs generalizing s with
  | nil => rfl
  | cons a inputs ih => rw [List.cons_append, log_cons, log_cons, state_cons, ih, List.cons_append]

theorem log_snoc (inputs : List α) (a : α) :
    log step s (inputs ++ [a]) =
      log step s inputs ++ [(a, (step (state step s inputs) a).2)] := log_append ..

@[simp] theorem log_map_fst (inputs : List α) : (log step s inputs).map Prod.fst = inputs := by
  induction inputs generalizing s with
  | nil => rfl
  | cons a inputs ih => rw [log_cons, List.map_cons, ih]

/-- What an entry of a transcript stands for. -/
theorem log_split {inputs : List α} {before after : List (α × β)} {a : α} {b : β}
    (h : log step s inputs = before ++ (a, b) :: after) :
    ∃ inputs₁ inputs₂, inputs = inputs₁ ++ a :: inputs₂ ∧ before = log step s inputs₁ ∧
      b = (step (state step s inputs₁) a).2 := by
  induction before generalizing s inputs with
  | nil =>
    cases inputs with
    | nil => cases h
    | cons a' inputs =>
      rw [log_cons, List.nil_append] at h
      obtain ⟨hentry, -⟩ := List.cons.inj h
      cases hentry
      exact ⟨[], inputs, rfl, rfl, rfl⟩
  | cons e before ih =>
    cases inputs with
    | nil => cases h
    | cons a' inputs =>
      rw [log_cons, List.cons_append] at h
      obtain ⟨rfl, htail⟩ := List.cons.inj h
      obtain ⟨inputs₁, inputs₂, rfl, rfl, rfl⟩ := ih htail
      exact ⟨a' :: inputs₁, inputs₂, rfl, rfl, rfl⟩

end Transcript
