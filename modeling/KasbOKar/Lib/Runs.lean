import Mathlib.Tactic

/-!
# Runs of a step function

`step s a = some s'` says that the action `a` is enabled in `s` and leads to `s'`.  A run is a
list of actions.  `exec_inv` is the induction behind every safety theorem: a property of the
first state that every step keeps, under a condition the steps of the run meet, holds of the
last one.  Since every prefix of a run is a run, it holds of all states in between as well.
-/

namespace Runs

variable {σ α : Type} (step : σ → α → Option σ)

/-- The state after a list of actions, if each of them is enabled when its turn comes. -/
def exec : σ → List α → Option σ
  | s, [] => some s
  | s, a :: as => (step s a).bind fun s' => exec s' as

/-- Every step of the run is taken in a state that meets `C`. -/
def Along (C : σ → α → Prop) : σ → List α → Prop
  | _, [] => True
  | s, a :: as => C s a ∧ ∀ s', step s a = some s' → Along C s' as

instance decidableAlong (C : σ → α → Prop) [∀ s a, Decidable (C s a)] :
    ∀ (as : List α) (s : σ), Decidable (Along step C s as)
  | [], _ => isTrue trivial
  | a :: as, s =>
    match h : step s a with
    | none => decidable_of_iff (C s a)
        ⟨fun hC => ⟨hC, fun _ hs => by rw [h] at hs; cases hs⟩, And.left⟩
    | some s₁ =>
      have := decidableAlong C as s₁
      decidable_of_iff (C s a ∧ Along step C s₁ as)
        ⟨fun hC => ⟨hC.1, fun _ hs => by rw [h] at hs; cases hs; exact hC.2⟩,
          fun hC => ⟨hC.1, hC.2 s₁ h⟩⟩

variable {step}

theorem exec_cons {s s' : σ} {a : α} {as : List α} (h : exec step s (a :: as) = some s') :
    ∃ s₁, step s a = some s₁ ∧ exec step s₁ as = some s' := by
  unfold exec at h
  exact Option.bind_eq_some_iff.1 h

/-- A property that every step of the run keeps holds at its end. -/
theorem exec_inv {C : σ → α → Prop} {I : σ → Prop}
    (hstep : ∀ s a s', I s → C s a → step s a = some s' → I s') :
    ∀ (as : List α) (s s' : σ), I s → Along step C s as → exec step s as = some s' → I s' := by
  intro as
  induction as with
  | nil =>
    intro s s' hI _ h
    cases h
    exact hI
  | cons a as ih =>
    intro s s' hI hC h
    obtain ⟨s₁, h₁, h₂⟩ := exec_cons h
    exact ih s₁ s' (hstep s a s₁ hI hC.1 h₁) (hC.2 s₁ h₁) h₂

/-- A condition that every action of the run meets in all states is met along it. -/
theorem along_of_mem {C : σ → α → Prop} {as : List α} (h : ∀ a ∈ as, ∀ s, C s a) :
    ∀ s : σ, Along step C s as := by
  induction as with
  | nil => intro s; trivial
  | cons a as ih =>
    intro s
    exact ⟨h a List.mem_cons_self s, fun s' _ => ih (fun a ha => h a (List.mem_cons_of_mem _ ha)) s'⟩

/-- A condition that follows from another one, in states with a property that every step keeps. -/
theorem Along.mono_of_inv {C C' : σ → α → Prop} {I : σ → Prop}
    (hstep : ∀ s a s', I s → step s a = some s' → I s') (h : ∀ s a, I s → C s a → C' s a)
    {as : List α} : ∀ {s : σ}, I s → Along step C s as → Along step C' s as := by
  induction as with
  | nil => intro s _ _; trivial
  | cons a as ih =>
    intro s hI hC
    exact ⟨h s a hI hC.1, fun s' hs => ih (hstep s a s' hI hs) (hC.2 s' hs)⟩

/-- A weaker condition is met along the run as well. -/
theorem Along.mono {C C' : σ → α → Prop} (h : ∀ s a, C s a → C' s a) {as : List α} {s : σ}
    (hC : Along step C s as) : Along step C' s as :=
  hC.mono_of_inv (I := fun _ => True) (fun _ _ _ _ _ => trivial) (fun s a _ => h s a) trivial

/-- A condition met along the run, together with one that every action of the run meets. -/
theorem Along.and_mem {C : σ → α → Prop} {D : α → Prop} {as : List α} (hD : ∀ a ∈ as, D a) :
    ∀ {s : σ}, Along step C s as → Along step (fun s a => C s a ∧ D a) s as := by
  induction as with
  | nil => intro s _; trivial
  | cons a as ih =>
    intro s h
    exact ⟨⟨h.1, hD a List.mem_cons_self⟩,
      fun s' hs => ih (fun a ha => hD a (List.mem_cons_of_mem _ ha)) (h.2 s' hs)⟩

/-- A condition that is always met is met along every run. -/
theorem along_of_forall {C : σ → α → Prop} (h : ∀ s a, C s a) (as : List α) (s : σ) :
    Along step C s as := along_of_mem (fun a _ s => h s a) s

/-- A property that every step keeps holds at the end of every run. -/
theorem exec_inv_of_step {I : σ → Prop} (hstep : ∀ s a s', I s → step s a = some s' → I s')
    (as : List α) (s s' : σ) (h : I s) (hrun : exec step s as = some s') : I s' :=
  exec_inv (C := fun _ _ => True) (fun s a s' hI _ hs => hstep s a s' hI hs) as s s' h
    (along_of_forall (fun _ _ => trivial) as s) hrun

/-- A property holds in all states of a run. -/
def Always (step : σ → α → Option σ) (I : σ → Prop) (s : σ) (as : List α) : Prop :=
  ∀ before after s', as = before ++ after → exec step s before = some s' → I s'

/-- A property that a step keeps exactly under a condition, as far as it holds, holds in all states of a
run if and only if the condition is met along it. -/
theorem always_iff {C : σ → α → Prop} {D : α → Prop} {I : σ → Prop}
    (hstep : ∀ s a s', I s → D a → step s a = some s' → (I s' ↔ C s a)) :
    ∀ (as : List α) (s s' : σ), I s → (∀ a ∈ as, D a) → exec step s as = some s' →
      (Always step I s as ↔ Along step C s as) := by
  intro as
  induction as with
  | nil =>
    intro s s' hI _ _
    refine ⟨fun _ => trivial, fun _ before after s₁ hsplit hs₁ => ?_⟩
    obtain ⟨rfl, rfl⟩ := List.append_eq_nil_iff.1 hsplit.symm
    cases hs₁
    exact hI
  | cons a as ih =>
    intro s s' hI hD h
    obtain ⟨s₁, h₁, h₂⟩ := exec_cons h
    have hfirst : exec step s [a] = some s₁ := by
      unfold exec
      rw [h₁]
      rfl
    have hiff := hstep s a s₁ hI (hD a List.mem_cons_self) h₁
    have hrest := fun hI₁ => ih s₁ s' hI₁ (fun b hb => hD b (List.mem_cons_of_mem _ hb)) h₂
    constructor
    · intro hall
      have hI₁ : I s₁ := hall [a] as s₁ rfl hfirst
      refine ⟨hiff.1 hI₁, fun s₂ hs₂ => ?_⟩
      rw [h₁] at hs₂
      cases hs₂
      refine (hrest hI₁).1 fun before after s₂ hsplit hs₂ => ?_
      refine hall (a :: before) after s₂ (by rw [hsplit]; rfl) ?_
      unfold exec
      rw [h₁, Option.bind_some]
      exact hs₂
    · rintro ⟨hC, hA⟩ before after s₂ hsplit hs₂
      cases before with
      | nil =>
        cases hs₂
        exact hI
      | cons b before =>
        obtain ⟨rfl, htail⟩ := List.cons.inj hsplit
        obtain ⟨s₃, h₃, h₄⟩ := exec_cons hs₂
        rw [h₁] at h₃
        cases h₃
        exact (hrest (hiff.2 hC)).2 (hA s₁ h₁) before after s₂ htail h₄

/-! ## Histories -/

theorem exec_append (bs : List α) : ∀ (as : List α) (s : σ),
    exec step s (as ++ bs) = (exec step s as).bind fun s' => exec step s' bs := by
  intro as
  induction as with
  | nil => intro s; rfl
  | cons a as ih =>
    intro s
    change (step s a).bind (fun s' => exec step s' (as ++ bs)) =
      ((step s a).bind fun s' => exec step s' as).bind fun s' => exec step s' bs
    rw [Option.bind_assoc]
    exact congrArg (Option.bind (step s a)) (funext ih)

/-- A run of runs is one run. -/
theorem exec_flatten (runs : List (List α)) : ∀ s : σ,
    exec (fun s as => exec step s as) s runs = exec step s runs.flatten := by
  induction runs with
  | nil => intro s; rfl
  | cons as runs ih =>
    intro s
    rw [List.flatten_cons, exec_append]
    exact congrArg (Option.bind (exec step s as)) (funext ih)

theorem along_append {C : σ → α → Prop} {bs : List α} : ∀ {as : List α} {s s' : σ},
    Along step C s (as ++ bs) → exec step s as = some s' → Along step C s as ∧ Along step C s' bs := by
  intro as
  induction as with
  | nil =>
    intro s s' h hs
    cases hs
    exact ⟨trivial, h⟩
  | cons a as ih =>
    intro s s' h hs
    obtain ⟨s₁, h₁, h₂⟩ := exec_cons hs
    refine ⟨⟨h.1, fun s₂ h₂' => ?_⟩, (ih (h.2 s₁ h₁) h₂).2⟩
    rw [h₁] at h₂'
    cases h₂'
    exact (ih (h.2 s₁ h₁) h₂).1

theorem exec_snoc {s s' : σ} {as : List α} {a : α} (h : exec step s (as ++ [a]) = some s') :
    ∃ s₁, exec step s as = some s₁ ∧ step s₁ a = some s' := by
  rw [exec_append] at h
  obtain ⟨s₁, h₁, h₂⟩ := Option.bind_eq_some_iff.1 h
  obtain ⟨s₂, h₂, h₃⟩ := exec_cons h₂
  cases h₃
  exact ⟨s₁, h₁, h₂⟩

/-- A condition met along a run is met at every point that the run gets to. -/
theorem along_iff {C : σ → α → Prop} : ∀ {as : List α} {s : σ}, Along step C s as ↔
    ∀ before a after s', as = before ++ a :: after → exec step s before = some s' → C s' a := by
  intro as
  induction as with
  | nil =>
    intro s
    refine ⟨fun _ before a after s' h => ?_, fun _ => trivial⟩
    cases before <;> cases h
  | cons a as ih =>
    intro s
    constructor
    · rintro ⟨hC, hrest⟩ before b after s' h hs
      cases before with
      | nil =>
        cases h
        cases hs
        exact hC
      | cons c before =>
        cases h
        obtain ⟨s₁, h₁, h₂⟩ := exec_cons hs
        exact ih.1 (hrest s₁ h₁) before b after s' rfl h₂
    · intro h
      refine ⟨h [] a as s rfl rfl, fun s₁ h₁ => ih.2 fun before b after s' hsplit hs => ?_⟩
      refine h (a :: before) b after s' (by rw [hsplit]; rfl) ?_
      unfold exec
      rw [h₁, Option.bind_some]
      exact hs

/-- A property of the actions so far and the state they lead to. -/
theorem exec_history {C : σ → α → Prop} {s₀ : σ} {I : List α → σ → Prop} (h₀ : I [] s₀)
    (hstep : ∀ as s a s', exec step s₀ as = some s → I as s → C s a → step s a = some s' →
      I (as ++ [a]) s') :
    ∀ (as : List α) (s : σ), Along step C s₀ as → exec step s₀ as = some s → I as s := by
  intro as
  induction as using List.reverseRecOn with
  | nil =>
    intro s _ h
    cases h
    exact h₀
  | append_singleton as a ih =>
    intro s hC h
    obtain ⟨s₁, h₁, h₂⟩ := exec_snoc h
    obtain ⟨hCas, hCa⟩ := along_append hC h₁
    exact hstep as s₁ a s h₁ (ih s₁ hCas h₁) hCa.1 h₂

end Runs
