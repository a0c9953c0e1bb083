import Mathlib.Tactic

/-!
# Handlers in a session

A handler is a computation that may raise; what it has done to its state by then stays.  `Ends` says in
which states it can return and in which it can raise, with one rule for each way to build a handler.

A session keeps a part of the state, the tables, in a transaction: if the handler raises, the tables are
those of its beginning, and the rest is as the handler has left it.  `session_ends` reduces a statement
about the session to `Ends`.
-/

namespace Session

variable {ε σ α β : Type}

/-- The handler returns in a state with `Q`, or raises in one with `E`. -/
def Ends (m : EStateM ε σ α) (s : σ) (Q : α → σ → Prop) (E : ε → σ → Prop) : Prop :=
  match m s with
  | .ok a s' => Q a s'
  | .error e s' => E e s'

section Rules

variable {s : σ} {Q : α → σ → Prop} {E : ε → σ → Prop}

@[simp] theorem ends_pure (a : α) : Ends (pure a) s Q E ↔ Q a s := Iff.rfl

@[simp] theorem ends_throw (e : ε) : Ends (throw e) s Q E ↔ E e s := Iff.rfl

@[simp] theorem ends_get {Q : σ → σ → Prop} : Ends get s Q E ↔ Q s s := Iff.rfl

@[simp] theorem ends_modify {Q : PUnit → σ → Prop} (f : σ → σ) :
    Ends (modify f) s Q E ↔ Q ⟨⟩ (f s) := Iff.rfl

@[simp] theorem ends_bind {m : EStateM ε σ β} {f : β → EStateM ε σ α} :
    Ends (m >>= f) s Q E ↔ Ends m s (fun b s' => Ends (f b) s' Q E) E := by
  show (match EStateM.bind m f s with | .ok a s' => Q a s' | .error e s' => E e s') ↔ _
  unfold Ends EStateM.bind
  cases m s <;> rfl

@[simp] theorem ends_ite {c : Prop} [Decidable c] {m n : EStateM ε σ α} :
    Ends (if c then m else n) s Q E ↔ (c → Ends m s Q E) ∧ (¬ c → Ends n s Q E) := by
  by_cases h : c
  · rw [if_pos h]
    exact ⟨fun hm => ⟨fun _ => hm, fun hn => absurd h hn⟩, fun hm => hm.1 h⟩
  · rw [if_neg h]
    exact ⟨fun hn => ⟨fun hm => absurd hm h, fun _ => hn⟩, fun hn => hn.2 h⟩

/-- A weaker statement about both ends. -/
theorem Ends.mono {m : EStateM ε σ α} {Q' : α → σ → Prop} {E' : ε → σ → Prop} (h : Ends m s Q E)
    (hQ : ∀ a s', Q a s' → Q' a s') (hE : ∀ e s', E e s' → E' e s') : Ends m s Q' E' := by
  unfold Ends at h ⊢
  cases hm : m s with
  | ok a s' =>
    rw [hm] at h
    exact hQ a s' h
  | error e s' =>
    rw [hm] at h
    exact hE e s' h

/-- The result of a computation without a state, which may raise. -/
def lift : Except ε α → EStateM ε σ α
  | .ok a => pure a
  | .error e => throw e

theorem ends_lift {x : Except ε α} :
    Ends (lift x) s Q E ↔ (∀ a, x = .ok a → Q a s) ∧ ∀ e, x = .error e → E e s := by
  cases x with
  | ok a => exact ⟨fun h => ⟨fun b hb => by cases hb; exact h, nofun⟩, fun h => h.1 a rfl⟩
  | error e => exact ⟨fun h => ⟨nofun, fun e' he => by cases he; exact h⟩, fun h => h.2 e rfl⟩

/-- What every round keeps, the loop keeps. -/
theorem ends_forM {γ : Type} {I : σ → Prop} {f : γ → EStateM ε σ PUnit} {l : List γ}
    (hround : ∀ c ∈ l, ∀ s, I s → Ends (f c) s (fun _ => I) E) (h : I s) :
    Ends (l.forM f) s (fun _ => I) E := by
  induction l generalizing s with
  | nil => exact h
  | cons c l ih =>
    show Ends (f c >>= fun _ => l.forM f) s (fun _ => I) E
    rw [ends_bind]
    refine (hround c List.mem_cons_self s h).mono (fun _ s' hs' => ?_) fun _ _ he => he
    exact ih (fun d hd => hround d (List.mem_cons_of_mem c hd)) hs'

end Rules

/-! ## Transactions -/

variable {δ μ : Type}

/-- A handler on tables in a transaction, and on a memory beside it. -/
def session (m : EStateM ε (δ × μ) α) (s : δ × μ) : δ × μ :=
  match m s with
  | .ok _ s' => s'
  | .error _ s' => (s.1, s'.2)

/-- The exception with which the handler ends. -/
def failure (m : EStateM ε (δ × μ) α) (s : δ × μ) : Option ε :=
  match m s with
  | .ok _ _ => none
  | .error e _ => some e

/-- What a session leaves: the tables of a handler that has returned, or those of the beginning. -/
theorem session_ends {m : EStateM ε (δ × μ) α} {s : δ × μ} {R : δ → Prop} {C : μ → Prop}
    {X : ε → Prop} (hR : R s.1) (h : Ends m s (fun _ s' => R s'.1 ∧ C s'.2) fun e s' => X e ∧ C s'.2) :
    R (session m s).1 ∧ C (session m s).2 ∧ ∀ e, failure m s = some e → X e := by
  unfold Ends at h
  unfold session failure
  cases hm : m s with
  | ok a s' =>
    rw [hm] at h
    exact ⟨h.1, h.2, nofun⟩
  | error e s' =>
    rw [hm] at h
    refine ⟨hR, h.2, fun e' he => ?_⟩
    cases he
    exact h.1

end Session
