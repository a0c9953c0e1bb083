import KasbOKar.Ai.Pool

/-!
# Answers of the wrong shape

A provider may put any JSON value into the body of an answer with status 200.  The fallback and the pool
go on to the next service on `AiServiceError` only, so what they make of such a body is decided in
`_extract_text` and `_extract_usage`: a body that is not `foreseen` ends the whole call, with another
exception or with a text that is none (`malformed_iff`).
-/

namespace KasbOKar

namespace Provider

/-- An answer with a text. -/
def Usable (r : Except CallError AiCallResult) : Prop :=
  ∃ text totalTokens, r = .ok { text := .str text, totalTokens := totalTokens }

/-- A second service is asked whenever the answer of the first one is of no use. -/
def FallsBack (r : Except CallError AiCallResult) : Prop :=
  ∀ fallback, ¬ Usable r → withFallback r fallback = fallback

open PoolEntry in
/-- The next key of a pool is asked whenever the answer of the first one is of no use. -/
def FailsOver (r : Except CallError AiCallResult) : Prop :=
  ∀ (states : CircuitStates) (first second : PoolEntry AiCallResult) (rest : List (PoolEntry AiCallResult)),
    first.outcome = r → first.keyId ≠ second.keyId →
    states.circuitIsOpen first.keyId first.checkedAt = false →
    states.circuitIsOpen second.keyId second.checkedAt = false →
    ¬ Usable r → second.keyId ∈ (runFrom states none false (first :: second :: rest)).called

variable {r : Except CallError AiCallResult}

/-- The answers that are not handled: a text that is none, or an exception that nobody expects. -/
theorem not_handled (h : ¬ Handled r) :
    (∃ result, r = .ok result ∧ ¬ Usable r) ∨ ∃ e, r = .error (.other e) := by
  cases r with
  | ok result => exact .inl ⟨result, rfl, fun hu => h (.inl hu)⟩
  | error e =>
    cases e with
    | AiServiceError text => exact absurd (.inr ⟨text, rfl⟩) h
    | other e => exact .inr ⟨e, rfl⟩

theorem Handled.fallsBack (h : Handled r) : FallsBack r := by
  intro fallback hu
  rcases h with h | ⟨text, rfl⟩
  · exact absurd h hu
  · rfl

theorem fallsBack_iff : FallsBack r ↔ Handled r := by
  refine ⟨fun h => ?_, Handled.fallsBack⟩
  by_contra hr
  rcases not_handled hr with ⟨result, rfl, hu⟩ | ⟨e, rfl⟩
  · have := h (.error (.AiServiceError "")) hu
    cases this
  · have := h (.error (.AiServiceError "")) nofun
    cases this

open PoolEntry in
theorem Handled.failsOver (h : Handled r) : FailsOver r := by
  intro states first second rest hfirst hne hclosed hclosed' hu
  rcases h with h | ⟨text, rfl⟩
  · exact absurd h hu
  · -- the first key is counted, and the second one is still closed
    have hstill : (states.recordCircuitFailure first.keyId first.failedAt).circuitIsOpen second.keyId
        second.checkedAt = false := by
      unfold CircuitStates.circuitIsOpen at hclosed' ⊢
      rw [CircuitStates.recordCircuitFailure_of_ne hne.symm]
      exact hclosed'
    unfold runFrom
    rw [hclosed, if_neg Bool.false_ne_true, hfirst]
    refine List.mem_cons_of_mem _ ?_
    unfold runFrom
    rw [hstill, if_neg Bool.false_ne_true]
    cases second.outcome with
    | ok result => exact List.mem_cons_self
    | error e => cases e <;> exact List.mem_cons_self

open PoolEntry in
theorem failsOver_iff : FailsOver r ↔ Handled r := by
  refine ⟨fun h => ?_, Handled.failsOver⟩
  by_contra hr
  have hu : ¬ Usable r := fun hu => hr (.inl hu)
  have one_ne_two : (1 : ℤ) ≠ 2 := by decide
  have hsecond := h .empty ⟨1, 0, r, 0⟩ ⟨2, 0, r, 0⟩ [] rfl one_ne_two rfl rfl hu
  -- the run has ended with the first key
  have hcalled : (runFrom .empty none false [⟨1, 0, r, 0⟩, ⟨2, 0, r, 0⟩]).called = [1] := by
    rcases not_handled hr with ⟨result, rfl, -⟩ | ⟨e, rfl⟩ <;> rfl
  rw [hcalled] at hsecond
  exact one_ne_two (List.mem_singleton.1 hsecond).symm

variable {fmt : PyJson → String}

/-- For an answer with status 200, `get_reply` and `analyze_image` return a text or raise
`AiServiceError`, and the fallback and the pool go on to the next service if there is no text, exactly for
the bodies that are foreseen. -/
theorem malformed_iff {attempts : ℕ → Attempt} {body : PyJson} (hpost : postChat attempts = .ok body) :
    (Handled (getReply fmt attempts) ↔ foreseen body = true) ∧
      (Handled (analyzeImage fmt attempts) ↔ foreseen body = true) ∧
      (FallsBack (getReply fmt attempts) ↔ foreseen body = true) ∧
      (FailsOver (getReply fmt attempts) ↔ foreseen body = true) := by
  have hreply : getReply fmt attempts = reply fmt body := by
    unfold getReply
    rw [hpost]
    rfl
  have himage : analyzeImage fmt attempts = reply fmt body := by
    unfold analyzeImage
    rw [hpost]
    rfl
  rw [hreply, himage, fallsBack_iff, failsOver_iff, reply_handled]
  exact ⟨Iff.rfl, Iff.rfl, Iff.rfl, Iff.rfl⟩

/-- A call that gets no such answer raises `AiServiceError`. -/
theorem getReply_handled_of_error {attempts : ℕ → Attempt} {e : CallError}
    (hpost : postChat attempts = .error e) : Handled (getReply fmt attempts) := by
  obtain ⟨text, rfl⟩ := postChat_error hpost
  unfold getReply
  rw [hpost]
  exact .inr ⟨text, rfl⟩

/-- A message whose content is `null`. -/
def nullContent : PyJson := .dict [("choices", .list [.dict [("message", .dict [("content", .null)])]])]

/-- An answer that has `null` in the place of the choices. -/
def nullChoices : PyJson := .dict [("choices", .null)]

theorem malformed_iff_nullContent : postChat (fun _ => .body nullContent) = .ok nullContent ∧
    (Handled (getReply (fun _ => "") fun _ => .body nullContent) ↔ foreseen nullContent = true) ∧
    foreseen nullContent = false ∧ foreseen nullChoices = false :=
  ⟨rfl, (malformed_iff rfl).1, rfl, rfl⟩

/-- `null` in the place of the text is returned as it is, `null` in the place of the choices is a
`TypeError`; neither the fallback nor another key is tried. -/
theorem malformed_passed_on :
    getReply (fun _ => "") (fun _ => .body nullContent) = .ok { text := .null, totalTokens := none } ∧
      ¬ Handled (getReply (fun _ => "") fun _ => .body nullContent) ∧
      (∃ e, getReply (fun _ => "") (fun _ => .body nullChoices) = .error (.other e) ∧
        e.val = .TypeError) ∧
      ¬ FallsBack (getReply (fun _ => "") fun _ => .body nullChoices) ∧
      ¬ FailsOver (getReply (fun _ => "") fun _ => .body nullChoices) := by
  have hcontent : ¬ Handled (getReply (fun _ => "") fun _ => .body nullContent) := by
    rintro (⟨text, totalTokens, h⟩ | ⟨text, h⟩) <;> cases h
  have hchoices : ¬ Handled (getReply (fun _ => "") fun _ => .body nullChoices) := by
    rintro (⟨text, totalTokens, h⟩ | ⟨text, h⟩) <;> cases h
  exact ⟨rfl, hcontent, ⟨_, rfl, rfl⟩, mt fallsBack_iff.1 hchoices, mt failsOver_iff.1 hchoices⟩

end Provider

end KasbOKar
