import Mathlib.Data.List.DropRight
import Mathlib.Tactic

/-!
# The circuit breaker of the key pool

`_circuit_is_open`, `_record_circuit_success` and `_record_circuit_failure` of
`services/ai_service.py`.  A key gets a record with its first failure and loses it with a success, so the
record stands for the failures since the last success of the key (`circuitStates_eq`): their number, and
from the fifth on the deadline that the last of them has set.

`circuitIsOpen_exact` reads the state of a circuit off the events.
-/

namespace KasbOKar

/-- `_CIRCUIT_FAILURE_THRESHOLD`. -/
def circuitFailureThreshold : ℕ := 5

/-- `_CIRCUIT_COOLDOWN_SECONDS`. -/
def circuitCooldownSeconds : ℚ := 60

/-- `_CircuitState`. -/
structure CircuitState where
  consecutiveFailures : ℕ := 0
  /-- On the clock `time.monotonic()`; at 0 the circuit is closed. -/
  openUntil : ℚ := 0
  deriving DecidableEq

/-- `_circuit_states`. -/
abbrev CircuitStates : Type := ℤ → Option CircuitState

namespace CircuitStates

/-- `_circuit_is_open`. -/
def circuitIsOpen (states : CircuitStates) (keyId : ℤ) (now : ℚ) : Bool :=
  match states keyId with
  | none => false
  | some state => decide (now < state.openUntil)

/-- `_record_circuit_success`. -/
def recordCircuitSuccess (states : CircuitStates) (keyId : ℤ) : CircuitStates :=
  Function.update states keyId none

/-- What a failure makes of the record of its key. -/
def failed (state : CircuitState) (now : ℚ) : CircuitState :=
  let consecutiveFailures := state.consecutiveFailures + 1
  if consecutiveFailures ≥ circuitFailureThreshold then
    { consecutiveFailures := consecutiveFailures, openUntil := now + circuitCooldownSeconds }
  else { state with consecutiveFailures := consecutiveFailures }

/-- `_record_circuit_failure`. -/
def recordCircuitFailure (states : CircuitStates) (keyId : ℤ) (now : ℚ) : CircuitStates :=
  Function.update states keyId (some (failed ((states keyId).getD {}) now))

/-- `_circuit_states` when the process starts. -/
def empty : CircuitStates := fun _ => none

section

variable {states : CircuitStates} {key keyId : ℤ} {now : ℚ}

@[simp] theorem recordCircuitSuccess_self : states.recordCircuitSuccess key key = none :=
  Function.update_self ..

theorem recordCircuitSuccess_of_ne (h : key ≠ keyId) :
    states.recordCircuitSuccess keyId key = states key := Function.update_of_ne h ..

@[simp] theorem recordCircuitFailure_self :
    states.recordCircuitFailure key now key = some (failed ((states key).getD {}) now) :=
  Function.update_self ..

theorem recordCircuitFailure_of_ne (h : key ≠ keyId) :
    states.recordCircuitFailure keyId now key = states key := Function.update_of_ne h ..

end

end CircuitStates

/-- A call of one of the two functions that write the records. -/
inductive CircuitEvent where
  | success (keyId : ℤ)
  | failure (keyId : ℤ) (now : ℚ)

namespace CircuitEvent

open CircuitStates

def keyId : CircuitEvent → ℤ
  | success keyId => keyId
  | failure keyId _ => keyId

/-- A success of a key. -/
def succeeds (key : ℤ) : CircuitEvent → Bool
  | success keyId => keyId == key
  | failure .. => false

/-- The time of a failure of a key. -/
def failedAt (key : ℤ) : CircuitEvent → Option ℚ
  | success _ => none
  | failure keyId now => if keyId = key then some now else none

def run (states : CircuitStates) : CircuitEvent → CircuitStates
  | success keyId => states.recordCircuitSuccess keyId
  | failure keyId now => states.recordCircuitFailure keyId now

/-- The records after some events. -/
def circuitStates (events : List CircuitEvent) : CircuitStates := events.foldl run CircuitStates.empty

/-- The times at which a key has failed since its last success, or since the start. -/
def failuresSince (key : ℤ) (events : List CircuitEvent) : List ℚ :=
  (events.rtakeWhile fun e => !e.succeeds key).filterMap (failedAt key)

/-- The record of a key with these failures. -/
def recordOf (failures : List ℚ) : Option CircuitState :=
  failures.getLast?.map fun last =>
    { consecutiveFailures := failures.length
      openUntil := if circuitFailureThreshold ≤ failures.length then last + circuitCooldownSeconds else 0 }

/-! ## The record of a key -/

variable {events : List CircuitEvent} {key : ℤ}

theorem circuitStates_snoc (events : List CircuitEvent) (e : CircuitEvent) :
    circuitStates (events ++ [e]) = run (circuitStates events) e := by
  unfold circuitStates
  rw [List.foldl_append]
  rfl

theorem failuresSince_success : failuresSince key (events ++ [.success key]) = [] := by
  unfold failuresSince
  rw [List.rtakeWhile_concat_neg _ _ _ (by simp [succeeds])]
  rfl

theorem failuresSince_snoc {e : CircuitEvent} (h : e.succeeds key = false) :
    failuresSince key (events ++ [e]) = failuresSince key events ++ (failedAt key e).toList := by
  unfold failuresSince
  rw [List.rtakeWhile_concat_pos _ _ _ (by simp [h]), List.filterMap_append]
  cases hfailed : failedAt key e <;> simp [hfailed]

theorem recordOf_snoc (failures : List ℚ) (now : ℚ) :
    recordOf (failures ++ [now]) = some
      { consecutiveFailures := failures.length + 1
        openUntil := if circuitFailureThreshold ≤ failures.length + 1 then now + circuitCooldownSeconds
          else 0 } := by
  unfold recordOf
  rw [List.getLast?_concat, List.length_append, List.length_singleton]
  rfl

/-- The number of failures of a record, and its deadline while they are too few. -/
theorem recordOf_getD (failures : List ℚ) :
    ((recordOf failures).getD {}).consecutiveFailures = failures.length ∧
      (failures.length < circuitFailureThreshold → ((recordOf failures).getD {}).openUntil = 0) := by
  rcases List.eq_nil_or_concat failures with rfl | ⟨failures, last, rfl⟩
  · exact ⟨rfl, fun _ => rfl⟩
  · rw [List.concat_eq_append, recordOf_snoc, List.length_append, List.length_singleton]
    refine ⟨rfl, fun hfew => ?_⟩
    rw [if_neg (not_le.2 hfew)]
    rfl

theorem failed_recordOf (failures : List ℚ) (now : ℚ) :
    some (failed ((recordOf failures).getD {}) now) = recordOf (failures ++ [now]) := by
  obtain ⟨hcount, hclosed⟩ := recordOf_getD failures
  unfold failed
  dsimp only
  rw [hcount, recordOf_snoc]
  by_cases hmany : circuitFailureThreshold ≤ failures.length + 1
  · rw [if_pos hmany, if_pos hmany]
  · -- not enough failures before this one either
    rw [if_neg hmany, if_neg hmany, hclosed (by omega)]

/-- The record of a key stands for its failures since its last success. -/
theorem circuitStates_eq (events : List CircuitEvent) (key : ℤ) :
    circuitStates events key = recordOf (failuresSince key events) := by
  induction events using List.reverseRecOn with
  | nil => rfl
  | append_singleton events e ih =>
    rw [circuitStates_snoc]
    cases e with
    | success keyId =>
      change (circuitStates events).recordCircuitSuccess keyId key = _
      by_cases hkey : key = keyId
      · subst hkey
        rw [recordCircuitSuccess_self, failuresSince_success]
        rfl
      · rw [recordCircuitSuccess_of_ne hkey, failuresSince_snoc (by simp [succeeds, Ne.symm hkey]), ih]
        exact congrArg recordOf (List.append_nil _).symm
    | failure keyId now =>
      change (circuitStates events).recordCircuitFailure keyId now key = _
      rw [failuresSince_snoc rfl]
      change _ = recordOf (_ ++ (if keyId = key then some now else none).toList)
      by_cases hkey : key = keyId
      · subst hkey
        rw [recordCircuitFailure_self, if_pos rfl, ih]
        exact failed_recordOf _ now
      · rw [recordCircuitFailure_of_ne hkey, if_neg (Ne.symm hkey), ih]
        exact congrArg recordOf (List.append_nil _).symm

/-! ## Whether the circuit is open -/

/-- Whether the circuit of a key with these failures is open. -/
theorem circuitIsOpen_recordOf {states : CircuitStates} {failures : List ℚ}
    (h : states key = recordOf failures) {t : ℚ} (ht : 0 ≤ t) :
    states.circuitIsOpen key t = true ↔
      5 ≤ failures.length ∧ ∃ last ∈ failures.getLast?, t - last < 60 := by
  unfold circuitIsOpen
  rw [h]
  rcases List.eq_nil_or_concat failures with rfl | ⟨failures, last, rfl⟩
  · exact iff_of_false Bool.false_ne_true fun h => absurd h.1 (by decide)
  · rw [List.concat_eq_append, recordOf_snoc, List.getLast?_concat, List.length_append,
      List.length_singleton]
    dsimp only
    rw [decide_eq_true_eq]
    unfold circuitFailureThreshold circuitCooldownSeconds
    simp only [Option.mem_some_iff, exists_eq_left']
    split_ifs with hmany
    · rw [and_iff_right hmany, sub_lt_iff_lt_add']
    · exact iff_of_false (not_lt.2 ht) fun h => hmany h.1

theorem failuresSince_filter (events : List CircuitEvent) (key : ℤ) :
    failuresSince key (events.filter fun e => e.keyId == key) = failuresSince key events := by
  induction events using List.reverseRecOn with
  | nil => rfl
  | append_singleton events e ih =>
    rw [List.filter_append]
    by_cases hkey : e.keyId = key
    · rw [List.filter_cons_of_pos (by simpa using hkey), List.filter_nil]
      cases hsucceeds : e.succeeds key with
      | false => rw [failuresSince_snoc hsucceeds, failuresSince_snoc hsucceeds, ih]
      | true =>
        cases e with
        | failure => cases hsucceeds
        | success keyId =>
          obtain rfl : keyId = key := hkey
          rw [failuresSince_success, failuresSince_success]
    · rw [List.filter_cons_of_neg (by simpa using hkey), List.filter_nil, List.append_nil]
      cases e with
      | success keyId =>
        replace hkey : keyId ≠ key := hkey
        rw [failuresSince_snoc (by simpa [succeeds] using hkey), ih]
        exact (List.append_nil _).symm
      | failure keyId now =>
        replace hkey : keyId ≠ key := hkey
        rw [failuresSince_snoc rfl, ih]
        change _ = _ ++ (if keyId = key then some now else none).toList
        rw [if_neg hkey]
        exact (List.append_nil _).symm

/-- What came before a success of a key has no effect on its record. -/
theorem circuitStates_success (before after : List CircuitEvent) (key : ℤ) :
    circuitStates (before ++ .success key :: after) key = circuitStates after key := by
  induction after using List.reverseRecOn with
  | nil =>
    rw [circuitStates_eq, failuresSince_success]
    rfl
  | append_singleton after e ih =>
    have hsplit : before ++ .success key :: (after ++ [e]) = (before ++ .success key :: after) ++ [e] := by
      rw [List.append_assoc, List.cons_append]
    rw [hsplit, circuitStates_snoc, circuitStates_snoc]
    cases e with
    | success keyId =>
      change recordCircuitSuccess _ keyId key = recordCircuitSuccess _ keyId key
      unfold recordCircuitSuccess
      by_cases hkey : key = keyId
      · rw [hkey, Function.update_self, Function.update_self]
      · rw [Function.update_of_ne hkey, Function.update_of_ne hkey, ih]
    | failure keyId now =>
      change recordCircuitFailure _ keyId now key = recordCircuitFailure _ keyId now key
      by_cases hkey : key = keyId
      · subst hkey
        rw [recordCircuitFailure_self, recordCircuitFailure_self, ih]
      · rw [recordCircuitFailure_of_ne hkey, recordCircuitFailure_of_ne hkey, ih]

/-- A circuit is open exactly if its key has failed five times or more since its last success, the last
time less than 60 seconds ago; other keys have no influence.  Once there have been five failures, each
further one opens the circuit for 60 seconds, also after it has cooled down, and a success closes it as
if there had been none. -/
theorem circuitIsOpen_exact (events : List CircuitEvent) (key : ℤ) {t : ℚ} (ht : 0 ≤ t) :
    ((circuitStates events).circuitIsOpen key t = true ↔ 5 ≤ (failuresSince key events).length ∧
        ∃ last ∈ (failuresSince key events).getLast?, t - last < 60) ∧
      (circuitStates events).circuitIsOpen key t =
        (circuitStates (events.filter fun e => e.keyId == key)).circuitIsOpen key t ∧
      (∀ now, 5 ≤ (failuresSince key events).length →
        ((circuitStates (events ++ [.failure key now])).circuitIsOpen key t = true ↔ t - now < 60)) ∧
      (circuitStates (events ++ [.success key])).circuitIsOpen key t = false ∧
      ∀ after, (circuitStates (events ++ .success key :: after)).circuitIsOpen key t =
        (circuitStates after).circuitIsOpen key t := by
  refine ⟨circuitIsOpen_recordOf (circuitStates_eq events key) ht, ?_, fun now hmany => ?_, ?_,
    fun after => ?_⟩
  · unfold circuitIsOpen
    rw [circuitStates_eq, circuitStates_eq, failuresSince_filter]
  · rw [circuitIsOpen_recordOf (circuitStates_eq _ key) ht, failuresSince_snoc rfl]
    change _ ∧ (∃ last ∈ (_ ++ (if key = key then some now else none).toList).getLast?, _) ↔ _
    rw [if_pos rfl, Option.toList_some, List.getLast?_concat, List.length_append]
    simp only [Option.mem_some_iff, exists_eq_left']
    exact and_iff_right (Nat.le_add_right_of_le hmany)
  · unfold circuitIsOpen
    rw [circuitStates_eq, failuresSince_success]
    rfl
  · unfold circuitIsOpen
    rw [circuitStates_success]

/-- Six failures of a key, the last one after the circuit has cooled down, a success of another key in
between. -/
def circuitSample : List CircuitEvent :=
  [.failure 3 1, .failure 3 2, .failure 3 2, .success 4, .failure 3 5, .failure 3 8, .failure 3 100]

theorem circuitIsOpen_exact_sample : (0 : ℚ) ≤ 120 ∧
    ((circuitStates circuitSample).circuitIsOpen 3 120 = true ↔
      5 ≤ (failuresSince 3 circuitSample).length ∧
        ∃ last ∈ (failuresSince 3 circuitSample).getLast?, 120 - last < 60) ∧
    failuresSince 3 circuitSample = [1, 2, 2, 5, 8, 100] ∧
    (circuitStates circuitSample).circuitIsOpen 3 120 = true :=
  ⟨by norm_num, (circuitIsOpen_exact circuitSample 3 (by norm_num)).1, by decide +kernel,
    by decide +kernel⟩

end CircuitEvent

end KasbOKar
