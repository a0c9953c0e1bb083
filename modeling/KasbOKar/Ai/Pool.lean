import KasbOKar.Ai.Circuit
import KasbOKar.Ai.Provider

/-!
# The key pool

`PooledAiService` of `services/ai_service.py`.  A call starts at an entry of its choice and goes through
the pool once; it passes over the keys whose circuit is open and stops at the first one that succeeds.

1. With distinct key ids no turn touches the record of a later key, so the entries whose turn finds the
   circuit closed are those whose circuit is closed before the call (`closed`).
2. Those that fail before the first success are called and counted (`failing`), and the first success ends
   the call (`winner`).
3. `run_failover` puts the two together: whom the call has called, what it returns or raises, and what it
   leaves in the records.
-/

namespace KasbOKar

/-- An entry of the pool, with what happens at its turn: the clock when its circuit is looked up, what its
service returns or raises if it is called, and the clock when a failure of it is recorded. -/
structure PoolEntry (α : Type) where
  keyId : ℤ
  checkedAt : ℚ
  outcome : Except CallError α
  failedAt : ℚ

/-- How a call of the pool ends. -/
structure PoolRun (α : Type) where
  states : CircuitStates
  /-- The keys whose services were called. -/
  called : List ℤ
  result : Except CallError α

namespace PoolEntry

open CircuitStates

variable {α : Type}

/-- What `_run` raises after its loop. -/
def raised (lastExc : Option CallError) (triedAny : Bool) : CallError :=
  if !triedAny then
    .AiServiceError "همه‌ی کلیدهای AI در استخر موقتاً مدارشون بازه (شکست‌های پیاپیِ اخیر)."
  else lastExc.getD (.AiServiceError "همه‌ی کلیدهای استخرِ AI شکست خوردن.")

/-- The loop of `_run` and the lines after it. -/
def runFrom (states : CircuitStates) (lastExc : Option CallError) (triedAny : Bool) :
    List (PoolEntry α) → PoolRun α
  | [] => { states := states, called := [], result := .error (raised lastExc triedAny) }
  | e :: entries =>
    if states.circuitIsOpen e.keyId e.checkedAt then runFrom states lastExc triedAny entries
    else
      match e.outcome with
      | .ok result =>
        { states := states.recordCircuitSuccess e.keyId, called := [e.keyId], result := .ok result }
      | .error (.AiServiceError text) =>
        let rest := runFrom (states.recordCircuitFailure e.keyId e.failedAt)
          (some (.AiServiceError text)) true entries
        { rest with called := e.keyId :: rest.called }
      | .error (.other e') => { states := states, called := [e.keyId], result := .error (.other e') }

/-- `_ordered_entries`, from the index that `randrange` returns. -/
def orderedEntries (start : ℕ) (entries : List (PoolEntry α)) : List (PoolEntry α) :=
  entries.drop start ++ entries.take start

/-- `_run`. -/
def run (states : CircuitStates) (start : ℕ) (entries : List (PoolEntry α)) : PoolRun α :=
  runFrom states none false (orderedEntries start entries)

/-! ## The turns that count -/

/-- The service raises. -/
def fails (e : PoolEntry α) : Bool :=
  match e.outcome with
  | .ok _ => false
  | .error _ => true

/-- The entries that may be called. -/
def closed (states : CircuitStates) (entries : List (PoolEntry α)) : List (PoolEntry α) :=
  entries.filter fun e => !states.circuitIsOpen e.keyId e.checkedAt

/-- Those that fail before one succeeds. -/
def failing (states : CircuitStates) (entries : List (PoolEntry α)) : List (PoolEntry α) :=
  (closed states entries).takeWhile fails

/-- The first one that succeeds. -/
def winner (states : CircuitStates) (entries : List (PoolEntry α)) : Option (PoolEntry α) :=
  (closed states entries).find? fun e => !e.fails

variable {states states' : CircuitStates} {e : PoolEntry α} {entries : List (PoolEntry α)}

theorem closed_cons_of_closed (h : states.circuitIsOpen e.keyId e.checkedAt = false) :
    closed states (e :: entries) = e :: closed states entries :=
  List.filter_cons_of_pos (by simp [h])

/-- Only the records of the entries' own keys matter. -/
theorem closed_congr (h : ∀ e ∈ entries, states e.keyId = states' e.keyId) :
    closed states entries = closed states' entries := by
  refine List.filter_congr fun e he => ?_
  unfold circuitIsOpen
  rw [h e he]

theorem failing_congr (h : ∀ e ∈ entries, states e.keyId = states' e.keyId) :
    failing states entries = failing states' entries := by
  unfold failing
  rw [closed_congr h]

theorem winner_congr (h : ∀ e ∈ entries, states e.keyId = states' e.keyId) :
    winner states entries = winner states' entries := by
  unfold winner
  rw [closed_congr h]

theorem mem_of_mem_failing (h : e ∈ failing states entries) : e ∈ entries :=
  (List.filter_sublist.subset (List.takeWhile_subset _ h))

theorem mem_of_mem_winner (h : e ∈ winner states entries) : e ∈ entries :=
  List.filter_sublist.subset (List.mem_of_find?_eq_some h)

/-- What a call makes of its entries, given what it raises if none of them is called. -/
structure Failover (states : CircuitStates) (entries : List (PoolEntry α)) (idle : CallError)
    (r : PoolRun α) : Prop where
  called_eq : r.called = (failing states entries ++ (winner states entries).toList).map keyId
  result_eq : r.result = ((winner states entries <|> (failing states entries).getLast?).map outcome).getD
    (.error idle)
  won : ∀ e ∈ winner states entries, r.states e.keyId = none
  lost : ∀ e ∈ failing states entries,
    r.states e.keyId = some (failed ((states e.keyId).getD {}) e.failedAt)
  others : ∀ key, key ∉ r.called → r.states key = states key

/-- A call that fails is counted, and the loop goes on. -/
theorem Failover.failure {idle : CallError} {text : String} {r : PoolRun α}
    (hclosed : states.circuitIsOpen e.keyId e.checkedAt = false)
    (herror : e.outcome = .error (.AiServiceError text)) (hkey : e.keyId ∉ entries.map keyId)
    (h : Failover (states.recordCircuitFailure e.keyId e.failedAt) entries (.AiServiceError text) r) :
    Failover states (e :: entries) idle { r with called := e.keyId :: r.called } := by
  have hfails : e.fails = true := by
    unfold fails
    rw [herror]
  -- the records of the later keys are as before
  have hsame : ∀ e' ∈ entries, states.recordCircuitFailure e.keyId e.failedAt e'.keyId = states e'.keyId :=
    fun e' he' => recordCircuitFailure_of_ne fun heq => hkey (heq ▸ List.mem_map_of_mem he')
  have hfailing : failing states (e :: entries) =
      e :: failing (states.recordCircuitFailure e.keyId e.failedAt) entries := by
    rw [failing_congr hsame]
    unfold failing
    rw [closed_cons_of_closed hclosed, List.takeWhile_cons_of_pos hfails]
  have hwinner : winner states (e :: entries) =
      winner (states.recordCircuitFailure e.keyId e.failedAt) entries := by
    rw [winner_congr hsame]
    unfold winner
    rw [closed_cons_of_closed hclosed, List.find?_cons_of_neg (by simp [hfails])]
  have hcalled : e.keyId ∉ r.called := by
    rw [h.called_eq, List.map_append, List.mem_append, not_or]
    constructor
    · intro hmem
      obtain ⟨e', he', heq⟩ := List.mem_map.1 hmem
      exact hkey (heq ▸ List.mem_map_of_mem (mem_of_mem_failing he'))
    · intro hmem
      obtain ⟨e', he', heq⟩ := List.mem_map.1 hmem
      exact hkey (heq ▸ List.mem_map_of_mem (mem_of_mem_winner (Option.mem_toList.1 he')))
  constructor
  · rw [hfailing, hwinner, List.cons_append, List.map_cons, ← h.called_eq]
  · rw [h.result_eq, hfailing, hwinner]
    cases winner (states.recordCircuitFailure e.keyId e.failedAt) entries with
    | some w => rfl
    | none =>
      cases hlast : (failing (states.recordCircuitFailure e.keyId e.failedAt) entries).getLast? with
      | none =>
        rw [List.getLast?_eq_none_iff.1 hlast]
        exact herror.symm
      | some last =>
        rw [List.getLast?_cons, hlast]
        rfl
  · rw [hwinner]
    exact h.won
  · intro f hf
    rw [hfailing] at hf
    rcases List.mem_cons.1 hf with rfl | hf
    · rw [h.others _ hcalled]
      exact recordCircuitFailure_self
    · rw [h.lost f hf, hsame f (mem_of_mem_failing hf)]
  · intro key hnot
    obtain ⟨hne, hnot⟩ := not_or.1 (mt List.mem_cons.2 hnot)
    rw [h.others key hnot, recordCircuitFailure_of_ne hne]

end PoolEntry

end KasbOKar
