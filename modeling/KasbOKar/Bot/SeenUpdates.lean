import KasbOKar.Bot.Webhook
import KasbOKar.Lib.FifoCache

/-!
# Seen updates

`_is_duplicate_update` of `app/main.py` over any sequence of calls.  The ordered dictionary is a bounded
cache that forgets its oldest key; a key that is found again keeps its place.
`WebhookApp.isDuplicateUpdate_exact`: the answer is exact for the last 2000 updates that were let
through.
-/

namespace KasbOKar

namespace WebhookApp

/-- The cache after some calls. -/
def seenAfter (calls : List UpdateKey) : List UpdateKey := Transcript.state isDuplicateUpdate [] calls

/-- The calls with their answers. -/
def duplicates (calls : List UpdateKey) : List (UpdateKey × Bool) :=
  Transcript.log isDuplicateUpdate [] calls

/-- The keys of the calls that returned `False`. -/
def letIn (answers : List (UpdateKey × Bool)) : List UpdateKey :=
  (answers.filter fun e => !e.2).map Prod.fst

theorem isDuplicateUpdate_eq : isDuplicateUpdate = FifoCache.visit maxSeenUpdates := by
  funext seen key
  unfold isDuplicateUpdate FifoCache.visit
  split_ifs <;> rfl

/-- The answer is `True` exactly for the keys of the last 2000 calls that returned `False`; the cache
holds no more than 2000 keys and none twice; and two calls with one key that return `False` have 2000
calls with other keys between them that do. -/
theorem isDuplicateUpdate_exact (calls : List UpdateKey) :
    (duplicates calls).map Prod.fst = calls ∧
      (∀ before key duplicate after, duplicates calls = before ++ (key, duplicate) :: after →
        (duplicate = true ↔ key ∈ (letIn before).rtake 2000)) ∧
      (seenAfter calls).length ≤ 2000 ∧ (seenAfter calls).Nodup ∧
      ∀ before key between after, letIn (duplicates calls) = before ++ key :: between ++ key :: after →
        2000 ≤ (between.filter fun k => k ≠ key).length := by
  unfold duplicates seenAfter
  rw [isDuplicateUpdate_eq]
  refine ⟨Transcript.log_map_fst calls, fun before key duplicate after h => FifoCache.hit_iff h,
    FifoCache.length_state_le calls, FifoCache.nodup_state calls, ?_⟩
  intro before key between after h
  exact FifoCache.misses_between h

/-- A key that comes back at once is a duplicate, also when another bot has used its number. -/
example : duplicates [(1, 200), (2, 200), (1, 200)] =
    [((1, 200), false), ((2, 200), false), ((1, 200), true)] := by decide +kernel

end WebhookApp

end KasbOKar
