import KasbOKar.Lib.Runs

/-!
# Collecting the messages of a customer

`_schedule_debounced_processing` and `_wait_then_process` of `shop_bot/handlers/customer.py`: the
messages that a customer sends in quick succession go into a buffer, every one of them cancels the
task that waits to answer and starts a new one, and the task whose sleep ends hands the buffer over
as one batch.

The event loop runs one piece of code at a time, up to its next `await`.  It may start a task, let
its sleep elapse and resume it in any order with the messages that come in; a task that was cancelled
in between sees a `CancelledError` where it waits, also if its sleep has elapsed already, and one
that was cancelled before it has started never runs.

`Debounce.exactly_once`: when no task waits any more, the batches of a customer, one after the other,
are the messages of that customer.
-/

namespace KasbOKar

/-- Shop and customer. -/
abbrev ChatKey : Type := ℕ × ℤ

/-- `delay`: `DEBOUNCE_SECONDS`, or what is left of `MAX_BUFFER_WAIT_SECONDS`.  A sleep suspends its
task because it is never zero. -/
def debounceDelay (elapsed : ℚ) : {d : ℚ // 0 < d} :=
  ⟨min 3 (max (3 / 10) (10 - elapsed)),
    lt_min (by norm_num) (lt_max_of_lt_left (by norm_num))⟩

/-- Where a task of `_wait_then_process` stands. -/
inductive TaskState where
  /-- Created, not yet run. -/
  | created
  /-- In `asyncio.sleep`. -/
  | sleeping
  /-- The sleep has elapsed, the task has not been resumed. -/
  | elapsed
  /-- In `_generate_and_send_reply`. -/
  | processing
  | done
  deriving DecidableEq

structure WaitTask where
  key : ChatKey
  delay : {d : ℚ // 0 < d}
  state : TaskState := .created
  /-- `cancel` was called. -/
  cancelled : Bool := false

namespace WaitTask

/-- The task has not come to the end of its sleep. -/
def pending (t : WaitTask) : Bool :=
  t.state == .created || t.state == .sleeping || t.state == .elapsed

/-- The task is going to hand its buffer over. -/
def waits (t : WaitTask) : Bool := !t.cancelled && t.pending

end WaitTask

/-- A call of `_generate_and_send_reply`. -/
structure Batch where
  key : ChatKey
  messages : List String

/-- The three dictionaries, the tasks, and what has gone in and out. -/
structure Debounce where
  pendingBuffers : ChatKey → Option (List String) := fun _ => none
  pendingTasks : ChatKey → Option ℕ := fun _ => none
  pendingStartedAt : ChatKey → Option ℚ := fun _ => none
  tasks : List WaitTask := []
  /-- The texts that were passed, each with its key. -/
  arrived : List (ChatKey × String) := []
  /-- The batches that were handed over. -/
  batches : List Batch := []

inductive DebounceEvent where
  | schedule (key : ChatKey) (text : String) (now : ℚ)
  | start (task : ℕ)
  | timer (task : ℕ)
  | resume (task : ℕ)
  | finish (task : ℕ)

namespace Debounce

/-- No message yet. -/
def empty : Debounce := {}

/-- `existing_task.cancel()`, unless there is none or it is done. -/
def cancelTask (tasks : List WaitTask) (existing : Option ℕ) : List WaitTask :=
  match existing with
  | none => tasks
  | some i => tasks.modify i fun t => if t.state = .done then t else { t with cancelled := true }

/-- `_schedule_debounced_processing`. -/
def scheduleDebouncedProcessing (s : Debounce) (key : ChatKey) (text : String) (now : ℚ) : Debounce :=
  let startedAt := (s.pendingStartedAt key).getD now
  let tasks := cancelTask s.tasks (s.pendingTasks key)
  { pendingBuffers :=
      Function.update s.pendingBuffers key (some ((s.pendingBuffers key).getD [] ++ [text]))
    pendingStartedAt := Function.update s.pendingStartedAt key (some startedAt)
    tasks := tasks ++ [{ key := key, delay := debounceDelay (now - startedAt) }]
    pendingTasks := Function.update s.pendingTasks key (some tasks.length)
    arrived := s.arrived ++ [(key, text)]
    batches := s.batches }

/-- A task moves on. -/
def setState (s : Debounce) (i : ℕ) (state : TaskState) : Debounce :=
  { s with tasks := s.tasks.modify i fun t => { t with state := state } }

/-- `_wait_then_process` after its sleep: the pops, and the call of `_generate_and_send_reply`. -/
def processBatch (s : Debounce) (i : ℕ) (key : ChatKey) : Debounce :=
  let messages := (s.pendingBuffers key).getD []
  let popped : Debounce := { s with
    pendingBuffers := Function.update s.pendingBuffers key none
    pendingStartedAt := Function.update s.pendingStartedAt key none
    pendingTasks := Function.update s.pendingTasks key none }
  if messages = [] then popped.setState i .done
  else { popped with batches := s.batches ++ [⟨key, messages⟩] : Debounce }.setState i .processing

/-- The next piece of code that the event loop runs. -/
def step (s : Debounce) : DebounceEvent → Option Debounce
  | .schedule key text now => some (s.scheduleDebouncedProcessing key text now)
  | .start i => s.tasks[i]?.bind fun t =>
    if t.state = .created then some (s.setState i (if t.cancelled then .done else .sleeping)) else none
  -- the timer of a sleep that was cancelled does not go off
  | .timer i => s.tasks[i]?.bind fun t =>
    if t.state = .sleeping ∧ t.cancelled = false then some (s.setState i .elapsed) else none
  | .resume i => s.tasks[i]?.bind fun t =>
    if t.cancelled = true ∧ (t.state = .sleeping ∨ t.state = .elapsed) then some (s.setState i .done)
    else if t.state = .elapsed then some (s.processBatch i t.key)
    else none
  | .finish i => s.tasks[i]?.bind fun t =>
    if t.state = .processing then some (s.setState i .done) else none

/-- The buffer of a key. -/
def buffer (s : Debounce) (key : ChatKey) : List String := (s.pendingBuffers key).getD []

/-- The texts that were passed for a key, in order. -/
def passed (s : Debounce) (key : ChatKey) : List String :=
  (s.arrived.filter fun m => m.1 == key).map Prod.snd

/-- The batches of a key, one after the other. -/
def handedOver (s : Debounce) (key : ChatKey) : List String :=
  (s.batches.filter fun b => b.key == key).flatMap Batch.messages

/-- A buffer with messages has exactly one task that is going to hand it over: the one in
`_pending_tasks`. -/
structure Waiting (s : Debounce) : Prop where
  entry : ∀ key i, s.pendingTasks key = some i →
    ∃ t, s.tasks[i]? = some t ∧ t.key = key ∧ t.waits = true
  task : ∀ i t, s.tasks[i]? = some t → t.waits = true → s.pendingTasks t.key = some i
  buffered : ∀ key, s.buffer key ≠ [] → ∃ i, s.pendingTasks key = some i
  texts : ∀ key, s.handedOver key ++ s.buffer key = s.passed key

section

variable {s s' : Debounce}

theorem tasks_setState (i j : ℕ) (state : TaskState) :
    (s.setState i state).tasks[j]? =
      s.tasks[j]?.map fun t => if i = j then { t with state := state } else t :=
  List.getElem?_modify ..

theorem waits_cancelled {t : WaitTask} (h : t.cancelled = true) : t.waits = false := by
  unfold WaitTask.waits
  rw [h]
  rfl

theorem waits_of_not_pending {t : WaitTask} (h : t.pending = false) : t.waits = false := by
  unfold WaitTask.waits
  rw [h, Bool.and_false]

theorem waits_setState {t : WaitTask} (h : t.cancelled = true) (state : TaskState) :
    { t with state := state : WaitTask }.waits = t.waits := by
  rw [waits_cancelled h]
  exact waits_cancelled h

/-- A task moves on without giving up its duty, or has none. -/
theorem Waiting.setState (h : Waiting s) {i : ℕ} {t : WaitTask} (ht : s.tasks[i]? = some t)
    {state : TaskState} (hstate : { t with state := state : WaitTask }.waits = t.waits) :
    Waiting (s.setState i state) where
  entry key j hj := by
    obtain ⟨t', ht', hkey, hw⟩ := h.entry key j hj
    rw [tasks_setState, ht', Option.map_some]
    split_ifs with hij
    · subst hij
      rw [ht] at ht'
      cases ht'
      exact ⟨_, rfl, hkey, hstate.trans hw⟩
    · exact ⟨t', rfl, hkey, hw⟩
  task j t₁ hj hw := by
    rw [tasks_setState] at hj
    obtain ⟨t', ht', rfl⟩ := Option.map_eq_some_iff.1 hj
    split_ifs at hw ⊢ with hij
    · subst hij
      rw [ht] at ht'
      cases ht'
      exact h.task i t ht (hstate.symm.trans hw)
    · exact h.task j t' ht' hw
  buffered := h.buffered
  texts := h.texts

/-! ## A message comes in -/

theorem tasks_cancelTask {existing : Option ℕ} {j : ℕ} {t : WaitTask}
    (h : (cancelTask s.tasks existing)[j]? = some t) (hw : t.waits = true) :
    s.tasks[j]? = some t ∧ existing ≠ some j := by
  cases existing with
  | none => exact ⟨h, nofun⟩
  | some i =>
    change (s.tasks.modify i _)[j]? = _ at h
    rw [List.getElem?_modify] at h
    obtain ⟨t', ht', heq⟩ := Option.map_eq_some_iff.1 h
    split_ifs at heq with hij hdone
    · -- a task that is done waits for nothing
      rw [← heq, waits_of_not_pending (by unfold WaitTask.pending; rw [hdone]; rfl)] at hw
      cases hw
    · rw [← heq, waits_cancelled rfl] at hw
      cases hw
    · cases heq
      exact ⟨ht', fun h => hij (Option.some.inj h)⟩

theorem tasks_cancelTask_of_ne {existing : Option ℕ} {j : ℕ} (h : existing ≠ some j) :
    (cancelTask s.tasks existing)[j]? = s.tasks[j]? := by
  cases existing with
  | none => rfl
  | some i => exact List.getElem?_modify_ne _ _ fun hij => h (congrArg some hij)

/-- The new text comes last among those of its key. -/
theorem passed_schedule (s : Debounce) (key : ChatKey) (text : String) (now : ℚ) (k : ChatKey) :
    (s.scheduleDebouncedProcessing key text now).passed k =
      s.passed k ++ if k = key then [text] else [] := by
  unfold passed
  change ((s.arrived ++ [(key, text)]).filter _).map _ = _
  rw [List.filter_append, List.map_append, List.filter_singleton]
  by_cases hk : k = key
  · rw [if_pos hk, hk, beq_self_eq_true]
    rfl
  · rw [if_neg hk, beq_eq_false_iff_ne.2 (Ne.symm hk)]
    rfl

theorem buffer_schedule (s : Debounce) (key : ChatKey) (text : String) (now : ℚ) (k : ChatKey) :
    (s.scheduleDebouncedProcessing key text now).buffer k =
      s.buffer k ++ if k = key then [text] else [] := by
  unfold buffer
  change (Function.update s.pendingBuffers key _ k).getD [] = _
  by_cases hk : k = key
  · subst hk
    rw [Function.update_self, if_pos rfl]
    rfl
  · rw [Function.update_of_ne hk, if_neg hk, List.append_nil]

theorem Waiting.schedule (h : Waiting s) (key : ChatKey) (text : String) (now : ℚ) :
    Waiting (s.scheduleDebouncedProcessing key text now) where
  entry k i hi := by
    change Function.update s.pendingTasks key _ k = some i at hi
    by_cases hk : k = key
    · subst hk
      rw [Function.update_self] at hi
      cases hi
      exact ⟨_, List.getElem?_concat_length, rfl, rfl⟩
    · rw [Function.update_of_ne hk] at hi
      obtain ⟨t, ht, hkey, hw⟩ := h.entry k i hi
      have hne : s.pendingTasks key ≠ some i := by
        intro hkeyi
        obtain ⟨t', ht', hkey', -⟩ := h.entry key i hkeyi
        rw [ht] at ht'
        cases ht'
        exact hk (hkey.symm.trans hkey')
      refine ⟨t, ?_, hkey, hw⟩
      change (cancelTask s.tasks (s.pendingTasks key) ++ _)[i]? = some t
      rw [← tasks_cancelTask_of_ne hne] at ht
      rw [List.getElem?_append_left (List.getElem?_eq_some_iff.1 ht).1, ht]
  task i t hi hw := by
    change (cancelTask s.tasks (s.pendingTasks key) ++ _)[i]? = some t at hi
    change Function.update s.pendingTasks key _ t.key = some i
    rw [List.getElem?_append] at hi
    split_ifs at hi with hlt
    · obtain ⟨ht, hne⟩ := tasks_cancelTask hi hw
      have hold := h.task i t ht hw
      rw [Function.update_of_ne, hold]
      exact fun hk => hne (hk ▸ hold)
    · obtain ⟨hidx, heq⟩ := List.getElem?_eq_some_iff.1 hi
      have hlast : i = (cancelTask s.tasks (s.pendingTasks key)).length := by
        simp only [List.length_singleton] at hidx
        omega
      subst hlast
      rw [List.getElem_singleton] at heq
      rw [← heq, Function.update_self]
  buffered k hk := by
    by_cases hkey : k = key
    · subst hkey
      exact ⟨_, Function.update_self ..⟩
    · rw [buffer_schedule, if_neg hkey, List.append_nil] at hk
      obtain ⟨i, hi⟩ := h.buffered k hk
      exact ⟨i, (Function.update_of_ne hkey _ _).trans hi⟩
  texts k := by
    rw [passed_schedule, buffer_schedule, ← h.texts k, List.append_assoc]
    rfl

/-! ## A task wakes up -/

theorem processBatch_tasks (i : ℕ) (key : ChatKey) :
    ∃ state, (state = .done ∨ state = .processing) ∧
      (s.processBatch i key).tasks = (s.setState i state).tasks := by
  unfold processBatch
  dsimp only
  split_ifs
  · exact ⟨.done, Or.inl rfl, rfl⟩
  · exact ⟨.processing, Or.inr rfl, rfl⟩

theorem processBatch_pendingTasks (i : ℕ) (key : ChatKey) :
    (s.processBatch i key).pendingTasks = Function.update s.pendingTasks key none := by
  unfold processBatch
  dsimp only
  split_ifs <;> rfl

theorem processBatch_buffer (i : ℕ) (key k : ChatKey) :
    (s.processBatch i key).buffer k = if k = key then [] else s.buffer k := by
  have hpop : (s.processBatch i key).pendingBuffers = Function.update s.pendingBuffers key none := by
    unfold processBatch
    dsimp only
    split_ifs <;> rfl
  unfold buffer
  rw [hpop]
  split_ifs with hk
  · rw [hk, Function.update_self]
    rfl
  · rw [Function.update_of_ne hk]

theorem processBatch_handedOver (i : ℕ) (key k : ChatKey) :
    (s.processBatch i key).handedOver k = s.handedOver k ++ if k = key then s.buffer k else [] := by
  unfold processBatch
  dsimp only
  split_ifs with hempty hk hk
  · subst hk
    unfold buffer
    rw [hempty, List.append_nil]
    rfl
  · rw [List.append_nil]
    rfl
  · subst hk
    unfold handedOver
    change ((s.batches ++ [_]).filter _).flatMap _ = _
    rw [List.filter_append, List.flatMap_append, List.filter_singleton, beq_self_eq_true]
    exact congrArg _ (List.append_nil _)
  · unfold handedOver
    change ((s.batches ++ [_]).filter _).flatMap _ = _
    rw [List.filter_append, List.flatMap_append, List.filter_singleton,
      beq_eq_false_iff_ne.2 (Ne.symm hk)]
    rfl

/-- The task that wakes up is the one in `_pending_tasks`: its buffer becomes a batch. -/
theorem Waiting.process (h : Waiting s) {i : ℕ} {t : WaitTask} (ht : s.tasks[i]? = some t)
    (hw : t.waits = true) : Waiting (s.processBatch i t.key) := by
  have hown := h.task i t ht hw
  obtain ⟨state, hstate, htasks⟩ := processBatch_tasks (s := s) i t.key
  -- no other key has this task, and no other task has this key
  have hother : ∀ key j, key ≠ t.key → s.pendingTasks key = some j → i ≠ j := by
    rintro key j hkey hj rfl
    obtain ⟨t', ht', hkey', -⟩ := h.entry key i hj
    rw [ht] at ht'
    cases ht'
    exact hkey hkey'.symm
  refine ⟨fun key j hj => ?_, fun j t₁ hj hw₁ => ?_, fun key hkey => ?_, fun key => ?_⟩
  · rw [processBatch_pendingTasks] at hj
    by_cases hkey : key = t.key
    · rw [hkey, Function.update_self] at hj
      cases hj
    · rw [Function.update_of_ne hkey] at hj
      obtain ⟨t', ht', hkey', hw'⟩ := h.entry key j hj
      refine ⟨t', ?_, hkey', hw'⟩
      rw [htasks, tasks_setState, ht', Option.map_some, if_neg (hother key j hkey hj)]
  · rw [htasks, tasks_setState] at hj
    obtain ⟨t', ht', rfl⟩ := Option.map_eq_some_iff.1 hj
    rw [processBatch_pendingTasks]
    split_ifs at hw₁ ⊢ with hij
    · rw [waits_of_not_pending (by obtain rfl | rfl := hstate <;> rfl)] at hw₁
      cases hw₁
    · have hj' := h.task j t' ht' hw₁
      rw [Function.update_of_ne, hj']
      intro hkey
      rw [hkey, hown, Option.some.injEq] at hj'
      exact hij hj'
  · rw [processBatch_buffer] at hkey
    split_ifs at hkey with hk
    · exact absurd rfl hkey
    · obtain ⟨j, hj⟩ := h.buffered key hkey
      exact ⟨j, by rw [processBatch_pendingTasks, Function.update_of_ne hk, hj]⟩
  · have hpassed : (s.processBatch i t.key).passed key = s.passed key := by
      unfold processBatch
      dsimp only
      split_ifs <;> rfl
    rw [processBatch_handedOver, processBatch_buffer, hpassed, ← h.texts key]
    split_ifs
    · rw [List.append_nil]
    · rw [List.append_nil]

/-- **Every step keeps the invariant.** -/
theorem Waiting.step {e : DebounceEvent} (h : Waiting s) (hs : s.step e = some s') : Waiting s' := by
  cases e with
  | schedule key text now =>
    cases hs
    exact h.schedule key text now
  | start i =>
    obtain ⟨t, ht, hs⟩ := Option.bind_eq_some_iff.1 hs
    split_ifs at hs with hstate hcancelled
    · cases hs
      exact h.setState ht (waits_setState hcancelled _)
    · cases hs
      refine h.setState ht ?_
      unfold WaitTask.waits WaitTask.pending
      rw [hstate]
      rfl
  | timer i =>
    obtain ⟨t, ht, hs⟩ := Option.bind_eq_some_iff.1 hs
    split_ifs at hs with hstate
    cases hs
    refine h.setState ht ?_
    unfold WaitTask.waits WaitTask.pending
    rw [hstate.1, hstate.2]
    rfl
  | resume i =>
    obtain ⟨t, ht, hs⟩ := Option.bind_eq_some_iff.1 hs
    split_ifs at hs with hcancelled helapsed
    · cases hs
      exact h.setState ht (waits_setState hcancelled.1 _)
    · cases hs
      refine h.process ht ?_
      unfold WaitTask.waits WaitTask.pending
      rw [helapsed]
      simpa [helapsed] using hcancelled
  | finish i =>
    obtain ⟨t, ht, hs⟩ := Option.bind_eq_some_iff.1 hs
    split_ifs at hs with hstate
    cases hs
    refine h.setState ht ?_
    unfold WaitTask.waits WaitTask.pending
    rw [hstate]
    rfl

theorem waiting_empty : Waiting empty where
  entry _ _ h := by cases h
  task _ _ h := by cases h
  buffered _ h := absurd rfl h
  texts _ := rfl

end

/-- The texts that were handed over, each with the key of its batch. -/
def delivered (s : Debounce) : List (ChatKey × String) :=
  s.batches.flatMap fun b => b.messages.map fun text => (b.key, text)

theorem handedOver_eq (s : Debounce) (key : ChatKey) :
    s.handedOver key = (s.delivered.filter fun m => m.1 == key).map Prod.snd := by
  unfold handedOver delivered
  induction s.batches with
  | nil => rfl
  | cons b batches ih =>
    rw [List.flatMap_cons, List.filter_append, List.map_append, ← ih, List.filter_cons]
    by_cases hb : b.key = key
    · have hown : (b.messages.map fun text => (b.key, text)).filter (fun m => m.1 == key) =
          b.messages.map fun text => (b.key, text) := by
        refine List.filter_eq_self.2 fun m hm => ?_
        obtain ⟨text, -, rfl⟩ := List.mem_map.1 hm
        exact beq_iff_eq.2 hb
      rw [if_pos (beq_iff_eq.2 hb), hown, List.flatMap_cons, List.map_map]
      exact congrArg (· ++ _) (List.map_id _).symm
    · have hnone : (b.messages.map fun text => (b.key, text)).filter (fun m => m.1 == key) = [] := by
        refine List.filter_eq_nil_iff.2 fun m hm => ?_
        obtain ⟨text, -, rfl⟩ := List.mem_map.1 hm
        exact fun h => hb (beq_iff_eq.1 h)
      rw [if_neg fun h => hb (beq_iff_eq.1 h), hnone]
      rfl

theorem count_of_key (l : List (ChatKey × String)) (key : ChatKey) (text : String) :
    ((l.filter fun m => m.1 == key).map Prod.snd).count text = l.count (key, text) := by
  rw [List.count_eq_countP, List.countP_map, List.countP_filter, List.count_eq_countP]
  refine List.countP_congr fun m _ => ?_
  simp only [Function.comp_apply, Bool.and_eq_true, beq_iff_eq, Prod.ext_iff]
  exact and_comm

/-- **No message is lost and none is repeated.** When no task waits any more, the batches of a key,
in the order in which they were handed over, are the texts that were passed for that key, in the
order in which they came.  Every text is in exactly one batch, and every text in a batch was passed
for the key of the batch. -/
theorem exactly_once (events : List DebounceEvent) (s : Debounce)
    (hrun : Runs.exec step empty events = some s) (hidle : ∀ t ∈ s.tasks, t.pending = false) :
    (∀ key, s.handedOver key = s.passed key) ∧ s.delivered.Perm s.arrived ∧
    ∀ b ∈ s.batches, ∀ text ∈ b.messages, (b.key, text) ∈ s.arrived := by
  have h : Waiting s := Runs.exec_inv_of_step (I := Waiting) (fun s e s' h hs => h.step hs) events
    empty s waiting_empty hrun
  have hempty : ∀ key, s.buffer key = [] := by
    intro key
    by_contra hne
    obtain ⟨i, hi⟩ := h.buffered key hne
    obtain ⟨t, ht, -, hw⟩ := h.entry key i hi
    rw [waits_of_not_pending (hidle t (List.mem_of_getElem? ht))] at hw
    cases hw
  have hall : ∀ key, s.handedOver key = s.passed key := fun key => by
    rw [← h.texts key, hempty key, List.append_nil]
  have hperm : s.delivered.Perm s.arrived := by
    refine List.perm_iff_count.2 fun m => ?_
    rw [← count_of_key, ← count_of_key, ← handedOver_eq, hall m.1]
    rfl
  refine ⟨hall, hperm, fun b hb text htext => hperm.mem_iff.1 ?_⟩
  exact List.mem_flatMap.2 ⟨b, hb, List.mem_map.2 ⟨text, htext, rfl⟩⟩

/-- A second message after the timer of the first has gone off, and a third while the two are
answered. -/
def burst : List DebounceEvent :=
  [.schedule (1, 900) "tea" 0, .start 0, .timer 0, .schedule (1, 900) "please" 1, .resume 0,
    .schedule (1, 901) "rug" 1, .start 1, .timer 1, .resume 1, .schedule (1, 900) "two" 2, .start 3,
    .start 2, .timer 3, .timer 2, .resume 2, .resume 3, .finish 1]

theorem exactly_once_burst :
    ∃ s, Runs.exec step empty burst = some s ∧
      s.batches.map Batch.messages = [["tea", "please"], ["rug"], ["two"]] ∧
      s.handedOver (1, 900) = ["tea", "please", "two"] :=
  ⟨_, rfl, rfl, (exactly_once burst _ rfl (by decide)).1 (1, 900)⟩

end Debounce

end KasbOKar
