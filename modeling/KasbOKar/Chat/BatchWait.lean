import KasbOKar.Chat.Debounce

/-!
# How long a batch may wait

The delays of `_schedule_debounced_processing` against the clock.  `MAX_BUFFER_WAIT_SECONDS` counts from
the first message of the buffer, but every message that comes in gets a delay of at least 0.3 seconds, also
when the ten seconds are over: the batch is put off again as long as messages come in fast enough.

`bounded_iff`: along a run the pending tasks are due within 10.3 seconds of the first message of their
buffer, if and only if no message joins a buffer whose first message is more than 10 seconds old.
`put_off` is a run in which one does, each message before the task that is pending.
-/

namespace KasbOKar

/-- The buffers and their tasks, with the clock. -/
structure TimedDebounce where
  debounce : Debounce := .empty
  /-- When each task was created. -/
  createdAt : List ℚ := []
  /-- When the messages of each buffer came in. -/
  arrivedAt : ChatKey → List ℚ := fun _ => []

namespace TimedDebounce

open Debounce

/-- A step of the event loop. -/
def step (s : TimedDebounce) (e : DebounceEvent) : Option TimedDebounce :=
  (s.debounce.step e).map fun debounce =>
    match e with
    | .schedule key _ now =>
      { debounce := debounce
        createdAt := s.createdAt ++ [now]
        arrivedAt := Function.update s.arrivedAt key (s.arrivedAt key ++ [now]) }
    | _ =>
      { debounce := debounce
        createdAt := s.createdAt
        arrivedAt := fun key => if debounce.buffer key = [] then [] else s.arrivedAt key }

/-- When the pending task of a buffer is due. -/
def dueAt (s : TimedDebounce) (key : ChatKey) : Option ℚ :=
  (s.debounce.pendingTasks key).bind fun i =>
    (s.debounce.tasks[i]?).bind fun task =>
      (s.createdAt[i]?).map fun created => created + task.delay.val

/-- No pending task is due later than `MAX_BUFFER_WAIT_SECONDS` and the least delay after the first
message of its buffer. -/
def Bounded (s : TimedDebounce) : Prop :=
  ∀ key due first, s.dueAt key = some due → (s.arrivedAt key).head? = some first →
    due ≤ first + 10 + 3 / 10

/-- The message joins a buffer that is at most `MAX_BUFFER_WAIT_SECONDS` old. -/
def InTime (s : TimedDebounce) : DebounceEvent → Prop
  | .schedule key _ now => ∀ first ∈ (s.arrivedAt key).head?, now ≤ first + 10
  | _ => True

instance (s : TimedDebounce) : ∀ e, Decidable (s.InTime e)
  | .schedule key _ now =>
    inferInstanceAs (Decidable (∀ first ∈ (s.arrivedAt key).head?, now ≤ first + 10))
  | .start _ => .isTrue trivial
  | .timer _ => .isTrue trivial
  | .resume _ => .isTrue trivial
  | .finish _ => .isTrue trivial

/-- A delay that starts after `elapsed` seconds ends in time exactly if no more than ten have passed. -/
theorem elapsed_add_delay_le_iff (elapsed : ℚ) :
    elapsed + (debounceDelay elapsed).val ≤ 10 + 3 / 10 ↔ elapsed ≤ 10 := by
  unfold debounceDelay
  dsimp only
  constructor
  · intro h
    by_contra hlate
    rw [max_eq_left (by linarith), min_eq_right (by norm_num)] at h
    linarith
  · intro h
    rcases le_total (10 - elapsed) (3 / 10) with hlast | hmore
    · rw [max_eq_left hlast, min_eq_right (by norm_num)]
      linarith
    · rw [max_eq_right hmore]
      have := min_le_right 3 (10 - elapsed)
      linarith

/-- The clock agrees with the three dictionaries. -/
structure Clocked (s : TimedDebounce) : Prop where
  created : s.createdAt.length = s.debounce.tasks.length
  buffered : ∀ key, (s.arrivedAt key).length = (s.debounce.buffer key).length
  started : ∀ key, s.debounce.pendingStartedAt key = (s.arrivedAt key).head?
  delay : ∀ key i, s.debounce.pendingTasks key = some i → ∃ task created first,
    s.debounce.tasks[i]? = some task ∧ s.createdAt[i]? = some created ∧
      (s.arrivedAt key).head? = some first ∧ task.delay = debounceDelay (created - first)

/-! ## What a task does to the buffers -/

/-- A task has moved on; the buffer of one key may have been popped. -/
structure Moved (s s' : Debounce) (popped : ChatKey → Prop) : Prop where
  length : s'.tasks.length = s.tasks.length
  delays : ∀ i : ℕ, (s'.tasks[i]?).map WaitTask.delay = (s.tasks[i]?).map WaitTask.delay
  gone : ∀ key, popped key →
    s'.buffer key = [] ∧ s'.pendingStartedAt key = none ∧ s'.pendingTasks key = none
  same : ∀ key, ¬ popped key → s'.buffer key = s.buffer key ∧
    s'.pendingStartedAt key = s.pendingStartedAt key ∧ s'.pendingTasks key = s.pendingTasks key

variable {s s' : Debounce}

theorem moved_setState (s : Debounce) (i : ℕ) (state : TaskState) :
    Moved s (s.setState i state) fun _ => False where
  length := List.length_modify ..
  delays j := by
    rw [tasks_setState, Option.map_map]
    refine congrArg (fun f => Option.map f s.tasks[j]?) (funext fun t => ?_)
    dsimp only [Function.comp]
    split_ifs <;> rfl
  gone _ h := h.elim
  same _ _ := ⟨rfl, rfl, rfl⟩

theorem moved_processBatch (s : Debounce) (i : ℕ) (key : ChatKey) :
    Moved s (s.processBatch i key) fun k => k = key := by
  obtain ⟨state, -, htasks⟩ := processBatch_tasks (s := s) i key
  have hmoved := moved_setState s i state
  have hstarted : (s.processBatch i key).pendingStartedAt =
      Function.update s.pendingStartedAt key none := by
    unfold processBatch
    dsimp only
    split_ifs <;> rfl
  refine ⟨htasks ▸ hmoved.length, fun j => htasks ▸ hmoved.delays j, fun k hk => ?_, fun k hk => ?_⟩
  · subst hk
    rw [processBatch_buffer, if_pos rfl, hstarted, Function.update_self, processBatch_pendingTasks,
      Function.update_self]
    exact ⟨rfl, rfl, rfl⟩
  · rw [processBatch_buffer, if_neg hk, hstarted, Function.update_of_ne hk, processBatch_pendingTasks,
      Function.update_of_ne hk]
    exact ⟨rfl, rfl, rfl⟩

/-- Every step that is not a message moves a task on. -/
theorem moved_of_step {e : DebounceEvent} (h : s.step e = some s')
    (he : ∀ key text now, e ≠ .schedule key text now) : ∃ popped, Moved s s' popped := by
  cases e with
  | schedule key text now => exact absurd rfl (he key text now)
  | start i =>
    obtain ⟨t, -, h⟩ := Option.bind_eq_some_iff.1 h
    split_ifs at h <;> cases h <;> exact ⟨_, moved_setState s i _⟩
  | timer i =>
    obtain ⟨t, -, h⟩ := Option.bind_eq_some_iff.1 h
    split_ifs at h
    cases h
    exact ⟨_, moved_setState s i _⟩
  | resume i =>
    obtain ⟨t, -, h⟩ := Option.bind_eq_some_iff.1 h
    split_ifs at h
    · cases h
      exact ⟨_, moved_setState s i _⟩
    · cases h
      exact ⟨_, moved_processBatch s i t.key⟩
  | finish i =>
    obtain ⟨t, -, h⟩ := Option.bind_eq_some_iff.1 h
    split_ifs at h
    cases h
    exact ⟨_, moved_setState s i _⟩

/-! ## What a step does to the clock -/

section

variable {s s' : TimedDebounce}

theorem dueAt_eq_some_iff {key : ChatKey} {due : ℚ} : s.dueAt key = some due ↔
    ∃ i task created, s.debounce.pendingTasks key = some i ∧ s.debounce.tasks[i]? = some task ∧
      s.createdAt[i]? = some created ∧ created + task.delay.val = due := by
  unfold dueAt
  simp only [Option.bind_eq_some_iff, Option.map_eq_some_iff]
  constructor
  · rintro ⟨i, hi, task, htask, created, hcreated, rfl⟩
    exact ⟨i, task, created, hi, htask, hcreated, rfl⟩
  · rintro ⟨i, task, created, hi, htask, hcreated, rfl⟩
    exact ⟨i, hi, task, htask, created, hcreated, rfl⟩

/-- The state after a step that is not a message. -/
def moveOn (s : TimedDebounce) (debounce : Debounce) : TimedDebounce :=
  { debounce := debounce
    createdAt := s.createdAt
    arrivedAt := fun key => if debounce.buffer key = [] then [] else s.arrivedAt key }

/-- The state after a message. -/
def message (s : TimedDebounce) (key : ChatKey) (text : String) (now : ℚ) : TimedDebounce :=
  { debounce := s.debounce.scheduleDebouncedProcessing key text now
    createdAt := s.createdAt ++ [now]
    arrivedAt := Function.update s.arrivedAt key (s.arrivedAt key ++ [now]) }

/-- Every step is a message or moves a task on. -/
theorem step_cases {e : DebounceEvent} (h : s.step e = some s') :
    (∃ key text now, e = .schedule key text now ∧ s' = s.message key text now) ∨
    (s.InTime e ∧ ∃ debounce popped, Moved s.debounce debounce popped ∧ s' = s.moveOn debounce) := by
  obtain ⟨debounce, hstep, rfl⟩ := Option.map_eq_some_iff.1 h
  cases e with
  | schedule key text now =>
    cases hstep
    exact .inl ⟨key, text, now, rfl, rfl⟩
  | _ =>
    obtain ⟨popped, hmoved⟩ := moved_of_step hstep nofun
    exact .inr ⟨trivial, debounce, popped, hmoved, rfl⟩

variable {debounce : Debounce} {popped : ChatKey → Prop}

theorem Clocked.arrivedAt_moveOn (h : Clocked s) (hmoved : Moved s.debounce debounce popped)
    {key : ChatKey} (hkey : ¬ popped key) : (s.moveOn debounce).arrivedAt key = s.arrivedAt key := by
  unfold moveOn
  dsimp only
  rw [(hmoved.same key hkey).1]
  split_ifs with hempty
  · refine (List.length_eq_zero_iff.1 ?_).symm
    rw [h.buffered key, hempty]
    rfl
  · rfl

theorem arrivedAt_moveOn_popped (hmoved : Moved s.debounce debounce popped) {key : ChatKey}
    (hkey : popped key) : (s.moveOn debounce).arrivedAt key = [] := if_pos (hmoved.gone key hkey).1

/-- A task keeps its delay. -/
theorem Moved.task {d : Debounce} (hmoved : Moved d debounce popped) {i : ℕ} {task : WaitTask}
    (h : d.tasks[i]? = some task) :
    ∃ task', debounce.tasks[i]? = some task' ∧ task'.delay = task.delay := by
  have hdelay := hmoved.delays i
  rw [h, Option.map_some] at hdelay
  exact Option.map_eq_some_iff.1 hdelay

theorem Clocked.moveOn (h : Clocked s) (hmoved : Moved s.debounce debounce popped) :
    Clocked (s.moveOn debounce) where
  created := h.created.trans hmoved.length.symm
  buffered key := by
    by_cases hkey : popped key
    · rw [arrivedAt_moveOn_popped hmoved hkey]
      exact (congrArg List.length (hmoved.gone key hkey).1).symm
    · rw [h.arrivedAt_moveOn hmoved hkey, h.buffered key]
      exact (congrArg List.length (hmoved.same key hkey).1).symm
  started key := by
    by_cases hkey : popped key
    · rw [arrivedAt_moveOn_popped hmoved hkey]
      exact (hmoved.gone key hkey).2.1
    · rw [h.arrivedAt_moveOn hmoved hkey, ← h.started key]
      exact (hmoved.same key hkey).2.1
  delay key i hi := by
    by_cases hkey : popped key
    · cases (hmoved.gone key hkey).2.2.symm.trans hi
    · obtain ⟨task, created, first, htask, hcreated, hfirst, hdelay⟩ :=
        h.delay key i ((hmoved.same key hkey).2.2.symm.trans hi)
      obtain ⟨task', htask', heq⟩ := hmoved.task htask
      refine ⟨task', created, first, htask', hcreated, ?_, heq.trans hdelay⟩
      rw [h.arrivedAt_moveOn hmoved hkey]
      exact hfirst

/-- A task that moves on makes none due later. -/
theorem Bounded.moveOn (hbounded : Bounded s) (h : Clocked s)
    (hmoved : Moved s.debounce debounce popped) : Bounded (s.moveOn debounce) := by
  intro key due first hdue hfirst
  by_cases hkey : popped key
  · rw [arrivedAt_moveOn_popped hmoved hkey] at hfirst
    cases hfirst
  · rw [h.arrivedAt_moveOn hmoved hkey] at hfirst
    refine hbounded key due first ?_ hfirst
    obtain ⟨i, task', created, hi, htask', hcreated, rfl⟩ := dueAt_eq_some_iff.1 hdue
    have hi' : s.debounce.pendingTasks key = some i := (hmoved.same key hkey).2.2.symm.trans hi
    obtain ⟨task, created', first', htask, -, -, -⟩ := h.delay key i hi'
    obtain ⟨task'', htask'', heq⟩ := hmoved.task htask
    cases htask'.symm.trans htask''
    exact dueAt_eq_some_iff.2 ⟨i, task, created, hi', htask, hcreated, by rw [heq]⟩

/-! ## A message -/

/-- `cancel` leaves the delays alone. -/
theorem delay_cancelTask {tasks : List WaitTask} (existing : Option ℕ) {i : ℕ} {task : WaitTask}
    (h : tasks[i]? = some task) :
    ∃ task', (cancelTask tasks existing)[i]? = some task' ∧ task'.delay = task.delay := by
  cases existing with
  | none => exact ⟨task, h, rfl⟩
  | some j =>
    refine ⟨_, (List.getElem?_modify ..).trans (by rw [h]; rfl), ?_⟩
    dsimp only
    split_ifs <;> rfl

theorem length_cancelTask (tasks : List WaitTask) (existing : Option ℕ) :
    (cancelTask tasks existing).length = tasks.length := by
  cases existing with
  | none => rfl
  | some i => exact List.length_modify ..

/-- A message leaves the other tasks their delays. -/
theorem task_message (s : Debounce) (key : ChatKey) (text : String) (now : ℚ) {i : ℕ} {task : WaitTask}
    (h : s.tasks[i]? = some task) :
    ∃ task', (s.scheduleDebouncedProcessing key text now).tasks[i]? = some task' ∧
      task'.delay = task.delay := by
  obtain ⟨task', htask', hdelay⟩ := delay_cancelTask (s.pendingTasks key) h
  refine ⟨task', ?_, hdelay⟩
  change (cancelTask s.tasks (s.pendingTasks key) ++ _)[i]? = some task'
  rw [List.getElem?_append_left (List.getElem?_eq_some_iff.1 htask').1, htask']

/-- The first message of the buffer that a message joins. -/
def startedAt (s : TimedDebounce) (key : ChatKey) (now : ℚ) : ℚ := (s.arrivedAt key).head?.getD now

theorem head_message (s : TimedDebounce) (key : ChatKey) (text : String) (now : ℚ) :
    ((s.message key text now).arrivedAt key).head? = some (s.startedAt key now) := by
  unfold message startedAt
  dsimp only
  rw [Function.update_self]
  cases s.arrivedAt key <;> rfl

/-- The task of a message. -/
theorem pending_message (h : Clocked s) (key : ChatKey) (text : String) (now : ℚ) :
    ∃ task, (s.message key text now).debounce.pendingTasks key = some s.debounce.tasks.length ∧
      (s.message key text now).debounce.tasks[s.debounce.tasks.length]? = some task ∧
      (s.message key text now).createdAt[s.debounce.tasks.length]? = some now ∧
      task.delay = debounceDelay (now - s.startedAt key now) := by
  have hlength := length_cancelTask s.debounce.tasks (s.debounce.pendingTasks key)
  refine ⟨{ key := key, delay := debounceDelay (now - s.startedAt key now) }, ?_, ?_, ?_, rfl⟩
  · change Function.update s.debounce.pendingTasks key _ key = _
    rw [Function.update_self, hlength]
  · change (cancelTask s.debounce.tasks (s.debounce.pendingTasks key) ++
      [{ key := key, delay := debounceDelay (now - (s.debounce.pendingStartedAt key).getD now) }])[
        s.debounce.tasks.length]? = _
    rw [h.started key, ← hlength, List.getElem?_concat_length]
    rfl
  · change (s.createdAt ++ [now])[s.debounce.tasks.length]? = _
    rw [← h.created, List.getElem?_concat_length]

theorem Clocked.message (h : Clocked s) (key : ChatKey) (text : String) (now : ℚ) :
    Clocked (s.message key text now) where
  created := by
    change (s.createdAt ++ [now]).length = (cancelTask s.debounce.tasks _ ++ [_]).length
    rw [List.length_append, List.length_append, length_cancelTask, h.created]
    rfl
  buffered k := by
    change (Function.update s.arrivedAt key _ k).length =
      ((Function.update s.debounce.pendingBuffers key _ k).getD []).length
    by_cases hk : k = key
    · subst hk
      rw [Function.update_self, Function.update_self, List.length_append, h.buffered k, Option.getD_some,
        List.length_append]
      rfl
    · rw [Function.update_of_ne hk, Function.update_of_ne hk]
      exact h.buffered k
  started k := by
    by_cases hk : k = key
    · subst hk
      rw [head_message]
      change Function.update s.debounce.pendingStartedAt k _ k = _
      rw [Function.update_self, h.started k]
      rfl
    · change Function.update s.debounce.pendingStartedAt key _ k =
        (Function.update s.arrivedAt key _ k).head?
      rw [Function.update_of_ne hk, Function.update_of_ne hk]
      exact h.started k
  delay k i hi := by
    by_cases hk : k = key
    · subst hk
      obtain ⟨task, hpending, htask, hcreated, hdelay⟩ := pending_message h k text now
      cases hpending.symm.trans hi
      exact ⟨task, now, s.startedAt k now, htask, hcreated, head_message s k text now, hdelay⟩
    · change Function.update s.debounce.pendingTasks key _ k = some i at hi
      rw [Function.update_of_ne hk] at hi
      obtain ⟨task, created, first, htask, hcreated, hfirst, hdelay⟩ := h.delay k i hi
      obtain ⟨task', htask', heq⟩ := task_message s.debounce key text now htask
      refine ⟨task', created, first, htask', ?_, ?_, heq.trans hdelay⟩
      · change (s.createdAt ++ [now])[i]? = some created
        rw [List.getElem?_append_left (List.getElem?_eq_some_iff.1 hcreated).1, hcreated]
      · change (Function.update s.arrivedAt key _ k).head? = some first
        rw [Function.update_of_ne hk]
        exact hfirst

/-- The task of a message is due in time exactly if the buffer is not too old. -/
theorem bounded_message (h : Clocked s) (hbounded : Bounded s) (key : ChatKey) (text : String) (now : ℚ) :
    Bounded (s.message key text now) ↔ s.InTime (.schedule key text now) := by
  obtain ⟨task, hpending, htask, hcreated, hdelay⟩ := pending_message h key text now
  have hdue : (s.message key text now).dueAt key =
      some (now + (debounceDelay (now - s.startedAt key now)).val) :=
    dueAt_eq_some_iff.2 ⟨_, task, now, hpending, htask, hcreated, by rw [hdelay]⟩
  have hiff : now + (debounceDelay (now - s.startedAt key now)).val ≤ s.startedAt key now + 10 + 3 / 10 ↔
      now ≤ s.startedAt key now + 10 := by
    have := elapsed_add_delay_le_iff (now - s.startedAt key now)
    constructor
    · intro hle
      linarith [this.1 (by linarith)]
    · intro hle
      linarith [this.2 (by linarith)]
  constructor
  · intro hall first hfirst
    have hstart : s.startedAt key now = first := by
      unfold startedAt
      rw [Option.mem_def.1 hfirst]
      rfl
    have hle := hiff.1 (hall key _ _ hdue (head_message s key text now))
    rwa [hstart] at hle
  · intro hintime k due first hk hfirst
    by_cases hkey : k = key
    · subst hkey
      rw [hdue] at hk
      rw [head_message] at hfirst
      cases hk
      cases hfirst
      refine hiff.2 ?_
      unfold startedAt
      cases hhead : (s.arrivedAt k).head? with
      | none =>
        rw [Option.getD_none]
        linarith
      | some first => exact hintime first hhead
    · -- the tasks of the other keys are as they were
      have hfirst' : (s.arrivedAt k).head? = some first := by
        change (Function.update s.arrivedAt key _ k).head? = some first at hfirst
        rwa [Function.update_of_ne hkey] at hfirst
      refine hbounded k due first ?_ hfirst'
      obtain ⟨i, task', created, hi, htask', hcreated', rfl⟩ := dueAt_eq_some_iff.1 hk
      change Function.update s.debounce.pendingTasks key _ k = some i at hi
      rw [Function.update_of_ne hkey] at hi
      obtain ⟨told, created', first', htold, hcreatedold, -, -⟩ := h.delay k i hi
      obtain ⟨task'', htask'', heq⟩ := task_message s.debounce key text now htold
      cases htask'.symm.trans htask''
      change (s.createdAt ++ [now])[i]? = some created at hcreated'
      rw [List.getElem?_append_left (List.getElem?_eq_some_iff.1 hcreatedold).1] at hcreated'
      exact dueAt_eq_some_iff.2 ⟨i, told, created, hi, htold, hcreated', by rw [heq]⟩

/-! ## Runs -/

/-- What a step does to the bound. -/
theorem step_bounded {e : DebounceEvent} (h : s.step e = some s') (hclocked : Clocked s)
    (hbounded : Bounded s) : (Clocked s' ∧ Bounded s') ↔ s.InTime e := by
  rcases step_cases h with ⟨key, text, now, rfl, rfl⟩ | ⟨hintime, debounce, popped, hmoved, rfl⟩
  · rw [bounded_message hclocked hbounded]
    exact and_iff_right (hclocked.message key text now)
  · exact iff_of_true ⟨hclocked.moveOn hmoved, hbounded.moveOn hclocked hmoved⟩ hintime

theorem Clocked.step {e : DebounceEvent} (hclocked : Clocked s) (h : s.step e = some s') :
    Clocked s' := by
  rcases step_cases h with ⟨key, text, now, -, rfl⟩ | ⟨-, debounce, popped, hmoved, rfl⟩
  · exact hclocked.message key text now
  · exact hclocked.moveOn hmoved

theorem clocked_empty : Clocked {} where
  created := rfl
  buffered _ := rfl
  started _ := rfl
  delay _ _ h := by cases h

theorem bounded_empty : Bounded {} := by
  intro key due first hdue
  cases hdue

end

/-- Along a run the pending tasks are due in time, if and only if no message joins a buffer that is more
than ten seconds old. -/
theorem bounded_iff (es : List DebounceEvent) (s : TimedDebounce)
    (hrun : Runs.exec step {} es = some s) :
    Runs.Always step Bounded {} es ↔ Runs.Along step InTime {} es := by
  have hboth : Runs.Always step (fun s => Clocked s ∧ Bounded s) {} es ↔ Runs.Along step InTime {} es :=
    Runs.always_iff (D := fun _ => True) (fun s e s' hI _ h => step_bounded h hI.1 hI.2) es {} s
      ⟨clocked_empty, bounded_empty⟩ (fun _ _ => trivial) hrun
  rw [← hboth]
  constructor
  · intro h before after s' hsplit hs'
    exact ⟨Runs.exec_inv_of_step (fun _ _ _ hc hs => Clocked.step hc hs) before {} s' clocked_empty hs',
      h before after s' hsplit hs'⟩
  · intro h before after s' hsplit hs'
    exact (h before after s' hsplit hs').2

/-- Messages at these times, the first of them to an empty buffer; each of them finds the task of the one
before asleep, and it is cancelled. -/
def messagesAt (times : List ℚ) : List DebounceEvent :=
  (times.zipIdx.map fun (now, i) =>
    [DebounceEvent.schedule (1, 7) "hm" now] ++ (if i = 0 then [] else [.resume (i - 1)]) ++
      [.start i]).flatten

/-- The event loop has not come to the time at which the pending task is due. -/
def OnTime (s : TimedDebounce) : DebounceEvent → Bool
  | .schedule key _ now => (s.dueAt key).all fun due => decide (now < due)
  | _ => true

theorem bounded_iff_inTime : (Runs.exec step {} (messagesAt [0, 29 / 10, 58 / 10])).isSome = true ∧
    Runs.Always step Bounded {} (messagesAt [0, 29 / 10, 58 / 10]) := by
  have hrun : (Runs.exec step {} (messagesAt [0, 29 / 10, 58 / 10])).isSome = true := by decide +kernel
  exact ⟨hrun, (bounded_iff _ _ (Option.some_get hrun).symm).2 (by decide +kernel)⟩

/-- The last of these messages comes in 10.2 seconds after the first one, and puts the batch off to 10.5
seconds; each of them comes before the task is due that is pending. -/
theorem put_off :
    Runs.Along step (fun s e => s.OnTime e = true) {}
        (messagesAt [0, 29 / 10, 58 / 10, 87 / 10, 199 / 20, 51 / 5]) ∧
      ((Runs.exec step {} (messagesAt [0, 29 / 10, 58 / 10, 87 / 10, 199 / 20, 51 / 5])).bind fun s =>
        s.dueAt (1, 7)) = some (21 / 2) ∧
      ¬ Runs.Always step Bounded {} (messagesAt [0, 29 / 10, 58 / 10, 87 / 10, 199 / 20, 51 / 5]) := by
  have hdue : ((Runs.exec step {}
      (messagesAt [0, 29 / 10, 58 / 10, 87 / 10, 199 / 20, 51 / 5])).bind fun s =>
        s.dueAt (1, 7)) = some (21 / 2) := by decide +kernel
  refine ⟨by decide +kernel, hdue, fun h => ?_⟩
  have hfirst : ((Runs.exec step {}
      (messagesAt [0, 29 / 10, 58 / 10, 87 / 10, 199 / 20, 51 / 5])).bind fun s =>
        (s.arrivedAt (1, 7)).head?) = some 0 := by decide +kernel
  obtain ⟨s, hs, hdue⟩ := Option.bind_eq_some_iff.1 hdue
  rw [hs, Option.bind_some] at hfirst
  have := h _ [] s (List.append_nil _).symm hs (1, 7) _ _ hdue hfirst
  norm_num at this

end TimedDebounce

end KasbOKar
