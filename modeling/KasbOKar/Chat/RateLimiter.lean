import KasbOKar.Chat.Debounce
import KasbOKar.Lib.SlidingWindow
import KasbOKar.Lib.Transcript

/-!
# The rate limiter

`InMemoryRateLimiter` of `services/rate_limiter.py`, which `_check_access` asks before a message goes on.
Every chat has a deque with the times of the calls that returned `True`; a call drops those from its left
end that are too old and counts what is left.

`RateLimiter.checkAndRecord_exact`: over any calls in the order of their times this is an exact sliding
window, for each chat on its own.
-/

namespace KasbOKar

/-- A call of `check_and_record`. -/
structure RateCall where
  /-- `shop_bot_id` and `customer_telegram_id`. -/
  key : ChatKey
  /-- `time.monotonic()`. -/
  now : ℚ
  deriving DecidableEq

namespace RateLimiter

/-- `_windows`. -/
abbrev Windows : Type := ChatKey → List ℚ

/-- The loop that pops from the left. -/
def popLeft (now : ℚ) (windowSeconds : ℤ) : List ℚ → List ℚ
  | [] => []
  | s :: window => if now - s > windowSeconds then popLeft now windowSeconds window else s :: window

/-- `check_and_record`, with the windows after it. -/
def checkAndRecord (maxMessages windowSeconds : ℤ) (windows : Windows) (call : RateCall) :
    Windows × Bool :=
  let window := popLeft call.now windowSeconds (windows call.key)
  if (window.length : ℤ) ≥ maxMessages then (Function.update windows call.key window, false)
  else (Function.update windows call.key (window ++ [call.now]), true)

/-- The calls with their answers. -/
def answers (maxMessages windowSeconds : ℤ) (calls : List RateCall) : List (RateCall × Bool) :=
  Transcript.log (checkAndRecord maxMessages windowSeconds) (fun _ => []) calls

/-- The times of the calls of a chat that returned `True`. -/
def acceptedAt (log : List (RateCall × Bool)) (key : ChatKey) : List ℚ :=
  (log.filter fun e => e.2 && e.1.key == key).map fun e => e.1.now

/-- The windows after some calls. -/
def windowsAfter (maxMessages windowSeconds : ℤ) (calls : List RateCall) : Windows :=
  Transcript.state (checkAndRecord maxMessages windowSeconds) (fun _ => []) calls

/-! ## The window of a chat -/

/-- A time that a call drops. -/
def stale (windowSeconds : ℤ) (now s : ℚ) : Bool := decide (now - s > windowSeconds)

theorem ageing (windowSeconds : ℤ) : SlidingWindow.Ageing (stale windowSeconds) := by
  intro now now' s s' hnow hs h
  unfold stale at h ⊢
  rw [decide_eq_true_eq] at h ⊢
  linarith

theorem popLeft_eq (now : ℚ) (windowSeconds : ℤ) (window : List ℚ) :
    popLeft now windowSeconds window = SlidingWindow.prune (stale windowSeconds) now window := by
  induction window with
  | nil => rfl
  | cons s window ih =>
    unfold popLeft SlidingWindow.prune
    rw [List.dropWhile_cons]
    by_cases hold : now - s > windowSeconds
    · have hstale : stale windowSeconds now s = true := decide_eq_true hold
      rw [if_pos hold, if_pos hstale]
      exact ih
    · have hfresh : ¬ stale windowSeconds now s = true := by simpa [stale] using hold
      rw [if_neg hold, if_neg hfresh]

variable {maxMessages windowSeconds : ℤ}

/-- A call is a request to the window of its chat. -/
theorem checkAndRecord_eq (windows : Windows) (call : RateCall) :
    checkAndRecord maxMessages windowSeconds windows call =
      let request := SlidingWindow.accept (stale windowSeconds) maxMessages.toNat call.now
        (windows call.key)
      (Function.update windows call.key request.2, request.1) := by
  unfold checkAndRecord SlidingWindow.accept
  rw [popLeft_eq]
  dsimp only
  generalize SlidingWindow.prune (stale windowSeconds) call.now (windows call.key) = window
  by_cases hfull : (window.length : ℤ) ≥ maxMessages
  · rw [if_pos hfull, if_pos (by omega)]
  · rw [if_neg hfull, if_neg (by omega)]

theorem acceptedAt_snoc (log : List (RateCall × Bool)) (call : RateCall) (accepted : Bool)
    (key : ChatKey) :
    acceptedAt (log ++ [(call, accepted)]) key =
      if accepted = true ∧ call.key = key then acceptedAt log key ++ [call.now]
      else acceptedAt log key := by
  unfold acceptedAt
  rw [List.filter_append, List.map_append]
  split_ifs with h
  · rw [List.filter_cons_of_pos (by simpa using h)]
    rfl
  · rw [List.filter_cons_of_neg (by simpa using h)]
    exact List.append_nil _

theorem answers_snoc (calls : List RateCall) (call : RateCall) :
    answers maxMessages windowSeconds (calls ++ [call]) = answers maxMessages windowSeconds calls ++
      [(call, (SlidingWindow.accept (stale windowSeconds) maxMessages.toNat call.now
        (windowsAfter maxMessages windowSeconds calls call.key)).1)] := by
  unfold answers windowsAfter
  rw [Transcript.log_snoc, checkAndRecord_eq]

theorem windowsAfter_snoc (calls : List RateCall) (call : RateCall) :
    windowsAfter maxMessages windowSeconds (calls ++ [call]) =
      Function.update (windowsAfter maxMessages windowSeconds calls) call.key
        (SlidingWindow.accept (stale windowSeconds) maxMessages.toNat call.now
          (windowsAfter maxMessages windowSeconds calls call.key)).2 := by
  unfold windowsAfter
  rw [Transcript.state_snoc, checkAndRecord_eq]

/-- Calls in the order of their times. -/
def InOrder (calls : List RateCall) : Prop := calls.Pairwise fun c c' => c.now ≤ c'.now

theorem inOrder_snoc {calls : List RateCall} {call : RateCall} (h : InOrder (calls ++ [call])) :
    InOrder calls ∧ ∀ c ∈ calls, c.now ≤ call.now := by
  obtain ⟨hcalls, -, hlast⟩ := List.pairwise_append.1 h
  exact ⟨hcalls, fun c hc => hlast c hc call List.mem_cons_self⟩

/-- The window of a chat stands for the calls of the chat that were accepted. -/
theorem represents {calls : List RateCall} (horder : InOrder calls) {t : ℚ}
    (ht : ∀ c ∈ calls, c.now ≤ t) (key : ChatKey) :
    SlidingWindow.Represents (stale windowSeconds) t
      (acceptedAt (answers maxMessages windowSeconds calls) key)
      (windowsAfter maxMessages windowSeconds calls key) := by
  induction calls using List.reverseRecOn generalizing t with
  | nil => exact SlidingWindow.Represents.nil
  | append_singleton calls call ih =>
    obtain ⟨hcalls, hlast⟩ := inOrder_snoc horder
    have hnow : call.now ≤ t := ht call (List.mem_append_right _ List.mem_cons_self)
    have hrep := ih hcalls hlast
    rw [answers_snoc, windowsAfter_snoc, acceptedAt_snoc]
    by_cases hkey : call.key = key
    · subst hkey
      rw [Function.update_self]
      simpa using (hrep.accept_snd (ageing windowSeconds)).later hnow
    · rw [Function.update_of_ne (Ne.symm hkey), if_neg fun h => hkey h.2]
      exact hrep.later hnow

variable (maxMessages windowSeconds) in
/-- What a call answers. -/
theorem accept_iff {calls : List RateCall} {call : RateCall} (horder : InOrder (calls ++ [call])) :
    (SlidingWindow.accept (stale windowSeconds) maxMessages.toNat call.now
        (windowsAfter maxMessages windowSeconds calls call.key)).1 = true ↔
      (SlidingWindow.fresh (stale windowSeconds) call.now
        (acceptedAt (answers maxMessages windowSeconds calls) call.key)).length < maxMessages.toNat := by
  obtain ⟨hcalls, hlast⟩ := inOrder_snoc horder
  exact (represents hcalls hlast call.key).accept_fst (ageing windowSeconds)

/-! ## The calls that were accepted -/

/-- The accepted calls of a chat that are not older than the window at `now`. -/
def countedAt (windowSeconds : ℤ) (log : List (RateCall × Bool)) (call : RateCall) : List ℚ :=
  (acceptedAt log call.key).filter fun s => call.now - s ≤ windowSeconds

theorem fresh_eq (log : List (RateCall × Bool)) (call : RateCall) :
    SlidingWindow.fresh (stale windowSeconds) call.now (acceptedAt log call.key) =
      countedAt windowSeconds log call := by
  refine List.filter_congr fun s _ => ?_
  unfold stale
  rw [← decide_not]
  exact decide_eq_decide.2 not_lt

variable (maxMessages windowSeconds) in
theorem answers_map_fst (calls : List RateCall) :
    (answers maxMessages windowSeconds calls).map Prod.fst = calls := Transcript.log_map_fst calls

theorem sorted_acceptedAt {calls : List RateCall} (horder : InOrder calls) (key : ChatKey) :
    (acceptedAt (answers maxMessages windowSeconds calls) key).Pairwise (· ≤ ·) := by
  have hnow := congrArg (List.map RateCall.now) (answers_map_fst maxMessages windowSeconds calls)
  rw [List.map_map] at hnow
  have hsub : (acceptedAt (answers maxMessages windowSeconds calls) key).Sublist
      (calls.map RateCall.now) := by
    rw [← hnow]
    exact List.filter_sublist.map _
  exact List.Pairwise.sublist hsub (List.pairwise_map.2 horder)

/-- Every accepted call found fewer than `max_messages` counted ones. -/
theorem limited {calls : List RateCall} (horder : InOrder calls) (key : ChatKey) :
    SlidingWindow.Limited (stale windowSeconds) maxMessages.toNat
      (acceptedAt (answers maxMessages windowSeconds calls) key) := by
  induction calls using List.reverseRecOn with
  | nil => exact SlidingWindow.limited_nil
  | append_singleton calls call ih =>
    have hrest := ih (inOrder_snoc horder).1
    rw [answers_snoc, acceptedAt_snoc]
    split_ifs with h
    · obtain ⟨haccepted, rfl⟩ := h
      exact hrest.snoc ((accept_iff maxMessages windowSeconds horder).1 haccepted)
    · exact hrest

/-- A call is accepted exactly if fewer than `max_messages` calls of its chat are counted. -/
theorem accepted_iff {calls : List RateCall} (horder : InOrder calls)
    {before after : List (RateCall × Bool)} {call : RateCall} {accepted : Bool}
    (h : answers maxMessages windowSeconds calls = before ++ (call, accepted) :: after) :
    accepted = true ↔ ((countedAt windowSeconds before call).length : ℤ) < maxMessages := by
  obtain ⟨calls₁, calls₂, rfl, rfl, rfl⟩ := Transcript.log_split h
  have horder₁ : InOrder (calls₁ ++ [call]) := by
    refine List.Pairwise.sublist ?_ horder
    exact (List.singleton_sublist.2 List.mem_cons_self).append_left calls₁
  have hiff := accept_iff maxMessages windowSeconds horder₁
  rw [fresh_eq, Int.lt_toNat] at hiff
  rw [checkAndRecord_eq]
  exact hiff

/-- `max_messages + 1` accepted calls of a chat span more than `window_seconds`. -/
theorem span {calls : List RateCall} (horder : InOrder calls) {key : ChatKey} {first last : ℚ}
    {between : List ℚ} (hsub : (first :: between ++ [last]).Sublist
      (acceptedAt (answers maxMessages windowSeconds calls) key))
    (hlen : (between.length : ℤ) + 2 = maxMessages + 1) : last - first > windowSeconds := by
  have hstale := SlidingWindow.stale_of_sublist (ageing windowSeconds)
    (limited horder key) (sorted_acceptedAt horder key) hsub (show between.length + 1 = maxMessages.toNat by omega)
  unfold stale at hstale
  exact of_decide_eq_true hstale

/-- The other chats have no influence. -/
theorem answers_filter (calls : List RateCall) (key : ChatKey) :
    (answers maxMessages windowSeconds calls).filter (fun e => e.1.key == key) =
        answers maxMessages windowSeconds (calls.filter fun c => c.key == key) ∧
      windowsAfter maxMessages windowSeconds calls key =
        windowsAfter maxMessages windowSeconds (calls.filter fun c => c.key == key) key := by
  induction calls using List.reverseRecOn with
  | nil => exact ⟨rfl, rfl⟩
  | append_singleton calls call ih =>
    obtain ⟨hlog, hwindow⟩ := ih
    rw [answers_snoc, windowsAfter_snoc, List.filter_append, List.filter_append]
    by_cases hkey : call.key = key
    · subst hkey
      rw [List.filter_cons_of_pos (by simp), List.filter_cons_of_pos (by simp), List.filter_nil,
        List.filter_nil, answers_snoc, windowsAfter_snoc, hlog, hwindow]
      exact ⟨rfl, by rw [Function.update_self, Function.update_self]⟩
    · rw [List.filter_cons_of_neg (by simpa using hkey), List.filter_cons_of_neg (by simpa using hkey),
        List.filter_nil, List.filter_nil, List.append_nil, List.append_nil,
        Function.update_of_ne (Ne.symm hkey)]
      exact ⟨hlog, hwindow⟩

theorem acceptedAt_filter (log : List (RateCall × Bool)) (key : ChatKey) :
    acceptedAt (log.filter fun e => e.2) key = acceptedAt log key := by
  unfold acceptedAt
  rw [List.filter_filter]
  refine congrArg _ (List.filter_congr fun e _ => ?_)
  cases e.2 <;> simp

/-- Without the calls that were refused all others answer as before. -/
theorem answers_accepted {calls : List RateCall} (horder : InOrder calls) :
    answers maxMessages windowSeconds
        (((answers maxMessages windowSeconds calls).filter fun e => e.2).map Prod.fst) =
      (answers maxMessages windowSeconds calls).filter fun e => e.2 := by
  induction calls using List.reverseRecOn with
  | nil => rfl
  | append_singleton calls call ih =>
    have hrest := ih (inOrder_snoc horder).1
    have hiff := accept_iff maxMessages windowSeconds horder
    have hkept : (((answers maxMessages windowSeconds calls).filter fun e => e.2).map
        Prod.fst).Sublist calls := by
      conv_rhs => rw [← answers_map_fst maxMessages windowSeconds calls]
      exact List.filter_sublist.map _
    have horder' := List.Pairwise.sublist (hkept.append_right [call]) horder
    have hiff' := accept_iff maxMessages windowSeconds horder'
    rw [hrest, acceptedAt_filter, ← hiff] at hiff'
    rw [answers_snoc, List.filter_append, List.map_append]
    cases haccepted : (SlidingWindow.accept (stale windowSeconds) maxMessages.toNat call.now
        (windowsAfter maxMessages windowSeconds calls call.key)).1 with
    | true =>
      rw [List.filter_cons_of_pos rfl, List.filter_nil, List.map_singleton, answers_snoc, hrest,
        hiff'.2 haccepted]
    | false =>
      rw [List.filter_cons_of_neg Bool.false_ne_true, List.filter_nil, List.map_nil, List.append_nil,
        List.append_nil, hrest]

/-- The limiter as an exact sliding window. -/
structure ExactWindow (maxMessages windowSeconds : ℤ) (calls : List RateCall) : Prop where
  /-- The calls are answered in their order, each by the number of calls of its chat that returned
  `True` within the window. -/
  calls_eq : (answers maxMessages windowSeconds calls).map Prod.fst = calls
  exact_answer : ∀ before call accepted after,
    answers maxMessages windowSeconds calls = before ++ (call, accepted) :: after →
      (accepted = true ↔ ((countedAt windowSeconds before call).length : ℤ) < maxMessages)
  /-- The calls that are refused might as well not have been made. -/
  refused : answers maxMessages windowSeconds
      (((answers maxMessages windowSeconds calls).filter fun e => e.2).map Prod.fst) =
    (answers maxMessages windowSeconds calls).filter fun e => e.2
  /-- No window has more than `max_messages` accepted calls of a chat. -/
  spread : ∀ key (first : ℚ) (between : List ℚ) (last : ℚ),
    (first :: between ++ [last]).Sublist (acceptedAt (answers maxMessages windowSeconds calls) key) →
      (between.length : ℤ) + 2 = maxMessages + 1 → last - first > windowSeconds
  /-- The calls of other chats might as well not have been made. -/
  independent : ∀ key, (answers maxMessages windowSeconds calls).filter (fun e => e.1.key == key) =
    answers maxMessages windowSeconds (calls.filter fun c => c.key == key)

/-- Over any calls in the order of their times the limiter is an exact sliding window. -/
theorem checkAndRecord_exact (maxMessages windowSeconds : ℤ) {calls : List RateCall}
    (horder : InOrder calls) : ExactWindow maxMessages windowSeconds calls where
  calls_eq := answers_map_fst maxMessages windowSeconds calls
  exact_answer _ _ _ _ h := accepted_iff horder h
  refused := answers_accepted horder
  spread _ _ _ _ hsub hlen := span horder hsub hlen
  independent key := (answers_filter calls key).1

/-- Calls of two chats, one of them when the first call of its chat is as old as the window. -/
def rateSample : List RateCall :=
  [⟨(1, 7), 0⟩, ⟨(1, 7), 1⟩, ⟨(1, 8), 1⟩, ⟨(1, 7), 60⟩, ⟨(1, 7), 121 / 2⟩]

theorem checkAndRecord_exact_sample : InOrder rateSample ∧
    (answers 2 60 rateSample).map Prod.snd = [true, true, true, false, true] ∧
    ExactWindow 2 60 rateSample := by
  have horder : InOrder rateSample := by
    unfold InOrder
    decide +kernel
  exact ⟨horder, by decide +kernel, checkAndRecord_exact 2 60 horder⟩

end RateLimiter

end KasbOKar
