import KasbOKar.Chat.Handlers

/-!
# The client of a provider

`OpenAiCompatibleAiService` and `FallbackAiService` of `services/ai_service.py`: the request with its
retries, and what is read out of the body of an answer.  `_post_chat` raises nothing but `AiServiceError`
(`postChat_error`), but `_extract_text` and `_extract_usage` go through a body of any shape, and only two
of the exceptions on the way are caught.

`reply_handled`: exactly for the bodies that are `foreseen` a call returns a text or raises
`AiServiceError`.
-/

namespace KasbOKar

/-- What a call of an AI service raises. -/
inductive CallError where
  | AiServiceError (text : String)
  | other (e : {e : PyError // e ≠ .AiServiceError})

namespace CallError

/-- Any exception; this program raises `AiServiceError` with a text. -/
def ofPyError (e : PyError) : CallError :=
  if h : e = .AiServiceError then .AiServiceError "" else .other ⟨e, h⟩

/-- As a caller sees it that does not look at the text. -/
def toPyError : CallError → PyError
  | AiServiceError _ => .AiServiceError
  | other e => e

end CallError

namespace Provider

/-! ## The request -/

/-- How one attempt of `_post_chat` ends. -/
inductive Attempt where
  /-- Status 200, and `resp.json()` returns. -/
  | body (data : PyJson)
  | status (status : {n : ℕ // n ≠ 200}) (text : String)
  /-- Any other exception. -/
  | raised (text : String)

/-- `_MAX_RETRIES`. -/
def maxRetries : ℕ := 2

/-- The loop of `_post_chat` with `left` attempts to go. -/
def postChatFrom (attempts : ℕ → Attempt) (lastExc : Option CallError) : ℕ → Except CallError PyJson
  -- `raise None` would be a `TypeError`
  | 0 => .error (lastExc.getD (.ofPyError .TypeError))
  | left + 1 =>
    match attempts (maxRetries - left) with
    | .body data => .ok data
    | .status status text =>
      if status.val = 429 ∨ status.val ≥ 500 then
        postChatFrom attempts (some (.AiServiceError
          ("خطای موقتیِ سرویس هوش مصنوعی " ++ toString status.val ++ ": " ++ slice 300 text))) left
      else .error (.AiServiceError
        ("خطای سرویس هوش مصنوعی " ++ toString status.val ++ ": " ++ slice 300 text))
    | .raised text =>
      postChatFrom attempts (some (.AiServiceError ("فراخوانی هوش مصنوعی ناموفق بود: " ++ text))) left

/-- `_post_chat`. -/
def postChat (attempts : ℕ → Attempt) : Except CallError PyJson :=
  postChatFrom attempts none (maxRetries + 1)

/-! ## The body -/

/-- What a subscript raises. -/
inductive SubscriptError where
  | KeyError
  | IndexError
  | TypeError

/-- `value[key]` for a string. -/
def getItem (key : String) : PyJson → Except SubscriptError PyJson
  | .dict items =>
    match items.lookup key with
    | some value => .ok value
    | none => .error .KeyError
  | _ => .error .TypeError

/-- `value[0]`; the keys of an object are strings. -/
def getFirst : PyJson → Except SubscriptError PyJson
  | .list (x :: _) => .ok x
  | .list [] => .error .IndexError
  | .str s =>
    match s.toList with
    | c :: _ => .ok (.str (String.singleton c))
    | [] => .error .IndexError
  | .dict _ => .error .KeyError
  | _ => .error .TypeError

/-- `data["choices"][0]["message"]["content"]`. -/
def content (data : PyJson) : Except SubscriptError PyJson :=
  getItem "choices" data >>= getFirst >>= getItem "message" >>= getItem "content"

variable (fmt : PyJson → String)

/-- `_extract_text`.  `fmt` is `str` of a decoded value. -/
def extractText (data : PyJson) : Except CallError PyJson :=
  match content data with
  | .ok text => .ok text
  | .error .TypeError => .error (.ofPyError .TypeError)
  | .error _ => .error (.AiServiceError ("پاسخ غیرمنتظره از سرویس هوش مصنوعی: " ++ fmt data))

/-- `_extract_usage`. -/
def extractUsage (data : PyJson) : Except CallError (Option ℤ) :=
  match data with
  | .dict items =>
    match PyJson.get items "usage" with
    | .dict usage =>
      if (PyJson.get usage "total_tokens").isNumber then
        match (PyJson.get usage "total_tokens").toInt with
        | .ok total => .ok (some total)
        | .error e => .error (.ofPyError e)
      else .ok none
    | _ => .ok none
  | _ => .error (.ofPyError .AttributeError)

/-- The last line of `get_reply` and of `analyze_image`. -/
def reply (data : PyJson) : Except CallError AiCallResult := do
  let text ← extractText fmt data
  let totalTokens ← extractUsage data
  return { text := text, totalTokens := totalTokens }

/-- `get_reply`. -/
def getReply (attempts : ℕ → Attempt) : Except CallError AiCallResult := postChat attempts >>= reply fmt

/-- `analyze_image`. -/
def analyzeImage (attempts : ℕ → Attempt) : Except CallError AiCallResult :=
  postChat attempts >>= reply fmt

/-- `FallbackAiService.get_reply` and `analyze_image`, from what the two services do. -/
def withFallback {α : Type} (primary fallback : Except CallError α) : Except CallError α :=
  match primary with
  | .error (.AiServiceError _) => fallback
  | _ => primary

/-! ## What the callers are prepared for -/

/-- The caller gets a text, or an `AiServiceError`. -/
def Handled (r : Except CallError AiCallResult) : Prop :=
  (∃ text totalTokens, r = .ok { text := .str text, totalTokens := totalTokens }) ∨
    ∃ text, r = .error (.AiServiceError text)

variable {fmt}

/-- Every exception of `_post_chat` is an `AiServiceError`. -/
theorem postChat_error {attempts : ℕ → Attempt} {e : CallError} (h : postChat attempts = .error e) :
    ∃ text, e = .AiServiceError text := by
  have hloop : ∀ left lastExc, (lastExc = none → 0 < left) →
      (∀ e, lastExc = some e → ∃ text, e = .AiServiceError text) →
      postChatFrom attempts lastExc left = .error e → ∃ text, e = .AiServiceError text := by
    intro left
    induction left with
    | zero =>
      intro lastExc hsome hlast h
      cases lastExc with
      | none => exact absurd (hsome rfl) (lt_irrefl 0)
      | some e' =>
        cases h
        exact hlast e' rfl
    | succ left ih =>
      intro lastExc _ _ h
      unfold postChatFrom at h
      cases hattempt : attempts (maxRetries - left) with
      | body data =>
        rw [hattempt] at h
        cases h
      | status status text =>
        rw [hattempt] at h
        dsimp only at h
        split_ifs at h with hretry
        · exact ih (some _) nofun (fun e he => ⟨_, (Option.some.inj he).symm⟩) h
        · cases h
          exact ⟨_, rfl⟩
      | raised text =>
        rw [hattempt] at h
        exact ih (some _) nofun (fun e he => ⟨_, (Option.some.inj he).symm⟩) h
  exact hloop _ none (fun _ => by decide) nofun h

/-- The tokens that a provider reports are a number that `int` accepts, or none. -/
def countable : PyJson → Bool
  | .dict usage =>
    match usage.lookup "total_tokens" with
    | some (.float .nan) => false
    | some (.float (.inf _)) => false
    | _ => true
  | _ => true

/-- A message with a text, or without any content; with a text the tokens matter. -/
def foreseenMessage (usage : Bool) : PyJson → Bool
  | .dict message =>
    match message.lookup "content" with
    | none => true
    | some (.str _) => usage
    | some _ => false
  | _ => false

/-- No choice, an object in its place, or a choice that is an object. -/
def foreseenChoices (usage : Bool) : PyJson → Bool
  | .list [] => true
  | .list (.dict choice :: _) => (choice.lookup "message").all (foreseenMessage usage)
  | .dict _ => true
  | .str s => s == ""
  | _ => false

/-- The bodies that the client is prepared for: an object whose parts on the way to the text are missing,
or have the type that the next step needs, down to a text and a number of tokens. -/
def foreseen : PyJson → Bool
  | .dict body =>
    (body.lookup "choices").all (foreseenChoices ((body.lookup "usage").all countable))
  | _ => false

/-! ## Reading a body -/

theorem extractText_of_content {data text : PyJson} (h : content data = .ok text) :
    extractText fmt data = .ok text := by
  unfold extractText
  rw [h]

theorem extractUsage_dict (body : List (String × PyJson)) :
    (∃ totalTokens, extractUsage (.dict body) = .ok totalTokens ∧
        (body.lookup "usage").all countable = true) ∨
      ∃ e, extractUsage (.dict body) = .error (.other e) ∧
        (body.lookup "usage").all countable = false := by
  unfold extractUsage PyJson.get
  dsimp only
  cases husage : body.lookup "usage" with
  | none => exact .inl ⟨none, rfl, rfl⟩
  | some usage =>
    cases usage with
    | dict usage =>
      dsimp only [Option.getD_some, Option.all_some]
      unfold countable
      dsimp only
      cases htotal : usage.lookup "total_tokens" with
      | none => exact .inl ⟨none, rfl, rfl⟩
      | some total =>
        cases total with
        | float x =>
          cases x with
          | finite x => exact .inl ⟨_, rfl, rfl⟩
          | nan => exact .inr ⟨_, rfl, rfl⟩
          | inf negative => exact .inr ⟨_, rfl, rfl⟩
        | _ => exact .inl ⟨_, rfl, rfl⟩
    | _ => exact .inl ⟨none, rfl, rfl⟩

/-- What `get_reply` makes of what the subscripts give. -/
def foreseenContent (usage : Bool) : Except SubscriptError PyJson → Bool
  | .ok (.str _) => usage
  | .ok _ => false
  | .error .TypeError => false
  | .error _ => true

theorem handled_reply_dict (body : List (String × PyJson)) :
    Handled (reply fmt (.dict body)) ↔
      foreseenContent ((body.lookup "usage").all countable) (content (.dict body)) = true := by
  unfold reply extractText
  cases hcontent : content (.dict body) with
  | error e =>
    cases e with
    | TypeError =>
      refine iff_of_false ?_ Bool.false_ne_true
      rintro (⟨text, totalTokens, h⟩ | ⟨text, h⟩) <;> cases h
    | KeyError => exact iff_of_true (.inr ⟨_, rfl⟩) rfl
    | IndexError => exact iff_of_true (.inr ⟨_, rfl⟩) rfl
  | ok text =>
    rcases extractUsage_dict body with ⟨totalTokens, hok, hcount⟩ | ⟨e, herror, hcount⟩
    · rw [hok, hcount]
      cases text with
      | str text => exact iff_of_true (.inl ⟨text, totalTokens, rfl⟩) rfl
      | _ =>
        refine iff_of_false ?_ Bool.false_ne_true
        rintro (⟨text, totalTokens, h⟩ | ⟨text, h⟩) <;> cases h
    · rw [herror, hcount]
      have hnot : foreseenContent false (.ok text) = false := by cases text <;> rfl
      rw [hnot]
      refine iff_of_false ?_ Bool.false_ne_true
      rintro (⟨text, totalTokens, h⟩ | ⟨text, h⟩) <;> cases h

theorem foreseenContent_message (usage : Bool) (message : PyJson) :
    foreseenContent usage (getItem "content" message) = foreseenMessage usage message := by
  cases message with
  | dict message =>
    unfold getItem foreseenMessage
    dsimp only
    cases message.lookup "content" with
    | none => rfl
    | some content => cases content <;> rfl
  | _ => rfl

theorem foreseenContent_choice (usage : Bool) (choice : List (String × PyJson)) :
    foreseenContent usage (getItem "message" (.dict choice) >>= getItem "content") =
      (choice.lookup "message").all (foreseenMessage usage) := by
  have hitem : getItem "message" (.dict choice) = match choice.lookup "message" with
    | some message => .ok message
    | none => .error .KeyError := rfl
  rw [hitem]
  cases choice.lookup "message" with
  | none => rfl
  | some message => exact foreseenContent_message usage message

theorem foreseenContent_choices (usage : Bool) (choices : PyJson) :
    foreseenContent usage (getFirst choices >>= getItem "message" >>= getItem "content") =
      foreseenChoices usage choices := by
  cases choices with
  | list choices =>
    cases choices with
    | nil => rfl
    | cons choice choices =>
      cases choice with
      | dict choice => exact foreseenContent_choice usage choice
      | _ => rfl
  | str s =>
    unfold getFirst foreseenChoices
    dsimp only
    cases hs : s.toList with
    | nil =>
      rw [String.toList_eq_nil_iff.1 hs]
      rfl
    | cons c cs =>
      have hne : s ≠ "" := by
        rintro rfl
        cases hs
      rw [beq_false_of_ne hne]
      rfl
  | _ => rfl

/-- A call returns a text or raises `AiServiceError` exactly for a body that is foreseen. -/
theorem reply_handled (data : PyJson) : Handled (reply fmt data) ↔ foreseen data = true := by
  cases data with
  | dict body =>
    rw [handled_reply_dict]
    unfold content foreseen
    have hitem : getItem "choices" (.dict body) = match body.lookup "choices" with
      | some choices => .ok choices
      | none => .error .KeyError := rfl
    rw [hitem]
    dsimp only
    cases body.lookup "choices" with
    | none => exact iff_of_true rfl rfl
    | some choices =>
      rw [Option.all_some, ← foreseenContent_choices]
      exact Iff.rfl
  | _ =>
    refine iff_of_false ?_ Bool.false_ne_true
    rintro (⟨text, totalTokens, h⟩ | ⟨text, h⟩) <;> cases h

end Provider

end KasbOKar
