import KasbOKar.Bot.Start
import KasbOKar.Input.Numbers

/-!
# Phone numbers

`normalize_iran_phone`, over all texts.  Only the decimals of a text matter, and `normalizeIranPhone_iff`
says which of them make a number: nine of them behind `09`, with or without the country code, behind `9`
with the country code, or behind `9` alone.  Two things go wrong here, both in `phone_canonical_iff`.  The
nine decimals may be of any script, and they are returned as they are.  And a country code is looked for
first: nine digits that begin with 8 cannot be written behind a `9` alone.
-/

namespace KasbOKar

namespace Input

open DecimalText

/-- `re.sub(r"\D", "", raw_phone)`. -/
def decimals (s : String) : List Char := s.toList.filter isDecimal

/-- The decimals of a number whose last nine are `r`. -/
def Spelling (r l : List Char) : Prop :=
  l = "09".toList ++ r ∨ (l = "9".toList ++ r ∧ ¬ "8".toList <+: r) ∨
    l = "9809".toList ++ r ∨ l = "989".toList ++ r ∨ l = "009809".toList ++ r ∨ l = "00989".toList ++ r

/-- A result as the docstring promises it: nothing, or 11 ASCII digits that start with `09`. -/
def Canonical (result : Option String) : Prop :=
  ∀ p, result = some p → p.length = 11 ∧ "09".toList <+: p.toList ∧ ∀ c ∈ p.toList, c.isDigit = true

/-! ## The steps -/

/-- Without the country code. -/
def withoutCountryCode (l : List Char) : List Char :=
  if "0098".toList <+: l then l.drop 4 else if "98".toList <+: l then l.drop 2 else l

/-- With the zero in front. -/
def withZero (l : List Char) : List Char :=
  if "9".toList <+: l ∧ l.length = 10 then '0' :: l else l

theorem normalizeIranPhone_eq (s : String) :
    normalizeIranPhone isDecimal s =
      if "09".toList <+: withZero (withoutCountryCode (decimals s)) ∧
          (withZero (withoutCountryCode (decimals s))).length = 11 then
        some (.ofList (withZero (withoutCountryCode (decimals s))))
      else none :=
  rfl

theorem withZero_eq_iff {l r : List Char} (hr : r.length = 9) :
    withZero l = "09".toList ++ r ↔ l = "09".toList ++ r ∨ l = "9".toList ++ r := by
  unfold withZero
  constructor
  · intro h
    split_ifs at h with hnine
    · exact .inr (List.cons.inj h).2
    · exact .inl h
  · rintro (rfl | rfl)
    · exact if_neg fun h => by simpa [hr] using h.2
    · exact if_pos ⟨List.prefix_append _ _, by simp [hr]⟩

/-- A country code is found wherever there is one. -/
theorem withoutCountryCode_eq_iff {l m : List Char} :
    withoutCountryCode l = m ↔
      l = "0098".toList ++ m ∨ l = "98".toList ++ m ∨
        (l = m ∧ ¬ "0098".toList <+: l ∧ ¬ "98".toList <+: l) := by
  unfold withoutCountryCode
  constructor
  · rintro rfl
    split_ifs with hlong hshort
    · obtain ⟨l, rfl⟩ := hlong
      exact .inl rfl
    · obtain ⟨l, rfl⟩ := hshort
      exact .inr (.inl rfl)
    · exact .inr (.inr ⟨rfl, hlong, hshort⟩)
  · rintro (rfl | rfl | ⟨rfl, hlong, hshort⟩)
    · exact if_pos (List.prefix_append _ _)
    · rw [if_neg (by simp), if_pos (List.prefix_append _ _)]
      rfl
    · rw [if_neg hlong, if_neg hshort]

theorem spelling_iff {r l : List Char} (hr : r.length = 9) :
    Spelling r l ↔ withZero (withoutCountryCode l) = "09".toList ++ r := by
  have hzero : ¬ "0098".toList <+: "09".toList ++ r ∧ ¬ "98".toList <+: "09".toList ++ r := by simp
  have hnine : ¬ "0098".toList <+: "9".toList ++ r := by simp
  have height : "98".toList <+: "9".toList ++ r ↔ "8".toList <+: r := by simp [List.cons_prefix_cons]
  rw [withZero_eq_iff hr, withoutCountryCode_eq_iff, withoutCountryCode_eq_iff]
  unfold Spelling
  constructor
  · rintro (rfl | ⟨rfl, h⟩ | rfl | rfl | rfl | rfl)
    · exact .inl (.inr (.inr ⟨rfl, hzero⟩))
    · exact .inr (.inr (.inr ⟨rfl, hnine, fun h' => h (height.1 h')⟩))
    · exact .inl (.inr (.inl rfl))
    · exact .inr (.inr (.inl rfl))
    · exact .inl (.inl rfl)
    · exact .inr (.inl rfl)
  · rintro ((rfl | rfl | ⟨rfl, -, -⟩) | (rfl | rfl | ⟨rfl, -, h⟩))
    · exact .inr (.inr (.inr (.inr (.inl rfl))))
    · exact .inr (.inr (.inl rfl))
    · exact .inl rfl
    · exact .inr (.inr (.inr (.inr (.inr rfl))))
    · exact .inr (.inr (.inr (.inl rfl)))
    · exact .inr (.inl ⟨rfl, fun h' => h (height.2 h')⟩)

/-- All that `normalize_iran_phone` accepts, and what it makes of it. -/
theorem normalizeIranPhone_iff {s p : String} :
    normalizeIranPhone isDecimal s = some p ↔
      ∃ r, r.length = 9 ∧ Spelling r (decimals s) ∧ p = .ofList ("09".toList ++ r) := by
  rw [normalizeIranPhone_eq]
  constructor
  · intro h
    split_ifs at h with hmobile
    obtain ⟨⟨r, hr⟩, hlength⟩ := hmobile
    rw [← hr] at hlength h
    have hnine : r.length = 9 := by simpa using hlength
    exact ⟨r, hnine, (spelling_iff hnine).2 hr.symm, (Option.some_inj.1 h).symm⟩
  · rintro ⟨r, hnine, hspelling, rfl⟩
    rw [(spelling_iff hnine).1 hspelling]
    exact if_pos ⟨List.prefix_append _ _, by simp [hnine]⟩

theorem not_isDecimal_of_isSpace {c : Char} (h : isSpace c = true) : isDecimal c = false := by
  have hspaces : ∀ n ∈ [9, 10, 11, 12, 13, 28, 29, 30, 31, 32, 0x85, 0xa0, 0x1680, 0x2000, 0x2001, 0x2002,
      0x2003, 0x2004, 0x2005, 0x2006, 0x2007, 0x2008, 0x2009, 0x200a, 0x2028, 0x2029, 0x202f, 0x205f,
      0x3000], (zeros.find? fun start => decide (start ≤ n ∧ n ≤ start + 9)) = none := by
    decide
  unfold isSpace at h
  simp only [Bool.or_eq_true, Bool.and_eq_true, decide_eq_true_eq, beq_iff_eq] at h
  unfold isDecimal decimal?
  rw [hspaces c.toNat (by simp only [List.mem_cons, List.not_mem_nil]; omega)]
  rfl

/-- No blank is a digit, so `strip` changes nothing. -/
theorem normalizeIranPhone_strip (s : String) :
    normalizeIranPhone isDecimal (strip s) = normalizeIranPhone isDecimal s := by
  have hspace : ∀ c, isSpace c = true → isDecimal c = false := fun _ => not_isDecimal_of_isSpace
  have hdecimals : decimals (strip s) = decimals s := by
    unfold decimals strip
    rw [String.toList_ofList, List.filter_reverse, filter_dropWhile hspace, List.filter_reverse,
      List.reverse_reverse, filter_dropWhile hspace]
  rw [normalizeIranPhone_eq, normalizeIranPhone_eq, hdecimals]

/-! ## Canonical numbers -/

theorem Spelling.mem {r l : List Char} (h : Spelling r l) : ∀ c ∈ r, c ∈ l := by
  intro c hc
  obtain rfl | ⟨rfl, -⟩ | rfl | rfl | rfl | rfl := h
  all_goals exact List.mem_append_right _ hc

theorem isDecimal_of_mem_decimals {s : String} {c : Char} (h : c ∈ decimals s) : isDecimal c = true :=
  (List.mem_filter.1 h).2

theorem canonical_iff (s : String) :
    Canonical (normalizeIranPhone isDecimal s) ↔
      ∀ r, r.length = 9 → Spelling r (decimals s) → ∀ c ∈ r, c.isDigit = true := by
  constructor
  · intro h r hr hspelling c hc
    obtain ⟨-, -, hdigits⟩ := h _ (normalizeIranPhone_iff.2 ⟨r, hr, hspelling, rfl⟩)
    rw [String.toList_ofList] at hdigits
    exact hdigits c (List.mem_append_right _ hc)
  · intro h p hp
    obtain ⟨r, hr, hspelling, rfl⟩ := normalizeIranPhone_iff.1 hp
    have hlist : (String.ofList ("09".toList ++ r)).toList = "09".toList ++ r := String.toList_ofList
    rw [← String.length_toList, hlist]
    refine ⟨by simp [hr], List.prefix_append _ _, fun c hc => ?_⟩
    obtain hc | hc := List.mem_append.1 hc
    · have hstart : ∀ c ∈ "09".toList, c.isDigit = true := by simp
      exact hstart c hc
    · exact h r hr hspelling c hc

/-- A result is the first of its spellings. -/
theorem normalizeIranPhone_idempotent {s p : String} (h : normalizeIranPhone isDecimal s = some p) :
    normalizeIranPhone isDecimal p = some p := by
  obtain ⟨r, hr, hspelling, rfl⟩ := normalizeIranPhone_iff.1 h
  refine normalizeIranPhone_iff.2 ⟨r, hr, .inl ?_, rfl⟩
  unfold decimals
  rw [String.toList_ofList, List.filter_append, List.filter_eq_self.2 fun c hc =>
    isDecimal_of_mem_decimals (hspelling.mem c hc)]
  rfl

/-- The spellings of the docstring. -/
def documented (d : String) : List String := ["09" ++ d, "+989" ++ d, "00989" ++ d, "9" ++ d]

theorem documented_iff {d : String} (hlength : d.length = 9) (hdigits : ∀ c ∈ d.toList, c.isDigit = true) :
    (∀ s ∈ documented d, normalizeIranPhone isDecimal s = some ("09" ++ d)) ↔
      ¬ "8".toList <+: d.toList := by
  have hself : d.toList.filter isDecimal = d.toList :=
    List.filter_eq_self.2 fun c hc => isDecimal_of_ascii (hdigits c hc)
  have hnine : d.toList.length = 9 := by rwa [String.length_toList]
  have hresult : "09" ++ d = .ofList ("09".toList ++ d.toList) := by
    rw [← String.toList_inj, String.toList_append]
    exact String.toList_ofList.symm
  have hspelled : ∀ {s}, normalizeIranPhone isDecimal s = some ("09" ++ d) ↔
      Spelling d.toList (decimals s) := by
    intro s
    rw [normalizeIranPhone_iff, hresult]
    constructor
    · rintro ⟨r, -, hspelling, h⟩
      rwa [List.append_cancel_left (String.ofList_inj.1 h)]
    · exact fun h => ⟨d.toList, hnine, h, rfl⟩
  have hdecimals : ∀ p : String, decimals (p ++ d) = p.toList.filter isDecimal ++ d.toList := by
    intro p
    unfold decimals
    rw [String.toList_append, List.filter_append, hself]
  have hkept : "09".toList.filter isDecimal = "09".toList ∧ "+989".toList.filter isDecimal = "989".toList ∧
      "00989".toList.filter isDecimal = "00989".toList ∧ "9".toList.filter isDecimal = "9".toList := by
    decide
  obtain ⟨hzero, hplus, hzeros, hbare⟩ := hkept
  unfold documented
  simp only [List.forall_mem_cons, hspelled, hdecimals, hzero, hplus, hzeros, hbare]
  constructor
  · -- only `9` alone has ten decimals
    rintro ⟨-, -, -, h | ⟨-, h⟩ | h | h | h | h, -⟩
    · simpa using congrArg List.length h
    · exact h
    all_goals simpa using congrArg List.length h
  · intro h
    refine ⟨.inl rfl, .inr (.inr (.inr (.inl rfl))), ?_, .inr (.inl ⟨rfl, h⟩), List.forall_mem_nil _⟩
    exact .inr (.inr (.inr (.inr (.inr rfl))))

/-- The results are canonical but for the decimals of other scripts, a result is left as it is, and the
documented spellings agree unless the nine digits begin with 8. -/
theorem phone_canonical_iff (s : String) {d : String} (hlength : d.length = 9)
    (hdigits : ∀ c ∈ d.toList, c.isDigit = true) :
    (Canonical (normalizeIranPhone isDecimal s) ↔
        ∀ r, r.length = 9 → Spelling r (decimals s) → ∀ c ∈ r, c.isDigit = true) ∧
      (∀ p, normalizeIranPhone isDecimal s = some p → normalizeIranPhone isDecimal p = some p) ∧
      ((∀ s ∈ documented d, normalizeIranPhone isDecimal s = some ("09" ++ d)) ↔
        ¬ "8".toList <+: d.toList) :=
  ⟨canonical_iff s, fun _ => normalizeIranPhone_idempotent, documented_iff hlength hdigits⟩

/-- Two of the spellings of 09123456789. -/
theorem documented_agree :
    normalizeIranPhone isDecimal ("+989" ++ "123456789") = some ("09" ++ "123456789") ∧
      normalizeIranPhone isDecimal ("9" ++ "123456789") = some ("09" ++ "123456789") := by
  obtain ⟨-, -, hagree⟩ := phone_canonical_iff "+98 912 345 6789" (d := "123456789") rfl
    (List.all_eq_true.1 (by decide))
  exact ⟨hagree.2 (by decide) _ (by decide), hagree.2 (by decide) _ (by decide)⟩

/-- A Persian 9 is returned as it is, and 09812345678 is unknown without its zero. -/
theorem phone_not_canonical :
    ¬ Canonical (normalizeIranPhone isDecimal "0912345678۹") ∧
      normalizeIranPhone isDecimal "09812345678" = some "09812345678" ∧
      normalizeIranPhone isDecimal "9812345678" = none := by
  have hpersian : normalizeIranPhone isDecimal "0912345678۹" = some "0912345678۹" := by decide +kernel
  refine ⟨fun h => ?_, by decide +kernel, by decide +kernel⟩
  exact absurd ((h _ hpersian).2.2 '۹' (by decide +kernel)) (by decide)

end Input

end KasbOKar
