import KasbOKar.Lib.DecimalText
import KasbOKar.Order.Detection

/-!
# Numbers from texts

The parsers of `utils/validators.py` and `_parse_stock`, over all texts.  They take a cleaned text to be a
number when `isdigit` says so, and hand it to `int`; but `isdigit` also accepts digits that are not decimal,
and `int` refuses these, and texts with more than 4300 digits.  `parsers_exact_iff` says that this is the
only way in which a parser fails: it raises on such a text, and on every other one it returns exactly the
number that the text writes.
-/

namespace KasbOKar

namespace Input

open DecimalText

/-! ## The texts -/

/-- `[,\u060C\s]`. -/
def isSeparator (c : Char) : Bool := c == ',' || c == '\u060C' || isSpace c

/-- `_PRICE_CLEAN_RE.sub("", s)`, and `_STOCK_CLEAN_RE.sub("", s)`. -/
def clean (s : String) : String := .ofList (s.toList.filter fun c => !isSeparator c)

/-- `s.isdigit()`. -/
def isdigit (s : String) : Bool := s != "" && s.toList.all isDigit

/-- The digits of a literal, with single underscores between them. -/
def literalDigits : List Char → Option (List Char)
  | [] => none
  | [c] => if isDecimal c then some [c] else none
  | c :: '_' :: l => if isDecimal c then (literalDigits l).map fun digits => c :: digits else none
  | c :: l => if isDecimal c then (literalDigits l).map fun digits => c :: digits else none

/-- The digits that `int` converts at most, `sys.get_int_max_str_digits()`. -/
def intMaxStrDigits : ℕ := 4300

/-- `int` of a literal without its sign. -/
def unsignedInt (l : List Char) : Except PyError ℤ :=
  match literalDigits l with
  | none => .error .ValueError
  | some digits => if intMaxStrDigits < digits.length then .error .ValueError else .ok (value digits)

/-- `int(s)`. -/
def int (s : String) : Except PyError ℤ :=
  match (strip s).toList with
  | '+' :: l => unsignedInt l
  | '-' :: l => (unsignedInt l).map fun n => -n
  | l => unsignedInt l

/-- `str(n)`, which is limited as `int` is. -/
def strInt (n : ℤ) : Except PyError String :=
  if intMaxStrDigits < (Nat.toDigits 10 n.natAbs).length then .error .ValueError else .ok (toString n)

/-! ## The parsers -/

/-- `format_toman`. -/
def formatToman (amount : ℤ) : Except PyError String :=
  let digits := Nat.toDigits 10 amount.natAbs
  if intMaxStrDigits < digits.length then .error .ValueError
  else .ok ((if amount < 0 then "-" else "") ++ .ofList (groupThousands digits) ++ " تومان")

/-- `parse_price_toman`. -/
def parsePriceToman (rawText : String) : Except PyError (Option ℤ) :=
  let cleaned := clean (strip rawText)
  if !isdigit cleaned then .ok none
  else do
    let value ← int cleaned
    return if value ≤ 0 then none else some value

/-- `parse_signed_toman_amount`. -/
def parseSignedTomanAmount (rawText : String) : Except PyError (Option ℤ) :=
  match (clean (strip rawText)).toList with
  | [] => .ok none
  | c :: l =>
    let sign : ℤ := if c = '-' then -1 else 1
    let cleaned : String := .ofList (if c = '+' ∨ c = '-' then l else c :: l)
    if !isdigit cleaned then .ok none
    else do
      let n ← int cleaned
      let value := n * sign
      return if value = 0 then none else some value

/-- `_parse_stock`. -/
def parseStock (raw : String) : Except PyError (Option ℤ) :=
  let cleaned := clean raw
  if !isdigit cleaned then .ok none else (int cleaned).map some

/-! ## Cleaned texts -/

theorem filter_dropWhile {p q : Char → Bool} (h : ∀ c, q c = true → p c = false) (l : List Char) :
    (l.dropWhile q).filter p = l.filter p := by
  induction l with
  | nil => rfl
  | cons c l ih =>
    by_cases hc : q c = true
    · rw [List.dropWhile_cons_of_pos hc, ih, List.filter_cons_of_neg (by simp [h c hc])]
    · rw [List.dropWhile_cons_of_neg hc]

/-- The blanks at the ends are separators anyway. -/
theorem clean_strip (s : String) : clean (strip s) = clean s := by
  have hspace : ∀ c, isSpace c = true → (!isSeparator c) = false := by
    intro c hc
    unfold isSeparator
    rw [hc, Bool.or_true]
    rfl
  unfold clean strip
  rw [String.toList_ofList, List.filter_reverse, filter_dropWhile hspace, List.filter_reverse,
    List.reverse_reverse, filter_dropWhile hspace]

theorem not_isSeparator_of_mem {s : String} {c : Char} (h : c ∈ (clean s).toList) :
    isSeparator c = false := by
  unfold clean at h
  rw [String.toList_ofList, List.mem_filter] at h
  simpa using h.2

theorem not_isSpace_of_mem {s : String} {c : Char} (h : c ∈ (clean s).toList) : isSpace c = false := by
  have hc := not_isSeparator_of_mem h
  unfold isSeparator at hc
  simp only [Bool.or_eq_false_iff] at hc
  exact hc.2

theorem strip_of_not_isSpace {s : String} (h : ∀ c ∈ s.toList, isSpace c = false) : strip s = s := by
  have hdrop : ∀ l : List Char, (∀ c ∈ l, isSpace c = false) → l.dropWhile isSpace = l := by
    intro l hl
    cases l with
    | nil => rfl
    | cons c l => exact List.dropWhile_cons_of_neg (by simp [hl c List.mem_cons_self])
  unfold strip
  rw [hdrop s.toList h, hdrop _ (by simpa using h), List.reverse_reverse, String.ofList_toList]

/-! ## What `int` makes of digits -/

/-- A text that `int` converts if `isdigit` accepts it. -/
def Convertible (l : List Char) : Prop :=
  (∀ c ∈ l, isDigit c = true) → (∀ c ∈ l, isDecimal c = true) ∧ l.length ≤ intMaxStrDigits

theorem isdigit_iff {s : String} :
    isdigit s = true ↔ s.toList ≠ [] ∧ ∀ c ∈ s.toList, isDigit c = true := by
  unfold isdigit
  rw [Bool.and_eq_true, bne_iff_ne, ne_eq, ← String.toList_inj, String.toList_empty, List.all_eq_true]

theorem literalDigits_eq {l : List Char} (hne : l ≠ []) (hunderscore : '_' ∉ l) :
    literalDigits l = if l.all isDecimal then some l else none := by
  fun_induction literalDigits l with
  | case1 => exact absurd rfl hne
  | case2 c hc => simp [hc]
  | case3 c hc => simp [hc]
  | case4 c l hc ih => simp at hunderscore
  | case5 c l hc => simp at hunderscore
  | case6 c l hl hl' hc ih =>
    have hrest : l ≠ [] := fun h => hl h
    rw [ih hrest fun h => hunderscore (List.mem_cons_of_mem c h)]
    rw [List.all_cons, hc, Bool.true_and]
    split_ifs <;> rfl
  | case7 c l hl hl' hc => rw [List.all_cons, if_neg (by simp [hc])]

theorem unsignedInt_of_digits {l : List Char} (hne : l ≠ []) (hdigit : ∀ c ∈ l, isDigit c = true) :
    (Convertible l → unsignedInt l = .ok (value l)) ∧
      (¬ Convertible l → unsignedInt l = .error .ValueError) := by
  have hunderscore : '_' ∉ l := fun h => absurd (hdigit _ h) (by decide)
  unfold unsignedInt Convertible
  rw [literalDigits_eq hne hunderscore]
  by_cases hdecimal : ∀ c ∈ l, isDecimal c = true
  · rw [if_pos (List.all_eq_true.2 hdecimal)]
    dsimp only
    by_cases hlong : intMaxStrDigits < l.length
    · rw [if_pos hlong]
      exact ⟨fun h => absurd (h hdigit).2 (not_le.2 hlong), fun _ => rfl⟩
    · rw [if_neg hlong]
      exact ⟨fun _ => rfl, fun h => absurd (fun _ => ⟨hdecimal, not_lt.1 hlong⟩) h⟩
  · rw [if_neg (mt List.all_eq_true.1 hdecimal)]
    exact ⟨fun h => absurd (h hdigit).1 hdecimal, fun _ => rfl⟩

/-- No digit is a sign. -/
theorem int_of_digits {s : String} (hdigit : ∀ c ∈ s.toList, isDigit c = true)
    (hspace : ∀ c ∈ s.toList, isSpace c = false) : int s = unsignedInt s.toList := by
  unfold int
  rw [strip_of_not_isSpace hspace]
  split
  · rename_i l heq
    rw [heq] at hdigit
    exact absurd (hdigit _ List.mem_cons_self) (by decide)
  · rename_i l heq
    rw [heq] at hdigit
    exact absurd (hdigit _ List.mem_cons_self) (by decide)
  · rfl

/-- The three ways of a cleaned text through `isdigit` and `int`. -/
theorem int_cases {s : String} (hspace : ∀ c ∈ s.toList, isSpace c = false) :
    (isdigit s = false ∧ Convertible s.toList ∧ ∀ n, ¬ Numeral s.toList n) ∨
      (isdigit s = true ∧ Convertible s.toList ∧ Numeral s.toList (value s.toList) ∧
        int s = .ok (value s.toList)) ∨
      (isdigit s = true ∧ ¬ Convertible s.toList ∧ int s = .error .ValueError) := by
  by_cases h : isdigit s = true
  · obtain ⟨hne, hdigit⟩ := isdigit_iff.1 h
    obtain ⟨hok, herror⟩ := unsignedInt_of_digits hne hdigit
    rw [int_of_digits hdigit hspace]
    by_cases hconv : Convertible s.toList
    · exact .inr (.inl ⟨h, hconv, ⟨hne, (hconv hdigit).1, rfl⟩, hok hconv⟩)
    · exact .inr (.inr ⟨h, hconv, herror hconv⟩)
  · refine .inl ⟨by simpa using h, fun hdigit => ?_, fun n hn => ?_⟩
    · -- only the empty text is left
      have hnil : s.toList = [] := by
        by_contra hne
        exact h (isdigit_iff.2 ⟨hne, hdigit⟩)
      rw [hnil]
      exact ⟨nofun, Nat.zero_le _⟩
    · exact h (isdigit_iff.2 ⟨hn.ne_nil, fun c hc => isDigit_of_isDecimal (hn.decimal c hc)⟩)

/-! ## When the parsers are exact -/

/-- The result is a number exactly for the numbers with `P`, and nothing is raised. -/
def Exact (result : Except PyError (Option ℤ)) (P : ℤ → Prop) : Prop :=
  ∃ v, result = .ok v ∧ ∀ n, v = some n ↔ P n

theorem exact_none {P : ℤ → Prop} (h : ∀ n, ¬ P n) : Exact (.ok none) P :=
  ⟨none, rfl, fun n => iff_of_false nofun (h n)⟩

/-- An exact result if `conv` holds, and `ValueError` otherwise. -/
def ExactIf (conv : Prop) (result : Except PyError (Option ℤ)) (P : ℤ → Prop) : Prop :=
  (conv ∧ Exact result P) ∨ (¬ conv ∧ result = .error .ValueError)

theorem ExactIf.exact_iff {conv : Prop} {result : Except PyError (Option ℤ)} {P : ℤ → Prop}
    (h : ExactIf conv result P) : Exact result P ↔ conv := by
  obtain ⟨hconv, hexact⟩ | ⟨hconv, rfl⟩ := h
  · exact iff_of_true hexact hconv
  · refine iff_of_false ?_ hconv
    rintro ⟨v, h, -⟩
    cases h

theorem ExactIf.some_iff {conv : Prop} {result : Except PyError (Option ℤ)} {P : ℤ → Prop}
    (h : ExactIf conv result P) {n : ℤ} : result = .ok (some n) ↔ P n ∧ conv := by
  obtain ⟨hconv, v, rfl, hv⟩ | ⟨hconv, rfl⟩ := h
  · rw [Except.ok.injEq, hv, and_iff_left hconv]
  · exact iff_of_false nofun fun h => hconv h.2

/-- A number with at most one sign in front. -/
def SignedNumeral (l : List Char) (n : ℤ) : Prop :=
  Numeral l n ∨ (∃ l', l = '+' :: l' ∧ Numeral l' n) ∨ ∃ l', l = '-' :: l' ∧ Numeral l' (-n)

/-- The text behind its sign. -/
def unsigned : List Char → List Char
  | '+' :: l => l
  | '-' :: l => l
  | l => l

/-- A parser that hands on what `int` makes of a text of digits. -/
theorem exactIf_of_int {s : String} {k : ℤ → Option ℤ} {P : ℤ → Prop}
    (hspace : ∀ c ∈ s.toList, isSpace c = false) (hnumeral : ∀ n, P n → ∃ m, Numeral s.toList m)
    (hexact : ∀ m, Numeral s.toList m → Exact (.ok (k m)) P) :
    ExactIf (Convertible s.toList) (if !isdigit s then .ok none else int s >>= fun m => pure (k m)) P := by
  obtain ⟨hdigit, hconv, hnone⟩ | ⟨hdigit, hconv, hnum, hint⟩ | ⟨hdigit, hconv, hint⟩ := int_cases hspace
  · rw [hdigit]
    refine .inl ⟨hconv, exact_none fun n h => ?_⟩
    obtain ⟨m, hm⟩ := hnumeral n h
    exact hnone m hm
  · rw [hdigit, hint]
    exact .inl ⟨hconv, hexact _ hnum⟩
  · rw [hdigit, hint]
    exact .inr ⟨hconv, rfl⟩

theorem parsePriceToman_exactIf (s : String) :
    ExactIf (Convertible (clean s).toList) (parsePriceToman s)
      fun n => Numeral (clean s).toList n ∧ 1 ≤ n := by
  unfold parsePriceToman
  dsimp only
  rw [clean_strip]
  refine exactIf_of_int (fun c hc => not_isSpace_of_mem hc) (fun n h => ⟨n, h.1⟩) fun m hm => ?_
  refine ⟨_, rfl, fun n => ?_⟩
  by_cases hzero : m ≤ 0
  · rw [if_pos hzero]
    refine iff_of_false nofun fun h => ?_
    have := h.1.unique hm
    omega
  · rw [if_neg hzero, Option.some_inj]
    constructor
    · rintro rfl
      exact ⟨hm, by omega⟩
    · exact fun h => hm.unique h.1

theorem parseStock_exactIf (s : String) :
    ExactIf (Convertible (clean s).toList) (parseStock s)
      fun n => Numeral (clean s).toList n ∧ 0 ≤ n := by
  have hmap : ∀ r : Except PyError ℤ, r.map some = r >>= fun m => pure (some m) := by
    intro r
    cases r <;> rfl
  unfold parseStock
  dsimp only
  rw [hmap]
  refine exactIf_of_int (fun c hc => not_isSpace_of_mem hc) (fun n h => ⟨n, h.1⟩) fun m hm => ?_
  refine ⟨_, rfl, fun n => ?_⟩
  rw [Option.some_inj]
  constructor
  · rintro rfl
    exact ⟨hm, hm.nonneg⟩
  · exact fun h => hm.unique h.1

/-- What a sign says, as `parse_signed_toman_amount` takes it. -/
theorem signedNumeral_cons (c : Char) (l : List Char) (n : ℤ) :
    SignedNumeral (c :: l) n ↔
      Numeral (if c = '+' ∨ c = '-' then l else c :: l) (n * if c = '-' then -1 else 1) := by
  have hplus : ∀ n, ¬ Numeral ('+' :: l) n :=
    fun n h => absurd (h.decimal _ List.mem_cons_self) (by decide)
  have hminus : ∀ n, ¬ Numeral ('-' :: l) n :=
    fun n h => absurd (h.decimal _ List.mem_cons_self) (by decide)
  unfold SignedNumeral
  by_cases hp : c = '+'
  · subst hp
    simp [hplus]
  · by_cases hm : c = '-'
    · subst hm
      simp [hminus]
    · simp [hp, hm]

theorem unsigned_cons (c : Char) (l : List Char) :
    unsigned (c :: l) = if c = '+' ∨ c = '-' then l else c :: l := by
  by_cases hp : c = '+'
  · subst hp
    rfl
  · by_cases hm : c = '-'
    · subst hm
      rfl
    · rw [if_neg (not_or.2 ⟨hp, hm⟩)]
      unfold unsigned
      split
      · rename_i heq
        exact absurd (List.cons.inj heq).1 hp
      · rename_i heq
        exact absurd (List.cons.inj heq).1 hm
      · rfl

theorem exact_signed {l : List Char} {sign m : ℤ} (hsign : sign * sign = 1) (hm : Numeral l m) :
    Exact (.ok (if m * sign = 0 then none else some (m * sign)))
      fun n => Numeral l (n * sign) ∧ n ≠ 0 := by
  have htwice : ∀ k : ℤ, k * sign * sign = k := fun k => by rw [mul_assoc, hsign, mul_one]
  refine ⟨_, rfl, fun n => ?_⟩
  by_cases hzero : m * sign = 0
  · rw [if_pos hzero]
    refine iff_of_false nofun fun h => h.2 ?_
    rw [← htwice n, h.1.unique hm, hzero]
  · rw [if_neg hzero, Option.some_inj]
    constructor
    · rintro rfl
      exact ⟨by rwa [htwice], hzero⟩
    · intro h
      rw [← h.1.unique hm, htwice]

theorem parseSignedTomanAmount_exactIf (s : String) :
    ExactIf (Convertible (unsigned (clean s).toList)) (parseSignedTomanAmount s)
      fun n => SignedNumeral (clean s).toList n ∧ n ≠ 0 := by
  unfold parseSignedTomanAmount
  have hspace : ∀ c ∈ (clean s).toList, isSpace c = false := fun c hc => not_isSpace_of_mem hc
  rw [clean_strip]
  cases hclean : (clean s).toList with
  | nil =>
    refine .inl ⟨fun _ => ⟨nofun, Nat.zero_le _⟩, exact_none ?_⟩
    rintro n ⟨h | ⟨l, h, -⟩ | ⟨l, h, -⟩, -⟩
    · exact h.ne_nil rfl
    · cases h
    · cases h
  | cons c l =>
    rw [hclean] at hspace
    simp only [signedNumeral_cons, unsigned_cons]
    have hrest : ∀ c' ∈ (String.ofList (if c = '+' ∨ c = '-' then l else c :: l)).toList,
        isSpace c' = false := by
      rw [String.toList_ofList]
      intro c' hc'
      split_ifs at hc'
      · exact hspace c' (List.mem_cons_of_mem c hc')
      · exact hspace c' hc'
    have hparsed := exactIf_of_int (k := fun m => if m * (if c = '-' then -1 else 1) = 0 then none
        else some (m * if c = '-' then -1 else 1))
      (P := fun n => Numeral (if c = '+' ∨ c = '-' then l else c :: l) (n * if c = '-' then -1 else 1) ∧
        n ≠ 0) hrest
    rw [String.toList_ofList] at hparsed
    exact hparsed (fun n h => ⟨_, h.1⟩) fun m hm => exact_signed (by split_ifs <;> rfl) hm

/-! ## Numbers with their groups -/

/-- `format_toman`, without its last word, is read back. -/
def RoundTrip (n : ℤ) : Prop :=
  ∃ s, formatToman n = .ok (s ++ "تومان") ∧ parsePriceToman s = .ok (some n)

/-- A number is limited as its digits are. -/
theorem length_toDigits_le_iff (n : ℕ) :
    (Nat.toDigits 10 n).length ≤ intMaxStrDigits ↔ n < 10 ^ intMaxStrDigits :=
  Nat.length_toDigits_le_iff (by decide) (by decide)

theorem not_isSeparator_of_ascii {c : Char} (h : c.isDigit = true) : isSeparator c = false := by
  have hrange := toNat_of_ascii h
  have hcomma : c ≠ ',' := by
    rintro rfl
    cases h
  have harabic : c ≠ '\u060C' := by
    rintro rfl
    cases h
  unfold isSeparator isSpace
  simp only [hcomma, harabic, Bool.or_eq_false_iff, beq_eq_false_iff_ne, ne_eq,
    not_false_eq_true, true_and, Bool.and_eq_false_iff, decide_eq_false_iff_not]
  omega

theorem clean_groupThousands (n : ℕ) :
    clean (.ofList (groupThousands (Nat.toDigits 10 n)) ++ " ") = .ofList (Nat.toDigits 10 n) := by
  have hdigits : ∀ c ∈ Nat.toDigits 10 n, (!isSeparator c) = true := by
    intro c hc
    rw [not_isSeparator_of_ascii (isDigit_toDigits c hc)]
    rfl
  unfold clean
  rw [String.toList_append, String.toList_ofList, List.filter_append,
    filter_groupThousands (by decide), List.filter_eq_self.2 hdigits]
  have hblank : (" ".toList.filter fun c => !isSeparator c) = [] := by decide
  rw [hblank, List.append_nil]

theorem roundTrip_iff {n : ℤ} (hn : 1 ≤ n) : RoundTrip n ↔ n < 10 ^ intMaxStrDigits := by
  lift n to ℕ using by omega
  have hlength := length_toDigits_le_iff n
  have hlimit : (n : ℤ) < 10 ^ intMaxStrDigits ↔ n < 10 ^ intMaxStrDigits := by exact_mod_cast Iff.rfl
  have hsign : ¬ (n : ℤ) < 0 := by omega
  unfold RoundTrip formatToman
  dsimp only
  rw [Int.natAbs_natCast, hlimit, ← hlength, if_neg hsign]
  by_cases hlong : intMaxStrDigits < (Nat.toDigits 10 n).length
  · rw [if_pos hlong]
    refine iff_of_false ?_ (not_le.2 hlong)
    rintro ⟨s, h, -⟩
    cases h
  · rw [if_neg hlong]
    refine iff_of_true ⟨.ofList (groupThousands (Nat.toDigits 10 n)) ++ " ", ?_, ?_⟩ (not_lt.1 hlong)
    · rw [String.empty_append, String.append_assoc]
      rfl
    · have hclean := clean_groupThousands n
      have hnum := numeral_toDigits n
      rw [(parsePriceToman_exactIf _).some_iff, hclean, String.toList_ofList]
      exact ⟨⟨hnum, hn⟩, fun _ => ⟨hnum.decimal, not_lt.1 hlong⟩⟩

/-- The parsers are exact on the texts that `int` converts if `isdigit` accepts them, and on no other; and
the numbers with at most 4300 digits are those that `format_toman` writes for `parse_price_toman`. -/
theorem parsers_exact_iff (s : String) {n : ℤ} (hn : 1 ≤ n) :
    (Exact (parsePriceToman s) (fun n => Numeral (clean s).toList n ∧ 1 ≤ n) ↔
        Convertible (clean s).toList) ∧
      (Exact (parseSignedTomanAmount s) (fun n => SignedNumeral (clean s).toList n ∧ n ≠ 0) ↔
        Convertible (unsigned (clean s).toList)) ∧
      (Exact (parseStock s) (fun n => Numeral (clean s).toList n ∧ 0 ≤ n) ↔
        Convertible (clean s).toList) ∧
      (RoundTrip n ↔ n < 10 ^ intMaxStrDigits) :=
  ⟨(parsePriceToman_exactIf s).exact_iff, (parseSignedTomanAmount_exactIf s).exact_iff,
    (parseStock_exactIf s).exact_iff, roundTrip_iff hn⟩

/-- A price in Persian digits. -/
theorem parsers_exact_of_persian :
    Exact (parsePriceToman "۱۵۰,۰۰۰") (fun n => Numeral (clean "۱۵۰,۰۰۰").toList n ∧ 1 ≤ n) ∧
      RoundTrip 150000 := by
  obtain ⟨hprice, -, -, hround⟩ := parsers_exact_iff "۱۵۰,۰۰۰" (n := 150000) (by decide)
  refine ⟨hprice.2 fun _ => ⟨List.all_eq_true.1 (by decide +kernel), by decide +kernel⟩, hround.2 ?_⟩
  calc (150000 : ℤ) < 10 ^ 6 := by norm_num
    _ ≤ 10 ^ intMaxStrDigits := pow_le_pow_right₀ (by norm_num) (by decide)

/-- A superscript two is a digit for `isdigit`, but not for `int`. -/
theorem superscript_raises :
    parsePriceToman "²" = .error .ValueError ∧ parseSignedTomanAmount "²" = .error .ValueError ∧
      parseStock "²" = .error .ValueError := by
  decide +kernel

end Input

end KasbOKar
