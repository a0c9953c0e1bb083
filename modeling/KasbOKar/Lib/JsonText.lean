import Mathlib.Tactic

/-!
# The texts of JSON

The grammar of JSON over lists of characters, and where an object ends in a longer text.  A scanner that
knows strings and braces, and nothing else of the grammar, follows the depth of the braces: every text of
the grammar leaves the depth as it was and never goes below it (`Derives.keeps`), so an object is over
with the first brace that closes it (`isObject_unique`).  Hence an object is no proper prefix of another
text, unless only blanks follow (`blank_of_text`).
-/

namespace JsonText

/-! ## The grammar -/

def Blank (l : List Char) : Prop := ∀ c ∈ l, c = ' ' ∨ c = '\t' ∨ c = '\n' ∨ c = '\r'

def Digits (l : List Char) : Prop := l ≠ [] ∧ ∀ c ∈ l, c.isDigit = true

def IsHex (c : Char) : Prop := c.isDigit = true ∨ c ∈ "abcdefABCDEF".toList

/-- An integer without a sign: no zero in front. -/
def IsInt (l : List Char) : Prop := Digits l ∧ (l.head? = some '0' → l = ['0'])

def IsFraction (l : List Char) : Prop := l = [] ∨ ∃ digits, l = '.' :: digits ∧ Digits digits

def IsExponent (l : List Char) : Prop :=
  l = [] ∨ ∃ e sign digits, l = e :: sign ++ digits ∧ (e = 'e' ∨ e = 'E') ∧
    (sign = [] ∨ sign = ['+'] ∨ sign = ['-']) ∧ Digits digits

def IsNumber (l : List Char) : Prop :=
  ∃ sign int fraction exponent, l = sign ++ int ++ fraction ++ exponent ∧
    (sign = [] ∨ sign = ['-']) ∧ IsInt int ∧ IsFraction fraction ∧ IsExponent exponent

/-- What stands between the quotes of a string. -/
inductive StringBody : List Char → Prop
  | nil : StringBody []
  | char {c : Char} {l : List Char} (hc : ' ' ≤ c) (hquote : c ≠ '"') (hescape : c ≠ '\\')
      (h : StringBody l) : StringBody (c :: l)
  | escape {c : Char} {l : List Char} (hc : c ∈ "\"\\/bfnrt".toList) (h : StringBody l) :
      StringBody ('\\' :: c :: l)
  | unicode {a b c d : Char} {l : List Char} (ha : IsHex a) (hb : IsHex b) (hc : IsHex c) (hd : IsHex d)
      (h : StringBody l) : StringBody ('\\' :: 'u' :: a :: b :: c :: d :: l)

def IsString (l : List Char) : Prop := ∃ body, l = '"' :: body ++ ['"'] ∧ StringBody body

/-- The recursive parts of the grammar. -/
inductive Kind where
  | value
  | elements
  | members

/-- The texts of each kind. -/
inductive Derives : Kind → List Char → Prop
  | literal {l : List Char} (h : l = "null".toList ∨ l = "true".toList ∨ l = "false".toList) :
      Derives .value l
  | number {l : List Char} (h : IsNumber l) : Derives .value l
  | string {l : List Char} (h : IsString l) : Derives .value l
  | emptyArray {l : List Char} (h : Blank l) : Derives .value ('[' :: l ++ [']'])
  | array {l : List Char} (h : Derives .elements l) : Derives .value ('[' :: l ++ [']'])
  | emptyObject {l : List Char} (h : Blank l) : Derives .value ('{' :: l ++ ['}'])
  | object {l : List Char} (h : Derives .members l) : Derives .value ('{' :: l ++ ['}'])
  | element {a v b : List Char} (ha : Blank a) (hv : Derives .value v) (hb : Blank b) :
      Derives .elements (a ++ v ++ b)
  | elements {l l' : List Char} (h : Derives .elements l) (h' : Derives .elements l') :
      Derives .elements (l ++ ',' :: l')
  | member {a k b c v d : List Char} (ha : Blank a) (hk : IsString k) (hb : Blank b) (hc : Blank c)
      (hv : Derives .value v) (hd : Blank d) : Derives .members (a ++ k ++ b ++ ':' :: (c ++ v ++ d))
  | members {l l' : List Char} (h : Derives .members l) (h' : Derives .members l') :
      Derives .members (l ++ ',' :: l')

/-- A JSON text: a value with blanks around it. -/
def Text (l : List Char) : Prop :=
  ∃ a v b, l = a ++ v ++ b ∧ Blank a ∧ Derives .value v ∧ Blank b

/-- The text of an object. -/
def IsObject (l : List Char) : Prop :=
  ∃ inner, l = '{' :: inner ++ ['}'] ∧ (Blank inner ∨ Derives .members inner)

/-! ## The scanner -/

inductive Mode where
  | plain
  | string
  | escape
  deriving DecidableEq

structure Scanner where
  depth : ℕ
  mode : Mode
  deriving DecidableEq

def step (s : Scanner) (c : Char) : Scanner :=
  match s.mode with
  | .plain =>
    if c = '"' then { s with mode := .string }
    else if c = '{' then { s with depth := s.depth + 1 }
    else if c = '}' then { s with depth := s.depth - 1 }
    else s
  | .string =>
    if c = '"' then { s with mode := .plain }
    else if c = '\\' then { s with mode := .escape }
    else s
  | .escape => { s with mode := .string }

def scan (s : Scanner) (l : List Char) : Scanner := l.foldl step s

/-- The depth does not go below `d`. -/
def Above (d : ℕ) : Scanner → List Char → Prop
  | s, [] => d ≤ s.depth
  | s, c :: l => d ≤ s.depth ∧ Above d (step s c) l

theorem scan_append (s : Scanner) (l l' : List Char) : scan s (l ++ l') = scan (scan s l) l' :=
  List.foldl_append

theorem scan_cons (s : Scanner) (c : Char) (l : List Char) : scan s (c :: l) = scan (step s c) l := rfl

theorem Above.start {d : ℕ} {s : Scanner} {l : List Char} (h : Above d s l) : d ≤ s.depth := by
  cases l with
  | nil => exact h
  | cons c l => exact h.1

theorem above_append {d : ℕ} {s : Scanner} {l l' : List Char} :
    Above d s (l ++ l') ↔ Above d s l ∧ Above d (scan s l) l' := by
  induction l generalizing s with
  | nil => exact ⟨fun h => ⟨h.start, h⟩, And.right⟩
  | cons c l ih =>
    rw [List.cons_append]
    change d ≤ s.depth ∧ Above d (step s c) (l ++ l') ↔ (d ≤ s.depth ∧ Above d (step s c) l) ∧ _
    rw [ih, and_assoc]
    rfl

theorem Above.mono {d d' : ℕ} (hd : d' ≤ d) {s : Scanner} {l : List Char} (h : Above d s l) :
    Above d' s l := by
  induction l generalizing s with
  | nil => exact hd.trans h
  | cons c l ih => exact ⟨hd.trans h.1, ih h.2⟩

/-- A text that leaves the depth as it was and does not go below it. -/
def Keeps (l : List Char) : Prop :=
  ∀ d, scan ⟨d, .plain⟩ l = ⟨d, .plain⟩ ∧ Above d ⟨d, .plain⟩ l

theorem keeps_nil : Keeps [] := fun d => ⟨rfl, le_refl d⟩

theorem Keeps.append {l l' : List Char} (h : Keeps l) (h' : Keeps l') : Keeps (l ++ l') := by
  intro d
  obtain ⟨hscan, habove⟩ := h d
  rw [scan_append, above_append, hscan]
  exact ⟨(h' d).1, habove, (h' d).2⟩

/-- A character that the scanner does not look at. -/
def Passive (c : Char) : Prop := c ≠ '"' ∧ c ≠ '{' ∧ c ≠ '}'

theorem step_passive {c : Char} (h : Passive c) (d : ℕ) : step ⟨d, .plain⟩ c = ⟨d, .plain⟩ := by
  unfold step
  dsimp only
  rw [if_neg h.1, if_neg h.2.1, if_neg h.2.2]

theorem keeps_of_passive {l : List Char} (h : ∀ c ∈ l, Passive c) : Keeps l := by
  induction l with
  | nil => exact keeps_nil
  | cons c l ih =>
    intro d
    obtain ⟨hscan, habove⟩ := ih (fun c' hc' => h c' (List.mem_cons_of_mem _ hc')) d
    have hstep := step_passive (h c List.mem_cons_self) d
    exact ⟨by rw [scan_cons, hstep, hscan], le_refl d, by rwa [hstep]⟩

/-- Braces around a text that keeps the depth. -/
theorem Keeps.braces {l : List Char} (h : Keeps l) : Keeps ('{' :: l ++ ['}']) := by
  intro d
  obtain ⟨hscan, habove⟩ := h (d + 1)
  have hopen : step ⟨d, .plain⟩ '{' = ⟨d + 1, .plain⟩ := rfl
  have hclose : scan ⟨d + 1, .plain⟩ ['}'] = ⟨d, .plain⟩ := rfl
  rw [List.cons_append]
  constructor
  · rw [scan_cons, hopen, scan_append, hscan, hclose]
  · refine ⟨le_refl d, ?_⟩
    rw [hopen, above_append, hscan]
    exact ⟨habove.mono d.le_succ, d.le_succ, le_refl d⟩

/-! ## Every text keeps the depth -/

theorem passive_of_digit {c : Char} (h : c.isDigit = true) : Passive c := by
  refine ⟨?_, ?_, ?_⟩ <;> rintro rfl <;> cases h

theorem passive_of_blank {l : List Char} (h : Blank l) : ∀ c ∈ l, Passive c := by
  intro c hc
  rcases h c hc with rfl | rfl | rfl | rfl <;> exact ⟨by decide, by decide, by decide⟩

theorem passive_singleton {c : Char} (h : Passive c) : ∀ c' ∈ [c], Passive c' := by
  intro c' hc'
  rwa [List.mem_singleton.1 hc']

theorem passive_append {l l' : List Char} (h : ∀ c ∈ l, Passive c) (h' : ∀ c ∈ l', Passive c) :
    ∀ c ∈ l ++ l', Passive c := fun c hc => (List.mem_append.1 hc).elim (h c) (h' c)

theorem passive_of_number {l : List Char} (h : IsNumber l) : ∀ c ∈ l, Passive c := by
  obtain ⟨sign, int, fraction, exponent, rfl, hsign, hint, hfraction, hexponent⟩ := h
  have hdigits : ∀ {digits : List Char}, Digits digits → ∀ c ∈ digits, Passive c :=
    fun hd c hc => passive_of_digit (hd.2 c hc)
  refine passive_append (passive_append (passive_append ?_ (hdigits hint.1)) ?_) ?_
  · rcases hsign with rfl | rfl
    · nofun
    · exact passive_singleton ⟨by decide, by decide, by decide⟩
  · rcases hfraction with rfl | ⟨digits, rfl, hd⟩
    · nofun
    · exact passive_append (passive_singleton ⟨by decide, by decide, by decide⟩) (hdigits hd)
  · rcases hexponent with rfl | ⟨e, sign, digits, rfl, he, hsign, hd⟩
    · nofun
    · refine passive_append (passive_append (l := [e]) (passive_singleton ?_) ?_) (hdigits hd)
      · rcases he with rfl | rfl <;> exact ⟨by decide, by decide, by decide⟩
      · rcases hsign with rfl | rfl | rfl
        · nofun
        · exact passive_singleton ⟨by decide, by decide, by decide⟩
        · exact passive_singleton ⟨by decide, by decide, by decide⟩

theorem step_string {c : Char} (hquote : c ≠ '"') (hescape : c ≠ '\\') (d : ℕ) :
    step ⟨d, .string⟩ c = ⟨d, .string⟩ := by
  unfold step
  dsimp only
  rw [if_neg hquote, if_neg hescape]

theorem step_hex {c : Char} (h : IsHex c) (d : ℕ) : step ⟨d, .string⟩ c = ⟨d, .string⟩ := by
  rcases h with h | h
  · exact step_string (passive_of_digit h).1 (by rintro rfl; cases h) d
  · exact step_string (by rintro rfl; revert h; decide) (by rintro rfl; revert h; decide) d

/-- Inside a string the depth stays as it is. -/
theorem scan_stringBody {l : List Char} (h : StringBody l) (d : ℕ) (rest : List Char) :
    scan ⟨d, .string⟩ (l ++ rest) = scan ⟨d, .string⟩ rest ∧
      (Above d ⟨d, .string⟩ (l ++ rest) ↔ Above d ⟨d, .string⟩ rest) := by
  have hstart : ∀ {s : Scanner} {c : Char} {l : List Char}, s.depth = d →
      (Above d s (c :: l) ↔ Above d (step s c) l) :=
    fun hs => and_iff_right hs.ge
  induction h with
  | nil => exact ⟨rfl, Iff.rfl⟩
  | char _ hquote hescape _ ih =>
    rw [List.cons_append, scan_cons, hstart rfl, step_string hquote hescape]
    exact ih
  | escape _ _ ih =>
    rw [List.cons_append, List.cons_append, scan_cons, scan_cons, hstart rfl, hstart rfl]
    exact ih
  | unicode ha hb hc hd _ ih =>
    simp only [List.cons_append]
    rw [scan_cons, scan_cons, hstart rfl, hstart rfl]
    change scan (step ⟨d, .string⟩ _) _ = _ ∧ (Above d ⟨d, .string⟩ _ ↔ _)
    rw [step_hex ha, scan_cons, step_hex hb, scan_cons, step_hex hc, scan_cons, step_hex hd,
      hstart rfl, step_hex ha, hstart rfl, step_hex hb, hstart rfl, step_hex hc, hstart rfl, step_hex hd]
    exact ih

theorem keeps_of_string {l : List Char} (h : IsString l) : Keeps l := by
  obtain ⟨body, rfl, hbody⟩ := h
  intro d
  obtain ⟨hscan, habove⟩ := scan_stringBody hbody d ['"']
  have hopen : step ⟨d, .plain⟩ '"' = ⟨d, .string⟩ := rfl
  rw [List.cons_append, scan_cons, hopen, hscan]
  refine ⟨rfl, le_refl d, ?_⟩
  rw [hopen, habove]
  exact ⟨le_refl d, le_refl d⟩

theorem keeps_of_blank {l : List Char} (h : Blank l) : Keeps l := keeps_of_passive (passive_of_blank h)

theorem keeps_singleton {c : Char} (h : Passive c) : Keeps [c] := keeps_of_passive (passive_singleton h)

/-- A character that the scanner does not look at, between two texts. -/
theorem Keeps.separated {l l' : List Char} (h : Keeps l) (h' : Keeps l') {c : Char} (hc : Passive c) :
    Keeps (l ++ c :: l') := h.append ((keeps_singleton hc).append h')

theorem Keeps.brackets {l : List Char} (h : Keeps l) : Keeps ('[' :: l ++ [']']) :=
  ((keeps_singleton ⟨by decide, by decide, by decide⟩).append h).append
    (keeps_singleton ⟨by decide, by decide, by decide⟩)

/-- **Every text of the grammar leaves the depth as it was.** -/
theorem Derives.keeps {kind : Kind} {l : List Char} (h : Derives kind l) : Keeps l := by
  induction h with
  | literal h =>
    refine keeps_of_passive ?_
    rcases h with rfl | rfl | rfl <;> simp [Passive]
  | number h => exact keeps_of_passive (passive_of_number h)
  | string h => exact keeps_of_string h
  | emptyArray h => exact (keeps_of_blank h).brackets
  | array _ ih => exact ih.brackets
  | emptyObject h => exact (keeps_of_blank h).braces
  | object _ ih => exact ih.braces
  | element ha _ hb ih => exact ((keeps_of_blank ha).append ih).append (keeps_of_blank hb)
  | elements _ _ ih ih' => exact ih.separated ih' ⟨by decide, by decide, by decide⟩
  | member ha hk hb hc _ hd ih =>
    exact (((keeps_of_blank ha).append (keeps_of_string hk)).append (keeps_of_blank hb)).separated
      (((keeps_of_blank hc).append ih).append (keeps_of_blank hd)) ⟨by decide, by decide, by decide⟩
  | members _ _ ih ih' => exact ih.separated ih' ⟨by decide, by decide, by decide⟩

theorem keeps_inner {inner : List Char} (h : Blank inner ∨ Derives .members inner) : Keeps inner :=
  h.elim keeps_of_blank Derives.keeps

/-! ## Where an object ends -/

/-- The brace that closes an object is the first one that does. -/
theorem inner_of_append {inner inner' rest : List Char} (h : Keeps inner) (h' : Keeps inner')
    (heq : inner' ++ ['}'] = inner ++ '}' :: rest) : rest = [] := by
  rcases List.eq_nil_or_concat rest with hnil | ⟨rest, c, rfl⟩
  · exact hnil
  · rw [List.concat_eq_append, ← List.cons_append, ← List.append_assoc] at heq
    obtain ⟨rfl, -⟩ := List.append_inj' heq rfl
    -- the depth would be zero behind the brace
    have habove := (h' 1).2
    rw [above_append, (h 1).1] at habove
    have hzero : (1 : ℕ) ≤ 0 := habove.2.2.start
    omega

theorem isObject_unique {j j' t t' : List Char} (hj : IsObject j) (hj' : IsObject j')
    (heq : j ++ t = j' ++ t') : j = j' ∧ t = t' := by
  have hpre : ∀ {j j' rest : List Char}, IsObject j → IsObject j' → j' = j ++ rest → rest = [] := by
    rintro j j' rest ⟨inner, rfl, hinner⟩ ⟨inner', rfl, hinner'⟩ h
    rw [List.cons_append, List.cons_append, List.cons_append, List.append_assoc] at h
    exact inner_of_append (keeps_inner hinner) (keeps_inner hinner') (List.cons.inj h).2
  rcases List.append_eq_append_iff.1 heq with ⟨rest, hj₂, ht⟩ | ⟨rest, hj₂, ht⟩
  · have hrest := hpre hj hj' hj₂
    subst hrest
    exact ⟨by simpa using hj₂.symm, by simpa using ht⟩
  · have hrest := hpre hj' hj hj₂
    subst hrest
    exact ⟨by simpa using hj₂, by simpa using ht.symm⟩

theorem not_blank_brace {l : List Char} : ¬ Blank ('{' :: l) := by
  intro h
  rcases h '{' List.mem_cons_self with h | h | h | h <;> cases h

/-- What a value begins with. -/
theorem value_cons {v : List Char} (h : Derives .value v) :
    ∃ c l, v = c :: l ∧ (c.isDigit = true ∨ c ∈ "-\"[\x7bntf".toList) := by
  cases h with
  | literal h =>
    rcases h with rfl | rfl | rfl
    · exact ⟨'n', "ull".toList, rfl, .inr (by decide)⟩
    · exact ⟨'t', "rue".toList, rfl, .inr (by decide)⟩
    · exact ⟨'f', "alse".toList, rfl, .inr (by decide)⟩
  | number h =>
    obtain ⟨sign, int, fraction, exponent, rfl, hsign, hint, -, -⟩ := h
    rcases hsign with rfl | rfl
    · cases int with
      | nil => exact absurd rfl hint.1.1
      | cons d digits => exact ⟨d, _, rfl, .inl (hint.1.2 d List.mem_cons_self)⟩
    · exact ⟨'-', _, rfl, .inr (by decide)⟩
  | string h =>
    obtain ⟨body, rfl, -⟩ := h
    exact ⟨'"', _, rfl, .inr (by decide)⟩
  | emptyArray h => exact ⟨'[', _, rfl, .inr (by decide)⟩
  | array h => exact ⟨'[', _, rfl, .inr (by decide)⟩
  | emptyObject h => exact ⟨'{', _, rfl, .inr (by decide)⟩
  | object h => exact ⟨'{', _, rfl, .inr (by decide)⟩

/-- A value that begins with a brace is an object. -/
theorem isObject_of_value {l : List Char} (h : Derives .value ('{' :: l)) : IsObject ('{' :: l) := by
  generalize hv : '{' :: l = v at h ⊢
  have hnumber : ¬ IsNumber ('{' :: l) := fun h =>
    (passive_of_number h '{' List.mem_cons_self).2.1 rfl
  cases h with
  | literal h => rcases h with rfl | rfl | rfl <;> cases hv
  | number h =>
    rw [← hv] at h
    exact absurd h hnumber
  | string h =>
    obtain ⟨body, rfl, -⟩ := h
    cases hv
  | emptyArray h => cases hv
  | array h => cases hv
  | emptyObject h => exact ⟨_, rfl, .inl h⟩
  | object h => exact ⟨_, rfl, .inr h⟩

/-- What a text begins with: a blank, or a value. -/
theorem Text.head {c : Char} {l : List Char} (h : Text (c :: l)) :
    Blank [c] ∨ c.isDigit = true ∨ c ∈ "-\"[\x7bntf".toList := by
  obtain ⟨a, v, b, hsplit, ha, hv, -⟩ := h
  cases a with
  | cons c' a =>
    left
    rw [(List.cons.inj hsplit).1]
    intro c hc
    rw [List.mem_singleton.1 hc]
    exact ha c' List.mem_cons_self
  | nil =>
    right
    obtain ⟨c', l', rfl, hc'⟩ := value_cons hv
    rw [(List.cons.inj hsplit).1]
    exact hc'

/-- A text whose value is an object. -/
def ObjectText (l : List Char) : Prop := ∃ a j b, l = a ++ j ++ b ∧ Blank a ∧ IsObject j ∧ Blank b

theorem IsObject.objectText {j : List Char} (h : IsObject j) : ObjectText j :=
  ⟨[], j, [], (List.append_nil _).symm, nofun, h, nofun⟩

theorem ObjectText.text {l : List Char} (h : ObjectText l) : Text l := by
  obtain ⟨a, j, b, rfl, ha, ⟨inner, rfl, hinner⟩, hb⟩ := h
  exact ⟨a, _, b, rfl, ha, hinner.elim Derives.emptyObject Derives.object, hb⟩

theorem IsObject.text {j : List Char} (h : IsObject j) : Text j := h.objectText.text

/-- A text that begins with a brace is an object, and blanks. -/
theorem object_of_text {l : List Char} (h : Text ('{' :: l)) :
    ∃ j b, '{' :: l = j ++ b ∧ IsObject j ∧ Blank b := by
  obtain ⟨a, v, b, hsplit, ha, hv, hb⟩ := h
  cases a with
  | cons c a =>
    rw [List.cons_append, List.cons_append] at hsplit
    rw [← (List.cons.inj hsplit).1] at ha
    exact absurd ha not_blank_brace
  | nil =>
    rw [List.nil_append] at hsplit
    obtain ⟨c, l', rfl, -⟩ := value_cons hv
    obtain rfl : '{' = c := (List.cons.inj hsplit).1
    exact ⟨_, b, hsplit, isObject_of_value hv, hb⟩

/-- A text that begins with an object goes on with blanks only. -/
theorem blank_of_text {j t : List Char} (hj : IsObject j) (h : Text (j ++ t)) : Blank t := by
  have hj' := hj
  obtain ⟨inner, rfl, -⟩ := hj'
  obtain ⟨j', b, hsplit, hobject, hb⟩ := object_of_text h
  rw [(isObject_unique hj hobject hsplit).2]
  exact hb

end JsonText
