import Mathlib.Data.List.Basic
import Mathlib.Data.List.Infix

/-!
# Routing by prefix

A router tries its handlers in turn and takes the first one whose filter accepts the text: an exact text, or
all texts with a certain beginning.  If no two filters accept the same text, a text has one handler at most,
and the order of registration does not matter (`dispatch_eq`, `dispatch_perm`).  Whether two filters have a text
in common is decidable from the filters alone (`overlap_iff`).
-/

namespace Routes

variable {α γ H : Type} [DecidableEq α]

/-- What a handler listens to. -/
inductive Filter (α : Type) where
  | exact (text : List α)
  | startsWith (text : List α)
  deriving DecidableEq

namespace Filter

def accepts : Filter α → List α → Bool
  | exact t, s => s == t
  | startsWith t, s => t.isPrefixOf s

/-- Some text is accepted by both. -/
def overlap : Filter α → Filter α → Bool
  | exact t, f => f.accepts t
  | f, exact t => f.accepts t
  | startsWith t, startsWith t' => t.isPrefixOf t' || t'.isPrefixOf t

theorem accepts_exact {t s : List α} : (exact t).accepts s = true ↔ s = t := beq_iff_eq

theorem accepts_startsWith {t s : List α} : (startsWith t).accepts s = true ↔ t <+: s :=
  List.isPrefixOf_iff_prefix

theorem overlap_iff {f g : Filter α} :
    f.overlap g = true ↔ ∃ s, f.accepts s = true ∧ g.accepts s = true := by
  cases f with
  | exact t =>
    show g.accepts t = true ↔ _
    constructor
    · exact fun h => ⟨t, accepts_exact.2 rfl, h⟩
    · rintro ⟨s, hs, h⟩
      rwa [← accepts_exact.1 hs]
  | startsWith t =>
    cases g with
    | exact t' =>
      show (startsWith t).accepts t' = true ↔ _
      constructor
      · exact fun h => ⟨t', h, accepts_exact.2 rfl⟩
      · rintro ⟨s, h, hs⟩
        rwa [← accepts_exact.1 hs]
    | startsWith t' =>
      show (t.isPrefixOf t' || t'.isPrefixOf t) = true ↔ _
      rw [Bool.or_eq_true, List.isPrefixOf_iff_prefix, List.isPrefixOf_iff_prefix]
      constructor
      · rintro (h | h)
        · exact ⟨t', accepts_startsWith.2 h, accepts_startsWith.2 List.prefix_rfl⟩
        · exact ⟨t, accepts_startsWith.2 List.prefix_rfl, accepts_startsWith.2 h⟩
      · rintro ⟨s, h, h'⟩
        exact List.prefix_or_prefix_of_prefix (accepts_startsWith.1 h) (accepts_startsWith.1 h')

end Filter

/-! ## Dispatch -/

section Dispatch

variable (filter : H → Filter α) (guard : γ → H → Bool)

/-- The first handler that is on duty and accepts the text. -/
def dispatch (handlers : List H) (ctx : γ) (s : List α) : Option H :=
  handlers.find? fun h => guard ctx h && (filter h).accepts s

/-- No two handlers accept the same text. -/
def Separate (handlers : List H) : Prop :=
  handlers.Pairwise fun h h' => (filter h).overlap (filter h') = false

variable {filter guard} {handlers : List H}

theorem Separate.eq (hsep : Separate filter handlers) {h h' : H} (hh : h ∈ handlers) (hh' : h' ∈ handlers)
    {s : List α} (hs : (filter h).accepts s = true) (hs' : (filter h').accepts s = true) : h = h' := by
  unfold Separate at hsep
  induction handlers with
  | nil => cases hh
  | cons k ks ih =>
    obtain ⟨hk, hks⟩ := List.pairwise_cons.1 hsep
    have hclash : ∀ x ∈ ks, ¬ ((filter k).accepts s = true ∧ (filter x).accepts s = true) := by
      intro x hx hboth
      have := hk x hx
      rw [Filter.overlap_iff.2 ⟨s, hboth⟩] at this
      cases this
    rcases List.mem_cons.1 hh with heq | hmem
    · rcases List.mem_cons.1 hh' with heq' | hmem'
      · rw [heq, heq']
      · exact absurd ⟨heq ▸ hs, hs'⟩ (hclash h' hmem')
    · rcases List.mem_cons.1 hh' with heq' | hmem'
      · exact absurd ⟨heq' ▸ hs', hs⟩ (hclash h hmem)
      · exact ih hks hmem hmem'

/-- **The handler that accepts a text gets it**, wherever it stands. -/
theorem dispatch_eq (hsep : Separate filter handlers) {h : H} (hh : h ∈ handlers) {ctx : γ} {s : List α}
    (hs : (filter h).accepts s = true) :
    dispatch filter guard handlers ctx s = if guard ctx h then some h else none := by
  unfold dispatch
  cases hfind : handlers.find? fun h => guard ctx h && (filter h).accepts s with
  | none =>
    have hnone := List.find?_eq_none.1 hfind h hh
    rw [hs, Bool.and_true] at hnone
    rw [if_neg hnone]
  | some k =>
    have hk := List.find?_some hfind
    rw [Bool.and_eq_true] at hk
    obtain rfl : k = h := hsep.eq (List.mem_of_find?_eq_some hfind) hh hk.2 hs
    rw [if_pos hk.1]

/-- A text that no handler accepts. -/
theorem dispatch_eq_none {ctx : γ} {s : List α} (hs : ∀ h ∈ handlers, (filter h).accepts s = false) :
    dispatch filter guard handlers ctx s = none := by
  unfold dispatch
  rw [List.find?_eq_none]
  intro h hh
  rw [hs h hh, Bool.and_false]
  exact Bool.false_ne_true

/-- **The order does not matter.** -/
theorem dispatch_perm (hsep : Separate filter handlers) {handlers' : List H} (hperm : handlers'.Perm handlers)
    (ctx : γ) (s : List α) :
    dispatch filter guard handlers' ctx s = dispatch filter guard handlers ctx s := by
  have hsep' : Separate filter handlers' := by
    refine hperm.symm.pairwise hsep fun {h h'} hno => ?_
    by_contra hyes
    obtain ⟨t, ht, ht'⟩ := Filter.overlap_iff.1 (Bool.not_eq_false _ ▸ hyes)
    rw [Filter.overlap_iff.2 ⟨t, ht', ht⟩] at hno
    cases hno
  by_cases hsome : ∃ h ∈ handlers, (filter h).accepts s = true
  · obtain ⟨h, hh, hs⟩ := hsome
    rw [dispatch_eq hsep hh hs, dispatch_eq hsep' (hperm.mem_iff.2 hh) hs]
  · have hnone : ∀ h ∈ handlers, (filter h).accepts s = false := fun h hh =>
      Bool.eq_false_iff.2 fun hs => hsome ⟨h, hh, hs⟩
    rw [dispatch_eq_none hnone, dispatch_eq_none fun h hh => hnone h (hperm.mem_iff.1 hh)]

end Dispatch

end Routes
