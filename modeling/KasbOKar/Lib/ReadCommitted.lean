import KasbOKar.Lib.Runs
import Mathlib.Algebra.BigOperators.Group.Finset.Basic
import Mathlib.Data.Fintype.Option
import Mathlib.Logic.Function.Basic

/-!
# Interleaved transactions at the READ COMMITTED level

A transaction is a program of statements (`Prog`).  The transactions of a configuration take
turns, one statement at a time, in any order:

* a plain `SELECT` (`read`) never waits; it sees the committed rows of this moment and the
  transaction's own uncommitted edits;
* a row lock (`lock`: one row of a `SELECT … FOR UPDATE`, or the row of an `UPDATE` before its
  new value is computed) waits until no other transaction holds the row and then sees its newest
  committed version;
* a write of a row (`exec`, `insert`) waits for the row's lock, acts on the row's newest version
  and stays invisible to the others until the transaction commits;
* `commit` publishes the edits and frees the locks, `rollback` drops them.  Any open transaction
  may also be rolled back at any moment (`Act.abort`): an exception, a deadlock, a lost connection.

The identifier of an inserted row is any number that no row and no open transaction uses; a
sequence is one way to choose it.

The edits of an open transaction are kept apart and applied when it commits.  Their rows are
locked and the effect of an edit on its row depends on that row only, so an `UPDATE … SET x = x + 1`
publishes the value it had computed when it was executed (`Same.applyAll`).

`wp` is the proof rule.  It follows the program and lets the committed rows change arbitrarily
before each statement, except for the rows the transaction has locked.  `inv_step` turns it into
an invariant of all interleavings.
-/

namespace ReadCommitted

/-- A database that is changed by edits of single rows: `E` are the edits, `K` the rows'
addresses and `V` the rows' contents.  An edit changes its own row only, and in a way that depends
on this row only; `isNew` marks the edits that insert one. -/
class Store (D : Type) (E K V : outParam Type) where
  apply : D → E → D
  row : E → K
  isNew : E → Bool
  get : D → K → Option V
  get_apply_of_ne : ∀ (d : D) (e : E) (k : K), k ≠ row e → get (apply d e) k = get d k
  get_apply_row : ∀ (d d' : D) (e : E), get d' (row e) = get d (row e) →
    get (apply d' e) (row e) = get (apply d e) (row e)

/-- A transaction as a program of statements, with its result. -/
inductive Prog (D E K R : Type) : Type where
  | commit (r : R)
  | rollback
  | read (k : D → Prog D E K R)
  | lock (key : K) (k : D → Prog D E K R)
  | exec (e : E) (k : Prog D E K R)
  | insert (e : ℕ → E) (k : ℕ → Prog D E K R)

inductive Status (D E K R : Type) : Type where
  | running (p : Prog D E K R)
  | committed (r : R)
  | rolledBack

/-- One transaction: what it still has to do, its edits (oldest first), the rows it has locked
and what its plain `SELECT`s have returned (latest first).  A committed transaction keeps its
edits as a record of what it published. -/
structure Tx (D E K R : Type) : Type where
  status : Status D E K R
  edits : List E := []
  locks : List K := []
  reads : List D := []

/-- The committed rows and all transactions. -/
structure Config (ι D E K R : Type) : Type where
  db : D
  tx : ι → Tx D E K R

/-- The next statement of a transaction, with the identifier an `INSERT` gets, or a rollback
from outside. -/
inductive Act (ι : Type) : Type where
  | next (i : ι) (newId : ℕ)
  | abort (i : ι)

variable {ι D E K V R : Type} [Store D E K V]

/-- The effect of a list of edits. -/
def applyAll (d : D) (es : List E) : D := es.foldl Store.apply d

@[simp] theorem applyAll_nil (d : D) : applyAll d ([] : List E) = d := rfl

@[simp] theorem applyAll_cons (d : D) (e : E) (es : List E) :
    applyAll d (e :: es) = applyAll (Store.apply d e) es := rfl

@[simp] theorem applyAll_append (d : D) (es es' : List E) :
    applyAll d (es ++ es') = applyAll (applyAll d es) es' := List.foldl_append

theorem get_applyAll_of_notMem {k : K} :
    ∀ {es : List E} (d : D), (∀ e ∈ es, Store.row D e ≠ k) →
      Store.get (applyAll d es) k = Store.get d k := by
  intro es
  induction es with
  | nil => intro d _; rfl
  | cons e es ih =>
    intro d h
    rw [applyAll_cons, ih _ fun e' he' => h e' (List.mem_cons_of_mem _ he')]
    exact Store.get_apply_of_ne d e k (h e List.mem_cons_self).symm

/-- A write: the row is locked and the edit joins the transaction's own edits. -/
def Tx.write (D : Type) {E K V R : Type} [Store D E K V] (t : Tx D E K R) (e : E)
    (k : Prog D E K R) : Tx D E K R :=
  { t with status := .running k, edits := t.edits ++ [e], locks := Store.row D e :: t.locks }

namespace Config

/-- What transaction `i` sees: the committed rows under its own edits. -/
def view (c : Config ι D E K R) (i : ι) : D := applyAll c.db (c.tx i).edits

/-- The key of a row to be inserted is not in use. -/
def Unused (c : Config ι D E K R) (i : ι) (e : E) : Prop :=
  Store.isNew D e = true → (Store.get (c.view i) (Store.row D e)).isNone = true

instance (c : Config ι D E K R) (i : ι) (e : E) : Decidable (c.Unused i e) :=
  inferInstanceAs (Decidable (_ → _))

/-- No other transaction holds the row. -/
def Free (c : Config ι D E K R) (i : ι) (key : K) : Prop := ∀ j, j ≠ i → key ∉ (c.tx j).locks

instance [Fintype ι] [DecidableEq ι] [DecidableEq K] (c : Config ι D E K R) (i : ι) (key : K) :
    Decidable (c.Free i key) := inferInstanceAs (Decidable (∀ _, _))

/-- The result of a committed transaction and the edits it has published. -/
def outcome (c : Config ι D E K R) (i : ι) : Option (R × List E) :=
  match (c.tx i).status with
  | .committed r => some (r, (c.tx i).edits)
  | _ => none

/-- Every transaction has committed or was rolled back. -/
def Finished (c : Config ι D E K R) : Prop := ∀ i p, (c.tx i).status ≠ .running p

variable [DecidableEq ι]

/-- Replace the state of transaction `i`. -/
def set (c : Config ι D E K R) (i : ι) (t : Tx D E K R) : Config ι D E K R :=
  { c with tx := Function.update c.tx i t }

/-- `COMMIT`: the edits of transaction `i` become the committed rows, its locks are freed. -/
def publish (c : Config ι D E K R) (i : ι) (r : R) : Config ι D E K R :=
  { db := c.view i, tx := Function.update c.tx i { c.tx i with status := .committed r, locks := [] } }

/-- `ROLLBACK`: the edits of transaction `i` are dropped, its locks are freed. -/
def drop (c : Config ι D E K R) (i : ι) : Config ι D E K R :=
  c.set i { c.tx i with status := .rolledBack, edits := [], locks := [] }

/-- Transaction `i` executes its next statement; `none` when it has to wait or has ended. -/
def next [Fintype ι] [DecidableEq K] (c : Config ι D E K R) (i : ι) (newId : ℕ) :
    Option (Config ι D E K R) :=
  match (c.tx i).status with
  | .committed _ => none
  | .rolledBack => none
  | .running (.commit r) => some (c.publish i r)
  | .running .rollback => some (c.drop i)
  | .running (.read k) =>
    some (c.set i { c.tx i with
      status := .running (k (c.view i)), reads := c.view i :: (c.tx i).reads })
  | .running (.lock key k) =>
    if c.Free i key then
      some (c.set i { c.tx i with status := .running (k (c.view i)), locks := key :: (c.tx i).locks })
    else none
  | .running (.exec e k) =>
    if c.Free i (Store.row D e) ∧ c.Unused i e then some (c.set i ((c.tx i).write D e k)) else none
  | .running (.insert e k) =>
    if c.Free i (Store.row D (e newId)) ∧ c.Unused i (e newId) then
      some (c.set i ((c.tx i).write D (e newId) (k newId)))
    else none

/-- An open transaction is rolled back from outside. -/
def abort (c : Config ι D E K R) (i : ι) : Option (Config ι D E K R) :=
  match (c.tx i).status with
  | .running _ => some (c.drop i)
  | _ => none

/-- One step of an interleaving. -/
def step [Fintype ι] [DecidableEq K] (c : Config ι D E K R) : Act ι → Option (Config ι D E K R)
  | .next i newId => c.next i newId
  | .abort i => c.abort i

end Config

/-- All transactions at their first statement. -/
def start (d : D) (prog : ι → Prog D E K R) : Config ι D E K R :=
  { db := d, tx := fun i => { status := .running (prog i) } }

/-! ## The proof rule -/

/-- The rows in `L` are the same in both databases. -/
def Same (L : List K) (d d' : D) : Prop := ∀ k ∈ L, Store.get d' k = Store.get d k

theorem Same.refl (L : List K) (d : D) : Same L d d := fun _ _ => rfl

theorem Same.trans {L : List K} {d d' d'' : D} (h : Same L d d') (h' : Same L d' d'') :
    Same L d d'' := fun k hk => (h' k hk).trans (h k hk)

theorem Same.mono {L L' : List K} {d d' : D} (h : Same L d d') (hL : ∀ k ∈ L', k ∈ L) :
    Same L' d d' := fun k hk => h k (hL k hk)

/-- An edit keeps the agreement of two databases on any rows. -/
theorem Same.apply {L : List K} {d d' : D} (h : Same L d d') (e : E) :
    Same L (Store.apply d e) (Store.apply d' e) := by
  intro k hk
  by_cases hke : k = Store.row D e
  · subst hke
    exact Store.get_apply_row d d' e (h _ hk)
  · rw [Store.get_apply_of_ne d' e k hke, Store.get_apply_of_ne d e k hke, h k hk]

theorem Same.applyAll {L : List K} : ∀ {es : List E} {d d' : D}, Same L d d' →
    Same L (applyAll d es) (applyAll d' es) := by
  intro es
  induction es with
  | nil => intro d d' h; exact h
  | cons e es ih => intro d d' h; exact ih (h.apply e)

/-- The rows that `es` inserts are not there before. -/
def FreshIn : D → List E → Prop
  | _, [] => True
  | d, e :: es => (Store.isNew D e = true → Store.get d (Store.row D e) = none) ∧
      FreshIn (Store.apply d e) es

theorem freshIn_append {es es' : List E} : ∀ {d : D},
    FreshIn d (es ++ es') ↔ FreshIn d es ∧ FreshIn (applyAll d es) es' := by
  induction es with
  | nil => intro d; simp [FreshIn]
  | cons e es ih =>
    intro d
    rw [List.cons_append, FreshIn, FreshIn, ih, applyAll_cons, and_assoc]

theorem FreshIn.of_same {L : List K} : ∀ {es : List E} {d d' : D}, FreshIn d es →
    (∀ e ∈ es, Store.row D e ∈ L) → Same L d d' → FreshIn d' es := by
  intro es
  induction es with
  | nil => intro d d' _ _ _; trivial
  | cons e es ih =>
    intro d d' h hL hs
    refine ⟨fun hn => ?_, ih h.2 (fun e' he' => hL e' (List.mem_cons_of_mem _ he')) (hs.apply e)⟩
    rw [hs _ (hL e List.mem_cons_self)]
    exact h.1 hn

/-- Whatever the other transactions commit before each statement, as long as the committed rows
satisfy `J` and the rows locked here stay as they are, the program only commits in situations
that satisfy `Q`: the committed rows at that moment, what its `SELECT`s returned, its edits and
its result. -/
def wp (J : D → Prop) (Q : D → List D → List E → R → Prop) :
    Prog D E K R → List K → List D → List E → D → Prop
  | .commit r, L, rs, es, d => ∀ d', J d' → Same L d d' → FreshIn d' es → Q d' rs es r
  | .rollback, _, _, _, _ => True
  | .read k, L, rs, es, d => ∀ d', J d' → Same L d d' →
      wp J Q (k (applyAll d' es)) L (applyAll d' es :: rs) es d'
  | .lock key k, L, rs, es, d => ∀ d', J d' → Same L d d' →
      wp J Q (k (applyAll d' es)) (key :: L) rs es d'
  | .exec e k, L, rs, es, d => ∀ d', J d' → Same L d d' →
      wp J Q k (Store.row D e :: L) rs (es ++ [e]) d'
  | .insert e k, L, rs, es, d => ∀ d', J d' → Same L d d' → ∀ n,
      wp J Q (k n) (Store.row D (e n) :: L) rs (es ++ [e n]) d'

theorem wp_stable {J : D → Prop} {Q : D → List D → List E → R → Prop} {p : Prog D E K R}
    {L : List K} {rs : List D} {es : List E} {d d' : D} (h : wp J Q p L rs es d)
    (hs : Same L d d') : wp J Q p L rs es d' := by
  cases p with
  | rollback => trivial
  | commit r => exact fun d'' hJ hs' => h d'' hJ (hs.trans hs')
  | read k => exact fun d'' hJ hs' => h d'' hJ (hs.trans hs')
  | lock key k => exact fun d'' hJ hs' => h d'' hJ (hs.trans hs')
  | exec e k => exact fun d'' hJ hs' => h d'' hJ (hs.trans hs')
  | insert e k => exact fun d'' hJ hs' => h d'' hJ (hs.trans hs')

/-- The rows to be inserted are new when the program commits. -/
theorem wp_fresh {J : D → Prop} {Q : D → List D → List E → R → Prop} (p : Prog D E K R) :
    ∀ {L : List K} {rs : List D} {es : List E} {d : D}, wp J Q p L rs es d →
      wp J (fun d rs es r => FreshIn d es ∧ Q d rs es r) p L rs es d := by
  induction p with
  | rollback => intro L rs es d _; trivial
  | commit r => exact fun h d' hJ hs hfresh => ⟨hfresh, h d' hJ hs hfresh⟩
  | read k ih => exact fun h d' hJ hs => ih _ (h d' hJ hs)
  | lock key k ih => exact fun h d' hJ hs => ih _ (h d' hJ hs)
  | exec e k ih => exact fun h d' hJ hs => ih (h d' hJ hs)
  | insert e k ih => exact fun h d' hJ hs n => ih n (h d' hJ hs n)

/-- The locking discipline: no row is held twice, an open transaction holds every row it has
written, and the rows it is to insert are still new. -/
structure Locked (c : Config ι D E K R) : Prop where
  disjoint : ∀ i j, i ≠ j → ∀ k ∈ (c.tx i).locks, k ∉ (c.tx j).locks
  held : ∀ i p, (c.tx i).status = .running p →
    ∀ e ∈ (c.tx i).edits, Store.row D e ∈ (c.tx i).locks
  fresh : ∀ i p, (c.tx i).status = .running p → FreshIn c.db (c.tx i).edits

/-- The invariant of an interleaving: a global property of the committed rows and outcomes, the
locking discipline, and `wp` for every open transaction. -/
structure Inv (J : D → Prop) (Q : ι → D → List D → List E → R → Prop)
    (G : D → (ι → Option (R × List E)) → Prop) (c : Config ι D E K R) : Prop where
  global : G c.db c.outcome
  locked : Locked c
  local_ : ∀ i p, (c.tx i).status = .running p →
    wp J (Q i) p (c.tx i).locks (c.tx i).reads (c.tx i).edits c.db

/-- A commit leaves the rows that other transactions have locked as they are. -/
theorem Locked.same_view {c : Config ι D E K R} {i j : ι} {p : Prog D E K R} (h : Locked c)
    (hi : (c.tx i).status = .running p) (hj : j ≠ i) :
    Same (c.tx j).locks c.db (c.view i) := by
  intro k hk
  refine get_applyAll_of_notMem c.db fun e he hek => ?_
  exact h.disjoint i j hj.symm k (hek ▸ h.held i p hi e he) hk

section Step

variable [DecidableEq ι] {J : D → Prop} {Q : ι → D → List D → List E → R → Prop}
  {G : D → (ι → Option (R × List E)) → Prop} {c : Config ι D E K R}

@[simp] theorem set_tx_self (i : ι) (t : Tx D E K R) : (c.set i t).tx i = t := by
  unfold Config.set; exact Function.update_self ..

@[simp] theorem set_tx_of_ne {i j : ι} (h : j ≠ i) (t : Tx D E K R) :
    (c.set i t).tx j = c.tx j := by
  unfold Config.set; exact Function.update_of_ne h ..

@[simp] theorem publish_tx_self (i : ι) (r : R) :
    (c.publish i r).tx i = { c.tx i with status := .committed r, locks := [] } := by
  unfold Config.publish; exact Function.update_self ..

@[simp] theorem publish_tx_of_ne {i j : ι} (h : j ≠ i) (r : R) :
    (c.publish i r).tx j = c.tx j := by
  unfold Config.publish; exact Function.update_of_ne h ..

theorem outcome_set {i : ι} {t : Tx D E K R} {p : Prog D E K R}
    (hi : (c.tx i).status = .running p)
    (ht : (∃ p', t.status = .running p') ∨ t.status = .rolledBack) :
    (c.set i t).outcome = c.outcome := by
  funext j
  unfold Config.outcome
  by_cases h : j = i
  · subst h
    rw [set_tx_self, hi]
    rcases ht with ⟨p', ht⟩ | ht <;> rw [ht]
  · rw [set_tx_of_ne h]

theorem outcome_publish (i : ι) (r : R) :
    (c.publish i r).outcome = Function.update c.outcome i (some (r, (c.tx i).edits)) := by
  funext j
  by_cases h : j = i
  · subst h
    rw [Function.update_self]
    unfold Config.outcome
    rw [publish_tx_self]
  · rw [Function.update_of_ne h]
    unfold Config.outcome
    rw [publish_tx_of_ne h]

omit [DecidableEq ι] in
/-- An open transaction has no outcome yet. -/
theorem outcome_running {i : ι} {p : Prog D E K R} (hi : (c.tx i).status = .running p) :
    c.outcome i = none := by
  unfold Config.outcome
  rw [hi]

/-- A sum over the outcomes grows by the share of the transaction that commits. -/
theorem sum_outcome_update [Fintype ι] (f : ι → Option (R × List E) → ℤ) (hf : ∀ i, f i none = 0)
    {out : ι → Option (R × List E)} {i : ι} (hi : out i = none) (x : R × List E) :
    ∑ j, f j (Function.update out i (some x) j) = ∑ j, f j (out j) + f i (some x) := by
  have hup : (fun j => f j (Function.update out i (some x) j)) =
      Function.update (fun j => f j (out j)) i (f i (some x)) := by
    funext j
    by_cases h : j = i
    · subst h
      rw [Function.update_self, Function.update_self]
    · rw [Function.update_of_ne h, Function.update_of_ne h]
  rw [hup, Finset.sum_update_of_mem (Finset.mem_univ i),
    Finset.sum_eq_add_sum_sdiff_singleton_of_mem (Finset.mem_univ i), hi, hf]
  ring

/-- A statement that only changes the state of its own transaction. -/
theorem Inv.set {i : ι} {t : Tx D E K R} {p : Prog D E K R} (h : Inv J Q G c)
    (hi : (c.tx i).status = .running p)
    (ht : (∃ p', t.status = .running p') ∨ t.status = .rolledBack)
    (hlocks : ∀ k ∈ t.locks, k ∈ (c.tx i).locks ∨ c.Free i k)
    (hheld : ∀ e ∈ t.edits, Store.row D e ∈ t.locks) (hfresh : FreshIn c.db t.edits)
    (hwp : ∀ p', t.status = .running p' → wp J (Q i) p' t.locks t.reads t.edits c.db) :
    Inv J Q G (c.set i t) := by
  have hdis : ∀ j, j ≠ i → ∀ k ∈ t.locks, k ∉ (c.tx j).locks := by
    intro j hj k hk
    rcases hlocks k hk with hk | hk
    · exact h.locked.disjoint i j hj.symm k hk
    · exact hk j hj
  refine ⟨by rw [outcome_set hi ht]; exact h.global,
    ⟨fun a b hab k hk => ?_, fun a q hq e he => ?_, fun a q hq => ?_⟩, fun a q hq => ?_⟩
  · by_cases ha : a = i
    · subst ha
      rw [set_tx_self] at hk
      rw [set_tx_of_ne hab.symm]
      exact hdis b hab.symm k hk
    · rw [set_tx_of_ne ha] at hk
      by_cases hb : b = i
      · subst hb
        rw [set_tx_self]
        exact fun hk' => hdis a ha k hk' hk
      · rw [set_tx_of_ne hb]
        exact h.locked.disjoint a b hab k hk
  · by_cases ha : a = i
    · subst ha
      rw [set_tx_self] at he ⊢
      exact hheld e he
    · rw [set_tx_of_ne ha] at hq he ⊢
      exact h.locked.held a q hq e he
  · by_cases ha : a = i
    · subst ha
      rw [set_tx_self]
      exact hfresh
    · rw [set_tx_of_ne ha] at hq ⊢
      exact h.locked.fresh a q hq
  · by_cases ha : a = i
    · subst ha
      rw [set_tx_self] at hq ⊢
      exact hwp q hq
    · rw [set_tx_of_ne ha] at hq ⊢
      exact h.local_ a q hq

/-- A rollback keeps the invariant: nothing was published. -/
theorem Inv.drop {i : ι} {p : Prog D E K R} (h : Inv J Q G c)
    (hi : (c.tx i).status = .running p) : Inv J Q G (c.drop i) :=
  h.set hi (Or.inr rfl) (fun _ hk => absurd hk List.not_mem_nil)
    (fun _ he => absurd he List.not_mem_nil) trivial (fun _ hp' => by cases hp')

/-- A write keeps the invariant: the row was free and is held from now on. -/
theorem Inv.write {i : ι} {p k : Prog D E K R} {e : E} (h : Inv J Q G c)
    (hi : (c.tx i).status = .running p) (hfree : c.Free i (Store.row D e)) (hnew : c.Unused i e)
    (hwp : wp J (Q i) k (Store.row D e :: (c.tx i).locks) (c.tx i).reads ((c.tx i).edits ++ [e])
      c.db) : Inv J Q G (c.set i ((c.tx i).write D e k)) := by
  refine h.set hi (Or.inl ⟨_, rfl⟩) (fun key hkey => ?_) (fun e' he' => ?_)
    (freshIn_append.2 ⟨h.locked.fresh i p hi, fun hn => ?_, trivial⟩) ?_
  · rcases List.mem_cons.1 hkey with rfl | hkey
    · exact Or.inr hfree
    · exact Or.inl hkey
  · rcases List.mem_append.1 he' with he' | he'
    · exact List.mem_cons_of_mem _ (h.locked.held i _ hi e' he')
    · rw [List.mem_singleton] at he'
      rw [he']
      exact List.mem_cons_self
  · exact Option.isNone_iff_eq_none.1 (hnew hn)
  · intro p' hp'
    cases hp'
    exact hwp

/-- A commit keeps the invariant if the global property survives the edits it publishes. -/
theorem Inv.publish {i : ι} {r : R} {p : Prog D E K R} (h : Inv J Q G c)
    (hi : (c.tx i).status = .running p)
    (hG : G (c.view i) (Function.update c.outcome i (some (r, (c.tx i).edits)))) :
    Inv J Q G (c.publish i r) := by
  refine ⟨by rw [outcome_publish]; exact hG,
    ⟨fun a b hab k hk => ?_, fun a q hq e he => ?_, fun a q hq => ?_⟩, fun a q hq => ?_⟩
  · by_cases ha : a = i
    · subst ha
      rw [publish_tx_self] at hk
      cases hk
    · rw [publish_tx_of_ne ha] at hk
      by_cases hb : b = i
      · subst hb
        rw [publish_tx_self]
        exact List.not_mem_nil
      · rw [publish_tx_of_ne hb]
        exact h.locked.disjoint a b hab k hk
  · by_cases ha : a = i
    · subst ha
      rw [publish_tx_self] at hq
      cases hq
    · rw [publish_tx_of_ne ha] at hq he ⊢
      exact h.locked.held a q hq e he
  · by_cases ha : a = i
    · subst ha
      rw [publish_tx_self] at hq
      cases hq
    · rw [publish_tx_of_ne ha] at hq ⊢
      exact (h.locked.fresh a q hq).of_same (h.locked.held a q hq) (h.locked.same_view hi ha)
  · by_cases ha : a = i
    · subst ha
      rw [publish_tx_self] at hq
      cases hq
    · rw [publish_tx_of_ne ha] at hq ⊢
      exact wp_stable (h.local_ a q hq) (h.locked.same_view hi ha)

variable [Fintype ι] [DecidableEq K]

/-- **One step of an interleaving** keeps the invariant, if commits keep the global property. -/
theorem inv_step (hJ : ∀ d out, G d out → J d) {a : Act ι} {c' : Config ι D E K R}
    (h : Inv J Q G c)
    (hcommit : ∀ i n r, a = .next i n → (c.tx i).status = .running (.commit r) →
      Q i c.db (c.tx i).reads (c.tx i).edits r →
        G (c.view i) (Function.update c.outcome i (some (r, (c.tx i).edits))))
    (hs : c.step a = some c') : Inv J Q G c' := by
  have hJc : J c.db := hJ _ _ h.global
  cases a with
  | abort i =>
    change c.abort i = some c' at hs
    unfold Config.abort at hs
    split at hs
    · rename_i p hi
      cases hs
      exact h.drop hi
    · cases hs
  | next i n =>
    change c.next i n = some c' at hs
    unfold Config.next at hs
    split at hs
    · cases hs
    · cases hs
    · rename_i r hi
      cases hs
      exact h.publish hi (hcommit i n r rfl hi
        (h.local_ i _ hi c.db hJc (Same.refl _ _) (h.locked.fresh i _ hi)))
    · rename_i hi
      cases hs
      exact h.drop hi
    · rename_i k hi
      cases hs
      refine h.set hi (Or.inl ⟨_, rfl⟩) (fun _ hk => Or.inl hk) (h.locked.held i _ hi)
        (h.locked.fresh i _ hi) ?_
      intro p' hp'
      cases hp'
      exact h.local_ i _ hi c.db hJc (Same.refl _ _)
    · rename_i key k hi
      split_ifs at hs with hfree
      cases hs
      refine h.set hi (Or.inl ⟨_, rfl⟩) (fun key' hk => ?_)
        (fun e he => List.mem_cons_of_mem _ (h.locked.held i _ hi e he)) (h.locked.fresh i _ hi) ?_
      · rcases List.mem_cons.1 hk with rfl | hk
        · exact Or.inr hfree
        · exact Or.inl hk
      · intro p' hp'
        cases hp'
        exact h.local_ i _ hi c.db hJc (Same.refl _ _)
    · rename_i e k hi
      split_ifs at hs with hfree
      cases hs
      exact h.write hi hfree.1 hfree.2 (h.local_ i _ hi c.db hJc (Same.refl _ _))
    · rename_i e k hi
      split_ifs at hs with hfree
      cases hs
      exact h.write hi hfree.1 hfree.2 (h.local_ i _ hi c.db hJc (Same.refl _ _) n)

end Step

/-- Every program meets the empty specification. -/
theorem wp_true (p : Prog D E K R) : ∀ {L : List K} {rs : List D} {es : List E} {d : D},
    wp (fun _ => True) (fun _ _ _ _ => True) p L rs es d := by
  induction p with
  | commit r => exact fun _ _ _ _ => trivial
  | rollback => exact trivial
  | read k ih => exact fun _ _ _ => ih _
  | lock key k ih => exact fun _ _ _ => ih _
  | exec e k ih => exact fun _ _ _ => ih
  | insert e k ih => exact fun _ _ _ n => ih n

/-- The locking discipline is kept whatever the programs do. -/
theorem Locked.step [Fintype ι] [DecidableEq ι] [DecidableEq K] {c c' : Config ι D E K R} {a : Act ι}
    (h : Locked c) (hs : c.step a = some c') : Locked c' :=
  (inv_step (J := fun _ => True) (Q := fun _ _ _ _ _ => True) (G := fun _ _ => True)
    (fun _ _ _ => trivial) ⟨trivial, h, fun _ p _ => wp_true p⟩ (fun _ _ _ _ _ _ => trivial) hs).locked

theorem locked_start (d : D) (prog : ι → Prog D E K R) : Locked (start d prog) where
  disjoint _ _ _ _ hk := absurd hk List.not_mem_nil
  held _ _ _ _ he := absurd he List.not_mem_nil
  fresh _ _ _ := trivial

/-- The invariant holds before the first step. -/
theorem inv_start {J : D → Prop} {Q : ι → D → List D → List E → R → Prop}
    {G : D → (ι → Option (R × List E)) → Prop} {d : D} {prog : ι → Prog D E K R}
    (hG : G d fun _ => none) (hwp : ∀ i, wp J (Q i) (prog i) [] [] [] d) :
    Inv J Q G (start d prog) where
  global := hG
  locked := locked_start d prog
  local_ i p hp := by
    cases hp
    exact hwp i

section Run

variable [Fintype ι] [DecidableEq ι] [DecidableEq K] {J : D → Prop}
  {Q : ι → D → List D → List E → R → Prop} {G : D → (ι → Option (R × List E)) → Prop}

/-- **Every interleaving.** From programs that satisfy `wp` and commits that keep `G` whenever
the run's condition `C` holds before them: `G` holds of the committed rows and outcomes reached. -/
theorem inv_exec {C : Config ι D E K R → Act ι → Prop} (hJ : ∀ d out, G d out → J d)
    (hcommit : ∀ c i n r, C c (.next i n) → (c.tx i).status = .running (.commit r) →
      G c.db c.outcome → Q i c.db (c.tx i).reads (c.tx i).edits r →
        G (c.view i) (Function.update c.outcome i (some (r, (c.tx i).edits))))
    {d : D} {prog : ι → Prog D E K R} (hG : G d fun _ => none)
    (hwp : ∀ i, wp J (Q i) (prog i) [] [] [] d) {as : List (Act ι)} {c : Config ι D E K R}
    (hC : Runs.Along Config.step C (start d prog) as)
    (hrun : Runs.exec Config.step (start d prog) as = some c) : Inv J Q G c := by
  refine Runs.exec_inv (C := C) (I := Inv J Q G) (fun c a c' h hCa hs => ?_) as _ _
    (inv_start hG hwp) hC hrun
  refine inv_step hJ h (fun i n r ha hi hQ => ?_) hs
  subst ha
  exact hcommit c i n r hCa hi h.global hQ

end Run

/-! ## The commits in their order -/

/-- The result that an action commits. -/
def Config.committing (c : Config ι D E K R) : Act ι → Option R
  | .next i _ =>
    match (c.tx i).status with
    | .running (.commit r) => some r
    | _ => none
  | .abort _ => none

section Log

variable [Fintype ι] [DecidableEq ι] [DecidableEq K]

/-- One step, with the results committed so far. -/
def Config.stepLogged (x : Config ι D E K R × List R) (a : Act ι) :
    Option (Config ι D E K R × List R) :=
  (x.1.step a).map fun c => (c, x.2 ++ (x.1.committing a).toList)

/-- A commit publishes what its transaction sees; any other step leaves the committed rows. -/
theorem step_db {c c' : Config ι D E K R} {a : Act ι} (h : c.step a = some c') :
    (c.committing a = none ∧ c'.db = c.db) ∨
      ∃ i r, (c.tx i).status = .running (.commit r) ∧ c.committing a = some r ∧ c'.db = c.view i := by
  cases a with
  | abort i =>
    change c.abort i = some c' at h
    unfold Config.abort at h
    split at h
    · cases h
      exact Or.inl ⟨rfl, rfl⟩
    · cases h
  | next i n =>
    change c.next i n = some c' at h
    unfold Config.next at h
    unfold Config.committing
    split at h
    · cases h
    · cases h
    · rename_i r hi
      cases h
      refine Or.inr ⟨i, r, hi, ?_, rfl⟩
      dsimp only
      rw [hi]
    · rename_i hi
      cases h
      refine Or.inl ⟨?_, rfl⟩
      dsimp only
      rw [hi]
    · rename_i k hi
      cases h
      refine Or.inl ⟨?_, rfl⟩
      dsimp only
      rw [hi]
    all_goals
      rename_i hi
      split_ifs at h
      cases h
      refine Or.inl ⟨?_, rfl⟩
      dsimp only
      rw [hi]

/-- **The commits as a run.** If every program moves the observed part of the committed rows as the result
says that it commits with, then the results in the order of the commits are a run of this part. -/
theorem exec_log {σ : Type} {observe : D → σ} {after : σ → R → Option σ} {d : D}
    {prog : ι → Prog D E K R}
    (hwp : ∀ i, wp (fun _ => True)
      (fun d _ es r => after (observe d) r = some (observe (applyAll d es))) (prog i) [] [] [] d)
    {as : List (Act ι)} {x : Config ι D E K R × List R}
    (hrun : Runs.exec Config.stepLogged (start d prog, []) as = some x) :
    Runs.exec after (observe d) x.2 = some (observe x.1.db) := by
  refine (Runs.exec_inv_of_step
    (I := fun x => Inv (fun _ => True)
      (fun _ d _ es r => after (observe d) r = some (observe (applyAll d es))) (fun _ _ => True) x.1 ∧
        Runs.exec after (observe d) x.2 = some (observe x.1.db))
    (fun x a x' h hs => ?_) as _ x ⟨inv_start trivial hwp, rfl⟩ hrun).2
  obtain ⟨c', hstep, rfl⟩ := Option.map_eq_some_iff.1 hs
  refine ⟨inv_step (fun _ _ _ => trivial) h.1 (fun _ _ _ _ _ _ => trivial) hstep, ?_⟩
  dsimp only
  rw [Runs.exec_append, h.2, Option.bind_some]
  obtain ⟨hnone, hdb⟩ | ⟨i, r, hi, hsome, hdb⟩ := step_db hstep
  · rw [hnone, hdb]
    rfl
  · rw [hsome, hdb]
    have hsent := h.1.local_ i _ hi x.1.db trivial (Same.refl _ _) (h.1.locked.fresh i _ hi)
    change (after (observe x.1.db) r).bind some = _
    rw [hsent]
    rfl

end Log

/-! ## A transaction that runs alone -/

/-- The program without any other transaction: the rows it leaves and its result; `none` when it
rolls back.  `pick` chooses the identifiers of inserted rows. -/
def solo (pick : D → (ℕ → E) → ℕ) : Prog D E K R → D → Option (D × R)
  | .commit r, d => some (d, r)
  | .rollback, _ => none
  | .read k, d => solo pick (k d) d
  | .lock _ k, d => solo pick (k d) d
  | .exec e k, d => solo pick k (Store.apply d e)
  | .insert e k, d => solo pick (k (pick d e)) (Store.apply d (e (pick d e)))

/-! ## A program inside a larger one -/

/-- A program on a part of the database, followed by `k`. -/
def Prog.embed {D D' E E' K K' R R' : Type} (view : D' → D) (edit : E → E') (key : K → K')
    (k : R → Prog D' E' K' R') : Prog D E K R → Prog D' E' K' R'
  | .commit r => k r
  | .rollback => .rollback
  | .read p => .read fun d => embed view edit key k (p (view d))
  | .lock x p => .lock (key x) fun d => embed view edit key k (p (view d))
  | .exec e p => .exec (edit e) (embed view edit key k p)
  | .insert e p => .insert (fun n => edit (e n)) fun n => embed view edit key k (p n)

/-- Alone, an embedded program acts on its part of the database and leaves the rest. -/
theorem solo_embed {D' E' K' V' R' : Type} [Store D' E' K' V'] {view : D' → D} (put : D' → D → D')
    {edit : E → E'} {key : K → K'} {k : R → Prog D' E' K' R'} (pick : D → (ℕ → E) → ℕ)
    {pick' : D' → (ℕ → E') → ℕ} (hview : ∀ d w, view (put d w) = w)
    (hput : ∀ d w w', put (put d w) w' = put d w') (hself : ∀ d, put d (view d) = d)
    (happly : ∀ d e, Store.apply d (edit e) = put d (Store.apply (view d) e))
    (hpick : ∀ d e, pick' d (fun n => edit (e n)) = pick (view d) e) (p : Prog D E K R) :
    ∀ d, solo pick' (p.embed view edit key k) d =
      (solo pick p (view d)).bind fun x => solo pick' (k x.2) (put d x.1) := by
  induction p with
  | commit r =>
    intro d
    show _ = solo pick' (k r) (put d (view d))
    rw [hself]
    rfl
  | rollback => intro d; rfl
  | read p ih => intro d; exact ih (view d) d
  | lock x p ih => intro d; exact ih (view d) d
  | exec e p ih =>
    intro d
    rw [Prog.embed, solo, ih, happly, hview]
    simp only [hput, solo]
  | insert e p ih =>
    intro d
    rw [Prog.embed, solo, ih, hpick, happly, hview]
    simp only [hput, solo]

/-- An embedded program keeps what holds of the `SELECT`s and edits so far, if its own statements do. -/
theorem wp_embed {D' E' K' V' R' : Type} [Store D' E' K' V'] {view : D' → D} {edit : E → E'}
    {key : K → K'} {k : R → Prog D' E' K' R'} {J : D' → Prop}
    {Q : D' → List D' → List E' → R' → Prop} {A : List D' → List E' → Prop}
    (hread : ∀ d rs es, A rs es → A (d :: rs) es) (hwrite : ∀ e rs es, A rs es → A rs (es ++ [edit e]))
    (hk : ∀ r L rs es d, A rs es → wp J Q (k r) L rs es d) (p : Prog D E K R) :
    ∀ {L : List K'} {rs : List D'} {es : List E'} {d : D'}, A rs es →
      wp J Q (p.embed view edit key k) L rs es d := by
  induction p with
  | commit r => exact fun h => hk r _ _ _ _ h
  | rollback => exact fun _ => trivial
  | read p ih => exact fun h d' _ _ => ih _ (hread _ _ _ h)
  | lock x p ih => exact fun h d' _ _ => ih _ h
  | exec e p ih => exact fun h d' _ _ => ih (hwrite _ _ _ h)
  | insert e p ih => exact fun h d' _ _ n => ih n (hwrite _ _ _ h)

end ReadCommitted
