/-
AgentPlatform/Py/Interleaving.lean

Database transactions of several processes, interleaved statement by statement.

A call is a program point with its local values. A point says which locks the
transaction holds and what it has written; only itself sees that until it commits.
A statement reads the committed rows and its own (`READ COMMITTED`), and goes on,
commits or raises. One that takes a lock runs when no other transaction holds a
conflicting one. A transaction may be rolled back at any time.

`Step.compatible` says that locks exclude each other. `Outline` is a proof outline:
an assertion for every program point, kept by the other transactions' commits, and
one for the committed state. `Outline.Holds.run` carries it along every interleaving.
-/
import Mathlib

namespace Py

/-- `FOR SHARE` and `FOR UPDATE`. -/
inductive LockMode
  | share
  | update
  deriving DecidableEq, Repr

/-- What follows a statement: another one of the same transaction, a commit
(and the point at which the call goes on, if it does), or an error. -/
inductive Next (τ ρ : Type*)
  | go (t : τ)
  | commit (r : ρ) (t : Option τ)
  | raise

/-- What every process can see: the committed rows, the results of the calls
that committed, in order, and the time. -/
structure Public (σ ρ θ : Type*) where
  db : σ
  log : List ρ
  clock : θ

/-- A commit publishes what was written. -/
def Public.publish {σ ρ θ : Type*} (p : Public σ ρ θ) (write : σ → σ) (r : ρ) : Public σ ρ θ :=
  { p with db := write p.db, log := p.log ++ [r] }

/-- The calls that processes make: points of type `τ` over a database `σ`, with
locks on keys `κ` and results `ρ`. Between two transactions nothing is locked
and nothing is written. -/
structure Procedure (σ κ τ ρ θ : Type*) where
  initial : τ → Prop
  held : τ → List (κ × LockMode)
  pending : τ → σ → σ
  next : θ → τ → σ → Next τ ρ
  initial_held : ∀ {t}, initial t → held t = []
  commit_held : ∀ {c t s r t'}, next c t s = .commit r (some t') → held t' = []

/-- The committed state and, for every process, the call it is in. -/
structure World (ι σ τ ρ θ : Type*) extends Public σ ρ θ where
  calls : ι → Option τ

namespace World

variable {ι σ κ τ ρ θ : Type*} [DecidableEq ι]

/-- Process `i` is now at `t`, or in no call. -/
def put (w : World ι σ τ ρ θ) (i : ι) (t : Option τ) : World ι σ τ ρ θ :=
  { w with calls := Function.update w.calls i t }

@[simp] theorem put_toPublic (w : World ι σ τ ρ θ) (i : ι) (t : Option τ) :
    (w.put i t).toPublic = w.toPublic := rfl

theorem put_calls_self (w : World ι σ τ ρ θ) (i : ι) (t : Option τ) : (w.put i t).calls i = t :=
  Function.update_self ..

theorem put_calls_of_ne (w : World ι σ τ ρ θ) {i j : ι} (h : j ≠ i) (t : Option τ) :
    (w.put i t).calls j = w.calls j :=
  Function.update_of_ne h ..

/-- Only the last point of a process counts, whatever else changes meanwhile. -/
theorem put_put (w : World ι σ τ ρ θ) (i : ι) (t t' : Option τ) (s : σ) (log : List ρ) :
    ({ w.put i t with db := s, log := log } : World ι σ τ ρ θ).put i t'
      = ({ w with db := s, log := log } : World ι σ τ ρ θ).put i t' := by
  simp only [put, Function.update_idem]

/-- A call after a step of process `i` is its new one or an old one of another process. -/
theorem put_calls_eq_some {w : World ι σ τ ρ θ} {i j : ι} {t : Option τ} {u : τ}
    (h : (w.put i t).calls j = some u) : (j = i ∧ t = some u) ∨ (j ≠ i ∧ w.calls j = some u) := by
  by_cases hj : j = i
  · subst hj
    rw [put_calls_self] at h
    exact .inl ⟨rfl, h⟩
  · rw [put_calls_of_ne w hj] at h
    exact .inr ⟨hj, h⟩

end World

section Locks

variable {ι σ κ τ ρ θ : Type*}

/-- Two transactions can hold their locks at the same time. -/
def Procedure.Compatible (P : Procedure σ κ τ ρ θ) (t u : τ) : Prop :=
  ∀ k m m', (k, m) ∈ P.held t → (k, m') ∈ P.held u → m = .share ∧ m' = .share

theorem Procedure.Compatible.symm {P : Procedure σ κ τ ρ θ} {t u : τ} (h : P.Compatible t u) :
    P.Compatible u t :=
  fun k m m' ht hu => (h k m' m hu ht).symm

theorem Procedure.compatible_of_held_nil {P : Procedure σ κ τ ρ θ} {t : τ} (h : P.held t = [])
    (u : τ) : P.Compatible t u := by
  intro k m m' ht
  rw [h] at ht
  cases ht

/-- Two transactions that lock the same row for update exclude each other. -/
theorem Procedure.Compatible.absurd_update {P : Procedure σ κ τ ρ θ} {t u : τ}
    (h : P.Compatible t u) {k : κ} {m : LockMode} (ht : (k, .update) ∈ P.held t)
    (hu : (k, m) ∈ P.held u) : False := by
  cases (h k .update m ht hu).1

/-- No process is in a call. -/
def World.Quiet (w : World ι σ τ ρ θ) : Prop := ∀ i, w.calls i = none

/-- Transactions of different processes hold compatible locks. -/
def World.Exclusive (P : Procedure σ κ τ ρ θ) (w : World ι σ τ ρ θ) : Prop :=
  ∀ i j t u, i ≠ j → w.calls i = some t → w.calls j = some u → P.Compatible t u

theorem World.Quiet.exclusive {P : Procedure σ κ τ ρ θ} {w : World ι σ τ ρ θ} (h : w.Quiet) :
    w.Exclusive P := by
  intro i j t u _ ht
  rw [h i] at ht
  cases ht

/-- Replacing the call of one process keeps the locks compatible if the new
point is compatible with the others. -/
theorem World.Exclusive.put [DecidableEq ι] {P : Procedure σ κ τ ρ θ} {w : World ι σ τ ρ θ}
    (h : w.Exclusive P) {i : ι} {o : Option τ}
    (free : ∀ t, o = some t → ∀ j u, j ≠ i → w.calls j = some u → P.Compatible t u) :
    (w.put i o).Exclusive P := by
  intro j k t u hjk ht hu
  rcases World.put_calls_eq_some ht with ⟨hj, ho⟩ | ⟨hj, ht⟩
  · rcases World.put_calls_eq_some hu with ⟨hk, -⟩ | ⟨hk, hu⟩
    · exact absurd (hj.trans hk.symm) hjk
    · exact free t ho k u hk hu
  · rcases World.put_calls_eq_some hu with ⟨hk, ho⟩ | ⟨-, hu⟩
    · exact (free u ho j t hj ht).symm
    · exact h j k t u hjk ht hu

/-- A call run by itself from a point: `none` where the steps do not suffice,
`some none` where it raises, else its result and the state it leaves. -/
def Procedure.alone (P : Procedure σ κ τ ρ θ) (c : θ) : Nat → τ → σ → Option (Option (ρ × σ))
  | 0, _, _ => none
  | n + 1, t, s =>
    match P.next c t (P.pending t s) with
    | .go t' => P.alone c n t' s
    | .commit r _ => some (some (r, P.pending t s))
    | .raise => some none

section Alone

variable {P : Procedure σ κ τ ρ θ} {c : θ} {t t' : τ} {s : σ} {n : Nat}

theorem Procedure.alone_go (h : P.next c t (P.pending t s) = .go t') :
    P.alone c (n + 1) t s = P.alone c n t' s := by
  rw [alone, h]

theorem Procedure.alone_raise (h : P.next c t (P.pending t s) = .raise) :
    P.alone c (n + 1) t s = some none := by
  rw [alone, h]

theorem Procedure.alone_commit {r : ρ} {o : Option τ}
    (h : P.next c t (P.pending t s) = .commit r o) :
    P.alone c (n + 1) t s = some (some (r, P.pending t s)) := by
  rw [alone, h]

end Alone

end Locks

section Steps

variable {ι σ κ τ ρ θ : Type*} [DecidableEq ι] [LE θ]

/-- One step of some process, of the clock, or of the surroundings `env`. -/
inductive Step (P : Procedure σ κ τ ρ θ) (env : σ → σ → Prop) :
    World ι σ τ ρ θ → World ι σ τ ρ θ → Prop
  | start {w : World ι σ τ ρ θ} {i : ι} {t : τ} (idle : w.calls i = none) (ht : P.initial t) :
      Step P env w (w.put i (some t))
  | go {w : World ι σ τ ρ θ} {i : ι} {t t' : τ} (at_t : w.calls i = some t)
      (next : P.next w.clock t (P.pending t w.db) = .go t')
      (free : ∀ j u, j ≠ i → w.calls j = some u → P.Compatible t' u) :
      Step P env w (w.put i (some t'))
  | commit {w : World ι σ τ ρ θ} {i : ι} {t : τ} {r : ρ} {o : Option τ} (at_t : w.calls i = some t)
      (next : P.next w.clock t (P.pending t w.db) = .commit r o) :
      Step P env w ({ w with toPublic := w.publish (P.pending t) r }.put i o)
  | abort {w : World ι σ τ ρ θ} {i : ι} : Step P env w (w.put i none)
  | tick {w : World ι σ τ ρ θ} {c : θ} (later : w.clock ≤ c) : Step P env w { w with clock := c }
  | other {w : World ι σ τ ρ θ} {db : σ} (h : env w.db db) : Step P env w { w with db := db }

/-- Steps through worlds in which `within` holds. -/
def StepWithin (P : Procedure σ κ τ ρ θ) (env : σ → σ → Prop) (within : Public σ ρ θ → Prop)
    (w w' : World ι σ τ ρ θ) : Prop :=
  Step P env w w' ∧ within w'.toPublic

variable {P : Procedure σ κ τ ρ θ} {env : σ → σ → Prop} {w w' : World ι σ τ ρ θ}

/-- **Locks exclude each other**, whatever the processes do. -/
theorem Step.exclusive (h : Step P env w w') (hw : w.Exclusive P) : w'.Exclusive P := by
  cases h with
  | start idle ht =>
    apply hw.put
    rintro _ ⟨⟩ j u _ _
    exact Procedure.compatible_of_held_nil (P.initial_held ht) u
  | go at_t next free =>
    apply hw.put
    rintro _ ⟨⟩
    exact free
  | @commit i t r o at_t next =>
    have hw' : World.Exclusive P { w with toPublic := w.publish (P.pending t) r } := hw
    apply hw'.put
    rintro t' rfl j u _ _
    exact Procedure.compatible_of_held_nil (P.commit_held next) u
  | abort =>
    apply hw.put
    rintro _ ⟨⟩
  | tick later => exact hw
  | other h => exact hw

theorem Step.of_log (h : Step P env w w') {r : ρ} (hlog : w'.log = w.log ++ [r]) :
    ∃ i t o, w.calls i = some t ∧ P.next w.clock t (P.pending t w.db) = .commit r o
      ∧ w'.db = P.pending t w.db := by
  have hne : w.log ≠ w.log ++ [r] := by simp
  cases h with
  | start idle ht => exact absurd hlog hne
  | go at_t next free => exact absurd hlog hne
  | @commit i t r' o at_t next =>
    have hr : r' = r := by
      have hlog' : w.log ++ [r'] = w.log ++ [r] := hlog
      simpa using hlog'
    exact ⟨i, t, o, at_t, hr ▸ next, rfl⟩
  | abort => exact absurd hlog hne
  | tick later => exact absurd hlog hne
  | other henv => exact absurd hlog hne

/-- What a call of one transaction does by itself, it does while every other
process is idle. -/
theorem run_of_alone {within : Public σ ρ θ → Prop} {i : ι} {n : Nat} {t : τ} {r : ρ} {s : σ}
    (hend : ∀ {t s r o}, P.next w.clock t s = .commit r o → o = none)
    (hothers : ∀ j, j ≠ i → w.calls j = none) (ht : w.calls i = some t) (hin : within w.toPublic)
    (hin' : within { w.toPublic with db := s, log := w.log ++ [r] })
    (h : P.alone w.clock n t w.db = some (some (r, s))) :
    Relation.ReflTransGen (StepWithin P env within) w
      ({ w with db := s, log := w.log ++ [r] }.put i none) := by
  induction n generalizing w t with
  | zero => cases h
  | succ n ih =>
    rw [Procedure.alone] at h
    cases hn : P.next w.clock t (P.pending t w.db) with
    | go t' =>
      rw [hn] at h
      have hstep : StepWithin P env within w (w.put i (some t')) := by
        refine ⟨.go ht hn ?_, hin⟩
        intro j u hj hu
        rw [hothers j hj] at hu
        cases hu
      have hrest := ih (w := w.put i (some t')) hend
        (fun j hj => (World.put_calls_of_ne w hj _).trans (hothers j hj))
        (World.put_calls_self w i _) hin hin' h
      rw [World.put_put] at hrest
      exact .head hstep hrest
    | commit r' o =>
      rw [hn] at h
      cases h
      cases hend hn
      exact .single ⟨.commit ht hn, hin'⟩
    | raise =>
      rw [hn] at h
      cases h

/-- What one process does by itself, it does among no others. -/
theorem run_of_alone_single {within : Public σ ρ θ → Prop} {p : Public σ ρ θ} {n : Nat} {t : τ}
    {r : ρ} {s : σ} (hend : ∀ {t s r o}, P.next p.clock t s = .commit r o → o = none)
    (ht : P.initial t) (hin : within p) (hin' : within { p with db := s, log := p.log ++ [r] })
    (h : P.alone p.clock n t p.db = some (some (r, s))) :
    Relation.ReflTransGen (StepWithin P env within)
      (⟨p, fun _ => none⟩ : World Unit σ τ ρ θ)
      ⟨{ p with db := s, log := p.log ++ [r] }, fun _ => none⟩ := by
  have hstart : StepWithin P env within (⟨p, fun _ => none⟩ : World Unit σ τ ρ θ)
      (World.put ⟨p, fun _ => none⟩ () (some t)) := ⟨.start rfl ht, hin⟩
  have hrest : Relation.ReflTransGen (StepWithin P env within)
      (World.put (⟨p, fun _ => none⟩ : World Unit σ τ ρ θ) () (some t))
      (World.put { World.put (⟨p, fun _ => none⟩ : World Unit σ τ ρ θ) () (some t) with
        db := s, log := p.log ++ [r] } () none) :=
    run_of_alone hend (fun j hj => absurd rfl hj) rfl hin hin' h
  have hidle : World.put { World.put (⟨p, fun _ => none⟩ : World Unit σ τ ρ θ) () (some t) with
      db := s, log := p.log ++ [r] } () none
        = ⟨{ p with db := s, log := p.log ++ [r] }, fun _ => none⟩ := by
    simp only [World.put]
    congr 1
  exact .head hstart (hidle ▸ hrest)

end Steps

/-! ### Proof outlines -/

section Outlines

variable {ι σ κ τ ρ θ : Type*} [DecidableEq ι] [LE θ]

/-- A proof outline: an assertion on the committed state, and one for every
program point, about the committed state at the time the point is reached and
kept until the next statement. `within` may be assumed of every state. -/
structure Outline (P : Procedure σ κ τ ρ θ) (env : σ → σ → Prop) (within : Public σ ρ θ → Prop)
    where
  shared : Public σ ρ θ → Prop
  point : Public σ ρ θ → τ → Prop
  initial : ∀ {p t}, within p → shared p → P.initial t → point p t
  go : ∀ {p t t'}, within p → shared p → point p t →
    P.next p.clock t (P.pending t p.db) = .go t' → point p t'
  commit : ∀ {p t r o}, within p → shared p → point p t →
    P.next p.clock t (P.pending t p.db) = .commit r o →
    shared (p.publish (P.pending t) r) ∧ ∀ t', o = some t' → point (p.publish (P.pending t) r) t'
  others : ∀ {p t u r o}, within p → shared p → point p t → point p u → P.Compatible t u →
    P.next p.clock t (P.pending t p.db) = .commit r o → point (p.publish (P.pending t) r) u
  tick : ∀ {p c}, p.clock ≤ c → shared p →
    shared { p with clock := c } ∧ ∀ t, point p t → point { p with clock := c } t
  other : ∀ {p db}, within p → env p.db db → shared p →
    shared { p with db := db } ∧ ∀ t, point p t → point { p with db := db } t

namespace Outline

variable {P : Procedure σ κ τ ρ θ} {env : σ → σ → Prop} {within : Public σ ρ θ → Prop}
  {w w' : World ι σ τ ρ θ}

/-- The outline holds of a world: of its committed state, and at the point of
every call, and the locks are compatible. -/
structure Holds (O : Outline P env within) (w : World ι σ τ ρ θ) : Prop where
  within : within w.toPublic
  shared : O.shared w.toPublic
  point : ∀ {i t}, w.calls i = some t → O.point w.toPublic t
  exclusive : w.Exclusive P

theorem Holds.step {O : Outline P env within} (h : O.Holds w) (hs : StepWithin P env within w w') :
    O.Holds w' := by
  obtain ⟨hstep, hin⟩ := hs
  have hex := hstep.exclusive h.exclusive
  cases hstep with
  | start idle ht =>
    refine ⟨hin, h.shared, ?_, hex⟩
    intro j u hu
    rcases World.put_calls_eq_some hu with ⟨rfl, ⟨⟩⟩ | ⟨-, hu⟩
    · exact O.initial h.within h.shared ht
    · exact h.point hu
  | go at_t next free =>
    refine ⟨hin, h.shared, ?_, hex⟩
    intro j u hu
    rcases World.put_calls_eq_some hu with ⟨rfl, ⟨⟩⟩ | ⟨-, hu⟩
    · exact O.go h.within h.shared (h.point at_t) next
    · exact h.point hu
  | @commit i t r o at_t next =>
    obtain ⟨hshared, hown⟩ := O.commit h.within h.shared (h.point at_t) next
    refine ⟨hin, hshared, ?_, hex⟩
    intro j u hu
    rcases World.put_calls_eq_some hu with ⟨rfl, ho⟩ | ⟨hj, hu⟩
    · exact hown u ho
    · exact O.others h.within h.shared (h.point at_t) (h.point hu)
        (h.exclusive i j t u (Ne.symm hj) at_t hu) next
  | abort =>
    refine ⟨hin, h.shared, ?_, hex⟩
    intro j u hu
    rcases World.put_calls_eq_some hu with ⟨-, ⟨⟩⟩ | ⟨-, hu⟩
    exact h.point hu
  | tick later =>
    obtain ⟨hshared, hpoint⟩ := O.tick later h.shared
    exact ⟨hin, hshared, fun hu => hpoint _ (h.point hu), hex⟩
  | other henv =>
    obtain ⟨hshared, hpoint⟩ := O.other h.within henv h.shared
    exact ⟨hin, hshared, fun hu => hpoint _ (h.point hu), hex⟩

/-- **The outline rule.** An outline that holds at the start holds in every
world that any interleaving reaches. -/
theorem Holds.run {O : Outline P env within} (h : O.Holds w)
    (hr : Relation.ReflTransGen (StepWithin P env within) w w') : O.Holds w' := by
  induction hr with
  | refl => exact h
  | tail _ hs ih => exact ih.step hs

omit [DecidableEq ι] in
theorem holds_of_quiet (O : Outline P env within) (hq : w.Quiet) (hin : within w.toPublic)
    (hs : O.shared w.toPublic) : O.Holds w := by
  refine ⟨hin, hs, ?_, hq.exclusive⟩
  intro i t ht
  rw [hq i] at ht
  cases ht

end Outline

end Outlines

end Py
