/-
AgentPlatform/Py/Service.lean

Calls of a service, run by several processes over a shared state.

A call is a tree of operations: it asks for one operation and goes on with the
answer, until it returns or raises. An operation is atomic; what it does to the
state and which answers it may give is a relation (`System.perform`). Between two
operations of a call the other processes may do anything, and the process may crash.

`Logic` is a rely-guarantee logic for such calls: `Safe` says that each operation
meets its guard, whatever the others do. **Main result:** `Logic.Holds.run`, the
invariant holds in every world that any interleaving of safe calls reaches.

`Leads` and `outcome` say how a call alone ends, `alongside` runs a second state
beside the first, and `play` runs a script of moves (`play_simulates`).
-/
import Mathlib

namespace Py

/-- A call that asks for operations `ο` with answers `Answer`, raises in `ε`
and returns in `α`. -/
inductive Service {ο : Type} (Answer : ο → Type) (ε α : Type) : Type
  | pure (a : α)
  | raise (e : ε)
  | call (op : ο) (k : Answer op → Service Answer ε α)

namespace Service

variable {ο : Type} {Answer : ο → Type} {ε ε' α β : Type}

/-! ### Sequencing -/

def bind : Service Answer ε α → (α → Service Answer ε β) → Service Answer ε β
  | .pure a, f => f a
  | .raise e, _ => .raise e
  | .call op k, f => .call op fun a => (k a).bind f

instance : Monad (Service Answer ε) where
  pure := .pure
  bind := bind

/-- `try: ... except Exception`: what the body returns or raises. -/
def attempt : Service Answer ε α → Service Answer ε' (Except ε α)
  | .pure a => .pure (.ok a)
  | .raise e => .pure (.error e)
  | .call op k => .call op fun a => (k a).attempt

/-- The call asks only for operations with `p`, whatever they answer. -/
def OnlyAsks (p : ο → Prop) : Service Answer ε α → Prop
  | .pure _ => True
  | .raise _ => True
  | .call op k => p op ∧ ∀ a, (k a).OnlyAsks p

theorem OnlyAsks.bind {p : ο → Prop} {x : Service Answer ε α} {f : α → Service Answer ε β}
    (hx : x.OnlyAsks p) (hf : ∀ a, (f a).OnlyAsks p) : (x >>= f).OnlyAsks p := by
  induction x with
  | pure a => exact hf a
  | raise e => trivial
  | call op k ih => exact ⟨hx.1, fun a => ih a (hx.2 a)⟩

/-! ### Ends of a call -/

/-- Where the answers are `possible`, every operation that the call asks for has
`keeps`, and the call raises or returns in `Q`. -/
def Leads (possible keeps : (op : ο) → Answer op → Prop) (Q : α → Prop) :
    Service Answer ε α → Prop
  | .pure a => Q a
  | .raise _ => True
  | .call op k => ∀ a, possible op a → keeps op a ∧ (k a).Leads possible keeps Q

/-- The call raises, and every operation that it asked for has `keeps`. -/
def Refuses (possible keeps : (op : ο) → Answer op → Prop) (x : Service Answer ε α) : Prop :=
  x.Leads possible keeps fun _ => False

/-- How the call ends where each operation has one answer. -/
def outcome (answers : (op : ο) → Answer op) : Service Answer ε α → Except ε α
  | .pure a => .ok a
  | .raise e => .error e
  | .call op k => (k (answers op)).outcome answers

section Ends

variable {possible keeps : (op : ο) → Answer op → Prop} {Q : α → Prop} {x : Service Answer ε α}
  {answers : (op : ο) → Answer op}

theorem Leads.bind {f : α → Service Answer ε β} {R : β → Prop}
    (h : x.Leads possible keeps fun a => (f a).Leads possible keeps R) :
    (x >>= f).Leads possible keeps R := by
  induction x with
  | pure a => exact h
  | raise e => trivial
  | call op k ih => exact fun a ha => ⟨(h a ha).1, ih a (h a ha).2⟩

theorem Leads.imp {R : α → Prop} (h : x.Leads possible keeps Q) (hqr : ∀ a, Q a → R a) :
    x.Leads possible keeps R := by
  induction x with
  | pure a => exact hqr a h
  | raise e => trivial
  | call op k ih => exact fun a ha => ⟨(h a ha).1, ih a (h a ha).2⟩

/-- The rule for calls that ask only for operations with `keeps`. -/
theorem Leads.of_onlyAsks {p : ο → Prop} (hp : ∀ op a, p op → keeps op a) (hx : x.OnlyAsks p)
    (hq : ∀ a, Q a) : x.Leads possible keeps Q := by
  induction x with
  | pure a => exact hq a
  | raise e => trivial
  | call op k ih => exact fun a _ => ⟨hp op a hx.1, ih a (hx.2 a)⟩

/-- A call that ends under possible answers ends as it must. -/
theorem Leads.of_outcome (h : x.Leads possible keeps Q) (ha : ∀ op, possible op (answers op)) {a : α}
    (hx : x.outcome answers = .ok a) : Q a := by
  induction x with
  | pure b =>
    cases hx
    exact h
  | raise e => cases hx
  | call op k ih => exact ih _ (h _ (ha op)).2 hx

theorem outcome_bind (answers : (op : ο) → Answer op) (x : Service Answer ε α)
    (f : α → Service Answer ε β) :
    (x >>= f).outcome answers = (x.outcome answers).bind fun a => (f a).outcome answers := by
  induction x with
  | pure a => rfl
  | raise e => rfl
  | call op k ih => exact ih _

theorem outcome_attempt (answers : (op : ο) → Answer op) (x : Service Answer ε α) :
    (x.attempt : Service Answer ε' (Except ε α)).outcome answers = .ok (x.outcome answers) := by
  induction x with
  | pure a => rfl
  | raise e => rfl
  | call op k ih => exact ih _

end Ends

end Service

/-! ### Interleaving -/

/-- What operations do, and which of their steps a run may contain. -/
structure System (ι σ : Type) {ο : Type} (Answer : ο → Type) where
  perform : ι → (op : ο) → σ → Answer op → σ → Prop
  within : ι → (op : ο) → Answer op → σ → Prop

/-- The shared state, the call that each process is in, and what the calls have
returned, in order. -/
structure Service.World (ι σ : Type) {ο : Type} (Answer : ο → Type) (ε α : Type) where
  state : σ
  calls : ι → Option (Service Answer ε α)
  results : List (ι × α)

namespace Service

variable {ι σ ο : Type} {Answer : ο → Type} {ε α β : Type} [DecidableEq ι]

/-- Process `i` is now at `x`, or in no call. -/
def World.put (w : World ι σ Answer ε α) (i : ι) (x : Option (Service Answer ε α)) :
    World ι σ Answer ε α :=
  { w with calls := Function.update w.calls i x }

theorem World.put_calls_eq_some {w : World ι σ Answer ε α} {i j : ι}
    {x : Option (Service Answer ε α)} {y : Service Answer ε α} (h : (w.put i x).calls j = some y) :
    (j = i ∧ x = some y) ∨ (j ≠ i ∧ w.calls j = some y) := by
  by_cases hj : j = i
  · subst hj
    have hself : (w.put j x).calls j = x := Function.update_self ..
    exact .inl ⟨rfl, hself ▸ h⟩
  · have hother : (w.put i x).calls j = w.calls j := Function.update_of_ne hj ..
    exact .inr ⟨hj, hother ▸ h⟩

/-- One step of some process. -/
inductive Step (S : System ι σ Answer) (initial : Service Answer ε α → Prop) :
    World ι σ Answer ε α → World ι σ Answer ε α → Prop
  | start {w : World ι σ Answer ε α} {i : ι} {x : Service Answer ε α} (idle : w.calls i = none)
      (h : initial x) : Step S initial w (w.put i (some x))
  | call {w : World ι σ Answer ε α} {i : ι} {op : ο} {k : Answer op → Service Answer ε α}
      {a : Answer op} {s : σ} (at_op : w.calls i = some (.call op k))
      (h : S.perform i op w.state a s) (hw : S.within i op a w.state) :
      Step S initial w ({ w with state := s }.put i (some (k a)))
  | return_ {w : World ι σ Answer ε α} {i : ι} {a : α} (at_end : w.calls i = some (.pure a)) :
      Step S initial w ({ w with results := w.results ++ [(i, a)] }.put i none)
  | stop {w : World ι σ Answer ε α} {i : ι} : Step S initial w (w.put i none)

/-- No process is in a call. -/
def World.Quiet (w : World ι σ Answer ε α) : Prop := ∀ i, w.calls i = none

end Service

/-! ### Rely and guarantee -/

/-- What holds of the shared state, what process `i` may rely on the others to
do to it, and what must hold of it where process `i` asks for an operation. -/
structure Logic {ι σ ο : Type} {Answer : ο → Type} (S : System ι σ Answer) where
  inv : σ → Prop
  rely : ι → σ → σ → Prop
  guard : ι → ο → σ → Prop
  rely_refl : ∀ i s, rely i s s
  rely_trans : ∀ {i s s' s''}, rely i s s' → rely i s' s'' → rely i s s''
  keeps : ∀ {i op s a s'}, inv s → guard i op s → S.perform i op s a s' → S.within i op a s →
    inv s' ∧ ∀ j, j ≠ i → rely j s s'

namespace Logic

variable {ι σ ο : Type} {Answer : ο → Type} {ε ε' α β : Type} {S : System ι σ Answer}

/-- Every operation of the call meets its guard, and it returns only where `Q`
holds, whatever the others do from the state on. -/
def Safe (L : Logic S) (i : ι) : Service Answer ε α → (α → σ → Prop) → σ → Prop
  | .pure a, Q, s => ∀ s', L.rely i s s' → L.inv s' → Q a s'
  | .raise _, _, _ => True
  | .call op k, Q, s => ∀ s', L.rely i s s' → L.inv s' → L.guard i op s' ∧
    ∀ a s'', S.perform i op s' a s'' → S.within i op a s' → L.Safe i (k a) Q s''

variable {L : Logic S} {i : ι} {x : Service Answer ε α} {Q : α → σ → Prop} {s s' : σ}

/-- Others do not make a call unsafe. -/
theorem Safe.later (h : L.Safe i x Q s) (hr : L.rely i s s') : L.Safe i x Q s' := by
  cases x with
  | pure a => exact fun s'' hr' hi => h s'' (L.rely_trans hr hr') hi
  | raise e => trivial
  | call op k => exact fun s'' hr' hi => h s'' (L.rely_trans hr hr') hi

/-- The rule for sequences. -/
theorem Safe.bind {f : α → Service Answer ε β} {R : β → σ → Prop}
    (h : L.Safe i x (fun a s => L.Safe i (f a) R s) s) (hi : L.inv s) :
    L.Safe i (x.bind f) R s := by
  induction x generalizing s with
  | pure a => exact h s (L.rely_refl i s) hi
  | raise e => trivial
  | call op k ih =>
    intro s' hr hi'
    obtain ⟨hg, hk⟩ := h s' hr hi'
    exact ⟨hg, fun a s'' hp hw => ih a (hk a s'' hp hw) (L.keeps hi' hg hp hw).1⟩

/-- `G` holds between the states before and after any step, whoever takes it. -/
structure Keeps (L : Logic S) (G : σ → σ → Prop) : Prop where
  refl : ∀ s, G s s
  trans : ∀ {s₁ s₂ s₃}, G s₁ s₂ → G s₂ s₃ → G s₁ s₃
  rely : ∀ {i s s'}, L.rely i s s' → G s s'
  step : ∀ {i op s a s'}, L.inv s → L.guard i op s → S.perform i op s a s' → S.within i op a s →
    G s s'

/-- The rule for `try`, where the end of a raised error is known by what all
steps keep. -/
theorem Safe.attempt_of {G : σ → σ → Prop} (hG : L.Keeps G) {R : Except ε α → σ → Prop}
    (h : L.Safe i x (fun a s => R (.ok a) s) s) (he : ∀ e s', G s s' → L.inv s' → R (.error e) s') :
    L.Safe i (x.attempt : Service Answer ε' (Except ε α)) R s := by
  induction x generalizing s with
  | pure a => exact h
  | raise e => exact fun s' hr hi => he e s' (hG.rely hr) hi
  | call op k ih =>
    intro s₁ hr hi
    obtain ⟨hg, hk⟩ := h s₁ hr hi
    refine ⟨hg, fun a s₂ hp hw => ih a (hk a s₂ hp hw) fun e s₃ hgrows hi' => ?_⟩
    exact he e s₃ (hG.trans (hG.rely hr) (hG.trans (hG.step hi hg hp hw) hgrows)) hi'

/-- An end that holds keeps holding. -/
theorem Safe.stable (h : L.Safe i x Q s) :
    L.Safe i x (fun a s => ∀ s', L.rely i s s' → L.inv s' → Q a s') s := by
  induction x generalizing s with
  | pure a => exact fun s₁ hr _ s₂ hr' hi => h s₂ (L.rely_trans hr hr') hi
  | raise e => trivial
  | call op k ih =>
    intro s₁ hr hi
    obtain ⟨hg, hk⟩ := h s₁ hr hi
    exact ⟨hg, fun a s₂ hp hw => ih a (hk a s₂ hp hw)⟩

/-- The rule for calls that change nothing. -/
theorem Safe.of_onlyAsks {p : ο → Prop} (hg : ∀ op s, p op → L.inv s → L.guard i op s)
    (hp : ∀ {op s a s'}, p op → S.perform i op s a s' → s' = s) (hx : x.OnlyAsks p)
    (h : ∀ a s', L.rely i s s' → L.inv s' → Q a s') : L.Safe i x Q s := by
  induction x generalizing s with
  | pure a => exact h a
  | raise e => trivial
  | call op k ih =>
    intro s₁ hr hi
    refine ⟨hg op s₁ hx.1 hi, fun a s₂ hstep _ => ih a (hx.2 a) fun v s₃ hr' hi' => ?_⟩
    cases hp hx.1 hstep
    exact h v s₃ (L.rely_trans hr hr') hi'

/-- A weaker end, by what all steps keep. -/
theorem Safe.imp {G : σ → σ → Prop} (hG : L.Keeps G) {R : α → σ → Prop} (h : L.Safe i x Q s)
    (himp : ∀ a s', G s s' → L.inv s' → Q a s' → R a s') : L.Safe i x R s := by
  induction x generalizing s with
  | pure a => exact fun s' hr hi => himp a s' (hG.rely hr) hi (h s' hr hi)
  | raise e => trivial
  | call op k ih =>
    intro s₁ hr hi
    obtain ⟨hg, hk⟩ := h s₁ hr hi
    refine ⟨hg, fun a s₂ hp hw => ih a (hk a s₂ hp hw) fun v s₃ hs hi' => himp v s₃ ?_ hi'⟩
    exact hG.trans (hG.rely hr) (hG.trans (hG.step hi hg hp hw) hs)

/-- The rules hold of a world: the invariant of its state, and every call under
way is safe. -/
structure Holds (L : Logic S) (Q : ι → α → σ → Prop) (w : Service.World ι σ Answer ε α) : Prop where
  inv : L.inv w.state
  safe : ∀ {i x}, w.calls i = some x → L.Safe i x (Q i) w.state

variable {P : ι → α → σ → Prop} {w w' : Service.World ι σ Answer ε α}

theorem holds_of_quiet (hq : w.Quiet) (hi : L.inv w.state) : L.Holds P w :=
  ⟨hi, fun hx => by rw [hq] at hx; cases hx⟩

/-- Where a call returns, its end holds. -/
theorem Holds.returned (h : L.Holds P w) {i : ι} {a : α} (ha : w.calls i = some (.pure a)) :
    P i a w.state :=
  h.safe ha w.state (L.rely_refl i _) h.inv

/-- Where a call asks for an operation, its guard holds. -/
theorem Holds.asked (h : L.Holds P w) {i : ι} {op : ο} {k : Answer op → Service Answer ε α}
    (ha : w.calls i = some (.call op k)) : L.guard i op w.state :=
  (h.safe ha w.state (L.rely_refl i _) h.inv).1

variable [DecidableEq ι] {initial : Service Answer ε α → Prop}

/-- One step keeps the rules. -/
theorem Holds.step (hinitial : ∀ x i s, initial x → L.inv s → L.Safe i x (P i) s)
    (h : L.Holds P w) (hs : Service.Step S initial w w') : L.Holds P w' := by
  cases hs with
  | start idle hx =>
    refine ⟨h.inv, fun hu => ?_⟩
    rcases Service.World.put_calls_eq_some hu with ⟨rfl, ⟨⟩⟩ | ⟨-, hu⟩
    · exact hinitial _ _ _ hx h.inv
    · exact h.safe hu
  | call at_op hp hw =>
    obtain ⟨hg, hk⟩ := h.safe at_op _ (L.rely_refl _ _) h.inv
    obtain ⟨hi, hr⟩ := L.keeps h.inv hg hp hw
    refine ⟨hi, fun hu => ?_⟩
    rcases Service.World.put_calls_eq_some hu with ⟨rfl, ⟨⟩⟩ | ⟨hj, hu⟩
    · exact hk _ _ hp hw
    · exact (h.safe hu).later (hr _ hj)
  | return_ at_end =>
    refine ⟨h.inv, fun hu => ?_⟩
    rcases Service.World.put_calls_eq_some hu with ⟨-, ⟨⟩⟩ | ⟨-, hu⟩
    exact h.safe hu
  | stop =>
    refine ⟨h.inv, fun hu => ?_⟩
    rcases Service.World.put_calls_eq_some hu with ⟨-, ⟨⟩⟩ | ⟨-, hu⟩
    exact h.safe hu

/-- **Safe calls keep the invariant** along every interleaving. -/
theorem Holds.run (hinitial : ∀ x i s, initial x → L.inv s → L.Safe i x (P i) s)
    (h : L.Holds P w) (hr : Relation.ReflTransGen (Service.Step S initial) w w') : L.Holds P w' := by
  induction hr with
  | refl => exact h
  | tail _ hs ih => exact ih.step hinitial hs

/-- What every step keeps, a run keeps. -/
theorem Holds.run_keeps {G : σ → σ → Prop} (hG : L.Keeps G)
    (hinitial : ∀ x i s, initial x → L.inv s → L.Safe i x (P i) s)
    (h : L.Holds P w) (hr : Relation.ReflTransGen (Service.Step S initial) w w') :
    G w.state w'.state := by
  induction hr with
  | refl => exact hG.refl _
  | tail hr hs ih =>
    have hw := h.run hinitial hr
    refine hG.trans ih ?_
    cases hs with
    | call at_op hp hwithin => exact hG.step hw.inv (hw.asked at_op) hp hwithin
    | start => exact hG.refl _
    | return_ => exact hG.refl _
    | stop => exact hG.refl _

end Logic

/-! ### Two states side by side -/

section Alongside

variable {ι σ γ ο : Type} {Answer : ο → Type}

/-- The system with a second state that follows each of its steps, in the runs
where every operation `suits` the state that it meets. -/
def System.alongside (S : System ι σ Answer)
    (follow : (op : ο) → σ → Answer op → σ → γ → γ → Prop) (suits : ο → σ → Prop) :
    System ι (σ × γ) Answer where
  perform i op s a s' := S.perform i op s.1 a s'.1 ∧ follow op s.1 a s'.1 s.2 s'.2
  within i op a s := S.within i op a s.1 ∧ suits op s.1

end Alongside

namespace Service

variable {ι σ γ ο : Type} {Answer : ο → Type} {ε α : Type}

/-- The world without the second state. -/
def World.left (w : World ι (σ × γ) Answer ε α) : World ι σ Answer ε α :=
  ⟨w.state.1, w.calls, w.results⟩

variable [DecidableEq ι] {S : System ι σ Answer}
  {follow : (op : ο) → σ → Answer op → σ → γ → γ → Prop} {suits : ο → σ → Prop}
  {initial : Service Answer ε α → Prop} {R : σ → γ → Prop} {v₀ v : World ι (σ × γ) Answer ε α}

/-- **The first state runs as it does alone**, and what each step keeps between
the two states holds after any run. -/
theorem alongside_run
    (hkeeps : ∀ {w : World ι σ Answer ε α} {op i k a s' g g'},
      Relation.ReflTransGen (Step S initial) v₀.left w → w.calls i = some (.call op k) →
      S.perform i op w.state a s' → suits op w.state → follow op w.state a s' g g' →
      R w.state g → R s' g')
    (hR : R v₀.state.1 v₀.state.2)
    (h : Relation.ReflTransGen (Step (S.alongside follow suits) initial) v₀ v) :
    Relation.ReflTransGen (Step S initial) v₀.left v.left ∧ R v.state.1 v.state.2 := by
  induction h with
  | refl => exact ⟨.refl, hR⟩
  | tail _ hstep ih =>
    obtain ⟨hrun, hR⟩ := ih
    cases hstep with
    | start idle hx => exact ⟨hrun.tail (.start idle hx), hR⟩
    | call at_op hp hw =>
      exact ⟨hrun.tail (.call at_op hp.1 hw.1), hkeeps hrun at_op hp.1 hw.2 hp.2 hR⟩
    | return_ at_end => exact ⟨hrun.tail (.return_ at_end), hR⟩
    | stop => exact ⟨hrun.tail .stop, hR⟩

end Service

/-! ### Scripts -/

namespace Service

variable {ι σ ο μ : Type} {Answer : ο → Type} {ε α : Type} [DecidableEq ι]

/-- A move of a script: a process starts a call, takes the next operation with
a reply from `μ`, returns, or stops. -/
inductive Move (ι μ : Type) {ο : Type} (Answer : ο → Type) (ε α : Type)
  | start (i : ι) (x : Service Answer ε α)
  | next (i : ι) (reply : μ)
  | return_ (i : ι)
  | stop (i : ι)

/-- Play one move; `none` where it is not possible. -/
def World.move (respond : μ → ι → (op : ο) → σ → Option (Answer op × σ))
    (w : World ι σ Answer ε α) : Move ι μ Answer ε α → Option (World ι σ Answer ε α)
  | .start i x =>
    match w.calls i with
    | none => some (w.put i (some x))
    | some _ => none
  | .next i reply =>
    match w.calls i with
    | some (.call op k) => (respond reply i op w.state).map fun r =>
      { w with state := r.2 }.put i (some (k r.1))
    | _ => none
  | .return_ i =>
    match w.calls i with
    | some (.pure a) => some ({ w with results := w.results ++ [(i, a)] }.put i none)
    | _ => none
  | .stop i => some (w.put i none)

/-- Play a script. -/
def World.play (respond : μ → ι → (op : ο) → σ → Option (Answer op × σ))
    (w : World ι σ Answer ε α) : List (Move ι μ Answer ε α) → Option (World ι σ Answer ε α)
  | [] => some w
  | m :: moves => (w.move respond m).bind fun w' => w'.play respond moves

/-- A world in which the moves of a script have been made: the same calls and
results, over related states. -/
structure Mirrors {τ : Type} (R : τ → σ → Prop) (m : World ι τ Answer ε α)
    (w : World ι σ Answer ε α) : Prop where
  state : R m.state w.state
  calls : m.calls = w.calls
  results : m.results = w.results

variable {S : System ι σ Answer} {initial : Service Answer ε α → Prop} {τ : Type}
  {R : τ → σ → Prop} {respond : μ → ι → (op : ο) → τ → Option (Answer op × τ)}
  {w₀ w : World ι σ Answer ε α} {m m' : World ι τ Answer ε α}

/-- **A script played over states `τ` is an interleaving over states `σ`**, if
its replies are answers of the system wherever a call asks for the operation in
a related state, and the calls it starts are possible ones. -/
theorem play_simulates
    (hrespond : ∀ {w : World ι σ Answer ε α} {s reply i op r}
      {k : Answer op → Service Answer ε α},
      Relation.ReflTransGen (Step S initial) w₀ w → w.calls i = some (.call op k) → R s w.state →
      respond reply i op s = some r →
      ∃ s', S.perform i op w.state r.1 s' ∧ S.within i op r.1 w.state ∧ R r.2 s')
    {moves : List (Move ι μ Answer ε α)} (hinitial : ∀ i x, .start i x ∈ moves → initial x)
    (hrun : Relation.ReflTransGen (Step S initial) w₀ w) (hm : Mirrors R m w)
    (h : m.play respond moves = some m') :
    ∃ w', Relation.ReflTransGen (Step S initial) w₀ w' ∧ Mirrors R m' w' := by
  induction moves generalizing m w with
  | nil =>
    cases h
    exact ⟨w, hrun, hm⟩
  | cons move moves ih =>
    obtain ⟨m₁, hmove, hrest⟩ := Option.bind_eq_some_iff.mp h
    suffices hstep : ∃ w₁, Step S initial w w₁ ∧ Mirrors R m₁ w₁ by
      obtain ⟨w₁, hw₁, hm₁⟩ := hstep
      exact ih (fun i x hx => hinitial i x (List.mem_cons_of_mem _ hx)) (hrun.tail hw₁) hm₁ hrest
    have hput : ∀ {i x}, Mirrors R (m.put i x) (w.put i x) := fun {i x} =>
      ⟨hm.state, by simp only [World.put, hm.calls], hm.results⟩
    cases move with
    | start i x =>
      simp only [World.move] at hmove
      split at hmove
      · next hidle =>
        cases hmove
        exact ⟨_, .start (hm.calls ▸ hidle) (hinitial i x List.mem_cons_self), hput⟩
      · cases hmove
    | next i reply =>
      simp only [World.move] at hmove
      split at hmove
      · next op k hcall =>
        obtain ⟨r, hr, rfl⟩ := Option.map_eq_some_iff.mp hmove
        have hcall' := hm.calls ▸ hcall
        obtain ⟨s', hp, hw, hR⟩ := hrespond hrun hcall' hm.state hr
        exact ⟨_, .call hcall' hp hw, hR, by simp only [World.put, hm.calls], hm.results⟩
      · cases hmove
    | return_ i =>
      simp only [World.move] at hmove
      split at hmove
      · next a hend =>
        cases hmove
        exact ⟨_, .return_ (hm.calls ▸ hend), hm.state, by simp only [World.put, hm.calls],
          by simp only [World.put, hm.results]⟩
      · cases hmove
    | stop i =>
      cases hmove
      exact ⟨_, .stop, hput⟩

end Service

end Py
