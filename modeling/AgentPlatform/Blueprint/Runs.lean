/-
AgentPlatform/Blueprint/Runs.lean

What the blueprint authority answers, over all runs.

The calls that an authority accepted determine what it stores: `Holds` says so, step by
step. What is available is then a fact about sets of decisions: **main result**,
`availability_decided`. A version is available exactly if it is registered and
the latest decisions in force, publications and matches, all publish and grant;
authorities that accepted the same calls answer alike, up to the bytes that stand for
a version; a version was approved when it was registered; and calls that are repeated
or raise change nothing.
-/
import AgentPlatform.Blueprint.Authority

namespace AgentPlatform

open Py

namespace Blueprint

/-! ### Decisions that prevail -/

/-- The latest of the decisions all have one action. -/
def Prevails (decisions : List AuthorityDecision) (action : String) : Prop :=
  decisions ≠ [] ∧ ∀ d ∈ decisions, (∀ d' ∈ decisions, d'.effectiveAt ≤ d.effectiveAt) → d.action = action

theorem dedup_length_eq_one {l : List String} {a : String} (ha : a ∈ l) :
    l.dedup.length = 1 ↔ ∀ b ∈ l, b = a := by
  constructor
  · intro h b hb
    obtain ⟨c, hc⟩ := List.length_eq_one_iff.mp h
    have hmem : ∀ x ∈ l, x = c := by
      intro x hx
      have hx' := List.mem_dedup.mpr hx
      rw [hc] at hx'
      exact List.mem_singleton.mp hx'
    rw [hmem a ha, hmem b hb]
  · intro h
    have hperm : l.dedup.Perm [a] := by
      rw [List.perm_ext_iff_of_nodup (List.nodup_dedup l) (List.nodup_singleton a)]
      intro b
      rw [List.mem_dedup, List.mem_singleton]
      exact ⟨h b, fun hb => hb ▸ ha⟩
    exact hperm.length_eq

theorem AuthorityDecision.effectiveAt_le_of_order {d d' : AuthorityDecision} (h : d.order ≤ d'.order) :
    d.effectiveAt ≤ d'.effectiveAt := by
  rcases (Prod.Lex.toLex_le_toLex).mp h with hlt | ⟨heq, -⟩
  · exact le_of_lt hlt
  · exact Nat.le_of_eq heq

theorem Datetime.eq_of_le_of_le {a b : Datetime} (h : a ≤ b) (h' : b ≤ a) : a = b := by
  obtain ⟨m, _⟩ := a
  obtain ⟨n, _⟩ := b
  obtain rfl : m = n := le_antisymm h h'
  rfl

variable {w w' : Authority} {b : SolutionBlueprint} {facet scope purpose : String} {at' : Datetime}

/-- **The effective action** is the one of all the latest decisions. -/
theorem Authority.effective_action_iff {action : String} :
    (w.effective b facet scope purpose at').map AuthorityDecision.action = some action ↔
      Prevails (w.selected b facet scope purpose (some at')) action := by
  rw [effective]
  cases hlast : (w.current b facet scope purpose (some at')).getLast? with
  | none =>
    have hnil : w.selected b facet scope purpose (some at') = [] := by
      have hcurrent := List.getLast?_eq_none_iff.mp hlast
      exact List.perm_nil.mp (hcurrent ▸ (perm_sortedBy _ _).symm)
    constructor
    · intro h
      cases h
    · intro h
      exact absurd hnil h.1
  | some last =>
    obtain ⟨hmem, hgreatest⟩ := sortedBy_getLast hlast
    set decisions := w.selected b facet scope purpose (some at') with hdecisions
    -- the latest decisions are the ones that take effect with the last one
    have hlatest : ∀ d, d ∈ ((w.current b facet scope purpose (some at')).filter fun d =>
        d.effectiveAt = last.effectiveAt) ↔
        d ∈ decisions ∧ ∀ d' ∈ decisions, d'.effectiveAt ≤ d.effectiveAt := by
      intro d
      rw [List.mem_filter, decide_eq_true_eq, current, mem_sortedBy]
      constructor
      · rintro ⟨hd, heq⟩
        refine ⟨hd, fun d' hd' => ?_⟩
        rw [heq]
        exact AuthorityDecision.effectiveAt_le_of_order (hgreatest d' hd')
      · rintro ⟨hd, hle⟩
        exact ⟨hd, Datetime.eq_of_le_of_le
          (AuthorityDecision.effectiveAt_le_of_order (hgreatest d hd)) (hle last hmem)⟩
    have hlastLatest := (hlatest last).mpr
      ⟨hmem, fun d' hd' => AuthorityDecision.effectiveAt_le_of_order (hgreatest d' hd')⟩
    dsimp only
    generalize (w.current b facet scope purpose (some at')).filter
      (fun d => d.effectiveAt = last.effectiveAt) = latest at hlatest hlastLatest ⊢
    have hone := dedup_length_eq_one (List.mem_map_of_mem (f := AuthorityDecision.action) hlastLatest)
    obtain ⟨final, hfinal⟩ : ∃ final, latest.getLast? = some final :=
      Option.ne_none_iff_exists'.mp fun h =>
        List.ne_nil_of_mem hlastLatest (List.getLast?_eq_none_iff.mp h)
    have hfinalMem := List.mem_of_getLast? hfinal
    constructor
    · intro h
      split at h
      · cases h
      · next hlength =>
        rw [not_not, hone] at hlength
        rw [hfinal, Option.map_some, Option.some.injEq] at h
        refine ⟨List.ne_nil_of_mem hmem, fun d hd hle => ?_⟩
        have hd' := hlength _ (List.mem_map_of_mem ((hlatest d).mpr ⟨hd, hle⟩))
        have hf' := hlength _ (List.mem_map_of_mem hfinalMem)
        rw [hd', ← hf', h]
    · intro h
      have hall : ∀ d ∈ latest, d.action = action := fun d hd =>
        h.2 d ((hlatest d).mp hd).1 ((hlatest d).mp hd).2
      have hsingle : (latest.map AuthorityDecision.action).dedup.length = 1 := by
        rw [hone]
        intro a ha
        obtain ⟨d, hd, rfl⟩ := List.mem_map.mp ha
        rw [hall d hd, hall last hlastLatest]
      rw [if_neg (not_not.mpr hsingle), hfinal, Option.map_some, hall final hfinalMem]

/-! ### Calls -/

section Calls

variable [Whitespace]

inductive Call
  | propose (b : SolutionBlueprint)
  | append (d : AuthorityDecision)
  | register (b : SolutionBlueprint)

/-- What a call returns. -/
inductive Answer
  | version (b : SolutionBlueprint)
  | decision (d : AuthorityDecision)

/-- One call: what it returns or raises, and the authority after it. -/
def Authority.step (w : Authority) : Call → Except String Answer × Authority
  | .propose b => ((w.propose b).1.map .version, (w.propose b).2)
  | .append d => ((w.appendDecision d).1.map .decision, (w.appendDecision d).2)
  | .register b => ((w.register b).1.map .version, (w.register b).2)

/-- The authority after some calls. -/
def after (calls : List Call) : Authority := calls.foldl (fun w c => (w.step c).2) .empty

/-- The calls that do not raise. -/
def acceptedFrom (w : Authority) : List Call → List Call
  | [] => []
  | c :: cs => (if (w.step c).1.isOk then [c] else []) ++ acceptedFrom (w.step c).2 cs

def accepted (calls : List Call) : List Call := acceptedFrom .empty calls

theorem after_append (calls rest : List Call) :
    after (calls ++ rest) = rest.foldl (fun w c => (w.step c).2) (after calls) := List.foldl_append

theorem after_concat (calls : List Call) (c : Call) : after (calls ++ [c]) = ((after calls).step c).2 :=
  after_append calls [c]

theorem acceptedFrom_append (calls rest : List Call) : ∀ w : Authority,
    acceptedFrom w (calls ++ rest)
      = acceptedFrom w calls ++ acceptedFrom (calls.foldl (fun w c => (w.step c).2) w) rest := by
  induction calls with
  | nil => exact fun _ => rfl
  | cons c calls ih =>
    intro w
    rw [List.cons_append, acceptedFrom, acceptedFrom, ih, List.append_assoc]
    rfl

theorem accepted_concat (calls : List Call) (c : Call) :
    accepted (calls ++ [c])
      = accepted calls ++ if ((after calls).step c).1.isOk then [c] else [] := by
  rw [accepted, acceptedFrom_append]
  show _ ++ (_ ++ []) = _
  rw [List.append_nil]
  rfl

/-! ### What one call does -/

omit [Whitespace] in
theorem lookUpDecision_eq_ok {stored found : Option AuthorityDecision} {d : AuthorityDecision}
    (h : lookUpDecision stored d = .ok found) : stored = found ∧ ∀ e, found = some e → e = d := by
  unfold lookUpDecision at h
  split at h
  · cases h
    exact ⟨rfl, nofun⟩
  · split at h
    · next heq =>
      cases h
      refine ⟨rfl, ?_⟩
      rintro e ⟨⟩
      exact heq
    · cases h

theorem lookUp_eq_ok {stored : Dict Key SolutionBlueprint} {found : Option SolutionBlueprint}
    (h : lookUp stored b = .ok found) :
    stored.get? b.identityKey = found ∧ ∀ e, found = some e → e.semanticBytes = b.semanticBytes := by
  unfold lookUp at h
  split at h
  · next hnone =>
    cases h
    exact ⟨hnone, fun e he => by cases he⟩
  · next existing hsome =>
    split at h
    · next heq =>
      cases h
      refine ⟨hsome, ?_⟩
      rintro e ⟨⟩
      exact heq
    · cases h

/-- A proposal that is admitted: nothing was found under its key, or its bytes were. -/
theorem Authority.admitProposal_eq_ok {found : Option SolutionBlueprint}
    (h : w.admitProposal b = .ok found) :
    w.proposals.get? b.identityKey = found ∧
      ∀ e, found = some e → e.semanticBytes = b.semanticBytes := by
  obtain ⟨⟨⟩, -, h⟩ := bind_eq_ok.mp h
  obtain ⟨found', hfound, h⟩ := bind_eq_ok.mp h
  obtain ⟨hget, hsame⟩ := lookUp_eq_ok hfound
  cases found' with
  | some e =>
    cases h
    exact ⟨hget, hsame⟩
  | none =>
    obtain ⟨⟨⟩, -, h⟩ := bind_eq_ok.mp h
    cases h
    exact ⟨hget, nofun⟩

omit [Whitespace] in
/-- A decision that is admitted: nothing was found under its identities, or the
decision was. -/
theorem Authority.admitDecision_eq_ok {d : AuthorityDecision} {found : Option AuthorityDecision}
    (h : w.admitDecision d = .ok found) :
    (found = none ∧ w.decisionIds.get? d.decisionId = none ∧ w.replays.get? d.replayIdentity = none) ∨
      found = some d ∧
        (w.decisionIds.get? d.decisionId = some d ∨ w.replays.get? d.replayIdentity = some d) := by
  obtain ⟨⟨⟩, -, h⟩ := bind_eq_ok.mp h
  obtain ⟨found', hfound, h⟩ := bind_eq_ok.mp h
  obtain ⟨hget, hsame⟩ := lookUpDecision_eq_ok hfound
  cases found' with
  | some e =>
    obtain rfl := hsame e rfl
    cases h
    exact .inr ⟨rfl, .inl hget⟩
  | none =>
    obtain ⟨hget', hsame'⟩ := lookUpDecision_eq_ok h
    cases found with
    | none => exact .inl ⟨rfl, hget, hget'⟩
    | some e =>
      obtain rfl := hsame' e rfl
      exact .inr ⟨rfl, .inr hget'⟩

/-- The latest review of a blueprint approves it. -/
def Authority.Approved (w : Authority) (b : SolutionBlueprint) : Prop :=
  ∃ d ∈ w.selected b "REVIEW" "registration" "registration" none, d.action = "APPROVE" ∧
    ∀ d' ∈ w.selected b "REVIEW" "registration" "registration" none, d'.order ≤ d.order

/-- A registration that is admitted is valid and approved, and nothing was found under
its key, or its bytes were. -/
theorem Authority.admitRegistration_eq_ok {found : Option SolutionBlueprint}
    (h : w.admitRegistration b = .ok found) :
    b.validate = .ok () ∧ w.Approved b ∧ w.registered.get? b.identityKey = found ∧
      ∀ e, found = some e → e.semanticBytes = b.semanticBytes := by
  obtain ⟨⟨⟩, hvalid, h⟩ := bind_eq_ok.mp h
  split at h
  · cases h
  · split at h
    · cases h
    · split at h
      · cases h
      · next review hreview =>
        split at h
        · cases h
        · next haction =>
          rw [not_not] at haction
          obtain ⟨hmem, hgreatest⟩ := sortedBy_getLast hreview
          exact ⟨hvalid, ⟨review, hmem, haction, hgreatest⟩, lookUp_eq_ok h⟩

/-! ### What an authority stores -/

/-- The accepted calls determine what is stored. -/
structure Holds (w : Authority) (calls : List Call) : Prop where
  proposed : ∀ b, .propose b ∈ calls →
    ∃ e, w.proposals.get? b.identityKey = some e ∧ e.semanticBytes = b.semanticBytes
  versions : ∀ k b, w.registered.get? k = some b →
    b.identityKey = k ∧ b.validate = .ok () ∧ .register b ∈ calls
  registered : ∀ b, .register b ∈ calls → b.validate = .ok () ∧
    ∃ e, w.registered.get? b.identityKey = some e ∧ e.semanticBytes = b.semanticBytes
  decisions : ∀ d, d ∈ w.decisions ↔ .append d ∈ calls
  ids : ∀ i d, w.decisionIds.get? i = some d ↔ d ∈ w.decisions ∧ d.decisionId = i
  replays : ∀ i d, w.replays.get? i = some d ↔ d ∈ w.decisions ∧ d.replayIdentity = i

omit [Whitespace] in
/-- An index over the decisions, after one more of them. -/
theorem index_set {index : Dict String AuthorityDecision} {ds : List AuthorityDecision}
    {identity : AuthorityDecision → String} {d : AuthorityDecision}
    (h : ∀ i e, index.get? i = some e ↔ e ∈ ds ∧ identity e = i)
    (hnew : index.get? (identity d) = none) (i : String) (e : AuthorityDecision) :
    (index.set (identity d) d).get? i = some e ↔ e ∈ ds ++ [d] ∧ identity e = i := by
  rw [Dict.get?_set, List.mem_append, List.mem_singleton]
  split
  · next heq =>
    subst heq
    constructor
    · rintro ⟨⟩
      exact ⟨.inr rfl, rfl⟩
    · rintro ⟨hmem | rfl, hid⟩
      · have hfound := (h _ _).mpr ⟨hmem, hid⟩
        rw [hnew] at hfound
        cases hfound
      · rfl
  · next hne =>
    rw [h]
    constructor
    · rintro ⟨hmem, hid⟩
      exact ⟨.inl hmem, hid⟩
    · rintro ⟨hmem | rfl, hid⟩
      · exact ⟨hmem, hid⟩
      · exact absurd hid (by simpa using hne)

variable {calls : List Call}

/-- A proposal that is found again, or not accepted, stores nothing. -/
theorem Holds.propose (h : Holds w calls) (b : SolutionBlueprint) :
    Holds (w.step (.propose b)).2
      (calls ++ if (w.step (.propose b)).1.isOk then [.propose b] else []) := by
  have hreg : ∀ b', Call.register b' ∈ calls ++ [.propose b] ↔ .register b' ∈ calls := by simp
  have hdec : ∀ d, Call.append d ∈ calls ++ [.propose b] ↔ .append d ∈ calls := by simp
  have hprop : ∀ b', Call.propose b' ∈ calls ++ [.propose b] → .propose b' ∈ calls ∨ b' = b := by simp
  rw [Authority.step, Authority.propose]
  rcases hadmitted : w.admitProposal b with code | found
  · rw [if_neg (by exact Bool.false_ne_true), List.append_nil]
    exact h
  obtain ⟨hget, hsame⟩ := Authority.admitProposal_eq_ok hadmitted
  cases found with
  | some e =>
    rw [if_pos (by rfl)]
    refine ⟨fun b' hb' => ?_, fun k b' hb' => ?_, fun b' hb' => ?_, fun d => ?_, h.ids, h.replays⟩
    · rcases hprop b' hb' with hb' | rfl
      · exact h.proposed b' hb'
      · exact ⟨e, hget, hsame e rfl⟩
    · rw [hreg]
      exact h.versions k b' hb'
    · exact h.registered b' ((hreg b').mp hb')
    · rw [hdec]
      exact h.decisions d
  | none =>
    rw [if_pos (by rfl)]
    refine ⟨fun b' hb' => ?_, fun k b' hb' => ?_, fun b' hb' => ?_, fun d => ?_, h.ids, h.replays⟩
    · show ∃ e, (w.proposals.set b.identityKey b).get? _ = some e ∧ _
      rw [Dict.get?_set]
      split
      · next hkey =>
        rcases hprop b' hb' with hb' | rfl
        · obtain ⟨e, he, -⟩ := h.proposed b' hb'
          rw [← hkey, hget] at he
          cases he
        · exact ⟨b', rfl, rfl⟩
      · next hkey =>
        rcases hprop b' hb' with hb' | rfl
        · exact h.proposed b' hb'
        · exact absurd rfl hkey
    · rw [hreg]
      exact h.versions k b' hb'
    · exact h.registered b' ((hreg b').mp hb')
    · rw [hdec]
      exact h.decisions d

theorem Holds.append (h : Holds w calls) (d : AuthorityDecision) :
    Holds (w.step (.append d)).2
      (calls ++ if (w.step (.append d)).1.isOk then [.append d] else []) := by
  have hreg : ∀ b', Call.register b' ∈ calls ++ [.append d] ↔ .register b' ∈ calls := by simp
  have hprop : ∀ b', Call.propose b' ∈ calls ++ [.append d] ↔ .propose b' ∈ calls := by simp
  have hdec : ∀ d', Call.append d' ∈ calls ++ [.append d] ↔ .append d' ∈ calls ∨ d' = d := by simp
  rw [Authority.step, Authority.appendDecision]
  rcases hadmitted : w.admitDecision d with code | found
  · rw [if_neg (by exact Bool.false_ne_true), List.append_nil]
    exact h
  rcases Authority.admitDecision_eq_ok hadmitted with ⟨rfl, hid, hreplay⟩ | ⟨rfl, hfound⟩
  · rw [if_pos (by rfl)]
    refine ⟨fun b' hb' => h.proposed b' ((hprop b').mp hb'), fun k b' hb' => ?_,
      fun b' hb' => h.registered b' ((hreg b').mp hb'), fun d' => ?_, index_set h.ids hid,
      index_set h.replays hreplay⟩
    · rw [hreg]
      exact h.versions k b' hb'
    · rw [hdec, ← h.decisions d', List.mem_append, List.mem_singleton]
  · have hmem : d ∈ w.decisions :=
      hfound.elim (fun hd => ((h.ids _ _).mp hd).1) fun hd => ((h.replays _ _).mp hd).1
    rw [if_pos (by rfl)]
    refine ⟨fun b' hb' => h.proposed b' ((hprop b').mp hb'), fun k b' hb' => ?_,
      fun b' hb' => h.registered b' ((hreg b').mp hb'), fun d' => ?_, h.ids, h.replays⟩
    · rw [hreg]
      exact h.versions k b' hb'
    · rw [hdec, ← h.decisions d']
      constructor
      · exact .inl
      · rintro (hd' | rfl)
        · exact hd'
        · exact hmem

/-- A version is registered once. -/
theorem Holds.register (h : Holds w calls) (b : SolutionBlueprint) :
    Holds (w.step (.register b)).2
      (calls ++ if (w.step (.register b)).1.isOk then [.register b] else []) := by
  have hprop : ∀ b', Call.propose b' ∈ calls ++ [.register b] ↔ .propose b' ∈ calls := by simp
  have hdec : ∀ d, Call.append d ∈ calls ++ [.register b] ↔ .append d ∈ calls := by simp
  have hreg : ∀ b', Call.register b' ∈ calls ++ [.register b] ↔ .register b' ∈ calls ∨ b' = b := by simp
  rw [Authority.step, Authority.register]
  rcases hadmitted : w.admitRegistration b with code | found
  · rw [if_neg (by exact Bool.false_ne_true), List.append_nil]
    exact h
  obtain ⟨hvalid, -, hget, hsame⟩ := Authority.admitRegistration_eq_ok hadmitted
  cases found with
  | some e =>
    rw [if_pos (by rfl)]
    refine ⟨fun b' hb' => h.proposed b' ((hprop b').mp hb'), fun k b' hb' => ?_, fun b' hb' => ?_,
      fun d => ?_, h.ids, h.replays⟩
    · obtain ⟨hkey, hv, hmem⟩ := h.versions k b' hb'
      exact ⟨hkey, hv, (hreg b').mpr (.inl hmem)⟩
    · rcases (hreg b').mp hb' with hb' | rfl
      · exact h.registered b' hb'
      · exact ⟨hvalid, e, hget, hsame e rfl⟩
    · rw [hdec]
      exact h.decisions d
  | none =>
    rw [if_pos (by rfl)]
    refine ⟨fun b' hb' => h.proposed b' ((hprop b').mp hb'), fun k b' hb' => ?_, fun b' hb' => ?_,
      fun d => ?_, h.ids, h.replays⟩
    · rw [show _ = (w.registered.set b.identityKey b).get? k from rfl, Dict.get?_set] at hb'
      split at hb'
      · next hkey =>
        cases hb'
        exact ⟨hkey, hvalid, (hreg b).mpr (.inr rfl)⟩
      · obtain ⟨hkey, hv, hmem⟩ := h.versions k b' hb'
        exact ⟨hkey, hv, (hreg b').mpr (.inl hmem)⟩
    · show b'.validate = _ ∧ ∃ e, (w.registered.set b.identityKey b).get? _ = some e ∧ _
      rw [Dict.get?_set]
      rcases (hreg b').mp hb' with hb' | rfl
      · obtain ⟨hv, e, he, hbytes⟩ := h.registered b' hb'
        refine ⟨hv, e, ?_, hbytes⟩
        rw [if_neg, he]
        intro hkey
        rw [← hkey, hget] at he
        cases he
      · exact ⟨hvalid, b', if_pos rfl, rfl⟩
    · rw [hdec]
      exact h.decisions d

/-- **What is stored** after any calls. -/
theorem holds (calls : List Call) : Holds (after calls) (accepted calls) := by
  induction calls using List.reverseRecOn with
  | nil =>
    refine ⟨nofun, nofun, nofun, ?_, ?_, ?_⟩
    · exact fun _ => ⟨nofun, nofun⟩
    · exact fun _ _ => ⟨nofun, nofun⟩
    · exact fun _ _ => ⟨nofun, nofun⟩
  | append_singleton calls c ih =>
    rw [after_concat, accepted_concat]
    cases c with
    | propose b => exact ih.propose b
    | append d => exact ih.append d
    | register b => exact ih.register b

/-! ### Evaluations -/

omit [Whitespace] in
theorem prevails_congr {l l' : List AuthorityDecision} {action : String} (h : ∀ d, d ∈ l ↔ d ∈ l') :
    Prevails l action ↔ Prevails l' action := by
  have hempty : l ≠ [] ↔ l' ≠ [] := by
    rw [← List.isEmpty_eq_false_iff, ← List.isEmpty_eq_false_iff, List.isEmpty_eq_false_iff_exists_mem,
      List.isEmpty_eq_false_iff_exists_mem]
    exact exists_congr h
  rw [Prevails, Prevails, hempty]
  simp only [h]

/-- The version is registered, and the latest decisions in force publish it and
grant the match. -/
def Authority.Available (w : Authority) (q : Query) (b : SolutionBlueprint) : Prop :=
  ∃ e, q.resolve = .ok e ∧ w.registered.get? e.key = some b ∧
    Prevails (w.selected b "PUBLICATION" e.scope e.purpose (some e.time)) "PUBLISH" ∧
    Prevails (w.selected b "MATCH" e.scope e.purpose (some e.time)) "GRANT"

/-- An evaluation finds a version that is available, or none is. -/
theorem Authority.evaluate_cases (w : Authority) (q : Query) :
    (∃ b, w.Available q b ∧ w.evaluate q = availableResult b) ∨
      (∀ b, ¬ w.Available q b) ∧ w.evaluate q = unavailable := by
  rw [evaluate]
  split
  · next code hresolve =>
    refine .inr ⟨?_, rfl⟩
    rintro b ⟨e, he, -⟩
    cases hresolve.symm.trans he
  · next e hresolve =>
    split
    · next hnone =>
      refine .inr ⟨?_, rfl⟩
      rintro b ⟨e', he', hget, -⟩
      cases hresolve.symm.trans he'
      cases hnone.symm.trans hget
    · next b hget =>
      have hunique : ∀ b', w.Available q b' →
          Prevails (w.selected b "PUBLICATION" e.scope e.purpose (some e.time)) "PUBLISH" ∧
          Prevails (w.selected b "MATCH" e.scope e.purpose (some e.time)) "GRANT" := by
        rintro b' ⟨e', he', hget', hboth⟩
        cases hresolve.symm.trans he'
        cases hget.symm.trans hget'
        exact hboth
      split
      · next hpublication =>
        rw [ne_eq, effective_action_iff] at hpublication
        exact .inr ⟨fun b' hb' => hpublication (hunique b' hb').1, rfl⟩
      · next hpublication =>
        rw [not_not, effective_action_iff] at hpublication
        split
        · next hmatch =>
          rw [ne_eq, effective_action_iff] at hmatch
          exact .inr ⟨fun b' hb' => hmatch (hunique b' hb').2, rfl⟩
        · next hmatch =>
          rw [not_not, effective_action_iff] at hmatch
          exact .inl ⟨b, ⟨e, hresolve, hget, hpublication, hmatch⟩, rfl⟩

/-- **What is available** is the version whose decisions prevail. -/
theorem Authority.evaluate_available_iff (w : Authority) (q : Query) :
    (w.evaluate q).available = true ↔ ∃ b, w.Available q b := by
  rcases w.evaluate_cases q with ⟨b, hb, heq⟩ | ⟨hnone, heq⟩
  · rw [heq]
    exact ⟨fun _ => ⟨b, hb⟩, fun _ => rfl⟩
  · rw [heq]
    exact ⟨fun h => absurd h Bool.false_ne_true, fun ⟨b, hb⟩ => absurd hb (hnone b)⟩

omit [Whitespace] in
theorem utc_of_utc {code code' : String} {t : LocalDatetime} {x : Datetime} (h : utc code t = .ok x) :
    utc code' t = .ok x := by
  rw [utc, Definition.utc] at h ⊢
  split at h
  · next hutc =>
    rw [dif_pos hutc]
    exact h
  · cases h

omit [Whitespace] in
theorem check_bind_eq_ok {x : Except String Unit} {f : Unit → Except String Unit} :
    (x >>= f) = .ok () ↔ x = .ok () ∧ f () = .ok () := by
  rw [bind_eq_ok]
  exact ⟨fun ⟨_, hx, hf⟩ => ⟨hx, hf⟩, fun ⟨hx, hf⟩ => ⟨(), hx, hf⟩⟩

/-- What `validate` checks. -/
theorem validate_eq_ok : b.validate = .ok () ↔ b.schemaVersion = schemaVersion ∧
    (∀ s ∈ [b.blueprintId, b.versionId, b.tenantId, b.securityDomain, b.provenanceClassification],
      Definition.isIdentifier s = true) ∧
    ∃ t, utc "INVALID_CREATED_AT" b.createdAt = .ok t ∧ b.configurationGenerationEligible = false ∧
      b.canonicalDigest = sha256 (b.semanticText t) := by
  simp only [SolutionBlueprint.validate, checkIdentifier, ite_error_eq_ok', check_bind_eq_ok,
    Definition.checkIdentifier_eq_ok, not_not, ne_eq, List.forall_mem_cons, List.not_mem_nil,
    false_implies, implies_true, and_true, and_assoc]
  simp only [bind_eq_ok, ite_error_eq_ok', not_not, Bool.not_eq_true, and_true]

/-- The digest of a valid blueprint covers the bytes that stand for it. -/
theorem digest_of_validate (h : b.validate = .ok ()) : ∃ text, b.canonicalDigest = sha256 text ∧
    b.semanticBytes = some (utf8 text) := by
  obtain ⟨-, -, t, ht, -, hdigest⟩ := validate_eq_ok.mp h
  refine ⟨b.semanticText t, hdigest, ?_⟩
  rw [SolutionBlueprint.semanticBytes, utc_of_utc ht]
  rfl

omit [Whitespace] in
theorem utf8_injective : Function.Injective utf8 := by
  intro s t h
  have hdecoded := congrArg decodeUtf8 h
  rwa [decodeUtf8_utf8, decodeUtf8_utf8, Option.some.injEq] at hdecoded

theorem digest_eq {b' : SolutionBlueprint} (h : b.validate = .ok ()) (h' : b'.validate = .ok ())
    (hbytes : b.semanticBytes = b'.semanticBytes) : b.canonicalDigest = b'.canonicalDigest := by
  obtain ⟨text, hdigest, htext⟩ := digest_of_validate h
  obtain ⟨text', hdigest', htext'⟩ := digest_of_validate h'
  rw [htext, htext', Option.some.injEq] at hbytes
  rw [hdigest, hdigest', utf8_injective hbytes]

omit [Whitespace] in
/-- The selected decisions depend on the digest and the scope of a blueprint alone. -/
theorem mem_selected_congr {b' : SolutionBlueprint} (hdecisions : ∀ d, d ∈ w.decisions ↔ d ∈ w'.decisions)
    (hdigest : b.canonicalDigest = b'.canonicalDigest) (htenant : b.tenantId = b'.tenantId)
    (hdomain : b.securityDomain = b'.securityDomain) (at' : Option Datetime) (d : AuthorityDecision) :
    d ∈ w.selected b facet scope purpose at' ↔ d ∈ w'.selected b' facet scope purpose at' := by
  rw [Authority.selected, Authority.selected, List.mem_filter, List.mem_filter, hdecisions, hdigest,
    htenant, hdomain]

/-- A version that is available to one authority is available to another one that
accepted the same calls. -/
theorem Holds.available {calls' : List Call} (h : Holds w calls) (h' : Holds w' calls')
    (hcalls : ∀ c, c ∈ calls ↔ c ∈ calls') {q : Query} (hb : w.Available q b) :
    ∃ b', w'.Available q b' ∧ b'.semanticBytes = b.semanticBytes := by
  obtain ⟨e, he, hget, hpublication, hmatch⟩ := hb
  obtain ⟨hkey, hvalid, hmem⟩ := h.versions _ _ hget
  obtain ⟨-, b', hget', hbytes⟩ := h'.registered b ((hcalls _).mp hmem)
  obtain ⟨hkey', hvalid', -⟩ := h'.versions _ _ hget'
  have hsame : b.identityKey = b'.identityKey := hkey'.symm
  simp only [SolutionBlueprint.identityKey, Prod.mk.injEq] at hsame
  have hdecisions : ∀ d, d ∈ w.decisions ↔ d ∈ w'.decisions := fun d => by
    rw [h.decisions, h'.decisions, hcalls]
  have hdigest := digest_eq hvalid hvalid' hbytes.symm
  rw [prevails_congr (mem_selected_congr hdecisions hdigest hsame.1 hsame.2.1 _)] at hpublication hmatch
  rw [hkey] at hget'
  exact ⟨b', ⟨e, he, hget', hpublication, hmatch⟩, hbytes⟩

/-- Two answers that differ at most in how the version is written. -/
structure AvailabilityResult.Alike (r r' : AvailabilityResult) : Prop where
  available : r.available = r'.available
  reasonCode : r.reasonCode = r'.reasonCode
  blueprint : r.blueprint.map SolutionBlueprint.semanticBytes
    = r'.blueprint.map SolutionBlueprint.semanticBytes
  matchAuthorized : r.matchAuthorized = r'.matchAuthorized
  executionAuthorized : r.executionAuthorized = r'.executionAuthorized

/-- **The order of the calls** does not show in the answers. -/
theorem Holds.evaluate_alike {calls' : List Call} (h : Holds w calls) (h' : Holds w' calls')
    (hcalls : ∀ c, c ∈ calls ↔ c ∈ calls') (q : Query) : (w.evaluate q).Alike (w'.evaluate q) := by
  rcases w.evaluate_cases q with ⟨b, hb, heq⟩ | ⟨hnone, heq⟩
  · rcases w'.evaluate_cases q with ⟨b', hb', heq'⟩ | ⟨hnone', -⟩
    · obtain ⟨b'', hb'', hbytes⟩ := h.available h' hcalls hb
      obtain rfl : b'' = b' := by
        obtain ⟨e, he, hget, -⟩ := hb''
        obtain ⟨e', he', hget', -⟩ := hb'
        cases he.symm.trans he'
        exact Option.some.inj (hget.symm.trans hget')
      rw [heq, heq']
      exact ⟨rfl, rfl, congrArg some hbytes.symm, rfl, rfl⟩
    · obtain ⟨b', hb', -⟩ := h.available h' hcalls hb
      exact absurd hb' (hnone' b')
  · rcases w'.evaluate_cases q with ⟨b', hb', -⟩ | ⟨-, heq'⟩
    · obtain ⟨b, hb, -⟩ := h'.available h (fun c => (hcalls c).symm) hb'
      exact absurd hb (hnone b)
    · rw [heq, heq']
      exact ⟨rfl, rfl, rfl, rfl, rfl⟩

/-! ### Repeated calls -/

/-- A call that raises changes nothing. -/
theorem Authority.step_of_error (w : Authority) (c : Call) {code : String}
    (h : (w.step c).1 = .error code) : (w.step c).2 = w := by
  cases c with
  | propose b =>
    rw [step, propose] at h ⊢
    rcases hadmitted : w.admitProposal b with code | _ | e
    · rfl
    · rw [hadmitted] at h
      cases h
    · rfl
  | append d =>
    rw [step, appendDecision] at h ⊢
    rcases hadmitted : w.admitDecision d with code | _ | e
    · rfl
    · rw [hadmitted] at h
      cases h
    · rfl
  | register b =>
    rw [step, register] at h ⊢
    rcases hadmitted : w.admitRegistration b with code | _ | e
    · rfl
    · rw [hadmitted] at h
      cases h
    · rfl

/-- **A call that was accepted** changes nothing when it is made again. -/
theorem Holds.step_again (h : Holds w calls) {c : Call} (hc : c ∈ calls) : (w.step c).2 = w := by
  cases c with
  | propose b =>
    obtain ⟨e, he, -⟩ := h.proposed b hc
    rw [Authority.step, Authority.propose]
    rcases hadmitted : w.admitProposal b with code | _ | e'
    · rfl
    · cases (Authority.admitProposal_eq_ok hadmitted).1.symm.trans he
    · rfl
  | append d =>
    have hid := (h.ids _ _).mpr ⟨(h.decisions d).mpr hc, rfl⟩
    rw [Authority.step, Authority.appendDecision]
    rcases hadmitted : w.admitDecision d with code | _ | e'
    · rfl
    · rcases Authority.admitDecision_eq_ok hadmitted with ⟨-, hnone, -⟩ | ⟨hsome, -⟩
      · cases hnone.symm.trans hid
      · cases hsome
    · rfl
  | register b =>
    obtain ⟨-, e, he, -⟩ := h.registered b hc
    rw [Authority.step, Authority.register]
    rcases hadmitted : w.admitRegistration b with code | _ | e'
    · rfl
    · cases (Authority.admitRegistration_eq_ok hadmitted).2.2.1.symm.trans he
    · rfl

/-! ### Registrations -/

theorem Authority.step_registered {c : Call} {k : Key}
    (h : (w.step c).2.registered.get? k = some b) :
    w.registered.get? k = some b ∨
      c = .register b ∧ b.identityKey = k ∧ w.registered.get? k = none ∧ w.Approved b := by
  cases c with
  | propose b' =>
    rw [step, propose] at h
    rcases hadmitted : w.admitProposal b' with code | _ | e <;> rw [hadmitted] at h <;> exact .inl h
  | append d =>
    rw [step, appendDecision] at h
    rcases hadmitted : w.admitDecision d with code | _ | e <;> rw [hadmitted] at h <;> exact .inl h
  | register b' =>
    rw [step, register] at h
    rcases hadmitted : w.admitRegistration b' with code | _ | e
    · rw [hadmitted] at h
      exact .inl h
    · obtain ⟨-, happroved, hget, -⟩ := admitRegistration_eq_ok hadmitted
      rw [hadmitted] at h
      have hset : (w.registered.set b'.identityKey b').get? k = some b := h
      rw [Dict.get?_set] at hset
      split at hset
      · next hkey =>
        cases hset
        rw [hkey] at hget
        exact .inr ⟨rfl, hkey, hget, happroved⟩
      · exact .inl hset
    · rw [hadmitted] at h
      exact .inl h

/-- **Every registered version** was approved when it was registered. -/
theorem registered_approved (calls : List Call) {k : Key}
    (h : (after calls).registered.get? k = some b) :
    ∃ before rest, calls = before ++ .register b :: rest ∧ (after before).registered.get? k = none ∧
      (after before).Approved b := by
  induction calls using List.reverseRecOn with
  | nil => cases h
  | append_singleton calls c ih =>
    rw [after_concat] at h
    rcases Authority.step_registered h with hbefore | ⟨rfl, -, hnone, happroved⟩
    · obtain ⟨before, rest, rfl, hrest⟩ := ih hbefore
      exact ⟨before, rest ++ [c], by rw [List.append_assoc]; rfl, hrest⟩
    · exact ⟨calls, [], rfl, hnone, happroved⟩

/-- **Availability is decided by the decisions in force**, whatever calls were made. -/
theorem availability_decided (calls : List Call) :
    (∀ q, ((after calls).evaluate q).available = true ↔ ∃ b, (after calls).Available q b) ∧
      (∀ calls', (∀ c, c ∈ accepted calls ↔ c ∈ accepted calls') →
        ∀ q, ((after calls).evaluate q).Alike ((after calls').evaluate q)) ∧
      (∀ k b, (after calls).registered.get? k = some b →
        ∃ before rest, calls = before ++ .register b :: rest ∧
          (after before).registered.get? k = none ∧ (after before).Approved b) ∧
      (∀ c ∈ accepted calls, ((after calls).step c).2 = after calls) ∧
      (∀ c code, ((after calls).step c).1 = .error code → ((after calls).step c).2 = after calls) ∧
      ∀ v v' : Values, v.Reordered v' → ∀ b,
        createSolutionBlueprint v = .ok b ↔ createSolutionBlueprint v' = .ok b :=
  ⟨(after calls).evaluate_available_iff,
    fun calls' hcalls => (holds calls).evaluate_alike (holds calls') hcalls,
    fun _ _ => registered_approved calls,
    fun _ => (holds calls).step_again,
    fun c _ => (after calls).step_of_error c,
    fun _ _ => createSolutionBlueprint_perm⟩

end Calls

/-! ### Two ways of writing one version -/

section Variants

variable [Whitespace] {x y : SolutionBlueprint}

/-- Two blueprints that are written differently and have the same bytes. -/
structure Variants (x y : SolutionBlueprint) : Prop where
  valid : x.validate = .ok ()
  valid' : y.validate = .ok ()
  key : y.identityKey = x.identityKey
  bytes : y.semanticBytes = x.semanticBytes
  root : x.predecessorVersion = none
  root' : y.predecessorVersion = none

theorem Variants.symm (h : Variants x y) : Variants y x :=
  ⟨h.valid', h.valid, h.key.symm, h.bytes.symm, h.root', h.root⟩

/-- A decision on a blueprint at the first instant. -/
def decisionOn (b : SolutionBlueprint) (id facet action purpose : String) : AuthorityDecision :=
  ⟨id, id, b.blueprintId, b.versionId, b.canonicalDigest, b.tenantId, b.securityDomain, facet, action,
    purpose, purpose, "authority", "REASON", ⟨0, zero_lt_maxMicros⟩, ⟨0, zero_lt_maxMicros⟩, none⟩

def approval (b : SolutionBlueprint) : AuthorityDecision :=
  decisionOn b "approval" "REVIEW" "APPROVE" "registration"

def publication (b : SolutionBlueprint) : AuthorityDecision :=
  decisionOn b "publication" "PUBLICATION" "PUBLISH" "matching"

def grant (b : SolutionBlueprint) : AuthorityDecision := decisionOn b "grant" "MATCH" "GRANT" "matching"

/-- Both are proposed and registered, the first one first. -/
def bothWays (x y : SolutionBlueprint) : List Call :=
  [.propose x, .propose y, .append (approval x), .register x, .register y, .append (publication x),
    .append (grant x)]

/-! What is stored along the way. -/

def proposedOnly (x : SolutionBlueprint) : Authority :=
  ⟨Dict.empty.set x.identityKey x, .empty, [], .empty, .empty⟩

def approvedOnly (x : SolutionBlueprint) : Authority :=
  ⟨Dict.empty.set x.identityKey x, .empty, [approval x], Dict.empty.set "approval" (approval x),
    Dict.empty.set "approval" (approval x)⟩

def registeredOnly (x : SolutionBlueprint) : Authority :=
  { approvedOnly x with registered := Dict.empty.set x.identityKey x }

def publishedOnly (x : SolutionBlueprint) : Authority :=
  { registeredOnly x with
    decisions := [approval x, publication x]
    decisionIds := (Dict.empty.set "approval" (approval x)).set "publication" (publication x)
    replays := (Dict.empty.set "approval" (approval x)).set "publication" (publication x) }

theorem propose_new (h : Variants x y) :
    Authority.empty.step (.propose x) = (.ok (.version x), proposedOnly x) := by
  simp [Authority.step, Authority.propose, Authority.admitProposal, h.valid, lookUp, Authority.empty,
    Authority.validateSuccessor, h.root, proposedOnly, bind, Except.bind, Except.map]

theorem propose_again (h : Variants x y) :
    (proposedOnly x).step (.propose y) = (.ok (.version x), proposedOnly x) := by
  simp [Authority.step, Authority.propose, Authority.admitProposal, h.valid', lookUp, h.key, h.bytes,
    proposedOnly, bind, Except.bind, Except.map]

theorem append_approval (x : SolutionBlueprint) :
    (proposedOnly x).step (.append (approval x)) = (.ok (.decision (approval x)), approvedOnly x) := by
  have hkey : (approval x).key = x.identityKey := rfl
  have hdigest : (approval x).blueprintDigest = x.canonicalDigest := rfl
  have hfacet : (approval x).facet = "REVIEW" := rfl
  have haction : (approval x).action = "APPROVE" := rfl
  have hscope : (approval x).scope = "registration" := rfl
  have hpurpose : (approval x).purpose = "registration" := rfl
  have hexpires : (approval x).expiresAt = none := rfl
  simp [Authority.step, Authority.appendDecision, Authority.admitDecision, Authority.validateDecision, hkey,
    hdigest, hfacet, haction, hscope, hpurpose, hexpires, expectedActions, lookUpDecision, proposedOnly,
    approvedOnly, bind, Except.bind, Except.map]
  exact ⟨rfl, rfl⟩

theorem register_new (h : Variants x y) :
    (approvedOnly x).step (.register x) = (.ok (.version x), registeredOnly x) := by
  have hproposed : (approvedOnly x).proposals.get? x.identityKey = some x := Dict.get?_set_self _ _ _
  have hnone : (approvedOnly x).registered.get? x.identityKey = none := rfl
  have hselected : (approvedOnly x).selected x "REVIEW" "registration" "registration" none
      = [approval x] := by
    simp [Authority.selected, approvedOnly, approval, decisionOn]
  have hreviews : (approvedOnly x).reviews x = [approval x] := by
    rw [Authority.reviews, Authority.current, hselected]
    rfl
  have haction : (approval x).action = "APPROVE" := rfl
  simp [Authority.step, Authority.register, Authority.admitRegistration, h.valid, hproposed, hreviews,
    haction, lookUp, hnone, bind, Except.bind, Except.map]
  rfl

theorem register_again (h : Variants x y) :
    (registeredOnly x).step (.register y) = (.ok (.version x), registeredOnly x) := by
  have hdigest := digest_eq h.valid h.valid' h.bytes.symm
  have hkey := h.key
  simp only [SolutionBlueprint.identityKey, Prod.mk.injEq] at hkey
  have hproposed : (registeredOnly x).proposals.get? y.identityKey = some x := by
    rw [h.key]
    exact Dict.get?_set_self _ _ _
  have hregistered : (registeredOnly x).registered.get? y.identityKey = some x := by
    rw [h.key]
    exact Dict.get?_set_self _ _ _
  have hselected : (registeredOnly x).selected y "REVIEW" "registration" "registration" none
      = [approval x] := by
    simp [Authority.selected, registeredOnly, approvedOnly, approval, decisionOn, hdigest, hkey]
  have hreviews : (registeredOnly x).reviews y = [approval x] := by
    rw [Authority.reviews, Authority.current, hselected]
    rfl
  have haction : (approval x).action = "APPROVE" := rfl
  simp [Authority.step, Authority.register, Authority.admitRegistration, h.valid', hproposed, hreviews,
    haction, lookUp, hregistered, h.bytes, bind, Except.bind, Except.map]

theorem append_publication (x : SolutionBlueprint) :
    (registeredOnly x).step (.append (publication x))
      = (.ok (.decision (publication x)), publishedOnly x) := by
  have hkey : (publication x).key = x.identityKey := rfl
  have hdigest : (publication x).blueprintDigest = x.canonicalDigest := rfl
  have hfacet : (publication x).facet = "PUBLICATION" := rfl
  have haction : (publication x).action = "PUBLISH" := rfl
  have hexpires : (publication x).expiresAt = none := rfl
  have hid : (publication x).decisionId = "publication" := rfl
  have hreplay : (publication x).replayIdentity = "publication" := rfl
  simp [Authority.step, Authority.appendDecision, Authority.admitDecision, Authority.validateDecision, hkey,
    hdigest, hfacet, haction, hexpires, hid, hreplay, expectedActions, lookUpDecision, registeredOnly,
    publishedOnly, approvedOnly, Dict.get?_set, bind, Except.bind, Except.map]

theorem append_grant (x : SolutionBlueprint) :
    ((publishedOnly x).step (.append (grant x))).1 = .ok (.decision (grant x)) ∧
      ((publishedOnly x).step (.append (grant x))).2.registered = Dict.empty.set x.identityKey x ∧
      ((publishedOnly x).step (.append (grant x))).2.decisions
        = [approval x, publication x, grant x] := by
  have hkey : (grant x).key = x.identityKey := rfl
  have hdigest : (grant x).blueprintDigest = x.canonicalDigest := rfl
  have hfacet : (grant x).facet = "MATCH" := rfl
  have haction : (grant x).action = "GRANT" := rfl
  have hexpires : (grant x).expiresAt = none := rfl
  have hid : (grant x).decisionId = "grant" := rfl
  have hreplay : (grant x).replayIdentity = "grant" := rfl
  simp [Authority.step, Authority.appendDecision, Authority.admitDecision, Authority.validateDecision, hkey,
    hdigest, hfacet, haction, hexpires, hid, hreplay, expectedActions, lookUpDecision, registeredOnly,
    publishedOnly, approvedOnly, Dict.get?_set, bind, Except.bind, Except.map]

theorem bothWays_accepted (h : Variants x y) : accepted (bothWays x y) = bothWays x y := by
  simp only [accepted, bothWays, acceptedFrom, propose_new h, propose_again h, append_approval,
    register_new h, register_again h, append_publication, (append_grant x).1]
  rfl

theorem bothWays_stored (h : Variants x y) :
    (after (bothWays x y)).registered.get? x.identityKey = some x ∧
      (after (bothWays x y)).decisions = [approval x, publication x, grant x] := by
  simp only [after, bothWays, List.foldl, propose_new h, propose_again h, append_approval, register_new h,
    register_again h, append_publication, (append_grant x).2, Dict.get?_set_self, and_self]

theorem Variants.decisionOn_eq (h : Variants x y) (id facet action purpose : String) :
    decisionOn y id facet action purpose = decisionOn x id facet action purpose := by
  have hdigest := digest_eq h.valid h.valid' h.bytes.symm
  have hkey := h.key
  simp only [SolutionBlueprint.identityKey, Prod.mk.injEq] at hkey
  obtain ⟨htenant, hdomain, hblueprint, hversion⟩ := hkey
  rw [decisionOn, decisionOn, hdigest, htenant, hdomain, hblueprint, hversion]

/-- The order of the two does not matter for what is accepted. -/
theorem Variants.mem_accepted (h : Variants x y) (c : Call) :
    c ∈ accepted (bothWays x y) ↔ c ∈ accepted (bothWays y x) := by
  rw [bothWays_accepted h, bothWays_accepted h.symm, bothWays, bothWays, approval, approval, publication,
    publication, grant, grant, h.decisionOn_eq, h.decisionOn_eq, h.decisionOn_eq]
  simp only [List.mem_cons, List.not_mem_nil, or_false]
  tauto

/-- The first way of writing the version is the one that is found. -/
theorem Variants.evaluate_eq (h : Variants x y) {q : Query} {e : Evaluation} (hq : q.resolve = .ok e)
    (hkey : e.key = x.identityKey) (hscope : e.scope = "matching") (hpurpose : e.purpose = "matching") :
    (after (bothWays x y)).evaluate q = availableResult x := by
  obtain ⟨hget, hdecisions⟩ := bothWays_stored h
  have hinstant : (⟨0, zero_lt_maxMicros⟩ : Datetime) ≤ e.time := Nat.zero_le _
  have havailable : (after (bothWays x y)).Available q x := by
    refine ⟨e, hq, hkey ▸ hget, ?_, ?_⟩
    · have hselected : (after (bothWays x y)).selected x "PUBLICATION" e.scope e.purpose (some e.time)
          = [publication x] := by
        simp [Authority.selected, hdecisions, hscope, hpurpose, approval, publication, grant, decisionOn,
          hinstant]
      rw [hselected]
      exact ⟨List.cons_ne_nil _ _, fun d hd _ => by rw [List.mem_singleton.mp hd]; rfl⟩
    · have hselected : (after (bothWays x y)).selected x "MATCH" e.scope e.purpose (some e.time)
          = [grant x] := by
        simp [Authority.selected, hdecisions, hscope, hpurpose, approval, publication, grant, decisionOn,
          hinstant]
      rw [hselected]
      exact ⟨List.cons_ne_nil _ _, fun d hd _ => by rw [List.mem_singleton.mp hd]; rfl⟩
  rcases (after (bothWays x y)).evaluate_cases q with ⟨b, ⟨e', he', hget', -⟩, heq⟩ | ⟨hnone, -⟩
  · cases hq.symm.trans he'
    rw [hkey, hget] at hget'
    cases hget'
    exact heq
  · exact absurd havailable (hnone x)

end Variants

namespace Sample

local instance : Whitespace := .kelvin

def reference : AssetReference :=
  ⟨"workflow", "workflow-1", "0123456789abcdef0123456789abcdef0123456789abcdef0123456789abcdef"⟩

/-- A blueprint for a problem, without its digest. -/
def draft (problemIntent : String) : SolutionBlueprint where
  blueprintId := "blueprint"
  versionId := "blueprint-1"
  canonicalDigest := ""
  tenantId := "tenant"
  securityDomain := "domain"
  createdAt := ⟨0, some 0⟩
  references _ := []
  texts _ := []
  provenanceClassification := "SYNTHETIC"
  problemIntent := problemIntent
  canonicalWorkflowRevision := reference
  configurationGenerationEligible := false
  predecessorVersion := none
  schemaVersion := schemaVersion

def blueprint (problemIntent : String) : SolutionBlueprint :=
  { draft problemIntent with
    canonicalDigest := sha256 ((draft problemIntent).semanticText ⟨0, zero_lt_maxMicros⟩) }

theorem blueprint_text (problemIntent : String) (t : Datetime) :
    (blueprint problemIntent).semanticText t = (draft problemIntent).semanticText t := by
  simp only [SolutionBlueprint.semanticText, SolutionBlueprint.semanticPayload, blueprint]

theorem blueprint_key (problemIntent : String) :
    (blueprint problemIntent).identityKey = ("tenant", "domain", "blueprint", "blueprint-1") := by
  simp only [SolutionBlueprint.identityKey, blueprint, draft]

theorem blueprint_utc (code problemIntent : String) :
    utc code (blueprint problemIntent).createdAt = .ok ⟨0, zero_lt_maxMicros⟩ := by
  simp only [blueprint, draft]
  rfl

theorem identifier_ok {code s : String} (h : Definition.isIdentifier s = true) :
    identifier code s = .ok s := Definition.identifier_of_isIdentifier code h

theorem blueprint_validate (problemIntent : String) : (blueprint problemIntent).validate = .ok () := by
  have hids : ∀ s ∈ ["blueprint", "blueprint-1", "tenant", "domain", "SYNTHETIC"],
      Definition.isIdentifier s = true := by
    decide
  refine validate_eq_ok.mpr ⟨?_, ?_, _, blueprint_utc _ _, ?_, ?_⟩
  · simp only [blueprint, draft]
  · simp only [blueprint, draft]
    exact hids
  · simp only [blueprint, draft]
  · rw [blueprint_text]
    simp only [blueprint]

/-- KELVIN SIGN is written as the letter K. -/
theorem kelvin_text (t : Datetime) : (draft "\u212a").semanticText t = (draft "K").semanticText t := by
  have hk : nfc "\u212a" = nfc "K" := by decide
  simp only [SolutionBlueprint.semanticText, Definition.canonicalJson, SolutionBlueprint.semanticPayload,
    draft, List.cons_append, Definition.canonical, Definition.canonicalFields, hk]

theorem kelvin_variants : Variants (blueprint "K") (blueprint "\u212a") where
  valid := blueprint_validate _
  valid' := blueprint_validate _
  key := (blueprint_key _).trans (blueprint_key _).symm
  bytes := by
    rw [SolutionBlueprint.semanticBytes, SolutionBlueprint.semanticBytes, blueprint_utc, blueprint_utc]
    simp only [blueprint_text, kelvin_text]
  root := by simp only [blueprint, draft]
  root' := by simp only [blueprint, draft]

def query : Query :=
  ⟨"tenant", "domain", "blueprint", "blueprint-1", "matching", "matching", ⟨0, some 0⟩⟩

theorem query_resolve : query.resolve
    = .ok ⟨("tenant", "domain", "blueprint", "blueprint-1"), ⟨0, zero_lt_maxMicros⟩, "matching", "matching"⟩ := by
  simp only [Query.resolve, query]
  rw [identifier_ok (s := "tenant") (by decide), identifier_ok (s := "domain") (by decide),
    identifier_ok (s := "blueprint") (by decide), identifier_ok (s := "blueprint-1") (by decide),
    identifier_ok (s := "matching") (by decide), identifier_ok (s := "matching") (by decide)]
  rfl

/-- **Two authorities answer differently** that accepted the same calls: each of them
returns the way of writing the version that came first. -/
theorem evaluations_differ : ¬ ∀ calls calls' : List Call,
    (∀ c, c ∈ accepted calls ↔ c ∈ accepted calls') →
      ∀ q, (after calls).evaluate q = (after calls').evaluate q := by
  intro hclaim
  have heq := hclaim (bothWays (blueprint "K") (blueprint "\u212a"))
    (bothWays (blueprint "\u212a") (blueprint "K")) kelvin_variants.mem_accepted query
  rw [kelvin_variants.evaluate_eq query_resolve (blueprint_key _).symm rfl rfl,
    kelvin_variants.symm.evaluate_eq query_resolve (blueprint_key _).symm rfl rfl] at heq
  have hintent : some (blueprint "K").problemIntent = some (blueprint "\u212a").problemIntent :=
    congrArg (fun r => r.blueprint.map SolutionBlueprint.problemIntent) heq
  simp only [blueprint, draft] at hintent
  exact absurd hintent (by decide)

end Sample

end Blueprint

end AgentPlatform
