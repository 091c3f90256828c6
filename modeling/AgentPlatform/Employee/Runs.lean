/-
AgentPlatform/Employee/Runs.lean

Runs of the employee definition ledger, one command after the other, while the bound
resources change.

Every command that returns has written one fact, or repeats a command that had written
one; the fact stays, so that the command never writes again (**`commands_once`**).
-/
import AgentPlatform.Employee.Shown

namespace AgentPlatform

open Py

namespace Employee

section Runs

variable [Unicodedata] {s s' : Ledger} {view : View} {bound : Bound} {call : Call} {f : Fact}

/-- A command that returns, with any bound resources. -/
def Step (s s' : Ledger) : Prop := ∃ bound call view, Call.body bound s call = .ok (view, s')

/-- Nothing that is stored is changed or removed. -/
structure Ledger.Grows (s s' : Ledger) : Prop where
  facts : s.facts <+: s'.facts
  revisions : ∀ key, s.revisions key <+: s'.revisions key

theorem Step.grows (h : Step s s') : s.Grows s' := by
  obtain ⟨bound, call, view, hc⟩ := h
  obtain ⟨-, -, key, -, -, ⟨f, -, -, rfl⟩ | ⟨-, f, -, -, hfacts, hrevisions⟩⟩ := Call.body_eq_ok hc
  · exact ⟨List.prefix_refl _, fun key => List.prefix_refl _⟩
  · exact ⟨hfacts ▸ List.prefix_append _ _, hrevisions⟩

theorem Reachable.run (h : Reachable s) (hrun : Relation.ReflTransGen Step s s') : Reachable s' := by
  induction hrun with
  | refl => exact h
  | tail _ hstep ih =>
    obtain ⟨bound, call, view, hc⟩ := hstep
    exact .call bound call ih hc

theorem grows_run (hrun : Relation.ReflTransGen Step s s') : s.Grows s' := by
  induction hrun with
  | refl => exact ⟨List.prefix_refl _, fun key => List.prefix_refl _⟩
  | tail _ hstep ih =>
    exact ⟨ih.facts.trans hstep.grows.facts, fun key => (ih.revisions key).trans (hstep.grows.revisions key)⟩

omit [Unicodedata] in
theorem Ledger.Grows.factOf (h : s.Grows s') {command : CommandKey} (hf : s.factOf command = some f) :
    s'.factOf command = some f := by
  obtain ⟨new, hnew⟩ := h.facts
  rw [Ledger.factOf] at hf ⊢
  rw [← hnew, List.find?_append, hf]
  rfl

/-- A command that returned has left a fact of its payload. -/
theorem factOf_of_ok (h : call.body bound s = .ok (view, s')) :
    ∃ f, s'.factOf call.commandKey = some f ∧ f.payloadDigest = call.payload.canonicalDigest := by
  obtain ⟨-, -, key, -, -, ⟨f, hf, hdigest, rfl⟩ | ⟨hnone, f, hcommand, hdigest, hfacts, -⟩⟩ :=
    Call.body_eq_ok h
  · exact ⟨f, hf, hdigest⟩
  · refine ⟨f, ?_, hdigest⟩
    rw [Ledger.factOf] at hnone ⊢
    rw [hfacts, List.find?_append, hnone, Option.none_or, List.find?_singleton, if_pos]
    exact decide_eq_true hcommand

/-- A command whose fact is there is answered, if its revision can be read. -/
theorem Call.body_of_fact {key : DefinitionKey} (hf : s.factOf call.commandKey = some f)
    (hdigest : f.payloadDigest = call.payload.canonicalDigest) (hauthorized : call.authorized = true)
    (hid : isIdentifier call.commandId = true) (hkey : call.definitionKey = .ok key)
    (hview : (s.rows key).read call.revisionId = .ok view) : call.body bound s = .ok (view, s) := by
  cases call with
  | create c => exact createBody_eq_ok.mpr ⟨key, hkey, hid, .inl ⟨f, hf, hdigest, rfl⟩, hview⟩
  | createForWorkbench authorized c =>
    cases hauthorized
    exact createBody_eq_ok.mpr ⟨key, hkey, hid, .inl ⟨f, hf, hdigest, rfl⟩, hview⟩
  | decide c =>
    exact decideBody_eq_ok.mpr ⟨key, view, hkey, hid, hview, .inl ⟨f, hf, hdigest, rfl⟩, hview⟩
  | decideForWorkbench authorized c =>
    cases hauthorized
    exact decideBody_eq_ok.mpr ⟨key, view, hkey, hid, hview, .inl ⟨f, hf, hdigest, rfl⟩, hview⟩

/-- **A command writes once.** Take any ledger that commands lead to, a command that returns
there, and any later ledger. All that was stored is still there, and the ledger is sound. The
command is answered again and changes nothing; and a command of the same identifier with
another payload is refused. -/
theorem commands_once {s₀ : Ledger} (h₀ : Reachable s₀) (hc : call.body bound s₀ = .ok (view, s))
    (hrun : Relation.ReflTransGen Step s s') :
    s₀.Grows s' ∧ Sound s' ∧ (∀ bound', ∃ view', call.body bound' s' = .ok (view', s')) ∧
      ∀ other bound', Call.commandKey other = call.commandKey →
        other.payload.canonicalDigest ≠ call.payload.canonicalDigest →
          ∀ result, other.body bound' s' ≠ .ok result := by
  have hstep : Step s₀ s := ⟨bound, call, view, hc⟩
  have hs : Reachable s := .call bound call h₀ hc
  have hsound : Sound s' := (hs.run hrun).sound
  obtain ⟨f, hf, hdigest⟩ := factOf_of_ok hc
  have hf' := (grows_run hrun).factOf hf
  obtain ⟨hauthorized, hid, key, hkey, hview, -⟩ := Call.body_eq_ok hc
  refine ⟨grows_run (.head hstep hrun), hsound, fun bound' => ?_, ?_⟩
  · -- the revision of the command is stored
    obtain ⟨row, hrow, -⟩ := Rows.read_eq_ok hview
    obtain ⟨hmem, hrowId⟩ : row ∈ s.revisions key ∧ row.revisionId = call.revisionId :=
      Rows.find_eq_some hrow
    obtain ⟨view', hview', -⟩ := hsound.read ((grows_run hrun).revisions key |>.subset hmem)
    exact ⟨view', Call.body_of_fact hf' hdigest hauthorized hid hkey (hrowId ▸ hview')⟩
  · rintro other bound' hcommand hother ⟨view', s''⟩ h
    obtain ⟨-, -, -, -, -, ⟨g, hg, hsame, -⟩ | ⟨hnone, -⟩⟩ := Call.body_eq_ok h
    · rw [hcommand, hf'] at hg
      cases hg
      exact hother (hsame.symm.trans hdigest)
    · rw [hcommand, hf'] at hnone
      cases hnone

end Runs

section Sample

open Sample

local instance runsWhitespace : Whitespace := .kelvin

/-- The creation of the sample is answered again. -/
theorem commands_once_of_creation : ∃ view, (Call.create (command letterK)).body (fun _ => none)
    (opened letterK) = .ok (view, opened letterK) := by
  have hrow : letterK.row ∈ (opened letterK).revisions key := List.mem_singleton.mpr rfl
  obtain ⟨view, hview, -⟩ := (created.sound sound_empty).read hrow
  have hbody : createBody (command letterK) Ledger.empty = .ok (view, opened letterK) :=
    createBody_eq_ok.mpr ⟨key, by decide, by decide, .inr ⟨rfl, created⟩, hview⟩
  have hcall : (Call.create (command letterK)).body (fun _ => none) Ledger.empty
      = .ok (view, opened letterK) := hbody
  exact (commands_once .empty hcall .refl).2.2.1 _

end Sample

end Employee

end AgentPlatform
