/-
AgentPlatform/Order/Chain.lean

Chains of records over arbitrary types: lists that grow at their end, in which
every record carries its number and names the record before it.

Design. Both facts are equations between lists (`Numbered`, `Linked`), so that
they depend on nothing but the numbers and the names; one lemma for each says
when a record may be added (`numbered_concat`, `linked_concat`).
-/
import Mathlib

namespace Chain

variable {α β γ : Type*}

/-! ### Numbers -/

/-- The records are numbered from 1 on. -/
def Numbered (number : α → Nat) (l : List α) : Prop :=
  l.map number = List.range' 1 l.length

theorem numbered_nil (number : α → Nat) : Numbered number [] := rfl

theorem numbered_concat {number : α → Nat} {l : List α} {a : α} :
    Numbered number (l ++ [a]) ↔ Numbered number l ∧ number a = l.length + 1 := by
  rw [Numbered, Numbered, List.map_append, List.length_append, List.length_singleton,
    List.range'_1_concat]
  constructor
  · intro h
    obtain ⟨hl, ha⟩ := List.append_inj' h rfl
    exact ⟨hl, by simpa [Nat.add_comm] using ha⟩
  · rintro ⟨hl, ha⟩
    rw [hl, List.map_singleton, ha, Nat.add_comm 1]

/-! ### Links -/

/-- Every record names the one before it, the first one names `start`. -/
def Linked (start : β) (own previous : α → β) (l : List α) : Prop :=
  l.map previous = (start :: l.map own).dropLast

theorem linked_nil (start : β) (own previous : α → β) : Linked start own previous [] := rfl

/-- The names of the chain and of what comes next. -/
theorem dropLast_append_last (start : β) (l : List β) :
    start :: l = (start :: l).dropLast ++ [l.getLast?.getD start] := by
  rw [← List.getLastD_eq_getLast?, ← List.getLast_eq_getLastD (List.cons_ne_nil _ _),
    List.dropLast_concat_getLast]

theorem linked_concat {start : β} {own previous : α → β} {l : List α} {a : α} :
    Linked start own previous (l ++ [a]) ↔
      Linked start own previous l ∧ previous a = (l.getLast?.map own).getD start := by
  have hnames : (start :: (l ++ [a]).map own).dropLast
      = (start :: l.map own).dropLast ++ [(l.getLast?.map own).getD start] := by
    rw [List.map_append, List.map_singleton, ← List.cons_append, List.dropLast_concat,
      ← List.getLast?_map]
    exact dropLast_append_last start (l.map own)
  rw [Linked, hnames, List.map_append, List.map_singleton]
  constructor
  · intro h
    obtain ⟨hl, ha⟩ := List.append_inj' h rfl
    exact ⟨hl, List.head_eq_of_cons_eq ha⟩
  · rintro ⟨hl, ha⟩
    rw [show l.map previous = _ from hl, ha]

/-- What a record names is a record of the chain. -/
theorem Linked.mem_of_previous {own : α → β} {previous : α → Option β} {l : List α} {b : α} {n : β}
    (h : Linked none (some ∘ own) previous l) (hb : b ∈ l) (hn : previous b = some n) :
    n ∈ l.map own := by
  have hmem : some n ∈ (none :: l.map (some ∘ own)).dropLast := by
    rw [← show l.map previous = _ from h, ← hn]
    exact List.mem_map_of_mem hb
  have := (List.dropLast_sublist _).subset hmem
  simpa using this

/-- The records that others name are those that are not the last one. -/
theorem Linked.named_iff {own : α → β} {previous : α → Option β} {l : List α} {a : α}
    (h : Linked none (some ∘ own) previous l) (hdistinct : (l.map own).Nodup) (ha : a ∈ l) :
    (∃ b ∈ l, previous b = some (own a)) ↔ l.getLast? ≠ some a := by
  induction l using List.reverseRecOn with
  | nil => cases ha
  | append_singleton l x ih =>
    have hlast : previous x = l.getLast?.map own := by
      rw [(linked_concat.mp h).2]
      cases l.getLast? <;> rfl
    rw [List.map_append, List.nodup_append] at hdistinct
    obtain ⟨hold, -, hx⟩ := hdistinct
    have hnew : own x ∉ l.map own := fun hmem => hx _ hmem _ (by simp) rfl
    rw [List.getLast?_concat]
    rcases List.mem_append.mp ha with ha | ha
    · -- an earlier record is named by the next one
      have hne : x ≠ a := by
        rintro rfl
        exact hnew (List.mem_map_of_mem ha)
      refine ⟨fun _ heq => hne (Option.some.inj heq), fun _ => ?_⟩
      by_cases hl : l.getLast? = some a
      · exact ⟨x, List.mem_append_right _ List.mem_cons_self, by rw [hlast, hl]; rfl⟩
      · obtain ⟨b, hb, hname⟩ := (ih (linked_concat.mp h).1 hold ha).mpr hl
        exact ⟨b, List.mem_append_left _ hb, hname⟩
    · -- the last one is named by none
      rw [List.mem_singleton.mp ha]
      refine ⟨?_, fun hne => absurd rfl hne⟩
      rintro ⟨b, hb, hname⟩
      exfalso
      rcases List.mem_append.mp hb with hb | hb
      · exact hnew ((linked_concat.mp h).1.mem_of_previous hb hname)
      · rw [List.mem_singleton.mp hb, hlast] at hname
        obtain ⟨y, hy, heq⟩ := Option.map_eq_some_iff.mp hname
        exact hnew (heq ▸ List.mem_map_of_mem (List.mem_of_getLast? hy))

end Chain
