import SpriteGame.Proofs.Candidates
import SpriteGame.Proofs.Grammar
import SpriteGame.Proofs.Renumbering
/-!
# Rules are validated one by one

Candidate lines are read, resolved and validated together, but no line is judged by another
or by where it stands: lines are without a problem if each of them is, alone with the
description (`checkRules_compositional`). A line is read the same on every line number, up to
that number, and the number is looked at by no reader of rules.
-/
namespace SpriteGame

namespace Reader

variable {line : Nat} {text : List Char}

theorem readInteraction_line {rules : List InteractionDef} (h : readInteraction line text = .ok rules) (line' : Nat) :
    readInteraction line' text = .ok (rules.map fun rule => { rule with line := line' }) := by
  obtain ⟨parts, params, hparts, hall, hlast, rfl⟩ := readInteraction_eq_ok.1 h
  refine readInteraction_eq_ok.2 ⟨parts, params, hparts, hall, hlast, ?_⟩
  rw [InteractionParts.rules, InteractionParts.rules, List.map_map]
  rfl

theorem readTermination_line {rule : TerminationDef} (h : readTermination line text = .ok rule) (line' : Nat) :
    readTermination line' text = .ok { rule with line := line' } := by
  obtain ⟨parts, params, hparts, hall, hlast, rfl⟩ := readTermination_eq_ok.1 h
  exact readTermination_eq_ok.2 ⟨parts, params, hparts, hall, hlast, rfl⟩

end Reader

/-! ## Lines one by one -/

theorem exists_forall₂_iff {α β : Type} {R : α → β → Prop} {P : β → Prop} {l : List α} :
    (∃ bs, List.Forall₂ R l bs ∧ ∀ b ∈ bs, P b) ↔ ∀ a ∈ l, ∃ b, R a b ∧ P b := by
  induction l with
  | nil => exact ⟨fun _ => nofun, fun _ => ⟨[], .nil, nofun⟩⟩
  | cons a l ih =>
    rw [List.forall_mem_cons, ← ih]
    constructor
    · rintro ⟨_, hbs, hP⟩
      obtain ⟨b, bs, hab, hrest, rfl⟩ := List.forall₂_cons_left_iff.1 hbs
      obtain ⟨hb, hP⟩ := List.forall_mem_cons.1 hP
      exact ⟨⟨b, hab, hb⟩, bs, hrest, hP⟩
    · rintro ⟨⟨b, hab, hb⟩, bs, hbs, hP⟩
      exact ⟨b :: bs, .cons hab hbs, List.forall_mem_cons.2 ⟨hb, hP⟩⟩

section

variable {α : Type} {read : Nat → List Char → Except Problem α} {P : α → Prop}

/-- Where a line stands does not matter for what it is read as, as far as `P` can tell. -/
def Unplaced (read : Nat → List Char → Except Problem α) (P : α → Prop) : Prop :=
  ∀ line line' text a, read line text = .ok a → P a → ∃ a', read line' text = .ok a' ∧ P a'

theorem Unplaced.exists_readAs_iff (h : Unplaced read P) (lines : List String) :
    (∃ values, ReadAs read lines values ∧ ∀ a ∈ values, P a) ↔
      ∀ text ∈ lines, ∃ a, read 1 text.toList = .ok a ∧ P a := by
  unfold ReadAs
  rw [exists_forall₂_iff]
  constructor
  · intro hlines text htext
    obtain ⟨k, hk, rfl⟩ := List.mem_iff_getElem.1 htext
    obtain ⟨a, ha, hP⟩ := hlines (lines[k], k) (List.mk_mem_zipIdx_iff_getElem?.2 (List.getElem?_eq_getElem hk))
    exact h _ 1 _ a ha hP
  · rintro htexts ⟨text, k⟩ hk
    obtain ⟨a, ha, hP⟩ := htexts text (List.mem_of_getElem? (List.mk_mem_zipIdx_iff_getElem?.1 hk))
    exact h 1 _ _ a ha hP

end

namespace Description

variable (d : Description)

theorem unplaced_interaction :
    Unplaced Reader.readInteraction fun rules => ∀ rule ∈ rules, d.Resolves rule := by
  intro line line' text rules hread hrules
  refine ⟨_, Reader.readInteraction_line hread line', List.forall_mem_map.2 fun rule hrule => ?_⟩
  exact (Interaction.akin_read? (Registry.renumbers_id _) d.placeholders rule line').problems.2 (hrules rule hrule)

theorem unplaced_termination : Unplaced Reader.readTermination d.ResolvesTermination := by
  intro line line' text t hread ht
  refine ⟨_, Reader.readTermination_line hread line', ?_⟩
  exact (Termination.akin_read? (Registry.renumbers_id _) t line').problems.2 ht

/-- Sprites, templates and the level mapping are compiled apart from the rules, and every
rule apart from the others. -/
theorem problems_candidate (rules : List (List InteractionDef)) (ts : List TerminationDef) :
    (Ruleset.compile (d.candidate rules ts) .default).problems = [] ↔
      (Ruleset.compile (d.candidate [] []) .default).problems = [] ∧
        (∀ l ∈ rules, ∀ rule ∈ l, d.Resolves rule) ∧ ∀ t ∈ ts, d.ResolvesTermination t := by
  constructor
  · intro h
    obtain ⟨hdeclare, hbuild, hrules, hts, hmapping⟩ := Ruleset.problems_compile_eq_nil.1 h
    exact ⟨Ruleset.problems_compile_eq_nil.2 ⟨hdeclare, hbuild, nofun, nofun, hmapping⟩,
      List.forall_mem_flatten.1 hrules, hts⟩
  · rintro ⟨h, hrules, hts⟩
    obtain ⟨hdeclare, hbuild, -, -, hmapping⟩ := Ruleset.problems_compile_eq_nil.1 h
    exact Ruleset.problems_compile_eq_nil.2 ⟨hdeclare, hbuild, List.forall_mem_flatten.2 hrules, hts, hmapping⟩

/-- Every line is judged by itself, as if it were the first. -/
theorem checkRules_eq_nil_iff_each (interactions terminations : List String) :
    d.checkRules interactions terminations = [] ↔ (Ruleset.compile (d.candidate [] []) .default).problems = [] ∧
      (∀ i ∈ interactions, ∃ rules, Reader.readInteraction 1 i.toList = .ok rules ∧ ∀ rule ∈ rules, d.Resolves rule) ∧
      ∀ t ∈ terminations, ∃ rule, Reader.readTermination 1 t.toList = .ok rule ∧ d.ResolvesTermination rule := by
  rw [checkRules_eq_nil_iff, ← d.unplaced_interaction.exists_readAs_iff, ← d.unplaced_termination.exists_readAs_iff]
  constructor
  · rintro ⟨rules, ts, hrules, hts, hproblems⟩
    obtain ⟨hplain, hresolves, hterminations⟩ := (d.problems_candidate rules ts).1 hproblems
    exact ⟨hplain, ⟨rules, hrules, hresolves⟩, ts, hts, hterminations⟩
  · rintro ⟨hplain, ⟨rules, hrules, hresolves⟩, ts, hts, hterminations⟩
    exact ⟨rules, ts, hrules, hts, (d.problems_candidate rules ts).2 ⟨hplain, hresolves, hterminations⟩⟩

/-- Candidate lines have no problem exactly if the description has none without rules, and
none with any single one of the lines. -/
theorem checkRules_compositional (interactions terminations : List String) :
    d.checkRules interactions terminations = [] ↔
      d.checkRules [] [] = [] ∧ (∀ i ∈ interactions, d.checkRules [i] [] = []) ∧
        ∀ t ∈ terminations, d.checkRules [] [t] = [] := by
  have heach := d.checkRules_eq_nil_iff_each
  constructor
  · intro h
    obtain ⟨hplain, hi, ht⟩ := (heach _ _).1 h
    exact ⟨(heach [] []).2 ⟨hplain, nofun, nofun⟩,
      fun i hmem => (heach [i] []).2 ⟨hplain, List.forall_mem_singleton.2 (hi i hmem), nofun⟩,
      fun t hmem => (heach [] [t]).2 ⟨hplain, nofun, List.forall_mem_singleton.2 (ht t hmem)⟩⟩
  · rintro ⟨hplain, hi, ht⟩
    refine (heach _ _).2 ⟨((heach [] []).1 hplain).1, fun i hmem => ?_, fun t hmem => ?_⟩
    · exact ((heach [i] []).1 (hi i hmem)).2.1 i List.mem_cons_self
    · exact ((heach [] [t]).1 (ht t hmem)).2.2 t List.mem_cons_self

end Description

end SpriteGame
