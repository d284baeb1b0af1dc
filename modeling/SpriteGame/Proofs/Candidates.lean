import SpriteGame.Proofs.Report
/-!
# Validated rules

Candidate rules are validated apart from any level and with the default settings. Nothing
is lost by that: which problems rules have depends on neither, so candidate lines without a
problem are just those that can be read and that leave a build with no other problem than
the characters of the level (`checkRules_agrees`).
-/
namespace SpriteGame

/-! ## Candidate lines -/

/-- Lines, numbered from 1, are read as values. -/
def ReadAs {α : Type} (read : Nat → List Char → Except Problem α) (lines : List String) (values : List α) : Prop :=
  List.Forall₂ (fun (line : String × Nat) a => read (line.2 + 1) line.1.toList = .ok a) lines.zipIdx values

namespace Description

variable {α : Type} {read : Nat → List Char → Except Problem α} {lines : List String}

theorem readCandidates_of_readAs {values : List α} (h : ReadAs read lines values) :
    (readCandidates read lines).value = values ∧ (readCandidates read lines).problems = [] := by
  refine Checked.keepEach_of_forall₂ (h.imp fun line a hline => ?_)
  show Checked.ofExcept (read (line.2 + 1) line.1.toList) = _
  rw [hline]
  rfl

theorem readAs_readCandidates (h : (readCandidates read lines).problems = []) :
    ReadAs read lines (readCandidates read lines).value := by
  refine (Checked.forall₂_keepEach (fun _ => Checked.accounted_ofExcept _) h).imp fun line a hline => ?_
  generalize read (line.2 + 1) line.1.toList = result at hline ⊢
  cases result with
  | error p => cases hline
  | ok b => exact congrArg _ (Option.some.inj hline)

/-- The description with the rules of some lines, each with those that it stands for, and
with some terminations. -/
def candidate (d : Description) (rules : List (List InteractionDef)) (terminations : List TerminationDef) :
    Description :=
  { d with interactions := rules.flatten, terminations }

/-! ## Validation -/

/-- The problems of rules do not depend on the settings. -/
theorem problems_compile (d : Description) (settings settings' : Settings) :
    (Ruleset.compile d settings).problems = (Ruleset.compile d settings').problems := by
  unfold Ruleset.compile
  simp only [Checked.problems_bind, Checked.problems_pure]

theorem problems_withRules (d : Description) (interactions terminations : List String) :
    (d.withRules interactions terminations).problems =
      (readCandidates Reader.readInteraction interactions).problems ++
        (readCandidates Reader.readTermination terminations).problems := by
  unfold withRules
  rw [Checked.problems_bind, Checked.problems_bind, Checked.problems_pure, List.append_nil]

/-- A level without a cell adds nothing to what is wrong with the rules. -/
theorem checkRules_eq (d : Description) (interactions terminations : List String) :
    d.checkRules interactions terminations = (d.withRules interactions terminations).problems ++
      (Ruleset.compile (d.withRules interactions terminations).value .default).problems := by
  unfold checkRules
  dsimp only
  obtain ⟨w, hw⟩ := @World.exists_build (Ruleset.compile (d.withRules interactions terminations).value .default).value
    "" 0 Level.not_undefined_empty
  rw [Checked.value_bind, hw, Checked.problems_bind, List.append_nil]

theorem checkRules_eq_nil_iff (d : Description) (interactions terminations : List String) :
    d.checkRules interactions terminations = [] ↔
      ∃ rules ts, ReadAs Reader.readInteraction interactions rules ∧ ReadAs Reader.readTermination terminations ts ∧
        (Ruleset.compile (d.candidate rules ts) .default).problems = [] := by
  rw [checkRules_eq, problems_withRules, List.append_eq_nil_iff, List.append_eq_nil_iff]
  constructor
  · rintro ⟨⟨hinteractions, hterminations⟩, hcompile⟩
    exact ⟨_, _, readAs_readCandidates hinteractions, readAs_readCandidates hterminations, hcompile⟩
  · rintro ⟨rules, ts, hrules, hts, hcompile⟩
    obtain ⟨hvalue, hinteractions⟩ := readCandidates_of_readAs hrules
    obtain ⟨hvalue', hterminations⟩ := readCandidates_of_readAs hts
    refine ⟨⟨hinteractions, hterminations⟩, ?_⟩
    have hcandidate : (d.withRules interactions terminations).value = d.candidate rules ts := by
      show d.candidate (readCandidates Reader.readInteraction interactions).value
        (readCandidates Reader.readTermination terminations).value = _
      rw [hvalue, hvalue']
    rw [hcandidate]
    exact hcompile

/-- Rules are without a problem if all that a build with them ever reports is what the level
has undefined. -/
theorem problems_eq_nil_iff (d : Description) : (Ruleset.compile d .default).problems = [] ↔
    ∀ level seed settings es, d.build level seed settings = .error es →
      ∀ p ∈ es, ∃ c, p = .undefinedSymbol c ∧ Level.Undefined (Ruleset.compile d settings).value level c := by
  constructor
  · intro h level seed settings es hes
    rw [problems_compile d .default settings] at h
    rw [build_of_no_problem h] at hes
    exact World.undefined_of_mem_build hes
  · intro h
    by_contra hproblems
    obtain ⟨p, hp⟩ := List.exists_mem_of_ne_nil _ hproblems
    obtain ⟨c, -, hc⟩ := h "" 0 .default _ (build_of_problems hproblems) p hp
    exact Level.not_undefined_empty c hc

/-- Candidate lines have no problem exactly if all of them can be read and, with the rules
read in place of those of the description, a build on any level, from any seed and under any
settings fails for undefined characters of that level only. So a level without such
characters can be built with them. -/
theorem checkRules_agrees (d : Description) (interactions terminations : List String) :
    (d.checkRules interactions terminations = [] ↔
      ∃ rules ts, ReadAs Reader.readInteraction interactions rules ∧ ReadAs Reader.readTermination terminations ts ∧
        ∀ level seed settings es, (d.candidate rules ts).build level seed settings = .error es →
          ∀ p ∈ es, ∃ c, p = .undefinedSymbol c ∧
            Level.Undefined (Ruleset.compile (d.candidate rules ts) settings).value level c) ∧
    (d.checkRules interactions terminations = [] →
      ∀ rules ts, ReadAs Reader.readInteraction interactions rules → ReadAs Reader.readTermination terminations ts →
        ∀ level seed settings,
          (∀ c, ¬Level.Undefined (Ruleset.compile (d.candidate rules ts) settings).value level c) →
          ∃ w, (d.candidate rules ts).build level seed settings = .ok w) := by
  refine ⟨?_, fun h rules ts hrules hts level seed settings hdefined => ?_⟩
  · simp only [checkRules_eq_nil_iff, problems_eq_nil_iff]
  · obtain ⟨rules', ts', hrules', hts', hproblems⟩ := (checkRules_eq_nil_iff d interactions terminations).1 h
    -- Lines are read in one way only.
    obtain rfl : rules' = rules := (readCandidates_of_readAs hrules').1.symm.trans (readCandidates_of_readAs hrules).1
    obtain rfl : ts' = ts := (readCandidates_of_readAs hts').1.symm.trans (readCandidates_of_readAs hts).1
    rw [problems_compile _ .default settings] at hproblems
    rw [build_of_no_problem hproblems]
    exact World.exists_build hdefined

/-- With lines that are validated the corridor can be built, except on a level that asks for
what it has not; a line with an effect that there is not is not validated. -/
theorem checkRules_agrees_corridor :
    World.corridor.checkRules ["avatar wall > stepBack"] ["Timeout limit=10"] = [] ∧
      (∃ rules ts, ReadAs Reader.readInteraction ["avatar wall > stepBack"] rules ∧
        ReadAs Reader.readTermination ["Timeout limit=10"] ts ∧
        (∃ w, (World.corridor.candidate rules ts).build "wA w" 7 .default = .ok w) ∧
        ∃ es, (World.corridor.candidate rules ts).build "A?" 7 .default = .error es) ∧
      World.corridor.checkRules ["avatar wall > explode"] [] = [.unknownEffect "explode"] := by
  have hchecked : World.corridor.checkRules ["avatar wall > stepBack"] ["Timeout limit=10"] = [] := by decide +kernel
  obtain ⟨hagrees, hbuilds⟩ := checkRules_agrees World.corridor ["avatar wall > stepBack"] ["Timeout limit=10"]
  obtain ⟨rules, ts, hrules, hts, -⟩ := hagrees.1 hchecked
  -- Characters are mapped alike with any rules.
  have hdefined : ∀ c, ¬Level.Undefined (Ruleset.compile World.corridor .default).value "wA w" c :=
    Level.undefinedSymbols_eq_nil.1 (by decide +kernel)
  have hundefined : Level.Undefined (Ruleset.compile World.corridor .default).value "A?" '?' := by decide +kernel
  exact ⟨hchecked, ⟨rules, ts, hrules, hts, hbuilds hchecked rules ts hrules hts "wA w" 7 .default hdefined,
    (build_report _ "A?" 7 .default).1.2 (.inr ⟨'?', hundefined⟩)⟩, by decide +kernel⟩

end Description

end SpriteGame
