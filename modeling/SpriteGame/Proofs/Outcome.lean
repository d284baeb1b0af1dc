import SpriteGame.Proofs.Moments
import SpriteGame.Proofs.Episode
/-!
# Ticks, scores and outcomes

What an episode counts, and how it ends. A tick scores the rules whose effects come about
(`scoring`), and at its end the sprites that are left decide on the outcome (`Verdict`).
`course_run` puts this together for runs of any actions: an ended episode stays as it is,
and so no episode is longer than its limit on ticks.
-/
namespace SpriteGame

/-! ## What a tick scores -/

/-- The rule that is applied at a moment, if its effect comes about. -/
def Moment.scoring? (m : Moment) : Option Interaction :=
  m.opens.bind fun e =>
    if (e.2.effect.apply m.world (some e.1.first) e.1.second).1 then some e.2 else none

/-- The sum of the scores of rules. -/
def Interaction.total : List Interaction → Int
  | [] => 0
  | rule :: rules => rule.score + total rules

theorem Interaction.total_append (rules more : List Interaction) :
    total (rules ++ more) = total rules + total more := by
  induction rules with
  | nil => exact (Int.zero_add _).symm
  | cons rule rules ih =>
    show rule.score + total (rules ++ more) = rule.score + total rules + total more
    rw [ih, Int.add_assoc]

namespace World

/-- The rules applied in a tick whose effects come about, in the order of application. -/
def scoring (w : World) (action : Action) : List Interaction :=
  let v := w.moved action
  (v.moments (v.agenda v.detect)).filterMap Moment.scoring?

theorem pendingScore_edits (w : World) (es : List Edit) : (w.edits es).pendingScore = w.pendingScore := by
  induction es generalizing w with
  | nil => rfl
  | cons e es ih =>
    rw [edits_cons, ih]
    cases e <;> rfl

theorem scoring?_editMoments (w : World) (es : List Edit) :
    (w.editMoments es).filterMap Moment.scoring? = [] := by
  rw [List.filterMap_eq_nil_iff]
  intro m hm
  unfold Moment.scoring?
  rw [opens_editMoments hm]
  rfl

/-- The moments of an effect score its rule, or nothing if it does not come about. -/
theorem scoring?_effectMoments (w : World) (e : Entry) :
    (w.effectMoments e).filterMap Moment.scoring? =
      if (e.2.effect.apply w (some e.1.first) e.1.second).1 then [e.2] else [] := by
  unfold effectMoments
  cases h : e.2.effect.edits? w (some e.1.first) e.1.second with
  | none => simp [Moment.scoring?, Effect.apply_of_none h]
  | some answer => simp [Moment.scoring?, Effect.apply_of_some h, scoring?_editMoments]

theorem pendingScore_apply (w : World) (e : Effect) (first second : Option Key) :
    (e.apply w first second).2.pendingScore = w.pendingScore := by
  unfold Effect.apply
  split
  · rfl
  · exact pendingScore_edits _ _

theorem pendingScore_fireEntry (w : World) (e : Entry) :
    (w.fireEntry e).pendingScore =
      w.pendingScore + Interaction.total ((w.ruleMoments e).filterMap Moment.scoring?) := by
  have hopen : ∀ ms : List Moment, (⟨w, none⟩ :: ms).filterMap Moment.scoring? = ms.filterMap Moment.scoring? :=
    fun ms => rfl
  unfold ruleMoments fireEntry fireRule applyRule
  dsimp only
  rw [hopen]
  cases e.1.holds w with
  | false => exact (Int.add_zero _).symm
  | true =>
    cases w.rng.chance e.2.prob with
    | mk happens rng =>
      cases happens with
      | false => exact (Int.add_zero _).symm
      | true =>
        simp only [if_true, Bool.and_true]
        rw [scoring?_effectMoments]
        have hpending := pendingScore_apply { w with rng } e.2.effect (some e.1.first) e.1.second
        generalize e.2.effect.apply { w with rng } (some e.1.first) e.1.second = result at hpending ⊢
        split
        · simp [hpending, Interaction.total]
        · simp [hpending, Interaction.total]

/-- Firing rules adds up the scores of those whose effects come about. -/
theorem pendingScore_foldl_fireEntry (w : World) (es : List Entry) :
    (es.foldl fireEntry w).pendingScore =
      w.pendingScore + Interaction.total ((w.moments es).filterMap Moment.scoring?) := by
  induction es generalizing w with
  | nil => exact (Int.add_zero _).symm
  | cons e es ih =>
    unfold moments
    rw [List.foldl_cons, ih, pendingScore_fireEntry, List.filterMap_append, Interaction.total_append,
      Int.add_assoc]

theorem pendingScore_resolved (w : World) (action : Action) :
    (w.resolved action).pendingScore = w.pendingScore + Interaction.total (w.scoring action) := by
  have hmoved : (w.moved action).pendingScore = w.pendingScore := pendingScore_edits _ _
  show ((w.moved action).fireAll (w.moved action).detect).pendingScore = _
  rw [fireAll_eq, pendingScore_foldl_fireEntry, hmoved]
  rfl

/-! ## The verdict at the end of a tick -/

/-- How the sprites that are left and the tick decide on the outcome, and the score for it. -/
inductive Verdict (w : World) : Outcome → Int → Prop
  /-- The first satisfied termination decides. -/
  | decided {before after : List Termination} {t : Termination} :
      w.rules.terminations = before ++ t :: after →
      (∀ u ∈ before, u.isSatisfied w.countLive w.tick = false) →
      t.isSatisfied w.countLive w.tick = true → Verdict w t.outcome t.score
  /-- None is satisfied, and the limit on ticks is reached. -/
  | expired {limit : Nat} :
      (∀ u ∈ w.rules.terminations, u.isSatisfied w.countLive w.tick = false) →
      w.rules.maxTicks = some limit → limit ≤ w.tick → Verdict w .noWinner 0
  /-- None is satisfied, and there is time left. -/
  | undecided :
      (∀ u ∈ w.rules.terminations, u.isSatisfied w.countLive w.tick = false) →
      (∀ limit, w.rules.maxTicks = some limit → w.tick < limit) → Verdict w .ongoing 0

/-- Who is told to go on has time left. -/
theorem Verdict.lt_limit {w : World} {outcome : Outcome} {bonus : Int} (h : w.Verdict outcome bonus)
    (hon : outcome = .ongoing) {limit : Nat} (hlimit : w.rules.maxTicks = some limit) : w.tick < limit := by
  cases h with
  | @decided before after t _ _ _ =>
    unfold Termination.outcome at hon
    split at hon <;> cases hon
  | expired => cases hon
  | undecided _ htime => exact htime limit hlimit

/-- A world that is judged while its episode goes on gets the outcome and the score of the
verdict. -/
theorem verdict_judge {w : World} (h : w.outcome = .ongoing) :
    ∃ bonus, w.Verdict w.judge.outcome bonus ∧
      w.judge = { w with outcome := w.judge.outcome, score := w.score + bonus } := by
  unfold judge decisive? Termination.decisive?
  cases ht : w.rules.terminations.find? fun t => t.isSatisfied w.countLive w.tick with
  | some t =>
    obtain ⟨hsat, before, after, hsplit, hbefore⟩ := List.find?_eq_some_iff_append.1 ht
    refine ⟨t.score, .decided hsplit (fun u hu => ?_) hsat, rfl⟩
    simpa using hbefore u hu
  | none =>
    have hnone : ∀ u ∈ w.rules.terminations, u.isSatisfied w.countLive w.tick = false := by
      simpa using List.find?_eq_none.1 ht
    refine ⟨0, ?_⟩
    dsimp only
    rw [Int.add_zero]
    split
    · next hlimit =>
      obtain ⟨limit, hm, hle⟩ := (Option.any_eq_true _ _).1 hlimit
      exact ⟨.expired hnone hm (of_decide_eq_true hle), rfl⟩
    · next hlimit =>
      refine ⟨?_, rfl⟩
      rw [h]
      refine .undecided hnone fun limit hm => ?_
      rw [hm, Option.any_some, decide_eq_true_eq] at hlimit
      exact Nat.lt_of_not_le hlimit

/-! ## Ticks -/

theorem tick_commit (w : World) : w.commit.tick = w.tick :=
  frame_foldl_instantiate (fun _ _ _ => rfl) w.spawns w.settle

theorem outcome_commit (w : World) : w.commit.outcome = w.outcome :=
  frame_foldl_instantiate (fun _ _ _ => rfl) w.spawns w.settle

theorem score_commit (w : World) : w.commit.score = w.score + w.pendingScore :=
  frame_foldl_instantiate (fun _ _ _ => rfl) w.spawns w.settle

theorem tick_committed (w : World) (action : Action) : (w.resolved action).commit.tick = w.tick + 1 := by
  rw [tick_commit, (ensues_resolved w action).tick]
  rfl

theorem tick_step (w : World) (action : Action) : (w.step action).tick = w.tick + 1 := by
  obtain ⟨outcome, score, h⟩ := judge_eq (w.resolved action).commit
  show (w.resolved action).commit.judge.tick = w.tick + 1
  rw [h]
  exact tick_committed w action

/-- What a tick comes to while the episode goes on: what is committed, with the outcome of the
verdict on it, and with the scores of the rules that came about and of the verdict. -/
theorem verdict_step {w : World} (hon : w.outcome = .ongoing) (hpending : w.pendingScore = 0) (action : Action) :
    ∃ bonus, (w.resolved action).commit.Verdict (w.step action).outcome bonus ∧
      w.step action = { (w.resolved action).commit with
        outcome := (w.step action).outcome
        score := w.score + Interaction.total (w.scoring action) + bonus } := by
  have hens := ensues_resolved w action
  have houtcome : (w.resolved action).commit.outcome = .ongoing := by
    rw [outcome_commit, hens.outcome]
    exact hon
  have hscore : (w.resolved action).commit.score = w.score + Interaction.total (w.scoring action) := by
    rw [score_commit, hens.score, pendingScore_resolved, hpending, Int.zero_add]
    rfl
  obtain ⟨bonus, hverdict, hstep⟩ := verdict_judge houtcome
  rw [hscore] at hstep
  exact ⟨bonus, hverdict, hstep⟩

/-! ## Episodes -/

/-- How many of some actions are taken and not refused. -/
def accepted (w : World) : List Action → Nat
  | [] => 0
  | action :: actions => (w.attempt action).accepted actions + if (w.advance action).isOk then 1 else 0

theorem isOver_eq_false_iff {o : Outcome} : o.isOver = false ↔ o = .ongoing := by
  cases o <;> decide

theorem advance_of_ongoing {w : World} (h : w.outcome = .ongoing) (action : Action) :
    w.advance action = .ok (w.step action) :=
  advance_eq_ok_iff.2 ⟨isOver_eq_false_iff.2 h, rfl⟩

theorem advance_of_over {w : World} (h : w.outcome ≠ .ongoing) (action : Action) :
    w.advance action = .error ⟨w.outcome⟩ := by
  have hover : w.outcome.isOver = true := by
    rw [← Bool.not_eq_false]
    exact mt isOver_eq_false_iff.1 h
  unfold advance
  rw [hover]
  rfl

theorem attempt_of_ongoing {w : World} (h : w.outcome = .ongoing) (action : Action) :
    w.attempt action = w.step action := by
  unfold attempt
  rw [advance_of_ongoing h]

theorem attempt_of_over {w : World} (h : w.outcome ≠ .ongoing) (action : Action) : w.attempt action = w := by
  unfold attempt
  rw [advance_of_over h]

/-- An ended episode stays as it is. -/
theorem run_of_over {w : World} (h : w.outcome ≠ .ongoing) (actions : List Action) : w.run actions = w := by
  induction actions with
  | nil => rfl
  | cons action actions ih =>
    show (w.attempt action).run actions = w
    rw [attempt_of_over h, ih]

/-- The tick counts the actions taken. -/
theorem tick_run (w : World) (actions : List Action) : (w.run actions).tick = w.tick + w.accepted actions := by
  induction actions generalizing w with
  | nil => rfl
  | cons action actions ih =>
    show ((w.attempt action).run actions).tick =
      w.tick + ((w.attempt action).accepted actions + if (w.advance action).isOk then 1 else 0)
    rw [ih]
    by_cases h : w.outcome = .ongoing
    · rw [attempt_of_ongoing h, advance_of_ongoing h, tick_step]
      simp only [Except.isOk, Except.toBool, if_true]
      omega
    · rw [attempt_of_over h, advance_of_over h]
      rfl

/-- Between two ticks no score is pending. -/
theorem Reachable.pendingScore {rules : Ruleset} {w : World} (h : Reachable rules w) : w.pendingScore = 0 := by
  cases h with
  | start h =>
    obtain ⟨bounds, requests, rfl⟩ := eq_of_build h
    exact (extends_foldl_instantiate requests _).pendingScore
  | tick _ hadv =>
    obtain ⟨-, rfl⟩ := advance_eq_ok_iff.1 hadv
    exact (extends_step _ _).pendingScore

theorem start_of_build {rules : Ruleset} {level : String} {seed : UInt64} {start : World}
    (h : build rules level seed = .ok start) : start.tick = 0 ∧ start.outcome = .ongoing := by
  obtain ⟨bounds, requests, rfl⟩ := eq_of_build h
  exact ⟨frame_foldl_instantiate (f := World.tick) (fun _ _ _ => rfl) requests _,
    frame_foldl_instantiate (f := World.outcome) (fun _ _ _ => rfl) requests _⟩

/-- A limit on ticks is not passed, and it is reached only at the end. -/
theorem Reachable.within {rules : Ruleset} {limit : Nat} (hlimit : rules.maxTicks = some limit) {w : World}
    (h : Reachable rules w) : w.tick ≤ max limit 1 ∧ (w.outcome = .ongoing → w.tick < max limit 1) := by
  induction h with
  | start h =>
    rw [(start_of_build h).1]
    omega
  | @tick w v action hw hadv ih =>
    obtain ⟨hover, rfl⟩ := advance_eq_ok_iff.1 hadv
    have hon : w.outcome = .ongoing := isOver_eq_false_iff.1 hover
    have hlt : w.tick < max limit 1 := ih.2 hon
    obtain ⟨bonus, hverdict, -⟩ := verdict_step hon hw.pendingScore action
    have hrules : (w.resolved action).commit.rules = rules := by
      rw [(extends_commit _).rules, rules_settle, (ensues_resolved w action).rules]
      exact hw.rules
    rw [tick_step]
    refine ⟨by omega, fun hstill => ?_⟩
    have htime := hverdict.lt_limit hstill (hrules ▸ hlimit)
    rw [tick_committed] at htime
    omega

/-- The course of an episode, at any moment of a run. The tick counts the actions taken, of
which there are at most as many as the limit on ticks allows, and at least one. An ended
episode refuses every action, and stays as it is for good. One that goes on takes every
action: the sprites that are left and the tick then decide on the outcome, and the score
grows by the scores of the rules that came about and of the termination that decides. -/
theorem course_run {rules : Ruleset} {level : String} {seed : UInt64} {start : World}
    (h : build rules level seed = .ok start) (actions : List Action) :
    let w := start.run actions
    start.outcome = .ongoing ∧ w.tick = start.accepted actions ∧
    (∀ limit, rules.maxTicks = some limit → start.accepted actions ≤ max limit 1) ∧
    (w.outcome ≠ .ongoing → ∀ action more, w.advance action = .error ⟨w.outcome⟩ ∧ w.run more = w) ∧
    (w.outcome = .ongoing → ∀ action, ∃ v bonus, w.advance action = .ok v ∧
      (w.resolved action).commit.Verdict v.outcome bonus ∧ v.tick = w.tick + 1 ∧
      v = { (w.resolved action).commit with
        outcome := v.outcome
        score := w.score + Interaction.total (w.scoring action) + bonus }) := by
  intro w
  have hreach : Reachable rules w := (Reachable.start h).run actions
  obtain ⟨hstart, hon⟩ := start_of_build h
  have htick : w.tick = start.accepted actions := by
    show (start.run actions).tick = _
    rw [tick_run, hstart, Nat.zero_add]
  refine ⟨hon, htick, ?_, ?_, ?_⟩
  · intro limit hlimit
    rw [← htick]
    exact (hreach.within hlimit).1
  · intro hover action more
    exact ⟨advance_of_over hover action, run_of_over hover more⟩
  · intro hon action
    obtain ⟨bonus, hverdict, hstep⟩ := verdict_step hon hreach.pendingScore action
    exact ⟨w.step action, bonus, advance_of_ongoing hon action, hverdict, tick_step w action, hstep⟩

/-- On the errand a bat leaves the screen and the avatar takes the only gem in the second tick.
That ends the episode, and a third action changes nothing. -/
theorem course_run_errand :
    ∃ start, build (Ruleset.compile errand .default).value "n\nA g" 7 = .ok start ∧
      start.accepted [.right, .right, .up] = 2 ∧ (start.run [.right, .right]).outcome = .playerWins ∧
      (start.run [.right, .right]).score = 8 ∧
      (start.run [.right, .right]).advance .up = .error ⟨.playerWins⟩ := by
  obtain ⟨start, h, hcheck⟩ := @exists_start (Ruleset.compile errand .default).value "n\nA g" 7
    (fun w => decide (w.accepted [.right, .right, .up] = 2 ∧ (w.run [.right, .right]).outcome = .playerWins ∧
      (w.run [.right, .right]).score = 8)) (by decide +kernel)
  obtain ⟨haccepted, hwins, hscore⟩ := of_decide_eq_true hcheck
  obtain ⟨-, -, -, hover, -⟩ := course_run h [.right, .right]
  have hended : (start.run [.right, .right]).outcome ≠ .ongoing := by
    rw [hwins]
    decide
  refine ⟨start, h, haccepted, hwins, hscore, ?_⟩
  rw [(hover hended .up []).1, hwins]

end World

end SpriteGame
