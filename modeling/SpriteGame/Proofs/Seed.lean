import SpriteGame.Proofs.Effects
import SpriteGame.Proofs.Episode
/-!
# Games without chance

Few classes of sprites and few rules draw from the generator. Where there are none of them
a tick commutes with a change of the generator (`step_reseed`). So the generator is not
advanced, and the same actions lead to the same episode whatever the seed
(`seed_independence`).
-/
namespace SpriteGame

/-! ## Who draws -/

/-- The classes that draw a direction. -/
def SpriteClass.roaming : List SpriteClass := [randomMissile, randomNpc, chaser, fleeing, pathChaser]

/-- Whether sprites of a template decide without a draw. -/
structure Template.Steady (t : Template) : Prop where
  cls : t.cls ∉ SpriteClass.roaming
  spawns : t.cls = .spawnPoint → ¬ t.prob < 1

instance (t : Template) : Decidable t.Steady :=
  decidable_of_iff (t.cls ∉ SpriteClass.roaming ∧ (t.cls = .spawnPoint → ¬ t.prob < 1))
    ⟨fun h => ⟨h.1, h.2⟩, fun h => ⟨h.cls, h.spawns⟩⟩

/-- Whether a game leaves nothing to chance. -/
structure Ruleset.Certain (r : Ruleset) : Prop where
  rules : ∀ rule ∈ r.interactions, rule.isStochastic = false
  templates : ∀ t ∈ r.templates, t.Steady

namespace World

/-- The world with another generator, as if started from another seed. -/
def reseed (w : World) (rng : Random) (seed : UInt64) : World := { w with rng, seed }

theorem rules_reseed (w : World) (rng : Random) (seed : UInt64) : (w.reseed rng seed).rules = w.rules := rfl

theorem decisive?_reseed (w : World) (rng : Random) (seed : UInt64) :
    (w.reseed rng seed).decisive? = w.decisive? := rfl

end World

/-! ## Deciding -/

namespace Command

/-- A spawn point that spawns for certain does not draw. -/
theorem emit_of_not_lt {t : Template} (ht : ¬ t.prob < 1) (s : Sprite) (rng rng' : Random) :
    emit s t rng' = ((emit s t rng).1, rng') := by
  unfold emit
  rw [Random.chance_of_not_lt ht, Random.chance_of_not_lt ht]
  split
  · rfl
  · split
    · rfl
    · split <;> rfl

theorem plan_reseed {t : Template} (ht : t.Steady) (w : World) (key : Key) (s : Sprite) (action : Action)
    (rng rng' : Random) (seed : UInt64) :
    plan (w.reseed rng' seed) key s t action rng' = ((plan w key s t action rng).1, rng') := by
  have hcls := ht.cls
  unfold plan
  cases h : t.cls with
  | spawnPoint => exact emit_of_not_lt (ht.spawns h) s rng rng'
  | randomMissile | randomNpc | chaser | fleeing | pathChaser =>
    rw [h] at hcls
    exact absurd hcls (by decide)
  | horizontalAvatar =>
    dsimp only
    split <;> rfl
  | shootAvatar =>
    dsimp only
    split <;> rfl
  | _ => rfl

end Command

namespace World

section Certain

variable {w : World} (h : w.rules.Certain) (rng : Random) (seed : UInt64)

include h

theorem ordersOf_reseed (action : Action) (l : List (Key × Sprite)) (rng' : Random) :
    (w.reseed rng seed).ordersOf action l rng = ((w.ordersOf action l rng').1, rng) := by
  induction l generalizing rng' with
  | nil => rfl
  | cons e l ih =>
    obtain ⟨key, s⟩ := e
    unfold ordersOf
    rw [rules_reseed]
    cases ht : w.rules.template? key.type with
    | none => exact ih rng'
    | some t =>
      have hsteady : t.Steady := h.templates t (Array.mem_of_getElem? ht)
      dsimp only
      rw [Command.plan_reseed hsteady w key s action rng' rng seed]
      dsimp only
      rw [ih (Command.plan w key s t action rng').2]

omit h in
theorem edits_reseed (w : World) (es : List Edit) : (w.reseed rng seed).edits es = (w.edits es).reseed rng seed := by
  induction es generalizing w with
  | nil => rfl
  | cons e es ih =>
    rw [edits_cons, edits_cons, ← ih]
    cases e <;> rfl

theorem moved_reseed (action : Action) :
    (w.reseed rng seed).moved action = (w.moved action).reseed rng seed := by
  have horders : (w.reseed rng seed).orders action = ((w.orders action).1, rng) :=
    ordersOf_reseed h rng seed action w.live w.rng
  rw [moved_eq, moved_eq]
  unfold counted
  rw [horders]
  exact edits_reseed rng seed (w.counted action).startTick _

end Certain

end World

/-! ## Rules -/

namespace Effect

/-- The answer of an effect with another generator. -/
def withRandom (rng : Random) (answer : Option (List Edit × Random)) : Option (List Edit × Random) :=
  answer.map fun r => (r.1, rng)

theorem provided_reseed (w : World) (condition : Bool) (es : List Edit) (rng : Random) (seed : UInt64) :
    provided (w.reseed rng seed) condition es = withRandom rng (provided w condition es) := by
  unfold provided
  split <;> rfl

section Reseed

variable {e : Effect} (he : e.isStochastic = false) (w : World) (rng : Random) (seed : UInt64)

include he

theorem alone_reseed (key : Key) (s : Sprite) (second : Option Key) :
    e.alone (w.reseed rng seed) key s second = withRandom rng (e.alone w key s second) := by
  cases e with
  | flipDirection => cases he
  | killIfHasMore | killIfHasLess | spawnIfHasMore => exact provided_reseed ..
  | _ => rfl

theorem between_reseed (key : Key) (s : Sprite) (otherKey : Key) (other : Sprite) :
    e.between (w.reseed rng seed) key s otherKey other = withRandom rng (e.between w key s otherKey other) := by
  cases e with
  | teleportToExit | attractGaze => cases he
  | killIfOtherHasMore | killIfFromAbove => exact provided_reseed ..
  | collectResource | bounceForward =>
    unfold between
    rw [World.rules_reseed]
    cases w.rules.template? key.type with
    | none => rfl
    | some t => exact provided_reseed ..
  | _ => rfl

/-- An effect that is not counted as random answers alike whatever the generator, and gives
back the one that it was given. -/
theorem edits?_reseed (first second : Option Key) :
    e.edits? (w.reseed rng seed) first second = withRandom rng (e.edits? w first second) := by
  cases first with
  | none => rfl
  | some key =>
    unfold edits?
    show (w.sprite? key).bind _ = withRandom rng ((w.sprite? key).bind _)
    cases w.sprite? key with
    | none => rfl
    | some s =>
      dsimp only [Option.bind_some]
      split
      · cases second with
        | none => rfl
        | some other =>
          show (w.sprite? other).bind _ = withRandom rng ((w.sprite? other).bind _)
          cases w.sprite? other with
          | none => rfl
          | some o => exact between_reseed he w rng seed key s other o
      · exact alone_reseed he w rng seed key s second

theorem apply_reseed (first second : Option Key) :
    e.apply (w.reseed rng seed) first second =
      ((e.apply w first second).1, (e.apply w first second).2.reseed rng seed) := by
  have hedits := edits?_reseed he w rng seed first second
  cases h : e.edits? w first second with
  | none =>
    rw [h] at hedits
    rw [apply_of_none h, apply_of_none hedits]
  | some answer =>
    obtain ⟨es, rng'⟩ := answer
    rw [h] at hedits
    rw [apply_of_some h, apply_of_some hedits]
    exact congrArg (Prod.mk true) (World.edits_reseed rng seed { w with rng := rng' } es)

end Reseed

end Effect

namespace World

/-- A rule that is certain does not draw on whether to happen. -/
theorem applyRule_of_not_lt {r : Interaction} (hr : ¬ r.prob < 1) (w : World) (c : Collision) :
    w.applyRule c r =
      let result := r.effect.apply w (some c.first) c.second
      if result.1 then { result.2 with pendingScore := result.2.pendingScore + r.score } else result.2 := by
  unfold applyRule
  rw [Random.chance_of_not_lt hr]
  rfl

theorem applyRule_reseed {r : Interaction} (hr : r.isStochastic = false) (w : World) (c : Collision)
    (rng : Random) (seed : UInt64) :
    (w.reseed rng seed).applyRule c r = (w.applyRule c r).reseed rng seed := by
  obtain ⟨hprob, heffect⟩ := Bool.or_eq_false_iff.1 hr
  have hcertain : ¬ r.prob < 1 := of_decide_eq_false hprob
  rw [applyRule_of_not_lt hcertain, applyRule_of_not_lt hcertain, Effect.apply_reseed heffect]
  cases r.effect.apply w (some c.first) c.second with
  | mk done v => cases done <;> rfl

theorem fireEntry_reseed {e : Entry} (he : e.2.isStochastic = false) (w : World) (rng : Random) (seed : UInt64) :
    (w.reseed rng seed).fireEntry e = (w.fireEntry e).reseed rng seed := by
  unfold fireEntry fireRule
  show (if e.1.holds w then _ else _) = _
  split
  · exact applyRule_reseed he w e.1 rng seed
  · rfl

theorem fireAll_reseed {w : World} (h : w.rules.Certain) (cs : List Collision) (rng : Random) (seed : UInt64) :
    (w.reseed rng seed).fireAll cs = (w.fireAll cs).reseed rng seed := by
  rw [fireAll_eq, fireAll_eq]
  show List.foldl fireEntry _ (w.agenda cs) = _
  have hagenda : ∀ e ∈ w.agenda cs, e.2.isStochastic = false :=
    fun e he => h.rules e.2 (mem_interactions_of_mem_agenda he)
  generalize w.agenda cs = es at hagenda
  induction es generalizing w with
  | nil => rfl
  | cons e es ih =>
    obtain ⟨he, hes⟩ := List.forall_mem_cons.1 hagenda
    rw [List.foldl_cons, List.foldl_cons, fireEntry_reseed he]
    exact ih ((ensues_fireRule w e.1 e.2).rules ▸ h) hes

/-! ## The end of a tick -/

theorem foldl_instantiate_reseed (rs : List SpawnRequest) (w : World) (rng : Random) (seed : UInt64) :
    rs.foldl instantiate (w.reseed rng seed) = (rs.foldl instantiate w).reseed rng seed := by
  induction rs generalizing w with
  | nil => rfl
  | cons r rs ih =>
    have hhead : (w.reseed rng seed).instantiate r = (w.instantiate r).reseed rng seed := by
      unfold instantiate
      rw [rules_reseed]
      cases w.rules.template? r.type with
      | none => rfl
      | some t =>
        show (if w.admits t r.type then _ else _) = World.reseed (if w.admits t r.type then _ else _) rng seed
        split <;> rfl
    rw [List.foldl_cons, List.foldl_cons, hhead, ih]

theorem commit_reseed (w : World) (rng : Random) (seed : UInt64) :
    (w.reseed rng seed).commit = w.commit.reseed rng seed :=
  foldl_instantiate_reseed w.spawns w.settle rng seed

theorem judge_reseed (w : World) (rng : Random) (seed : UInt64) :
    (w.reseed rng seed).judge = w.judge.reseed rng seed := by
  unfold judge
  rw [decisive?_reseed]
  cases w.decisive? with
  | some t => rfl
  | none =>
    show (if w.rules.maxTicks.any (· ≤ w.tick) then _ else _) =
      World.reseed (if w.rules.maxTicks.any (· ≤ w.tick) then _ else _) rng seed
    split <;> rfl

/-- A tick of a game without chance does not see the generator. -/
theorem step_reseed {w : World} (h : w.rules.Certain) (action : Action) (rng : Random) (seed : UInt64) :
    (w.reseed rng seed).step action = (w.step action).reseed rng seed := by
  have hmoved : (w.moved action).rules.Certain := (ensues_moved w action).rules ▸ h
  unfold step resolved
  dsimp only
  rw [moved_reseed h]
  show (World.commit (World.fireAll _ (w.moved action).detect)).judge = _
  rw [fireAll_reseed hmoved, commit_reseed, judge_reseed]

/-! ## Episodes -/

section Certain

variable {w : World} (h : w.rules.Certain) (rng : Random) (seed : UInt64)

include h

theorem advance_reseed (action : Action) :
    (w.reseed rng seed).advance action = (w.advance action).map (·.reseed rng seed) := by
  unfold advance
  show (if w.outcome.isOver then _ else _) = _
  split
  · rfl
  · exact congrArg Except.ok (step_reseed h action rng seed)

omit h in
theorem rules_attempt (w : World) (action : Action) : (w.attempt action).rules = w.rules := by
  rcases attempt_cases w action with hw | hadv
  · rw [hw]
  · rw [← (advance_eq_ok_iff.1 hadv).2, rules_step]

theorem attempt_reseed (action : Action) :
    (w.reseed rng seed).attempt action = (w.attempt action).reseed rng seed := by
  unfold attempt
  rw [advance_reseed h]
  cases w.advance action <;> rfl

theorem run_reseed (actions : List Action) :
    (w.reseed rng seed).run actions = (w.run actions).reseed rng seed := by
  induction actions generalizing w with
  | nil => rfl
  | cons action actions ih =>
    have hrules : (w.attempt action).rules = w.rules := rules_attempt w action
    show ((w.reseed rng seed).attempt action).run actions = _
    rw [attempt_reseed h]
    exact ih (hrules ▸ h)

end Certain

theorem withActions_reseed (w : World) (rng : Random) (seed : UInt64) :
    (w.reseed rng seed).withActions = w.withActions.reseed rng seed := rfl

/-- Building a world does not see the generator. -/
theorem build_reseed (rules : Ruleset) (level : String) (seed seed' : UInt64) :
    (build rules level seed).map (·.reseed (.ofSeed seed') seed') = build rules level seed' := by
  unfold build
  dsimp only
  generalize Level.rows level.toList = rows
  cases Level.undefinedSymbols rules rows with
  | nil =>
    generalize Level.requests rules rows = requests
    generalize Level.bounds rules.blockSize rows = bounds
    have hbare : bare rules seed' bounds = (bare rules seed bounds).reseed (.ofSeed seed') seed' := rfl
    rw [hbare, foldl_instantiate_reseed, withActions_reseed]
    rfl
  | cons symbol symbols => rfl

/-- From another seed a level gives the same start. -/
theorem reseed_of_build {rules : Ruleset} {level : String} {seed seed' : UInt64} {start start' : World}
    (h : build rules level seed = .ok start) (h' : build rules level seed' = .ok start') :
    start.reseed (.ofSeed seed') seed' = start' := by
  have hbuild := build_reseed rules level seed seed'
  rw [h, h'] at hbuild
  exact Except.ok.inj hbuild

/-- Games without chance do not depend on the seed. From two seeds a level gives the same
world, or the same problems. After the same actions the two worlds agree but for seed and
generator, neither generator has been advanced, and the next action is taken or refused
alike. And a rule that is not counted as random does not draw in any world. -/
theorem seed_independence {d : Description} {settings : Settings}
    (hcertain : (Ruleset.compile d settings).value.Certain) (level : String) (seed seed' : UInt64) :
    let rules := (Ruleset.compile d settings).value
    (build rules level seed).map (·.reseed (.ofSeed seed') seed') = build rules level seed' ∧
    (∀ start start', build rules level seed = .ok start → build rules level seed' = .ok start' →
      ∀ actions : List Action,
        let w := start.run actions
        let w' := start'.run actions
        w' = w.reseed (.ofSeed seed') seed' ∧ w.rng = .ofSeed seed ∧ w'.rng = .ofSeed seed' ∧
        ∀ action, w'.advance action = (w.advance action).map (·.reseed (.ofSeed seed') seed')) ∧
    ∀ rule : Interaction, rule.isStochastic = false → ∀ (w : World) (c : Collision) (rng : Random),
      (w.reseed rng seed').applyRule c rule = (w.applyRule c rule).reseed rng seed' ∧
        (w.applyRule c rule).rng = w.rng := by
  intro rules
  refine ⟨build_reseed rules level seed seed', ?_, ?_⟩
  · intro start start' hstart hstart' actions w w'
    have hrules : start.rules.Certain := (Reachable.start hstart).rules ▸ hcertain
    have hrules' : w.rules.Certain := ((Reachable.start hstart).run actions).rules ▸ hcertain
    have hw' : w' = w.reseed (.ofSeed seed') seed' := by
      show start'.run actions = _
      rw [← reseed_of_build hstart hstart', run_reseed hrules]
    have hw : w = w.reseed (.ofSeed seed) seed := by
      rw [← run_reseed hrules, reseed_of_build hstart hstart]
    refine ⟨hw', congrArg World.rng hw, congrArg World.rng hw', fun action => ?_⟩
    rw [hw']
    exact advance_reseed hrules' _ _ action
  · intro rule hrule w c rng
    have hown : w.applyRule c rule = (w.applyRule c rule).reseed w.rng w.seed :=
      applyRule_reseed hrule w c w.rng w.seed
    refine ⟨applyRule_reseed hrule w c rng seed', ?_⟩
    rw [hown]
    rfl

/-- On the errand, where bats are spawned for certain, seeds do not matter. -/
theorem seed_independence_errand :
    ∃ start start', build (Ruleset.compile errand .default).value "n\nA g" 7 = .ok start ∧
      build (Ruleset.compile errand .default).value "n\nA g" 8 = .ok start' ∧
      start'.run [.right, .right] = (start.run [.right, .right]).reseed (.ofSeed 8) 8 := by
  have hcertain : (Ruleset.compile errand .default).value.Certain :=
    ⟨by decide +kernel, by decide +kernel⟩
  obtain ⟨hbuild, hrun, -⟩ := seed_independence hcertain "n\nA g" 7 8
  obtain ⟨start, h, -⟩ := @exists_start (Ruleset.compile errand .default).value "n\nA g" 7 (fun _ => true)
    (by decide +kernel)
  rw [h] at hbuild
  exact ⟨start, _, h, hbuild.symm, (hrun start _ h hbuild.symm [.right, .right]).1⟩

end World

end SpriteGame
