import Mathlib.Data.List.Nodup
import SpriteGame.Proofs.CarryOut
/-!
# The stream of draws

The state of the generator moves on with each draw and its increment stays the same
(`increment_step`). The increment is odd from the start, so the parity of the state changes with
every word, and whoever has drawn a direction has left another generator than it was given
(`Command.randomHeading_ne`).
-/
namespace SpriteGame

namespace Random

/-- The increment is odd. -/
def Odd (r : Random) : Prop := r.increment.toNat % 2 = 1

theorem odd_ofSeed (seed : UInt64) : (ofSeed seed).Odd := by
  unfold Odd ofSeed
  dsimp only
  rw [UInt64.toNat_or, Nat.or_mod_two_eq_one]
  exact .inr rfl

/-- The state after a word has another parity. -/
theorem word_ne {r : Random} (h : r.Odd) : r.word.2 ≠ r := by
  intro heq
  have hstate : r.state * multiplier + r.increment = r.state := congrArg state heq
  have hnat := congrArg UInt64.toNat hstate
  have hmultiplier : multiplier.toNat = 6364136223846793005 := rfl
  rw [UInt64.toNat_add, UInt64.toNat_mul, hmultiplier] at hnat
  unfold Odd at h
  omega

theorem increment_word (r : Random) : r.word.2.increment = r.increment := by
  obtain ⟨state, increment⟩ := r
  show increment = increment
  rfl

theorem increment_below (n : Nat) (r : Random) : (r.below n).2.increment = r.increment := by
  have htwice : r.word.2.word.2.increment = r.increment := (increment_word _).trans (increment_word r)
  unfold below
  dsimp only
  split
  · split
    · exact htwice
    · exact htwice
  · exact increment_word r

theorem increment_pick {α : Type} (head : α) (tail : List α) (r : Random) :
    (r.pick head tail).2.increment = r.increment := increment_below ..

theorem increment_chance (p : Float) (r : Random) : (r.chance p).2.increment = r.increment := by
  unfold chance
  split
  · exact (increment_word _).trans (increment_word r)
  · rfl

end Random

/-! ## Decisions -/

namespace Command

/-- One word decides between four directions. -/
theorem randomHeading_snd (rng : Random) : (randomHeading rng).2 = rng.word.2 := by
  have hsize : UInt32.size = 4294967296 := rfl
  show (rng.below 4).2 = rng.word.2
  unfold Random.below
  dsimp only
  rw [hsize, if_neg (by omega)]

theorem increment_randomHeading (rng : Random) : (randomHeading rng).2.increment = rng.increment :=
  Random.increment_below ..

theorem randomHeading_ne {rng : Random} (h : rng.Odd) : (randomHeading rng).2 ≠ rng := by
  rw [randomHeading_snd]
  exact Random.word_ne h

theorem increment_wander (s : Sprite) (t : Template) (rng : Random) :
    (wander s t rng).2.increment = rng.increment := by
  unfold wander
  split
  · rfl
  · exact increment_randomHeading rng

theorem increment_emit (s : Sprite) (t : Template) (rng : Random) : (emit s t rng).2.increment = rng.increment := by
  unfold emit
  split
  · rfl
  · split
    · rfl
    · split
      · rfl
      · dsimp only
        split <;> exact Random.increment_chance ..

theorem increment_chase {w : World} {key : Key} {rect : Rect} {t : Template} {flees : Bool} {rng rng' : Random}
    {h : Heading} (hchase : Pursuit.chase w key rect t flees rng = some (h, rng')) :
    rng'.increment = rng.increment := by
  unfold Pursuit.chase at hchase
  split at hchase
  · cases hchase
  · next first rest _ =>
    have hpick := Random.increment_pick first rest rng
    rwa [Option.some.inj hchase] at hpick

theorem increment_plan (w : World) (key : Key) (s : Sprite) (t : Template) (action : Action) (rng : Random) :
    (plan w key s t action rng).2.increment = rng.increment := by
  unfold plan
  cases t.cls with
  | randomMissile =>
    dsimp only [turnRandomly]
    split
    · exact increment_randomHeading rng
    · rfl
  | spawnPoint => exact increment_emit ..
  | randomNpc => exact increment_wander ..
  | chaser | fleeing =>
    dsimp only [hunt]
    split
    · next hchase => exact increment_chase hchase
    · exact increment_wander ..
  | pathChaser =>
    dsimp only [follow]
    split
    · rfl
    · exact increment_wander ..
  | horizontalAvatar | shootAvatar =>
    dsimp only
    split <;> rfl
  | _ => rfl

end Command

namespace World

theorem increment_ordersOf (w : World) (action : Action) (l : List (Key × Sprite)) (rng : Random) :
    (w.ordersOf action l rng).2.increment = rng.increment := by
  induction l generalizing rng with
  | nil => rfl
  | cons e l ih =>
    unfold ordersOf
    split
    · exact ih rng
    · exact (ih _).trans (Command.increment_plan ..)

end World

/-! ## Rules -/

namespace Effect

variable {e : Effect} {w : World} {key other : Key} {s o : Sprite} {second : Option Key} {es : List Edit}
  {rng : Random}

theorem increment_alone (h : e.alone w key s second = some (es, rng)) : rng.increment = w.rng.increment := by
  cases e <;> simp only [alone, certain_eq_some, provided_eq_some, Option.some.injEq, Prod.mk.injEq,
    reduceCtorEq] at h
  case flipDirection =>
    obtain ⟨-, rfl⟩ := h
    exact Random.increment_pick ..
  case killIfHasMore | killIfHasLess | spawnIfHasMore =>
    obtain ⟨-, -, rfl⟩ := h
    rfl
  all_goals
    obtain ⟨-, rfl⟩ := h
    rfl

theorem increment_between (h : e.between w key s other o = some (es, rng)) : rng.increment = w.rng.increment := by
  cases e <;> simp only [between, certain_eq_some, provided_eq_some, reduceCtorEq] at h
  case teleportToExit =>
    split at h
    · obtain ⟨-, rfl⟩ := Prod.mk.inj (Option.some.inj h)
      exact Random.increment_pick ..
    · cases h
  case collectResource | bounceForward =>
    split at h
    · cases h
    · obtain ⟨-, -, rfl⟩ := provided_eq_some.1 h
      rfl
  case killIfOtherHasMore | killIfFromAbove | attractGaze =>
    obtain ⟨-, -, rfl⟩ := h
    rfl
  all_goals
    obtain ⟨-, rfl⟩ := h
    rfl

theorem increment_apply (e : Effect) (w : World) (key : Key) (second : Option Key) :
    (e.apply w (some key) second).2.rng.increment = w.rng.increment := by
  obtain hsame | ⟨es, rng, hes, hedits⟩ := e.apply_cases w (some key) second
  · rw [hsame]
  · have hrng : (({ w with rng } : World).edits es).rng = rng := by rw [World.edits_eq]
    rw [hedits, hrng]
    obtain ⟨s, -, hes⟩ := edits?_eq_some.1 hes
    split at hes
    · obtain ⟨other, o, -, -, hes⟩ := hes
      exact increment_between hes
    · exact increment_alone hes

end Effect

/-! ## Ticks -/

namespace World

theorem increment_fireRule (w : World) (c : Collision) (r : Interaction) :
    (fireRule c w r).rng.increment = w.rng.increment := by
  have hchance := w.rng.increment_chance r.prob
  unfold fireRule
  split
  · have happly := r.effect.increment_apply { w with rng := (w.rng.chance r.prob).2 } c.first c.second
    unfold applyRule
    dsimp only
    split
    · split
      · exact happly.trans hchance
      · exact happly.trans hchance
    · exact hchance
  · rfl

theorem increment_fireAll (w : World) (cs : List Collision) : (w.fireAll cs).rng.increment = w.rng.increment := by
  rw [fireAll_eq]
  induction w.agenda cs generalizing w with
  | nil => rfl
  | cons e es ih =>
    rw [List.foldl_cons, ih]
    exact increment_fireRule ..

theorem rng_moved (w : World) (action : Action) : (w.moved action).rng = (w.orders action).2 := by
  rw [moved_eq]
  unfold carryOut
  rw [edits_eq]
  rfl

theorem rng_judge (w : World) : w.judge.rng = w.rng := by
  obtain ⟨outcome, score, h⟩ := judge_eq w
  rw [h]

theorem rng_commit (w : World) : w.commit.rng = w.rng :=
  frame_foldl_instantiate (fun _ _ _ => rfl) w.spawns w.settle

theorem increment_step (w : World) (action : Action) : (w.step action).rng.increment = w.rng.increment := by
  unfold step resolved
  rw [rng_judge, rng_commit]
  dsimp only
  rw [increment_fireAll, rng_moved]
  exact w.increment_ordersOf action w.live w.rng

theorem Reachable.odd_rng {rules : Ruleset} {w : World} (h : Reachable rules w) : w.rng.Odd := by
  induction h with
  | @start level seed w h =>
    obtain ⟨bounds, requests, rfl⟩ := eq_of_build h
    have hrng : (requests.foldl instantiate (bare rules seed bounds)).withActions.rng = .ofSeed seed :=
      frame_foldl_instantiate (f := World.rng) (fun _ _ _ => rfl) requests _
    rw [hrng]
    exact Random.odd_ofSeed seed
  | tick _ hadv ih =>
    obtain ⟨-, rfl⟩ := advance_eq_ok_iff.1 hadv
    unfold Random.Odd
    rw [increment_step]
    exact ih

/-! ## The generator of a decision -/

theorem odd_rngAt {w : World} (h : w.rng.Odd) (action : Action) (key : Key) : (w.rngAt action key).Odd := by
  unfold Random.Odd rngAt
  rw [increment_ordersOf]
  exact h

/-- An order is what its sprite decides with that generator. -/
theorem command_of_mem_orders {w : World} {action : Action} {o : Order} (ho : o ∈ (w.orders action).1) :
    o.command = (Command.plan w o.key o.sprite o.template action (w.rngAt action o.key)).1 := by
  obtain ⟨hlive, ht, -⟩ := mem_ordersOf ho
  have hmem := mem_orders hlive ht action
  exact congrArg Order.command (List.inj_on_of_nodup_map (w.nodup_orders action) ho hmem rfl)

end World

end SpriteGame
