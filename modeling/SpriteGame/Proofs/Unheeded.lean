import SpriteGame.Proofs.Episode
/-!
# Input that nobody heeds

Which actions the avatars react to is written down twice: as the lists of the classes
(`SpriteClass.actions`), which a player is offered, and in what each class decides
(`Command.plan`). The lists leave nothing out: an action on none of the lists of the live
sprites is as good as idling, in a tick (`advance_unheeded`) and so in a run, which goes by
what is heard of its actions.
-/
namespace SpriteGame

namespace Action

/-- The actions that point somewhere. -/
def steering : List Action := [up, down, left, right]

theorem direction_of_not_steering {action : Action} (h : action ∉ steering) : action.direction = idle.direction := by
  cases action with
  | idle | use => rfl
  | _ => exact absurd (by decide) h

end Action

namespace SpriteClass

/-- Only avatars react to actions. -/
theorem role_of_mem_actions {c : SpriteClass} {action : Action} (h : action ∈ c.actions) : c.role = .avatar := by
  cases c with
  | movingAvatar | horizontalAvatar | orientedAvatar | ongoingAvatar | shootAvatar => rfl
  | _ => cases h

end SpriteClass

/-! ## Decisions -/

namespace Command

theorem turnAndMove_of_not_steering (p : Physics) {action : Action} (h : action ∉ Action.steering) :
    turnAndMove p action = turnAndMove p .idle := by
  unfold turnAndMove
  rw [Action.direction_of_not_steering h]

/-- A sprite takes an action that its class does not list for idling. -/
theorem plan_of_not_mem_actions (w : World) (key : Key) (s : Sprite) {t : Template} {action : Action}
    (h : action ∉ t.cls.actions) (rng : Random) : plan w key s t action rng = plan w key s t .idle rng := by
  unfold plan
  cases hcls : t.cls with
  | movingAvatar | ongoingAvatar =>
    rw [hcls] at h
    rw [Action.direction_of_not_steering h]
  | orientedAvatar =>
    rw [hcls] at h
    rw [turnAndMove_of_not_steering t.physics h]
  | horizontalAvatar =>
    rw [hcls] at h
    have hsideways : ¬(action = .left ∨ action = .right) := by simpa [SpriteClass.actions] using h
    dsimp only
    rw [if_neg hsideways, if_neg (by decide)]
  | shootAvatar =>
    rw [hcls] at h
    obtain ⟨huse, hsteering⟩ := not_or.1 ((not_congr List.mem_cons).1 h)
    dsimp only
    rw [if_neg huse, if_neg (by decide), turnAndMove_of_not_steering t.physics hsteering]
  | _ => rfl

end Command

namespace World

/-! ## Worlds -/

/-- Whether an action is on the list of some live sprite. -/
def heeds (w : World) (action : Action) : Bool :=
  w.live.any fun (key, _) => (w.rules.template? key.type).any (·.cls.actions.contains action)

theorem heeds_iff {w : World} {action : Action} :
    w.heeds action = true ↔
      ∃ e ∈ w.live, ∃ t, w.rules.template? e.1.type = some t ∧ action ∈ t.cls.actions := by
  simp only [heeds, List.any_eq_true, Option.any_eq_true, List.contains_iff_mem]

/-- Without a live avatar nobody heeds the player. -/
theorem heeds_of_no_avatar {w : World} (h : w.avatar? = none) (action : Action) : w.heeds action = false := by
  rw [Bool.eq_false_iff, Ne, heeds_iff]
  rintro ⟨e, he, t, ht, haction⟩
  have havatar : e ∈ w.liveWithRole .avatar := by
    refine List.mem_filter.2 ⟨he, ?_⟩
    show (w.rules.template? e.1.type).any (fun t => decide (t.role = .avatar)) = true
    rw [ht, Option.any_some, decide_eq_true_eq]
    exact SpriteClass.role_of_mem_actions haction
  unfold avatar? at h
  rw [Option.map_eq_none_iff, List.head?_eq_none_iff] at h
  rw [h] at havatar
  cases havatar

/-! ## Ticks -/

theorem ordersOf_congr {w : World} {a b : Action} {l : List (Key × Sprite)}
    (h : ∀ e ∈ l, ∀ t, w.rules.template? e.1.type = some t → ∀ rng,
      Command.plan w e.1 e.2 t a rng = Command.plan w e.1 e.2 t b rng) (rng : Random) :
    w.ordersOf a l rng = w.ordersOf b l rng := by
  induction l generalizing rng with
  | nil => rfl
  | cons e l ih =>
    have hrest := ih fun e he => h e (List.mem_cons_of_mem _ he)
    obtain ⟨key, s⟩ := e
    unfold ordersOf
    cases ht : w.rules.template? key.type with
    | none => exact hrest rng
    | some t =>
      dsimp only
      rw [h (key, s) List.mem_cons_self t ht, hrest]

/-- Idling in place of an action that nobody heeds makes no difference to a tick. -/
theorem step_unheeded {w : World} {action : Action} (h : w.heeds action = false) :
    w.step action = w.step .idle := by
  have horders : w.orders action = w.orders .idle := by
    refine ordersOf_congr (fun e he t ht rng => Command.plan_of_not_mem_actions w e.1 e.2 (fun haction => ?_) rng) w.rng
    rw [heeds_iff.2 ⟨e, he, t, ht, haction⟩] at h
    cases h
  unfold step resolved moved
  rw [horders]

theorem advance_eq_idle {w : World} {action : Action} (h : w.heeds action = false) :
    w.advance action = w.advance .idle := by
  unfold advance
  rw [step_unheeded h]

/-! ## Runs -/

/-- What is heard of an action. -/
def heard (w : World) (action : Action) : Action := if w.heeds action then action else .idle

/-- What is heard of actions, each in the world after those before it. -/
def heardAll (w : World) : List Action → List Action
  | [] => []
  | action :: actions => w.heard action :: (w.attempt action).heardAll actions

theorem attempt_heard (w : World) (action : Action) : w.attempt (w.heard action) = w.attempt action := by
  unfold heard
  split
  · rfl
  · next h =>
    unfold attempt
    rw [advance_eq_idle (Bool.eq_false_iff.2 h)]

theorem run_heardAll (w : World) (actions : List Action) : w.run (w.heardAll actions) = w.run actions := by
  induction actions generalizing w with
  | nil => rfl
  | cons action actions ih =>
    show (w.attempt (w.heard action)).run ((w.attempt action).heardAll actions) = (w.attempt action).run actions
    rw [attempt_heard, ih]

/-- Actions that no live sprite heeds make no difference: to a tick they are all the same,
down to the generator, and the same as idling, and without a live avatar every action is
one of them. Actions of which the same is heard lead to the same world. -/
theorem advance_unheeded (w : World) :
    (∀ a b, w.heeds a = false → w.heeds b = false → w.advance a = w.advance b) ∧
    (∀ a, w.heeds a = false → w.advance a = w.advance .idle) ∧
    (w.avatar? = none → ∀ a b, w.advance a = w.advance b) ∧
    ∀ as bs, w.heardAll as = w.heardAll bs → w.run as = w.run bs := by
  have hsame : ∀ a b, w.heeds a = false → w.heeds b = false → w.advance a = w.advance b := by
    intro a b ha hb
    rw [advance_eq_idle ha, advance_eq_idle hb]
  refine ⟨hsame, fun a ha => advance_eq_idle ha, fun havatar a b => ?_, fun as bs hheard => ?_⟩
  · exact hsame a b (heeds_of_no_avatar havatar a) (heeds_of_no_avatar havatar b)
  · rw [← run_heardAll w as, hheard, run_heardAll]

/-- The avatar of the corridor heeds going right but not using, so that using is idling;
without it going right is idling, too. -/
theorem advance_unheeded_corridor :
    ∃ start bare, build (Ruleset.compile corridor .default).value "wA w" 7 = .ok start ∧
      build (Ruleset.compile corridor .default).value "w  w" 7 = .ok bare ∧
      start.heeds .right = true ∧ start.advance .use = start.advance .idle ∧
      start.run [.use, .right, .use] = start.run [.idle, .right, .idle] ∧
      (start.run [.right]).group 2 ≠ (start.run [.idle]).group 2 ∧ bare.advance .right = bare.advance .idle := by
  obtain ⟨start, h, hcheck⟩ := @exists_start_corridor
    (fun w => decide (w.heeds .right = true ∧ w.heeds .use = false ∧
      w.heardAll [.use, .right, .use] = w.heardAll [.idle, .right, .idle] ∧
      (w.run [.right]).group 2 ≠ (w.run [.idle]).group 2)) (by decide +kernel)
  obtain ⟨hright, huse, hheard, hmoved⟩ := of_decide_eq_true hcheck
  obtain ⟨bare, hbare, hnobody⟩ := @exists_start (Ruleset.compile corridor .default).value "w  w" 7
    (fun w => decide (w.avatar? = none)) (by decide +kernel)
  exact ⟨start, bare, h, hbare, hright, (advance_unheeded start).2.1 .use huse,
    (advance_unheeded start).2.2.2 _ _ hheard, hmoved,
    (advance_unheeded bare).2.2.1 (of_decide_eq_true hnobody) .right .idle⟩

end World

end SpriteGame
