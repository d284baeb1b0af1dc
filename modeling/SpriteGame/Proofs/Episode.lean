import SpriteGame.Proofs.Commit
import SpriteGame.World.Level
/-!
# Episodes

An episode starts with the world of a level and goes on tick by tick until it is over.
`Reachable` is every world of an episode, `run` the world after any list of actions,
also of actions that come too late and are refused. What new sprites have and no change
takes from them, all sprites of an episode have (`Reachable.all`).
-/
namespace SpriteGame

namespace World

/-! ## Runs -/

/-- The worlds of the episodes of a rule set. -/
inductive Reachable (rules : Ruleset) : World → Prop
  | start {level : String} {seed : UInt64} {w : World} :
      build rules level seed = .ok w → Reachable rules w
  | tick {w v : World} {action : Action} :
      Reachable rules w → w.advance action = .ok v → Reachable rules v

theorem advance_eq_ok_iff {w v : World} {action : Action} :
    w.advance action = .ok v ↔ w.outcome.isOver = false ∧ w.step action = v := by
  unfold advance
  cases w.outcome.isOver <;> simp

/-- The world after an action of the player. A refused action changes nothing. -/
def attempt (w : World) (action : Action) : World :=
  match w.advance action with
  | .ok v => v
  | .error _ => w

/-- The world after actions of the player. -/
def run (w : World) (actions : List Action) : World := actions.foldl attempt w

theorem attempt_cases (w : World) (action : Action) :
    w.attempt action = w ∨ w.advance action = .ok (w.attempt action) := by
  unfold attempt
  generalize w.advance action = result
  cases result with
  | error e => exact .inl rfl
  | ok v => exact .inr rfl

theorem Reachable.attempt {rules : Ruleset} {w : World} (h : Reachable rules w) (action : Action) :
    Reachable rules (w.attempt action) := by
  rcases attempt_cases w action with hw | hadv
  · rw [hw]
    exact h
  · exact h.tick hadv

theorem Reachable.run {rules : Ruleset} {w : World} (h : Reachable rules w) (actions : List Action) :
    Reachable rules (w.run actions) := by
  induction actions generalizing w with
  | nil => exact h
  | cons action actions ih => exact ih (h.attempt action)

/-! ## Starts -/

theorem plain_of_mem_requests {rules : Ruleset} {rows : List (List Char)} {r : SpawnRequest}
    (h : r ∈ Level.requests rules rows) : ∃ type center, r = .plain type center := by
  obtain ⟨cell, -, hr⟩ := List.mem_flatMap.1 h
  obtain ⟨type, -, rfl⟩ := List.mem_map.1 hr
  exact ⟨type, cell.2, rfl⟩

/-- A built world has been made from plain requests, in the world without sprites. -/
theorem eq_of_build_plain {rules : Ruleset} {level : String} {seed : UInt64} {w : World}
    (h : build rules level seed = .ok w) :
    ∃ bounds requests, w = (List.foldl instantiate (bare rules seed bounds) requests).withActions ∧
      ∀ r ∈ requests, ∃ type center, r = .plain type center := by
  unfold build at h
  dsimp only at h
  split at h
  · exact ⟨_, _, (Except.ok.inj h).symm, fun _ => plain_of_mem_requests⟩
  · cases h

theorem eq_of_build {rules : Ruleset} {level : String} {seed : UInt64} {w : World}
    (h : build rules level seed = .ok w) :
    ∃ bounds requests, w = (List.foldl instantiate (bare rules seed bounds) requests).withActions := by
  obtain ⟨bounds, requests, hw, -⟩ := eq_of_build_plain h
  exact ⟨bounds, requests, hw⟩

theorem group_bare (rules : Ruleset) (seed : UInt64) (bounds : Rect) (type : TypeId) :
    (bare rules seed bounds).group type = [] := by
  unfold group bare
  dsimp only
  rw [Array.getElem?_replicate]
  split <;> rfl

theorem nextId_withActions (w : World) : w.withActions.nextId = w.nextId := rfl

theorem group_withActions (w : World) (type : TypeId) : w.withActions.group type = w.group type := rfl

theorem extends_withActions (w : World) : w.Extends w.withActions := { Extends.refl w with }

theorem Reachable.rules {rules : Ruleset} {w : World} (h : Reachable rules w) : w.rules = rules := by
  induction h with
  | start h =>
    obtain ⟨bounds, requests, rfl⟩ := eq_of_build h
    exact (extends_foldl_instantiate requests _).rules
  | tick _ hadv ih =>
    obtain ⟨-, rfl⟩ := advance_eq_ok_iff.1 hadv
    exact (rules_step _ _).trans ih

/-! ## Properties of sprites -/

/-- All sprites of a world have a property. -/
def All (P : TypeId → Sprite → Prop) (w : World) : Prop := ∀ type, ∀ s ∈ w.group type, P type s

theorem mem_group_iff {w : World} {type : TypeId} {s : Sprite} :
    s ∈ w.group type ↔ ∃ index, w.sprite? ⟨type, index⟩ = some s := by
  simp only [sprite?_eq]
  exact List.mem_iff_getElem?

theorem all_modify {P : TypeId → Sprite → Prop} {w : World} (h : w.All P) (key : Key) {f : Sprite → Sprite}
    (hf : ∀ type s, P type s → P type (f s)) : (w.modify key f).All P := by
  intro type s hs
  obtain ⟨index, hs⟩ := mem_group_iff.1 hs
  rw [sprite?_modify] at hs
  split at hs
  · obtain ⟨t, ht, rfl⟩ := Option.map_eq_some_iff.1 hs
    exact hf type t (h type t (mem_group_iff.2 ⟨index, ht⟩))
  · exact h type s (mem_group_iff.2 ⟨index, hs⟩)

theorem mem_group_create {w : World} {type other : TypeId} {s t : Sprite}
    (h : t ∈ (w.create type s).group other) : t ∈ w.group other ∨ other = type ∧ t = s := by
  by_cases hlt : type < w.groups.size
  · rw [group_create w hlt] at h
    split at h
    · next ho =>
      rcases List.mem_append.1 h with h | h
      · exact .inl h
      · exact .inr ⟨ho, List.mem_singleton.1 h⟩
    · exact .inl h
  · rw [group_create_of_le w (Nat.le_of_not_lt hlt)] at h
    exact .inl h

/-- Whoever is there after requests was there before or has been made of one. -/
theorem mem_group_foldl_instantiate {w : World} {rs : List SpawnRequest} {type : TypeId} {s : Sprite}
    (h : s ∈ (rs.foldl instantiate w).group type) :
    s ∈ w.group type ∨ ∃ r ∈ rs, ∃ t id, r.type = type ∧ w.rules.template? type = some t ∧
      s = r.make id w.blockSize t := by
  induction rs generalizing w with
  | nil => exact .inl h
  | cons r rs ih =>
    rcases ih h with h | ⟨r', hr', t, id, htype, ht, hmade⟩
    · rcases instantiate_cases w r with hw | ⟨t, ht, hw⟩ <;> rw [hw] at h
      · exact .inl h
      · rcases mem_group_create h with h | ⟨rfl, hmade⟩
        · exact .inl h
        · exact .inr ⟨r, List.mem_cons_self, t, w.nextId, rfl, ht, hmade⟩
    · have hrules := (extends_instantiate w r).rules
      have hblock : (w.instantiate r).blockSize = w.blockSize := congrArg Ruleset.blockSize hrules
      exact .inr ⟨r', List.mem_cons_of_mem r hr', t, id, htype, hrules ▸ ht, hblock ▸ hmade⟩

theorem mem_group_step_cases {w : World} {action : Action} {type : TypeId} {s : Sprite}
    (h : s ∈ (w.step action).group type) :
    s ∈ (w.resolved action).group type ∨ ∃ r ∈ (w.resolved action).spawns, ∃ t id, r.type = type ∧
      w.rules.template? type = some t ∧ s = r.make id w.blockSize t := by
  have hsame : (w.resolved action).settle.rules = w.rules := (ensues_resolved w action).rules
  have hblock : (w.resolved action).settle.blockSize = w.blockSize := congrArg Ruleset.blockSize hsame
  unfold step commit at h
  rw [group_judge] at h
  rcases mem_group_foldl_instantiate h with h | ⟨r, hr, t, id, htype, ht, hmade⟩
  · rw [group_settle] at h
    exact .inl (List.mem_filter.1 h).1
  · exact .inr ⟨r, hr, t, id, htype, hsame ▸ ht, hblock ▸ hmade⟩

end World

/-- A property that sprites have from their making on, whatever happens to them. -/
structure Ruleset.Lasting (rules : Ruleset) (P : TypeId → Sprite → Prop) : Prop where
  make : ∀ (r : SpawnRequest) (id : Nat) (t : Template), rules.template? r.type = some t →
    P r.type (r.make id rules.blockSize t)
  startTick : ∀ type s, P type s → P type s.startTick
  remove : ∀ type s, P type s → P type s.remove
  change : ∀ type s c, P type s → P type (s.change c)

namespace World

section Lasting

variable {rules : Ruleset} {P : TypeId → Sprite → Prop} (hP : rules.Lasting P)

include hP

theorem all_edit {w : World} (h : w.All P) (e : Edit) : (w.edit e).All P := by
  cases e with
  | kill key => exact all_modify h key hP.remove
  | change key cs =>
    refine all_modify h key fun type s hs => ?_
    induction cs generalizing s with
    | nil => exact hs
    | cons c cs ih => exact ih _ (hP.change type s c hs)
  | spawn r => exact h

theorem all_edits {w : World} (h : w.All P) (es : List Edit) : (w.edits es).All P := by
  induction es generalizing w with
  | nil => exact h
  | cons e es ih => exact ih (all_edit hP h e)

theorem all_moved {w : World} (h : w.All P) (action : Action) : (w.moved action).All P := by
  rw [moved_eq]
  refine all_edits hP (fun type s hs => ?_) _
  rw [group_startTick] at hs
  obtain ⟨t, ht, rfl⟩ := List.mem_map.1 hs
  exact hP.startTick type t (h type t ht)

theorem all_fireAll {w : World} (h : w.All P) (cs : List Collision) : (w.fireAll cs).All P := by
  have hfiring : Firing fun v u => v.All P → u.All P :=
    ⟨fun _ => id, fun h h' => h' ∘ h, fun _ _ _ => id⟩
  refine hfiring.fireAll (fun r _ v c _ hv => ?_) cs h
  unfold Effect.apply
  split
  · exact hv
  · next es rng _ => exact all_edits hP (show ({ v with rng } : World).All P from hv) es

theorem all_foldl_instantiate (rs : List SpawnRequest) {w : World} (hrules : w.rules = rules) (h : w.All P) :
    (rs.foldl instantiate w).All P := by
  induction rs generalizing w with
  | nil => exact h
  | cons r rs ih =>
    refine ih ((extends_instantiate w r).rules.trans hrules) ?_
    rcases instantiate_cases w r with hw | ⟨t, ht, hw⟩ <;> rw [hw]
    · exact h
    · intro type s hs
      rcases mem_group_create hs with hs | ⟨rfl, rfl⟩
      · exact h type s hs
      · have hblock : w.blockSize = rules.blockSize := congrArg Ruleset.blockSize hrules
        rw [hblock]
        exact hP.make r w.nextId t (hrules ▸ ht)

theorem all_step {w : World} (hrules : w.rules = rules) (h : w.All P) (action : Action) :
    (w.step action).All P := by
  have hresolved : (w.resolved action).All P := all_fireAll hP (all_moved hP h action) _
  intro type s hs
  unfold step at hs
  rw [group_judge] at hs
  -- What is committed was resolved, or has been made from a request.
  refine all_foldl_instantiate hP _ ?_ (fun type s hs => ?_) type s hs
  · rw [rules_settle, (ensues_resolved w action).rules, rules_counted, hrules]
  · rw [group_settle] at hs
    exact hresolved type s (List.mem_filter.1 hs).1

/-- All sprites of an episode have what is lasting. -/
theorem Reachable.all {w : World} (h : Reachable rules w) : w.All P := by
  induction h with
  | start h =>
    obtain ⟨bounds, requests, rfl⟩ := eq_of_build h
    refine all_foldl_instantiate hP requests rfl fun type s hs => ?_
    rw [group_bare] at hs
    cases hs
  | tick hw hadv ih =>
    obtain ⟨-, rfl⟩ := advance_eq_ok_iff.1 hadv
    exact all_step hP hw.rules ih _

end Lasting

/-! ## A small game -/

/-- An avatar between walls, which stop it, as the screen edge does. -/
def corridor : Description :=
  { Description.empty with
    sprites := [
      ⟨"wall", some "Immovable", .empty, [], 1⟩,
      ⟨"avatar", some "MovingAvatar", .empty, [], 2⟩]
    interactions := [
      ⟨"avatar", "wall", "stepBack", .empty, 3⟩,
      ⟨"avatar", "EOS", "stepBack", .empty, 4⟩] }

/-- An avatar that collects gems, while a nest sends bats off the screen. -/
def errand : Description :=
  { Description.empty with
    sprites := [
      ⟨"gem", some "Resource", .empty, [], 1⟩,
      ⟨"bat", some "Missile", .ofList [("orientation", "LEFT")], [], 2⟩,
      ⟨"nest", some "SpawnPoint", .ofList [("stype", "bat")], [], 3⟩,
      ⟨"avatar", some "MovingAvatar", .empty, [], 4⟩]
    interactions := [
      ⟨"gem", "avatar", "collectResource", .ofList [("scoreChange", "2")], 5⟩,
      ⟨"bat", "EOS", "killSprite", .ofList [("scoreChange", "1")], 6⟩]
    terminations := [
      ⟨"SpriteCounter", .ofList [("stype", "gem"), ("win", "True"), ("scoreChange", "5")], 7⟩]
    levelMapping := .ofList [('g', ["gem"]), ('n', ["nest"])] }

/-- The start of an episode, with what can be checked of it. -/
theorem exists_start {rules : Ruleset} {level : String} {seed : UInt64} {P : World → Bool}
    (h : (build rules level seed).toOption.any P = true) :
    ∃ start, build rules level seed = .ok start ∧ P start = true := by
  generalize build rules level seed = result at h
  cases result with
  | error e => cases h
  | ok start => exact ⟨start, rfl, h⟩

/-- The start of an episode in the corridor, with what can be checked of it. -/
theorem exists_start_corridor {P : World → Bool}
    (h : (build (Ruleset.compile corridor .default).value "wA w" 7).toOption.any P = true) :
    ∃ start, build (Ruleset.compile corridor .default).value "wA w" 7 = .ok start ∧ P start = true :=
  exists_start h

end World

end SpriteGame
