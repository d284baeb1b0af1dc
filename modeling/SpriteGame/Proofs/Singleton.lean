import SpriteGame.Proofs.Identity
/-!
# Singletons

Of a singleton type there is at most one sprite, whatever the level places and however many
of them a tick asks for: `singletons_run`. At the end of a tick the removed sprites are
dropped first, and then every request looks at what is there when its turn comes. So a live
singleton outlasts all requests for another one (`group_foldl_instantiate`), and where there
is none just one request comes about (`AtMostOne.instantiate`).
-/
namespace SpriteGame

/-- Whether the template of a type makes it a singleton. -/
def Ruleset.Singleton (rules : Ruleset) (type : TypeId) : Prop :=
  ∃ t, rules.template? type = some t ∧ t.singleton = true

namespace World

variable {w : World} {type : TypeId}

/-! ## One request -/

theorem group_create_of_ne (w : World) {other : TypeId} (h : other ≠ type) (s : Sprite) :
    (w.create other s).group type = w.group type := by
  by_cases hlt : other < w.groups.size
  · rw [group_create w hlt, if_neg h.symm]
  · exact group_create_of_le w (Nat.le_of_not_lt hlt) s type

theorem group_instantiate_of_ne (w : World) {r : SpawnRequest} (h : r.type ≠ type) :
    (w.instantiate r).group type = w.group type := by
  rcases instantiate_cases w r with hw | ⟨t, -, hw⟩ <;> rw [hw]
  exact group_create_of_ne w h _

/-- While a singleton is there no other one is made. -/
theorem group_instantiate_of_live (hsingle : w.rules.Singleton type) (hlive : ∃ s ∈ w.group type, s.alive = true)
    (r : SpawnRequest) : (w.instantiate r).group type = w.group type := by
  by_cases htype : r.type = type
  · subst htype
    obtain ⟨t, ht, hone⟩ := hsingle
    have hrefused : w.admits t r.type = false := by simp [admits, hone, hlive]
    simp [instantiate, ht, hrefused]
  · exact group_instantiate_of_ne w htype

/-! ## All requests -/

/-- There is at most one sprite of a type, and it is alive. -/
structure AtMostOne (w : World) (type : TypeId) : Prop where
  length : (w.group type).length ≤ 1
  alive : ∀ s ∈ w.group type, s.alive = true

theorem AtMostOne.instantiate (h : w.AtMostOne type) (hsingle : w.rules.Singleton type) (r : SpawnRequest) :
    (w.instantiate r).AtMostOne type := by
  cases hgroup : w.group type with
  | cons s rest =>
    have hsame : (w.instantiate r).group type = w.group type := by
      refine group_instantiate_of_live hsingle ⟨s, ?_, h.alive s ?_⟩ r <;> simp [hgroup]
    exact ⟨hsame ▸ h.length, hsame ▸ h.alive⟩
  | nil =>
    -- There is none yet: what the group has after the request is the sprite that it makes.
    rcases instantiate_cases w r with hw | ⟨t, -, hw⟩ <;> rw [hw]
    · exact h
    · by_cases hlt : r.type < w.groups.size
      · constructor <;> rw [group_create w hlt, hgroup] <;> split <;> simp [r.alive_make]
      · constructor <;> rw [group_create_of_le w (Nat.le_of_not_lt hlt), hgroup] <;> simp

theorem AtMostOne.foldl_instantiate (rs : List SpawnRequest) {w : World} (h : w.AtMostOne type)
    (hsingle : w.rules.Singleton type) : (rs.foldl World.instantiate w).AtMostOne type := by
  induction rs generalizing w with
  | nil => exact h
  | cons r rs ih =>
    have hrules : (w.instantiate r).rules = w.rules := (extends_instantiate w r).rules
    exact ih (h.instantiate hsingle r) (hrules ▸ hsingle)

/-- A live singleton outlasts requests for its type. -/
theorem group_foldl_instantiate (rs : List SpawnRequest) {w : World} (hsingle : w.rules.Singleton type)
    (hlive : ∃ s ∈ w.group type, s.alive = true) : (rs.foldl instantiate w).group type = w.group type := by
  induction rs generalizing w with
  | nil => rfl
  | cons r rs ih =>
    have hsame : (w.instantiate r).group type = w.group type := group_instantiate_of_live hsingle hlive r
    have hrules : (w.instantiate r).rules = w.rules := (extends_instantiate w r).rules
    rw [List.foldl_cons, ih (hrules ▸ hsingle) (hsame ▸ hlive), hsame]

/-! ## Ticks -/

theorem rules_settle_resolved (w : World) (action : Action) : (w.resolved action).settle.rules = w.rules := by
  rw [rules_settle, (ensues_resolved w action).rules, rules_counted]

theorem length_group_resolved (w : World) (action : Action) (type : TypeId) :
    ((w.resolved action).group type).length = (w.group type).length := by
  have htags := congrArg List.length ((ensues_resolved w action).tags type)
  rwa [List.length_map, List.length_map] at htags

theorem AtMostOne.step (h : w.AtMostOne type) (hsingle : w.rules.Singleton type) (action : Action) :
    (w.step action).AtMostOne type := by
  have hsettle : (w.resolved action).settle.AtMostOne type := by
    constructor <;> rw [group_settle]
    · calc (((w.resolved action).group type).filter (·.alive)).length
          ≤ ((w.resolved action).group type).length := List.length_filter_le ..
        _ = (w.group type).length := length_group_resolved w action type
        _ ≤ 1 := h.length
    · intro s hs
      exact (List.mem_filter.1 hs).2
  have hcommit := hsettle.foldl_instantiate (w.resolved action).spawns (by rwa [rules_settle_resolved])
  constructor <;> unfold World.step <;> rw [group_judge]
  · exact hcommit.length
  · exact hcommit.alive

/-- A singleton that the rules of a tick leave alive is the one after the tick. -/
theorem group_step_of_live (hsingle : w.rules.Singleton type) {action : Action} {s : Sprite}
    (hs : w.group type = [s]) (hlive : (w.resolved action).isAlive ⟨type, 0⟩ = true) :
    ∃ t, (w.resolved action).sprite? ⟨type, 0⟩ = some t ∧ t.id = s.id ∧ (w.step action).group type = [t] := by
  obtain ⟨t, ht, halive⟩ := isAlive_iff.1 hlive
  have hgroup : (w.resolved action).group type = [t] := by
    have hlength := length_group_resolved w action type
    rw [sprite?_eq] at ht
    cases hg : (w.resolved action).group type with
    | nil => simp [hg] at ht
    | cons u rest => simp_all
  have htag : t.tag = s.tag := by
    have htags : ((w.resolved action).group type).map Sprite.tag = (w.group type).map Sprite.tag :=
      (ensues_resolved w action).tags type
    simpa [hgroup, hs] using htags
  have hkept : (w.resolved action).settle.group type = [t] := by
    simp [group_settle, hgroup, halive]
  refine ⟨t, ht, congrArg Prod.fst htag, ?_⟩
  unfold World.step commit
  rw [group_judge, group_foldl_instantiate _ (by rwa [rules_settle_resolved]) (by simp [hkept, halive]), hkept]

/-! ## Episodes -/

theorem Reachable.atMostOne {rules : Ruleset} (h : Reachable rules w) (hsingle : rules.Singleton type) :
    w.AtMostOne type := by
  induction h with
  | @start level seed w h =>
    obtain ⟨bounds, requests, rfl⟩ := eq_of_build h
    have hbare : (bare rules seed bounds).AtMostOne type := by constructor <;> simp [group_bare]
    have hplaced := hbare.foldl_instantiate requests hsingle
    exact ⟨hplaced.length, hplaced.alive⟩
  | tick hw hadv ih =>
    obtain ⟨-, rfl⟩ := advance_eq_ok_iff.1 hadv
    exact ih.step (hw.rules ▸ hsingle) _

/-- Singletons over a run, its start included. Of a singleton type there is at most one
sprite at any moment. If it is still alive when the rules of a tick have fired, then just
this sprite is there after the tick, with the id that it had. -/
theorem singletons_run {rules : Ruleset} {level : String} {seed : UInt64} {start : World}
    (h : build rules level seed = .ok start) (actions : List Action) (hsingle : rules.Singleton type) :
    let w := start.run actions
    (w.group type).length ≤ 1 ∧
    ∀ action v s, w.advance action = .ok v → w.group type = [s] →
      (w.resolved action).isAlive ⟨type, 0⟩ = true →
      ∃ t, (w.resolved action).sprite? ⟨type, 0⟩ = some t ∧ t.id = s.id ∧ v.group type = [t] := by
  intro w
  have hreach : Reachable rules w := (Reachable.start h).run actions
  refine ⟨(hreach.atMostOne hsingle).length, fun action v s hadv hs hlive => ?_⟩
  obtain ⟨-, rfl⟩ := advance_eq_ok_iff.1 hadv
  exact group_step_of_live (hreach.rules ▸ hsingle) hs hlive

/-- Two nests that ask for a king in every tick, of whom there is to be one only; whoever
meets the avatar goes. -/
def throne : Description :=
  { Description.empty with
    sprites := [
      ⟨"king", some "Immovable", .ofList [("singleton", "True")], [], 1⟩,
      ⟨"nest", some "SpawnPoint", .ofList [("stype", "king")], [], 2⟩,
      ⟨"avatar", some "MovingAvatar", .empty, [], 3⟩]
    interactions := [⟨"king", "avatar", "killSprite", .empty, 4⟩]
    levelMapping := .ofList [('k', ["king"]), ('n', ["nest"])] }

/-- The level asks for two kings, and the nests for two in every tick. The king of the start
stays for a tick; then he meets the avatar, and one of the two that follow him takes his place. -/
theorem singletons_run_throne :
    ∃ start, build (Ruleset.compile throne .default).value "kkA nn" 7 = .ok start ∧
      (∃ v s t, start.advance .left = .ok v ∧ start.group 1 = [s] ∧ v.group 1 = [t] ∧ t.id = s.id) ∧
      ((start.run [.left, .left]).group 1).length ≤ 1 ∧
      ((start.run [.left, .left]).group 1).map (·.id) ≠ (start.group 1).map (·.id) := by
  obtain ⟨start, h, hcheck⟩ := @exists_start (Ruleset.compile throne .default).value "kkA nn" 7
    (fun w => decide (w.outcome.isOver = false ∧ (w.group 1).length = 1 ∧
      (w.resolved .left).isAlive ⟨1, 0⟩ = true ∧
      ((w.run [.left, .left]).group 1).map (·.id) ≠ (w.group 1).map (·.id))) (by decide +kernel)
  obtain ⟨hon, hlength, hlive, hnew⟩ := of_decide_eq_true hcheck
  have hsingle : (Ruleset.compile throne .default).value.Singleton 1 := by
    have hking : ((Ruleset.compile throne .default).value.template? 1).any (·.singleton) = true := by
      decide +kernel
    simpa [Ruleset.Singleton, Option.any_eq_true] using hking
  obtain ⟨s, hs⟩ := List.length_eq_one_iff.1 hlength
  have hadv : start.advance .left = .ok (start.step .left) := advance_eq_ok_iff.2 ⟨hon, rfl⟩
  obtain ⟨t, -, hid, ht⟩ := (singletons_run h [] hsingle).2 .left _ s hadv hs hlive
  exact ⟨start, h, ⟨_, s, t, hadv, hs, ht, hid⟩, (singletons_run h [.left, .left] hsingle).1, hnew⟩

end World

end SpriteGame
