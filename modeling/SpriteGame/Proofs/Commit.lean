import SpriteGame.Proofs.Compilation
import SpriteGame.Proofs.Frame
/-!
# The end of a tick

At its end a tick drops what is removed, creates what is asked for and judges the
outcome. `Extends v w` says what creating sprites does: groups only grow at their ends,
by sprites with ids that were free. So a sprite with an id that was in use before the
end of a tick has come through it (`mem_group_commit`).
-/
namespace SpriteGame

/-! ## New sprites -/

theorem SpawnRequest.tag_make (r : SpawnRequest) (id : Nat) (block : Float32) (t : Template) :
    (r.make id block t).tag = (id, t.id) := by
  unfold make
  cases r.facing <;> rfl

theorem SpawnRequest.alive_make (r : SpawnRequest) (id : Nat) (block : Float32) (t : Template) :
    (r.make id block t).alive = true := by
  unfold make
  cases r.facing <;> rfl

theorem Ruleset.Aligned.lt_size {r : Ruleset} (h : r.Aligned) {type : TypeId} {t : Template}
    (ht : r.template? type = some t) : type < r.registry.size := by
  obtain ⟨hlt, -⟩ := Array.getElem?_eq_some_iff.1 ht
  exact h.size ▸ hlt

theorem Ruleset.Aligned.exists_template {r : Ruleset} (h : r.Aligned) {type : TypeId} (hlt : type < r.registry.size) :
    ∃ t, r.template? type = some t :=
  ⟨_, Array.getElem?_eq_getElem (h.size ▸ hlt)⟩

namespace World

/-! ## Growth -/

/-- A world has all that another one has, and maybe more sprites. -/
structure Extends (v w : World) : Prop where
  rules : w.rules = v.rules
  size : w.groups.size = v.groups.size
  nextId : v.nextId ≤ w.nextId
  groups : ∀ type, ∃ new, w.group type = v.group type ++ new ∧ ∀ s ∈ new, v.nextId ≤ s.id
  spawns : w.spawns = v.spawns
  pendingScore : w.pendingScore = v.pendingScore
  bounds : w.bounds = v.bounds

theorem Extends.refl (w : World) : w.Extends w :=
  ⟨rfl, rfl, Nat.le_refl _, fun _ => ⟨[], (List.append_nil _).symm, by simp⟩, rfl, rfl, rfl⟩

theorem Extends.trans {u v w : World} (h : u.Extends v) (h' : v.Extends w) : u.Extends w where
  rules := h'.rules.trans h.rules
  size := h'.size.trans h.size
  nextId := Nat.le_trans h.nextId h'.nextId
  groups type := by
    obtain ⟨new, hnew, hids⟩ := h.groups type
    obtain ⟨new', hnew', hids'⟩ := h'.groups type
    refine ⟨new ++ new', by rw [hnew', hnew, List.append_assoc], fun s hs => ?_⟩
    rcases List.mem_append.1 hs with hs | hs
    · exact hids s hs
    · exact Nat.le_trans h.nextId (hids' s hs)
  spawns := h'.spawns.trans h.spawns
  pendingScore := h'.pendingScore.trans h.pendingScore
  bounds := h'.bounds.trans h.bounds

/-- For a type that there is not nothing is added. -/
theorem group_create_of_le (w : World) {type : TypeId} (h : w.groups.size ≤ type) (s : Sprite)
    (other : TypeId) : (w.create type s).group other = w.group other := by
  unfold create group
  dsimp only
  rw [Array.getElem?_modify]
  split
  · next heq =>
    rw [← heq, Array.getElem?_eq_none h]
    rfl
  · rfl

theorem extends_create (w : World) (type : TypeId) {s : Sprite} (hid : s.id = w.nextId) :
    w.Extends (w.create type s) where
  rules := rfl
  size := size_create ..
  nextId := Nat.le_succ _
  groups other := by
    by_cases hlt : type < w.groups.size
    · rw [group_create w hlt]
      split
      · refine ⟨[s], rfl, fun t ht => Nat.le_of_eq ?_⟩
        rw [List.mem_singleton.1 ht, hid]
      · exact ⟨[], (List.append_nil _).symm, by simp⟩
    · rw [group_create_of_le w (Nat.le_of_not_lt hlt)]
      exact ⟨[], (List.append_nil _).symm, by simp⟩
  spawns := rfl
  pendingScore := rfl
  bounds := rfl

theorem extends_instantiate (w : World) (r : SpawnRequest) : w.Extends (w.instantiate r) := by
  rcases instantiate_cases w r with h | ⟨t, -, h⟩ <;> rw [h]
  · exact .refl w
  · exact extends_create w r.type (congrArg Prod.fst (r.tag_make ..))

theorem extends_foldl_instantiate (rs : List SpawnRequest) (w : World) :
    w.Extends (rs.foldl instantiate w) := by
  induction rs generalizing w with
  | nil => exact .refl w
  | cons r rs ih => exact (extends_instantiate w r).trans (ih _)

/-- Creating sprites leaves alone all but the groups and the next id. -/
theorem frame_foldl_instantiate {α : Type} {f : World → α}
    (hf : ∀ (w : World) groups nextId, f { w with groups, nextId } = f w) (rs : List SpawnRequest) (w : World) :
    f (rs.foldl instantiate w) = f w := by
  induction rs generalizing w with
  | nil => rfl
  | cons r rs ih =>
    rw [List.foldl_cons, ih]
    rcases instantiate_cases w r with hw | ⟨t, -, hw⟩ <;> rw [hw]
    exact hf ..

/-! ## Commit and judgement -/

theorem rules_settle (w : World) : w.settle.rules = w.rules := rfl

theorem bounds_settle (w : World) : w.settle.bounds = w.bounds := rfl

theorem nextId_settle (w : World) : w.settle.nextId = w.nextId := rfl

theorem extends_commit (w : World) : w.settle.Extends w.commit := extends_foldl_instantiate ..

/-- A sprite whose id was in use before the end of a tick has come through it. -/
theorem mem_group_commit {w : World} {type : TypeId} {s : Sprite} (h : s ∈ w.commit.group type)
    (hid : s.id < w.nextId) : s ∈ w.group type ∧ s.alive = true := by
  obtain ⟨new, hnew, hids⟩ := (extends_commit w).groups type
  rw [hnew, group_settle] at h
  rcases List.mem_append.1 h with h | h
  · exact List.mem_filter.1 h
  · -- A new sprite has a new id.
    exact absurd hid (Nat.not_lt.2 (hids s h))

/-- Judging settles the outcome and adds to the score. -/
theorem judge_eq (w : World) :
    ∃ outcome score, w.judge = { w with outcome, score } := by
  unfold judge
  split
  · exact ⟨_, _, rfl⟩
  · split <;> exact ⟨_, _, rfl⟩

theorem group_judge (w : World) (type : TypeId) : w.judge.group type = w.group type := by
  obtain ⟨outcome, score, h⟩ := judge_eq w
  rw [h]
  rfl

theorem extends_judge (w : World) : w.Extends w.judge := by
  obtain ⟨outcome, score, h⟩ := judge_eq w
  rw [h]
  exact { Extends.refl w with }

theorem extends_step (w : World) (action : Action) : (w.resolved action).settle.Extends (w.step action) :=
  (extends_commit _).trans (extends_judge _)

theorem rules_step (w : World) (action : Action) : (w.step action).rules = w.rules := by
  rw [(extends_step w action).rules, rules_settle, (ensues_resolved w action).rules, rules_counted]

theorem bounds_step (w : World) (action : Action) : (w.step action).bounds = w.bounds := by
  rw [(extends_step w action).bounds, bounds_settle, (ensues_resolved w action).bounds, bounds_counted]

theorem nextId_le_step (w : World) (action : Action) : w.nextId ≤ (w.step action).nextId := by
  rw [← nextId_counted w action, ← (ensues_resolved w action).nextId, ← nextId_settle]
  exact (extends_step w action).nextId

/-- After a tick, a sprite whose id was in use before it has been there all along. -/
theorem mem_group_step {w : World} {action : Action} {type : TypeId} {s : Sprite}
    (h : s ∈ (w.step action).group type) (hid : s.id < w.nextId) :
    s ∈ (w.resolved action).group type ∧ s.alive = true := by
  unfold step at h
  rw [group_judge] at h
  rw [← nextId_counted w action, ← (ensues_resolved w action).nextId] at hid
  exact mem_group_commit h hid

end World

end SpriteGame
