import SpriteGame.Proofs.Detection
/-!
# What a tick leaves alone until its end

Up to the end of a tick all that happens to the sprites are edits. `Ensues v w` says
what edits leave alone: `w` is a later moment than `v` of the same tick. Sprites neither
come nor go nor change places, and a removed one does not come back; requests are only
added. `ensues_moved` and `ensues_fireAll` say so of the two halves of a tick.
-/
namespace SpriteGame

/-! ## Sprites -/

namespace Sprite

/-- What a sprite is known by. -/
def tag (s : Sprite) : Nat × TypeId := (s.id, s.type)

theorem tag_changes (s : Sprite) (cs : List Change) : (s.changes cs).tag = s.tag :=
  congrArg (fun i : Nat × TypeId × Bool => (i.1, i.2.1)) (identity_changes s cs)

theorem alive_changes (s : Sprite) (cs : List Change) : (s.changes cs).alive = s.alive :=
  congrArg (fun i : Nat × TypeId × Bool => i.2.2) (identity_changes s cs)

end Sprite

theorem map_modify_of_eq {α β : Type} {f : α → α} {g : α → β} (h : ∀ a, g (f a) = g a) (l : List α)
    (i : Nat) : (l.modify i f).map g = l.map g := by
  refine List.ext_getElem? fun j => ?_
  rw [List.getElem?_map, List.getElem?_map, List.getElem?_modify]
  by_cases hij : i = j
  · cases l[j]? <;> simp [hij, h]
  · cases l[j]? <;> simp [hij]

/-- A rule to fire, with the collision to fire it for. -/
abbrev Entry : Type := Collision × Interaction

namespace World

/-! ## Moments of one tick -/

/-- A world is a later moment of the same tick than another one. -/
structure Ensues (v w : World) : Prop where
  rules : w.rules = v.rules
  size : w.groups.size = v.groups.size
  /-- No group changes in length or order, and no sprite becomes another one. -/
  tags : ∀ type, (w.group type).map Sprite.tag = (v.group type).map Sprite.tag
  /-- What is gone stays gone. -/
  gone : ∀ key, v.isAlive key = false → w.isAlive key = false
  spawns : v.spawns <+: w.spawns
  seed : w.seed = v.seed
  score : w.score = v.score
  tick : w.tick = v.tick
  outcome : w.outcome = v.outcome
  bounds : w.bounds = v.bounds
  nextId : w.nextId = v.nextId
  avatarActions : w.avatarActions = v.avatarActions

theorem Ensues.refl (w : World) : w.Ensues w :=
  ⟨rfl, rfl, fun _ => rfl, fun _ => id, List.prefix_rfl, rfl, rfl, rfl, rfl, rfl, rfl, rfl⟩

theorem Ensues.trans {u v w : World} (h : u.Ensues v) (h' : v.Ensues w) : u.Ensues w where
  rules := h'.rules.trans h.rules
  size := h'.size.trans h.size
  tags type := (h'.tags type).trans (h.tags type)
  gone key hk := h'.gone key (h.gone key hk)
  spawns := h.spawns.trans h'.spawns
  seed := h'.seed.trans h.seed
  score := h'.score.trans h.score
  tick := h'.tick.trans h.tick
  outcome := h'.outcome.trans h.outcome
  bounds := h'.bounds.trans h.bounds
  nextId := h'.nextId.trans h.nextId
  avatarActions := h'.avatarActions.trans h.avatarActions

/-- A key finds the same sprite. -/
theorem Ensues.tag_sprite? {v w : World} (h : v.Ensues w) (key : Key) :
    (w.sprite? key).map Sprite.tag = (v.sprite? key).map Sprite.tag := by
  rw [sprite?_eq, sprite?_eq, ← List.getElem?_map, ← List.getElem?_map, h.tags]

/-- What is alive was alive before. -/
theorem Ensues.isAlive {v w : World} (h : v.Ensues w) {key : Key} (hk : w.isAlive key = true) :
    v.isAlive key = true := by
  cases hv : v.isAlive key with
  | true => rfl
  | false => rw [h.gone key hv] at hk; cases hk

/-- The generator and the score to come do not matter. -/
theorem ensues_set (w : World) (rng : Random) (pendingScore : Int) :
    w.Ensues { w with rng, pendingScore } :=
  ⟨rfl, rfl, fun _ => rfl, fun _ => id, List.prefix_rfl, rfl, rfl, rfl, rfl, rfl, rfl, rfl⟩

/-! ## Edits -/

theorem ensues_modify (w : World) (key : Key) {f : Sprite → Sprite} (htag : ∀ s, (f s).tag = s.tag)
    (hgone : ∀ s : Sprite, s.alive = false → (f s).alive = false) : w.Ensues (w.modify key f) where
  rules := rfl
  size := groups_size_modify ..
  tags type := by
    rw [group_modify]
    split
    · exact map_modify_of_eq htag ..
    · rfl
  gone other hother := by
    unfold isAlive at hother ⊢
    rw [sprite?_modify]
    split
    · cases hs : w.sprite? other with
      | none => rfl
      | some s =>
        rw [hs] at hother
        exact hgone s hother
    · exact hother
  spawns := List.prefix_rfl
  seed := rfl
  score := rfl
  tick := rfl
  outcome := rfl
  bounds := rfl
  nextId := rfl
  avatarActions := rfl

theorem ensues_edit (w : World) (e : Edit) : w.Ensues (w.edit e) := by
  cases e with
  | kill key => exact ensues_modify w key (fun _ => rfl) (fun _ _ => rfl)
  | change key cs =>
    exact ensues_modify w key (Sprite.tag_changes · cs) (fun s h => (Sprite.alive_changes s cs).trans h)
  | spawn r => exact { Ensues.refl w with spawns := List.prefix_append .. }

theorem ensues_edits (w : World) (es : List Edit) : w.Ensues (w.edits es) := by
  induction es generalizing w with
  | nil => exact .refl w
  | cons e es ih => exact (ensues_edit w e).trans (ih (w.edit e))

/-! ## The first half: movement -/

theorem sprite?_startTick (w : World) (key : Key) :
    w.startTick.sprite? key = (w.sprite? key).map Sprite.startTick := by
  rw [sprite?_eq, sprite?_eq, group_startTick, List.getElem?_map]

theorem ensues_startTick (w : World) : w.Ensues w.startTick := by
  refine { Ensues.refl w with size := Array.size_map, tags := fun type => ?_, gone := fun key h => ?_ }
  · rw [group_startTick, List.map_map]
    rfl
  · unfold isAlive at h ⊢
    rw [sprite?_startTick, Option.any_map]
    exact h

/-- The world of a tick before the first sprite moves. -/
def counted (w : World) (action : Action) : World :=
  { w with tick := w.tick + 1, rng := (w.orders action).2 }

theorem rules_counted (w : World) (action : Action) : (w.counted action).rules = w.rules := rfl

theorem bounds_counted (w : World) (action : Action) : (w.counted action).bounds = w.bounds := rfl

theorem nextId_counted (w : World) (action : Action) : (w.counted action).nextId = w.nextId := rfl

theorem moved_eq (w : World) (action : Action) :
    w.moved action = (w.counted action).carryOut (w.orders action).1 := rfl

theorem ensues_moved (w : World) (action : Action) : (w.counted action).Ensues (w.moved action) :=
  (ensues_startTick _).trans (ensues_edits _ _)

/-! ## The second half: rules -/

/-- A relation from earlier to later moments of the second half of a tick, for which draws
and scores do not matter. -/
structure Firing (R : World → World → Prop) : Prop where
  refl : ∀ w, R w w
  trans : ∀ {u v w}, R u v → R v w → R u w
  set : ∀ (w : World) rng pendingScore, R w { w with rng, pendingScore }

theorem Firing.fireRule {R : World → World → Prop} (h : Firing R) (w : World) {c : Collision} {r : Interaction}
    (happly : ∀ v : World, c.holds v = true → R v (r.effect.apply v (some c.first) c.second).2) :
    R w (fireRule c w r) := by
  have hrng : R w { w with rng := (w.rng.chance r.prob).2 } := h.set w _ w.pendingScore
  unfold World.fireRule
  split
  · next hc =>
    unfold applyRule
    dsimp only
    split
    · -- The effect acts on the world after the draw, and at the end comes the score.
      refine h.trans hrng (h.trans (happly _ hc) ?_)
      split
      · exact h.set _ _ _
      · exact h.refl _
    · exact hrng
  · exact h.refl w

/-- The sides of a collision that are there were there before. -/
theorem Ensues.holds {v w : World} (h : v.Ensues w) {c : Collision} (hc : c.holds w = true) :
    c.holds v = true := by
  rw [Collision.holds_iff] at hc ⊢
  exact ⟨h.isAlive hc.1, fun key hkey => h.isAlive (hc.2 key hkey)⟩

theorem firing_ensues : Firing Ensues := ⟨.refl, .trans, ensues_set⟩

theorem ensues_apply (e : Effect) (w : World) (first second : Option Key) :
    w.Ensues (e.apply w first second).2 := by
  unfold Effect.apply
  split
  · exact .refl w
  · next es rng _ => exact (ensues_set w rng w.pendingScore).trans (ensues_edits _ es)

theorem ensues_fireRule (w : World) (c : Collision) (r : Interaction) : w.Ensues (fireRule c w r) :=
  firing_ensues.fireRule w fun v _ => ensues_apply r.effect v (some c.first) c.second

/-- The rules to fire for collisions, one after the other. -/
def agenda (w : World) (cs : List Collision) : List Entry :=
  cs.flatMap fun c => (w.rulesFor c).map (c, ·)

/-- Fire a rule of the agenda. -/
def fireEntry (w : World) (e : Entry) : World := fireRule e.1 w e.2

theorem agenda_congr {v w : World} (h : w.rules = v.rules) (cs : List Collision) :
    w.agenda cs = v.agenda cs := by
  unfold agenda rulesFor
  rw [h]

theorem mem_rulesFor {w : World} {c : Collision} {r : Interaction} :
    r ∈ w.rulesFor c ↔ ∃ p, w.rules.dispatch[c.pairing]? = some p ∧
      ∃ i ∈ p.rules, w.rules.interactions[i]? = some r := by
  unfold rulesFor
  cases w.rules.dispatch[c.pairing]? with
  | none => simp
  | some p => simp [List.mem_filterMap]

theorem mem_interactions_of_mem_agenda {w : World} {cs : List Collision} {e : Entry}
    (h : e ∈ w.agenda cs) : e.2 ∈ w.rules.interactions := by
  obtain ⟨c, -, he⟩ := List.mem_flatMap.1 h
  obtain ⟨r, hr, rfl⟩ := List.mem_map.1 he
  obtain ⟨p, -, i, -, hi⟩ := mem_rulesFor.1 hr
  exact Array.mem_of_getElem? hi

theorem Firing.foldl_fireEntry {R : World → World → Prop} (h : Firing R) {es : List Entry}
    (happly : ∀ e ∈ es, ∀ v : World, e.1.holds v = true →
      R v (e.2.effect.apply v (some e.1.first) e.1.second).2) (w : World) : R w (es.foldl fireEntry w) := by
  induction es generalizing w with
  | nil => exact h.refl w
  | cons e es ih =>
    have hhead : R w (w.fireEntry e) := h.fireRule w (happly e List.mem_cons_self)
    exact h.trans hhead (ih (fun e' he' => happly e' (List.mem_cons_of_mem e he')) _)

theorem ensues_foldl_fireEntry (w : World) (es : List Entry) : w.Ensues (es.foldl fireEntry w) :=
  firing_ensues.foldl_fireEntry (fun e _ v _ => ensues_apply e.2.effect v (some e.1.first) e.1.second) w

/-- What is to fire is settled before the first rule does. -/
theorem fireAll_eq (w : World) (cs : List Collision) : w.fireAll cs = (w.agenda cs).foldl fireEntry w := by
  induction cs generalizing w with
  | nil => rfl
  | cons c cs ih =>
    have hfire : w.fire c = ((w.rulesFor c).map (c, ·)).foldl fireEntry w := by
      rw [List.foldl_map]
      rfl
    show (w.fire c).fireAll cs = (((w.rulesFor c).map (c, ·)) ++ w.agenda cs).foldl fireEntry w
    rw [ih, List.foldl_append, ← hfire, agenda_congr (v := w)]
    rw [hfire]
    exact (ensues_foldl_fireEntry w _).rules

theorem Firing.fireAll {R : World → World → Prop} (h : Firing R) {w : World}
    (happly : ∀ r ∈ w.rules.interactions, ∀ (v : World) (c : Collision), c.holds v = true →
      R v (r.effect.apply v (some c.first) c.second).2) (cs : List Collision) : R w (w.fireAll cs) := by
  rw [fireAll_eq]
  exact h.foldl_fireEntry (fun e he v => happly e.2 (mem_interactions_of_mem_agenda he) v e.1) w

theorem ensues_fireAll (w : World) (cs : List Collision) : w.Ensues (w.fireAll cs) := by
  rw [fireAll_eq]
  exact ensues_foldl_fireEntry w _

theorem ensues_resolved (w : World) (action : Action) : (w.counted action).Ensues (w.resolved action) :=
  (ensues_moved w action).trans (ensues_fireAll _ _)

end World

end SpriteGame
