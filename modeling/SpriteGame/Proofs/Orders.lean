import SpriteGame.Proofs.Detection
/-!
# Orders

What the first half of a tick carries out: an order is of a live sprite, as its template
has it decide (`mem_ordersOf`), and every live sprite has one (`mem_orders`). All that it
changes is the sprite itself, and what it asks for is a sprite of the type that the template
names, like its own template but for where it faces (`Command.spawn_plan`).
-/
namespace SpriteGame

/-- Whether the sprites of a class ask for others. -/
def SpriteClass.spawns : SpriteClass → Bool
  | spawnPoint | shootAvatar => true
  | _ => false

namespace Command

/-! ## What a command amounts to -/

theorem change_mem_edits {c : Command} {key k : Key} {s : Sprite} {t : Template} {block : Float32}
    {cs : List Sprite.Change} (h : .change k cs ∈ c.edits key s t block) :
    k = key ∧ cs = c.changes s t block ∧ cs ≠ [] := by
  unfold edits at h
  rcases List.mem_append.1 h with h | h
  · simp at h
  · split at h
    · cases List.mem_singleton.1 h
    · split at h
      · cases h
      · next hne =>
        obtain ⟨rfl, rfl⟩ := Edit.change.inj (List.mem_singleton.1 h)
        exact ⟨rfl, rfl, hne⟩

theorem spawn_mem_edits {c : Command} {key : Key} {s : Sprite} {t : Template} {block : Float32} {r : SpawnRequest}
    (h : .spawn r ∈ c.edits key s t block) : c.spawn = some r := by
  unfold edits at h
  rcases List.mem_append.1 h with h | h
  · simpa using h
  · split at h
    · simp at h
    · split at h <;> simp at h

/-! ## What a command asks for -/

/-- A template makes its sprites ask for another sprite. -/
def Asks (t : Template) (r : SpawnRequest) : Prop :=
  ∃ type center dir, t.target = some type ∧ r = .facingTo type center dir

theorem spawn_emit {s : Sprite} {t : Template} {rng : Random} {r : SpawnRequest}
    (h : (emit s t rng).1.spawn = some r) : Asks t r := by
  unfold emit at h
  split at h
  · cases h
  · split at h
    · cases h
    · next type htarget =>
      split at h
      · cases h
      · dsimp only at h
        split at h
        · exact ⟨type, _, _, htarget, (Option.some.inj h).symm⟩
        · cases h

theorem spawn_shoot {s : Sprite} {t : Template} {block : Float32} {r : SpawnRequest}
    (h : (shoot s t block).spawn = some r) : Asks t r := by
  unfold shoot at h
  split at h
  · cases h
  · next type htarget =>
    split at h
    · cases h
    · exact ⟨type, _, _, htarget, (Option.some.inj h).symm⟩

theorem spawn_turnAndMove (p : Physics) (action : Action) : (turnAndMove p action).spawn = none := by
  unfold turnAndMove
  dsimp only
  split <;> rfl

theorem spawn_wander (s : Sprite) (t : Template) (rng : Random) : (wander s t rng).1.spawn = none := by
  unfold wander
  split <;> rfl

/-- Most classes never ask for anything. -/
theorem spawn_plan_eq_none {t : Template} (hcls : t.cls.spawns = false) (w : World) (key : Key) (s : Sprite)
    (action : Action) (rng : Random) : (plan w key s t action rng).1.spawn = none := by
  unfold plan
  cases hclass : t.cls with
  | spawnPoint | shootAvatar =>
    rw [hclass] at hcls
    cases hcls
  | orientedAvatar => exact spawn_turnAndMove ..
  | randomNpc => exact spawn_wander ..
  | chaser | fleeing =>
    dsimp only [hunt]
    split
    · rfl
    · exact spawn_wander ..
  | pathChaser =>
    dsimp only [follow]
    split
    · rfl
    · exact spawn_wander ..
  | randomMissile =>
    dsimp only [turnRandomly]
    split <;> rfl
  | horizontalAvatar =>
    dsimp only
    split <;> rfl
  | _ => rfl

variable {w : World} {key : Key} {s : Sprite} {t : Template} {action : Action} {rng : Random} {r : SpawnRequest}

theorem spawns_of_spawn_plan (h : (plan w key s t action rng).1.spawn = some r) : t.cls.spawns = true := by
  cases hcls : t.cls.spawns with
  | true => rfl
  | false =>
    rw [spawn_plan_eq_none hcls] at h
    cases h

theorem spawn_plan (h : (plan w key s t action rng).1.spawn = some r) : Asks t r := by
  have hspawns := spawns_of_spawn_plan h
  unfold plan at h
  cases hcls : t.cls with
  | spawnPoint =>
    rw [hcls] at h
    exact spawn_emit h
  | shootAvatar =>
    rw [hcls] at h
    dsimp only at h
    split at h
    · exact spawn_shoot h
    · rw [spawn_turnAndMove] at h
      cases h
  | _ =>
    rw [hcls] at hspawns
    cases hspawns

end Command

/-! ## Whose orders there are -/

namespace World

theorem sprite?_of_mem_live {w : World} {e : Key × Sprite} (h : e ∈ w.live) : w.sprite? e.1 = some e.2 :=
  (mem_live.1 h).1

theorem mem_ordersOf {w : World} {action : Action} {l : List (Key × Sprite)} {rng : Random} {o : Order}
    (h : o ∈ (w.ordersOf action l rng).1) :
    (o.key, o.sprite) ∈ l ∧ w.rules.template? o.key.type = some o.template ∧
      ∃ rng, o.command = (Command.plan w o.key o.sprite o.template action rng).1 := by
  induction l generalizing rng with
  | nil => cases h
  | cons e l ih =>
    obtain ⟨key, s⟩ := e
    unfold ordersOf at h
    split at h
    · obtain ⟨hmem, hrest⟩ := ih h
      exact ⟨List.mem_cons_of_mem _ hmem, hrest⟩
    · next t ht =>
      rcases List.mem_cons.1 h with rfl | h
      · exact ⟨List.mem_cons_self, ht, rng, rfl⟩
      · obtain ⟨hmem, hrest⟩ := ih h
        exact ⟨List.mem_cons_of_mem _ hmem, hrest⟩

/-- The second of two lists of sprites decides with the generator that the first one leaves. -/
theorem ordersOf_append (w : World) (action : Action) (l m : List (Key × Sprite)) (rng : Random) :
    w.ordersOf action (l ++ m) rng =
      ((w.ordersOf action l rng).1 ++ (w.ordersOf action m (w.ordersOf action l rng).2).1,
        (w.ordersOf action m (w.ordersOf action l rng).2).2) := by
  induction l generalizing rng with
  | nil => rfl
  | cons e l ih =>
    obtain ⟨key, s⟩ := e
    cases ht : w.rules.template? key.type with
    | none => simp only [List.cons_append, ordersOf, ht, ih]
    | some t => simp only [List.cons_append, ordersOf, ht, ih]

/-- The generator when it is up to the sprite with a key to decide. -/
def rngAt (w : World) (action : Action) (key : Key) : Random :=
  (w.ordersOf action (w.live.takeWhile (·.1 ≠ key)) w.rng).2

/-- A live sprite has an order, which is what it decides with that generator. -/
theorem mem_orders {w : World} {key : Key} {s : Sprite} {t : Template} (hlive : (key, s) ∈ w.live)
    (ht : w.rules.template? key.type = some t) (action : Action) :
    ⟨key, s, t, (Command.plan w key s t action (w.rngAt action key)).1⟩ ∈ (w.orders action).1 := by
  obtain ⟨before, after, hsplit⟩ := List.append_of_mem hlive
  have hfirst : ∀ e ∈ before, e.1 ≠ key := by
    have hnodup := List.pairwise_map.1 w.nodup_live
    rw [hsplit, List.pairwise_append] at hnodup
    exact fun e he => hnodup.2.2 e he _ List.mem_cons_self
  have hbefore : w.live.takeWhile (·.1 ≠ key) = before := by
    rw [hsplit, List.takeWhile_append_of_pos (fun e he => decide_eq_true (hfirst e he)),
      List.takeWhile_cons_of_neg (by simp), List.append_nil]
  unfold rngAt orders
  rw [hbefore, hsplit, ordersOf_append]
  refine List.mem_append_right _ ?_
  simp only [ordersOf, ht]
  exact List.mem_cons_self

end World

end SpriteGame
