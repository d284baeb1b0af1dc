import SpriteGame.Proofs.Motion
/-!
# Carrying out orders

An order writes nothing but its own sprite and the requests (`edits_order`), and no sprite has
two orders. So what becomes of a sprite in the first half of a tick is what its own order makes
of it, whoever's turn came before (`sprite?_moved`). The orders could be carried out in any
order; only the requests would come in another one (`carryOut_perm`).
-/
namespace SpriteGame

/-- What an order makes of its sprite. -/
def Order.carry (o : Order) (block : Float32) (s : Sprite) : Sprite :=
  if o.command.remove then s.remove else s.changes (o.command.changes o.sprite o.template block)

namespace World

variable {w : World} {os : List Order}

/-! ## Edits -/

theorem groups_eq_of_sprite? {v w : World} (hsize : v.groups.size = w.groups.size)
    (h : ∀ key, v.sprite? key = w.sprite? key) : v.groups = w.groups := by
  refine groups_eq hsize fun type => List.ext_getElem? fun i => ?_
  have hkey := h ⟨type, i⟩
  rwa [sprite?_eq, sprite?_eq] at hkey

/-- Edits write the groups and the requests. -/
theorem edits_eq (w : World) (es : List Edit) :
    w.edits es = { w with groups := (w.edits es).groups, spawns := (w.edits es).spawns } := by
  induction es generalizing w with
  | nil => rfl
  | cons e es ih =>
    rw [edits_cons]
    refine (ih (w.edit e)).trans ?_
    cases e <;> rfl

/-- An order writes its own sprite and the requests. -/
theorem edits_order (w : World) (o : Order) (block : Float32) :
    w.edits (o.edits block) =
      { w.modify o.key (o.carry block) with spawns := w.spawns ++ o.command.spawn.toList } := by
  have hspawn : w.edits (o.command.spawn.map Edit.spawn).toList =
      { w with spawns := w.spawns ++ o.command.spawn.toList } := by
    cases o.command.spawn with
    | none => simp
    | some r => rfl
  unfold Order.edits Command.edits
  rw [edits_append, hspawn]
  generalize w.spawns ++ o.command.spawn.toList = spawns
  unfold Order.carry
  split
  · rfl
  · -- A command that changes nothing makes no edit.
    split
    · next hcs =>
      rw [hcs]
      exact congrArg (fun v : World => { v with spawns }) (edit_change_nil w o.key).symm
    · rfl

theorem spawns_edits_orders (w : World) (os : List Order) (block : Float32) :
    (w.edits (os.flatMap (·.edits block))).spawns = w.spawns ++ os.filterMap (·.command.spawn) := by
  induction os generalizing w with
  | nil => simp
  | cons o os ih =>
    rw [List.flatMap_cons, edits_append, ih, edits_order, List.append_assoc]
    cases hspawn : o.command.spawn <;> simp [hspawn]

/-- Whose turn it is changes, and nobody else does. -/
theorem sprite?_edits_order (w : World) (o : Order) (block : Float32) (key : Key) :
    (w.edits (o.edits block)).sprite? key =
      if o.key = key then (w.sprite? key).map (o.carry block) else w.sprite? key := by
  rw [edits_order]
  exact sprite?_modify ..

theorem sprite?_edits_orders_of_not_mem {key : Key} (h : key ∉ os.map (·.key)) (w : World) (block : Float32) :
    (w.edits (os.flatMap (·.edits block))).sprite? key = w.sprite? key := by
  induction os generalizing w with
  | nil => rfl
  | cons o os ih =>
    obtain ⟨hne, hrest⟩ := not_or.1 ((not_congr List.mem_cons).1 h)
    rw [List.flatMap_cons, edits_append, ih hrest, sprite?_edits_order, if_neg (Ne.symm hne)]

/-- Among orders of different sprites each makes of its sprite what it would make alone. -/
theorem sprite?_edits_orders (hnodup : (os.map (·.key)).Nodup) {o : Order} (ho : o ∈ os) (w : World)
    (block : Float32) :
    (w.edits (os.flatMap (·.edits block))).sprite? o.key = (w.sprite? o.key).map (o.carry block) := by
  induction os generalizing w with
  | nil => cases ho
  | cons first os ih =>
    obtain ⟨hfirst, hnodup⟩ := List.nodup_cons.1 hnodup
    rw [List.flatMap_cons, edits_append]
    rcases List.mem_cons.1 ho with rfl | ho
    · rw [sprite?_edits_orders_of_not_mem hfirst, sprite?_edits_order, if_pos rfl]
    · have hne : first.key ≠ o.key := fun heq => hfirst (List.mem_map.2 ⟨o, ho, heq.symm⟩)
      rw [ih hnodup ho, sprite?_edits_order, if_neg hne]

/-! ## The orders of a tick -/

theorem keys_ordersOf (w : World) (action : Action) (l : List (Key × Sprite)) (rng : Random) :
    ((w.ordersOf action l rng).1.map (·.key)).Sublist (l.map (·.1)) := by
  induction l generalizing rng with
  | nil => exact .slnil
  | cons e l ih =>
    obtain ⟨key, s⟩ := e
    unfold ordersOf
    split
    · exact (ih rng).cons key
    · exact (ih _).cons_cons key

/-- No sprite has two orders. -/
theorem nodup_orders (w : World) (action : Action) : ((w.orders action).1.map (·.key)).Nodup :=
  (w.keys_ordersOf action w.live w.rng).nodup w.nodup_live

theorem sprite?_carryOut (hnodup : (os.map (·.key)).Nodup) {o : Order} (ho : o ∈ os) (w : World) :
    (w.carryOut os).sprite? o.key = (w.sprite? o.key).map fun s => o.carry w.blockSize s.startTick := by
  unfold carryOut
  rw [sprite?_edits_orders hnodup ho, sprite?_startTick, Option.map_map]
  rfl

/-- In the first half of a tick a sprite becomes what its order makes of it. -/
theorem sprite?_moved {action : Action} {o : Order} (ho : o ∈ (w.orders action).1) :
    (w.moved action).sprite? o.key = some (o.carry w.blockSize o.sprite.startTick) := by
  have hs : (w.counted action).sprite? o.key = some o.sprite := sprite?_of_mem_live (mem_ordersOf ho).1
  rw [moved_eq, sprite?_carryOut (w.nodup_orders action) ho, hs]
  rfl

theorem spawns_carryOut (w : World) (os : List Order) :
    (w.carryOut os).spawns = w.spawns ++ os.filterMap (·.command.spawn) := spawns_edits_orders ..

/-- Orders of different sprites write the same groups in any order. -/
theorem groups_carryOut_perm {os' : List Order} (hperm : os.Perm os') (hnodup : (os'.map (·.key)).Nodup)
    (w : World) : (w.carryOut os).groups = (w.carryOut os').groups := by
  have hsame : ∀ os : List Order, (w.carryOut os).groups.size = w.startTick.groups.size :=
    fun os => (ensues_edits w.startTick _).size
  have hnodup' : (os.map (·.key)).Nodup := (hperm.map _).nodup_iff.2 hnodup
  refine groups_eq_of_sprite? ((hsame os).trans (hsame os').symm) fun key => ?_
  by_cases hkey : key ∈ os.map (·.key)
  · obtain ⟨o, ho, rfl⟩ := List.mem_map.1 hkey
    rw [sprite?_carryOut hnodup' ho, sprite?_carryOut hnodup (hperm.mem_iff.1 ho)]
  · have hkey' : key ∉ os'.map (·.key) := fun h => hkey ((hperm.map _).mem_iff.2 h)
    unfold carryOut
    rw [sprite?_edits_orders_of_not_mem hkey, sprite?_edits_orders_of_not_mem hkey']

/-- The orders of a tick can be carried out in any order. All sprites come out the same, each as
if it had been the only one to move; the same requests come in another order, and nothing else
differs. -/
theorem carryOut_perm (w : World) (action : Action) {os : List Order} (hperm : os.Perm (w.orders action).1) :
    let v := (w.counted action).carryOut os
    v = { w.moved action with spawns := v.spawns } ∧ v.spawns.Perm (w.moved action).spawns ∧
      ∀ o ∈ os, v.sprite? o.key = ((w.counted action).carryOut [o]).sprite? o.key := by
  intro v
  have hnodup := w.nodup_orders action
  have hnodup' : (os.map (·.key)).Nodup := (hperm.map _).nodup_iff.2 hnodup
  have hgroups : v.groups = (w.moved action).groups := groups_carryOut_perm hperm hnodup _
  refine ⟨?_, ?_, fun o ho => ?_⟩
  · have hv : v = { (w.counted action).startTick with groups := v.groups, spawns := v.spawns } := edits_eq ..
    have hmoved : w.moved action = { (w.counted action).startTick with
      groups := (w.moved action).groups, spawns := (w.moved action).spawns } := edits_eq ..
    rw [hv, hmoved, hgroups]
  · rw [moved_eq, spawns_carryOut, spawns_carryOut]
    exact (hperm.filterMap _).append_left _
  · have halone : ([o].map (·.key)).Nodup := by simp
    rw [sprite?_carryOut hnodup' ho, sprite?_carryOut halone List.mem_cons_self]

/-- Two nests send out their bats in the one order or the other. -/
theorem carryOut_perm_nests :
    ∃ start, build (Ruleset.compile errand .default).value "nn\nA g" 7 = .ok start ∧
      let os := (start.orders .right).1.reverse
      let v := (start.counted .right).carryOut os
      v.spawns ≠ (start.moved .right).spawns ∧ v.spawns.Perm (start.moved .right).spawns ∧
        v = { start.moved .right with spawns := v.spawns } := by
  obtain ⟨start, hbuild, hcheck⟩ := @exists_start (Ruleset.compile errand .default).value "nn\nA g" 7
    (fun w => decide (((w.counted .right).carryOut (w.orders .right).1.reverse).spawns ≠ (w.moved .right).spawns))
    (by decide +kernel)
  obtain ⟨hsame, hperm, -⟩ := carryOut_perm start .right (List.reverse_perm _)
  exact ⟨start, hbuild, of_decide_eq_true hcheck, hperm, hsame⟩

end World

end SpriteGame
