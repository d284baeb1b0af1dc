import Mathlib.Data.List.Induction
import Mathlib.Data.List.Nodup
import SpriteGame.Proofs.CarryOut
import SpriteGame.Proofs.Identity
/-!
# Turns

A sprite has a turn in every tick that it is there at the start of. `turns` lists the turns of a
sprite in a run. A sprite comes into being fresh, and what it remembers at a turn is what its
order of the turn before has made of it, since no rule writes that: `History` links the turns in
this way, and `history_run` and `history_of_turns` find it in every run.
-/
namespace SpriteGame

/-! ## What a sprite remembers -/

namespace Sprite

/-- What a sprite keeps count of: its age, its counter and the direction to repeat. -/
def memory (s : Sprite) : Nat × Nat × Vec := (s.age, s.counter, s.lastCommand)

/-- Nothing has happened to a sprite yet. -/
def Fresh (s : Sprite) : Prop := s.sinceMove = 0 ∧ s.memory = (0, 0, .zero)

/-- A sprite remembers the same as before, and has not waited any longer. -/
def Remembers (s t : Sprite) : Prop := t.memory = s.memory ∧ t.sinceMove ≤ s.sinceMove

theorem Fresh.age {s : Sprite} (h : s.Fresh) : s.age = 0 := congrArg (·.1) h.2

theorem Fresh.counter {s : Sprite} (h : s.Fresh) : s.counter = 0 := congrArg (·.2.1) h.2

/-- Whether a change writes what a sprite remembers. -/
def Change.isMemory : Change → Bool
  | .setCounter _ | .setLastCommand _ => true
  | _ => false

theorem memory_change {c : Change} (h : c.isMemory = false) (s : Sprite) : (s.change c).memory = s.memory := by
  cases c with
  | coast => exact frame_coast (fun _ _ _ _ _ => rfl) ..
  | drive => exact frame_drive (fun _ _ _ _ _ => rfl) ..
  | setCounter | setLastCommand => cases h
  | _ => rfl

theorem memory_changes {cs : List Change} (h : ∀ c ∈ cs, c.isMemory = false) (s : Sprite) :
    (s.changes cs).memory = s.memory :=
  frame_changes (fun c hc s => memory_change (h c hc) s) s

/-- Nobody waits longer for a change. -/
theorem sinceMove_change_le (s : Sprite) (c : Change) : (s.change c).sinceMove ≤ s.sinceMove := by
  cases c with
  | coast p cooldown block => exact (moves_coast s p cooldown block).sinceMove_le
  | drive p dir speed cooldown block => exact (moves_drive s p dir cooldown block speed).sinceMove_le
  | _ => exact Nat.le_refl _

end Sprite

theorem ageing_remembers : Ageing fun _ s t => s.Remembers t where
  refl _ _ := ⟨rfl, Nat.le_refl _⟩
  trans h h' := ⟨h'.1.trans h.1, Nat.le_trans h'.2 h.2⟩
  remove _ _ := ⟨rfl, Nat.le_refl _⟩

theorem SpawnRequest.fresh_make (r : SpawnRequest) (id : Nat) (block : Float32) (t : Template) :
    (r.make id block t).Fresh := by
  unfold make
  cases r.facing <;> exact ⟨rfl, rfl⟩

/-- A command writes what it has for the counter and the last direction, and nothing else of what a
sprite remembers. -/
theorem Command.memory_changes (c : Command) (s : Sprite) (t : Template) (block : Float32) (u : Sprite) :
    (u.changes (c.changes s t block)).memory = (u.age, c.counter.getD u.counter, c.lastCommand.getD u.lastCommand) := by
  have hrest : ∀ change ∈ (c.facing.map Sprite.Change.face).toList ++
      ((if c.coasts && s.canCoast t.physics then [.coast t.physics t.cooldown block] else []) ++
        (if c.drive.isZero then [] else [.drive t.physics c.drive none t.cooldown block])),
      change.isMemory = false := by
    intro change hchange
    cases change with
    | setCounter | setLastCommand => simp at hchange
    | _ => rfl
  unfold changes
  rw [List.append_assoc, List.append_assoc, Sprite.changes_append, Sprite.memory_changes hrest, Sprite.changes_append,
    Sprite.changes_append]
  cases c.spend <;> cases c.counter <;> cases c.lastCommand <;> rfl

theorem Effect.isMemory_of_makes {e : Effect} {c : Sprite.Change} (h : e.makes c = true) : c.isMemory = false := by
  cases c with
  | setCounter | setLastCommand => cases e <;> cases h
  | _ => rfl

/-- No rule writes what a sprite remembers. -/
theorem World.each_remembers_fireAll (w : World) (cs : List Collision) :
    w.Each (fun _ s t => s.Remembers t) (w.fireAll cs) := by
  refine each_fireAll ageing_remembers (fun rule _ c hmakes _ s => ⟨?_, s.sinceMove_change_le c⟩) cs
  exact Sprite.memory_change (Effect.isMemory_of_makes hmakes) s

/-! ## Turns -/

/-- What a sprite is to do in a tick. -/
structure Turn where
  /-- The world at the start of the tick. -/
  world : World
  action : Action
  order : Order

namespace Turn

/-- The sprite when its order is carried out. -/
def carried (a : Turn) : Sprite := a.order.carry a.world.blockSize a.order.sprite.startTick

/-- A turn of an episode. -/
structure Taken (rules : Ruleset) (a : Turn) : Prop where
  reachable : World.Reachable rules a.world
  ongoing : a.world.outcome.isOver = false
  mem : a.order ∈ (a.world.orders a.action).1

/-- A sprite comes out of the tick of its turn. -/
structure Leads (a : Turn) (s : Sprite) : Prop where
  stays : a.order.command.remove = false
  remembers : a.carried.Remembers s

theorem memory_carried {a : Turn} (h : a.order.command.remove = false) :
    a.carried.memory = (a.order.sprite.startTick.age, a.order.command.counter.getD a.order.sprite.counter,
      a.order.command.lastCommand.getD a.order.sprite.lastCommand) := by
  unfold carried Order.carry
  rw [h, if_neg Bool.false_ne_true]
  exact Command.memory_changes ..

section Leads

variable {a : Turn} {s : Sprite} (h : a.Leads s)

include h

theorem Leads.memory :
    s.memory = (a.order.sprite.startTick.age, a.order.command.counter.getD a.order.sprite.counter,
      a.order.command.lastCommand.getD a.order.sprite.lastCommand) :=
  h.remembers.1.trans (memory_carried h.stays)

theorem Leads.age : s.age = a.order.sprite.startTick.age := congrArg (·.1) h.memory

theorem Leads.counter : s.counter = a.order.command.counter.getD a.order.sprite.counter := congrArg (·.2.1) h.memory

theorem Leads.lastCommand : s.lastCommand = a.order.command.lastCommand.getD a.order.sprite.lastCommand :=
  congrArg (·.2.2) h.memory

end Leads

variable {rules : Ruleset} {a : Turn} (h : a.Taken rules)

include h

theorem Taken.template : rules.template? a.order.key.type = some a.order.template := by
  rw [← h.reachable.rules]
  exact (World.mem_ordersOf h.mem).2.1

theorem Taken.command : ∃ rng, a.order.command =
    (Command.plan a.world a.order.key a.order.sprite a.order.template a.action rng).1 :=
  (World.mem_ordersOf h.mem).2.2

theorem Taken.sprite? : a.world.sprite? a.order.key = some a.order.sprite :=
  World.sprite?_of_mem_live (World.mem_ordersOf h.mem).1

theorem Taken.mem_group : a.order.sprite ∈ a.world.group a.order.key.type :=
  World.mem_group_iff.2 ⟨a.order.key.index, h.sprite?⟩

end Turn

/-- The turns of a sprite, from its making to a world that it is in. -/
inductive History (rules : Ruleset) : List Turn → World → TypeId → Sprite → Prop
  | new {w : World} {type : TypeId} {s : Sprite} : s.Fresh → History rules [] w type s
  | turn {ts : List Turn} {a : Turn} {s : Sprite} :
      History rules ts a.world a.order.key.type a.order.sprite → a.Taken rules → a.Leads s →
      History rules (ts ++ [a]) (a.world.step a.action) a.order.key.type s

theorem History.type_of_mem {rules : Ruleset} {ts : List Turn} {w : World} {type : TypeId} {s : Sprite}
    (h : History rules ts w type s) : ∀ a ∈ ts, a.order.key.type = type := by
  induction h with
  | new => simp
  | turn _ _ _ ih => exact List.forall_mem_append.2 ⟨ih, by simp⟩

namespace World

/-- The turns of the sprite with an id in a tick: there is one at most. -/
def turnsIn (w : World) (id : Nat) (action : Action) : List Turn :=
  ((w.orders action).1.filter (·.sprite.id = id)).map (⟨w, action, ·⟩)

/-- The turns of the sprite with an id in a run. -/
def turns (w : World) (id : Nat) : List Action → List Turn
  | [] => []
  | action :: actions =>
    (if w.outcome.isOver then [] else w.turnsIn id action) ++ (w.attempt action).turns id actions

theorem attempt_eq (w : World) (action : Action) :
    w.attempt action = if w.outcome.isOver then w else w.step action := by
  unfold attempt advance
  cases w.outcome.isOver <;> simp

theorem turns_append (w : World) (id : Nat) (before after : List Action) :
    w.turns id (before ++ after) = w.turns id before ++ (w.run before).turns id after := by
  induction before generalizing w with
  | nil => rfl
  | cons action before ih =>
    show _ ++ (w.attempt action).turns id (before ++ after) = _
    rw [ih, ← List.append_assoc]
    rfl

theorem mem_turnsIn {w : World} {id : Nat} {action : Action} {a : Turn} :
    a ∈ w.turnsIn id action ↔ a.world = w ∧ a.action = action ∧ a.order ∈ (w.orders action).1 ∧
      a.order.sprite.id = id := by
  unfold turnsIn
  simp only [List.mem_map, List.mem_filter, decide_eq_true_eq]
  constructor
  · rintro ⟨o, ⟨ho, hid⟩, rfl⟩
    exact ⟨rfl, rfl, ho, hid⟩
  · rintro ⟨rfl, rfl, ho, hid⟩
    exact ⟨a.order, ⟨ho, hid⟩, rfl⟩

/-! ## The turns of a tick -/

/-- Who is not there has no turn. -/
theorem turnsIn_eq_nil {w : World} {id : Nat} (h : id ∉ w.ids) (action : Action) : w.turnsIn id action = [] := by
  refine List.eq_nil_iff_forall_not_mem.2 fun a ha => ?_
  obtain ⟨rfl, -, ho, rfl⟩ := mem_turnsIn.1 ha
  have hs := sprite?_of_mem_live (mem_ordersOf ho).1
  exact h (mem_ids.2 ⟨a.order.key.type, a.order.sprite, mem_group_iff.2 ⟨a.order.key.index, hs⟩, rfl⟩)

section Tick

variable {w : World} (hsettled : w.Settled)

include hsettled

/-- An id is found by one key. -/
theorem Settled.key_unique {k l : Key} {s t : Sprite} (hs : w.sprite? k = some s) (ht : w.sprite? l = some t)
    (hid : s.id = t.id) : k = l := by
  obtain ⟨type, i⟩ := k
  obtain ⟨type', j⟩ := l
  obtain rfl : type = type' :=
    hsettled.apart type type' s (mem_group_iff.2 ⟨i, hs⟩) t (mem_group_iff.2 ⟨j, ht⟩) hid
  have hnodup : ((w.group type).map (·.id)).Nodup := (hsettled.ascending type).imp Nat.ne_of_lt
  rw [sprite?_eq] at hs ht
  have hi : ((w.group type).map (·.id))[i]? = some s.id := by rw [List.getElem?_map, hs]; rfl
  have hj : ((w.group type).map (·.id))[j]? = some t.id := by rw [List.getElem?_map, ht]; rfl
  obtain ⟨hi, hs'⟩ := List.getElem?_eq_some_iff.1 hi
  obtain ⟨hj, ht'⟩ := List.getElem?_eq_some_iff.1 hj
  rw [(List.Nodup.getElem_inj_iff hnodup).1 (hs'.trans (hid.trans ht'.symm))]

/-- Everybody who is there has an order. -/
theorem Settled.exists_order (haligned : w.rules.Aligned) {key : Key} {s : Sprite} (hs : w.sprite? key = some s)
    (action : Action) : ∃ o ∈ (w.orders action).1, o.key = key ∧ o.sprite = s := by
  have hmem : s ∈ w.group key.type := mem_group_iff.2 ⟨key.index, hs⟩
  have hlive : (key, s) ∈ w.live := mem_live.2 ⟨hs, (hsettled.typed key.type s hmem).2⟩
  have hlt : key.type < w.rules.registry.size := by
    rw [← hsettled.size]
    exact lt_size_of_mem_group hmem
  obtain ⟨t, ht⟩ := haligned.exists_template hlt
  exact ⟨_, mem_orders hlive ht action, rfl, rfl⟩

theorem Settled.turnsIn_eq {action : Action} {o : Order} (ho : o ∈ (w.orders action).1) :
    w.turnsIn o.sprite.id action = [⟨w, action, o⟩] := by
  have hsprite : ∀ o ∈ (w.orders action).1, w.sprite? o.key = some o.sprite :=
    fun o ho => sprite?_of_mem_live (mem_ordersOf ho).1
  have hpair : (w.orders action).1.Pairwise fun a b => a.sprite.id ≠ b.sprite.id := by
    refine (List.pairwise_map.1 (w.nodup_orders action)).imp_of_mem fun ha hb hkey hid => hkey ?_
    exact hsettled.key_unique (hsprite _ ha) (hsprite _ hb) hid
  obtain ⟨before, after, hsplit⟩ := List.append_of_mem ho
  rw [hsplit, List.pairwise_append, List.pairwise_cons] at hpair
  obtain ⟨-, ⟨hafter, -⟩, hbefore⟩ := hpair
  have hnone : before.filter (·.sprite.id = o.sprite.id) = [] :=
    List.filter_eq_nil_iff.2 fun b hb => by simpa using hbefore b hb o List.mem_cons_self
  have hnone' : after.filter (·.sprite.id = o.sprite.id) = [] :=
    List.filter_eq_nil_iff.2 fun b hb => by simpa using Ne.symm (hafter b hb)
  unfold turnsIn
  rw [hsplit, List.filter_append, hnone, List.filter_cons_of_pos (by simp), hnone']
  rfl

/-- A sprite has at most one turn in a tick. -/
theorem Settled.turnsIn_cases (id : Nat) (action : Action) :
    w.turnsIn id action = [] ∨ ∃ a, w.turnsIn id action = [a] := by
  cases h : w.turnsIn id action with
  | nil => exact .inl rfl
  | cons a as =>
    right
    obtain ⟨rfl, rfl, ho, rfl⟩ := mem_turnsIn.1 (h ▸ List.mem_cons_self)
    rw [hsettled.turnsIn_eq ho] at h
    exact ⟨a, h ▸ rfl⟩

/-- A sprite that a tick leaves is what its order and the rules have made of it. -/
theorem Settled.leads {action : Action} {o : Order} (ho : o ∈ (w.orders action).1) {type : TypeId} {s : Sprite}
    (hs : s ∈ (w.step action).group type) (hid : s.id = o.sprite.id) :
    type = o.key.type ∧ Turn.Leads ⟨w, action, o⟩ s := by
  have hsprite : w.sprite? o.key = some o.sprite := sprite?_of_mem_live (mem_ordersOf ho).1
  have hmem : o.sprite ∈ w.group o.key.type := mem_group_iff.2 ⟨o.key.index, hsprite⟩
  obtain rfl : o.key.type = type := hsettled.type_of_id (follows_step w action) hmem hs hid.symm
  obtain ⟨key, -, hkey, hresolved, halive⟩ := hsettled.exists_key hmem hs hid
  obtain rfl : key = o.key := hsettled.key_unique hkey hsprite rfl
  have hmoved := sprite?_moved ho
  obtain ⟨s', hs', hremembers⟩ := (w.moved action).each_remembers_fireAll (w.moved action).detect o.key _ hmoved
  obtain rfl : s = s' := Option.some.inj (hresolved.symm.trans hs')
  refine ⟨rfl, ?_, hremembers⟩
  -- What an order removes is gone, and the sprite is not.
  have hthere := (ensues_fireAll (w.moved action) _).isAlive (isAlive_iff.2 ⟨s, hresolved, halive⟩)
  obtain ⟨m, hm, hmalive⟩ := isAlive_iff.1 hthere
  obtain rfl := Option.some.inj (hmoved.symm.trans hm)
  cases hremove : o.command.remove with
  | false => rfl
  | true =>
    unfold Order.carry at hmalive
    rw [if_pos hremove] at hmalive
    cases hmalive

/-- A sprite that a tick leaves had an order in it, or is made by it. -/
theorem Settled.step_cases (haligned : w.rules.Aligned) {action : Action} {type : TypeId} {s : Sprite}
    (hs : s ∈ (w.step action).group type) :
    (∃ o ∈ (w.orders action).1, o.sprite.id = s.id ∧ o.key.type = type ∧ Turn.Leads ⟨w, action, o⟩ s) ∨
      w.nextId ≤ s.id ∧ s.Fresh := by
  by_cases hold : s.id < w.nextId
  · obtain ⟨t, ht, hts⟩ := (follows_step w action).old type s hs hold
    obtain ⟨index, hindex⟩ := mem_group_iff.1 ht
    obtain ⟨o, ho, -, rfl⟩ := hsettled.exists_order haligned hindex action
    obtain ⟨rfl, hleads⟩ := hsettled.leads ho hs hts.symm
    exact .inl ⟨o, ho, hts, rfl, hleads⟩
  · refine .inr ⟨Nat.le_of_not_lt hold, ?_⟩
    rcases mem_group_step_cases hs with hs | ⟨r, -, t, id, -, -, rfl⟩
    · -- What was there when the rules had fired has an old id.
      obtain ⟨t, ht, htag⟩ := (ensues_resolved w action).exists_tag hs
      exact absurd (hsettled.lt_of_mem_ids (mem_ids.2 ⟨type, t, ht, (Prod.mk.inj htag).1⟩)) hold
    · exact r.fresh_make ..

end Tick

/-! ## The turns of a run -/

theorem run_append (w : World) (before after : List Action) : w.run (before ++ after) = (w.run before).run after :=
  List.foldl_append

theorem turns_singleton (w : World) (id : Nat) (action : Action) :
    w.turns id [action] = if w.outcome.isOver then [] else w.turnsIn id action := List.append_nil _

section Run

variable {rules : Ruleset} (haligned : rules.Aligned)

include haligned

theorem Reachable.turns_singleton_cases {w : World} (hw : Reachable rules w) (id : Nat) (action : Action) :
    w.turns id [action] = [] ∨ ∃ a : Turn, w.turns id [action] = [a] ∧ a.Taken rules ∧ a.order.sprite.id = id ∧
      a.world = w ∧ a.action = action := by
  rw [turns_singleton]
  cases hon : w.outcome.isOver with
  | true => exact .inl rfl
  | false =>
    rcases (hw.settled haligned).turnsIn_cases id action with hnone | ⟨a, ha⟩
    · exact .inl hnone
    · obtain ⟨rfl, rfl, ho, hid⟩ := mem_turnsIn.1 (ha ▸ List.mem_singleton_self a)
      exact .inr ⟨a, ha, ⟨hw, hon, ho⟩, hid, rfl, rfl⟩

/-- What comes before a turn are the turns up to its world. -/
theorem Reachable.split_turns {w : World} (hw : Reachable rules w) {id : Nat} {actions : List Action} {ts us : List Turn}
    {a : Turn} (h : w.turns id actions = ts ++ a :: us) :
    a.Taken rules ∧ a.order.sprite.id = id ∧
      ∃ before after, actions = before ++ a.action :: after ∧ a.world = w.run before ∧ ts = w.turns id before := by
  induction actions generalizing w ts with
  | nil => simp [turns] at h
  | cons action actions ih =>
    have hcons : ∀ rest, w.turns id (action :: rest) = w.turns id [action] ++ (w.attempt action).turns id rest :=
      w.turns_append id [action]
    rw [hcons] at h
    rcases hw.turns_singleton_cases haligned id action with hnone | ⟨b, hb, htaken, hid, hworld, haction⟩
    · rw [hnone, List.nil_append] at h
      obtain ⟨htaken, hid, before, after, rfl, hworld, hts⟩ := ih (hw.attempt action) h
      refine ⟨htaken, hid, action :: before, after, rfl, hworld, ?_⟩
      rw [hcons, hnone, List.nil_append, hts]
    · rw [hb, List.singleton_append] at h
      cases ts with
      | nil =>
        obtain ⟨rfl, -⟩ := List.cons.inj h
        exact ⟨htaken, hid, [], actions, by rw [haction]; rfl, hworld, rfl⟩
      | cons t ts =>
        obtain ⟨rfl, hrest⟩ := List.cons.inj h
        obtain ⟨htaken, hid, before, after, rfl, hworld, hts⟩ := ih (hw.attempt action) hrest
        refine ⟨htaken, hid, action :: before, after, rfl, hworld, ?_⟩
        rw [hcons, hb, List.singleton_append, hts]

/-- An id that has not been given has had no turn. -/
theorem Reachable.turns_eq_nil {w : World} (hw : Reachable rules w) {id : Nat} {actions : List Action}
    (h : (w.run actions).nextId ≤ id) : w.turns id actions = [] := by
  refine List.eq_nil_iff_forall_not_mem.2 fun a ha => ?_
  obtain ⟨ts, us, hsplit⟩ := List.append_of_mem ha
  obtain ⟨htaken, rfl, before, after, rfl, hworld, -⟩ := hw.split_turns haligned hsplit
  have hlt : a.order.sprite.id < a.world.nextId :=
    (htaken.reachable.settled haligned).below _ _ htaken.mem_group
  rw [run_append, ← hworld] at h
  exact Nat.not_le.2 hlt (Nat.le_trans (follows_run a.world _).nextId h)

variable {level : String} {seed : UInt64} {start : World} (hbuild : build rules level seed = .ok start)

include hbuild

/-- The turns of a sprite in a run are its history. -/
theorem history_run (actions : List Action) {type : TypeId} {s : Sprite} (hs : s ∈ (start.run actions).group type) :
    History rules (start.turns s.id actions) (start.run actions) type s := by
  induction actions using List.reverseRecOn generalizing type s with
  | nil =>
    obtain ⟨bounds, requests, rfl⟩ := eq_of_build hbuild
    rcases mem_group_foldl_instantiate hs with hs | ⟨r, -, t, id, -, -, rfl⟩
    · rw [group_bare] at hs
      cases hs
    · exact .new (r.fresh_make ..)
  | append_singleton actions action ih =>
    have hreach : Reachable rules (start.run actions) := (Reachable.start hbuild).run actions
    have hsettled := hreach.settled haligned
    rw [run_append] at hs ⊢
    rw [turns_append, turns_singleton]
    generalize hw : start.run actions = w at *
    change s ∈ (w.attempt action).group type at hs
    show History rules _ (w.attempt action) type s
    rw [attempt_eq] at hs ⊢
    cases hon : w.outcome.isOver with
    | true =>
      rw [hon, if_pos rfl] at hs
      rw [if_pos rfl, if_pos rfl, List.append_nil]
      exact ih hs
    | false =>
      rw [hon, if_neg Bool.false_ne_true] at hs
      rw [if_neg Bool.false_ne_true, if_neg Bool.false_ne_true]
      rcases hsettled.step_cases (hreach.rules ▸ haligned) hs with ⟨o, ho, hid, rfl, hleads⟩ | ⟨hnew, hfresh⟩
      · have htaken : Turn.Taken rules ⟨w, action, o⟩ := ⟨hreach, hon, ho⟩
        rw [← hid, hsettled.turnsIn_eq ho]
        exact .turn (ih htaken.mem_group) htaken hleads
      · have hnone : start.turns s.id actions = [] :=
          (Reachable.start hbuild).turns_eq_nil haligned (hw ▸ hnew)
        have hgone : s.id ∉ w.ids := fun h => Nat.not_lt.2 hnew (hsettled.lt_of_mem_ids h)
        rw [hnone, turnsIn_eq_nil hgone]
        exact .new hfresh

/-- What comes before a turn is the history of the sprite at that turn. -/
theorem history_of_turns {id : Nat} {actions : List Action} {ts us : List Turn} {a : Turn}
    (h : start.turns id actions = ts ++ a :: us) :
    a.Taken rules ∧ History rules ts a.world a.order.key.type a.order.sprite := by
  obtain ⟨htaken, rfl, before, after, -, hworld, rfl⟩ := (Reachable.start hbuild).split_turns haligned h
  have hmem : a.order.sprite ∈ (start.run before).group a.order.key.type := hworld ▸ htaken.mem_group
  exact ⟨htaken, hworld ▸ history_run haligned hbuild before hmem⟩

/-- The turns of a sprite are of its type. -/
theorem type_of_mem_turns {before after : List Action} {type : TypeId} {s : Sprite}
    (hs : s ∈ (start.run before).group type) {a : Turn} (ha : a ∈ start.turns s.id (before ++ after)) :
    a.order.key.type = type := by
  rw [turns_append] at ha
  rcases List.mem_append.1 ha with ha | ha
  · exact (history_run haligned hbuild before hs).type_of_mem a ha
  · have hreach : Reachable rules (start.run before) := (Reachable.start hbuild).run before
    obtain ⟨ts, us, hsplit⟩ := List.append_of_mem ha
    obtain ⟨htaken, hid, between, -, -, hworld, -⟩ := hreach.split_turns haligned hsplit
    have hfollows : (start.run before).Follows a.world := hworld ▸ follows_run _ between
    exact ((hreach.settled haligned).type_of_id hfollows hs htaken.mem_group hid.symm).symm

/-- What is known of a turn of a sprite, whenever the sprite is looked at. -/
theorem turn_of_sprite {before after : List Action} {type : TypeId} {s : Sprite}
    (hs : s ∈ (start.run before).group type) {t : Template} (ht : rules.template? type = some t) {ts us : List Turn}
    {a : Turn} (h : start.turns s.id (before ++ after) = ts ++ a :: us) :
    a.Taken rules ∧ a.order.template = t ∧ History rules ts a.world type a.order.sprite := by
  obtain ⟨htaken, hhistory⟩ := history_of_turns haligned hbuild h
  have hmem : a ∈ start.turns s.id (before ++ after) := by simp [h]
  have htype : a.order.key.type = type := type_of_mem_turns haligned hbuild hs hmem
  rw [htype] at hhistory
  rw [← htype, htaken.template] at ht
  exact ⟨htaken, Option.some.inj ht, hhistory⟩

end Run

end World

end SpriteGame
