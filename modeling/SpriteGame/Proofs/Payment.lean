import SpriteGame.Proofs.Births
import SpriteGame.Proofs.Faultless
import SpriteGame.Proofs.Limits
import SpriteGame.Proofs.Resource
/-!
# Paid spawns

A shot costs a unit of the ammunition, and what a spawn point sends out counts against its
total. Both are paid when the order is carried out, and the request is met at the end of the
tick, when it comes to its turn. In between there is no check whether it can be met: it is
refused if it is for a singleton that is there, or that an earlier request of the tick has
made, and then the payment stands (`paid_spawns`).
-/
namespace SpriteGame

/-! ## Amounts that fit -/

theorem Numeral.signed?_le {max : Nat} {s : List Char} {n : Int} (h : signed? max s = some n) : n ≤ max := by
  unfold signed? at h
  split at h <;> obtain ⟨a, ha, rfl⟩ := Option.map_eq_some_iff.1 h <;>
    obtain ⟨m, hm, ha⟩ := Option.bind_eq_some_iff.1 ha <;> obtain rfl := Option.some.inj ha
  · omega
  · have hle : m ≤ max := by simpa using (Option.filter_eq_some_iff.1 hm).2
    omega

theorem Params.int_le {params : Params} {place : Place} {key : String} {default : Int}
    (h : default ≤ Numeral.intMax) : (params.int place key default).value ≤ Numeral.intMax := by
  unfold int parsed
  split
  · exact h
  · split
    · next n hn => exact Numeral.signed?_le hn
    · exact h

theorem Template.resourceLimit_read_le (id : TypeId) (cls : SpriteClass) (params : Params) (registry : Registry) :
    (read id cls params registry).value.resourceLimit ≤ Numeral.intMax := by
  have hdefault : defaultResourceLimit ≤ Numeral.intMax := by decide
  unfold read
  simp only [Checked.value_bind]
  split <;> simp only [Checked.value_bind] <;> split <;> simp only [Checked.value_bind] <;> split <;>
    first | exact hdefault | exact Params.int_le hdefault

theorem Template.resourceLimit_build_le (id : TypeId) (keyword : Option String) (own : Params) (parent : Option Template)
    (registry : Registry) : (build id keyword own parent registry).value.resourceLimit ≤ Numeral.intMax := by
  unfold build
  simp only [Checked.value_bind]
  exact resourceLimit_read_le ..

/-- What a resource is limited to is a number of 32 bits. -/
theorem Ruleset.resourceLimit_compile_le (d : Description) (settings : Settings) (type : TypeId) :
    (compile d settings).value.resourceLimit type ≤ Numeral.intMax := by
  have hall : ∀ t ∈ (compile d settings).value.templates, t.resourceLimit ≤ Numeral.intMax :=
    forall_templates_compile d settings fun id keyword own parent =>
      Template.resourceLimit_build_le id keyword own parent _
  unfold resourceLimit
  split
  · next t ht =>
    split
    · exact hall t (Array.mem_of_getElem? ht)
    · exact Int.le_refl _
  · exact Int.le_refl _

/-! ## What is paid -/

/-- What a command pays for the sprite that it asks for. -/
inductive Command.Costs (s : Sprite) (t : Template) (c : Command) : Prop
  | shot (hcls : t.cls = .shootAvatar) (hspend : c.spend = t.ammo) (hheld : ∀ a ∈ t.ammo, 1 ≤ s.resource a)
      (hremove : c.remove = false)
  | sent (hcls : t.cls = .spawnPoint) (hcounter : c.counter = some (s.counter + 1))
      (hremove : c.remove = exhausted t (s.counter + 1))

namespace Command

variable {s : Sprite} {t : Template} {r : SpawnRequest}

theorem costs_emit {rng : Random} (hcls : t.cls = .spawnPoint) (h : (emit s t rng).1.spawn = some r) :
    Costs s t (emit s t rng).1 := by
  rcases emit_cases s t rng with ⟨-, hemit⟩ | ⟨-, hemit | ⟨q, hemit⟩⟩
  · rw [hemit] at h
    cases h
  · rw [hemit] at h
    cases h
  · rw [hemit]
    exact .sent hcls rfl rfl

theorem costs_shoot {block : Float32} (hcls : t.cls = .shootAvatar) (h : (shoot s t block).spawn = some r) :
    Costs s t (shoot s t block) := by
  unfold shoot at h ⊢
  split at h
  · cases h
  · split at h
    · cases h
    · next hammo =>
      rw [if_neg hammo]
      refine .shot hcls rfl (fun a ha => ?_) rfl
      simpa [Option.mem_def.1 ha] using hammo

/-- Whoever asks for a sprite pays for it. -/
theorem costs_plan {w : World} {key : Key} {action : Action} {rng : Random}
    (h : (plan w key s t action rng).1.spawn = some r) : Costs s t (plan w key s t action rng).1 := by
  have hspawns := spawns_of_spawn_plan h
  unfold plan at h ⊢
  cases hcls : t.cls with
  | spawnPoint =>
    rw [hcls] at h
    exact costs_emit hcls h
  | shootAvatar =>
    rw [hcls] at h
    dsimp only at h ⊢
    split at h
    · next huse =>
      rw [if_pos huse]
      exact costs_shoot hcls h
    · rw [spawn_turnAndMove] at h
      cases h
  | _ =>
    rw [hcls] at hspawns
    cases hspawns

/-- What a command does to what is held is to spend. -/
theorem resources_changes (c : Command) (s : Sprite) (t : Template) (block : Float32) (u : Sprite) :
    (u.changes (c.changes s t block)).resources =
      (u.changes (c.spend.map fun r => Sprite.Change.gain r (-1) Numeral.intMax).toList).resources := by
  -- Of the changes only the first can be a gain; those behind it leave alone what is held.
  have hrest : ∀ change ∈ (c.counter.map Sprite.Change.setCounter).toList ++
      (c.lastCommand.map Sprite.Change.setLastCommand).toList ++ (c.facing.map Sprite.Change.face).toList ++
      (if c.coasts && s.canCoast t.physics then [.coast t.physics t.cooldown block] else []) ++
      (if c.drive.isZero then [] else [.drive t.physics c.drive none t.cooldown block]),
      ∀ u : Sprite, (u.change change).resources = u.resources := by
    intro change hchange u
    cases change with
    | gain => simp at hchange
    | coast => exact Sprite.frame_coast (fun _ _ _ _ _ => rfl) ..
    | drive => exact Sprite.frame_drive (fun _ _ _ _ _ => rfl) ..
    | _ => rfl
  have hframe := Sprite.frame_changes (f := Sprite.resources) hrest
  unfold changes
  simp only [Sprite.changes_append] at hframe ⊢
  rw [hframe]

end Command

/-- What an order that asks for a sprite has cost, in the sprite that it leaves behind: a shot a
unit of the ammunition, of which there was one, and a spawn point one of its spawns, with the
last of which it goes. -/
structure Order.Paid (o : Order) (m : Sprite) : Prop where
  cls : o.template.cls = .shootAvatar ∨ o.template.cls = .spawnPoint
  ammo : o.template.cls = .shootAvatar → ∀ a ∈ o.template.ammo,
    1 ≤ o.sprite.resource a ∧ m.resource a = o.sprite.resource a - 1
  counter : o.template.cls = .spawnPoint →
    if Command.exhausted o.template (o.sprite.counter + 1) then m.alive = false
    else m.counter = o.sprite.counter + 1

theorem Order.paid_carry {o : Order} (h : o.command.Costs o.sprite o.template)
    (hfits : ∀ a, o.sprite.resource a ≤ Numeral.intMax) (block : Float32) :
    o.Paid (o.carry block o.sprite.startTick) := by
  unfold Order.carry
  cases h with
  | shot hcls hspend hheld hremove =>
    rw [if_neg (by simp [hremove])]
    refine ⟨.inl hcls, fun _ a ha => ⟨hheld a ha, ?_⟩, fun h => absurd (hcls.symm.trans h) nofun⟩
    have hspent : (o.sprite.startTick.changes (o.command.changes o.sprite o.template block)).resources =
        (o.sprite.startTick.gain a (-1) Numeral.intMax).resources := by
      rw [Command.resources_changes, hspend, Option.mem_def.1 ha]
      rfl
    have hone := hheld a ha
    have hmax := hfits a
    have hstart : o.sprite.startTick.resource a = o.sprite.resource a := rfl
    rw [Sprite.resource, hspent, Sprite.gain, SortedMap.get?_insert_self, Option.getD_some, hstart]
    omega
  | sent hcls hcounter hremove =>
    refine ⟨.inr hcls, fun h => absurd (hcls.symm.trans h) nofun, fun _ => ?_⟩
    rw [hremove]
    cases Command.exhausted o.template (o.sprite.counter + 1) with
    | true => rfl
    | false =>
      have hmemory := Command.memory_changes o.command o.sprite o.template block o.sprite.startTick
      rw [hcounter] at hmemory
      exact congrArg (·.2.1) hmemory

namespace World

/-! ## Whether a request is met -/

section Turn

variable {u : World} {earlier later : List SpawnRequest} {r : SpawnRequest} {t : Template}
  (hspawns : u.spawns = earlier ++ r :: later) (hrules : u.rules.Aligned)
  (hsize : u.groups.size = u.rules.registry.size) (htypes : ∀ q ∈ u.spawns, q.type < u.rules.registry.size)
  (ht : u.rules.template? r.type = some t)

include hspawns hrules hsize htypes ht

/-- A request that is refused could as well not have been made. -/
theorem commit_of_refused (hrefused : u.rules.grants u.present earlier r = false) :
    u.commit = { u with spawns := earlier ++ later }.commit := by
  have hearlier : ∀ q ∈ earlier, q.type < u.settle.rules.registry.size := fun q hq =>
    htypes q (hspawns ▸ List.mem_append_left _ hq)
  obtain ⟨-, hgroups⟩ := group_foldl_instantiate_eq (w := u.settle) hrules (Array.size_map.trans hsize) hearlier
  have hadmits := admits_foldl_instantiate (w := u.settle) ht (hgroups r.type t ht)
  rw [funext u.present_settle, rules_settle, hrefused] at hadmits
  -- When its turn comes, the request finds the world as those before it have left it, and changes nothing.
  have hsame : (earlier.foldl instantiate u.settle).instantiate r = earlier.foldl instantiate u.settle := by
    rw [instantiate, (extends_foldl_instantiate earlier u.settle).rules, rules_settle, ht]
    exact if_neg (by simp [hadmits])
  unfold commit
  rw [hspawns, List.foldl_append, List.foldl_cons, hsame, List.foldl_append]
  rfl

/-- A request that is granted makes a sprite, and the requests behind it leave it alone. -/
theorem mem_commit_of_granted (hgranted : u.rules.grants u.present earlier r = true) :
    r.make (u.nextId + (u.births earlier).length) u.blockSize t ∈ u.commit.group r.type := by
  have hupto : ∀ q ∈ earlier ++ [r], q.type < u.settle.rules.registry.size := by
    intro q hq
    refine htypes q (hspawns ▸ ?_)
    simp only [List.mem_append, List.mem_cons, List.not_mem_nil, or_false] at hq ⊢
    exact hq.imp_right .inl
  obtain ⟨-, hgroups⟩ := group_foldl_instantiate_eq (w := u.settle) hrules (Array.size_map.trans hsize) hupto
  have hmade : r.make (u.nextId + (u.births earlier).length) u.blockSize t ∈
      ((earlier ++ [r]).foldl instantiate u.settle).group r.type := by
    rw [hgroups r.type t ht, births_settle, births_concat, if_pos hgranted, newcomers_append]
    refine List.mem_append_right _ (List.mem_append_right _ ?_)
    simp only [newcomers, List.filter_cons, decide_true, if_true, List.filter_nil]
    exact List.mem_singleton.2 rfl
  have hgrown := extends_foldl_instantiate later ((earlier ++ [r]).foldl instantiate u.settle)
  obtain ⟨new, hnew, -⟩ := hgrown.groups r.type
  have hcommit : u.commit = later.foldl instantiate ((earlier ++ [r]).foldl instantiate u.settle) := by
    rw [commit, hspawns, ← List.foldl_append, List.append_assoc, List.singleton_append]
  rw [hcommit, hnew]
  exact List.mem_append_left _ hmade

end Turn

theorem grants_eq_false_iff {u : World} {earlier : List SpawnRequest} {r : SpawnRequest} {t : Template}
    (ht : u.rules.template? r.type = some t) :
    u.rules.grants u.present earlier r = false ↔
      t.singleton ∧ (u.present r.type ∨ ∃ q ∈ earlier, q.type = r.type) := by
  rw [Ruleset.grants, Ruleset.isSingleton_eq ht, Bool.not_eq_false', Bool.and_eq_true, Bool.or_eq_true,
    List.any_eq_true]
  simp only [decide_eq_true_eq]

/-! ## Ticks -/

/-- What the orders of a tick ask for is queued in their order, before all that its rules ask for. -/
theorem Settled.spawns_resolved {w : World} (h : w.Settled) (action : Action) :
    ∃ later, (w.resolved action).spawns = (w.orders action).1.filterMap (·.command.spawn) ++ later := by
  have hmoved : (w.moved action).spawns = (w.orders action).1.filterMap (·.command.spawn) := by
    rw [moved_eq, spawns_carryOut]
    show w.spawns ++ _ = _
    rw [h.spawns, List.nil_append]
  obtain ⟨later, hlater⟩ := (ensues_fireAll (w.moved action) (w.moved action).detect).spawns
  exact ⟨later, by rw [← hmoved, hlater]; rfl⟩

/-- What becomes of a spawn that an order has paid for, in any tick of an episode. The payment is
made in the first half of the tick. The request is queued behind those of the orders before, and
when its turn comes at the end of the tick a new sprite is made as it asks. But it is refused if it
is for a singleton that is still there or that an earlier request was for: then the tick ends as if
it had not been made, while the payment stands. -/
theorem paid_spawns {d : Description} {settings : Settings} {w v : World} {action : Action}
    (hw : Reachable (Ruleset.compile d settings).value w) (hv : w.advance action = .ok v)
    {before after : List Order} {o : Order} (ho : (w.orders action).1 = before ++ o :: after)
    {r : SpawnRequest} (hr : o.command.spawn = some r) :
    let u := w.resolved action
    let earlier := before.filterMap (·.command.spawn)
    (∃ m, (w.moved action).sprite? o.key = some m ∧ o.Paid m) ∧
    ∃ later t, u.spawns = earlier ++ r :: later ∧ w.rules.template? r.type = some t ∧
      let refused := t.singleton ∧ (u.present r.type ∨ ∃ q ∈ earlier, q.type = r.type)
      (¬ refused → ∃ s ∈ v.group r.type, s.id = w.nextId + (u.births earlier).length ∧ r.Meets w.blockSize t s) ∧
      (refused → v = { u with spawns := earlier ++ later }.commit.judge) := by
  intro u earlier
  obtain ⟨-, rfl⟩ := advance_eq_ok_iff.1 hv
  have hmem : o ∈ (w.orders action).1 := ho ▸ List.mem_append_right _ List.mem_cons_self
  obtain ⟨hlive, -, rng, hplan⟩ := mem_ordersOf hmem
  have hcosts : o.command.Costs o.sprite o.template := by
    rw [hplan] at hr ⊢
    exact Command.costs_plan hr
  have hfits : ∀ a, o.sprite.resource a ≤ Numeral.intMax := fun a => by
    have hcaps := (hw.capped.sprite? (sprite?_of_mem_live hlive) a).2
    have hlimit := Ruleset.resourceLimit_compile_le d settings a
    exact Int.le_trans hcaps (Int.max_le.2 ⟨by decide, hlimit⟩)
  have hsound : u.Sound := ((hw.sound (Ruleset.registered_compile d settings)).resolved action).2
  have hrules : u.rules = w.rules := (ensues_resolved w action).rules
  obtain ⟨later, hlater⟩ := (hw.settled (Ruleset.aligned_compile d settings)).spawns_resolved action
  have hspawns : u.spawns = earlier ++ r :: (after.filterMap (·.command.spawn) ++ later) := by
    have horders : (before ++ o :: after).filterMap (·.command.spawn) =
        earlier ++ r :: after.filterMap (·.command.spawn) := by
      rw [List.filterMap_append, List.filterMap_cons, hr]
    rw [hlater, ho, horders, List.append_assoc, List.cons_append]
  have htype : r.type < u.rules.registry.size :=
    hsound.spawns r (hspawns ▸ List.mem_append_right _ List.mem_cons_self)
  obtain ⟨t, ht⟩ := hsound.exists_template htype
  have ht' : w.rules.template? r.type = some t := by rwa [← hrules]
  refine ⟨⟨_, sprite?_moved hmem, Order.paid_carry hcosts hfits _⟩, _, t, hspawns, ht', fun hgranted => ?_,
    fun hrefused => ?_⟩
  · have hgrants : u.rules.grants u.present earlier r = true :=
      Bool.not_eq_false _ ▸ fun h => hgranted ((grants_eq_false_iff ht).1 h)
    have hmade := mem_commit_of_granted hspawns hsound.registered.aligned hsound.size hsound.spawns ht hgrants
    have hnext : u.nextId = w.nextId := (ensues_resolved w action).nextId
    have hblock : u.blockSize = w.blockSize := congrArg Ruleset.blockSize hrules
    have hgroup : (w.step action).group r.type = u.commit.group r.type := group_judge ..
    rw [hnext, hblock, ← hgroup] at hmade
    exact ⟨_, hmade, congrArg Prod.fst (r.tag_make ..), r.meets_make ..⟩
  · have hcommit := commit_of_refused hspawns hsound.registered.aligned hsound.size hsound.spawns ht
      ((grants_eq_false_iff ht).2 hrefused)
    exact congrArg judge hcommit

/-- Nests that each send out one king, of whom there is to be one only. -/
def heirs : Description :=
  { Description.empty with
    sprites := [
      ⟨"king", some "Immovable", .ofList [("singleton", "True")], [], 1⟩,
      ⟨"nest", some "SpawnPoint", .ofList [("stype", "king"), ("total", "1")], [], 2⟩,
      ⟨"avatar", some "MovingAvatar", .empty, [], 3⟩]
    levelMapping := .ofList [('k', ["king"]), ('n', ["nest"])] }

/-- The first of two nests sends out its king. The second is refused, and goes all the same. -/
theorem paid_spawns_heirs :
    ∃ start, build (Ruleset.compile heirs .default).value "nnA" 7 = .ok start ∧
      (∃ s ∈ (start.step .idle).group 1, s.alive = true) ∧
      ∃ key m, (start.moved .idle).sprite? key = some m ∧ m.alive = false ∧ ∃ r : SpawnRequest,
        start.step .idle = { start.resolved .idle with spawns := [r] }.commit.judge := by
  have hking : ((Ruleset.compile heirs .default).value.template? 1).map (·.singleton) = some true := by decide +kernel
  obtain ⟨start, h, hcheck⟩ := @exists_start (Ruleset.compile heirs .default).value "nnA" 7
    (fun w => decide (w.outcome.isOver = false ∧ (w.resolved .idle).present 1 = false ∧
      (w.resolved .idle).spawns.length = 2 ∧
      (w.orders .idle).1.map (fun o => (o.command.spawn.map (·.type), o.template.cls, o.template.total)) =
        [(some 1, .spawnPoint, 1), (some 1, .spawnPoint, 1), (none, .movingAvatar, 0)])) (by decide +kernel)
  obtain ⟨hon, habsent, htwo, horders⟩ := of_decide_eq_true hcheck
  have hreach : Reachable _ start := .start h
  have hadv : start.advance .idle = .ok (start.step .idle) := advance_eq_ok_iff.2 ⟨hon, rfl⟩
  obtain ⟨first, second, last, hsplit⟩ : ∃ first second last, (start.orders .idle).1 = [first, second, last] := by
    have hlength := congrArg List.length horders
    rw [List.length_map] at hlength
    exact List.length_eq_three.1 hlength
  simp only [hsplit, List.map_cons, List.map_nil, List.cons.injEq, Prod.mk.injEq] at horders
  obtain ⟨⟨hfirst, -, -⟩, ⟨hsecond, hcls, htotal⟩, -⟩ := horders
  obtain ⟨r, hr, hrtype⟩ := Option.map_eq_some_iff.1 hfirst
  obtain ⟨q, hq, hqtype⟩ := Option.map_eq_some_iff.1 hsecond
  obtain ⟨-, later, t, -, -, hgranted, -⟩ := @paid_spawns _ _ _ _ _ hreach hadv [] _ _ hsplit _ hr
  obtain ⟨⟨m, hm, hpaid⟩, later', t', hspawns, ht', -, hrefused⟩ :=
    @paid_spawns _ _ _ _ _ hreach hadv [first] _ _ hsplit _ hq
  have hsingle : t'.singleton = true := by
    rw [hqtype, hreach.rules] at ht'
    rw [ht', Option.map_some, Option.some.injEq] at hking
    exact hking
  obtain ⟨s, hs, -, hmeets⟩ := hgranted fun h => by simp [hrtype, habsent] at h
  refine ⟨start, h, ⟨s, hrtype ▸ hs, hmeets.alive⟩, second.key, m, hm, ?_, r, ?_⟩
  · have hcounter := hpaid.counter hcls
    rwa [if_pos (by simp [Command.exhausted, htotal])] at hcounter
  · have hlast := hrefused ⟨hsingle, .inr ⟨r, by simp [hr], hrtype.trans hqtype.symm⟩⟩
    have hnone : later' = [] := by
      rw [hspawns] at htwo
      simpa [hr] using htwo
    simpa [hnone, hr] using hlast

/-- A nest pays for a king beside a living one: the nest is gone, and no king has come. -/
theorem spawn_lost :
    ∃ start, build (Ruleset.compile heirs .default).value "kAn" 7 = .ok start ∧
      Reachable (Ruleset.compile heirs .default).value start ∧
      (∃ o ∈ (start.orders .idle).1, o.template.cls = .spawnPoint ∧ 0 < o.template.total ∧
        o.command.spawn.isSome ∧ o.command.counter = some 1) ∧
      (start.group 2).length = 1 ∧ (start.step .idle).group 2 = [] ∧
      ((start.step .idle).group 1).map (·.id) = (start.group 1).map (·.id) ∧
      (start.step .idle).nextId = start.nextId := by
  obtain ⟨start, h, hcheck⟩ := @exists_start (Ruleset.compile heirs .default).value "kAn" 7
    (fun w => decide ((∃ o ∈ (w.orders .idle).1, o.template.cls = .spawnPoint ∧ 0 < o.template.total ∧
        o.command.spawn.isSome ∧ o.command.counter = some 1) ∧
      (w.group 2).length = 1 ∧ (w.step .idle).group 2 = [] ∧
      ((w.step .idle).group 1).map (·.id) = (w.group 1).map (·.id) ∧
      (w.step .idle).nextId = w.nextId)) (by decide +kernel)
  exact ⟨start, h, .start h, of_decide_eq_true hcheck⟩

end World

end SpriteGame
