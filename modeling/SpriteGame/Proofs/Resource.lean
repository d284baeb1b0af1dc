import SpriteGame.Proofs.Effects
import SpriteGame.Proofs.Identity
import SpriteGame.Proofs.Orders
/-!
# Resources

What a sprite holds of a resource stays between zero and the limit of the rules:
`resources_run`. Amounts are written by what collects or changes a resource, with the limit
of the rules, and by what spends one, with no limit but only downwards (`Change.Capped`).
All else that reaches a sprite is what another one held when a request took it over, so the
requests of a tick belong to the invariant (`World.Capped`).
-/
namespace SpriteGame

/-! ## Limits -/

/-- Amounts of resources are within the limits of the rules. -/
def Ruleset.Caps (rules : Ruleset) (held : SortedMap TypeId Int) : Prop :=
  ∀ r, 0 ≤ (held.get? r).getD 0 ∧ (held.get? r).getD 0 ≤ max 0 (rules.resourceLimit r)

theorem Ruleset.caps_empty (rules : Ruleset) : rules.Caps .empty := by
  intro r
  rw [SortedMap.get?_empty, Option.getD_none]
  omega

theorem Ruleset.resourceLimit_of_template {rules : Ruleset} {type : TypeId} {t : Template}
    (ht : rules.template? type = some t) (hrole : t.role = .resource) :
    rules.resourceLimit type = t.resourceLimit := by
  rw [resourceLimit, ht]
  exact if_pos hrole

/-- A change of what is held goes by the limit of the rules, or does not go up. -/
def Sprite.Change.Capped (rules : Ruleset) : Sprite.Change → Prop
  | .gain r delta limit => limit = rules.resourceLimit r ∨ delta ≤ 0
  | _ => True

/-- What a request takes over is within the limits. -/
def SpawnRequest.Capped (rules : Ruleset) (r : SpawnRequest) : Prop := ∀ held, r.resources = some held → rules.Caps held

def Edit.Capped (rules : Ruleset) : Edit → Prop
  | .kill _ => True
  | .change _ cs => ∀ c ∈ cs, c.Capped rules
  | .spawn r => r.Capped rules

variable {rules : Ruleset}

/-! ## Sprites -/

namespace Sprite

theorem caps_gain {s : Sprite} {r : TypeId} {delta limit : Int} (hs : rules.Caps s.resources)
    (h : limit = rules.resourceLimit r ∨ delta ≤ 0) : rules.Caps (s.gain r delta limit).resources := by
  intro other
  have hother := hs other
  unfold gain resource
  dsimp only
  rw [SortedMap.get?_insert]
  split
  · next heq =>
    obtain rfl := Std.LawfulEqOrd.eq_of_compare heq
    rw [Option.getD_some]
    rcases h with rfl | hdelta <;> omega
  · exact hother

theorem caps_change {s : Sprite} {c : Change} (hs : rules.Caps s.resources) (hc : c.Capped rules) :
    rules.Caps (s.change c).resources := by
  cases c with
  | gain r delta limit => exact caps_gain hs hc
  | coast p cooldown block =>
    have hsame : (s.change (.coast p cooldown block)).resources = s.resources :=
      frame_coast (fun _ _ _ _ _ => rfl) ..
    exact hsame ▸ hs
  | drive p dir speed cooldown block =>
    have hsame : (s.change (.drive p dir speed cooldown block)).resources = s.resources :=
      frame_drive (fun _ _ _ _ _ => rfl) ..
    exact hsame ▸ hs
  | _ => exact hs

theorem caps_changes {cs : List Change} {s : Sprite} (hs : rules.Caps s.resources)
    (hcs : ∀ c ∈ cs, c.Capped rules) : rules.Caps (s.changes cs).resources :=
  List.foldlRecOn (motive := fun s => rules.Caps s.resources) cs change hs fun _ hs c hc => caps_change hs (hcs c hc)

end Sprite

namespace SpawnRequest

theorem capped_plain (type : TypeId) (center : Vec) : (plain type center).Capped rules := nofun

theorem capped_facingTo (type : TypeId) (center dir : Vec) : (facingTo type center dir).Capped rules := nofun

theorem resources_make (r : SpawnRequest) (id : Nat) (block : Float32) (t : Template) :
    (r.make id block t).resources = r.resources.getD .empty := by
  unfold make
  cases r.facing <;> rfl

theorem Capped.make {r : SpawnRequest} (h : r.Capped rules) (id : Nat) (block : Float32) (t : Template) :
    rules.Caps (r.make id block t).resources := by
  rw [resources_make]
  cases hr : r.resources with
  | none => exact rules.caps_empty
  | some held => exact h held hr

end SpawnRequest

namespace World

/-! ## Edits -/

/-- All that sprites hold, or that requests take over, is within the limits of the rules. -/
structure Capped (rules : Ruleset) (w : World) : Prop where
  sameRules : w.rules = rules
  sprites : w.All fun _ s => rules.Caps s.resources
  spawns : ∀ r ∈ w.spawns, r.Capped rules

variable {w : World}

theorem Capped.sprite? (h : w.Capped rules) {key : Key} {s : Sprite} (hs : w.sprite? key = some s) :
    rules.Caps s.resources := h.sprites key.type s (mem_group_iff.2 ⟨key.index, hs⟩)

theorem Capped.modify (h : w.Capped rules) (key : Key) {f : Sprite → Sprite}
    (hf : ∀ s, rules.Caps s.resources → rules.Caps (f s).resources) : (w.modify key f).Capped rules :=
  ⟨h.sameRules, all_modify h.sprites key fun _ s => hf s, h.spawns⟩

theorem Capped.edit (h : w.Capped rules) {e : Edit} (he : e.Capped rules) : (w.edit e).Capped rules := by
  cases e with
  | kill key => exact h.modify key fun _ => id
  | change key cs => exact h.modify key fun s hs => Sprite.caps_changes hs he
  | spawn r =>
    refine ⟨h.sameRules, h.sprites, fun r' hr' => ?_⟩
    rcases List.mem_append.1 hr' with hr' | hr'
    · exact h.spawns r' hr'
    · exact List.mem_singleton.1 hr' ▸ he

theorem Capped.edits {es : List Edit} (h : w.Capped rules) (hes : ∀ e ∈ es, e.Capped rules) :
    (w.edits es).Capped rules :=
  List.foldlRecOn es World.edit h fun _ hv e he => hv.edit (hes e he)

end World

/-! ## Orders -/

namespace Command

/-- A sprite changes what it holds only by spending. -/
theorem capped_changes (c : Command) (s : Sprite) (t : Template) (block : Float32) :
    ∀ change ∈ c.changes s t block, change.Capped rules := by
  intro change hchange
  cases change with
  | gain r delta limit =>
    have hspent : delta = -1 := by
      unfold changes at hchange
      simp only [List.mem_append, Option.mem_toList, Option.map_eq_some_iff, reduceCtorEq, and_false, exists_false,
        or_false] at hchange
      rcases hchange with (⟨r', -, heq⟩ | hcoast) | hdrive
      · cases heq
        rfl
      · split at hcoast <;> simp at hcoast
      · split at hdrive <;> simp at hdrive
    exact .inr (by omega)
  | _ => trivial

theorem capped_edits {c : Command} (hspawn : ∀ r, c.spawn = some r → r.Capped rules) (key : Key) (s : Sprite)
    (t : Template) (block : Float32) : ∀ e ∈ c.edits key s t block, e.Capped rules := by
  intro e he
  cases e with
  | kill other => trivial
  | change other cs =>
    obtain ⟨-, rfl, -⟩ := change_mem_edits he
    exact c.capped_changes s t block
  | spawn r => exact hspawn r (spawn_mem_edits he)

end Command

/-! ## Effects -/

namespace Effect

variable {w : World} {key other : Key} {s o : Sprite} {second : Option Key} {e : Effect} {es : List Edit}
  {rng : Random}

/-- What gains does so by the limit of the rules. -/
theorem limit_of_gain_mem_alone (hes : e.alone w key s second = some (es, rng)) {r : TypeId} {delta limit : Int}
    (he : e.makes (.gain r delta limit) = true) {k : Key} {cs : List Sprite.Change} (hcs : .change k cs ∈ es)
    (hgain : .gain r delta limit ∈ cs) : limit = w.rules.resourceLimit r := by
  cases e <;> simp only [makes, Bool.false_eq_true] at he
  case changeResource resource value killResource =>
    have hother : Edit.change k cs ∉ killOther killResource second := by
      cases killResource <;> cases second <;> simp [killOther]
    simp only [alone, certain_eq_some] at hes
    obtain ⟨rfl, -⟩ := hes
    obtain ⟨-, rfl⟩ : k = key ∧ cs = _ := by simpa [hother] using hcs
    obtain ⟨rfl, -, rfl⟩ := Sprite.Change.gain.inj (List.mem_singleton.1 hgain)
    rfl
  case collectResource => cases hes

theorem limit_of_gain_mem_between (hes : e.between w key s other o = some (es, rng)) {r : TypeId}
    {delta limit : Int} (he : e.makes (.gain r delta limit) = true) {k : Key} {cs : List Sprite.Change}
    (hcs : .change k cs ∈ es) (hgain : .gain r delta limit ∈ cs) : limit = w.rules.resourceLimit r := by
  cases e <;> simp only [makes, Bool.false_eq_true] at he
  case collectResource killResource =>
    simp only [between] at hes
    split at hes
    · cases hes
    · next t ht =>
      rw [provided_eq_some, Bool.and_eq_true, decide_eq_true_eq] at hes
      obtain ⟨⟨hrole, -⟩, rfl, -⟩ := hes
      obtain ⟨-, rfl⟩ : k = other ∧ cs = _ := by cases killResource <;> simpa using hcs
      obtain ⟨rfl, -, rfl⟩ := Sprite.Change.gain.inj (List.mem_singleton.1 hgain)
      exact (Ruleset.resourceLimit_of_template ht hrole).symm
  case changeResource => cases hes

/-- An effect keeps within the limits, and asks for nothing else. -/
theorem capped_edits? (h : w.Capped rules) {c : Collision} (hc : c.holds w = true)
    (hes : e.edits? w (some c.first) c.second = some (es, rng)) : ∀ e ∈ es, e.Capped rules := by
  intro edit hedit
  cases edit with
  | kill => trivial
  | change k cs =>
    intro change hchange
    have hmakes := (tidy_edits? hc hes).kinds_of_mem hedit change hchange
    cases change with
    | gain r delta limit =>
      left
      rw [← h.sameRules]
      obtain ⟨s, -, hes⟩ := edits?_eq_some.1 hes
      split at hes
      · obtain ⟨other, o, -, -, hes⟩ := hes
        exact limit_of_gain_mem_between hes hmakes hedit hchange
      · exact limit_of_gain_mem_alone hes hmakes hedit hchange
    | _ => trivial
  | spawn r =>
    intro held hheld
    obtain ⟨s, hs, hasks⟩ := asks_of_mem_edits? hes hedit
    -- Only a successor takes something over, and that is what the first side holds.
    cases hasks with
    | plain | clone => cases hheld
    | successor => exact Option.some.inj hheld ▸ h.sprite? hs

end Effect

/-! ## Ticks -/

namespace World

variable {w : World}

theorem Capped.moved (h : w.Capped rules) (action : Action) : (w.moved action).Capped rules := by
  have hstart : (w.counted action).startTick.Capped rules := by
    refine ⟨h.sameRules, fun type s hs => ?_, h.spawns⟩
    rw [group_startTick] at hs
    obtain ⟨t, ht, rfl⟩ := List.mem_map.1 hs
    exact h.sprites type t ht
  rw [moved_eq]
  refine hstart.edits fun e he => ?_
  obtain ⟨o, ho, he⟩ := List.mem_flatMap.1 he
  obtain ⟨-, -, rng, hcommand⟩ := mem_ordersOf ho
  refine Command.capped_edits (fun r hr => ?_) _ _ _ _ e he
  rw [hcommand] at hr
  obtain ⟨type, center, dir, -, rfl⟩ := Command.spawn_plan hr
  exact SpawnRequest.capped_facingTo type center dir

theorem firing_capped (rules : Ruleset) : Firing fun v u => v.Capped rules → u.Capped rules :=
  ⟨fun _ => id, fun h h' => h' ∘ h, fun _ _ _ h => { h with }⟩

theorem Capped.fireAll (h : w.Capped rules) (cs : List Collision) : (w.fireAll cs).Capped rules := by
  refine (firing_capped rules).fireAll (fun r _ v c hc hv => ?_) cs h
  obtain hsame | ⟨es, rng, hes, hedits⟩ := r.effect.apply_cases v (some c.first) c.second
  · rw [hsame]
    exact hv
  · rw [hedits]
    exact Capped.edits { hv with } (Effect.capped_edits? hv hc hes)

theorem Capped.resolved (h : w.Capped rules) (action : Action) : (w.resolved action).Capped rules :=
  (h.moved action).fireAll _

theorem Capped.instantiate (h : w.Capped rules) {r : SpawnRequest} (hr : r.Capped rules) :
    (w.instantiate r).Capped rules := by
  rcases instantiate_cases w r with hw | ⟨t, -, hw⟩ <;> rw [hw]
  · exact h
  · refine ⟨h.sameRules, fun type s hs => ?_, h.spawns⟩
    rcases mem_group_create hs with hs | ⟨-, rfl⟩
    · exact h.sprites type s hs
    · exact hr.make _ _ _

theorem Capped.foldl_instantiate {rs : List SpawnRequest} (h : w.Capped rules)
    (hrs : ∀ r ∈ rs, r.Capped rules) : (rs.foldl World.instantiate w).Capped rules :=
  List.foldlRecOn rs World.instantiate h fun _ hv r hr => hv.instantiate (hrs r hr)

theorem Capped.settle (h : w.Capped rules) : w.settle.Capped rules := by
  refine ⟨h.sameRules, fun type s hs => ?_, nofun⟩
  rw [group_settle] at hs
  exact h.sprites type s (List.mem_filter.1 hs).1

theorem Capped.commit (h : w.Capped rules) : w.commit.Capped rules := h.settle.foldl_instantiate h.spawns

theorem Capped.judge (h : w.Capped rules) : w.judge.Capped rules := by
  obtain ⟨outcome, score, hjudge⟩ := judge_eq w
  rw [hjudge]
  exact { h with }

theorem Capped.step (h : w.Capped rules) (action : Action) : (w.step action).Capped rules :=
  (h.resolved action).commit.judge

/-! ## Episodes -/

theorem Capped.withActions (h : w.Capped rules) : w.withActions.Capped rules :=
  ⟨h.sameRules, h.sprites, h.spawns⟩

theorem Reachable.capped (h : Reachable rules w) : w.Capped rules := by
  induction h with
  | @start level seed w h =>
    obtain ⟨bounds, requests, rfl, hplain⟩ := eq_of_build_plain h
    have hbare : (bare rules seed bounds).Capped rules := by
      refine ⟨rfl, fun type s hs => ?_, nofun⟩
      rw [group_bare] at hs
      cases hs
    refine Capped.withActions (hbare.foldl_instantiate fun r hr => ?_)
    obtain ⟨type, center, rfl⟩ := hplain r hr
    exact SpawnRequest.capped_plain type center
  | tick hw hadv ih =>
    obtain ⟨-, rfl⟩ := advance_eq_ok_iff.1 hadv
    exact ih.step _

/-- In every world of an episode what a sprite holds of a resource is not negative, and not
above the limit of the rules, or zero if the limit is below it. So it is in the course of a
tick, too. -/
theorem resources_run {level : String} {seed : UInt64} {start : World}
    (h : build rules level seed = .ok start) (actions : List Action) :
    let w := start.run actions
    (∀ type, ∀ s ∈ w.group type, ∀ r, 0 ≤ s.resource r ∧ s.resource r ≤ max 0 (rules.resourceLimit r)) ∧
    ∀ action type, ∀ s ∈ (w.resolved action).group type, ∀ r,
      0 ≤ s.resource r ∧ s.resource r ≤ max 0 (rules.resourceLimit r) := by
  intro w
  have hcapped : w.Capped rules := ((Reachable.start h).run actions).capped
  exact ⟨hcapped.sprites, fun action => (hcapped.resolved action).sprites⟩

/-- On the errand the avatar takes the gem in the second tick, and then holds one. -/
theorem resources_run_errand :
    ∃ start, build (Ruleset.compile errand .default).value "n\nA g" 7 = .ok start ∧
      ∃ s ∈ (start.run [.right, .right]).group 4, s.resource 1 = 1 ∧
        s.resource 1 ≤ max 0 ((Ruleset.compile errand .default).value.resourceLimit 1) := by
  obtain ⟨start, h, hcheck⟩ := @exists_start (Ruleset.compile errand .default).value "n\nA g" 7
    (fun w => decide (∃ s ∈ (w.run [.right, .right]).group 4, s.resource 1 = 1)) (by decide +kernel)
  obtain ⟨s, hs, hone⟩ := of_decide_eq_true hcheck
  exact ⟨start, h, s, hs, hone, ((resources_run h [.right, .right]).1 4 s hs 1).2⟩

end World

end SpriteGame
