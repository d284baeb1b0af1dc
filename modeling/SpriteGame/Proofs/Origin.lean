import SpriteGame.Proofs.Effects
import SpriteGame.Proofs.Layout
import SpriteGame.Proofs.Orders
/-!
# Where sprites come from

A sprite is placed by the level, or it is asked for: by a sprite whose class spawns others, or
by the effect of a rule. All but a clone are of a type that has been named for it, so a type
that nothing names has no sprite at any time (`group_run_eq_nil`). The type of the screen edge
is no exception: it can be named where any other one can (`edge_origin`).
-/
namespace SpriteGame

/-! ## Types that are named -/

/-- Some character of a level stands for a type. -/
def Level.Places (rules : Ruleset) (level : String) (type : TypeId) : Prop :=
  ∃ row ∈ rows level.toList, ∃ c ∈ row, type ∈ (rules.levelMapping.get? c).getD []

/-- Some class or effect makes sprites of a type. -/
def Ruleset.Makes (rules : Ruleset) (type : TypeId) : Prop :=
  (∃ t ∈ rules.templates, t.cls.spawns = true ∧ t.target = some type) ∨
    ∃ rule ∈ rules.interactions, rule.effect.made? = some type

instance (rules : Ruleset) (level : String) (type : TypeId) : Decidable (Level.Places rules level type) :=
  -- By way of `List.any`, so that it is the row that is searched and not all of `Char`.
  decidable_of_iff (∃ row ∈ Level.rows level.toList,
    row.any (fun c => decide (type ∈ (rules.levelMapping.get? c).getD [])) = true) <| by
    simp only [Level.Places, List.any_eq_true, decide_eq_true_eq]

instance (rules : Ruleset) (type : TypeId) : Decidable (rules.Makes type) :=
  inferInstanceAs (Decidable (_ ∨ _))

namespace Level

theorem exists_request_iff {rules : Ruleset} {level : String} {type : TypeId} :
    (∃ r ∈ requests rules (rows level.toList), r.type = type) ↔ Places rules level type := by
  rw [Placement.requests_eq]
  constructor
  · rintro ⟨r, hr, rfl⟩
    obtain ⟨p, hp, rfl⟩ := List.mem_map.1 hr
    obtain ⟨row, c, types, hrow, hc, htypes, htype⟩ := Placement.mem_all.1 hp
    refine ⟨row, List.mem_of_getElem? hrow, c, List.mem_of_getElem? hc, ?_⟩
    rw [htypes]
    exact List.mem_of_getElem? htype
  · rintro ⟨row, hrow, c, hc, htype⟩
    cases htypes : rules.levelMapping.get? c with
    | none => simp [htypes] at htype
    | some types =>
      rw [htypes] at htype
      obtain ⟨y, hrow⟩ := List.mem_iff_getElem?.1 hrow
      obtain ⟨x, hc⟩ := List.mem_iff_getElem?.1 hc
      obtain ⟨k, htype⟩ := List.mem_iff_getElem?.1 htype
      have hplaced : (⟨y, x, k, type⟩ : Placement) ∈ Placement.all rules (rows level.toList) :=
        Placement.mem_all.2 ⟨row, c, types, hrow, hc, htypes, htype⟩
      exact ⟨_, List.mem_map_of_mem hplaced, rfl⟩

end Level

namespace World

variable {w v : World} {type : TypeId}

/-! ## Requests -/

theorem group_foldl_instantiate_of_ne {rs : List SpawnRequest} (h : ∀ r ∈ rs, r.type ≠ type) (w : World) :
    (rs.foldl instantiate w).group type = w.group type := by
  induction rs generalizing w with
  | nil => rfl
  | cons r rs ih =>
    obtain ⟨hr, hrs⟩ := List.forall_mem_cons.1 h
    rw [List.foldl_cons, ih hrs, group_instantiate_of_ne w hr]

/-- The first request for a type of which there is no sprite is never passed over. -/
theorem group_instantiate_eq_nil {t : Template} (ht : w.rules.template? type = some t) (hlt : type < w.groups.size)
    (r : SpawnRequest) : (w.instantiate r).group type = [] ↔ w.group type = [] ∧ r.type ≠ type := by
  by_cases htype : r.type = type
  · subst htype
    refine ⟨fun hnil => ?_, fun h => absurd rfl h.2⟩
    obtain ⟨new, hnew, -⟩ := (extends_instantiate w r).groups r.type
    rw [hnil] at hnew
    have hnone : w.group r.type = [] := (List.append_eq_nil_iff.1 hnew.symm).1
    have hadmits : w.admits t r.type = true := by simp [admits, hnone]
    unfold instantiate at hnil
    rw [ht] at hnil
    dsimp only at hnil
    rw [if_pos hadmits, group_create w hlt, if_pos rfl] at hnil
    simp at hnil
  · rw [group_instantiate_of_ne w htype]
    exact (and_iff_left htype).symm

theorem group_foldl_instantiate_eq_nil {t : Template} (ht : w.rules.template? type = some t)
    (hlt : type < w.groups.size) (rs : List SpawnRequest) :
    (rs.foldl instantiate w).group type = [] ↔ w.group type = [] ∧ ∀ r ∈ rs, r.type ≠ type := by
  induction rs generalizing w with
  | nil => simp
  | cons r rs ih =>
    have hgrown := extends_instantiate w r
    rw [List.foldl_cons, ih (hgrown.rules ▸ ht) (hgrown.size ▸ hlt), group_instantiate_eq_nil ht hlt, and_assoc,
      List.forall_mem_cons]

/-! ## Ticks -/

/-- In the course of a tick there is no sprite of a type, and none is asked for. -/
structure Lacks (w : World) (type : TypeId) : Prop where
  typed : w.All fun other s => s.type = other
  none : w.group type = []
  spawns : ∀ r ∈ w.spawns, r.type ≠ type

theorem Lacks.of_ensues (h : v.Lacks type) (h' : v.Ensues w) (hspawns : ∀ r ∈ w.spawns, r.type ≠ type) :
    w.Lacks type := by
  refine ⟨fun other s hs => ?_, ?_, hspawns⟩
  · obtain ⟨t, ht, htag⟩ := h'.exists_tag hs
    have htype : t.type = s.type := congrArg Prod.snd htag
    exact htype ▸ h.typed other t ht
  · have htags := h'.tags type
    rw [h.none, List.map_nil, List.map_eq_nil_iff] at htags
    exact htags

theorem Lacks.type_ne (h : w.Lacks type) {key : Key} {s : Sprite} (hs : w.sprite? key = some s) : s.type ≠ type := by
  have hmem : s ∈ w.group key.type := mem_group_iff.2 ⟨key.index, hs⟩
  rintro rfl
  rw [← h.typed key.type s hmem, h.none] at hmem
  cases hmem

theorem Lacks.edit (h : w.Lacks type) {e : Edit} (he : ∀ r, e = .spawn r → r.type ≠ type) : (w.edit e).Lacks type := by
  refine h.of_ensues (ensues_edit w e) fun r hr => ?_
  cases e with
  | kill | change => exact h.spawns r hr
  | spawn r' =>
    rcases List.mem_append.1 hr with hr | hr
    · exact h.spawns r hr
    · exact he r (by rw [List.mem_singleton.1 hr])

theorem Lacks.edits {es : List Edit} (h : w.Lacks type) (hes : ∀ r, .spawn r ∈ es → r.type ≠ type) :
    (w.edits es).Lacks type :=
  List.foldlRecOn (motive := fun v => v.Lacks type) es World.edit h fun _ hv _ he =>
    hv.edit fun r hr => hes r (hr ▸ he)

theorem Lacks.moved (h : w.Lacks type) (hmakes : ¬w.rules.Makes type) (action : Action) : (w.moved action).Lacks type := by
  have hcounted : (w.counted action).Lacks type := ⟨h.typed, h.none, h.spawns⟩
  rw [moved_eq]
  refine (hcounted.of_ensues (ensues_startTick _) h.spawns).edits fun r hr => ?_
  obtain ⟨o, ho, hr⟩ := List.mem_flatMap.1 hr
  obtain ⟨-, ht, rng, hcommand⟩ := mem_ordersOf ho
  have hspawn := Command.spawn_mem_edits hr
  rw [hcommand] at hspawn
  obtain ⟨target, center, dir, htarget, rfl⟩ := Command.spawn_plan hspawn
  rintro rfl
  exact hmakes (.inl ⟨o.template, Array.mem_of_getElem? ht, Command.spawns_of_spawn_plan hspawn, htarget⟩)

theorem firing_lacks (type : TypeId) : Firing fun v w => v.Lacks type → w.Lacks type :=
  ⟨fun _ => id, fun h h' => h' ∘ h, fun _ _ _ h => ⟨h.typed, h.none, h.spawns⟩⟩

theorem Lacks.fireAll (h : w.Lacks type) (hmakes : ¬w.rules.Makes type) (cs : List Collision) :
    (w.fireAll cs).Lacks type := by
  refine (firing_lacks type).fireAll (fun rule hrule v c _ hv => ?_) cs h
  obtain hsame | ⟨es, rng, hes, hedits⟩ := rule.effect.apply_cases v (some c.first) c.second
  · rw [hsame]
    exact hv
  · rw [hedits]
    refine Lacks.edits ⟨hv.typed, hv.none, hv.spawns⟩ fun r hr => ?_
    obtain ⟨s, hs, hasks⟩ := Effect.asks_of_mem_edits? hes hr
    rcases hasks.made_or_type with hmade | htype
    · rintro rfl
      exact hmakes (.inr ⟨rule, hrule, hmade⟩)
    · -- A clone is of the type of a sprite that there is.
      rw [htype]
      exact hv.type_ne hs

theorem Lacks.resolved (h : w.Lacks type) (hmakes : ¬w.rules.Makes type) (action : Action) :
    (w.resolved action).Lacks type := by
  refine (h.moved hmakes action).fireAll ?_ _
  rw [(ensues_moved w action).rules]
  exact hmakes

theorem group_step_of_lacks (h : w.Lacks type) (hmakes : ¬w.rules.Makes type) (action : Action) :
    (w.step action).group type = [] := by
  have hresolved := h.resolved hmakes action
  unfold step commit
  rw [group_judge, group_foldl_instantiate_of_ne hresolved.spawns, group_settle, hresolved.none, List.filter_nil]

/-! ## Episodes -/

theorem Settled.lacks (h : w.Settled) (hnone : w.group type = []) : w.Lacks type where
  typed other s hs := (h.typed other s hs).1
  none := hnone
  spawns := by
    rw [h.spawns]
    exact nofun

variable {rules : Ruleset} {level : String} {seed : UInt64} {start : World}

/-- A level has sprites of just the types that it places. -/
theorem group_start_eq_nil (haligned : rules.Aligned) (htype : type < rules.registry.size)
    (h : build rules level seed = .ok start) : start.group type = [] ↔ ¬Level.Places rules level type := by
  obtain ⟨-, rfl⟩ := build_eq_ok_iff.1 h
  obtain ⟨t, ht⟩ := haligned.exists_template htype
  have hlt : type < (bare rules seed (Level.bounds rules.blockSize (Level.rows level.toList))).groups.size := by
    simpa [bare] using htype
  rw [group_withActions, group_foldl_instantiate_eq_nil ht hlt, group_bare, and_iff_right rfl,
    ← Level.exists_request_iff]
  simp

/-- A type that neither the level nor the rules name has no sprite in any run. -/
theorem group_run_eq_nil (haligned : rules.Aligned) (hmakes : ¬rules.Makes type) (hreach : Reachable rules start)
    (h : start.group type = []) (actions : List Action) : (start.run actions).group type = [] := by
  induction actions generalizing start with
  | nil => exact h
  | cons action actions ih =>
    refine ih (hreach.attempt action) ?_
    rcases attempt_cases start action with hsame | hadv
    · rw [hsame]
      exact h
    · obtain ⟨-, hstep⟩ := advance_eq_ok_iff.1 hadv
      rw [← hstep]
      exact group_step_of_lacks ((hreach.settled haligned).lacks h) (hreach.rules ▸ hmakes) action

end World

/-! ## The screen edge -/

theorem Ruleset.edge_lt_compile (d : Description) (settings : Settings) :
    Registry.edge < (compile d settings).value.registry.size := by
  obtain ⟨-, hsize⟩ := ids_declare d.walk Registry.new
  have hnew : 0 < Registry.new.size := by decide
  show 0 < (declare .new d.walk).value.1.size
  omega

namespace Description

variable {d : Description} {level : String} {seed : UInt64} {settings : Settings} {start : World}

/-- An episode starts with sprites of the screen edge just if the level places some, and has
some later only if the level or the rules name its type to be made. -/
theorem edge_origin (h : d.build level seed settings = .ok start) :
    let rules := (Ruleset.compile d settings).value
    (start.group Registry.edge = [] ↔ ¬Level.Places rules level Registry.edge) ∧
    (¬Level.Places rules level Registry.edge → ¬rules.Makes Registry.edge →
      ∀ actions, (start.run actions).group Registry.edge = []) := by
  intro rules
  obtain ⟨-, hbuild⟩ := build_eq_ok_iff.1 h
  have haligned : rules.Aligned := Ruleset.aligned_compile d settings
  have hstart := World.group_start_eq_nil haligned (Ruleset.edge_lt_compile d settings) hbuild
  exact ⟨hstart, fun hplaces hmakes =>
    World.group_run_eq_nil haligned hmakes (.start hbuild) (hstart.2 hplaces)⟩

/-- In the corridor nothing names the screen edge to be made. -/
theorem edge_origin_corridor :
    ∃ start, World.corridor.build "wA w" 7 .default = .ok start ∧
      ∀ actions, (start.run actions).group Registry.edge = [] := by
  obtain ⟨start, hbuild, -⟩ := @World.exists_start_corridor (fun _ => true) (by decide +kernel)
  have h : World.corridor.build "wA w" 7 .default = .ok start := build_eq_ok_iff.2 ⟨by decide +kernel, hbuild⟩
  have hplaces : ¬Level.Places (Ruleset.compile World.corridor .default).value "wA w" Registry.edge := by decide +kernel
  have hmakes : ¬(Ruleset.compile World.corridor .default).value.Makes Registry.edge := by decide +kernel
  exact ⟨start, h, (edge_origin h).2 hplaces hmakes⟩

/-- A game that names the screen edge wherever it names what is to be made. -/
def leaky : Description :=
  { Description.empty with
    sprites := [
      ⟨"wall", some "Immovable", .empty, [], 1⟩,
      ⟨"box", some "Immovable", .empty, [], 2⟩,
      ⟨"nest", some "SpawnPoint", .ofList [("stype", "EOS")], [], 3⟩,
      ⟨"avatar", some "ShootAvatar", .ofList [("stype", "EOS")], [], 4⟩]
    interactions := [
      ⟨"avatar", "wall", "spawn", .ofList [("stype", "EOS")], 5⟩,
      ⟨"avatar", "box", "transformTo", .ofList [("stype", "EOS")], 6⟩]
    levelMapping := .ofList [('b', ["box"]), ('e', ["EOS"]), ('n', ["nest"])] }

/-- A run of the leaky game ends with a sprite of the screen edge. -/
def Leaks (level : String) (actions : List Action) : Prop :=
  ∃ start, leaky.build level 7 .default = .ok start ∧ (start.run actions).group Registry.edge ≠ []

instance (level : String) (actions : List Action) : Decidable (Leaks level actions) :=
  decidable_of_iff ((leaky.build level 7 .default).toOption.any (fun start =>
    decide ((start.run actions).group Registry.edge ≠ [])) = true) <| by
    unfold Leaks
    cases leaky.build level 7 .default <;> simp [Except.toOption]

/-- The level, a spawn point, a shot and two effects all make sprites of the screen edge. -/
theorem edge_leaks :
    Leaks "Ae" [] ∧ Leaks "A n" [.idle] ∧ Leaks "A " [.use] ∧ Leaks "Aw" [.right] ∧ Leaks "Ab" [.right] := by
  decide +kernel

end Description

end SpriteGame
