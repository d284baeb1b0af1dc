import SpriteGame.Analysis
import SpriteGame.Proofs.Dispatch
/-!
# Registered types

The numbers in a compiled rule set mean something: every type that a template, an effect
or a termination speaks of is registered, and every rule that the dispatch table speaks of
is there (`registered_compile`). They come from names that were resolved, whatever other
problems the description has.
-/
namespace SpriteGame

/-! ## Resolved names -/

/-- What a reader makes of a value that may be missing, it makes of one that is there. -/
theorem Checked.some_of_bind {α β : Type} {x : Checked (Option α)} {f : Option α → Checked (Option β)} {b : β}
    (h : (x >>= f).value = some b) (hnone : (f none).value = none) :
    ∃ a, x.value = some a ∧ (f (some a)).value = some b := by
  rw [Checked.value_bind] at h
  cases hx : x.value with
  | none => rw [hx, hnone] at h; cases h
  | some a => exact ⟨a, rfl, hx ▸ h⟩

namespace Registry

variable {registry : Registry} {id : TypeId}

theorem resolve?_of_ofExcept {name : String} {place : Place}
    (h : (Checked.ofExcept (registry.resolve name place)).value = some id) : registry.resolve? name = some id := by
  unfold resolve at h
  split at h
  · next hid => exact hid.trans h
  · cases h

theorem lt_of_ofExcept_resolve {name : String} {place : Place}
    (h : (Checked.ofExcept (registry.resolve name place)).value = some id) : id < registry.size :=
  resolve?_lt (resolve?_of_ofExcept h)

end Registry

namespace Params

variable {params : Params} {place : Place} {registry : Registry} {key : String} {id : TypeId}

theorem sprite?_lt (h : (params.sprite? place registry key).value = some id) : id < registry.size := by
  unfold sprite? at h
  split at h
  · cases h
  · exact Registry.lt_of_ofExcept_resolve h

theorem requiredSprite?_lt (h : (params.requiredSprite? place registry key).value = some id) :
    id < registry.size := by
  unfold requiredSprite? at h
  split at h
  · cases h
  · exact Registry.lt_of_ofExcept_resolve h

end Params

/-! ## Templates -/

namespace Template

theorem target_build_lt {id : TypeId} {keyword : Option String} {own : Params} {parent : Option Template}
    {registry : Registry} {type : TypeId}
    (h : (build id keyword own parent registry).value.target = some type) : type < registry.size := by
  unfold build at h
  simp only [Checked.value_bind, (fields_read ..).2.2.2.2.2] at h
  exact Params.sprite?_lt h

end Template

/-! ## Effects -/

namespace Effect

variable {params : Params} {place : Place} {registry : Registry} {e : Effect}

theorem types_readType {make : TypeId → Effect} (hmake : ∀ type, (make type).referencedTypes = [type])
    (h : (readType params place registry make).value = some e) :
    ∀ type ∈ e.referencedTypes, type < registry.size := by
  obtain ⟨type, htype, h⟩ := Checked.some_of_bind h rfl
  obtain rfl : make type = e := Option.some.inj h
  rw [hmake]
  exact List.forall_mem_singleton.2 (Params.requiredSprite?_lt htype)

theorem types_readLimit {make : TypeId → Int → Effect}
    (hmake : ∀ type limit, (make type limit).referencedTypes = [type])
    (h : (readLimit params place registry make).value = some e) :
    ∀ type ∈ e.referencedTypes, type < registry.size := by
  obtain ⟨type, htype, h⟩ := Checked.some_of_bind h rfl
  obtain rfl : make type _ = e := Option.some.inj h
  rw [hmake]
  exact List.forall_mem_singleton.2 (Params.requiredSprite?_lt htype)

theorem types_readSpeed {change : SpeedChange} (h : (readSpeed params place registry change).value = some e) :
    ∀ type ∈ e.referencedTypes, type < registry.size := by
  obtain ⟨type, htype, h⟩ := Checked.some_of_bind h rfl
  obtain rfl : speedToAll type _ change = e := Option.some.inj h
  exact List.forall_mem_singleton.2 (Params.requiredSprite?_lt htype)

theorem types_readParams (hr : registry.WellFormed) {kind : EffectKind}
    (h : (readParams params place registry kind).value = some e) :
    ∀ type ∈ e.referencedTypes, type < registry.size := by
  cases kind with
  | killAll | spawn | spawnBehind => exact types_readType (fun _ => rfl) h
  | killIfHasMore | killIfHasLess | killIfOtherHasMore => exact types_readLimit (fun _ _ => rfl) h
  | increaseSpeedToAll | decreaseSpeedToAll | setSpeedForAll => exact types_readSpeed h
  | undoAll =>
    obtain rfl := Option.some.inj h
    intro type htype
    obtain ⟨named, -, htype⟩ := List.mem_flatMap.1 htype
    exact ((hr.closed named type).1 htype).2.1
  | spawnIfHasMore =>
    obtain ⟨resource, hresource, h⟩ := Checked.some_of_bind h rfl
    simp only [Checked.value_bind] at h
    split at h
    · next type htype =>
      obtain rfl := Option.some.inj h
      exact List.forall_mem_cons.2 ⟨Params.requiredSprite?_lt hresource,
        List.forall_mem_singleton.2 (Params.requiredSprite?_lt htype)⟩
    · cases h
  | transformTo | changeResource =>
    obtain ⟨type, htype, h⟩ := Checked.some_of_bind h rfl
    obtain rfl := Option.some.inj h
    exact List.forall_mem_singleton.2 (Params.requiredSprite?_lt htype)
  | _ =>
    obtain rfl := Option.some.inj h
    nofun

theorem types_read? (hr : registry.WellFormed) {keyword : String}
    (h : (read? params place registry keyword).value = some e) :
    ∀ type ∈ e.referencedTypes, type < registry.size := by
  unfold read? at h
  split at h
  · cases h
  · exact types_readParams hr h

end Effect

namespace Interaction

variable {registry : Registry} {placeholders : Params} {d : InteractionDef} {r : Interaction}

theorem effect_readBetween {place : Place} {first second : TypeId}
    (h : (readBetween registry d place first second).value = some r) :
    (Effect.read? d.params place registry d.effect).value = some r.effect := by
  obtain ⟨e, he, h⟩ := Checked.some_of_bind h rfl
  simp only [Checked.value_bind] at h
  split at h <;> cases h <;> exact he

theorem types_effect_read? (hr : registry.WellFormed) (h : (read? registry placeholders d).value = some r) :
    ∀ type ∈ r.effect.referencedTypes, type < registry.size := by
  unfold read? at h
  dsimp only at h
  split at h
  · split at h
    · cases h
    · exact Effect.types_read? hr (effect_readBetween h)
  all_goals cases h

end Interaction

/-! ## Terminations -/

namespace Termination

variable {params : Params} {place : Place} {registry : Registry}

theorem resolveAll_lt {names : List String} {types : List TypeId}
    (h : (resolveAll place registry names).value = some types) : ∀ type ∈ types, type < registry.size := by
  induction names generalizing types with
  | nil =>
    obtain rfl := Option.some.inj h
    nofun
  | cons name names ih =>
    obtain ⟨type, htype, h⟩ := Checked.some_of_bind h rfl
    obtain ⟨rest, hrest, h⟩ := Checked.some_of_bind h rfl
    obtain rfl := Option.some.inj h
    exact List.forall_mem_cons.2 ⟨Registry.lt_of_ofExcept_resolve htype, ih hrest⟩

theorem types_readCondition {kind : TerminationKind} {c : Condition}
    (h : (readCondition params place registry kind).value = some c) : ∀ type ∈ c.types, type < registry.size := by
  cases kind with
  | spriteCounter =>
    obtain ⟨type, htype, h⟩ := Checked.some_of_bind h rfl
    obtain rfl := Option.some.inj h
    exact List.forall_mem_singleton.2 (Params.requiredSprite?_lt htype)
  | multiSpriteCounter =>
    obtain ⟨types, htypes, h⟩ := Checked.some_of_bind h rfl
    dsimp only at h
    split at h
    · cases h
    · obtain rfl := Option.some.inj h
      exact resolveAll_lt htypes
  | timeout =>
    obtain rfl := Option.some.inj h
    nofun

theorem types_read? {d : TerminationDef} {t : Termination} (h : (read? registry d).value = some t) :
    ∀ type ∈ t.condition.types, type < registry.size := by
  unfold read? at h
  cases hkind : TerminationKind.ofKeyword? d.kind with
  | none =>
    simp only [hkind] at h
    obtain ⟨limit, -, h⟩ := Checked.some_of_bind h rfl
    obtain ⟨score, -, h⟩ := Checked.some_of_bind h rfl
    obtain ⟨win, -, h⟩ := Checked.some_of_bind h rfl
    cases h
  | some kind =>
    simp only [hkind] at h
    rw [Checked.value_bind] at h
    obtain ⟨limit, -, h⟩ := Checked.some_of_bind h rfl
    obtain ⟨score, -, h⟩ := Checked.some_of_bind h rfl
    obtain ⟨win, -, h⟩ := Checked.some_of_bind h rfl
    obtain ⟨condition, hcondition, h⟩ := Checked.some_of_bind h rfl
    obtain rfl := Option.some.inj h
    exact types_readCondition hcondition

end Termination

/-! ## Rule sets -/

namespace Ruleset

/-- What a rule set speaks of is there. -/
structure Registered (r : Ruleset) : Prop where
  aligned : r.Aligned
  targets : ∀ t ∈ r.templates, ∀ type, t.target = some type → type < r.registry.size
  effects : ∀ rule ∈ r.interactions, ∀ type ∈ rule.effect.referencedTypes, type < r.registry.size
  conditions : ∀ t ∈ r.terminations, ∀ type ∈ t.condition.types, type < r.registry.size
  rules : ∀ p ∈ r.dispatch, ∀ i ∈ p.rules, i < r.interactions.size

variable (d : Description) (settings : Settings)

theorem registered_compile : (compile d settings).value.Registered where
  aligned := aligned_compile d settings
  targets := forall_templates_compile d settings fun _ _ _ _ _ => Template.target_build_lt
  effects rule h := by
    obtain ⟨def', -, hread⟩ := mem_interactions_compile d settings h
    exact Interaction.types_effect_read? (wellFormed_compile d settings) hread
  conditions t h := by
    have h' : t ∈ (Checked.keepEach (Termination.read? (compile d settings).value.registry)
        d.terminations).value := h
    rw [Checked.value_keepEach] at h'
    obtain ⟨def', -, hread⟩ := List.mem_filterMap.1 h'
    exact Termination.types_read? hread
  rules p hp i hi := by
    have hp' : p ∈ (compile d settings).value.dispatch.toList := Array.mem_toList_iff.2 hp
    rw [dispatch_compile, Pairing.table_eq (wellFormed_compile d settings)] at hp'
    obtain ⟨x, -, rfl⟩ := List.mem_map.1 hp'
    obtain ⟨rule, hrule, -⟩ := (Pairing.mem_rules_between _ _ x i).1 hi
    rw [← Array.length_toList]
    exact (List.getElem?_eq_some_iff.1 hrule).1

end Ruleset

end SpriteGame
