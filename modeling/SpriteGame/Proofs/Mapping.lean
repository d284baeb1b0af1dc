import SpriteGame.Proofs.Report
/-!
# Level mappings by name

A rule set reports its level mapping with the names of the types. Types have names of their
own, so the names that are reported resolve to the types that they stand for
(`resolveMapping_names`), and a level that is tried with the reported mapping gives what it
gives without one (`tryLevel_mappingNames`).
-/
namespace SpriteGame

namespace Ruleset

variable {registry : Registry}

/-! ## Names and back -/

theorem resolveNames_names (symbol : Char) {types : List TypeId}
    (h : ∀ type ∈ types, registry.resolve? (registry.name type) = some type) :
    (resolveNames registry symbol (types.map registry.name)).value = types ∧
      (resolveNames registry symbol (types.map registry.name)).problems = [] := by
  refine Checked.keepEach_of_forall₂ ?_
  rw [List.forall₂_map_left_iff, List.forall₂_same]
  intro type htype
  unfold Registry.resolve
  rw [h type htype]
  rfl

/-- Types that are found by their names are mapped by their names as they are themselves. -/
theorem resolveMapping_names {mapping : SortedMap Char (List TypeId)}
    (h : ∀ e ∈ mapping.entries, ∀ type ∈ e.2, registry.resolve? (registry.name type) = some type) :
    let names := mapping.mapValues fun _ types => types.map registry.name
    (resolveMapping registry names).value = mapping ∧ (resolveMapping registry names).problems = [] := by
  intro names
  constructor
  · rw [value_resolveMapping]
    refine SortedMap.eq_of_entries ?_
    calc (names.mapValues fun symbol names => (resolveNames registry symbol names).value).entries
        = mapping.entries.map fun e => (e.1, (resolveNames registry e.1 (e.2.map registry.name)).value) := List.map_map
      _ = mapping.entries.map id := List.map_congr_left fun e he => by rw [(resolveNames_names e.1 (h e he)).1, id]
      _ = mapping.entries := List.map_id _
  · rw [problems_resolveMapping, List.flatMap_eq_nil_iff]
    intro entry hentry
    obtain ⟨e, he, rfl⟩ := List.mem_map.1 hentry
    exact (resolveNames_names e.1 (h e he)).2

/-! ## Compiled rule sets -/

variable (d : Description) (settings : Settings)

/-- The types of a rule set are found by their names, whatever is wrong with the description. -/
theorem resolve?_name_compile {id : TypeId} (hid : id < (compile d settings).value.registry.size) :
    (compile d settings).value.registry.resolve? ((compile d settings).value.registry.name id) = some id :=
  Registry.resolve?_name_of_nodup (nodup_declare Registry.wellFormed_new (by decide)) hid

/-- The mapping that a rule set reports is read back as its own. -/
theorem resolveMapping_mappingNames :
    let rules := (compile d settings).value
    (resolveMapping rules.registry rules.mappingNames).value = rules.levelMapping ∧
      (resolveMapping rules.registry rules.mappingNames).problems = [] := by
  refine resolveMapping_names fun e he type htype => resolve?_name_compile d settings ?_
  exact type_lt_of_mapped (SortedMap.get?_of_mem_entries he) type htype

/-- A level that is tried with the mapping that is reported gives what it gives with none in place
of that of the game, be it a world or problems, and also if the description has problems. If it has
none, the description builds the same. -/
theorem tryLevel_mappingNames (level : String) (seed : UInt64) :
    let rules := (compile d settings).value
    rules.tryLevel level (some rules.mappingNames) seed = rules.tryLevel level none seed ∧
    ((compile d settings).problems = [] → d.build level seed settings = rules.tryLevel level none seed) := by
  intro rules
  obtain ⟨hvalue, hproblems⟩ := resolveMapping_mappingNames d settings
  constructor
  · unfold tryLevel
    dsimp only
    rw [hproblems, hvalue]
    rfl
  · exact Description.build_of_no_problem

/-- The corridor with a character for a wall and a ghost that there is not. -/
def hauntedCorridor : Description :=
  { World.corridor with levelMapping := .ofList [('g', ["ghost", "wall"]), ('n', [])] }

/-- In the corridor both ways lead to the same world; with a ghost in the mapping, which is left
out of what is reported, they still do. -/
theorem tryLevel_mappingNames_corridor :
    (∃ start, World.corridor.build "wA w" 7 .default = .ok start ∧
      let rules := (compile World.corridor .default).value
      rules.tryLevel "wA w" (some rules.mappingNames) 7 = .ok start) ∧
    let rules := (compile hauntedCorridor .default).value
    (compile hauntedCorridor .default).problems = [.unknownSprite "ghost" (.mapping 'g')] ∧
      rules.mappingNames.entries = [('A', ["avatar"]), ('g', ["wall"]), ('n', []), ('w', ["wall"])] ∧
      ∃ start, rules.tryLevel "wgnA w" none 7 = .ok start ∧
        rules.tryLevel "wgnA w" (some rules.mappingNames) 7 = .ok start := by
  have hproblems : (compile World.corridor .default).problems = [] := by decide +kernel
  obtain ⟨hsame, hbuild⟩ := tryLevel_mappingNames World.corridor .default "wA w" 7
  obtain ⟨start, hstart, -⟩ := @World.exists_start_corridor (fun _ => true) (by decide +kernel)
  obtain ⟨hhaunted, -⟩ := tryLevel_mappingNames hauntedCorridor .default "wgnA w" 7
  obtain ⟨other, hother, -⟩ := @World.exists_start (compile hauntedCorridor .default).value "wgnA w" 7
    (fun _ => true) (by decide +kernel)
  exact ⟨⟨start, (hbuild hproblems).trans hstart, hsame.trans hstart⟩, by decide +kernel, by decide +kernel,
    other, hother, hhaunted.trans hother⟩

end Ruleset

end SpriteGame
