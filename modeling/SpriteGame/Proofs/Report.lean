import SpriteGame.Proofs.Complete
import SpriteGame.Proofs.Episode
import SpriteGame.Validation
/-!
# What a failed build reports

A build fails for the problems of the rules, or for the characters of the level that are
mapped to nothing. The two are told apart by the problems alone, since no problem of rules
is an undefined symbol (`Checked.OfRules`), and a report is never of both: the level is not
looked at while the rules have a problem (`build_report`).
-/
namespace SpriteGame

/-! ## Problems of rules -/

/-- A problem that rules can have, whatever the level. -/
def Problem.OfRules : Problem → Prop
  | undefinedSymbol _ => False
  | _ => True

namespace Checked

variable {α β : Type}

/-- All problems found are of rules. -/
def OfRules (x : Checked α) : Prop := ∀ p ∈ x.problems, p.OfRules

@[simp] theorem ofRules_pure (a : α) : (pure a : Checked α).OfRules := nofun

@[simp] theorem ofRules_warn (w : Warning) : (warn w).OfRules := nofun

@[simp] theorem ofRules_problem (a : α) {p : Problem} : OfRules ⟨a, [p], []⟩ ↔ p.OfRules :=
  List.forall_mem_singleton

@[simp] theorem ofRules_report {p : Problem} : (report p).OfRules ↔ p.OfRules := List.forall_mem_singleton

@[simp] theorem ofRules_reportAll {l : List α} {f : α → Problem} (h : ∀ a, (f a).OfRules) :
    (reportAll (l.map f)).OfRules := List.forall_mem_map.2 fun a _ => h a

@[simp] theorem ofRules_bind {x : Checked α} {f : α → Checked β} :
    (x >>= f).OfRules ↔ x.OfRules ∧ (f x.value).OfRules := List.forall_mem_append

/-- What needs a value has no other problem than those with a value, and without one. -/
theorem OfRules.bind_option {x : Checked (Option α)} {f : Option α → Checked β} (hx : x.OfRules)
    (hsome : ∀ a, (f (some a)).OfRules) (hnone : (f none).OfRules) : (x >>= f).OfRules := by
  rw [ofRules_bind]
  refine ⟨hx, ?_⟩
  cases x.value with
  | none => exact hnone
  | some a => exact hsome a

@[simp] theorem ofRules_map {x : Checked α} {f : α → β} : (f <$> x).OfRules ↔ x.OfRules := by
  rw [map_eq_pure_bind, ofRules_bind]
  exact and_iff_left (ofRules_pure _)

@[simp] theorem ofRules_ite {c : Prop} [Decidable c] {x y : Checked α} :
    (if c then x else y).OfRules ↔ (c → x.OfRules) ∧ (¬c → y.OfRules) := by
  split <;> simp [*]

theorem ofRules_forEach {f : α → Checked β} {l : List α} (h : ∀ a ∈ l, (f a).OfRules) : (forEach f l).OfRules := by
  unfold OfRules
  rw [problems_forEach]
  intro p hp
  obtain ⟨a, ha, hp⟩ := List.mem_flatMap.1 hp
  exact h a ha p hp

theorem ofRules_keepEach {f : α → Checked (Option β)} {l : List α} (h : ∀ a ∈ l, (f a).OfRules) :
    (keepEach f l).OfRules := by
  unfold keepEach
  rw [ofRules_bind]
  exact ⟨ofRules_forEach h, ofRules_pure _⟩

end Checked

open Checked

theorem Registry.ofRules_of_resolve {r : Registry} {name : String} {place : Place} {p : Problem}
    (h : r.resolve name place = .error p) : p.OfRules := by
  unfold resolve at h
  split at h
  · cases h
  · cases h
    trivial

@[simp] theorem Registry.ofRules_ofExcept_resolve (r : Registry) (name : String) (place : Place) :
    (Checked.ofExcept (r.resolve name place)).OfRules := by
  cases h : r.resolve name place with
  | error p => exact (ofRules_problem _).2 (ofRules_of_resolve h)
  | ok id => exact ofRules_pure _

/-! ### Parameters -/

namespace Params

variable (params : Params) (place : Place) (registry : Registry) (key : String)

@[simp] theorem ofRules_parsed {α : Type} (read : List Char → Option α) (default : α) :
    (params.parsed place read key default).OfRules := by
  unfold parsed
  split
  · exact ofRules_pure _
  · split
    · exact ofRules_pure _
    · exact (ofRules_problem _).2 trivial

@[simp] theorem ofRules_flag (default : Bool) : (params.flag place key default).OfRules := by
  unfold flag
  split
  · exact ofRules_pure _
  · dsimp only
    split
    · exact ofRules_pure _
    · exact (ofRules_problem _).2 trivial

@[simp] theorem ofRules_prob : (params.prob place).OfRules := by
  simp [prob, double]

@[simp] theorem ofRules_sprite? : (params.sprite? place registry key).OfRules := by
  unfold sprite?
  split <;> simp

@[simp] theorem ofRules_requiredSprite? : (params.requiredSprite? place registry key).OfRules := by
  unfold requiredSprite?
  split
  · exact (ofRules_problem _).2 trivial
  · exact registry.ofRules_ofExcept_resolve _ _

@[simp] theorem ofRules_spriteList : (params.spriteList place registry key).OfRules := by
  unfold spriteList
  split
  · exact ofRules_pure _
  · exact ofRules_keepEach fun _ _ => registry.ofRules_ofExcept_resolve _ _

end Params

/-! ### Sprites -/

namespace Template

theorem ofRules_readPhysics (params : Params) (place : Place) : (readPhysics params place).OfRules := by
  unfold readPhysics
  rw [ofRules_bind]
  refine ⟨by simp, ?_⟩
  split <;> simp [Params.single]

theorem ofRules_readClass (name : String) (keyword : Option String) (inherited : SpriteClass) :
    (readClass name keyword inherited).OfRules := by
  unfold readClass
  split
  · exact ofRules_pure _
  · split
    · exact ofRules_pure _
    · exact (ofRules_problem _).2 trivial

theorem ofRules_read (id : TypeId) (cls : SpriteClass) (params : Params) (registry : Registry) :
    (read id cls params registry).OfRules := by
  have hmissing : ∀ place, (Checked.report (.missingParameter "stype" place)).OfRules := fun _ =>
    ofRules_report.2 trivial
  simp [read, hmissing, ofRules_readPhysics, Params.int, Params.single, Params.count, Params.direction,
    Params.double]

theorem ofRules_build (id : TypeId) (keyword : Option String) (own : Params) (parent : Option Template)
    (registry : Registry) : (build id keyword own parent registry).OfRules := by
  have hunknown : ∀ keys : List String, ∀ place,
      (Checked.reportAll (keys.map fun k => .unknownParameter k place)).OfRules := fun _ _ =>
    ofRules_reportAll fun _ => trivial
  simp [build, ofRules_readClass, hunknown, ofRules_read]

end Template

/-! ### Rules -/

namespace Effect

variable {params : Params} {place : Place} {registry : Registry}

theorem ofRules_readType (make : TypeId → Effect) : (readType params place registry make).OfRules :=
  .bind_option (by simp) (by simp) (by simp)

theorem ofRules_readLimit (make : TypeId → Int → Effect) : (readLimit params place registry make).OfRules :=
  .bind_option (by simp) (by simp [Params.int]) (by simp)

theorem ofRules_readSpeed (change : SpeedChange) : (readSpeed params place registry change).OfRules :=
  .bind_option (by simp) (by simp [Params.single]) (by simp)

theorem ofRules_readParams (kind : EffectKind) : (readParams params place registry kind).OfRules := by
  cases kind with
  | killAll | spawn | spawnBehind => exact ofRules_readType _
  | killIfHasMore | killIfHasLess | killIfOtherHasMore => exact ofRules_readLimit _
  | increaseSpeedToAll | decreaseSpeedToAll | setSpeedForAll => exact ofRules_readSpeed _
  | spawnIfHasMore =>
    refine .bind_option (by simp) (fun resource => ?_) (by simp)
    rw [ofRules_bind]
    exact ⟨by simp [Params.int], .bind_option (by simp) (by simp) (by simp)⟩
  | transformTo => exact .bind_option (by simp) (by simp) (by simp)
  | changeResource => exact .bind_option (by simp) (by simp [Params.int]) (by simp)
  | _ => simp [readParams, readPoints, Params.int]

theorem ofRules_read? (keyword : String) : (read? params place registry keyword).OfRules := by
  unfold read?
  split
  · exact (ofRules_problem _).2 trivial
  · rw [ofRules_bind]
    exact ⟨ofRules_reportAll fun _ => trivial, ofRules_readParams _⟩

end Effect

namespace Interaction

variable {registry : Registry}

theorem ofRules_readBetween (d : InteractionDef) (place : Place) (first second : TypeId) :
    (readBetween registry d place first second).OfRules :=
  .bind_option (Effect.ofRules_read? _) (by simp [Params.long]) (by simp)

theorem ofRules_read? (placeholders : Params) (d : InteractionDef) : (read? registry placeholders d).OfRules := by
  unfold read?
  dsimp only
  split
  · split
    · exact (ofRules_problem _).2 trivial
    · exact ofRules_readBetween _ _ _ _
  · next p _ hp _ => exact (ofRules_problem _).2 (Registry.ofRules_of_resolve hp)
  · next q _ hq => exact (ofRules_problem _).2 (Registry.ofRules_of_resolve hq)
  · next p q hp hq =>
    exact List.forall_mem_cons.2
      ⟨Registry.ofRules_of_resolve hp, List.forall_mem_singleton.2 (Registry.ofRules_of_resolve hq)⟩

end Interaction

namespace Termination

variable {params : Params} {place : Place} {registry : Registry}

theorem ofRules_readStrict {α : Type} {read : List Char → Option α} {key : String}
    {entry : Option (List Char)} {default : α} : (readStrict place read key entry default).OfRules := by
  unfold readStrict
  split
  · exact ofRules_pure _
  · split
    · exact ofRules_pure _
    · exact (ofRules_problem _).2 trivial

theorem ofRules_resolveAll (names : List String) : (resolveAll place registry names).OfRules := by
  induction names with
  | nil => exact ofRules_pure _
  | cons name names ih => exact .bind_option (by simp) (fun _ => .bind_option ih (by simp) (by simp)) (by simp)

theorem ofRules_readCondition (kind : TerminationKind) : (readCondition params place registry kind).OfRules := by
  cases kind with
  | spriteCounter => exact .bind_option (by simp) (by simp) (by simp)
  | multiSpriteCounter =>
    refine .bind_option (ofRules_resolveAll _) (fun types => ?_) (by simp)
    dsimp only
    split
    · exact (ofRules_problem _).2 trivial
    · exact ofRules_pure _
  | timeout => exact ofRules_pure _

theorem ofRules_read? (d : TerminationDef) : (read? registry d).OfRules := by
  unfold read?
  cases TerminationKind.ofKeyword? d.kind with
  | none =>
    refine .bind_option ofRules_readStrict (fun _ => .bind_option ofRules_readStrict (fun _ =>
      .bind_option ofRules_readStrict (fun _ => ?_) (by simp)) (by simp)) (by simp)
    exact (ofRules_problem _).2 trivial
  | some kind =>
    dsimp only
    rw [ofRules_bind]
    refine ⟨ofRules_reportAll fun _ => trivial, ?_⟩
    refine .bind_option ofRules_readStrict (fun _ => .bind_option ofRules_readStrict (fun _ =>
      .bind_option ofRules_readStrict (fun _ => ?_) (by simp)) (by simp)) (by simp)
    exact .bind_option (ofRules_readCondition _) (by simp) (by simp)

end Termination

namespace Ruleset

theorem ofRules_declare (r : Registry) (l : List (SpriteDef × Option SpriteDef)) : (declare r l).OfRules := by
  induction l generalizing r with
  | nil => exact ofRules_pure _
  | cons e l ih =>
    unfold declare
    split
    · rw [ofRules_bind]
      exact ⟨ofRules_report.2 trivial, ih r⟩
    · simp [ih]

theorem ofRules_buildTemplates (registry : Registry) (placeholders : Params) (l : List (TypeId × SpriteDef))
    (templates : Array Template) : (buildTemplates registry placeholders l templates).OfRules := by
  induction l generalizing templates with
  | nil => exact ofRules_pure _
  | cons e l ih => simp [buildTemplates, Template.ofRules_build, ih]

theorem ofRules_resolveMapping (registry : Registry) (mapping : SortedMap Char (List String)) :
    (resolveMapping registry mapping).OfRules := by
  unfold resolveMapping
  rw [ofRules_bind]
  refine ⟨ofRules_forEach fun e _ => ?_, ofRules_pure _⟩
  rw [ofRules_bind]
  exact ⟨ofRules_keepEach fun _ _ => registry.ofRules_ofExcept_resolve _ _, ofRules_pure _⟩

/-- No problem of a compiled rule set is one of a level. -/
theorem ofRules_compile (d : Description) (settings : Settings) : (compile d settings).OfRules := by
  unfold compile
  simp only [ofRules_bind]
  exact ⟨ofRules_declare _ _, ofRules_buildTemplates _ _ _ _,
    ofRules_keepEach fun _ _ => Interaction.ofRules_read? _ _,
    ofRules_keepEach fun _ _ => Termination.ofRules_read? _, ofRules_resolveMapping _ _, ofRules_pure _⟩

end Ruleset

/-! ## Problems of levels -/

theorem nodup_eraseDups {α : Type} [DecidableEq α] : ∀ l : List α, l.eraseDups.Nodup
  | [] => .nil
  | a :: l => by
    rw [List.eraseDups_cons, List.nodup_cons]
    exact ⟨by simp, nodup_eraseDups (l.filter fun b => !b == a)⟩
termination_by l => l.length
decreasing_by exact Nat.lt_succ_of_le (List.length_filter_le _ l)

namespace Level

/-- A character of a level is neither blank nor mapped. -/
def Undefined (rules : Ruleset) (level : String) (c : Char) : Prop :=
  (∃ row ∈ rows level.toList, c ∈ row) ∧ c ≠ ' ' ∧ rules.levelMapping.get? c = none

instance (rules : Ruleset) (level : String) (c : Char) : Decidable (Undefined rules level c) :=
  inferInstanceAs (Decidable (_ ∧ _ ∧ _))

variable {rules : Ruleset} {level : String}

theorem mem_undefinedSymbols {c : Char} :
    c ∈ undefinedSymbols rules (rows level.toList) ↔ Undefined rules level c := by
  unfold undefinedSymbols Undefined SortedMap.contains
  rw [List.mem_eraseDups, List.mem_filter, List.mem_flatten, decide_eq_true_eq, Bool.not_eq_true',
    Option.isSome_eq_false_iff, Option.isNone_iff_eq_none]

theorem undefinedSymbols_eq_nil :
    undefinedSymbols rules (rows level.toList) = [] ↔ ∀ c, ¬Undefined rules level c := by
  rw [List.eq_nil_iff_forall_not_mem]
  exact forall_congr' fun c => not_congr mem_undefinedSymbols

theorem nodup_undefinedSymbols (rows : List (List Char)) : (undefinedSymbols rules rows).Nodup := nodup_eraseDups _

/-- The level without a cell has no character at all. -/
theorem not_undefined_empty (c : Char) : ¬Undefined rules "" c := by
  rintro ⟨⟨row, hrow, -⟩, -⟩
  cases hrow

end Level

namespace World

variable {rules : Ruleset} {level : String} {seed : UInt64}

theorem build_eq_ok_iff {w : World} :
    build rules level seed = .ok w ↔ (∀ c, ¬Level.Undefined rules level c) ∧
      w = ((Level.requests rules (Level.rows level.toList)).foldl instantiate
        (bare rules seed (Level.bounds rules.blockSize (Level.rows level.toList)))).withActions := by
  rw [← Level.undefinedSymbols_eq_nil]
  unfold build
  dsimp only
  cases Level.undefinedSymbols rules (Level.rows level.toList) with
  | nil => simp [eq_comm]
  | cons c cs => simp

theorem exists_build (h : ∀ c, ¬Level.Undefined rules level c) : ∃ w, build rules level seed = .ok w :=
  ⟨_, build_eq_ok_iff.2 ⟨h, rfl⟩⟩

/-- A rejected level has its undefined characters listed, each once. -/
theorem build_eq_error_iff {es : List Problem} : build rules level seed = .error es ↔
    Level.undefinedSymbols rules (Level.rows level.toList) ≠ [] ∧
      es = (Level.undefinedSymbols rules (Level.rows level.toList)).map .undefinedSymbol := by
  unfold build
  dsimp only
  cases Level.undefinedSymbols rules (Level.rows level.toList) with
  | nil => exact ⟨nofun, fun h => absurd rfl h.1⟩
  | cons c cs => exact ⟨fun h => ⟨List.cons_ne_nil c cs, (Except.error.inj h).symm⟩, fun h => congrArg _ h.2.symm⟩

theorem undefined_of_mem_build {es : List Problem} (h : build rules level seed = .error es) :
    ∀ p ∈ es, ∃ c, p = .undefinedSymbol c ∧ Level.Undefined rules level c := by
  obtain ⟨-, rfl⟩ := build_eq_error_iff.1 h
  intro p hp
  obtain ⟨c, hc, rfl⟩ := List.mem_map.1 hp
  exact ⟨c, rfl, Level.mem_undefinedSymbols.1 hc⟩

theorem count_build {es : List Problem} (h : build rules level seed = .error es) {c : Char}
    (hc : Level.Undefined rules level c) : es.count (.undefinedSymbol c) = 1 := by
  obtain ⟨-, rfl⟩ := build_eq_error_iff.1 h
  have hnodup : ((Level.undefinedSymbols rules (Level.rows level.toList)).map Problem.undefinedSymbol).Nodup :=
    (Level.nodup_undefinedSymbols _).map fun _ _ => Problem.undefinedSymbol.inj
  exact List.count_eq_one_of_mem hnodup (List.mem_map_of_mem (Level.mem_undefinedSymbols.2 hc))

end World

/-! ## Reports -/

namespace Description

variable {d : Description} {level : String} {seed : UInt64} {settings : Settings}

theorem build_of_problems (h : (Ruleset.compile d settings).problems ≠ []) :
    d.build level seed settings = .error (Ruleset.compile d settings).problems := by
  unfold build
  dsimp only
  rw [if_neg (by simpa using h)]

theorem build_of_no_problem (h : (Ruleset.compile d settings).problems = []) :
    d.build level seed settings = World.build (Ruleset.compile d settings).value level seed := by
  unfold build
  dsimp only
  rw [if_pos (by simp [h])]

theorem build_eq_ok_iff {w : World} : d.build level seed settings = .ok w ↔
    (Ruleset.compile d settings).problems = [] ∧ World.build (Ruleset.compile d settings).value level seed = .ok w := by
  by_cases h : (Ruleset.compile d settings).problems = []
  · rw [build_of_no_problem h]
    exact (and_iff_right h).symm
  · rw [build_of_problems h]
    exact ⟨nofun, fun hw => absurd hw.1 h⟩

/-- A build fails when the rules have a problem, or the level a character that is neither
blank nor mapped. It reports all problems of the rules and, only if there are none, every
such character once. -/
theorem build_report (d : Description) (level : String) (seed : UInt64) (settings : Settings) :
    let rules := Ruleset.compile d settings
    ((∃ es, d.build level seed settings = .error es) ↔
      rules.problems ≠ [] ∨ ∃ c, Level.Undefined rules.value level c) ∧
    ∀ es, d.build level seed settings = .error es →
      (∀ p ∈ rules.problems, p ∈ es) ∧
      (rules.problems ≠ [] → es = rules.problems ∧ ∀ c, .undefinedSymbol c ∉ es) ∧
      (rules.problems = [] → (∀ p ∈ es, ∃ c, p = .undefinedSymbol c ∧ Level.Undefined rules.value level c) ∧
        ∀ c, Level.Undefined rules.value level c → es.count (.undefinedSymbol c) = 1) := by
  intro rules
  by_cases hproblems : rules.problems = []
  · rw [build_of_no_problem hproblems]
    refine ⟨⟨fun ⟨es, hes⟩ => .inr ?_, fun h => ?_⟩, fun es hes => ⟨?_, absurd hproblems, fun _ => ?_⟩⟩
    · by_contra hnone
      obtain ⟨w, hw⟩ := World.exists_build fun c hc => hnone ⟨c, hc⟩
      rw [hw] at hes
      cases hes
    · obtain ⟨c, hc⟩ := h.resolve_left (absurd hproblems)
      exact ⟨_, World.build_eq_error_iff.2 ⟨List.ne_nil_of_mem (Level.mem_undefinedSymbols.2 hc), rfl⟩⟩
    · rw [hproblems]
      exact nofun
    · exact ⟨World.undefined_of_mem_build hes, fun c hc => World.count_build hes hc⟩
  · rw [build_of_problems hproblems]
    refine ⟨⟨fun _ => .inl hproblems, fun _ => ⟨_, rfl⟩⟩, fun es hes => ?_⟩
    obtain rfl := Except.error.inj hes
    exact ⟨fun _ => id, fun _ => ⟨rfl, fun c hc => Ruleset.ofRules_compile d settings _ hc⟩,
      fun h => absurd h hproblems⟩

/-- The corridor with a rule of an effect that there is not. -/
def miswritten : Description :=
  { World.corridor with interactions := [⟨"avatar", "wall", "explode", .empty, 3⟩] }

theorem problems_miswritten : (Ruleset.compile miswritten .default).problems = [.unknownEffect "explode"] := by
  decide +kernel

/-- On a level with an undefined character the corridor reports that; with a problem in its
rules it reports only the latter. -/
theorem build_report_corridor :
    (∃ es, World.corridor.build "A?" 7 .default = .error es ∧ es.count (.undefinedSymbol '?') = 1) ∧
    ∃ es, miswritten.build "A?" 7 .default = .error es ∧ .unknownEffect "explode" ∈ es ∧
      .undefinedSymbol '?' ∉ es := by
  obtain ⟨hfails, hreport⟩ := build_report World.corridor "A?" 7 .default
  obtain ⟨hfails', hreport'⟩ := build_report miswritten "A?" 7 .default
  have hundefined : Level.Undefined (Ruleset.compile World.corridor .default).value "A?" '?' := by decide +kernel
  have hproblems : (Ruleset.compile miswritten .default).problems ≠ [] := by simp [problems_miswritten]
  obtain ⟨es, hes⟩ := hfails.2 (.inr ⟨'?', hundefined⟩)
  obtain ⟨es', hes'⟩ := hfails'.2 (.inl hproblems)
  obtain ⟨hall, hrules, -⟩ := hreport' es' hes'
  exact ⟨⟨es, hes, ((hreport es hes).2.2 (by decide +kernel)).2 '?' hundefined⟩,
    es', hes', hall _ (by simp [problems_miswritten]), (hrules hproblems).2 '?'⟩

/-- So not every undefined character of a level is reported. -/
theorem build_misses_symbol :
    ¬∀ (d : Description) (level : String) (seed : UInt64) (settings : Settings) (es : List Problem),
      d.build level seed settings = .error es →
      ∀ c, Level.Undefined (Ruleset.compile d settings).value level c → .undefinedSymbol c ∈ es := by
  intro h
  have hproblems : (Ruleset.compile miswritten .default).problems ≠ [] := by simp [problems_miswritten]
  have hundefined : Level.Undefined (Ruleset.compile miswritten .default).value "A?" '?' := by decide +kernel
  have hreported := h miswritten "A?" 7 .default _ (build_of_problems hproblems) '?' hundefined
  simp [problems_miswritten] at hreported

end Description

end SpriteGame
