import SpriteGame.Proofs.Inheritance
import SpriteGame.Proofs.Spelling
import SpriteGame.Proofs.TotalOrder
/-!
# Clamped parameters

Speeds, footprints and probabilities are brought into their ranges when a rule set is made. A
speed always is: what is no number gives way to zero. The other ranges have two ends, and NaN
passes between them, as it compares with neither. So a footprint or a probability is in its
range iff the text of its parameter does not spell NaN (`clamped_compile`); digits, infinities,
malformed texts and missing ones are in range in the end.
-/
namespace SpriteGame

/-! ## Comparisons -/

/-- Numbers compare by rank, and what is no number compares with nothing. -/
structure Ranked {α β : Type} [LT α] [LE α] [LinearOrder β] (number : α → Prop) (rank : α → β) : Prop where
  lt_iff : ∀ x y, x < y ↔ number x ∧ number y ∧ rank x < rank y
  le_iff : ∀ x y, x ≤ y ↔ number x ∧ number y ∧ rank x ≤ rank y

section Ranked

variable {α β : Type} [LT α] [LE α] [DecidableLT α] [LinearOrder β] {number : α → Prop} {rank : α → β}

/-- A number is brought into a range; anything else stays out. -/
theorem Ranked.clamp_iff (h : Ranked number rank) {x lo hi y : α} (hle : lo ≤ hi)
    (hy : y = if x < lo then lo else if hi < x then hi else x) : lo ≤ y ∧ y ≤ hi ↔ number x := by
  obtain ⟨hlo, hhi, hrank⟩ := (h.le_iff lo hi).1 hle
  subst hy
  by_cases hx : number x
  · refine iff_of_true ?_ hx
    split
    · exact ⟨(h.le_iff lo lo).2 ⟨hlo, hlo, le_rfl⟩, hle⟩
    · next hnotlt =>
      have habove : rank lo ≤ rank x := not_lt.1 fun hlt => hnotlt ((h.lt_iff x lo).2 ⟨hx, hlo, hlt⟩)
      split
      · exact ⟨hle, (h.le_iff hi hi).2 ⟨hhi, hhi, le_rfl⟩⟩
      · next hnotgt =>
        have hbelow : rank x ≤ rank hi := not_lt.1 fun hlt => hnotgt ((h.lt_iff hi x).2 ⟨hhi, hx, hlt⟩)
        exact ⟨(h.le_iff lo x).2 ⟨hlo, hx, habove⟩, (h.le_iff x hi).2 ⟨hx, hhi, hbelow⟩⟩
  · -- It compares with neither end, so it is left as it is.
    have hnotlt : ¬x < lo := fun hlt => hx ((h.lt_iff x lo).1 hlt).1
    have hnotgt : ¬hi < x := fun hlt => hx ((h.lt_iff hi x).1 hlt).2.1
    rw [if_neg hnotlt, if_neg hnotgt]
    exact iff_of_false (fun hin => hx ((h.le_iff lo x).1 hin.1).2.1) hx

end Ranked

namespace Double

open Float.Model (UnpackedFloat)

theorem isNaN_of_le {x y : UnpackedFloat} (h : x.le y = true) : x.isNaN = false ∧ y.isNaN = false := by
  cases x <;> cases y <;> first | exact ⟨rfl, rfl⟩ | cases h

theorem compare_le_iff {x y : UnpackedFloat} (hx : x.isNaN = false) (hy : y.isNaN = false) :
    x.le y = true ↔ place x ≤ place y := by
  have hle : (cmp (place x) (place y)).isLE = true ↔ place x ≤ place y := by
    rw [Ordering.isLE_iff_ne_gt]
    exact (not_congr (cmp_eq_gt_iff _ _)).trans not_lt
  rw [UnpackedFloat.le, compare_eq hx hy]
  exact hle

/-- Comparisons of values of either precision are comparisons of places. -/
theorem ranked_unpacked {α : Type} [LT α] [LE α] {unpack : α → UnpackedFloat}
    (hlt : ∀ x y, x < y ↔ (unpack x).lt (unpack y) = true) (hle : ∀ x y, x ≤ y ↔ (unpack x).le (unpack y) = true) :
    Ranked (fun x => (unpack x).isNaN = false) fun x => place (unpack x) where
  lt_iff x y := by
    rw [hlt]
    constructor
    · intro h
      obtain ⟨hx, hy⟩ := Single.isNaN_of_compare (o := .lt) h
      exact ⟨hx, hy, (compare_lt_iff hx hy).1 h⟩
    · exact fun ⟨hx, hy, h⟩ => (compare_lt_iff hx hy).2 h
  le_iff x y := by
    rw [hle]
    constructor
    · intro h
      obtain ⟨hx, hy⟩ := isNaN_of_le h
      exact ⟨hx, hy, (compare_le_iff hx hy).1 h⟩
    · exact fun ⟨hx, hy, h⟩ => (compare_le_iff hx hy).2 h

theorem ranked : Ranked (fun x : Float => x.isNaN = false) rank :=
  ranked_unpacked (fun _ _ => decide_eq_true_iff) fun _ _ => decide_eq_true_iff

end Double

namespace Single

theorem ranked : Ranked (fun x : Float32 => x.isNaN = false) fun x => Double.place x.toModel.unpack :=
  Double.ranked_unpacked (fun _ _ => decide_eq_true_iff) fun _ _ => decide_eq_true_iff

theorem clamp_mem_iff {x lo hi : Float32} (h : lo ≤ hi) :
    lo ≤ clamp x lo hi ∧ clamp x lo hi ≤ hi ↔ x.isNaN = false :=
  ranked.clamp_iff h rfl

/-- The maximum is at least the second value, also of what is no number. -/
theorem le_max_right {x y : Float32} (hy : y.isNaN = false) : y ≤ max x y := by
  have hself : y ≤ y := (ranked.le_iff y y).2 ⟨hy, hy, le_rfl⟩
  unfold max
  rw [hy, if_neg Bool.false_ne_true]
  split
  · exact hself
  · next hnumber =>
    have hx : x.isNaN = false := Bool.eq_false_iff.2 hnumber
    split
    · exact hself
    · next hnotlt =>
      have hle := not_lt.1 fun hlt => hnotlt ((ranked.lt_iff x y).2 ⟨hx, hy, hlt⟩)
      exact (ranked.le_iff y x).2 ⟨hy, hx, hle⟩

end Single

theorem Params.clampProb_mem_iff {p : Float} : 0 ≤ clampProb p ∧ clampProb p ≤ 1 ↔ p.isNaN = false :=
  Double.ranked.clamp_iff (by decide) rfl

/-! ## Reading -/

namespace Params

variable (params : Params) (place : Place)

/-- The entry of a parameter that is read spells NaN. -/
def SpellsNaN (key : String) : Prop := ∃ entry ∈ params.raw? key, Numeral.SpellsNaN entry

instance (key : String) : Decidable (params.SpellsNaN key) := inferInstanceAs (Decidable (∃ entry ∈ _, _))

/-- A decimal is no number iff it is spelled so: a default that takes the place of a malformed
or missing one is a number. -/
theorem isNaN_parsed {α : Type} {isNaN : α → Bool} {value : Numeral.Decimal → α}
    (hvalue : ∀ d, isNaN (value d) = true ↔ d = .nan) {default : α} (hdefault : isNaN default = false) (key : String) :
    isNaN (params.parsed place (fun s => (Numeral.Decimal.read? s).map value) key default).value = true ↔
      params.SpellsNaN key := by
  unfold parsed SpellsNaN
  cases params.raw? key with
  | none => simp [hdefault]
  | some entry =>
    simp only [Option.mem_def, Option.some.injEq, exists_eq_left', ← Numeral.read?_eq_nan_iff]
    cases Numeral.Decimal.read? entry with
    | none => simp [hdefault]
    | some d => simp [hvalue]

theorem single_number_iff {default : Float32} (h : default.isNaN = false) (key : String) :
    (params.single place key default).value.isNaN = false ↔ ¬params.SpellsNaN key := by
  rw [← Bool.not_eq_true, not_iff_not]
  exact isNaN_parsed params place Numeral.Decimal.isNaN_toSingle h key

theorem double_number_iff {default : Float} (h : default.isNaN = false) (key : String) :
    (params.double place key default).value.isNaN = false ↔ ¬params.SpellsNaN key := by
  rw [← Bool.not_eq_true, not_iff_not]
  exact isNaN_parsed params place Numeral.Decimal.isNaN_toDouble h key

theorem prob_mem_iff : 0 ≤ (params.prob place).value ∧ (params.prob place).value ≤ 1 ↔ ¬params.SpellsNaN "prob" :=
  clampProb_mem_iff.trans (params.double_number_iff place (by decide) "prob")

end Params

/-- What is clamped is in its range, but for a footprint or a probability whose text spells NaN. -/
structure Template.Clamped (t : Template) : Prop where
  speed : 0 ≤ t.speed
  footprint : 0.05 ≤ t.footprint ∧ t.footprint ≤ 1 ↔ ¬t.params.SpellsNaN "shrinkfactor"
  prob : 0 ≤ t.prob ∧ t.prob ≤ 1 ↔ ¬t.params.SpellsNaN "prob"

def Interaction.Clamped (r : Interaction) : Prop :=
  0 ≤ r.prob ∧ r.prob ≤ 1 ↔ ¬r.definition.params.SpellsNaN "prob"

namespace Template

theorem values_read (id : TypeId) (cls : SpriteClass) (params : Params) (registry : Registry) :
    let place := Place.sprite (registry.name id)
    let t := (read id cls params registry).value
    t.speed = Single.max (params.single place "speed" cls.defaultSpeed).value 0 ∧
      t.footprint = Single.clamp (params.single place "shrinkfactor" 1).value 0.05 1 ∧
      t.prob = (params.prob place).value := by
  -- The reader branches on the limit, on the greatest distance and on a missing target.
  unfold read
  simp only [Checked.value_bind]
  split <;> simp only [Checked.value_bind] <;> split <;> simp only [Checked.value_bind] <;>
    split <;> exact ⟨rfl, rfl, rfl⟩

theorem clamped_read (id : TypeId) (cls : SpriteClass) (params : Params) (registry : Registry) :
    (read id cls params registry).value.Clamped := by
  obtain ⟨hspeed, hfootprint, hprob⟩ := values_read id cls params registry
  have hparams : (read id cls params registry).value.params = params := (fields_read ..).2.2.2.2.1
  refine ⟨?_, ?_, ?_⟩
  · rw [hspeed]
    exact Single.le_max_right (by decide)
  · rw [hfootprint, hparams]
    exact (Single.clamp_mem_iff (by decide)).trans (params.single_number_iff _ (by decide) _)
  · rw [hprob, hparams]
    exact params.prob_mem_iff _

theorem clamped_build (id : TypeId) (keyword : Option String) (own : Params) (parent : Option Template)
    (registry : Registry) : (build id keyword own parent registry).value.Clamped := by
  unfold build
  simp only [Checked.value_bind]
  exact clamped_read ..

end Template

namespace Interaction

variable {registry : Registry} {r : Interaction}

theorem values_readBetween {d : InteractionDef} {place : Place} {first second : TypeId}
    (h : (readBetween registry d place first second).value = some r) :
    r.definition = d ∧ r.prob = (d.params.prob place).value := by
  unfold readBetween at h
  simp only [Checked.value_bind] at h
  split at h
  · simp only [Checked.value_bind] at h
    split at h <;> cases h <;> exact ⟨rfl, rfl⟩
  · cases h

/-- The parameters of an interaction are those of its definition, with placeholders replaced. -/
theorem clamped_read? {placeholders : Params} {d : InteractionDef} (h : (read? registry placeholders d).value = some r) :
    r.Clamped ∧ r.definition.params = d.params.decorate placeholders := by
  unfold read? at h
  dsimp only at h
  split at h
  · split at h
    · cases h
    · obtain ⟨hdefinition, hprob⟩ := values_readBetween h
      refine ⟨?_, by rw [hdefinition]⟩
      unfold Clamped
      rw [hprob, hdefinition]
      exact Params.prob_mem_iff _ _
  all_goals cases h

end Interaction

/-! ## Where a parameter comes from -/

namespace Ruleset

theorem mem_of_mem_declare {l : List (SpriteDef × Option SpriteDef)} {r : Registry} {e : TypeId × SpriteDef}
    (h : e ∈ (declare r l).value.2) : ∃ q, (e.2, q) ∈ l := by
  induction l generalizing r with
  | nil => cases h
  | cons x l ih =>
    obtain ⟨d, parent⟩ := x
    unfold declare at h
    split at h
    · obtain ⟨q, hq⟩ := ih h
      exact ⟨q, List.mem_cons_of_mem _ hq⟩
    · rcases List.mem_cons.1 h with rfl | h
      · exact ⟨parent, List.mem_cons_self⟩
      · obtain ⟨q, hq⟩ := ih h
        exact ⟨q, List.mem_cons_of_mem _ hq⟩

/-- Every parameter of a template is one of these definitions, with placeholders replaced. -/
def Stems (placeholders : Params) (ds : List SpriteDef) (t : Template) : Prop :=
  ∀ key value, t.params.get? key = some value → ∃ e ∈ ds, (e.params.decorate placeholders).get? key = some value

/-- What a template inherits is what one of those before it has. -/
theorem stems_buildTemplates {registry : Registry} {placeholders : Params} {ds : List SpriteDef}
    {l : List (TypeId × SpriteDef)} {templates : Array Template} (hl : ∀ e ∈ l, e.2 ∈ ds)
    (h : ∀ t ∈ templates, Stems placeholders ds t) :
    ∀ t ∈ (buildTemplates registry placeholders l templates).value, Stems placeholders ds t := by
  induction l generalizing templates with
  | nil => exact h
  | cons e l ih =>
    obtain ⟨he, hl⟩ := List.forall_mem_cons.1 hl
    refine ih hl fun t ht => ?_
    rcases Array.mem_push.1 ht with ht | rfl
    · exact h t ht
    · intro key value hvalue
      rw [Template.get?_params_build, Option.or_eq_some_iff] at hvalue
      rcases hvalue with hown | ⟨-, hparent⟩
      · exact ⟨e.2, he, hown⟩
      · -- The parent is one of the templates at hand.
        obtain ⟨p, hp, hvalue⟩ := Option.bind_eq_some_iff.1 hparent
        obtain ⟨i, -, hi⟩ := Option.bind_eq_some_iff.1 hp
        exact h p (Array.mem_of_getElem? hi) key value hvalue

theorem stems_compile (d : Description) (settings : Settings) :
    ∀ t ∈ (compile d settings).value.templates, Stems d.placeholders (d.walk.map (·.1)) t := by
  rw [templates_compile]
  refine stems_buildTemplates (fun e he => ?_) fun t ht key value hvalue => ?_
  · obtain ⟨q, hq⟩ := mem_of_mem_declare he
    exact List.mem_map.2 ⟨_, hq, rfl⟩
  · rw [Array.mem_singleton.1 ht, edgeTemplate, Template.get?_params_build] at hvalue
    cases hvalue

/-- Speeds are in their range, and footprints and probabilities are iff the texts of their
parameters do not spell NaN; these are texts of the description, with placeholders replaced. -/
theorem clamped_compile (d : Description) (settings : Settings) :
    let rules := (compile d settings).value
    (∀ t ∈ rules.templates, t.Clamped ∧ ∀ key, t.params.SpellsNaN key →
      ∃ e ∈ d.walk, (e.1.params.decorate d.placeholders).SpellsNaN key) ∧
    ∀ rule ∈ rules.interactions, rule.Clamped ∧
      ∃ e ∈ d.interactions, rule.definition.params = e.params.decorate d.placeholders := by
  intro rules
  refine ⟨fun t ht => ⟨?_, ?_⟩, fun rule hrule => ?_⟩
  · exact forall_templates_compile d settings (fun _ _ _ _ => Template.clamped_build ..) t ht
  · rintro key ⟨entry, hentry, hnan⟩
    obtain ⟨value, hvalue, rfl⟩ := Option.map_eq_some_iff.1 hentry
    obtain ⟨e, he, hown⟩ := stems_compile d settings t ht key value hvalue
    obtain ⟨x, hx, rfl⟩ := List.mem_map.1 he
    exact ⟨x, hx, _, Option.map_eq_some_iff.2 ⟨value, hown, rfl⟩, hnan⟩
  · obtain ⟨e, he, hread⟩ := mem_interactions_compile d settings hrule
    obtain ⟨hclamped, hparams⟩ := Interaction.clamped_read? hread
    exact ⟨hclamped, e, he, hparams⟩

/-- Gems are huge and rubies are gems; bats are not said how fast to be, and nests bear none. -/
def cavern : Description :=
  { Description.empty with
    sprites := [
      ⟨"gem", some "Resource", .ofList [("shrinkfactor", "HUGE,nan")],
        [⟨"ruby", none, .ofList [("value", "5")], [], 2⟩], 1⟩,
      ⟨"bat", some "Missile", .ofList [("speed", "NaN"), ("shrinkfactor", "a half")], [], 3⟩,
      ⟨"nest", some "SpawnPoint", .ofList [("stype", "bat"), ("prob", "-1e999")], [], 4⟩,
      ⟨"avatar", some "MovingAvatar", .empty, [], 5⟩]
    interactions := [⟨"ruby", "avatar", "killSprite", .ofList [("prob", "+Infinity")], 6⟩]
    placeholders := .ofList [("HUGE", "inf")] }

/-- In the cavern all is in range: no text of a footprint or a probability spells NaN. -/
theorem clamped_compile_cavern :
    let rules := (compile cavern .default).value
    (∀ t ∈ rules.templates, 0 ≤ t.speed ∧ (0.05 ≤ t.footprint ∧ t.footprint ≤ 1) ∧ 0 ≤ t.prob ∧ t.prob ≤ 1) ∧
    (∀ rule ∈ rules.interactions, 0 ≤ rule.prob ∧ rule.prob ≤ 1) ∧
    (∃ t, rules.template? 2 = some t ∧ t.name = "ruby" ∧ t.footprint = 1) ∧
    ∃ t, rules.template? 3 = some t ∧ t.name = "bat" ∧ t.speed = 0 ∧ t.footprint = 1 := by
  have hfootprint : ∀ e ∈ cavern.walk, ¬(e.1.params.decorate cavern.placeholders).SpellsNaN "shrinkfactor" := by
    decide
  have hprob : ∀ e ∈ cavern.walk, ¬(e.1.params.decorate cavern.placeholders).SpellsNaN "prob" := by
    decide
  have hrules : ∀ e ∈ cavern.interactions, ¬(e.params.decorate cavern.placeholders).SpellsNaN "prob" := by
    decide
  obtain ⟨htemplates, hinteractions⟩ := clamped_compile cavern .default
  refine ⟨fun t ht => ?_, fun rule hrule => ?_, by decide +kernel, by decide +kernel⟩
  · obtain ⟨hclamped, hspelled⟩ := htemplates t ht
    refine ⟨hclamped.speed, hclamped.footprint.2 fun h => ?_, hclamped.prob.2 fun h => ?_⟩
    · obtain ⟨e, he, h⟩ := hspelled _ h
      exact hfootprint e he h
    · obtain ⟨e, he, h⟩ := hspelled _ h
      exact hprob e he h
  · obtain ⟨hclamped, e, he, hparams⟩ := hinteractions rule hrule
    refine hclamped.2 ?_
    rw [hparams]
    exact hrules e he

/-- A gem without a size, a nest that spawns who knows how often, and a rule of this kind. -/
def fog : Description :=
  { Description.empty with
    sprites := [
      ⟨"gem", some "Immovable", .ofList [("shrinkfactor", "nan")], [], 1⟩,
      ⟨"nest", some "SpawnPoint", .ofList [("stype", "gem"), ("prob", "-NaN")], [], 2⟩,
      ⟨"avatar", some "MovingAvatar", .empty, [], 3⟩]
    interactions := [⟨"gem", "avatar", "killSprite", .ofList [("prob", "NAN")], 4⟩] }

/-- NaN is accepted without a problem, and passes between the ends of every range. -/
theorem compile_passes_nan :
    let rules := (compile fog .default).value
    (compile fog .default).problems = [] ∧
      ¬(∀ t ∈ rules.templates, 0.05 ≤ t.footprint ∧ t.footprint ≤ 1) ∧
      ¬(∀ t ∈ rules.templates, 0 ≤ t.prob ∧ t.prob ≤ 1) ∧
      ¬(∀ rule ∈ rules.interactions, 0 ≤ rule.prob ∧ rule.prob ≤ 1) := by
  decide +kernel

end Ruleset

end SpriteGame
