import SpriteGame.Proofs.Dispatch
import SpriteGame.Proofs.Encounter
import SpriteGame.Proofs.Identity
import SpriteGame.Proofs.Motion
/-!
# Health

The rules for health keep a sprite within its cap (`each_tends_apply`). A sprite that takes the
place of another one takes over its health too, and nobody looks at the cap of the new type
then: this is the only way to get over a cap (`step_over`), and games where no such change
leads to a lower cap have nobody over it (`health_run`).
-/
namespace SpriteGame

/-! ## Sprites -/

namespace Sprite

/-- Health is within the cap. -/
def Fit (s : Sprite) : Prop := s.health ≤ s.maxHealth

instance (s : Sprite) : Decidable s.Fit := inferInstanceAs (Decidable (_ ≤ _))

def vitals (s : Sprite) : Int × Int := (s.health, s.maxHealth)

/-- Whether a change writes health or its cap. -/
def Change.isVital : Change → Bool
  | .setHealth _ | .setMaxHealth _ => true
  | _ => false

theorem vitals_change {c : Change} (h : c.isVital = false) (s : Sprite) : (s.change c).vitals = s.vitals := by
  cases c with
  | coast => exact frame_coast (fun _ _ _ _ _ => rfl) ..
  | drive => exact frame_drive (fun _ _ _ _ _ => rfl) ..
  | setHealth | setMaxHealth => cases h
  | _ => rfl

theorem vitals_changes {cs : List Change} (h : ∀ c ∈ cs, c.isVital = false) (s : Sprite) :
    (s.changes cs).vitals = s.vitals :=
  frame_changes (fun c hc s => vitals_change (h c hc) s) s

end Sprite

theorem SpawnRequest.vitals_make (r : SpawnRequest) (id : Nat) (block : Float32) (t : Template) :
    (r.make id block t).vitals = (r.health.getD t.health, t.maxHealth) := by
  unfold make
  cases r.facing <;> rfl

/-! ## Rules -/

namespace Effect

/-- The points that an effect takes away. -/
def loss? : Effect → Option Int
  | subtractHealthPoints value => some value
  | _ => none

/-- Whether an effect gives points or takes some. -/
def isVital : Effect → Bool
  | addHealthPoints _ | addHealthPointsToMax _ | subtractHealthPoints _ => true
  | _ => false

/-- The type that an effect makes of a sprite. -/
def becomes? : Effect → Option TypeId
  | transformTo type _ => some type
  | _ => none

end Effect

/-- Whether a rule fires for sprites of a type. -/
def Interaction.ActsOn (registry : Registry) (r : Interaction) (type : TypeId) : Prop :=
  type = r.first ∨ r.first ∈ registry.ancestors type

instance (registry : Registry) (r : Interaction) (type : TypeId) : Decidable (r.ActsOn registry type) :=
  inferInstanceAs (Decidable (_ ∨ _))

namespace Ruleset

/-- Some rule raises the caps of sprites of a type. -/
def Raises (rules : Ruleset) (type : TypeId) : Prop :=
  ∃ rule ∈ rules.interactions, rule.ActsOn rules.registry type ∧ rule.effect.kind = .addHealthPointsToMax

instance (rules : Ruleset) (type : TypeId) : Decidable (rules.Raises type) :=
  inferInstanceAs (Decidable (∃ rule ∈ rules.interactions, _))

/-- Whoever becomes another sprite has a cap of its own type, and gets one as high at least. -/
def KeepsCaps (rules : Ruleset) : Prop :=
  ∀ rule ∈ rules.interactions, ∀ into ∈ rule.effect.becomes?, ∀ type < rules.templates.size,
    rule.ActsOn rules.registry type → ¬rules.Raises type ∧
      ∀ t ∈ rules.template? type, ∀ u ∈ rules.template? into, t.maxHealth ≤ u.maxHealth

instance (rules : Ruleset) : Decidable rules.KeepsCaps :=
  inferInstanceAs (Decidable (∀ rule ∈ rules.interactions, _))

/-- A sprite is within its cap, and that is the cap of its type unless some rule raises it. -/
def Kept (rules : Ruleset) (type : TypeId) (s : Sprite) : Prop :=
  s.Fit ∧ ∃ t, rules.template? type = some t ∧ (¬rules.Raises type → s.maxHealth = t.maxHealth)

/-- What time does to the health of a sprite: it stays within the cap, and a cap that no rule
raises stays as it is. -/
def Tends (rules : Ruleset) (key : Key) (s t : Sprite) : Prop :=
  (s.Fit → t.Fit) ∧ (¬rules.Raises key.type → t.maxHealth = s.maxHealth)

theorem ageing_tends (rules : Ruleset) : Ageing rules.Tends where
  refl _ _ := ⟨id, fun _ => rfl⟩
  trans h h' := ⟨h'.1 ∘ h.1, fun hraises => (h'.2 hraises).trans (h.2 hraises)⟩
  remove _ _ := ⟨id, fun _ => rfl⟩

theorem tends_of_vitals {rules : Ruleset} {key : Key} {s t : Sprite} (h : t.vitals = s.vitals) :
    rules.Tends key s t := by
  obtain ⟨hhealth, hcap⟩ := Prod.mk.inj h
  refine ⟨fun hfit => ?_, fun _ => hcap⟩
  unfold Sprite.Fit
  rw [hhealth, hcap]
  exact hfit

/-- The rules that are to fire for a collision act on its first side. -/
theorem actsOn_of_mem_agenda {d : Description} {settings : Settings} {w : World}
    (hrules : w.rules = (compile d settings).value) {e : Entry} (he : e ∈ w.agenda w.detect) :
    e.2.ActsOn w.rules.registry e.1.first.type := by
  obtain ⟨c, hc, he⟩ := List.mem_flatMap.1 he
  obtain ⟨rule, hrule, rfl⟩ := List.mem_map.1 he
  obtain ⟨p, hp, s, htype, -⟩ := World.mem_detect_iff.1 hc
  obtain ⟨q, hq, i, hi, hrule⟩ := World.mem_rulesFor.1 hrule
  obtain rfl := Option.some.inj (hp.symm.trans hq)
  rw [hrules] at hp hrule ⊢
  obtain ⟨hbetween, -⟩ := eq_between_of_mem_dispatch d settings (Array.mem_of_getElem? hp)
  rw [hbetween] at hi
  obtain ⟨rule', hrule', hreaches, -⟩ := (mem_rules_compile d settings _ _ i).1 hi
  obtain rfl := Option.some.inj (hrule.symm.trans hrule')
  exact htype ▸ hreaches

end Ruleset

/-! ## Orders -/

theorem Command.isVital_changes (c : Command) (s : Sprite) (t : Template) (block : Float32) :
    ∀ change ∈ c.changes s t block, change.isVital = false := by
  intro change hchange
  cases change with
  | setHealth | setMaxHealth =>
    unfold changes at hchange
    simp at hchange
  | _ => rfl

/-! ## Effects -/

namespace Effect

variable {w : World} {rules : Ruleset} {e : Effect} {es : List Edit} {rng : Random}

/-- The first side changes, and nobody else does. -/
theorem each_edits_first {key : Key} {s : Sprite} (hs : w.sprite? key = some s) {cs : List Sprite.Change}
    (hcs : rules.Tends key s (s.changes cs)) {rest : List Edit} (hrest : ∀ e ∈ rest, e.isChange = false) :
    w.Each rules.Tends (w.edits (.change key cs :: rest)) := by
  have haged := rules.ageing_tends
  refine World.Each.trans haged (v := w.edit (.change key cs)) (World.each_modify haged fun t ht => ?_) ?_
  · obtain rfl := Option.some.inj (hs.symm.trans ht)
    exact hcs
  · refine World.each_edits haged (fun k cs' hmem => ?_) _
    cases hrest _ hmem

theorem not_isVital_of_makes (h : e.isVital = false) {c : Sprite.Change} (hc : e.makes c = true) :
    c.isVital = false := by
  cases c with
  | setHealth | setMaxHealth =>
    cases e with
    | addHealthPoints | addHealthPointsToMax | subtractHealthPoints => cases h
    | _ => cases hc
  | _ => rfl

/-- What gives points or takes some changes the first side, and keeps it within its cap. -/
theorem tends_alone (he : e.isVital = true) (hloss : ∀ n ∈ e.loss?, 0 ≤ n) {key : Key}
    (hraises : e.kind = .addHealthPointsToMax → rules.Raises key.type) {s : Sprite} {second : Option Key}
    (hes : e.alone w key s second = some (es, rng)) :
    ∃ cs rest, es = .change key cs :: rest ∧ rules.Tends key s (s.changes cs) ∧ ∀ e ∈ rest, e.isChange = false := by
  cases e <;> simp only [isVital, Bool.false_eq_true] at he
  case addHealthPoints value =>
    simp only [alone, certain_eq_some] at hes
    obtain ⟨rfl, -⟩ := hes
    refine ⟨_, [], rfl, ⟨fun _ => ?_, fun _ => rfl⟩, by simp⟩
    exact Int.min_le_right ..
  case addHealthPointsToMax value =>
    simp only [alone, certain_eq_some] at hes
    obtain ⟨rfl, -⟩ := hes
    refine ⟨_, [], rfl, ⟨fun _ => ?_, fun h => absurd (hraises rfl) h⟩, by simp⟩
    exact Int.le_max_right ..
  case subtractHealthPoints value =>
    simp only [alone, certain_eq_some] at hes
    obtain ⟨rfl, -⟩ := hes
    have hvalue : 0 ≤ value := hloss value rfl
    refine ⟨_, _, rfl, ⟨fun hfit => ?_, fun _ => rfl⟩, ?_⟩
    · calc s.health - value ≤ s.health := Int.sub_le_self _ hvalue
        _ ≤ s.maxHealth := hfit
    · split <;> simp [Edit.isChange]

/-- No effect takes a sprite over its cap, and only one raises caps. -/
theorem each_tends_apply (hloss : ∀ n ∈ e.loss?, 0 ≤ n) {c : Collision}
    (hraises : e.kind = .addHealthPointsToMax → rules.Raises c.first.type) (hc : c.holds w = true) :
    w.Each rules.Tends (e.apply w (some c.first) c.second).2 := by
  have haged := rules.ageing_tends
  cases hvital : e.isVital with
  | false =>
    refine World.each_apply haged (fun change hmakes key s => ?_) hc
    exact Ruleset.tends_of_vitals (Sprite.vitals_change (not_isVital_of_makes hvital hmakes) s)
  | true =>
    obtain hsame | ⟨es, rng, hes, hedits⟩ := e.apply_cases w (some c.first) c.second
    · rw [hsame]
      exact World.each_refl haged w
    · obtain ⟨s, hs, hes⟩ := edits?_eq_some.1 hes
      have halone : e.needsSecond = false := by cases e <;> first | rfl | cases hvital
      rw [halone, if_neg Bool.false_ne_true] at hes
      obtain ⟨cs, rest, rfl, hcs, hrest⟩ := tends_alone hvital hloss hraises hes
      rw [hedits]
      exact each_edits_first (w := { w with rng }) hs hcs hrest

/-- Health is only asked for by what becomes another sprite. -/
theorem Asks.becomes {s : Sprite} {r : SpawnRequest} (h : e.Asks s r) {health : Int} (hr : r.health = some health) :
    e.becomes? = some r.type ∧ s.health = health := by
  cases h with
  | plain | clone => cases hr
  | successor =>
    change (if 0 < s.health then some s.health else none) = some health at hr
    split at hr
    · exact ⟨rfl, Option.some.inj hr⟩
    · cases hr

end Effect

/-! ## Ticks -/

namespace World

variable {u v w : World} {rules : Ruleset} {es : List Entry}

/-- The health that a request carries, if any, is that of a sprite at a moment when a rule on
it makes it another sprite. -/
def TakesOver (w : World) (rules : Ruleset) (es : List Entry) (r : SpawnRequest) : Prop :=
  ∀ health, r.health = some health → ∃ e ∈ es, e.2.effect.becomes? = some r.type ∧
    ∃ v : World, w.Each rules.Tends v ∧ w.Ensues v ∧ ∃ s, v.sprite? e.1.first = some s ∧ s.health = health

/-- What the rules of a tick do to the health of sprites and of those to come. -/
structure Treats (rules : Ruleset) (es : List Entry) (v w : World) : Prop where
  each : v.Each rules.Tends w
  ensues : v.Ensues w
  spawns : ∀ r ∈ w.spawns, r ∈ v.spawns ∨ v.TakesOver rules es r

theorem Treats.trans (h : Treats rules es u v) (h' : Treats rules es v w) : Treats rules es u w := by
  refine ⟨Each.trans rules.ageing_tends h.each h'.each, h.ensues.trans h'.ensues, fun r hr => ?_⟩
  rcases h'.spawns r hr with hold | hnew
  · exact h.spawns r hold
  · right
    intro health hhealth
    obtain ⟨e, he, hbecomes, m, heach, hensues, hsprite⟩ := hnew health hhealth
    exact ⟨e, he, hbecomes, m, Each.trans rules.ageing_tends h.each heach, h.ensues.trans hensues, hsprite⟩

theorem firing_treats (rules : Ruleset) (es : List Entry) : Firing (Treats rules es) where
  refl w := ⟨each_refl rules.ageing_tends w, .refl w, fun _ => .inl⟩
  trans := Treats.trans
  set w rng pendingScore :=
    ⟨each_refl rules.ageing_tends w, ensues_set w rng pendingScore, fun _ => .inl⟩

theorem mem_spawns_edits {l : List Edit} {r : SpawnRequest} (h : r ∈ (w.edits l).spawns) :
    r ∈ w.spawns ∨ .spawn r ∈ l := by
  induction l generalizing w with
  | nil => exact .inl h
  | cons e l ih =>
    rcases ih h with h | h
    · cases e with
      | kill | change => exact .inl h
      | spawn r' =>
        rcases List.mem_append.1 h with h | h
        · exact .inl h
        · exact .inr (List.mem_singleton.1 h ▸ List.mem_cons_self)
    · exact .inr (List.mem_cons_of_mem e h)

theorem treats_apply {e : Entry} (he : e ∈ es) (hloss : ∀ n ∈ e.2.effect.loss?, 0 ≤ n)
    (hraises : e.2.effect.kind = .addHealthPointsToMax → rules.Raises e.1.first.type) (hc : e.1.holds w = true) :
    Treats rules es w (e.2.effect.apply w (some e.1.first) e.1.second).2 := by
  refine ⟨Effect.each_tends_apply hloss hraises hc, ensues_apply .., fun r hr => ?_⟩
  obtain hsame | ⟨l, rng, hl, hedits⟩ := e.2.effect.apply_cases w (some e.1.first) e.1.second
  · rw [hsame] at hr
    exact .inl hr
  · rw [hedits] at hr
    rcases mem_spawns_edits hr with hr | hr
    · exact .inl hr
    · right
      intro health hhealth
      obtain ⟨s, hs, hasks⟩ := Effect.asks_of_mem_edits? hl hr
      obtain ⟨hbecomes, hs'⟩ := hasks.becomes hhealth
      exact ⟨e, he, hbecomes, w, each_refl rules.ageing_tends w, .refl w, s, hs, hs'⟩

theorem each_tends_moved (rules : Ruleset) (w : World) (action : Action) :
    (w.counted action).Each rules.Tends (w.moved action) := by
  intro key s hs
  have hstart : (w.counted action).startTick.sprite? key = some s.startTick := by
    rw [sprite?_startTick, hs, Option.map_some]
  refine each_edits rules.ageing_tends (fun k cs hmem t => ?_) _ key s.startTick hstart
  obtain ⟨o, -, hmem⟩ := List.mem_flatMap.1 hmem
  obtain ⟨-, rfl, -⟩ := Command.change_mem_edits hmem
  exact Ruleset.tends_of_vitals (Sprite.vitals_changes (Command.isVital_changes _ _ _ _) t)

/-- An order asks for sprites with the health of their own type. -/
theorem health_of_mem_spawns_moved (hspawns : w.spawns = []) {action : Action} {r : SpawnRequest}
    (hr : r ∈ (w.moved action).spawns) : r.health = none := by
  rw [moved_eq] at hr
  rcases mem_spawns_edits hr with hr | hr
  · have hnone : r ∈ w.spawns := hr
    rw [hspawns] at hnone
    cases hnone
  · obtain ⟨o, ho, hr⟩ := List.mem_flatMap.1 hr
    obtain ⟨-, -, rng, hcommand⟩ := mem_ordersOf ho
    have hspawn := Command.spawn_mem_edits hr
    rw [hcommand] at hspawn
    obtain ⟨type, center, dir, -, rfl⟩ := Command.spawn_plan hspawn
    rfl

/-! ## The end of a tick -/

/-- In a tick a sprite has been made in place of another one, and has taken over more health
than its own type allows. -/
def Overfills (w : World) (action : Action) (type : TypeId) (s : Sprite) : Prop :=
  (∃ rule ∈ w.rules.interactions, rule.effect.becomes? = some type) ∧
    ∃ r ∈ (w.resolved action).spawns, ∃ t id, r.type = type ∧ w.rules.template? type = some t ∧
      s = r.make id w.blockSize t ∧ ∃ health, r.health = some health ∧ t.maxHealth < health

section Compiled

variable {d : Description} {settings : Settings} (hrules : w.rules = (Ruleset.compile d settings).value)

include hrules

/-- The rules that fire in a tick are those of the game, and act on the first sides. -/
theorem of_mem_agenda_moved {action : Action} {e : Entry} (he : e ∈ (w.moved action).agenda (w.moved action).detect) :
    e.2 ∈ w.rules.interactions ∧ e.2.ActsOn w.rules.registry e.1.first.type := by
  have hsame : (w.moved action).rules = w.rules := (ensues_moved w action).rules
  rw [← hsame]
  exact ⟨mem_interactions_of_mem_agenda he, Ruleset.actsOn_of_mem_agenda (hsame.trans hrules) he⟩

variable (hlosses : ∀ rule ∈ w.rules.interactions, ∀ n ∈ rule.effect.loss?, 0 ≤ n)

include hlosses

/-- Up to the end of a tick everybody stays within their cap. -/
theorem treats_resolved (hspawns : w.spawns = []) (action : Action) :
    (w.counted action).Each w.rules.Tends (w.resolved action) ∧
      ∀ r ∈ (w.resolved action).spawns,
        (w.counted action).TakesOver w.rules ((w.moved action).agenda (w.moved action).detect) r := by
  have hmoved := each_tends_moved w.rules w action
  have htreats : Treats w.rules ((w.moved action).agenda (w.moved action).detect) (w.moved action)
      (w.resolved action) := by
    show Treats _ _ _ ((w.moved action).fireAll (w.moved action).detect)
    rw [fireAll_eq]
    refine (firing_treats _ _).foldl_fireEntry (fun e he v hc => ?_) _
    obtain ⟨hmem, hacts⟩ := of_mem_agenda_moved hrules he
    exact treats_apply he (hlosses e.2 hmem) (fun hkind => ⟨e.2, hmem, hacts, hkind⟩) hc
  refine ⟨Each.trans w.rules.ageing_tends hmoved htreats.each, fun r hr health hhealth => ?_⟩
  rcases htreats.spawns r hr with hold | hnew
  · rw [health_of_mem_spawns_moved hspawns hold] at hhealth
    cases hhealth
  · obtain ⟨e, he, hbecomes, m, heach, hensues, hsprite⟩ := hnew health hhealth
    exact ⟨e, he, hbecomes, m, Each.trans w.rules.ageing_tends hmoved heach, (ensues_moved w action).trans hensues,
      hsprite⟩

variable (htemplates : ∀ t ∈ w.rules.templates, t.health ≤ t.maxHealth)

include htemplates

/-- Whoever is over the cap after a tick was so before, or has become so by taking the place of
another sprite. -/
theorem step_over (hspawns : w.spawns = []) {action : Action} {type : TypeId} {s : Sprite}
    (hs : s ∈ (w.step action).group type) (hover : ¬s.Fit) :
    (∃ t ∈ w.group type, t.id = s.id ∧ ¬t.Fit) ∨ w.Overfills action type s := by
  obtain ⟨heach, hcarried⟩ := treats_resolved hrules hlosses hspawns action
  rcases mem_group_step_cases hs with hs | ⟨r, hr, t, id, htype, ht, hmade⟩
  · left
    obtain ⟨index, hs⟩ := mem_group_iff.1 hs
    obtain ⟨t, ht, hid, hfit, -⟩ := heach.back (ensues_resolved w action) hs
    exact ⟨t, mem_group_iff.2 ⟨index, ht⟩, hid, fun h => hover (hfit h)⟩
  · right
    obtain ⟨hhealth, hcap⟩ := Prod.mk.inj (hmade ▸ r.vitals_make id w.blockSize t : s.vitals = _)
    cases hcarry : r.health with
    | none =>
      -- A sprite like its template is within its cap.
      rw [hcarry, Option.getD_none] at hhealth
      refine absurd ?_ hover
      unfold Sprite.Fit
      rw [hhealth, hcap]
      exact htemplates t (Array.mem_of_getElem? ht)
    | some health =>
      rw [hcarry, Option.getD_some] at hhealth
      obtain ⟨e, he, hbecomes, -⟩ := hcarried r hr health hcarry
      obtain ⟨hmem, -⟩ := of_mem_agenda_moved hrules he
      refine ⟨⟨e.2, hmem, htype ▸ hbecomes⟩, r, hr, t, id, htype, ht, hmade, health, hcarry, ?_⟩
      rw [← hhealth, ← hcap]
      exact Int.not_le.1 hover

/-- If nobody gets a lower cap in place of another one, everybody stays within their cap. -/
theorem step_kept (hspawns : w.spawns = []) (hkeeps : w.rules.KeepsCaps) (h : w.All w.rules.Kept) (action : Action) :
    (w.step action).All w.rules.Kept := by
  obtain ⟨heach, hcarried⟩ := treats_resolved hrules hlosses hspawns action
  have hlater : ∀ {m : World} {key s}, (w.counted action).Each w.rules.Tends m → (w.counted action).Ensues m →
      m.sprite? key = some s → w.rules.Kept key.type s := by
    intro m key s heach hensues hs
    obtain ⟨t, ht, -, hfit, hcap⟩ := heach.back hensues hs
    obtain ⟨hfit', u, hu, hcap'⟩ := h key.type t (mem_group_iff.2 ⟨key.index, ht⟩)
    exact ⟨hfit hfit', u, hu, fun hraises => (hcap hraises).trans (hcap' hraises)⟩
  intro type s hs
  rcases mem_group_step_cases hs with hs | ⟨r, hr, t, id, htype, ht, hmade⟩
  · obtain ⟨index, hs⟩ := mem_group_iff.1 hs
    exact hlater heach (ensues_resolved w action) hs
  · obtain ⟨hhealth, hcap⟩ := Prod.mk.inj (hmade ▸ r.vitals_make id w.blockSize t : s.vitals = _)
    refine ⟨?_, t, ht, fun _ => hcap⟩
    unfold Sprite.Fit
    rw [hhealth, hcap]
    cases hcarry : r.health with
    | none => exact htemplates t (Array.mem_of_getElem? ht)
    | some health =>
      obtain ⟨e, he, hbecomes, m, hm, hensues, o, ho, rfl⟩ := hcarried r hr health hcarry
      obtain ⟨hmem, hacts⟩ := of_mem_agenda_moved hrules he
      obtain ⟨hfit, u, hu, hown⟩ := hlater hm hensues ho
      obtain ⟨hlt, -⟩ := Array.getElem?_eq_some_iff.1 hu
      obtain ⟨hraises, hle⟩ := hkeeps e.2 hmem r.type hbecomes e.1.first.type hlt hacts
      calc o.health ≤ o.maxHealth := hfit
        _ = u.maxHealth := hown hraises
        _ ≤ t.maxHealth := hle u hu t (htype ▸ ht)

end Compiled

/-! ## Episodes -/

theorem kept_start {level : String} {seed : UInt64} {start : World} (h : build rules level seed = .ok start)
    (htemplates : ∀ t ∈ rules.templates, t.health ≤ t.maxHealth) : start.All rules.Kept := by
  obtain ⟨bounds, requests, rfl, hplain⟩ := eq_of_build_plain h
  intro type s hs
  rcases mem_group_foldl_instantiate hs with hs | ⟨r, hr, t, id, rfl, ht, rfl⟩
  · rw [group_bare] at hs
    cases hs
  · obtain ⟨type, center, rfl⟩ := hplain r hr
    exact ⟨htemplates t (Array.mem_of_getElem? ht), t, ht, fun _ => rfl⟩

section Run

variable {d : Description} {settings : Settings}
  (hlosses : ∀ rule ∈ (Ruleset.compile d settings).value.interactions, ∀ n ∈ rule.effect.loss?, 0 ≤ n)
  (htemplates : ∀ t ∈ (Ruleset.compile d settings).value.templates, t.health ≤ t.maxHealth)

include hlosses htemplates

theorem Reachable.kept (h : Reachable (Ruleset.compile d settings).value w)
    (hkeeps : (Ruleset.compile d settings).value.KeepsCaps) : w.All (Ruleset.compile d settings).value.Kept := by
  induction h with
  | start h => exact kept_start h htemplates
  | tick hw hadv ih =>
    obtain ⟨-, rfl⟩ := advance_eq_ok_iff.1 hadv
    have hspawns := (hw.settled (Ruleset.aligned_compile d settings)).spawns
    have hrules := hw.rules
    have hstep := step_kept hrules (hrules ▸ hlosses) (hrules ▸ htemplates) hspawns (hrules ▸ hkeeps) (hrules ▸ ih)
    exact hrules ▸ hstep _

/-- Whoever is over the cap at the end of a run was so at its start, or has become so in one of
its ticks. -/
theorem over_run (hreach : Reachable (Ruleset.compile d settings).value w) (actions : List Action) {type : TypeId}
    {s : Sprite} (hs : s ∈ (w.run actions).group type) (hover : ¬s.Fit) :
    (∃ t ∈ w.group type, t.id = s.id ∧ ¬t.Fit) ∨
      ∃ before action after, actions = before ++ action :: after ∧ ∃ v, (w.run before).advance action = .ok v ∧
        ∃ m ∈ v.group type, m.id = s.id ∧ (w.run before).Overfills action type m := by
  induction actions generalizing w with
  | nil => exact .inl ⟨s, hs, rfl, hover⟩
  | cons action actions ih =>
    rcases ih (hreach.attempt action) hs with ⟨t, ht, hid, hover⟩ | ⟨before, later, after, hsplit, hfound⟩
    · rcases attempt_cases w action with hsame | hadv
      · rw [hsame] at ht
        exact .inl ⟨t, ht, hid, hover⟩
      · obtain ⟨-, hstep⟩ := advance_eq_ok_iff.1 hadv
        have hspawns := (hreach.settled (Ruleset.aligned_compile d settings)).spawns
        have hrules := hreach.rules
        rw [← hstep] at ht
        have hcases := step_over hrules (hrules ▸ hlosses) (hrules ▸ htemplates) hspawns ht hover
        rcases hcases with ⟨u, hu, hid', hover'⟩ | hnew
        · exact .inl ⟨u, hu, hid'.trans hid, hover'⟩
        · exact .inr ⟨[], action, actions, rfl, _, hadv, t, hstep ▸ ht, hid, hnew⟩
    · exact .inr ⟨action :: before, later, after, by rw [hsplit, List.cons_append], hfound⟩

/-- Health over a run, if templates keep to their caps and no loss of points is a gain. Whoever
is over the cap has been so since a tick in which the sprite was made in place of another one,
with more health than its own type allows. If no rule leads to a lower cap, nobody is. -/
theorem health_run {level : String} {seed : UInt64} {start : World}
    (h : build (Ruleset.compile d settings).value level seed = .ok start) (actions : List Action) :
    (∀ type, ∀ s ∈ (start.run actions).group type, s.maxHealth < s.health →
      ∃ before action after, actions = before ++ action :: after ∧ ∃ v, (start.run before).advance action = .ok v ∧
        ∃ m ∈ v.group type, m.id = s.id ∧ (start.run before).Overfills action type m) ∧
    ((Ruleset.compile d settings).value.KeepsCaps →
      ∀ type, ∀ s ∈ (start.run actions).group type, s.health ≤ s.maxHealth) := by
  have hreach : Reachable (Ruleset.compile d settings).value start := .start h
  refine ⟨fun type s hs hover => ?_, fun hkeeps type s hs => ?_⟩
  · rcases over_run hlosses htemplates hreach actions hs (Int.not_le.2 hover) with ⟨t, ht, -, hstart⟩ | hfound
    · -- At the start everybody is like their template.
      exact absurd (kept_start h htemplates type t ht).1 hstart
    · exact hfound
  · exact ((hreach.run actions).kept hlosses htemplates hkeeps type s hs).1

end Run

/-- An avatar with five points that becomes a ghost, of another cap, where it meets a wall. There
the ghost loses points. -/
def haunted (cap : String) : Description :=
  { Description.empty with
    sprites := [
      ⟨"wall", some "Immovable", .empty, [], 1⟩,
      ⟨"ghost", some "Immovable", .ofList [("maxHealthPoints", cap)], [], 2⟩,
      ⟨"avatar", some "MovingAvatar", .ofList [("healthPoints", "5"), ("maxHealthPoints", "5")], [], 3⟩]
    interactions := [
      ⟨"avatar", "wall", "transformTo", .ofList [("stype", "ghost")], 4⟩,
      ⟨"ghost", "wall", "subtractHealthPoints", .empty, 5⟩] }

/-- A ghost with a cap of nine has all points of the avatar and loses one. With a cap of three it
is over its cap, since the tick in which it took the place of the avatar. -/
theorem health_run_haunted :
    (∃ start, build (Ruleset.compile (haunted "9") .default).value "Aw" 7 = .ok start ∧
      ∃ s ∈ (start.run [.right, .idle]).group 2, s.health = 4 ∧ s.health ≤ s.maxHealth) ∧
    ∃ start, build (Ruleset.compile (haunted "3") .default).value "Aw" 7 = .ok start ∧
      ∃ s ∈ (start.run [.right, .idle]).group 2, s.maxHealth < s.health ∧
        ∃ before action after, [.right, .idle] = before ++ action :: after ∧
          ∃ m, m.id = s.id ∧ (start.run before).Overfills action 2 m := by
  obtain ⟨start, h, hcheck⟩ := @exists_start (Ruleset.compile (haunted "9") .default).value "Aw" 7
    (fun w => decide (∃ s ∈ (w.run [.right, .idle]).group 2, s.health = 4)) (by decide +kernel)
  obtain ⟨s, hs, hfour⟩ := of_decide_eq_true hcheck
  obtain ⟨low, hlow, hcheck'⟩ := @exists_start (Ruleset.compile (haunted "3") .default).value "Aw" 7
    (fun w => decide (∃ s ∈ (w.run [.right, .idle]).group 2, s.maxHealth < s.health)) (by decide +kernel)
  obtain ⟨t, ht, hover⟩ := of_decide_eq_true hcheck'
  obtain ⟨-, hfit⟩ := health_run (by decide +kernel) (by decide +kernel) h [.right, .idle]
  obtain ⟨hmade, -⟩ := health_run (by decide +kernel) (by decide +kernel) hlow [.right, .idle]
  obtain ⟨before, action, after, hsplit, v, -, m, -, hid, hm⟩ := hmade 2 t ht hover
  exact ⟨⟨start, h, s, hs, hfour, hfit (by decide +kernel) 2 s hs⟩,
    low, hlow, t, ht, hover, before, action, after, hsplit, m, hid, hm⟩

/-- In a game whose templates keep to their caps, and whose only rule for points takes one, a
sprite gets over its cap. -/
theorem health_exceeds_cap :
    let rules := (Ruleset.compile (haunted "3") .default).value
    (∀ t ∈ rules.templates, t.health ≤ t.maxHealth) ∧
    (∀ rule ∈ rules.interactions, rule.effect.isVital = true → rule.effect = .subtractHealthPoints 1) ∧
    ∃ start, build rules "Aw" 7 = .ok start ∧ ∃ s ∈ (start.run [.right]).group 2, s.maxHealth < s.health := by
  obtain ⟨start, h, hcheck⟩ := @exists_start (Ruleset.compile (haunted "3") .default).value "Aw" 7
    (fun w => decide (∃ s ∈ (w.run [.right]).group 2, s.maxHealth < s.health)) (by decide +kernel)
  exact ⟨by decide +kernel, by decide +kernel, start, h, of_decide_eq_true hcheck⟩

end World

end SpriteGame
