import SpriteGame.Proofs.Identity
import SpriteGame.Proofs.Motion
import SpriteGame.Proofs.Registered
import SpriteGame.Proofs.Strict
/-!
# Ticks without a fault

In a sound world the strict tick answers, and with what the tick answers. Soundness is what
an index needs: registered types, a template and a group for each of them, and keys that
find a sprite, which they go on doing as long as the tick lasts. Each part of the strict
tick is shown to be the part of the tick it stands for; `strict_advance` puts them together.
-/
namespace SpriteGame

/-! ## Sound worlds -/

namespace World

/-- A world in which all that is looked up is there. -/
structure Sound (w : World) : Prop where
  registered : w.rules.Registered
  size : w.groups.size = w.rules.registry.size
  typed : ∀ type, ∀ s ∈ w.group type, s.type = type
  spawns : ∀ r ∈ w.spawns, r.type < w.rules.registry.size

variable {v w : World}

theorem Sound.type_lt (h : w.Sound) {key : Key} {s : Sprite} (hs : w.sprite? key = some s) :
    key.type < w.rules.registry.size := by
  rw [← h.size]
  exact lt_size_of_mem_group (mem_group_iff.2 ⟨key.index, hs⟩)

theorem Sound.exists_template (h : w.Sound) {type : TypeId} (htype : type < w.rules.registry.size) :
    ∃ t, w.rules.template? type = some t :=
  h.registered.aligned.exists_template htype

end World

/-! ## Operations -/

namespace Strict

open World

variable {w : World}

@[simp] theorem ok_bind {α β : Type} (a : α) (f : α → Except Fault β) : (Except.ok a >>= f) = f a := rfl

theorem get_eq {α : Type} {a : Array α} {i : Nat} {x : α} (h : a[i]? = some x) : get a i = .ok x := by
  rw [get, h]

theorem pick_eq {α : Type} (x : α) (l : List α) (rng : Random) : pick (x :: l) rng = .ok (rng.pick x l) := by
  have hlt : (rng.below (l.length + 1)).1 < (x :: l).length := Random.below_lt (Nat.succ_pos _) rng
  have hget : (x :: l).toArray[(rng.below (l.length + 1)).1]? =
      some ((x :: l)[(rng.below (l.length + 1)).1]?.getD x) := by
    rw [List.getElem?_toArray, List.getElem?_eq_getElem hlt]
    rfl
  have hbelow : below (x :: l).length rng = .ok (rng.below (l.length + 1)) := if_neg (Nat.succ_ne_zero _)
  rw [pick, hbelow, ok_bind]
  dsimp only
  rw [get_eq hget]
  rfl

theorem change_eq (s : Sprite) (c : Sprite.Change) : change s c = .ok (s.change c) := by
  cases c with
  | gain r delta limit =>
    have hbounds : ¬ max limit 0 < 0 := Int.not_lt.2 (Int.le_max_right ..)
    rw [change, clamp, if_neg hbounds]
    rfl
  | _ => rfl

theorem changes_eq (s : Sprite) (cs : List Sprite.Change) : changes s cs = .ok (s.changes cs) :=
  (foldlM_eq (P := fun _ => True) (fun s _ c _ => ⟨change_eq s c, trivial⟩) trivial).1

/-! ## Look-ups -/

theorem template_eq {type : TypeId} {t : Template} (h : w.rules.template? type = some t) :
    template w type = .ok t := get_eq h

theorem sprite_eq {key : Key} {s : Sprite} (h : w.sprite? key = some s) : sprite w key = .ok s := by
  unfold World.sprite? at h
  cases hgroup : w.groups[key.type]? with
  | none =>
    rw [hgroup] at h
    cases h
  | some group =>
    rw [hgroup] at h
    rw [sprite, get_eq hgroup, ok_bind]
    exact get_eq h

section Sound

variable (h : w.Sound) {type : TypeId} (htype : type < w.rules.registry.size)

include htype

theorem name_ok : ∃ s, name w type = .ok s := by
  obtain ⟨e, he⟩ : ∃ e, w.rules.registry.entries[type]? = some e := ⟨_, Array.getElem?_eq_getElem htype⟩
  exact ⟨e.name, by rw [name, get_eq he, ok_bind]⟩

theorem liveIn_eq : liveIn w type = .ok (w.liveIn type) := by
  obtain ⟨e, he⟩ : ∃ e, w.rules.registry.entries[type]? = some e := ⟨_, Array.getElem?_eq_getElem htype⟩
  have hdescendants : w.rules.registry.descendants type = e.descendants := by rw [Registry.descendants, he]
  rw [liveIn, descendants, get_eq he, World.liveIn, hdescendants]
  rfl

theorem countLive_eq : countLive w type = .ok (w.countLive type) := by
  rw [countLive, liveIn_eq htype]
  rfl

include h

theorem resourceLimit_eq : resourceLimit w type = .ok (w.rules.resourceLimit type) := by
  obtain ⟨t, ht⟩ := h.exists_template htype
  rw [resourceLimit, template_eq ht, Ruleset.resourceLimit, ht]
  rfl

end Sound

end Strict

/-! ## Edits -/

/-- An edit is of a sprite that there is, or asks for one of a registered type. -/
def Edit.Fits (w : World) : Edit → Prop
  | .kill key | .change key _ => ∃ s, w.sprite? key = some s
  | .spawn r => r.type < w.rules.registry.size

theorem World.Ensues.exists_sprite {v w : World} (h : v.Ensues w) {key : Key} {s : Sprite}
    (hs : v.sprite? key = some s) : ∃ t, w.sprite? key = some t := by
  have htag := h.tag_sprite? key
  rw [hs, Option.map_some] at htag
  obtain ⟨t, ht, -⟩ := Option.map_eq_some_iff.1 htag
  exact ⟨t, ht⟩

theorem Edit.Fits.later {v w : World} (h : v.Ensues w) {e : Edit} (he : e.Fits v) : e.Fits w := by
  cases e with
  | kill key | change key cs =>
    obtain ⟨s, hs⟩ := he
    exact h.exists_sprite hs
  | spawn r =>
    unfold Fits
    rw [h.rules]
    exact he

namespace World

variable {v w : World}

theorem Sound.of_ensues (hv : v.Sound) (h : v.Ensues w)
    (hspawns : ∀ r ∈ w.spawns, r.type < w.rules.registry.size) : w.Sound where
  registered := h.rules ▸ hv.registered
  size := by rw [h.size, h.rules, hv.size]
  typed type s hs := by
    obtain ⟨t, ht, htag⟩ := h.exists_tag hs
    exact (Prod.mk.inj htag).2 ▸ hv.typed type t ht
  spawns := hspawns

/-- Changing the sprite that a key finds, or putting its successor there. -/
theorem modify_const {key : Key} {s : Sprite} (hs : w.sprite? key = some s) (f : Sprite → Sprite) :
    (w.modify key fun _ => f s) = w.modify key f :=
  modify_congr fun _ ht => congrArg f (Option.some.inj (hs.symm.trans ht))

theorem Sound.edit (h : w.Sound) {e : Edit} (he : e.Fits w) :
    Strict.edit w e = .ok (w.edit e) ∧ (w.edit e).Sound := by
  cases e with
  | kill key =>
    obtain ⟨s, hs⟩ := he
    obtain ⟨name, hname⟩ := Strict.name_ok (h.type_lt hs)
    refine ⟨?_, h.of_ensues (ensues_edit w _) h.spawns⟩
    rw [Strict.edit, Strict.sprite_eq hs, Strict.ok_bind, hname, Strict.ok_bind, modify_const hs Sprite.remove]
    rfl
  | change key cs =>
    obtain ⟨s, hs⟩ := he
    refine ⟨?_, h.of_ensues (ensues_edit w _) h.spawns⟩
    rw [Strict.edit, Strict.sprite_eq hs, Strict.ok_bind, Strict.changes_eq, Strict.ok_bind,
      modify_const hs (·.changes cs)]
    rfl
  | spawn r =>
    refine ⟨rfl, h.of_ensues (ensues_edit w _) fun r' hr' => ?_⟩
    rcases List.mem_append.1 hr' with hr' | hr'
    · exact h.spawns r' hr'
    · rw [List.mem_singleton.1 hr']
      exact he

/-- A fold of steps within a tick that have no fault in the worlds that ensue. -/
theorem Sound.foldlM {α : Type} {step : World → α → Except Fault World} {next : World → α → World} {l : List α}
    (hw : w.Sound)
    (h : ∀ u : World, u.Sound → w.Ensues u → ∀ a ∈ l,
      step u a = .ok (next u a) ∧ (next u a).Sound ∧ u.Ensues (next u a)) :
    l.foldlM step w = .ok (l.foldl next w) ∧ (l.foldl next w).Sound ∧ w.Ensues (l.foldl next w) := by
  have hstep : ∀ u : World, u.Sound ∧ w.Ensues u → ∀ a ∈ l,
      step u a = .ok (next u a) ∧ (next u a).Sound ∧ w.Ensues (next u a) := by
    rintro u ⟨hu, hwu⟩ a ha
    obtain ⟨heq, hsound, hensues⟩ := h u hu hwu a ha
    exact ⟨heq, hsound, hwu.trans hensues⟩
  exact foldlM_eq hstep ⟨hw, .refl w⟩

theorem Sound.edits (h : w.Sound) {es : List Edit} (hes : ∀ e ∈ es, e.Fits w) :
    Strict.edits w es = .ok (w.edits es) ∧ (w.edits es).Sound := by
  obtain ⟨hfold, hsound, -⟩ := h.foldlM fun u hu hwu e he => by
    -- What fits goes on fitting, since an edit leaves the keys alone.
    obtain ⟨hedit, hsound⟩ := hu.edit ((hes e he).later hwu)
    exact ⟨hedit, hsound, ensues_edit u e⟩
  exact ⟨hfold, hsound⟩

end World

/-! ## Deciding -/

namespace Strict

open World

variable {w : World}

section Plan

variable (h : w.Sound) {t : Template} (ht : ∀ type, t.target = some type → type < w.rules.registry.size)

include ht

theorem closestTargets_eq (key : Key) (rect : Rect) :
    closestTargets w key rect t = .ok (Pursuit.closestTargets w key rect t) := by
  unfold closestTargets Pursuit.closestTargets Pursuit.inReach
  cases htarget : t.target with
  | none => rfl
  | some type =>
    dsimp only
    rw [liveIn_eq (ht type htarget)]
    rfl

theorem chase_eq (key : Key) (rect : Rect) (flees : Bool) (rng : Random) :
    chase w key rect t flees rng = .ok (Pursuit.chase w key rect t flees rng) := by
  rw [chase, closestTargets_eq ht, ok_bind, Pursuit.chase]
  cases (Pursuit.closestTargets w key rect t).flatMap (Pursuit.headings t.physics w.blockSize rect flees) with
  | nil => rfl
  | cons heading hs =>
    dsimp only
    rw [pick_eq]
    rfl

omit ht in
theorem wander_eq (s : Sprite) (t : Template) (rng : Random) : wander s t rng = .ok (Command.wander s t rng) := by
  unfold wander Command.wander
  split
  · rfl
  · rw [Heading.all, pick_eq]
    rfl

omit ht in
theorem turnRandomly_eq (s : Sprite) (rng : Random) : turnRandomly s rng = .ok (Command.turnRandomly s rng) := by
  unfold turnRandomly Command.turnRandomly
  split
  · rw [Heading.all, pick_eq]
    rfl
  · rfl

omit ht in
theorem emit_eq (s : Sprite) (t : Template) (rng : Random) : emit s t rng = .ok (Command.emit s t rng) := by
  have hdivisor : max t.cooldown 1 ≠ 0 := by omega
  unfold emit Command.emit
  split
  · rfl
  · cases t.target with
    | none => rfl
    | some type =>
      dsimp only
      rw [remainder, if_neg hdivisor, ok_bind]
      split
      · rfl
      · split <;> rfl

theorem hunt_eq (key : Key) (s : Sprite) (flees : Bool) (rng : Random) :
    hunt w key s t flees rng = .ok (Command.hunt w key s t flees rng) := by
  rw [hunt, chase_eq ht, ok_bind, Command.hunt]
  cases Pursuit.chase w key s.rect t flees rng with
  | none => exact wander_eq s t rng
  | some drawn => rfl

omit ht in
theorem staticTypes_eq {types : List TypeId} (htypes : ∀ type ∈ types, type < w.rules.templates.size) :
    staticTypes w types = .ok (types.filter (w.rules.hasRole · .static)) := by
  induction types with
  | nil => rfl
  | cons type types ih =>
    obtain ⟨hlt, hrest⟩ := List.forall_mem_cons.1 htypes
    have ht : w.rules.template? type = some w.rules.templates[type] := Array.getElem?_eq_getElem hlt
    rw [staticTypes, template_eq ht, ok_bind, ih hrest, ok_bind, List.filter_cons, Ruleset.hasRole, ht]
    simp only [Option.any_some, decide_eq_true_eq]

omit ht in
/-- The live sprites with a role are those of the types with the role. -/
theorem filter_flatMap_liveOf (role : Role) (types : List TypeId) :
    (types.flatMap w.liveOf).filter (fun e => w.rules.hasRole e.1.type role) =
      (types.filter (w.rules.hasRole · role)).flatMap w.liveOf := by
  induction types with
  | nil => rfl
  | cons type types ih =>
    have htype : ∀ e ∈ w.liveOf type, w.rules.hasRole e.1.type role = w.rules.hasRole type role := fun e he =>
      congrArg (w.rules.hasRole · role) (mem_liveOf.1 he).1
    rw [List.flatMap_cons, List.filter_append, ih, List.filter_cons]
    split
    · next hrole =>
      rw [List.filter_eq_self.2 fun e he => (htype e he).trans hrole, List.flatMap_cons]
    · next hrole =>
      rw [List.filter_eq_nil_iff.2 fun e he => by rwa [htype e he], List.nil_append]

include h

theorem pathStep_eq (key : Key) (rect : Rect) :
    pathStep w key rect t = .ok (Pursuit.pathStep w key rect t) := by
  have hstatic : staticTypes w (.range w.rules.templates.size) =
      .ok ((List.range w.rules.templates.size).filter (w.rules.hasRole · .static)) :=
    staticTypes_eq fun type => List.mem_range.1
  have hlive : ((List.range w.rules.templates.size).filter (w.rules.hasRole · .static)).flatMap w.liveOf =
      w.liveWithRole .static := by
    rw [← filter_flatMap_liveOf, h.registered.aligned.size, ← h.size]
    rfl
  rw [pathStep, closestTargets_eq ht, ok_bind, Pursuit.pathStep]
  cases (Pursuit.closestTargets w key rect t).head? with
  | none => rfl
  | some target =>
    dsimp only
    rw [hstatic, ok_bind, hlive]
    rfl

theorem follow_eq (key : Key) (s : Sprite) (rng : Random) :
    follow w key s t rng = .ok (Command.follow w key s t rng) := by
  rw [follow, pathStep_eq h ht, ok_bind, Command.follow]
  cases Pursuit.pathStep w key s.rect t with
  | none => exact wander_eq s t rng
  | some dir => rfl

end Plan

theorem order_eq (h : w.Sound) {key : Key} {s : Sprite} {t : Template} (hs : w.sprite? key = some s)
    (ht : w.rules.template? key.type = some t) (action : Action) (rng : Random) :
    order w action key rng =
      .ok (⟨key, s, t, (Command.plan w key s t action rng).1⟩, (Command.plan w key s t action rng).2) := by
  have htarget : ∀ type, t.target = some type → type < w.rules.registry.size :=
    h.registered.targets t (Array.mem_of_getElem? ht)
  rw [order, sprite_eq hs, ok_bind, template_eq ht, ok_bind]
  unfold Command.plan
  cases t.cls with
  | randomMissile =>
    dsimp only
    rw [turnRandomly_eq]
    rfl
  | spawnPoint =>
    dsimp only
    rw [emit_eq]
    rfl
  | randomNpc =>
    dsimp only
    rw [wander_eq]
    rfl
  | chaser | fleeing =>
    dsimp only
    rw [hunt_eq htarget]
    rfl
  | pathChaser =>
    dsimp only
    rw [follow_eq h htarget]
    rfl
  | _ => rfl

theorem orders_eq (h : w.Sound) (action : Action) {l : List (Key × Sprite)}
    (hl : ∀ e ∈ l, w.sprite? e.1 = some e.2) (rng : Random) :
    orders w action (l.map (·.1)) rng = .ok (w.ordersOf action l rng) := by
  induction l generalizing rng with
  | nil => rfl
  | cons e l ih =>
    obtain ⟨key, s⟩ := e
    obtain ⟨hs, hrest⟩ := List.forall_mem_cons.1 hl
    obtain ⟨t, ht⟩ := h.exists_template (h.type_lt hs)
    rw [List.map_cons, orders, order_eq h hs ht, ok_bind]
    dsimp only
    rw [ih hrest, ok_bind, ordersOf, ht]

end Strict

/-! ## Carrying out -/

namespace World

variable {w : World}

/-- Carrying out an order in a moment of the tick in which it was given. -/
theorem Sound.carryOut (h : w.Sound) {o : Order} {s : Sprite} (hs : w.sprite? o.key = some s)
    (ht : w.rules.template? o.key.type = some o.template)
    (hspawn : ∀ r, o.command.spawn = some r → r.type < w.rules.registry.size) :
    Strict.carryOut w o = .ok (w.edits (o.edits w.blockSize)) ∧ (w.edits (o.edits w.blockSize)).Sound := by
  obtain ⟨key, start, t, c⟩ := o
  obtain ⟨u, hu⟩ : ∃ u, u = w.edits (c.spawn.map Edit.spawn).toList := ⟨_, rfl⟩
  have hasked : c.spawn.elim w w.request = u := by
    rw [hu]
    cases c.spawn <;> rfl
  have hensues : w.Ensues u := hu ▸ ensues_edits w _
  have husound : u.Sound := by
    rw [hu]
    refine (h.edits fun e he => ?_).2
    obtain ⟨r, hr, rfl⟩ := Option.map_eq_some_iff.1 (Option.mem_toList.1 he)
    exact hspawn r hr
  have hblock : u.blockSize = w.blockSize := congrArg Ruleset.blockSize hensues.rules
  have hkey := hensues.exists_sprite hs
  rw [Strict.carryOut, Order.edits, Command.edits, edits_append, ← hu]
  dsimp only
  rw [hasked]
  split
  · exact husound.edit hkey
  · have hedit := husound.edit (e := .change key (c.changes start t u.blockSize)) hkey
    rw [Strict.template_eq (hensues.rules ▸ ht), Strict.ok_bind, ← hblock]
    cases hcs : c.changes start t u.blockSize with
    | nil =>
      rw [hcs, edit_change_nil] at hedit
      exact hedit
    | cons change changes =>
      rw [hcs] at hedit
      exact hedit

theorem Sound.counted (h : w.Sound) (action : Action) : (w.counted action).startTick.Sound :=
  Sound.of_ensues (v := w.counted action) { h with } (ensues_startTick _) h.spawns

theorem Sound.moved (h : w.Sound) (action : Action) :
    Strict.moved w action = .ok (w.moved action) ∧ (w.moved action).Sound := by
  obtain ⟨start, hstart⟩ : ∃ start, start = (w.counted action).startTick := ⟨_, rfl⟩
  have hrules : start.rules = w.rules := hstart ▸ (ensues_startTick _).rules
  have hmoved : w.moved action = (w.orders action).1.foldl (fun u o => u.edits (o.edits w.blockSize)) start := by
    rw [moved_eq, World.carryOut, World.edits, List.foldl_flatMap, hstart]
    rfl
  have horders : Strict.moved w action = (w.orders action).1.foldlM Strict.carryOut start := by
    rw [Strict.moved, Strict.orders_eq h action fun e => sprite?_of_mem_live, Strict.ok_bind, hstart]
    rfl
  have hsound : start.Sound := hstart ▸ h.counted action
  rw [horders, hmoved]
  obtain ⟨hfold, hsound, -⟩ := hsound.foldlM fun u hu hstartu o ho => by
    -- An order is of a sprite that was there at the start, and by its template.
    obtain ⟨hlive, ht, rng, hcommand⟩ := mem_ordersOf ho
    have hsprite : start.sprite? o.key = some o.sprite.startTick := by
      rw [hstart, sprite?_startTick]
      exact congrArg (Option.map Sprite.startTick) (sprite?_of_mem_live hlive)
    obtain ⟨s, hs⟩ := hstartu.exists_sprite hsprite
    have hurules : u.rules = w.rules := hstartu.rules.trans hrules
    have hblock : u.blockSize = w.blockSize := congrArg Ruleset.blockSize hurules
    obtain ⟨hstrict, hsound⟩ := hu.carryOut hs (hurules ▸ ht) fun r hr => by
      rw [hcommand] at hr
      obtain ⟨type, center, dir, htarget, rfl⟩ := Command.spawn_plan hr
      rw [hurules]
      exact h.registered.targets _ (Array.mem_of_getElem? ht) type htarget
    rw [hblock] at hstrict hsound
    exact ⟨hstrict, hsound, ensues_edits u _⟩
  exact ⟨hfold, hsound⟩

end World

/-! ## Effects -/

namespace Effect

open World

variable {w : World} {key : Key} {s : Sprite} {e : Effect} {es : List Edit} {rng : Random}

theorem fits_killOther {second : Option Key}
    (hsecond : ∀ other, second = some other → ∃ o, w.sprite? other = some o)
    (asked : Bool) : ∀ e ∈ killOther asked second, e.Fits w := by
  intro e he
  unfold killOther at he
  split at he
  · obtain ⟨other, rfl, rfl⟩ := Option.map_eq_some_iff.1 (Option.mem_toList.1 he)
    exact hsecond other rfl
  · cases he

theorem fits_alone (h : w.Sound) (htypes : ∀ type ∈ e.referencedTypes, type < w.rules.registry.size)
    (hs : w.sprite? key = some s) {second : Option Key}
    (hsecond : ∀ other, second = some other → ∃ o, w.sprite? other = some o)
    (hes : e.alone w key s second = some (es, rng)) : ∀ e ∈ es, e.Fits w := by
  have hother := fits_killOther hsecond
  have hkey : ∀ cs, (Edit.change key cs).Fits w := fun _ => ⟨s, hs⟩
  have hkill : (Edit.kill key).Fits w := ⟨s, hs⟩
  cases e <;> simp only [alone, certain_eq_some, provided_eq_some, Option.some.injEq, Prod.mk.injEq,
    reduceCtorEq] at hes
  case killSprite =>
    obtain ⟨rfl, -⟩ := hes
    exact List.forall_mem_singleton.2 hkill
  case killIfHasMore | killIfHasLess =>
    obtain ⟨-, rfl, -⟩ := hes
    exact List.forall_mem_singleton.2 hkill
  case killBoth =>
    obtain ⟨rfl, -⟩ := hes
    exact List.forall_mem_cons.2 ⟨hkill, hother true⟩
  case killAll type =>
    obtain ⟨rfl, -⟩ := hes
    intro e he
    obtain ⟨x, hx, rfl⟩ := List.mem_map.1 he
    exact ⟨x.2, sprite?_of_mem_liveIn hx⟩
  case spawn type =>
    obtain ⟨rfl, -⟩ := hes
    exact List.forall_mem_singleton.2 (htypes type List.mem_cons_self)
  case spawnIfHasMore resource limit type =>
    obtain ⟨-, rfl, -⟩ := hes
    exact List.forall_mem_singleton.2 (htypes type (List.mem_cons_of_mem _ List.mem_cons_self))
  case cloneSprite =>
    obtain ⟨rfl, -⟩ := hes
    have htype : s.type = key.type := h.typed key.type s (mem_group_iff.2 ⟨key.index, hs⟩)
    exact List.forall_mem_singleton.2 (show s.type < _ from htype ▸ h.type_lt hs)
  case transformTo type killSecond =>
    obtain ⟨rfl, -⟩ := hes
    have hspawn : (Edit.spawn (successor type s)).Fits w := htypes type List.mem_cons_self
    exact List.forall_mem_cons.2 ⟨hkill, List.forall_mem_cons.2 ⟨hspawn, hother killSecond⟩⟩
  case undoAll except =>
    obtain ⟨rfl, -⟩ := hes
    intro e he
    obtain ⟨x, hx, rfl⟩ := List.mem_map.1 he
    exact ⟨x.2, sprite?_of_mem_live (List.mem_filter.1 hx).1⟩
  case speedToAll type value change =>
    obtain ⟨rfl, -⟩ := hes
    intro e he
    obtain ⟨x, hx, rfl⟩ := List.mem_map.1 he
    exact ⟨x.2, sprite?_of_mem_liveIn hx⟩
  case changeResource resource value killResource =>
    obtain ⟨rfl, -⟩ := hes
    exact List.forall_mem_cons.2 ⟨hkey _, hother killResource⟩
  case subtractHealthPoints value =>
    obtain ⟨rfl, -⟩ := hes
    refine List.forall_mem_cons.2 ⟨hkey _, fun e he => ?_⟩
    split at he
    · exact List.mem_singleton.1 he ▸ hkill
    · cases he
  all_goals
    obtain ⟨rfl, -⟩ := hes
    exact List.forall_mem_singleton.2 (hkey _)

theorem fits_between {otherKey : Key} {other : Sprite}
    (htypes : ∀ type ∈ e.referencedTypes, type < w.rules.registry.size) (hs : w.sprite? key = some s)
    (ho : w.sprite? otherKey = some other) (hes : e.between w key s otherKey other = some (es, rng)) :
    ∀ e ∈ es, e.Fits w := by
  have hkey : ∀ cs, (Edit.change key cs).Fits w := fun _ => ⟨s, hs⟩
  have hkill : (Edit.kill key).Fits w := ⟨s, hs⟩
  cases e <;> simp only [between, certain_eq_some, provided_eq_some, reduceCtorEq] at hes
  case killIfOtherHasMore | killIfFromAbove =>
    obtain ⟨-, rfl, -⟩ := hes
    exact List.forall_mem_singleton.2 hkill
  case spawnBehind type =>
    obtain ⟨rfl, -⟩ := hes
    exact List.forall_mem_singleton.2 (htypes type List.mem_cons_self)
  case teleportToExit =>
    split at hes
    · cases hes
      exact List.forall_mem_singleton.2 (hkey _)
    · cases hes
  case collectResource killResource =>
    split at hes
    · cases hes
    · rw [provided_eq_some] at hes
      obtain ⟨-, rfl, -⟩ := hes
      refine List.forall_mem_cons.2 ⟨⟨other, ho⟩, fun e he => ?_⟩
      split at he
      · exact List.mem_singleton.1 he ▸ hkill
      · cases he
  case attractGaze inLine =>
    obtain ⟨-, rfl, -⟩ := hes
    exact List.forall_mem_singleton.2 (hkey _)
  case bounceForward =>
    split at hes
    · cases hes
    · rw [provided_eq_some] at hes
      obtain ⟨-, rfl, -⟩ := hes
      exact List.forall_mem_singleton.2 (hkey _)
  case pullWithIt =>
    obtain ⟨rfl, -⟩ := hes
    exact List.forall_mem_singleton.2 (hkey _)

end Effect

namespace Strict

open World

variable {w : World} {key : Key} {s : Sprite} {e : Effect}

theorem alone_eq (h : w.Sound) (htypes : ∀ type ∈ e.referencedTypes, type < w.rules.registry.size)
    (second : Option Key) : alone w key s second e = .ok (e.alone w key s second) := by
  cases e with
  | killAll type | speedToAll type value change =>
    rw [alone, liveIn_eq (htypes type List.mem_cons_self)]
    rfl
  | changeResource resource value killResource =>
    rw [alone, resourceLimit_eq h (htypes resource List.mem_cons_self)]
    rfl
  | flipDirection =>
    rw [alone, Heading.all, pick_eq]
    rfl
  | _ => rfl

theorem between_eq (h : w.Sound) (hs : w.sprite? key = some s) {otherKey : Key} {other : Sprite}
    (ho : w.sprite? otherKey = some other) :
    between w key s otherKey other e = .ok (e.between w key s otherKey other) := by
  obtain ⟨t, ht⟩ := h.exists_template (h.type_lt hs)
  cases e with
  | teleportToExit =>
    obtain ⟨t, ht⟩ := h.exists_template (h.type_lt ho)
    rw [between, template_eq ht, ok_bind, Effect.between, ht, Option.bind_some]
    cases htarget : t.target with
    | none => rfl
    | some type =>
      have htype := h.registered.targets t (Array.mem_of_getElem? ht) type htarget
      dsimp only
      rw [liveIn_eq htype, ok_bind, Option.map_some]
      cases w.liveIn type with
      | nil => rfl
      | cons exit exits =>
        rw [List.isEmpty_cons, if_neg Bool.false_ne_true, List.map_cons, pick_eq]
        rfl
  | collectResource killResource | bounceForward =>
    rw [between, template_eq ht, Effect.between, ht]
    rfl
  | _ => rfl

theorem edits?_eq (h : w.Sound) (htypes : ∀ type ∈ e.referencedTypes, type < w.rules.registry.size)
    (hs : w.sprite? key = some s) {second : Option Key}
    (hsecond : ∀ other, second = some other → ∃ o, w.sprite? other = some o) :
    edits? e w (some key) second = .ok (e.edits? w (some key) second) := by
  unfold edits? Effect.edits?
  simp only [sprite_eq hs, ok_bind, Option.bind_eq_bind, Option.bind_some, hs]
  split
  · cases second with
    | none => rfl
    | some other =>
      obtain ⟨o, ho⟩ := hsecond other rfl
      simp only [sprite_eq ho, ok_bind, Option.bind_some, ho]
      exact between_eq h hs ho
  · exact alone_eq h htypes second

end Strict

namespace World

variable {w : World}

theorem Sound.apply (h : w.Sound) {e : Effect} (htypes : ∀ type ∈ e.referencedTypes, type < w.rules.registry.size)
    {c : Collision} (hc : c.holds w = true) :
    Strict.apply e w (some c.first) c.second = .ok (e.apply w (some c.first) c.second) ∧
      (e.apply w (some c.first) c.second).2.Sound := by
  rw [Collision.holds_iff] at hc
  obtain ⟨s, hs, -⟩ := isAlive_iff.1 hc.1
  have hsecond : ∀ other, c.second = some other → ∃ o, w.sprite? other = some o := fun other hother => by
    obtain ⟨o, ho, -⟩ := isAlive_iff.1 (hc.2 other hother)
    exact ⟨o, ho⟩
  rw [Strict.apply, Strict.edits?_eq h htypes hs hsecond, Strict.ok_bind, Effect.apply]
  cases hes : e.edits? w (some c.first) c.second with
  | none => exact ⟨rfl, h⟩
  | some result =>
    obtain ⟨es, rng⟩ := result
    have hfits : ∀ e ∈ es, e.Fits w := by
      obtain ⟨s', hs', hes⟩ := Effect.edits?_eq_some.1 hes
      split at hes
      · obtain ⟨other, o, -, ho, hes⟩ := hes
        exact Effect.fits_between htypes hs' ho hes
      · exact Effect.fits_alone h htypes hs' hsecond hes
    obtain ⟨hedits, hsound⟩ := Sound.edits (w := { w with rng }) { h with } fun e he =>
      (hfits e he).later (ensues_set w rng w.pendingScore)
    dsimp only
    rw [hedits]
    exact ⟨rfl, hsound⟩

/-! ## Rules -/

theorem Sound.applyRule (h : w.Sound) {r : Interaction} (hr : r ∈ w.rules.interactions) {c : Collision}
    (hc : c.holds w = true) : Strict.applyRule w c r = .ok (w.applyRule c r) ∧ (w.applyRule c r).Sound := by
  have hdrawn : ({ w with rng := (w.rng.chance r.prob).2 } : World).Sound := { h with }
  obtain ⟨happly, hsound⟩ := hdrawn.apply (e := r.effect) (c := c) (h.registered.effects r hr) hc
  unfold Strict.applyRule World.applyRule
  dsimp only
  split
  · rw [happly, Strict.ok_bind]
    refine ⟨rfl, ?_⟩
    split
    · exact { hsound with }
    · exact hsound
  · exact ⟨rfl, hdrawn⟩

theorem Sound.fireRule (h : w.Sound) {i : Nat} {r : Interaction} (hr : w.rules.interactions[i]? = some r)
    (c : Collision) : Strict.fireRule c w i = .ok (fireRule c w r) ∧ (fireRule c w r).Sound := by
  unfold Strict.fireRule World.fireRule
  split
  · next hc =>
    rw [Strict.get_eq hr, Strict.ok_bind]
    exact h.applyRule (Array.mem_of_getElem? hr) hc
  · exact ⟨rfl, h⟩

theorem Sound.fire (h : w.Sound) {c : Collision} {p : Pairing} (hp : w.rules.dispatch[c.pairing]? = some p) :
    Strict.fire w c = .ok (w.fire c) ∧ (w.fire c).Sound ∧ w.Ensues (w.fire c) := by
  have hfire : w.fire c = p.rules.foldl (fun u i => (w.rules.interactions[i]?).elim u (World.fireRule c u)) w := by
    rw [World.fire, rulesFor, hp, List.foldl_filterMap]
    congr 1
    funext u i
    cases w.rules.interactions[i]? <;> rfl
  rw [Strict.fire, Strict.get_eq hp, Strict.ok_bind, hfire]
  exact h.foldlM fun u hu hwu i hi => by
    have hlt : i < w.rules.interactions.size := h.registered.rules p (Array.mem_of_getElem? hp) i hi
    have hr : w.rules.interactions[i]? = some w.rules.interactions[i] := Array.getElem?_eq_getElem hlt
    have hru : u.rules.interactions[i]? = some w.rules.interactions[i] := by rw [hwu.rules, hr]
    obtain ⟨hfire, hsound⟩ := hu.fireRule hru c
    rw [hr, Option.elim_some]
    exact ⟨hfire, hsound, ensues_fireRule u c _⟩

/-- The rules of a tick find what they are fired for. -/
theorem Sound.fireAll (h : w.Sound) : w.detect.foldlM Strict.fire w = .ok (w.fireAll w.detect) ∧
    (w.fireAll w.detect).Sound := by
  obtain ⟨hfold, hsound, -⟩ := h.foldlM fun u hu hwu c hc => by
    obtain ⟨p, hp, -⟩ := mem_detect.1 hc
    exact hu.fire (hwu.rules ▸ hp)
  exact ⟨hfold, hsound⟩

theorem Sound.resolved (h : w.Sound) (action : Action) :
    Strict.resolved w action = .ok (w.resolved action) ∧ (w.resolved action).Sound := by
  obtain ⟨hmoved, hsound⟩ := h.moved action
  rw [Strict.resolved, hmoved, Strict.ok_bind]
  exact hsound.fireAll

/-! ## The end of a tick -/

theorem Sound.settle (h : w.Sound) : w.settle.Sound where
  registered := h.registered
  size := Array.size_map.trans h.size
  typed type s hs := by
    rw [group_settle] at hs
    exact h.typed type s (List.mem_filter.1 hs).1
  spawns := nofun

theorem Sound.instantiate (h : w.Sound) {r : SpawnRequest} (hr : r.type < w.rules.registry.size) :
    Strict.instantiate w r = .ok (w.instantiate r) ∧ (w.instantiate r).Sound := by
  obtain ⟨t, ht⟩ := h.exists_template hr
  obtain ⟨group, hgroup⟩ : ∃ group, w.groups[r.type]? = some group :=
    ⟨_, Array.getElem?_eq_getElem (h.size ▸ hr)⟩
  have hcreate : (w.create r.type (r.make w.nextId w.blockSize t)).Sound := by
    refine { h with size := (size_create ..).trans h.size, typed := fun type s hs => ?_ }
    rcases mem_group_create hs with hs | ⟨rfl, rfl⟩
    · exact h.typed type s hs
    · have htype : (r.make w.nextId w.blockSize t).type = t.id := congrArg Prod.snd (r.tag_make ..)
      exact htype.trans (h.registered.aligned.inPlace r.type t ht)
  rw [Strict.instantiate, Strict.template_eq ht, Strict.ok_bind, World.instantiate, ht]
  dsimp only
  split
  · rw [Strict.get_eq hgroup]
    exact ⟨rfl, hcreate⟩
  · exact ⟨rfl, h⟩

theorem Sound.commit (h : w.Sound) : Strict.commit w = .ok w.commit ∧ w.commit.Sound := by
  have hstep : ∀ u : World, u.Sound ∧ u.rules = w.rules → ∀ r ∈ w.spawns,
      Strict.instantiate u r = .ok (u.instantiate r) ∧ (u.instantiate r).Sound ∧
        (u.instantiate r).rules = w.rules := by
    rintro u ⟨hu, hrules⟩ r hr
    obtain ⟨hinstantiate, hsound⟩ := hu.instantiate (hrules ▸ h.spawns r hr)
    exact ⟨hinstantiate, hsound, (extends_instantiate u r).rules.trans hrules⟩
  obtain ⟨hfold, hsound, -⟩ := foldlM_eq hstep ⟨h.settle, rfl⟩
  exact ⟨hfold, hsound⟩

end World

namespace Strict

open World

variable {w : World}

theorem isSatisfied_eq {t : Termination} (ht : ∀ type ∈ t.condition.types, type < w.rules.registry.size) :
    isSatisfied w t = .ok (t.isSatisfied w.countLive w.tick) := by
  unfold isSatisfied Termination.isSatisfied
  cases hcondition : t.condition with
  | spriteCounter type =>
    rw [hcondition] at ht
    dsimp only
    rw [countLive_eq (ht type List.mem_cons_self)]
    rfl
  | multiSpriteCounter types =>
    rw [hcondition] at ht
    have hstep : ∀ n : Nat, True → ∀ type ∈ types,
        (do let more ← countLive w type; .ok (n + more) : Except Fault Nat) = .ok (n + w.countLive type) ∧ True :=
      fun n _ type htype => ⟨by rw [countLive_eq (ht type htype), ok_bind], trivial⟩
    dsimp only
    rw [(foldlM_eq hstep trivial).1]
    rfl
  | timeout => rfl

theorem decisive?_eq {ts : List Termination}
    (hts : ∀ t ∈ ts, ∀ type ∈ t.condition.types, type < w.rules.registry.size) :
    decisive? w ts = .ok (Termination.decisive? ts w.countLive w.tick) := by
  induction ts with
  | nil => rfl
  | cons t ts ih =>
    obtain ⟨ht, hrest⟩ := List.forall_mem_cons.1 hts
    rw [decisive?, isSatisfied_eq ht, ok_bind, Termination.decisive?, List.find?_cons]
    cases t.isSatisfied w.countLive w.tick with
    | true => rfl
    | false => exact ih hrest

theorem judge_eq (h : w.Sound) : judge w = .ok w.judge := by
  rw [judge, decisive?_eq h.registered.conditions, ok_bind, World.judge, World.decisive?]
  cases Termination.decisive? w.rules.terminations w.countLive w.tick <;> rfl

theorem step_eq (h : w.Sound) (action : Action) : step w action = .ok (w.step action) := by
  obtain ⟨hresolved, hsound⟩ := h.resolved action
  obtain ⟨hcommit, hcommitted⟩ := hsound.commit
  rw [step, hresolved, ok_bind, hcommit, ok_bind, judge_eq hcommitted]
  rfl

theorem advance_eq (h : w.Sound) (action : Action) : advance w action = .ok (w.advance action) := by
  unfold advance World.advance
  split
  · rfl
  · rw [step_eq h]
    rfl

end Strict

/-! ## Episodes -/

namespace World

theorem Reachable.sound {rules : Ruleset} (hrules : rules.Registered) {w : World} (h : Reachable rules w) :
    w.Sound := by
  have hsettled := h.settled hrules.aligned
  exact {
    registered := h.rules ▸ hrules
    size := hsettled.size
    typed := fun type s hs => (hsettled.typed type s hs).1
    spawns := by rw [hsettled.spawns]; nofun }

/-- Advancing has no fault, in any episode of a compiled rule set, whatever problems the
description has and whatever the characters of the level are mapped to: the strict tick
answers, and with what the tick answers. -/
theorem strict_advance {d : Description} {settings : Settings} {levelMapping : SortedMap Char (List TypeId)} {w : World}
    (h : Reachable { (Ruleset.compile d settings).value with levelMapping } w) (action : Action) :
    Strict.advance w action = .ok (w.advance action) := by
  have hcompiled := Ruleset.registered_compile d settings
  have hregistered : ({ (Ruleset.compile d settings).value with levelMapping } : Ruleset).Registered :=
    { hcompiled with aligned := { hcompiled.aligned with } }
  exact Strict.advance_eq (h.sound hregistered) action

/-- On the errand, which spawns, collects and kills, the first two ticks have no fault. -/
theorem strict_advance_errand :
    ∃ start, build (Ruleset.compile errand .default).value "n\nA g" 7 = .ok start ∧
      Strict.advance start .right = .ok (start.advance .right) ∧
      Strict.advance (start.run [.right]) .right = .ok ((start.run [.right]).advance .right) := by
  obtain ⟨start, h, -⟩ := @exists_start (Ruleset.compile errand .default).value "n\nA g" 7 (fun _ => true)
    (by decide +kernel)
  have hreach : Reachable _ start := .start h
  exact ⟨start, h, strict_advance hreach .right, strict_advance (hreach.run [.right]) .right⟩

/-- Without their templates sprites cannot decide. -/
example : (build (Ruleset.compile errand .default).value "n\nA g" 7).toOption.any (fun w =>
    !(Strict.advance { w with rules := { w.rules with templates := #[] } } .right).isOk) = true := by
  decide +kernel

end World

end SpriteGame
