import SpriteGame.Proofs.Comparison
import SpriteGame.Proofs.Compilation
import SpriteGame.Proofs.Detection
import SpriteGame.Proofs.Episode
import SpriteGame.Pursuit.Target
/-!
# Hunters and their targets

Whom a hunter is after is said without a search: `Pursuit.Closest` are the live sprites of the
type hunted, within reach, that no other one is closer than. The search takes the least of all
distances and what is as far away as that. The least is found by going through the distances
once (`Double.rank_least`), and as long as all of them are numbers, to be as far away as the
least is to have nothing closer (`Double.beq_least_iff`). A heading is drawn from those that
gain on a closest target, so one is found iff there is one (`Pursuit.hunt_exact`).
-/
namespace SpriteGame

/-! ## The least of some numbers -/

namespace Double

/-- The least is a number, is none of the others above, and one of them, or else the start. -/
theorem rank_foldl {ds : List Float} (hds : ∀ d ∈ ds, d.isNaN = false) {best : Float} (hbest : best.isNaN = false) :
    let least := ds.foldl (fun best d => if d < best then d else best) best
    least.isNaN = false ∧ (least = best ∨ least ∈ ds) ∧ rank least ≤ rank best ∧ ∀ d ∈ ds, rank least ≤ rank d := by
  induction ds generalizing best with
  | nil => exact ⟨hbest, .inl rfl, le_rfl, nofun⟩
  | cons d ds ih =>
    obtain ⟨hd, hds⟩ := List.forall_mem_cons.1 hds
    rw [List.foldl_cons]
    by_cases hlt : d < best
    · rw [if_pos hlt]
      obtain ⟨hnumber, hfound, hle, hall⟩ := ih hds hd
      have hbelow : rank d < rank best := (lt_iff hd hbest).1 hlt
      refine ⟨hnumber, .inr ?_, hle.trans hbelow.le, List.forall_mem_cons.2 ⟨hle, hall⟩⟩
      exact List.mem_cons.2 hfound
    · rw [if_neg hlt]
      obtain ⟨hnumber, hfound, hle, hall⟩ := ih hds hbest
      have habove : rank best ≤ rank d := not_lt.1 fun h => hlt ((lt_iff hd hbest).2 h)
      exact ⟨hnumber, hfound.imp_right (List.mem_cons_of_mem _), hle, List.forall_mem_cons.2 ⟨hle.trans habove, hall⟩⟩

/-- A number among others is as large as the least of them iff none of them is less. -/
theorem beq_least_iff {ds : List Float} (hds : ∀ d ∈ ds, d.isNaN = false) {d : Float} (hd : d ∈ ds) :
    (d == Pursuit.least ds) = true ↔ ∀ e ∈ ds, ¬e < d := by
  have hinfinity : (1 / 0 : Float).isNaN = false := by decide
  have hspec : (Pursuit.least ds).isNaN = false ∧ (Pursuit.least ds = 1 / 0 ∨ Pursuit.least ds ∈ ds) ∧
      rank (Pursuit.least ds) ≤ rank (1 / 0) ∧ ∀ d ∈ ds, rank (Pursuit.least ds) ≤ rank d :=
    rank_foldl hds hinfinity
  obtain ⟨hnumber, hfound, -, hleast⟩ := hspec
  rw [beq_iff (hds d hd) hnumber]
  constructor
  · intro heq e he hlt
    exact absurd (hleast e he) (not_le.2 (heq ▸ (lt_iff (hds e he) (hds d hd)).1 hlt))
  · intro hnone
    refine le_antisymm ?_ (hleast d hd)
    rcases hfound with heq | hmem
    · rw [heq]
      exact rank_le_infinity d
    · exact not_lt.1 fun hlt => hnone _ hmem ((lt_iff hnumber (hds d hd)).2 hlt)

end Double

/-! ## The order of live sprites -/

/-- The order of sprites by their types and, among those of one type, by their age. -/
def Key.Before (k l : Key) : Prop := k.type < l.type ∨ k.type = l.type ∧ k.index < l.index

theorem World.pairwise_liveIn {w : World} (hr : w.rules.registry.WellFormed) (type : TypeId) :
    (w.liveIn type).Pairwise fun a b => a.1.Before b.1 := by
  refine List.pairwise_flatMap.2 ⟨fun a _ => ?_, (hr.ascending type).imp fun hab x hx y hy => ?_⟩
  · refine (w.pairwise_liveOf a).imp_of_mem fun hx hy h => ?_
    exact .inr ⟨(mem_liveOf.1 hx).1.trans (mem_liveOf.1 hy).1.symm, h⟩
  · refine .inl ?_
    rw [(mem_liveOf.1 hx).1, (mem_liveOf.1 hy).1]
    exact hab

theorem World.mem_liveIn {w : World} {type : TypeId} {key : Key} {s : Sprite} :
    (key, s) ∈ w.liveIn type ↔
      key.type ∈ w.rules.registry.descendants type ∧ w.sprite? key = some s ∧ s.alive = true := by
  unfold liveIn
  simp only [List.mem_flatMap, mem_liveOf]
  constructor
  · rintro ⟨type, htype, rfl, hs⟩
    exact ⟨htype, hs⟩
  · rintro ⟨htype, hs⟩
    exact ⟨_, htype, rfl, hs⟩

namespace Pursuit

/-! ## Closest targets -/

section

variable (w : World) (key : Key) (rect : Rect) (t : Template)

/-- Live sprites of the type that is hunted, or of one that inherits from it; the hunter is not
after itself. -/
structure Hunted (k : Key) (s : Sprite) : Prop where
  found : w.sprite? k = some s
  alive : s.alive = true
  type : ∃ type, t.target = some type ∧ k.type ∈ w.rules.registry.descendants type
  other : k ≠ key

/-- How far away a sprite is, as the physics of the hunter measure it. -/
def gap (rect : Rect) (t : Template) (s : Sprite) : Float := t.physics.distance rect s.rect

/-- Those that are not too far away to be noticed. -/
structure Noticed (k : Key) (s : Sprite) : Prop extends Hunted w key t k s where
  near : ∀ reach, t.maxDistance = some reach → ¬reach < gap rect t s

/-- Those that nobody who is noticed is closer than. -/
structure Closest (k : Key) (s : Sprite) : Prop extends Noticed w key rect t k s where
  least : ∀ l u, Noticed w key rect t l u → ¬gap rect t u < gap rect t s

/-- A step of one block leads closer to a target, or farther away from it for one who flees. -/
def Gains (flees : Bool) (target : Rect) (h : Heading) : Prop :=
  let here := t.physics.distance rect target
  let there := t.physics.distance (rect.translate (h.toVec.scale w.blockSize)) target
  if flees then here < there else there < here

/-- The sprites that are noticed, in the order of types and of age. -/
def noticed : List (Key × Sprite) :=
  match t.target with
  | none => []
  | some type => (w.liveIn type).filter fun e =>
      e.1 ≠ key && !t.maxDistance.any (· < gap rect t e.2)

end

variable {w : World} {key : Key} {rect : Rect} {t : Template}

theorem mem_noticed {k : Key} {s : Sprite} : (k, s) ∈ noticed w key rect t ↔ Noticed w key rect t k s := by
  unfold noticed
  cases htarget : t.target with
  | none =>
    refine ⟨nofun, fun h => ?_⟩
    obtain ⟨type, htype, -⟩ := h.type
    rw [htarget] at htype
    cases htype
  | some type =>
    simp only [List.mem_filter, World.mem_liveIn, Bool.and_eq_true, decide_eq_true_eq, Bool.not_eq_true']
    constructor
    · rintro ⟨⟨htype, hfound, halive⟩, hother, hnear⟩
      refine ⟨⟨hfound, halive, ⟨type, htarget, htype⟩, hother⟩, fun reach hreach => ?_⟩
      rw [hreach] at hnear
      exact of_decide_eq_false hnear
    · rintro ⟨⟨hfound, halive, ⟨type', htype', htype⟩, hother⟩, hnear⟩
      obtain rfl := Option.some.inj (htarget.symm.trans htype')
      refine ⟨⟨htype, hfound, halive⟩, hother, ?_⟩
      cases hreach : t.maxDistance with
      | none => rfl
      | some reach => exact decide_eq_false (hnear reach hreach)

theorem inReach_eq : inReach w key rect t =
    (noticed w key rect t).map fun e => (gap rect t e.2, e.2.rect) := by
  unfold inReach noticed
  cases t.target with
  | none => rfl
  | some type =>
    dsimp only
    rw [List.filter_map, List.filter_filter]
    refine congrArg _ (List.filter_congr fun e _ => ?_)
    exact Bool.and_comm ..

/-- The sprites that are as far away as the closest ones. -/
def closest (w : World) (key : Key) (rect : Rect) (t : Template) : List (Key × Sprite) :=
  (noticed w key rect t).filter fun e => gap rect t e.2 == least ((noticed w key rect t).map (gap rect t ·.2))

theorem closestTargets_eq : closestTargets w key rect t = (closest w key rect t).map (·.2.rect) := by
  unfold closestTargets closest
  simp only [inReach_eq, List.filter_map, List.map_map]
  rfl

theorem pairwise_closest (hr : w.rules.registry.WellFormed) :
    (closest w key rect t).Pairwise fun a b => a.1.Before b.1 := by
  unfold closest noticed
  cases t.target with
  | none => exact List.Pairwise.nil
  | some type => exact ((World.pairwise_liveIn hr type).filter _).filter _

theorem mem_closest (hnumbers : ∀ k s, Hunted w key t k s → (gap rect t s).isNaN = false)
    {k : Key} {s : Sprite} : (k, s) ∈ closest w key rect t ↔ Closest w key rect t k s := by
  have hds : ∀ d ∈ (noticed w key rect t).map (gap rect t ·.2), d.isNaN = false := by
    intro d hd
    obtain ⟨⟨l, u⟩, hmem, rfl⟩ := List.mem_map.1 hd
    exact hnumbers l u (mem_noticed.1 hmem).toHunted
  have hgap : ∀ {l u}, (l, u) ∈ noticed w key rect t → gap rect t u ∈ (noticed w key rect t).map (gap rect t ·.2) :=
    fun hu => List.mem_map.2 ⟨_, hu, rfl⟩
  unfold closest
  rw [List.mem_filter]
  constructor
  · rintro ⟨hmem, hleast⟩
    have hnone := (Double.beq_least_iff hds (hgap hmem)).1 hleast
    exact ⟨mem_noticed.1 hmem, fun l u hu => hnone _ (hgap (mem_noticed.2 hu))⟩
  · intro h
    have hmem := mem_noticed.2 h.toNoticed
    refine ⟨hmem, (Double.beq_least_iff hds (hgap hmem)).2 fun d hd => ?_⟩
    obtain ⟨⟨l, u⟩, hu, rfl⟩ := List.mem_map.1 hd
    exact h.least l u (mem_noticed.1 hu)

/-! ## Chasing and fleeing -/

theorem mem_headings {flees : Bool} {target : Rect} {h : Heading} :
    h ∈ headings t.physics w.blockSize rect flees target ↔ Gains w rect t flees target h := by
  have hall : h ∈ Heading.all := by cases h <;> decide
  unfold headings Gains serves
  rw [List.mem_filter, and_iff_right hall]
  cases flees <;> simp

/-- The targets of a hunter are those closest to it, in the order of types and of age. It finds
a heading iff a step in one of the four gains on one of them, and it gains on one of them by a
step in the heading that it finds. -/
theorem hunt_exact (hr : w.rules.registry.WellFormed)
    (hnumbers : ∀ k s, Hunted w key t k s → (gap rect t s).isNaN = false) (flees : Bool)
    (rng : Random) :
    (∃ found : List (Key × Sprite), closestTargets w key rect t = found.map (·.2.rect) ∧
      found.Pairwise (fun a b => a.1.Before b.1) ∧ ∀ k s, (k, s) ∈ found ↔ Closest w key rect t k s) ∧
    (chase w key rect t flees rng = none ↔
      ∀ target ∈ closestTargets w key rect t, ∀ h, ¬Gains w rect t flees target h) ∧
    ∀ h rest, chase w key rect t flees rng = some (h, rest) →
      ∃ target ∈ closestTargets w key rect t, Gains w rect t flees target h := by
  have hmem : ∀ h, h ∈ (closestTargets w key rect t).flatMap (headings t.physics w.blockSize rect flees) ↔
      ∃ target ∈ closestTargets w key rect t, Gains w rect t flees target h := by
    simp only [List.mem_flatMap, mem_headings, implies_true]
  refine ⟨⟨_, closestTargets_eq, pairwise_closest hr, fun _ _ => mem_closest hnumbers⟩, ?_⟩
  unfold chase
  generalize (closestTargets w key rect t).flatMap (headings t.physics w.blockSize rect flees) = candidates at hmem
  cases candidates with
  | nil =>
    refine ⟨⟨fun _ target htarget h hgains => ?_, fun _ => rfl⟩, nofun⟩
    exact absurd ((hmem h).2 ⟨target, htarget, hgains⟩) List.not_mem_nil
  | cons h hs =>
    refine ⟨⟨nofun, fun hnone => ?_⟩, fun g rest hg => ?_⟩
    · obtain ⟨target, htarget, hgains⟩ := (hmem h).1 List.mem_cons_self
      exact absurd hgains (hnone target htarget h)
    · have hpick : (rng.pick h hs).1 = g := congrArg Prod.fst (Option.some.inj hg)
      exact (hmem g).1 (hpick ▸ Random.pick_mem h hs rng)

/-- Wolves are animals that hunt animals. -/
def meadow : Description :=
  { Description.empty with
    sprites := [
      ⟨"animal", some "Passive", .empty, [
        ⟨"sheep", none, .empty, [], 2⟩,
        ⟨"goat", none, .empty, [], 3⟩,
        ⟨"wolf", some "Chaser", .ofList [("stype", "animal"), ("maxDistance", "25")], [], 4⟩], 1⟩,
      ⟨"avatar", some "MovingAvatar", .empty, [], 5⟩]
    levelMapping := .ofList [('s', ["sheep"]), ('g', ["goat"]), ('w', ["wolf"])] }

/-- What can be seen of the wolf: whom it is after, and that it finds a heading. -/
def meadowCheck (w : World) : Bool :=
  match w.sprite? ⟨4, 0⟩, w.rules.template? 4 with
  | some wolf, some t =>
    closestTargets w ⟨4, 0⟩ wolf.rect t = [⟨0, 0, 10, 10⟩, ⟨40, 0, 10, 10⟩] &&
      (chase w ⟨4, 0⟩ wolf.rect t false w.rng).isSome && w.live.all fun e => !(gap wolf.rect t e.2).isNaN
  | _, _ => false

/-- The wolf is after the two animals that are equally close, not after itself or the sheep
behind the goat, and steps towards one of them. -/
theorem hunt_exact_meadow :
    ∃ w, World.build (Ruleset.compile meadow .default).value "s w gs" 7 = .ok w ∧ ∃ wolf t,
      w.sprite? ⟨4, 0⟩ = some wolf ∧ w.rules.template? 4 = some t ∧ w.rules.registry.WellFormed ∧
      (∀ k s, Hunted w ⟨4, 0⟩ t k s → (gap wolf.rect t s).isNaN = false) ∧
      (∃ found : List (Key × Sprite), found.map (·.2.rect) = [⟨0, 0, 10, 10⟩, ⟨40, 0, 10, 10⟩] ∧
        found.Pairwise (fun a b => a.1.Before b.1) ∧ ∀ k s, (k, s) ∈ found ↔ Closest w ⟨4, 0⟩ wolf.rect t k s) ∧
      ∃ h rest, chase w ⟨4, 0⟩ wolf.rect t false w.rng = some (h, rest) ∧
        ∃ target ∈ closestTargets w ⟨4, 0⟩ wolf.rect t, Gains w wolf.rect t false target h := by
  obtain ⟨w, hbuild, hcheck⟩ := @World.exists_start (Ruleset.compile meadow .default).value "s w gs" 7 meadowCheck
    (by decide +kernel)
  have hrules : w.rules = (Ruleset.compile meadow .default).value := (World.Reachable.start hbuild).rules
  have hr : w.rules.registry.WellFormed := hrules ▸ Ruleset.wellFormed_compile meadow .default
  unfold meadowCheck at hcheck
  split at hcheck
  · next wolf t hwolf ht =>
    simp only [Bool.and_eq_true, decide_eq_true_eq, List.all_eq_true, Bool.not_eq_true'] at hcheck
    obtain ⟨⟨htargets, hfinds⟩, hlive⟩ := hcheck
    have hnumbers : ∀ k s, Hunted w ⟨4, 0⟩ t k s → (gap wolf.rect t s).isNaN = false := fun k s h =>
      hlive (k, s) (World.mem_live.2 ⟨h.found, h.alive⟩)
    obtain ⟨⟨found, hfound, hclosest⟩, -, hgains⟩ := hunt_exact hr hnumbers false w.rng
    obtain ⟨⟨h, rest⟩, hchase⟩ := Option.isSome_iff_exists.1 hfinds
    exact ⟨w, hbuild, wolf, t, hwolf, ht, hr, hnumbers, ⟨found, hfound ▸ htargets, hclosest⟩, h, rest, hchase,
      hgains h rest hchase⟩
  · cases hcheck

end Pursuit

end SpriteGame
