import SpriteGame.Proofs.Effects
import SpriteGame.Proofs.Episode
import SpriteGame.Proofs.Orders
/-!
# Where sprites go in a tick

`Each` relates the sprites of a world to the same sprites later in the tick. The first
half of a tick is the only time when sprites go where they decide to, each step after a
cooldown (`Sprite.Moves`), and it keeps the place of each from the start of the tick; a
sprite of a fixed type stays there (`each_moved`).
-/
namespace SpriteGame

/-! ## Sprites of later moments -/

/-- A relation from sprites to the same sprites later, also to removed ones. -/
structure Ageing (R : Key → Sprite → Sprite → Prop) : Prop where
  refl : ∀ key s, R key s s
  trans : ∀ {key s t u}, R key s t → R key t u → R key s u
  remove : ∀ key s, R key s s.remove

theorem Ageing.changes {R : Key → Sprite → Sprite → Prop} (hR : Ageing R) {key : Key} {cs : List Sprite.Change}
    (h : ∀ c ∈ cs, ∀ s, R key s (s.change c)) (s : Sprite) : R key s (s.changes cs) := by
  induction cs generalizing s with
  | nil => exact hR.refl key s
  | cons c cs ih =>
    obtain ⟨hc, hcs⟩ := List.forall_mem_cons.1 h
    exact hR.trans (hc s) (ih hcs _)

namespace World

/-- Every sprite has aged as a relation says. -/
def Each (R : Key → Sprite → Sprite → Prop) (v w : World) : Prop :=
  ∀ key s, v.sprite? key = some s → ∃ t, w.sprite? key = some t ∧ R key s t

section Each

variable {R : Key → Sprite → Sprite → Prop} (hR : Ageing R)

include hR

theorem each_refl (w : World) : w.Each R w := fun key s hs => ⟨s, hs, hR.refl key s⟩

theorem Each.trans {u v w : World} (h : u.Each R v) (h' : v.Each R w) : u.Each R w := by
  intro key s hs
  obtain ⟨t, ht, hst⟩ := h key s hs
  obtain ⟨r, hr, htr⟩ := h' key t ht
  exact ⟨r, hr, hR.trans hst htr⟩

theorem each_modify {w : World} {key : Key} {f : Sprite → Sprite} (hf : ∀ s, w.sprite? key = some s → R key s (f s)) :
    w.Each R (w.modify key f) := by
  intro other s hs
  rw [sprite?_modify]
  split
  · next he =>
    subst he
    exact ⟨f s, by rw [hs, Option.map_some], hf s hs⟩
  · exact ⟨s, hs, hR.refl other s⟩

theorem each_edits {es : List Edit} (h : ∀ key cs, .change key cs ∈ es → ∀ s, R key s (s.changes cs)) (w : World) :
    w.Each R (w.edits es) := by
  induction es generalizing w with
  | nil => exact each_refl hR w
  | cons e es ih =>
    have hrest := ih fun key cs hmem => h key cs (List.mem_cons_of_mem e hmem)
    refine Each.trans hR ?_ (hrest (w.edit e))
    cases e with
    | kill key => exact each_modify hR fun s _ => hR.remove key s
    | change key cs => exact each_modify hR fun s _ => h key cs List.mem_cons_self s
    | spawn r => exact fun other s hs => ⟨s, hs, hR.refl other s⟩

theorem firing_each : Firing (Each R) :=
  ⟨each_refl hR, Each.trans hR, fun _ _ _ key s hs => ⟨s, hs, hR.refl key s⟩⟩

/-- An effect makes of sprites what its changes do. -/
theorem each_apply {e : Effect} (h : ∀ c, e.makes c = true → ∀ key s, R key s (s.change c)) {w : World} {c : Collision}
    (hc : c.holds w = true) : w.Each R (e.apply w (some c.first) c.second).2 := by
  obtain hsame | ⟨es, rng, hes, hedits⟩ := e.apply_cases w (some c.first) c.second
  · rw [hsame]
    exact each_refl hR w
  · have htidy : w.Tidy e.makes es := Effect.tidy_edits? hc hes
    rw [hedits]
    refine each_edits hR (fun key cs hmem => hR.changes fun c hc => ?_) { w with rng }
    exact h c (htidy.kinds_of_mem hmem c hc) key

/-- The second half of a tick makes of sprites what the changes of its rules do. -/
theorem each_fireAll {w : World}
    (h : ∀ rule ∈ w.rules.interactions, ∀ c, rule.effect.makes c = true → ∀ key s, R key s (s.change c))
    (cs : List Collision) : w.Each R (w.fireAll cs) :=
  (firing_each hR).fireAll (fun rule hrule _ _ hc => each_apply hR (h rule hrule) hc) cs

end Each

/-- What a sprite of a later moment of a tick was before. -/
theorem Each.back {R : Key → Sprite → Sprite → Prop} {v w : World} (h : v.Each R w) (h' : v.Ensues w) {key : Key}
    {t : Sprite} (ht : w.sprite? key = some t) : ∃ s, v.sprite? key = some s ∧ s.id = t.id ∧ R key s t := by
  have htag := h'.tag_sprite? key
  rw [ht, Option.map_some] at htag
  obtain ⟨s, hs, hst⟩ := Option.map_eq_some_iff.1 htag.symm
  obtain ⟨t', ht', hR⟩ := h key s hs
  obtain rfl := Option.some.inj (ht.symm.trans ht')
  exact ⟨s, hs, (Prod.mk.inj hst).1, hR⟩

end World

/-! ## The first half: movement -/

/-- Whether a type has sprites that nothing but an effect moves. -/
def Ruleset.Fixed (r : Ruleset) (type : TypeId) : Prop :=
  ∃ t, r.template? type = some t ∧ t.cls = .immovable ∧ t.physics = .grid

instance (r : Ruleset) (type : TypeId) : Decidable (r.Fixed type) :=
  decidable_of_iff ((r.template? type).any (fun t => t.cls = .immovable && t.physics = .grid) = true) <| by
    unfold Ruleset.Fixed
    simp [Option.any_eq_true]

namespace Sprite

/-- What movement with a cooldown comes to, with the number of steps: a sprite stays in its place
and goes on waiting, or it has waited for its cooldown and takes one step. -/
inductive Moves (cooldown : Nat) (s : Sprite) : Nat → Sprite → Prop
  | stay {t : Sprite} : t.rect = s.rect → t.sinceMove = s.sinceMove → Moves cooldown s 0 t
  | step {t : Sprite} : cooldown ≤ s.sinceMove → t.sinceMove = 0 → Moves cooldown s 1 t

section Moves

variable (s : Sprite) (p : Physics) (dir : Vec) (cooldown : Nat) (block : Float32)

theorem moves_step (pixels : Float32) :
    s.Moves cooldown (s.step dir pixels cooldown).1.toNat (s.step dir pixels cooldown).2 := by
  unfold step
  split
  · exact .stay rfl rfl
  · next hready =>
    simp only [Bool.or_eq_true, decide_eq_true_eq, not_or] at hready
    exact .step (Nat.not_lt.1 hready.1.1) rfl

variable {s cooldown} in
theorem Moves.setVelocity {n : Nat} {t : Sprite} (h : s.Moves cooldown n t) (v : Vec) :
    s.Moves cooldown n (t.setVelocity v) := by
  cases h with
  | stay hrect hsince => exact .stay hrect hsince
  | step hready hsince => exact .step hready hsince

theorem moves_coast : s.Moves cooldown (s.coast p cooldown block).1.toNat (s.coast p cooldown block).2 := by
  unfold coast
  split
  · split
    · exact moves_step ..
    · exact .stay rfl rfl
  · split
    · exact .stay rfl rfl
    · exact (moves_step ..).setVelocity _

theorem moves_drive (speed : Option Float32) :
    s.Moves cooldown (p.isGrid && (s.drive p dir speed cooldown block).1).toNat (s.drive p dir speed cooldown block).2 := by
  unfold drive
  dsimp only
  split
  · rw [Bool.and_false]
    exact .stay rfl rfl
  · split
    · exact moves_step ..
    · exact .stay rfl rfl

end Moves

section Moves

variable {cooldown n : Nat} {s t : Sprite} (h : s.Moves cooldown n t)

include h

theorem Moves.le_one : n ≤ 1 := by
  cases h with
  | stay => exact Nat.zero_le _
  | step => exact Nat.le_refl _

theorem Moves.sinceMove_le : t.sinceMove ≤ s.sinceMove := by
  cases h with
  | stay _ hsince => exact Nat.le_of_eq hsince
  | step _ hsince => exact hsince ▸ Nat.zero_le _

theorem Moves.sinceMove_eq_zero (hpos : 0 < n) : t.sinceMove = 0 := by
  cases h with
  | stay => cases hpos
  | step _ hsince => exact hsince

/-- Who has not waited for the cooldown stays in its place. -/
theorem Moves.rests (hearly : s.sinceMove < cooldown) : n = 0 ∧ t.rect = s.rect := by
  cases h with
  | stay hrect _ => exact ⟨rfl, hrect⟩
  | step hready _ => exact absurd hearly (Nat.not_lt.2 hready)

end Moves

theorem lastRect_changes {cs : List Change} (h : .settle ∉ cs) (s : Sprite) :
    (s.changes cs).lastRect = s.lastRect := by
  refine frame_changes (f := Sprite.lastRect) (fun c hc s => ?_) s
  cases c with
  | coast => exact frame_coast (fun _ _ _ _ _ => rfl) ..
  | drive => exact frame_drive (fun _ _ _ _ _ => rfl) ..
  | settle => exact absurd hc h
  | _ => rfl

theorem oriented_change (s : Sprite) (c : Change) : (s.change c).oriented = s.oriented := by
  cases c with
  | coast => exact frame_coast (fun _ _ _ _ _ => rfl) ..
  | drive => exact frame_drive (fun _ _ _ _ _ => rfl) ..
  | _ => rfl

end Sprite

theorem SpawnRequest.oriented_make (r : SpawnRequest) (id : Nat) (block : Float32) (t : Template) :
    (r.make id block t).oriented = t.cls.isOriented := by
  unfold make
  cases r.facing <;> rfl

/-- Sprites of fixed types are never oriented. -/
theorem Ruleset.lasting_oriented (rules : Ruleset) :
    rules.Lasting fun type s => rules.Fixed type → s.oriented = false where
  make r id t ht := by
    rintro ⟨t', ht', hcls, -⟩
    rw [ht] at ht'
    obtain rfl := Option.some.inj ht'
    rw [r.oriented_make, hcls]
    rfl
  startTick _ _ h := h
  remove _ _ h := h
  change _ s c h hfixed := (s.oriented_change c).trans (h hfixed)

namespace Command

theorem settle_not_mem_changes (c : Command) (s : Sprite) (t : Template) (block : Float32) :
    .settle ∉ c.changes s t block := by
  unfold changes
  simp

/-- A sprite of a fixed type does nothing. -/
theorem changes_plan_of_immovable (w : World) (key : Key) {s : Sprite} {t : Template} (action : Action)
    (rng : Random) (block : Float32) (hcls : t.cls = .immovable) (hphysics : t.physics = .grid)
    (horiented : s.oriented = false) : (plan w key s t action rng).1.changes s t block = [] := by
  have hplan : (plan w key s t action rng).1 = rest := by
    unfold plan
    rw [hcls]
  have hcoast : s.canCoast t.physics = false := by
    unfold Sprite.canCoast
    rw [hphysics, horiented]
    rfl
  have hzero : Vec.zero.isZero = true := by decide
  rw [hplan]
  unfold changes rest
  simp [hcoast, hzero]

end Command

namespace World

/-- What carrying out the orders of a tick keeps of a sprite. -/
def KeepsStart (rules : Ruleset) (key : Key) (s t : Sprite) : Prop :=
  t.lastRect = s.lastRect ∧ (rules.Fixed key.type → t.rect = s.rect)

theorem ageing_keepsStart (rules : Ruleset) : Ageing (KeepsStart rules) where
  refl _ _ := ⟨rfl, fun _ => rfl⟩
  trans h h' := ⟨h'.1.trans h.1, fun hfixed => (h'.2 hfixed).trans (h.2 hfixed)⟩
  remove _ _ := ⟨rfl, fun _ => rfl⟩

/-- After the first half of a tick a sprite knows where it started; that of a fixed type is
still there. -/
theorem each_moved {w : World} (horiented : w.All fun type s => w.rules.Fixed type → s.oriented = false)
    (action : Action) :
    w.Each (fun key s t => t.lastRect = s.rect ∧ (w.rules.Fixed key.type → t.rect = s.rect)) (w.moved action) := by
  intro key s hs
  have hstart : (w.counted action).startTick.sprite? key = some s.startTick := by
    rw [sprite?_startTick]
    exact congrArg (Option.map Sprite.startTick) hs
  refine each_edits (ageing_keepsStart w.rules) (fun k cs hmem u => ?_) _ key s.startTick hstart
  -- A change is that of an order, so it settles nothing, and a fixed type has none.
  obtain ⟨o, ho, hmem⟩ := List.mem_flatMap.1 hmem
  obtain ⟨hlive, ht, rng, hcommand⟩ := mem_ordersOf ho
  obtain ⟨rfl, rfl, hne⟩ := Command.change_mem_edits hmem
  refine ⟨Sprite.lastRect_changes (Command.settle_not_mem_changes _ _ _ _) u, ?_⟩
  rintro ⟨t, ht', hcls, hphysics⟩
  rw [ht] at ht'
  obtain rfl := Option.some.inj ht'
  have hflat : o.sprite.oriented = false :=
    horiented o.key.type o.sprite (mem_group_iff.2 ⟨o.key.index, sprite?_of_mem_live hlive⟩) ⟨_, ht, hcls, hphysics⟩
  refine absurd ?_ hne
  rw [hcommand]
  exact Command.changes_plan_of_immovable w o.key action rng _ hcls hphysics hflat

end World

end SpriteGame
