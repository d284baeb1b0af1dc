import SpriteGame.Proofs.Outcome
import SpriteGame.Proofs.Turns
/-!
# Cooldowns

A sprite steps only if it has waited for its cooldown, and then its wait begins anew. In its turn
it can coast and be driven, but who has just stepped does not step again (`Sprite.moves_changes`).
Effects move it without asking, and may end a wait but never lengthen one (`Sprite.Remembers`).
So its steps are a cooldown apart, and so is the first of them from its making (`cooldown_run`).
-/
namespace SpriteGame

namespace Sprite

/-- Whether a change makes a sprite step. Under continuous physics a drive only accelerates. -/
def stepsBy (s : Sprite) : Change → Bool
  | .coast p cooldown block => (s.coast p cooldown block).1
  | .drive p dir speed cooldown block => p.isGrid && (s.drive p dir speed cooldown block).1
  | _ => false

/-- How often a sprite steps when it is changed. -/
def stepCount (s : Sprite) : List Change → Nat
  | [] => 0
  | c :: cs => (s.stepsBy c).toNat + (s.change c).stepCount cs

/-- Whether a change moves a sprite only after a cooldown, if at all. -/
def Change.waits (cooldown : Nat) : Change → Bool
  | .coast _ n _ | .drive _ _ _ n _ => n = cooldown
  | .stepBack | .shift _ | .place .. => false
  | _ => true

theorem moves_change {cooldown : Nat} {c : Change} (h : c.waits cooldown = true) (s : Sprite) :
    s.Moves cooldown (s.stepsBy c).toNat (s.change c) := by
  cases c with
  | coast p n block =>
    obtain rfl : n = cooldown := of_decide_eq_true h
    exact moves_coast ..
  | drive p dir speed n block =>
    obtain rfl : n = cooldown := of_decide_eq_true h
    exact moves_drive ..
  | stepBack | shift | place => cases h
  | _ => exact .stay rfl rfl

/-- Changes that wait for a cooldown make a sprite step once at most. -/
theorem moves_changes {cooldown : Nat} (hpos : 0 < cooldown) {cs : List Change}
    (h : ∀ c ∈ cs, c.waits cooldown = true) (s : Sprite) : s.Moves cooldown (s.stepCount cs) (s.changes cs) := by
  induction cs generalizing s with
  | nil => exact .stay rfl rfl
  | cons c cs ih =>
    obtain ⟨hc, hcs⟩ := List.forall_mem_cons.1 h
    have hfirst := moves_change hc s
    have hrest := ih hcs (s.change c)
    unfold stepCount
    rw [changes_cons]
    generalize (s.stepsBy c).toNat = n at hfirst ⊢
    generalize (s.change c).stepCount cs = m at hrest ⊢
    cases hfirst with
    | stay hrect hsince =>
      rw [Nat.zero_add]
      cases hrest with
      | stay hrect' hsince' => exact .stay (hrect'.trans hrect) (hsince'.trans hsince)
      | step hready hsince' => exact .step (hsince ▸ hready) hsince'
    | step hready hsince =>
      cases hrest with
      | stay _ hsince' => exact .step hready (hsince'.trans hsince)
      | step hready' _ =>
        -- After a step there is nothing to step with.
        rw [hsince] at hready'
        exact absurd hpos (Nat.not_lt.2 hready')

end Sprite

theorem Command.waits_changes (c : Command) (s : Sprite) (t : Template) (block : Float32) :
    ∀ change ∈ c.changes s t block, change.waits t.cooldown = true := by
  intro change hchange
  unfold changes at hchange
  cases change with
  | coast p n block =>
    obtain ⟨-, -, rfl, -⟩ := by simpa using hchange
    exact decide_eq_true rfl
  | drive p dir speed n block =>
    obtain ⟨-, -, -, -, rfl, -⟩ := by simpa using hchange
    exact decide_eq_true rfl
  | stepBack | shift | place => simp at hchange
  | _ => rfl

namespace Turn

/-- How often a sprite steps in its turn. -/
def steps (a : Turn) : Nat :=
  if a.order.command.remove then 0
  else a.order.sprite.startTick.stepCount
    (a.order.command.changes a.order.sprite a.order.template a.world.blockSize)

/-- A sprite does not step in its turn, and its place is the same after all have moved. -/
def Rests (a : Turn) : Prop :=
  a.steps = 0 ∧ ((a.world.moved a.action).sprite? a.order.key).map (·.rect) = some a.order.sprite.rect

theorem moves_carried (a : Turn) (hpos : 0 < a.order.template.cooldown) :
    a.order.sprite.startTick.Moves a.order.template.cooldown a.steps a.carried := by
  unfold steps carried Order.carry
  split
  · exact .stay rfl rfl
  · exact Sprite.moves_changes hpos (Command.waits_changes _ _ _ _) _

theorem Leads.sinceMove_le {a : Turn} {s : Sprite} (h : a.Leads s) (hpos : 0 < a.order.template.cooldown) :
    s.sinceMove ≤ a.order.sprite.sinceMove + 1 := by
  calc s.sinceMove ≤ a.carried.sinceMove := h.remembers.2
    _ ≤ a.order.sprite.startTick.sinceMove := (a.moves_carried hpos).sinceMove_le
    _ ≤ a.order.sprite.sinceMove + 1 := Nat.min_le_right ..

/-- Who has not waited for the cooldown rests. -/
theorem Taken.rests {rules : Ruleset} {a : Turn} (h : a.Taken rules)
    (hearly : a.order.sprite.sinceMove + 1 < a.order.template.cooldown) : a.Rests := by
  have hsince : a.order.sprite.startTick.sinceMove ≤ a.order.sprite.sinceMove + 1 := Nat.min_le_right ..
  obtain ⟨hsteps, hrect⟩ := (a.moves_carried (Nat.zero_lt_of_lt hearly)).rests (Nat.lt_of_le_of_lt hsince hearly)
  refine ⟨hsteps, ?_⟩
  rw [World.sprite?_moved h.mem]
  exact congrArg some hrect

end Turn

namespace History

variable {rules : Ruleset} {ts : List Turn} {w : World} {type : TypeId} {s : Sprite}
  (h : History rules ts w type s)

include h

theorem tick_lt : ∀ a ∈ ts, a.world.tick < w.tick := by
  induction h with
  | new => simp
  | @turn ts a s _ _ _ ih =>
    rw [World.tick_step]
    intro b hb
    rcases List.mem_append.1 hb with hb | hb
    · exact Nat.lt_succ_of_lt (ih b hb)
    · obtain rfl := List.mem_singleton.1 hb
      exact Nat.lt_succ_self _

variable {t : Template} (ht : rules.template? type = some t) (hpos : 0 < t.cooldown)

include ht hpos

/-- A sprite has not waited longer than since a turn in which it stepped. -/
theorem sinceMove_le_of_steps : ∀ a ∈ ts, 0 < a.steps → s.sinceMove + a.world.tick + 1 ≤ w.tick := by
  induction h with
  | new => simp
  | @turn ts a s _ htaken hleads ih =>
    obtain rfl := Option.some.inj (htaken.template.symm.trans ht)
    rw [World.tick_step]
    intro b hb hsteps
    rcases List.mem_append.1 hb with hb | hb
    · have hbefore := ih ht b hb hsteps
      have hwaits := hleads.sinceMove_le hpos
      omega
    · obtain rfl := List.mem_singleton.1 hb
      have hwaits := hleads.remembers.2
      have hstepped := (b.moves_carried hpos).sinceMove_eq_zero hsteps
      omega

/-- A sprite has not waited longer than it has been there. -/
theorem sinceMove_le_of_turns {n : Nat} (hts : ∀ a ∈ ts, n ≤ a.world.tick) (hw : n ≤ w.tick) :
    s.sinceMove + n ≤ w.tick := by
  induction h with
  | new hfresh =>
    rw [hfresh.1]
    omega
  | @turn ts a s _ htaken hleads ih =>
    obtain rfl := Option.some.inj (htaken.template.symm.trans ht)
    obtain ⟨hts, ha⟩ := List.forall_mem_append.1 hts
    have hbefore := ih ht hts (ha a List.mem_cons_self)
    have hwaits := hleads.sinceMove_le hpos
    rw [World.tick_step]
    omega

end History

namespace World

/-- A sprite is there after actions, and was not there before the last of them. -/
def Appears (start : World) (actions : List Action) (id : Nat) : Prop :=
  id ∈ (start.run actions).ids ∧ ∀ earlier last, actions = earlier ++ [last] → id ∉ (start.run earlier).ids

section Run

variable {rules : Ruleset} (haligned : rules.Aligned) {start : World} (hstart : Reachable rules start)

include haligned hstart

/-- Who has just appeared has had no turn. -/
theorem Appears.turns_eq_nil {actions : List Action} {id : Nat} (h : start.Appears actions id) :
    start.turns id actions = [] := by
  obtain ⟨hthere, hbefore⟩ := h
  rcases List.eq_nil_or_concat' actions with rfl | ⟨earlier, last, rfl⟩
  · rfl
  · have hgone : id ∉ (start.run earlier).ids := hbefore earlier last rfl
    have hfollows : (start.run earlier).Follows (start.run (earlier ++ [last])) := run_append .. ▸ follows_run _ _
    have hnew : (start.run earlier).nextId ≤ id :=
      Nat.le_of_not_lt fun hold => hgone (hfollows.mem_ids hthere hold)
    rw [turns_append, hstart.turns_eq_nil haligned hnew, turns_singleton, turnsIn_eq_nil hgone]
    split <;> rfl

theorem tick_le_of_mem_turns {actions : List Action} {id : Nat} {a : Turn} (h : a ∈ start.turns id actions) :
    start.tick ≤ a.world.tick := by
  obtain ⟨ts, us, hsplit⟩ := List.append_of_mem h
  obtain ⟨-, -, before, -, -, hworld, -⟩ := hstart.split_turns haligned hsplit
  rw [hworld, tick_run]
  exact Nat.le_add_right ..

end Run

/-- A guard who takes a step to the right every third tick. -/
def patrol : Description :=
  { Description.empty with
    sprites := [
      ⟨"guard", some "Missile", .ofList [("orientation", "RIGHT"), ("cooldown", "3")], [], 1⟩,
      ⟨"avatar", some "MovingAvatar", .empty, [], 2⟩]
    levelMapping := .ofList [('x', ["guard"])] }

/-- The cooldown spaces out steps. In a turn a sprite takes one step at most, and with fewer ticks
than its cooldown since a step of its own, or since it appeared, it takes none and keeps its
place until the rules fire. -/
theorem cooldown_run {d : Description} {settings : Settings} {level : String} {seed : UInt64} {start : World}
    (hbuild : build (Ruleset.compile d settings).value level seed = .ok start) {type : TypeId} {t : Template}
    (ht : (Ruleset.compile d settings).value.template? type = some t) (hpos : 1 ≤ t.cooldown)
    (before after : List Action) {s : Sprite} (hs : s ∈ (start.run before).group type) :
    let turns := start.turns s.id (before ++ after)
    (∀ a ∈ turns, a.steps ≤ 1) ∧
    (∀ a ∈ turns, ∀ b ∈ turns, 0 < a.steps → a.world.tick < b.world.tick →
      b.world.tick < a.world.tick + t.cooldown → b.Rests) ∧
    (start.Appears before s.id →
      ∀ b ∈ turns, b.world.tick + 1 < (start.run before).tick + t.cooldown → b.Rests) := by
  intro turns
  have haligned := Ruleset.aligned_compile d settings
  have hstart : Reachable _ start := .start hbuild
  have hturn : ∀ {a ts us}, turns = ts ++ a :: us → _ := turn_of_sprite haligned hbuild hs ht
  refine ⟨fun a ha => ?_, fun a ha b hb hsteps hlt hclose => ?_, fun happears b hb hclose => ?_⟩
  · obtain ⟨ts, us, hsplit⟩ := List.append_of_mem ha
    obtain ⟨-, rfl, -⟩ := hturn hsplit
    exact (a.moves_carried hpos).le_one
  · obtain ⟨ts, us, hsplit⟩ := List.append_of_mem hb
    obtain ⟨htaken, rfl, hhistory⟩ := hturn hsplit
    have hmem : a ∈ ts ++ b :: us := hsplit ▸ ha
    rcases List.mem_append.1 hmem with hmem | hmem
    · have hwaits := hhistory.sinceMove_le_of_steps ht hpos a hmem hsteps
      exact htaken.rests (by omega)
    · -- The other turns are not earlier ones.
      rcases List.mem_cons.1 hmem with rfl | hmem
      · omega
      · obtain ⟨between, rest, rfl⟩ := List.append_of_mem hmem
        have hsplit' : turns = (ts ++ b :: between) ++ a :: rest := by simpa using hsplit
        obtain ⟨-, -, hlater⟩ := hturn hsplit'
        have hgt := hlater.tick_lt b (by simp)
        omega
  · obtain ⟨ts, us, hsplit⟩ := List.append_of_mem hb
    obtain ⟨htaken, rfl, hhistory⟩ := hturn hsplit
    have hsince : ∀ a ∈ turns, (start.run before).tick ≤ a.world.tick := by
      intro a ha
      have ha : a ∈ start.turns s.id (before ++ after) := ha
      rw [turns_append, happears.turns_eq_nil haligned hstart, List.nil_append] at ha
      exact tick_le_of_mem_turns haligned (hstart.run before) ha
    have hwaits := hhistory.sinceMove_le_of_turns ht hpos (fun a ha => hsince a (by simp [hsplit, ha])) (hsince b hb)
    exact htaken.rests (by omega)

/-- The guard waits for two ticks, steps in the third, and rests in the fourth. -/
theorem cooldown_run_patrol :
    ∃ start, build (Ruleset.compile patrol .default).value "x A" 7 = .ok start ∧ ∃ s ∈ start.group 1,
      let turns := start.turns s.id [.idle, .idle, .idle, .idle]
      (∀ a ∈ turns, a.world.tick < 2 → a.Rests) ∧
      ∃ a ∈ turns, ∃ b ∈ turns, a.world.tick = 2 ∧ a.steps = 1 ∧ b.world.tick = 3 ∧ b.Rests := by
  have htemplate : ((Ruleset.compile patrol .default).value.template? 1).any (·.cooldown = 3) = true := by
    decide +kernel
  simp only [Option.any_eq_true, decide_eq_true_eq] at htemplate
  obtain ⟨t, ht, hcooldown⟩ := htemplate
  obtain ⟨start, hbuild, hcheck⟩ := @exists_start (Ruleset.compile patrol .default).value "x A" 7
    (fun w => decide (∃ s ∈ w.group 1, ∃ a ∈ w.turns s.id [.idle, .idle, .idle, .idle],
      ∃ b ∈ w.turns s.id [.idle, .idle, .idle, .idle], a.world.tick = 2 ∧ a.steps = 1 ∧ b.world.tick = 3))
    (by decide +kernel)
  obtain ⟨s, hs, a, ha, b, hb, hat, hsteps, hbt⟩ := of_decide_eq_true hcheck
  obtain ⟨-, hspaced, hfirst⟩ := cooldown_run hbuild ht (by omega) [] [.idle, .idle, .idle, .idle] hs
  have happears : start.Appears [] s.id := ⟨mem_ids.2 ⟨1, s, hs, rfl⟩, by simp⟩
  refine ⟨start, hbuild, s, hs, fun c hc hearly => ?_, a, ha, b, hb, hat, hsteps, hbt, ?_⟩
  · have hzero : (start.run []).tick = 0 := (start_of_build hbuild).1
    exact hfirst happears c hc (by omega)
  · exact hspaced a ha b hb (by omega) (by omega) (by omega)

end World

end SpriteGame
