import SpriteGame.Proofs.Stream
import SpriteGame.Proofs.Turns
/-!
# Random walkers

A walker draws a direction and keeps it for as many further turns as it has repeats. No rule
writes the direction or the count of the turns that are left, so whatever happens to it in
between, its turns alone say where in its period it is (`History.phase`). Hence `wander_run`:
the period is exact, and it draws at its beginning only.
-/
namespace SpriteGame

namespace Command

/-- To go in a direction and repeat it some times. -/
def walk (dir : Vec) (times : Nat) : Command :=
  { rest with drive := dir, counter := some times, lastCommand := some dir }

theorem isZero_toVec (h : Heading) : h.toVec.isZero = false := by
  cases h <;> decide

theorem wander_of_counter {s : Sprite} {n : Nat} (hcounter : s.counter = n + 1) {h : Heading}
    (hdir : s.lastCommand = h.toVec) (t : Template) (rng : Random) : wander s t rng = (walk h.toVec n, rng) := by
  unfold wander
  rw [hcounter, hdir, isZero_toVec]
  rfl

theorem wander_of_counter_eq_zero {s : Sprite} (hcounter : s.counter = 0) (t : Template) (rng : Random) :
    wander s t rng = (walk (randomHeading rng).1.toVec t.repeats, (randomHeading rng).2) := by
  unfold wander
  rw [hcounter]
  rfl

end Command

namespace Turn

/-- The generator that a sprite decides with. -/
def rng (a : Turn) : Random := a.world.rngAt a.action a.order.key

/-- What a sprite decides, with the generator that it leaves. -/
def decision (a : Turn) : Command × Random :=
  Command.plan a.world a.order.key a.order.sprite a.order.template a.action a.rng

theorem Taken.command_eq {rules : Ruleset} {a : Turn} (h : a.Taken rules) : a.order.command = a.decision.1 :=
  World.command_of_mem_orders h.mem

end Turn

/-- Where a walker is in its period: it is to draw a direction, or it goes on in that of the turn
in which it has drawn one. -/
inductive Phase (repeats : Nat) (ts : List Turn) (s : Sprite) : Nat → Prop
  | due : s.counter = 0 → Phase repeats ts s 0
  | held {m : Nat} {b : Turn} {h : Heading} : s.counter + m = repeats → 0 < s.counter →
      ts[ts.length - (m + 1)]? = some b → b.order.command.drive = h.toVec → s.lastCommand = h.toVec →
      Phase repeats ts s (m + 1)

/-- A walker decides by its phase. -/
theorem Phase.decision {ts : List Turn} {a : Turn} {m : Nat} (h : Phase a.order.template.repeats ts a.order.sprite m)
    (hcls : a.order.template.cls = .randomNpc) :
    ∃ dir : Heading, a.decision.1 = Command.walk dir.toVec (a.order.template.repeats - m) ∧
      ((m = 0 ∧ a.decision.2 = (Command.randomHeading a.rng).2) ∨
        0 < m ∧ a.decision.2 = a.rng ∧
          ∃ b, ts[ts.length - m]? = some b ∧ b.order.command.drive = dir.toVec) := by
  have hdecision : a.decision = Command.wander a.order.sprite a.order.template a.rng := by
    unfold Turn.decision Command.plan
    rw [hcls]
  rw [hdecision]
  cases h with
  | due hcounter =>
    rw [Command.wander_of_counter_eq_zero hcounter]
    exact ⟨_, rfl, .inl ⟨rfl, rfl⟩⟩
  | @held m b dir hcounter hpos hb hdrive hdir =>
    obtain ⟨n, hn⟩ := Nat.exists_eq_add_of_lt hpos
    rw [Command.wander_of_counter (n := n) (by omega) hdir]
    refine ⟨dir, ?_, .inr ⟨Nat.succ_pos m, rfl, b, hb, hdrive⟩⟩
    rw [show a.order.template.repeats - (m + 1) = n by omega]

/-- After its turn a walker is one turn further in its period. -/
theorem Phase.next {ts : List Turn} {a : Turn} {m : Nat} (h : Phase a.order.template.repeats ts a.order.sprite m)
    (hcls : a.order.template.cls = .randomNpc) (hlt : m < a.order.template.repeats + 1) {rules : Ruleset}
    (htaken : a.Taken rules) {s : Sprite} (hleads : a.Leads s) :
    Phase a.order.template.repeats (ts ++ [a]) s ((m + 1) % (a.order.template.repeats + 1)) := by
  obtain ⟨dir, hcommand, hdraw⟩ := h.decision hcls
  rw [← htaken.command_eq] at hcommand
  have hcounter : s.counter = a.order.template.repeats - m := by
    rw [hleads.counter, hcommand]
    rfl
  have hlast : s.lastCommand = dir.toVec := by
    rw [hleads.lastCommand, hcommand]
    rfl
  by_cases hend : m = a.order.template.repeats
  · -- The last turn of a period leaves nothing to repeat.
    rw [hend, Nat.mod_self]
    exact .due (by omega)
  · rw [Nat.mod_eq_of_lt (by omega)]
    have hstart : ∃ b, (ts ++ [a])[ts.length - m]? = some b ∧ b.order.command.drive = dir.toVec := by
      rcases hdraw with ⟨rfl, -⟩ | ⟨-, -, b, hb, hdrive⟩
      · exact ⟨a, List.getElem?_concat_length, by rw [hcommand]; rfl⟩
      · obtain ⟨hbefore, -⟩ := List.getElem?_eq_some_iff.1 hb
        exact ⟨b, (List.getElem?_append_left hbefore).trans hb, hdrive⟩
    obtain ⟨b, hb, hdrive⟩ := hstart
    refine .held (by omega) (by omega) ?_ hdrive hlast
    rwa [List.length_append, List.length_singleton, Nat.add_sub_add_right]

/-- The turns of a walker say where in its period it is. -/
theorem History.phase {rules : Ruleset} {ts : List Turn} {w : World} {type : TypeId} {s : Sprite}
    (h : History rules ts w type s) {t : Template} (ht : rules.template? type = some t) (hcls : t.cls = .randomNpc) :
    Phase t.repeats ts s (ts.length % (t.repeats + 1)) := by
  induction h with
  | new hfresh => exact .due hfresh.counter
  | @turn ts a s _ htaken hleads ih =>
    obtain rfl := Option.some.inj (htaken.template.symm.trans ht)
    rw [List.length_append, List.length_singleton, ← Nat.mod_add_mod]
    exact (ih ht).next hcls (Nat.mod_lt _ (Nat.succ_pos _)) htaken hleads

namespace World

/-- A dog that takes each of its ways twice, unless the screen edge stops it. -/
def yard : Description :=
  { Description.empty with
    sprites := [
      ⟨"dog", some "RandomNPC", .ofList [("cons", "1")], [], 1⟩,
      ⟨"avatar", some "MovingAvatar", .empty, [], 2⟩]
    interactions := [⟨"dog", "EOS", "stepBack", .empty, 3⟩]
    levelMapping := .ofList [('d', ["dog"])] }

/-- A walker keeps each direction for exactly one turn more than it has repeats. Its turns are
counted from zero, whatever happens to it. In each it goes in one of the four directions, the one
of the turn in which its period began; it draws from the generator in that turn and in no other,
and when all have moved it counts the turns that are left. -/
theorem wander_run {d : Description} {settings : Settings} {level : String} {seed : UInt64} {start : World}
    (hbuild : build (Ruleset.compile d settings).value level seed = .ok start) {type : TypeId} {t : Template}
    (ht : (Ruleset.compile d settings).value.template? type = some t) (hcls : t.cls = .randomNpc)
    (before after : List Action) {s : Sprite} (hs : s ∈ (start.run before).group type) :
    let turns := start.turns s.id (before ++ after)
    ∀ n a, turns[n]? = some a →
      let phase := n % (t.repeats + 1)
      (∃ h : Heading, a.order.command.drive = h.toVec) ∧
      (∃ b, turns[n - phase]? = some b ∧ a.order.command.drive = b.order.command.drive) ∧
      a.order.command = a.decision.1 ∧ (a.decision.2 ≠ a.rng ↔ phase = 0) ∧
      ((a.world.moved a.action).sprite? a.order.key).map (·.counter) = some (t.repeats - phase) := by
  intro turns n a ha phase
  have haligned := Ruleset.aligned_compile d settings
  obtain ⟨hn, rfl⟩ := List.getElem?_eq_some_iff.1 ha
  have hsplit : turns = turns.take n ++ turns[n] :: turns.drop (n + 1) := by simp
  have hlength : (turns.take n).length = n := by simp [Nat.le_of_lt hn]
  obtain ⟨htaken, htemplate, hhistory⟩ := turn_of_sprite haligned hbuild hs ht hsplit
  generalize turns[n] = a at *
  subst htemplate
  have hphase := hhistory.phase ht hcls
  rw [hlength] at hphase
  obtain ⟨dir, hdecision, hdraw⟩ := hphase.decision hcls
  rw [hlength] at hdraw
  have hcommand := htaken.command_eq.trans hdecision
  have hstays : a.order.command.remove = false := by rw [hcommand]; rfl
  have hcounter : a.carried.counter = a.order.template.repeats - phase := by
    refine (congrArg (·.2.1) (Turn.memory_carried hstays)).trans ?_
    rw [hcommand]
    rfl
  refine ⟨⟨dir, by rw [hcommand]; rfl⟩, ?_, htaken.command_eq, ?_, ?_⟩
  · rcases hdraw with ⟨hzero, -⟩ | ⟨hpos, -, b, hb, hdrive⟩
    · refine ⟨a, ?_, rfl⟩
      show turns[n - n % _]? = some a
      rwa [hzero]
    · have hle : phase ≤ n := Nat.mod_le ..
      refine ⟨b, ?_, by rw [hcommand, hdrive]; rfl⟩
      rwa [List.getElem?_take_of_lt (by omega)] at hb
  · rcases hdraw with ⟨hzero, hrng⟩ | ⟨hpos, hrng, -⟩
    · have hdrawn := Command.randomHeading_ne (odd_rngAt htaken.reachable.odd_rng a.action a.order.key)
      exact ⟨fun _ => hzero, fun _ => hrng ▸ hdrawn⟩
    · exact ⟨fun h => absurd hrng h, fun h => absurd h (Nat.ne_of_gt hpos)⟩
  · rw [sprite?_moved htaken.mem]
    exact congrArg some hcounter

/-- The dog draws in its third turn, and goes the same way in its fourth. -/
theorem wander_run_yard :
    ∃ start, build (Ruleset.compile yard .default).value "d A" 7 = .ok start ∧ ∃ s ∈ start.group 1,
      let turns := start.turns s.id [.idle, .idle, .idle, .idle]
      ∃ a b, turns[2]? = some a ∧ turns[3]? = some b ∧ b.order.command.drive = a.order.command.drive ∧
        a.decision.2 ≠ a.rng ∧ b.decision.2 = b.rng := by
  have htemplate : ((Ruleset.compile yard .default).value.template? 1).any
      (fun t => t.cls = .randomNpc && t.repeats = 1) = true := by decide +kernel
  simp only [Option.any_eq_true, Bool.and_eq_true, decide_eq_true_eq] at htemplate
  obtain ⟨t, ht, hcls, hrepeats⟩ := htemplate
  obtain ⟨start, hbuild, hcheck⟩ := @exists_start (Ruleset.compile yard .default).value "d A" 7
    (fun w => decide (∃ s ∈ w.group 1, (w.turns s.id [.idle, .idle, .idle, .idle]).length = 4)) (by decide +kernel)
  obtain ⟨s, hs, hlength⟩ := of_decide_eq_true hcheck
  have hturn := wander_run hbuild ht hcls [] [.idle, .idle, .idle, .idle] hs
  rw [hrepeats] at hturn
  have ha := List.getElem?_eq_getElem (show 2 < (start.turns s.id [.idle, .idle, .idle, .idle]).length by omega)
  have hb := List.getElem?_eq_getElem (show 3 < (start.turns s.id [.idle, .idle, .idle, .idle]).length by omega)
  obtain ⟨-, -, -, hdraws, -⟩ := hturn 2 _ ha
  obtain ⟨-, ⟨c, hc, hdrive⟩, -, hkeeps, -⟩ := hturn 3 _ hb
  obtain rfl := Option.some.inj (ha.symm.trans hc)
  refine ⟨start, hbuild, s, hs, _, _, ha, hb, hdrive, hdraws.2 rfl, ?_⟩
  exact not_not.1 fun h => absurd (hkeeps.1 h) (by decide)

end World

end SpriteGame
