import SpriteGame.Proofs.Turns
/-!
# Timed and counted sprites

A flicker goes when its time is up, and a spawn point after its last spawn. Both decide by what
they have counted before the tick, and what is removed counts no further. So between ticks a
flicker is within its time and a spawn point below its total (`History.age_le`,
`History.counts`), and over its life a spawn point asks for no more sprites than that
(`limits_run`).
-/
namespace SpriteGame

namespace Command

theorem exhausted_eq_false {t : Template} (h : 0 < t.total) {n : Nat} : exhausted t n = false ↔ n < t.total := by
  unfold exhausted
  simp [h]

/-- A spawn point vanishes when it has made all of its spawns; else it waits or makes one more. -/
theorem emit_cases (s : Sprite) (t : Template) (rng : Random) :
    (exhausted t s.counter = true ∧ (emit s t rng).1 = { rest with remove := true }) ∨
      exhausted t s.counter = false ∧ ((emit s t rng).1 = rest ∨
        ∃ r, (emit s t rng).1 = { rest with
          spawn := some r
          counter := some (s.counter + 1)
          remove := exhausted t (s.counter + 1) }) := by
  unfold emit
  cases exhausted t s.counter with
  | true => exact .inl ⟨rfl, rfl⟩
  | false =>
    refine .inr ⟨rfl, ?_⟩
    rw [if_neg Bool.false_ne_true]
    split
    · exact .inl rfl
    · split
      · exact .inl rfl
      · dsimp only
        split
        · exact .inr ⟨_, rfl⟩
        · exact .inl rfl

end Command

/-- What the orders of turns ask for. -/
def Turn.requests (ts : List Turn) : List SpawnRequest := ts.filterMap (·.order.command.spawn)

theorem Turn.requests_concat (ts : List Turn) (a : Turn) :
    requests (ts ++ [a]) = requests ts ++ a.order.command.spawn.toList := by
  unfold requests
  rw [List.filterMap_append]
  cases h : a.order.command.spawn <;> simp [h]

/-! ## Between ticks -/

namespace History

variable {rules : Ruleset} {ts : List Turn} {w : World} {type : TypeId} {s : Sprite}
  (h : History rules ts w type s) {t : Template} (ht : rules.template? type = some t)

include h ht

/-- A flicker is within its time. -/
theorem age_le (hcls : t.cls = .flicker) : s.age ≤ t.lifetime := by
  induction h with
  | new hfresh =>
    rw [hfresh.age]
    exact Nat.zero_le _
  | @turn ts a s _ htaken hleads ih =>
    obtain rfl := Option.some.inj (htaken.template.symm.trans ht)
    obtain ⟨rng, hcommand⟩ := htaken.command
    have hstays := hleads.stays
    rw [hcommand] at hstays
    unfold Command.plan at hstays
    rw [hcls] at hstays
    have hlt : a.order.sprite.age < a.order.template.lifetime := Nat.not_le.1 (of_decide_eq_false hstays)
    rw [hleads.age]
    exact Nat.le_trans (Nat.min_le_right ..) hlt

/-- A spawn point is below its total, and has counted what it has asked for. -/
theorem counts (hcls : t.cls = .spawnPoint) (htotal : 0 < t.total) :
    s.counter < t.total ∧ (Turn.requests ts).length = s.counter := by
  induction h with
  | new hfresh =>
    rw [hfresh.counter]
    exact ⟨htotal, rfl⟩
  | @turn ts a s _ htaken hleads ih =>
    obtain ⟨hlt, hcount⟩ := ih ht
    obtain rfl := Option.some.inj (htaken.template.symm.trans ht)
    obtain ⟨rng, hcommand⟩ := htaken.command
    have hstays := hleads.stays
    rw [Turn.requests_concat, List.length_append, hcount, hleads.counter]
    unfold Command.plan at hcommand
    rw [hcls] at hcommand
    dsimp only at hcommand
    rcases Command.emit_cases a.order.sprite a.order.template rng with ⟨-, hemit⟩ | ⟨-, hemit | ⟨r, hemit⟩⟩ <;>
      rw [hemit] at hcommand <;> rw [hcommand] at hstays ⊢
    · cases hstays
    · exact ⟨hlt, rfl⟩
    · exact ⟨(Command.exhausted_eq_false htotal).1 hstays, rfl⟩

end History

/-! ## Runs -/

namespace World

/-- A nest that sends out two sparks, each of which glows for two ticks. -/
def nursery : Description :=
  { Description.empty with
    sprites := [
      ⟨"spark", some "Flicker", .ofList [("limit", "2")], [], 1⟩,
      ⟨"nest", some "SpawnPoint", .ofList [("stype", "spark"), ("total", "2")], [], 2⟩,
      ⟨"avatar", some "MovingAvatar", .empty, [], 3⟩]
    levelMapping := .ofList [('n', ["nest"])] }

/-- Timed and counted sprites keep to their limits. In every world of a run a flicker is within its
time and a spawn point below its total. Whatever happens before and after, the orders of a spawn
point ask for no more sprites than its total, and with the last of them it is gone; what the
orders of a tick ask for is what is queued. -/
theorem limits_run {d : Description} {settings : Settings} {level : String} {seed : UInt64} {start : World}
    (hbuild : build (Ruleset.compile d settings).value level seed = .ok start) {type : TypeId} {t : Template}
    (ht : (Ruleset.compile d settings).value.template? type = some t) (before after : List Action) :
    (t.cls = .flicker → ∀ s ∈ (start.run before).group type, s.age ≤ t.lifetime) ∧
    (t.cls = .spawnPoint → 0 < t.total → ∀ s ∈ (start.run before).group type, s.counter < t.total ∧
      let requests := Turn.requests (start.turns s.id (before ++ after))
      requests.length ≤ t.total ∧ (requests.length = t.total → s.id ∉ (start.run (before ++ after)).ids)) ∧
    ∀ action, ((start.run before).moved action).spawns =
      ((start.run before).orders action).1.filterMap (·.command.spawn) := by
  have haligned := Ruleset.aligned_compile d settings
  have hreach : Reachable _ (start.run before) := (Reachable.start hbuild).run before
  have hsettled := hreach.settled haligned
  refine ⟨fun hcls s hs => ?_, fun hcls htotal s hs => ⟨?_, ?_, fun hlast hthere => ?_⟩, fun action => ?_⟩
  · exact (history_run haligned hbuild before hs).age_le ht hcls
  · exact ((history_run haligned hbuild before hs).counts ht hcls htotal).1
  · rcases List.eq_nil_or_concat' (start.turns s.id (before ++ after)) with hnone | ⟨ts, a, hturns⟩
    · rw [hnone]
      exact Nat.zero_le _
    · -- Before its last turn it was below its total.
      obtain ⟨-, -, hhistory⟩ := turn_of_sprite haligned hbuild hs ht hturns
      obtain ⟨hlt, hcount⟩ := hhistory.counts ht hcls htotal
      rw [hturns, Turn.requests_concat, List.length_append, hcount]
      exact Nat.le_trans (Nat.add_le_add_left (Option.length_toList_le ..) _) hlt
  · obtain ⟨type', s', hs', hid⟩ := mem_ids.1 hthere
    have hfollows : (start.run before).Follows (start.run (before ++ after)) := run_append .. ▸ follows_run _ after
    obtain rfl : type = type' := hsettled.type_of_id hfollows hs hs' hid.symm
    obtain ⟨hlt, hcount⟩ := (history_run haligned hbuild _ hs').counts ht hcls htotal
    rw [hid] at hcount
    exact absurd (hcount.symm.trans hlast) (Nat.ne_of_lt hlt)
  · rw [moved_eq, spawns_carryOut]
    show (start.run before).spawns ++ _ = _
    rw [hsettled.spawns]
    rfl

/-- The nest is gone with its second spark, and the first spark lives for its full time. -/
theorem limits_run_nursery :
    ∃ start, build (Ruleset.compile nursery .default).value "nA" 7 = .ok start ∧
      (∃ s ∈ start.group 2, (Turn.requests (start.turns s.id [.idle, .idle])).length = 2 ∧
        s.id ∉ (start.run [.idle, .idle]).ids) ∧
      ∃ s ∈ (start.run [.idle, .idle, .idle]).group 1, s.age = 2 ∧ s.age ≤ 2 := by
  have htimed : ((Ruleset.compile nursery .default).value.template? 1).any
      (fun t => t.cls = .flicker && t.lifetime = 2) = true := by decide +kernel
  have hcounted : ((Ruleset.compile nursery .default).value.template? 2).any
      (fun t => t.cls = .spawnPoint && t.total = 2) = true := by decide +kernel
  simp only [Option.any_eq_true, Bool.and_eq_true, decide_eq_true_eq] at htimed hcounted
  obtain ⟨t, ht, hcls, hlifetime⟩ := htimed
  obtain ⟨u, hu, hcls', htotal⟩ := hcounted
  obtain ⟨start, hbuild, hcheck⟩ := @exists_start (Ruleset.compile nursery .default).value "nA" 7
    (fun w => decide (∃ s ∈ w.group 2, (Turn.requests (w.turns s.id [.idle, .idle])).length = 2) &&
      decide (∃ s ∈ (w.run [.idle, .idle, .idle]).group 1, s.age = 2)) (by decide +kernel)
  rw [Bool.and_eq_true, decide_eq_true_eq, decide_eq_true_eq] at hcheck
  obtain ⟨⟨s, hs, hlast⟩, r, hr, hage⟩ := hcheck
  obtain ⟨hage', -, -⟩ := limits_run hbuild ht [.idle, .idle, .idle] []
  obtain ⟨-, hcounts, -⟩ := limits_run hbuild hu [] [.idle, .idle]
  obtain ⟨-, -, hgone⟩ := hcounts hcls' (htotal ▸ Nat.zero_lt_two) s hs
  exact ⟨start, hbuild, ⟨s, hs, hlast, hgone (hlast.trans htotal.symm)⟩, r, hr, hage, hlifetime ▸ hage' hcls r hr⟩

end World

end SpriteGame
