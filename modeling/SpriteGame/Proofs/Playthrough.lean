import SpriteGame.Play
import SpriteGame.Proofs.Outcome
/-!
# Playthroughs replay

A playthrough is told by what its agent is asked (`asked`): each question shows a world and
what the agent remembers, and the answer leads to the next one. `play_replays` says that the
actions of a playthrough are the answers, that they lead from the first world to the last
one when they are taken again, and that it ends with the episode or after the last step.
-/
namespace SpriteGame

variable {μ : Type} (agent : Agent μ)

/-! ## Replaying -/

namespace World

theorem replay_cons {w v : World} {action : Action} (h : w.advance action = .ok v) (actions : List Action) :
    w.replay (action :: actions) = v.replay actions := by
  show (w.advance action >>= fun v => v.replay actions) = v.replay actions
  rw [h]
  rfl

/-- The tick counts the actions that are replayed. -/
theorem tick_of_replay {w v : World} {actions : List Action} (h : w.replay actions = .ok v) :
    v.tick = w.tick + actions.length := by
  induction actions generalizing w with
  | nil =>
    cases h
    rfl
  | cons action actions ih =>
    obtain ⟨next, hnext, hrest⟩ := ok_of_bind h
    obtain ⟨-, rfl⟩ := advance_eq_ok_iff.1 hnext
    rw [ih hrest, tick_step, List.length_cons]
    omega

end World

/-! ## Questions -/

/-- What an agent is asked in a playthrough: the worlds that it is shown, each with what it
remembers then. -/
def asked : Nat → World → μ → List (World × μ)
  | 0, _, _ => []
  | steps + 1, w, memory =>
    if w.outcome.isOver then []
    else (w, memory) :: asked steps (w.step (agent w memory).1) (agent w memory).2

/-- A question follows another one by the answer to it. -/
def Agent.Leads (p q : World × μ) : Prop :=
  p.1.advance (agent p.1 p.2).1 = .ok q.1 ∧ q.2 = (agent p.1 p.2).2

variable {agent} {w : World} (memory : μ)

theorem play_of_over (h : w.outcome.isOver = true) (steps : Nat) : play agent steps w memory = ⟨[], w⟩ := by
  cases steps with
  | zero => rfl
  | succ steps =>
    rw [play, if_pos h]

theorem asked_of_over (h : w.outcome.isOver = true) (steps : Nat) : asked agent steps w memory = [] := by
  cases steps with
  | zero => rfl
  | succ steps =>
    rw [asked, if_pos h]

section Step

variable (h : w.outcome.isOver = false) (steps : Nat)
include h

theorem advance_answer : w.advance (agent w memory).1 = .ok (w.step (agent w memory).1) :=
  World.advance_eq_ok_iff.2 ⟨h, rfl⟩

theorem play_succ :
    play agent (steps + 1) w memory =
      let rest := play agent steps (w.step (agent w memory).1) (agent w memory).2
      ⟨(agent w memory).1 :: rest.actions, rest.world⟩ := by
  rw [play, if_neg (by simp [h])]
  dsimp only
  rw [advance_answer memory h]

theorem asked_succ :
    asked agent (steps + 1) w memory =
      (w, memory) :: asked agent steps (w.step (agent w memory).1) (agent w memory).2 := by
  rw [asked, if_neg (by simp [h])]

end Step

/-! ## Playing -/

/-- Each fact about a playthrough is shown along its questions: there are no steps left, the
episode has ended, or the agent is asked and plays on. -/
theorem play_induction (agent : Agent μ) {motive : Nat → World → μ → Prop}
    (out : ∀ w memory, motive 0 w memory)
    (ended : ∀ steps w memory, w.outcome.isOver = true → motive (steps + 1) w memory)
    (plays : ∀ steps w memory, w.outcome.isOver = false →
      motive steps (w.step (agent w memory).1) (agent w memory).2 → motive (steps + 1) w memory)
    (steps : Nat) (w : World) (memory : μ) : motive steps w memory := by
  induction steps generalizing w memory with
  | zero => exact out w memory
  | succ steps ih =>
    cases h : w.outcome.isOver with
    | true => exact ended steps w memory h
    | false => exact plays steps w memory h (ih _ _)

variable (steps : Nat)

theorem length_asked_le : (asked agent steps w memory).length ≤ steps := by
  induction steps, w, memory using play_induction agent with
  | out => exact Nat.le_refl _
  | ended steps w memory h =>
    rw [asked_of_over memory h]
    exact Nat.zero_le _
  | plays steps w memory h ih =>
    rw [asked_succ memory h]
    exact Nat.succ_le_succ ih

/-- The actions are the answers. -/
theorem actions_play :
    (play agent steps w memory).actions = (asked agent steps w memory).map fun q => (agent q.1 q.2).1 := by
  induction steps, w, memory using play_induction agent with
  | out => rfl
  | ended steps w memory h => rw [play_of_over memory h, asked_of_over memory h, List.map_nil]
  | plays steps w memory h ih => rw [play_succ memory h, asked_succ memory h, List.map_cons, ← ih]

theorem replay_play :
    w.replay (play agent steps w memory).actions = .ok (play agent steps w memory).world := by
  induction steps, w, memory using play_induction agent with
  | out => rfl
  | ended steps w memory h =>
    rw [play_of_over memory h]
    rfl
  | plays steps w memory h ih =>
    rw [play_succ memory h, World.replay_cons (advance_answer memory h)]
    exact ih

/-- A playthrough ends with the episode, or after the last step. -/
theorem over_or_length_play : (play agent steps w memory).world.outcome.isOver = true ∨
    (play agent steps w memory).actions.length = steps := by
  induction steps, w, memory using play_induction agent with
  | out => exact .inr rfl
  | ended steps w memory h =>
    rw [play_of_over memory h]
    exact .inl h
  | plays steps w memory h ih =>
    rw [play_succ memory h]
    exact ih.imp_right (congrArg (· + 1))

theorem head_asked : ∀ q ∈ (asked agent steps w memory).head?, q = (w, memory) := by
  intro q hq
  cases steps with
  | zero => cases hq
  | succ steps =>
    rw [asked] at hq
    split at hq
    · cases hq
    · exact (Option.some.inj hq).symm

theorem chain_asked : (asked agent steps w memory).IsChain agent.Leads := by
  induction steps, w, memory using play_induction agent with
  | out => exact .nil
  | ended steps w memory h =>
    rw [asked_of_over memory h]
    exact .nil
  | plays steps w memory h ih =>
    rw [asked_succ memory h]
    refine List.isChain_cons.2 ⟨fun q hq => ?_, ih⟩
    rw [head_asked _ steps q hq, Agent.Leads]
    dsimp only
    exact ⟨advance_answer memory h, rfl⟩

/-- Nothing else is asked: an agent that gives the same answers plays the same. -/
theorem play_congr {other : Agent μ} (h : ∀ q ∈ asked agent steps w memory, other q.1 q.2 = agent q.1 q.2) :
    play other steps w memory = play agent steps w memory := by
  induction steps, w, memory using play_induction agent with
  | out => rfl
  | ended steps w memory hover => rw [play_of_over memory hover, play_of_over memory hover]
  | plays steps w memory hon ih =>
    rw [asked_succ memory hon] at h
    have hanswer : other w memory = agent w memory := h _ List.mem_cons_self
    have hrest := ih fun q hq => h q (List.mem_cons_of_mem _ hq)
    rw [play_succ memory hon, play_succ memory hon, hanswer]
    dsimp only
    rw [hrest]

/-- What comes of a playthrough. It takes as many actions as there are steps, or fewer, and these
are the answers to what its agent is asked: first about the world at hand, and then about the
world that the last answer leads to, with the memory that the agent keeps of it. On nothing else
does the playthrough depend. The actions can be taken again, one by one from the same world, and
lead to the world at the end; the tick counts them. The playthrough ends with the episode, or
after the last step, and of an ended episode the agent is asked nothing. -/
theorem play_replays (agent : Agent μ) (steps : Nat) (w : World) (memory : μ) :
    let run := play agent steps w memory
    let questions := asked agent steps w memory
    run.actions.length ≤ steps ∧
    w.replay run.actions = .ok run.world ∧
    run.world.tick = w.tick + run.actions.length ∧
    (run.world.outcome.isOver = true ∨ run.actions.length = steps) ∧
    run.actions = questions.map (fun q => (agent q.1 q.2).1) ∧
    (∀ q ∈ questions.head?, q = (w, memory)) ∧ questions.IsChain agent.Leads ∧
    (∀ other : Agent μ, (∀ q ∈ questions, other q.1 q.2 = agent q.1 q.2) → play other steps w memory = run) ∧
    (w.outcome.isOver = true → run = ⟨[], w⟩ ∧ questions = []) := by
  intro run questions
  have hactions : run.actions = questions.map fun q => (agent q.1 q.2).1 := actions_play memory steps
  have hreplay : w.replay run.actions = .ok run.world := replay_play memory steps
  refine ⟨?_, hreplay, World.tick_of_replay hreplay, over_or_length_play memory steps, hactions,
    head_asked memory steps, chain_asked memory steps, fun other => play_congr memory steps, fun hover => ?_⟩
  · rw [hactions, List.length_map]
    exact length_asked_le memory steps
  · exact ⟨play_of_over memory hover steps, asked_of_over memory hover steps⟩

/-- Two steps to the right, and another action from then on. -/
def errandAgent (later : Action) : Agent Nat := fun _ n => (if n < 2 then .right else later, n + 1)

/-- On the errand two steps to the right win, so what an agent would do later does not matter, and
in the ended episode it is asked nothing. -/
theorem play_replays_errand :
    ∃ start, World.build (Ruleset.compile World.errand .default).value "n\nA g" 7 = .ok start ∧
      let run := play (errandAgent .up) 5 start 0
      run.actions = [.right, .right] ∧ start.replay [.right, .right] = .ok run.world ∧ run.world.tick = 2 ∧
      play (errandAgent .down) 5 start 0 = run ∧
      play (errandAgent .up) 5 run.world 2 = ⟨[], run.world⟩ ∧ asked (errandAgent .up) 5 run.world 2 = [] := by
  obtain ⟨start, h, hcheck⟩ := @World.exists_start (Ruleset.compile World.errand .default).value "n\nA g" 7
    (fun w => decide ((play (errandAgent .up) 5 w 0).actions = [.right, .right] ∧
      (play (errandAgent .up) 5 w 0).world.outcome.isOver = true ∧
      (asked (errandAgent .up) 5 w 0).map (·.2) = [0, 1])) (by decide +kernel)
  obtain ⟨hactions, hover, hmemory⟩ := of_decide_eq_true hcheck
  obtain ⟨-, hreplay, htick, -, -, -, -, hother, -⟩ := play_replays (errandAgent .up) 5 start 0
  obtain ⟨-, -, -, -, -, -, -, -, hended⟩ :=
    play_replays (errandAgent .up) 5 (play (errandAgent .up) 5 start 0).world 2
  have hsame : ∀ q ∈ asked (errandAgent .up) 5 start 0, errandAgent .down q.1 q.2 = errandAgent .up q.1 q.2 := by
    intro q hq
    have hearly : q.2 ∈ [0, 1] := hmemory ▸ List.mem_map_of_mem hq
    have hlt : q.2 < 2 := by
      rcases List.mem_pair.1 hearly with hn | hn <;> omega
    simp [errandAgent, hlt]
  rw [hactions] at hreplay htick
  refine ⟨start, h, hactions, hreplay, ?_, hother _ hsame, hended hover⟩
  rw [htick, (World.start_of_build h).1]
  rfl

end SpriteGame
