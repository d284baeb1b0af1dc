import SpriteGame.Proofs.Dispatch
import SpriteGame.Proofs.Episode
/-!
# Encounters

The collisions of a moment are those that occur (`mem_detect_iff`), and each is listed once:
they go by their entries in the dispatch table, then by their first sides, then by their
second (`pairwise_detect`). Overlapping is mutual and a compiled table never has the screen
edge first, so two sprites that have entries both ways meet in both or in neither.
-/
namespace SpriteGame

theorem Rect.intersects_comm (r s : Rect) : r.intersects s = s.intersects r := by
  unfold intersects
  ac_rfl

namespace Collision

/-- A collision comes before another one by its entry, then by the place of its first side,
then by that of its second. -/
def Before (c d : Collision) : Prop :=
  c.pairing < d.pairing ∨ c.pairing = d.pairing ∧
    (c.first.index < d.first.index ∨ c.first.index = d.first.index ∧
      ∃ k l, c.second = some k ∧ d.second = some l ∧ k.index < l.index)

/-- What a collision for an entry is: a live sprite of the first type overlaps with another
live one of the second, or is not wholly on the screen if the entry is for its edge. -/
def Occurs (w : World) (p : Pairing) (c : Collision) : Prop :=
  ∃ s, c.first.type = p.first ∧ w.sprite? c.first = some s ∧ s.alive = true ∧
    if p.second = Registry.edge then c.second = none ∧ w.bounds.contains s.rect = false
    else ∃ other o, c.second = some other ∧ other.type = p.second ∧ w.sprite? other = some o ∧ o.alive = true ∧
      (p.first = p.second → other.index ≠ c.first.index) ∧ s.rect.intersects o.rect = true

end Collision

namespace World

/-! ## What is detected -/

theorem mem_collisionsOf_iff {w : World} {p : Pairing} {c : Collision} :
    c ∈ w.collisionsOf c.pairing p ↔ c.Occurs w p := by
  unfold Collision.Occurs
  by_cases he : p.second = Registry.edge
  · simp only [mem_collisionsOf_edge he, mem_liveOf, if_pos he, true_and]
    constructor
    · rintro ⟨hsecond, s, ⟨htype, hs, halive⟩, hout⟩
      exact ⟨s, htype, hs, halive, hsecond, hout⟩
    · rintro ⟨s, htype, hs, halive, hsecond, hout⟩
      exact ⟨hsecond, s, ⟨htype, hs, halive⟩, hout⟩
  · simp only [mem_collisionsOf he, mem_liveOf, if_neg he, true_and]
    -- Keys of the two types differ, or their places do.
    have hne : ∀ {k l : Key}, k.type = p.first → l.type = p.second →
        (l ≠ k ↔ (p.first = p.second → l.index ≠ k.index)) := by
      rintro ⟨t, i⟩ ⟨u, j⟩ rfl rfl
      simp [eq_comm]
    constructor
    · rintro ⟨s, other, o, hsecond, ⟨htype, hs, halive⟩, ⟨htype', ho, halive'⟩, hother, hmeet⟩
      exact ⟨s, htype, hs, halive, other, o, hsecond, htype', ho, halive', (hne htype htype').1 hother, hmeet⟩
    · rintro ⟨s, htype, hs, halive, other, o, hsecond, htype', ho, halive', hother, hmeet⟩
      exact ⟨s, other, o, hsecond, ⟨htype, hs, halive⟩, ⟨htype', ho, halive'⟩, (hne htype htype').2 hother, hmeet⟩

theorem mem_detect_iff {w : World} {c : Collision} :
    c ∈ w.detect ↔ ∃ p, w.rules.dispatch[c.pairing]? = some p ∧ c.Occurs w p := by
  simp only [mem_detect, mem_collisionsOf_iff]

/-! ## In which order -/

theorem pairwise_collisionsOf (w : World) (i : Nat) (p : Pairing) : (w.collisionsOf i p).Pairwise Collision.Before := by
  unfold collisionsOf
  split
  · exact List.pairwise_map.2 (((w.pairwise_liveOf p.first).filter _).imp fun h => .inr ⟨rfl, .inl h⟩)
  · refine List.pairwise_flatMap.2 ⟨fun a _ => ?_, (w.pairwise_liveOf p.first).imp fun h c hc d hd => ?_⟩
    · refine List.pairwise_map.2 (((w.pairwise_liveOf p.second).filter _).imp fun h => ?_)
      exact .inr ⟨rfl, .inr ⟨rfl, _, _, rfl, rfl, h⟩⟩
    · obtain ⟨_, -, rfl⟩ := List.mem_map.1 hc
      obtain ⟨_, -, rfl⟩ := List.mem_map.1 hd
      exact .inr ⟨rfl, .inl h⟩

theorem pairwise_detect (w : World) : w.detect.Pairwise Collision.Before := by
  refine List.pairwise_flatMap.2 ⟨fun e _ => w.pairwise_collisionsOf e.2 e.1, ?_⟩
  refine (pairwise_zipIdx _).imp fun h c hc d hd => .inl ?_
  calc c.pairing = _ := pairing_of_mem_collisionsOf hc
    _ < _ := h
    _ = d.pairing := (pairing_of_mem_collisionsOf hd).symm

end World

/-! ## Entries both ways -/

namespace World

theorem mem_detect_of_entry {w : World} {c : Collision} {p : Pairing} (h : w.rules.dispatch[c.pairing]? = some p) :
    c ∈ w.detect ↔ c.Occurs w p := by
  rw [mem_detect_iff, h]
  simp

end World

/-- Who overlaps with another sprite is overlapped with by it. -/
theorem Collision.Occurs.swap {w : World} {p q : Pairing} {i j : Nat} {a b : Key}
    (h : Occurs w p ⟨i, a, some b⟩) (hq : q.first = p.second ∧ q.second = p.first) (hedge : p.first ≠ Registry.edge) :
    Occurs w q ⟨j, b, some a⟩ := by
  obtain ⟨s, htype, hs, halive, hcase⟩ := h
  by_cases he : p.second = Registry.edge
  · rw [if_pos he] at hcase
    cases hcase.1
  · rw [if_neg he] at hcase
    obtain ⟨other, o, hother, htype', ho, halive', hplace, hmeet⟩ := hcase
    obtain rfl : b = other := Option.some.inj hother
    refine ⟨o, htype'.trans hq.1.symm, ho, halive', ?_⟩
    rw [if_neg (hq.2 ▸ hedge)]
    refine ⟨a, s, rfl, htype.trans hq.2.symm, hs, halive, fun heq => ?_, s.rect.intersects_comm o.rect ▸ hmeet⟩
    exact (hplace (by rw [← hq.1, ← hq.2, heq])).symm

theorem Interaction.first_ne_edge {registry : Registry} {placeholders : Params} {d : InteractionDef} {r : Interaction}
    (h : (read? registry placeholders d).value = some r) : r.first ≠ Registry.edge := by
  unfold read? at h
  dsimp only at h
  split at h
  · split at h
    · cases h
    · next hedge =>
      rw [(types_readBetween h).1]
      exact hedge
  all_goals cases h

/-- The screen edge is never the first of a pair. -/
theorem Ruleset.first_ne_edge_compile {d : Description} {settings : Settings} {p : Pairing}
    (h : p ∈ (compile d settings).value.dispatch) : p.first ≠ Registry.edge := by
  obtain ⟨-, rule, hrule, hreaches, -⟩ := eq_between_of_mem_dispatch d settings h
  obtain ⟨_, -, hread⟩ := mem_interactions_compile d settings hrule
  rcases hreaches with hfirst | hancestor
  · rw [hfirst]
    exact Interaction.first_ne_edge hread
  · -- An ancestor is an older type, and none is older than the edge.
    exact Nat.ne_of_gt (Nat.zero_lt_of_lt ((wellFormed_compile d settings).older hancestor))

namespace World

/-- The collisions of a moment are listed in strictly ascending order, and are just those that
occur for the entries of the dispatch table. Two types that have an entry each way, neither of
them the screen edge, meet under both entries or under neither; and a compiled table never
has the screen edge first. -/
theorem detect_lists (w : World) :
    w.detect.Pairwise Collision.Before ∧
    (∀ c, c ∈ w.detect ↔ ∃ p, w.rules.dispatch[c.pairing]? = some p ∧ c.Occurs w p) ∧
    (∀ (i j : Nat) p q, w.rules.dispatch[i]? = some p → w.rules.dispatch[j]? = some q →
      q.first = p.second ∧ q.second = p.first → p.first ≠ Registry.edge → q.first ≠ Registry.edge →
      ∀ a b, ⟨i, a, some b⟩ ∈ w.detect ↔ ⟨j, b, some a⟩ ∈ w.detect) ∧
    ∀ d settings, ∀ p ∈ (Ruleset.compile d settings).value.dispatch, p.first ≠ Registry.edge := by
  refine ⟨w.pairwise_detect, fun c => mem_detect_iff, fun i j p q hp hq hback hfirst hsecond a b => ?_,
    fun d settings p => Ruleset.first_ne_edge_compile⟩
  rw [mem_detect_of_entry hp, mem_detect_of_entry hq]
  exact ⟨fun h => h.swap hback hfirst, fun h => h.swap ⟨hback.2.symm, hback.1.symm⟩ hsecond⟩

/-- A gem that the avatar takes, and that stops it. -/
def hoard : Description :=
  { Description.empty with
    sprites := [
      ⟨"gem", some "Resource", .empty, [], 1⟩,
      ⟨"avatar", some "MovingAvatar", .empty, [], 2⟩]
    interactions := [
      ⟨"avatar", "gem", "stepBack", .empty, 3⟩,
      ⟨"gem", "avatar", "killSprite", .empty, 4⟩]
    levelMapping := .ofList [('g', ["gem"]), ('m', ["gem", "avatar"])] }

/-- Where the level puts the avatar on a gem, the two are detected both ways. -/
theorem detect_lists_hoard :
    ∃ start, build (Ruleset.compile hoard .default).value "m g" 7 = .ok start ∧
      ⟨0, ⟨2, 0⟩, some ⟨1, 0⟩⟩ ∈ start.detect ∧ ⟨1, ⟨1, 0⟩, some ⟨2, 0⟩⟩ ∈ start.detect := by
  obtain ⟨start, h, hcheck⟩ := @exists_start (Ruleset.compile hoard .default).value "m g" 7
    (fun w : World => decide ((⟨0, ⟨2, 0⟩, some ⟨1, 0⟩⟩ : Collision) ∈ w.detect ∧
      ∃ p : Pairing, p ∈ w.rules.dispatch[0]? ∧ ∃ q : Pairing, q ∈ w.rules.dispatch[1]? ∧
        (q.first = p.second ∧ q.second = p.first) ∧ p.first ≠ Registry.edge ∧ q.first ≠ Registry.edge))
    (by decide +kernel)
  obtain ⟨hmem, p, hp, q, hq, hback, hfirst, hsecond⟩ := of_decide_eq_true hcheck
  obtain ⟨-, -, hmutual, -⟩ := detect_lists start
  exact ⟨start, h, hmem, (hmutual 0 1 p q hp hq hback hfirst hsecond _ _).1 hmem⟩

end World

end SpriteGame
