import Mathlib.Data.List.Perm.Subperm
import SpriteGame.Proofs.Detection
import SpriteGame.Pursuit.Path
/-!
# Shortest paths

The search takes cells in the order of their ranks: by the number of steps to them, and among
cells as far away by the first heading on the way, in the order of `Heading.all`. Ranks are kept
beside the search and not in it (`Terrain.Frontier`). The queue is ascending and spans no more
than one step, so what it comes to first nobody comes to sooner (`Frontier.exists_queue`), and
the notes lead back along a path of the rank (`Frontier.exists_walk`). A cell is taken once, so
the search ends (`Frontier.search`). Together: `Pursuit.pathStep_shortest`.
-/
namespace SpriteGame

/-! ## Headings -/

namespace Heading

/-- The place in the order in which headings are tried. -/
def place : Heading → Nat
  | up => 0
  | left => 1
  | down => 2
  | right => 3

theorem place_lt (h : Heading) : h.place < 4 := by cases h <;> decide

theorem mem_all (h : Heading) : h ∈ all := by cases h <;> decide

theorem ascending_all : all.Pairwise fun h k => h.place < k.place := by decide

theorem place_inj {h k : Heading} (heq : h.place = k.place) : h = k := by
  cases h <;> cases k <;> first | rfl | cases heq

/-- Before a heading come those of lower places. -/
theorem mem_before {h k : Heading} {before after : List Heading} (hall : all = before ++ h :: after) :
    k ∈ before ↔ k.place < h.place := by
  have hascending := ascending_all
  rw [hall] at hascending
  obtain ⟨-, hrest, hcross⟩ := List.pairwise_append.1 hascending
  constructor
  · intro hk
    exact hcross k hk h List.mem_cons_self
  · intro hlt
    have hk := k.mem_all
    rw [hall] at hk
    rcases List.mem_append.1 hk with hk | hk
    · exact hk
    · rcases List.mem_cons.1 hk with rfl | hk
      · exact absurd hlt (Nat.lt_irrefl _)
      · exact absurd hlt (Nat.lt_asymm ((List.pairwise_cons.1 hrest).1 k hk))

end Heading

theorem Cell.toward_inj {c : Cell} {h k : Heading} : c.toward h = c.toward k ↔ h = k := by
  constructor
  · intro heq
    obtain ⟨hcol, hrow⟩ := Cell.mk.inj heq
    cases h <;> cases k <;> first | rfl | (simp only [Heading.dx, Heading.dy] at hcol hrow; omega)
  · rintro rfl
    rfl

theorem Heading.find?_toward (c : Cell) (h : Heading) : all.find? (fun k => c.toward k = c.toward h) = some h := by
  simp only [Cell.toward_inj]
  cases h <;> decide

/-! ## Walks -/

/-- Headings lead from a cell to another one by way of cells that can be entered. -/
def Leads (enter : Cell → Prop) : Cell → List Heading → Cell → Prop
  | c, [], d => c = d
  | c, h :: hs, d => enter (c.toward h) ∧ Leads enter (c.toward h) hs d

theorem Leads.concat {enter : Cell → Prop} {c d : Cell} {hs : List Heading} (hleads : Leads enter c hs d) {h : Heading}
    (hd : enter (d.toward h)) : Leads enter c (hs ++ [h]) (d.toward h) := by
  induction hs generalizing c with
  | nil =>
    obtain rfl : c = d := hleads
    exact ⟨hd, rfl⟩
  | cons k hs ih => exact ⟨hleads.1, ih hleads.2⟩

/-- Some shortest walk begins with a heading. -/
def Begins (enter : Cell → Prop) (start goal : Cell) (h : Heading) : Prop :=
  ∃ hs, Leads enter start (h :: hs) goal ∧ ∀ ks, Leads enter start ks goal → (h :: hs).length ≤ ks.length

/-- Of all headings that begin a shortest walk it is the first. -/
def BeginsFirst (enter : Cell → Prop) (start goal : Cell) (h : Heading) : Prop :=
  Begins enter start goal h ∧
    ∃ before after, Heading.all = before ++ h :: after ∧ ∀ k ∈ before, ¬Begins enter start goal k

theorem BeginsFirst.unique {enter : Cell → Prop} {start goal : Cell} {h k : Heading}
    (hh : BeginsFirst enter start goal h) (hk : BeginsFirst enter start goal k) : h = k := by
  obtain ⟨hbegins, _, _, hall, hbefore⟩ := hh
  obtain ⟨hbegins', _, _, hall', hbefore'⟩ := hk
  rcases Nat.lt_trichotomy h.place k.place with hlt | heq | hlt
  · exact absurd hbegins (hbefore' h ((Heading.mem_before hall').2 hlt))
  · exact Heading.place_inj heq
  · exact absurd hbegins' (hbefore k ((Heading.mem_before hall).2 hlt))

namespace Terrain

variable {t : Terrain} {start : Cell}

/-! ## The cells of the level -/

def grid (t : Terrain) : List Cell :=
  (List.range t.cols.toNat).flatMap fun (i : Nat) => (List.range t.rows.toNat).map fun (j : Nat) => ⟨i, j⟩

theorem length_grid (t : Terrain) : t.grid.length = t.cols.toNat * t.rows.toNat := by
  simp [grid, List.length_flatMap]

theorem mem_grid {c : Cell} (hopen : t.isOpen c = true) : c ∈ t.grid := by
  simp only [isOpen, Bool.and_eq_true, decide_eq_true_eq] at hopen
  obtain ⟨⟨⟨⟨hcol, hcols⟩, hrow⟩, hrows⟩, -⟩ := hopen
  have hi : c.col.toNat < t.cols.toNat := by omega
  have hj : c.row.toNat < t.rows.toNat := by omega
  have hcell : Cell.mk c.col.toNat c.row.toNat = c := by
    rw [Int.toNat_of_nonneg hcol, Int.toNat_of_nonneg hrow]
  exact List.mem_flatMap.2 ⟨_, List.mem_range.2 hi, List.mem_map.2 ⟨_, List.mem_range.2 hj, hcell⟩⟩

/-! ## The frontier -/

/-- The rank of a cell that is reached from another one in a heading. -/
def cost (start : Cell) (rank : Cell → Nat) (c : Cell) (h : Heading) : Nat :=
  if c = start then 4 + h.place else rank c + 4

/-- What holds of a search and of the ranks of cells when it has gone on from some of them, the
start among these, and has tried some headings of theirs. -/
structure Frontier (t : Terrain) (start : Cell) (rank : Cell → Nat) (done : List Cell) (tried : Cell → Heading → Prop)
    (s : Search) : Prop where
  start_mem : start ∈ done
  goal_not_mem : t.goal ∉ done
  nodup : (done ++ s.queue).Nodup
  reached : ∀ c, c ∈ done ++ s.queue ↔ c = start ∨ c ∈ s.origins
  start_rank : rank start = 3
  entered : ∀ c p, s.origins[c]? = some p → p ∈ done ∧ t.isOpen c = true ∧
    ∃ h, c = p.toward h ∧ rank c = cost start rank p h
  ascending : (done ++ s.queue).Pairwise fun c d => rank c ≤ rank d
  narrow : ∀ c ∈ s.queue, ∀ d ∈ done ++ s.queue, rank d ≤ rank c + 4
  low : ∀ c ∈ done ++ s.queue, rank c < 4 * (done.length + 1)
  explored : ∀ c h, tried c h → c ∈ done ∧
    (t.isOpen (c.toward h) = true → c.toward h ∈ done ++ s.queue ∧ rank (c.toward h) ≤ cost start rank c h)

/-- Behind the queue there is a place for a cell with the rank that a heading leads to. -/
structure Fits (start : Cell) (rank : Cell → Nat) (done queue : List Cell) (c : Cell) (h : Heading) : Prop where
  upper : ∀ d ∈ done ++ queue, rank d ≤ cost start rank c h
  lower : ∀ d ∈ queue, cost start rank c h ≤ rank d + 4
  low : cost start rank c h < 4 * (done.length + 1)

section Fits

variable {rank : Cell → Nat}

theorem cost_start (h : Heading) : cost start rank start h = 4 + h.place := if_pos rfl

theorem cost_of_ne {c : Cell} (hc : c ≠ start) (h : Heading) : cost start rank c h = rank c + 4 := if_neg hc

theorem cost_congr {rank' : Cell → Nat} {c : Cell} (hc : rank' c = rank c) (h : Heading) :
    cost start rank' c h = cost start rank c h := by
  unfold cost
  rw [hc]

theorem cost_mono (c : Cell) {h k : Heading} (hplace : h.place ≤ k.place) :
    cost start rank c h ≤ cost start rank c k := by
  unfold cost
  split <;> omega

theorem cost_span (c : Cell) (h k : Heading) : cost start rank c k ≤ cost start rank c h + 4 := by
  have := k.place_lt
  unfold cost
  split <;> omega

/-- Where cells have been reached in one heading there is a place for those in a later one. -/
theorem Fits.later {rank' : Cell → Nat} {done queue queue' : List Cell} {c : Cell} {h k : Heading}
    (hfits : Fits start rank done queue c k) (hc : c ∈ done) (hplace : h.place ≤ k.place)
    (hdone : ∀ d ∈ done, rank' d = rank d)
    (hqueue : ∀ d ∈ queue', rank' d = cost start rank c h ∨ d ∈ queue ∧ rank' d = rank d) :
    Fits start rank' done queue' c k := by
  have hcost : cost start rank' c k = cost start rank c k := cost_congr (hdone c hc) k
  constructor
  case upper =>
    intro d hd
    rw [hcost]
    rcases List.mem_append.1 hd with hd | hd
    · rw [hdone d hd]
      exact hfits.upper d (List.mem_append_left _ hd)
    · rcases hqueue d hd with heq | ⟨hd, heq⟩
      · rw [heq]
        exact cost_mono c hplace
      · rw [heq]
        exact hfits.upper d (List.mem_append_right _ hd)
  case lower =>
    intro d hd
    rw [hcost]
    rcases hqueue d hd with heq | ⟨hd, heq⟩
    · rw [heq]
      exact cost_span c h k
    · rw [heq]
      exact hfits.lower d hd
  case low =>
    rw [hcost]
    exact hfits.low

end Fits

namespace Frontier

variable {rank : Cell → Nat} {done : List Cell} {tried : Cell → Heading → Prop} {s : Search}

theorem cost_le (hf : Frontier t start rank done tried s) (c : Cell) (h : Heading) :
    cost start rank c h ≤ rank c + 4 := by
  have hplace := h.place_lt
  have hstart := hf.start_rank
  unfold cost
  split
  · next hc =>
    subst hc
    omega
  · omega

theorem weaken (hf : Frontier t start rank done tried s) {tried' : Cell → Heading → Prop}
    (h : ∀ c k, tried' c k → tried c k) : Frontier t start rank done tried' s :=
  { hf with explored := fun c k hc => hf.explored c k (h c k hc) }

/-! ## Going on from a cell -/

/-- Reaching a fresh cell. -/
theorem reach_new (hf : Frontier t start rank done tried s) {c : Cell} (hc : c ∈ done) {h : Heading}
    (hfits : Fits start rank done s.queue c h) (hopen : t.isOpen (c.toward h) = true) (hne : c.toward h ≠ start)
    (hnew : c.toward h ∉ s.origins) :
    ∃ rank', (∀ d ∈ done ++ s.queue, rank' d = rank d) ∧ rank' (c.toward h) = cost start rank c h ∧
      Frontier t start rank' done (fun d k => tried d k ∨ d = c ∧ k = h)
        ⟨s.queue ++ [c.toward h], s.origins.insert (c.toward h) c⟩ := by
  have hfresh : c.toward h ∉ done ++ s.queue := fun hmem => ((hf.reached _).1 hmem).elim hne hnew
  obtain ⟨rank', hself, hothers⟩ : ∃ rank' : Cell → Nat, rank' (c.toward h) = cost start rank c h ∧
      ∀ d, d ≠ c.toward h → rank' d = rank d :=
    ⟨Function.update rank _ _, Function.update_self .., fun d hd => Function.update_of_ne hd ..⟩
  have hold : ∀ d ∈ done ++ s.queue, rank' d = rank d := by
    intro d hd
    refine hothers d ?_
    rintro rfl
    exact hfresh hd
  have hcost : ∀ d ∈ done, ∀ k, cost start rank' d k = cost start rank d k :=
    fun d hd => cost_congr (hold d (List.mem_append_left _ hd))
  have hmem : ∀ d, d ∈ done ++ (s.queue ++ [c.toward h]) ↔ d ∈ done ++ s.queue ∨ d = c.toward h := by
    intro d
    rw [← List.append_assoc, List.mem_append, List.mem_singleton]
  have hmost : ∀ d ∈ done ++ (s.queue ++ [c.toward h]), rank' d ≤ cost start rank c h := by
    intro d hd
    rcases (hmem d).1 hd with hd | rfl
    · rw [hold d hd]
      exact hfits.upper d hd
    · exact Nat.le_of_eq hself
  refine ⟨rank', hold, hself, ?_⟩
  constructor
  case start_mem => exact hf.start_mem
  case goal_not_mem => exact hf.goal_not_mem
  case nodup =>
    rw [← List.append_assoc]
    refine List.nodup_append.2 ⟨hf.nodup, List.pairwise_singleton _ _, ?_⟩
    rintro d hd e he rfl
    exact hfresh (List.mem_singleton.1 he ▸ hd)
  case reached =>
    intro d
    rw [hmem, hf.reached, Std.HashMap.mem_insert, beq_iff_eq, or_assoc]
    exact or_congr_right (or_comm.trans (or_congr_left eq_comm))
  case start_rank => rw [hold start (List.mem_append_left _ hf.start_mem), hf.start_rank]
  case entered =>
    intro d p hp
    rw [Std.HashMap.getElem?_insert] at hp
    split at hp
    · next heq =>
      obtain rfl : c = p := Option.some.inj hp
      obtain rfl : c.toward h = d := eq_of_beq heq
      exact ⟨hc, hopen, h, rfl, hself.trans (hcost c hc h).symm⟩
    · obtain ⟨hp', hopen', k, hk, hrank⟩ := hf.entered d p hp
      have hd : d ∈ s.origins := Std.HashMap.mem_iff_isSome_getElem?.2 (by rw [hp]; rfl)
      have hd := (hf.reached d).2 (.inr hd)
      exact ⟨hp', hopen', k, hk, (hold d hd).trans (hrank.trans (hcost p hp' k).symm)⟩
  case ascending =>
    rw [← List.append_assoc]
    refine List.pairwise_append.2 ⟨?_, List.pairwise_singleton _ _, ?_⟩
    · exact hf.ascending.imp_of_mem fun hd he hle => by rwa [hold _ hd, hold _ he]
    · intro d hd e he
      obtain rfl := List.mem_singleton.1 he
      rw [hself]
      exact hmost d ((hmem d).2 (.inl hd))
  case narrow =>
    intro d hd e he
    rcases List.mem_append.1 hd with hd | hd
    · rw [hold d (List.mem_append_right _ hd)]
      rcases (hmem e).1 he with he | rfl
      · rw [hold e he]
        exact hf.narrow d hd e he
      · rw [hself]
        exact hfits.lower d hd
    · obtain rfl := List.mem_singleton.1 hd
      rw [hself]
      exact Nat.le_add_right_of_le (hmost e he)
  case low =>
    intro d hd
    rcases (hmem d).1 hd with hd | rfl
    · rw [hold d hd]
      exact hf.low d hd
    · rw [hself]
      exact hfits.low
  case explored =>
    rintro d k (hd | ⟨rfl, rfl⟩)
    · obtain ⟨hdone, hnext⟩ := hf.explored d k hd
      refine ⟨hdone, fun hopen' => ?_⟩
      obtain ⟨hin, hle⟩ := hnext hopen'
      rw [hold _ hin, hcost d hdone]
      exact ⟨(hmem _).2 (.inl hin), hle⟩
    · exact ⟨hc, fun _ => ⟨(hmem _).2 (.inr rfl), Nat.le_of_eq (hself.trans (hcost d hc k).symm)⟩⟩

/-- Trying a heading. -/
theorem reach (hf : Frontier t start rank done tried s) {c : Cell} (hc : c ∈ done) {h : Heading}
    (hfits : Fits start rank done s.queue c h) :
    ∃ rank', (∀ d ∈ done, rank' d = rank d) ∧
      (∀ d ∈ (t.reach start c s h).queue, rank' d = cost start rank c h ∨ d ∈ s.queue ∧ rank' d = rank d) ∧
      Frontier t start rank' done (fun d k => tried d k ∨ d = c ∧ k = h) (t.reach start c s h) := by
  unfold Terrain.reach
  dsimp only
  split
  · next hif =>
    simp only [Bool.and_eq_true, Bool.not_eq_true', decide_eq_true_eq] at hif
    obtain ⟨⟨hopen, hne⟩, hnew⟩ := hif
    obtain ⟨rank', hold, hself, hf'⟩ := hf.reach_new hc hfits hopen hne
      fun hin => by simp [Std.HashMap.mem_iff_contains.1 hin] at hnew
    refine ⟨rank', fun d hd => hold d (List.mem_append_left _ hd), fun d hd => ?_, hf'⟩
    rcases List.mem_append.1 hd with hd | hd
    · exact .inr ⟨hd, hold d (List.mem_append_right _ hd)⟩
    · exact .inl (List.mem_singleton.1 hd ▸ hself)
  · next hif =>
    refine ⟨rank, fun _ _ => rfl, fun d hd => .inr ⟨hd, rfl⟩, { hf with explored := ?_ }⟩
    rintro d k (hd | ⟨rfl, rfl⟩)
    · exact hf.explored d k hd
    · refine ⟨hc, fun hopen => ?_⟩
      have hin : d.toward k ∈ done ++ s.queue := by
        refine (hf.reached _).2 ?_
        by_contra hnot
        obtain ⟨hne, hnew⟩ := not_or.1 hnot
        exact hif (by simp [hopen, hne, hnew])
      exact ⟨hin, hfits.upper _ hin⟩

/-- The same for one heading after the other, in the order in which they are tried. -/
theorem foldl_reach {hs : List Heading} (hf : Frontier t start rank done tried s) {c : Cell} (hc : c ∈ done)
    (horder : hs.Pairwise fun h k => h.place < k.place)
    (hfits : ∀ h ∈ hs, Fits start rank done s.queue c h) :
    ∃ rank', Frontier t start rank' done (fun d k => tried d k ∨ d = c ∧ k ∈ hs) (hs.foldl (t.reach start c) s) := by
  induction hs generalizing rank tried s with
  | nil =>
    refine ⟨rank, hf.weaken ?_⟩
    rintro d k (hd | ⟨-, hk⟩)
    · exact hd
    · cases hk
  | cons h hs ih =>
    obtain ⟨hfirst, horder⟩ := List.pairwise_cons.1 horder
    obtain ⟨rank₁, hdone, hqueue, hf₁⟩ := hf.reach hc (hfits h List.mem_cons_self)
    obtain ⟨rank₂, hf₂⟩ := ih hf₁ horder fun k hk =>
      (hfits k (List.mem_cons_of_mem _ hk)).later hc (Nat.le_of_lt (hfirst k hk)) hdone hqueue
    refine ⟨rank₂, hf₂.weaken ?_⟩
    rintro d k (hd | ⟨rfl, hk⟩)
    · exact .inl (.inl hd)
    · rcases List.mem_cons.1 hk with rfl | hk
      · exact .inl (.inr ⟨rfl, rfl⟩)
      · exact .inr ⟨rfl, hk⟩

/-- The start alone, with none of its headings tried. -/
theorem initial (hne : start ≠ t.goal) : Frontier t start (fun _ => 3) [start] (fun _ _ => False) ⟨[], ∅⟩ where
  start_mem := List.mem_singleton_self start
  goal_not_mem := fun hmem => hne (List.mem_singleton.1 hmem).symm
  nodup := List.pairwise_singleton _ _
  reached := by simp
  start_rank := rfl
  entered := by simp
  ascending := List.pairwise_singleton _ _
  narrow := by simp
  low := by simp
  explored := fun _ _ hfalse => hfalse.elim

/-- Going on from the start. -/
theorem begin (hne : start ≠ t.goal) :
    ∃ rank, Frontier t start rank [start] (fun d _ => d ∈ [start]) (t.expand start start ⟨[], ∅⟩) := by
  have hfits : ∀ h, Fits start (fun _ => 3) [start] [] start h := by
    intro h
    have hplace := h.place_lt
    constructor
    case upper =>
      intro d hd
      rw [cost_start]
      omega
    case lower =>
      intro d hd
      cases hd
    case low =>
      rw [cost_start, List.length_singleton]
      omega
  obtain ⟨rank, hf'⟩ :=
    (initial hne).foldl_reach (List.mem_singleton_self start) Heading.ascending_all fun h _ => hfits h
  refine ⟨rank, hf'.weaken ?_⟩
  intro d k hd
  exact .inr ⟨List.mem_singleton.1 hd, k.mem_all⟩

/-- Taking the first cell of the queue. Before its headings are tried it is done with all the
same. -/
theorem pop {c : Cell} {rest : List Cell} {origins : Std.HashMap Cell Cell}
    (hf : Frontier t start rank done tried ⟨c :: rest, origins⟩) (hgoal : c ≠ t.goal) :
    Frontier t start rank (done ++ [c]) tried ⟨rest, origins⟩ := by
  have hsame : done ++ [c] ++ rest = done ++ c :: rest := by rw [List.append_assoc, List.singleton_append]
  constructor
  case start_mem => exact List.mem_append_left _ hf.start_mem
  case goal_not_mem =>
    intro hmem
    rcases List.mem_append.1 hmem with hmem | hmem
    · exact hf.goal_not_mem hmem
    · exact hgoal (List.mem_singleton.1 hmem).symm
  case nodup =>
    rw [hsame]
    exact hf.nodup
  case reached =>
    rw [hsame]
    exact hf.reached
  case start_rank => exact hf.start_rank
  case entered =>
    intro d p hp
    obtain ⟨hdone, hopen, hfrom⟩ := hf.entered d p hp
    exact ⟨List.mem_append_left _ hdone, hopen, hfrom⟩
  case ascending =>
    rw [hsame]
    exact hf.ascending
  case narrow =>
    rw [hsame]
    intro d hd e he
    exact hf.narrow d (List.mem_cons_of_mem _ hd) e he
  case low =>
    rw [hsame]
    intro d hd
    have := hf.low d hd
    rw [List.length_append, List.length_singleton]
    omega
  case explored =>
    rw [hsame]
    intro d k hd
    obtain ⟨hdone, hnext⟩ := hf.explored d k hd
    exact ⟨List.mem_append_left _ hdone, hnext⟩

/-- Going on from the first cell of the queue. -/
theorem expand {c : Cell} {rest : List Cell} {origins : Std.HashMap Cell Cell}
    (hf : Frontier t start rank done (fun d _ => d ∈ done) ⟨c :: rest, origins⟩) (hgoal : c ≠ t.goal) :
    ∃ rank', Frontier t start rank' (done ++ [c]) (fun d _ => d ∈ done ++ [c]) (t.expand start c ⟨rest, origins⟩) := by
  have hpop := hf.pop hgoal
  have hc : c ∈ done ++ [c] := List.mem_append_right _ (List.mem_singleton_self c)
  have hstart : c ≠ start := by
    rintro rfl
    exact (List.nodup_append.1 hf.nodup).2.2 c hf.start_mem c List.mem_cons_self rfl
  have hfits : ∀ h, Fits start rank (done ++ [c]) rest c h := by
    intro h
    constructor
    case upper =>
      intro d hd
      rw [List.append_assoc, List.singleton_append] at hd
      rw [cost_of_ne hstart]
      exact hf.narrow c List.mem_cons_self d hd
    case lower =>
      intro d hd
      have hascending := (List.pairwise_append.1 hf.ascending).2.1
      rw [cost_of_ne hstart]
      exact Nat.add_le_add_right ((List.pairwise_cons.1 hascending).1 d hd) 4
    case low =>
      have hlow := hf.low c (List.mem_append_right _ List.mem_cons_self)
      rw [cost_of_ne hstart, List.length_append, List.length_singleton]
      omega
  obtain ⟨rank', hf'⟩ := hpop.foldl_reach hc Heading.ascending_all fun h _ => hfits h
  refine ⟨rank', hf'.weaken ?_⟩
  intro d k hd
  rcases List.mem_append.1 hd with hd | hd
  · exact .inl hd
  · exact .inr ⟨List.mem_singleton.1 hd, k.mem_all⟩

/-! ## The search comes to an end -/

/-- No more cells are met than the level has, beside the start. -/
theorem length_le (hf : Frontier t start rank done tried s) : (done ++ s.queue).length ≤ t.depth := by
  have hsub : done ++ s.queue ⊆ start :: t.grid := by
    intro c hc
    rcases (hf.reached c).1 hc with rfl | hc
    · exact List.mem_cons_self
    · obtain ⟨p, hp⟩ := Option.isSome_iff_exists.1 (Std.HashMap.mem_iff_isSome_getElem?.1 hc)
      obtain ⟨-, hopen, -⟩ := hf.entered c p hp
      exact List.mem_cons_of_mem _ (mem_grid hopen)
  have hle := (List.subperm_of_subset hf.nodup hsub).length_le
  rwa [List.length_cons, length_grid] at hle

end Frontier

end Terrain

/-- No cell is left to go on from, or the goal has come. -/
def Search.Ended (goal : Cell) (s : Search) : Prop := s.queue = [] ∨ s.queue.head? = some goal

namespace Terrain

variable {t : Terrain} {start : Cell}

theorem Frontier.search {rank : Cell → Nat} {done : List Cell} {s : Search} {fuel : Nat}
    (hf : Frontier t start rank done (fun d _ => d ∈ done) s) (hfuel : t.depth ≤ done.length + fuel) :
    (t.search start fuel s).Ended t.goal ∧
      ∃ rank' done', Frontier t start rank' done' (fun d _ => d ∈ done') (t.search start fuel s) := by
  induction fuel generalizing rank done s with
  | zero =>
    have hle := hf.length_le
    rw [List.length_append] at hle
    have hqueue : s.queue.length = 0 := by omega
    exact ⟨.inl (List.length_eq_zero_iff.1 hqueue), rank, done, hf⟩
  | succ fuel ih =>
    obtain ⟨queue, origins⟩ := s
    cases queue with
    | nil => exact ⟨.inl rfl, rank, done, hf⟩
    | cons c rest =>
      simp only [Terrain.search]
      by_cases hc : c = t.goal
      · rw [if_pos hc, hc]
        exact ⟨.inr rfl, rank, done, hc ▸ hf⟩
      · rw [if_neg hc]
        obtain ⟨rank', hf'⟩ := hf.expand hc
        refine ih hf' ?_
        rw [List.length_append, List.length_singleton]
        omega

/-- From the start, unless that is the goal, the search ends with all ranked that it has met. -/
theorem exists_frontier (hne : start ≠ t.goal) {fuel : Nat} (hfuel : t.depth ≤ fuel) :
    (t.search start fuel ⟨[start], ∅⟩).Ended t.goal ∧
      ∃ rank done, Frontier t start rank done (fun d _ => d ∈ done) (t.search start fuel ⟨[start], ∅⟩) := by
  cases fuel with
  | zero => exact absurd hfuel (Nat.not_succ_le_zero _)
  | succ fuel =>
    obtain ⟨rank, hf⟩ := Frontier.begin hne
    simp only [Terrain.search, if_neg hne]
    exact hf.search (by rw [List.length_singleton]; omega)

/-! ## The notes and the queue bound the walks -/

namespace Frontier

variable {rank : Cell → Nat} {done : List Cell} {s : Search}

/-- A walk from a cell that is done with to one that is not comes by the queue, no sooner than
its length allows. -/
theorem exists_queue (hf : Frontier t start rank done (fun d _ => d ∈ done) s) {c d : Cell} {h : Heading}
    {hs : List Heading} (hc : c ∈ done) (hleads : Leads (fun c => t.isOpen c = true) c (h :: hs) d) (hd : d ∉ done) :
    ∃ e ∈ s.queue, rank e ≤ cost start rank c h + 4 * hs.length := by
  induction hs generalizing c h with
  | nil =>
    obtain ⟨hopen, rfl⟩ := hleads
    obtain ⟨hmem, hle⟩ := (hf.explored c h hc).2 hopen
    exact ⟨_, (List.mem_append.1 hmem).resolve_left hd, hle⟩
  | cons k hs ih =>
    obtain ⟨hopen, hleads⟩ := hleads
    obtain ⟨hmem, hle⟩ := (hf.explored c h hc).2 hopen
    rw [List.length_cons]
    rcases List.mem_append.1 hmem with hmem | hmem
    · obtain ⟨e, he, hle'⟩ := ih hmem hleads
      have hspan := hf.cost_le (c.toward h) k
      exact ⟨e, he, by omega⟩
    · exact ⟨_, hmem, by omega⟩

/-- The notes lead back along a walk of the rank. -/
theorem exists_walk (hf : Frontier t start rank done (fun d _ => d ∈ done) s) {c : Cell} (hc : c ∈ s.origins) :
    ∃ h hs, Leads (fun c => t.isOpen c = true) start (h :: hs) c ∧ rank c = 4 * (h :: hs).length + h.place ∧
      ∀ fuel, rank c < 4 * (fuel + 1) → walkBack start s.origins fuel c = some (start.toward h) := by
  induction hn : rank c using Nat.strongRecOn generalizing c with
  | _ n ih =>
    subst hn
    obtain ⟨p, hp⟩ := Option.isSome_iff_exists.1 (Std.HashMap.mem_iff_isSome_getElem?.1 hc)
    obtain ⟨hdone, hopen, k, rfl, hrank⟩ := hf.entered c p hp
    by_cases hstart : p = start
    · subst hstart
      rw [cost_start] at hrank
      refine ⟨k, [], ⟨hopen, rfl⟩, ?_, fun fuel hfuel => ?_⟩
      · rw [hrank, List.length_singleton]
      · cases fuel with
        | zero => omega
        | succ fuel => simp only [walkBack, hp, if_true]
    · rw [cost_of_ne hstart] at hrank
      have hp' : p ∈ s.origins := ((hf.reached p).1 (List.mem_append_left _ hdone)).resolve_left hstart
      obtain ⟨h, hs, hleads, hrank', hback⟩ := ih (rank p) (by omega) hp' rfl
      refine ⟨h, hs ++ [k], hleads.concat hopen, ?_, fun fuel hfuel => ?_⟩
      · rw [hrank, hrank', List.length_cons, List.length_cons, List.length_append, List.length_singleton]
        omega
      · cases fuel with
        | zero => omega
        | succ fuel =>
          simp only [walkBack, hp, if_neg hstart]
          exact hback fuel (by omega)

/-! ## The first heading -/

/-- A walk to the goal has a first step, and comes by the queue. -/
theorem exists_bound (hf : Frontier t start rank done (fun d _ => d ∈ done) s) (hne : start ≠ t.goal)
    {ks : List Heading} (hleads : Leads (fun c => t.isOpen c = true) start ks t.goal) :
    ∃ k ks', ks = k :: ks' ∧ ∃ e ∈ s.queue, rank e ≤ 4 * ks.length + k.place := by
  cases ks with
  | nil => exact absurd hleads hne
  | cons k ks =>
    obtain ⟨e, he, hle⟩ := hf.exists_queue hf.start_mem hleads hf.goal_not_mem
    rw [cost_start] at hle
    exact ⟨k, ks, rfl, e, he, by rw [List.length_cons]; omega⟩

/-- Once the goal has come the notes lead back to the first heading of a shortest walk. -/
theorem exists_beginsFirst (hf : Frontier t start rank done (fun d _ => d ∈ done) s) (hne : start ≠ t.goal)
    (hhead : s.queue.head? = some t.goal) {fuel : Nat} (hfuel : t.depth ≤ fuel) :
    ∃ h, walkBack start s.origins fuel t.goal = some (start.toward h) ∧
      BeginsFirst (fun c => t.isOpen c = true) start t.goal h := by
  obtain ⟨rest, hqueue⟩ := List.head?_eq_some_iff.1 hhead
  have hmem : t.goal ∈ done ++ s.queue := by
    rw [hqueue]
    exact List.mem_append_right _ List.mem_cons_self
  have hleast : ∀ e ∈ s.queue, rank t.goal ≤ rank e := by
    intro e he
    have hascending := (List.pairwise_append.1 hf.ascending).2.1
    rw [hqueue] at he hascending
    rcases List.mem_cons.1 he with rfl | he
    · exact Nat.le_refl _
    · exact (List.pairwise_cons.1 hascending).1 e he
  have henough : rank t.goal < 4 * (fuel + 1) := by
    have hlow := hf.low _ hmem
    have hlength := hf.length_le
    rw [List.length_append] at hlength
    omega
  obtain ⟨h, hs, hleads, hrank, hback⟩ := hf.exists_walk (((hf.reached _).1 hmem).resolve_left (Ne.symm hne))
  have hplace := h.place_lt
  refine ⟨h, hback fuel henough, ⟨hs, hleads, ?_⟩, ?_⟩
  · intro ks hks
    obtain ⟨k, ks', rfl, e, he, hle⟩ := hf.exists_bound hne hks
    have hk := k.place_lt
    have := hleast e he
    omega
  · -- A shortest walk with an earlier heading would have the goal at a lower rank.
    obtain ⟨before, after, hall⟩ := List.append_of_mem h.mem_all
    refine ⟨before, after, hall, ?_⟩
    rintro k hk ⟨ks, hks, hshortest⟩
    have hlt := (Heading.mem_before hall).1 hk
    have hlength := hshortest _ hleads
    obtain ⟨k', ks', heq, e, he, hle⟩ := hf.exists_bound hne hks
    obtain ⟨rfl, rfl⟩ := List.cons.inj heq
    have := hleast e he
    omega

end Frontier

/-- With enough steps the search tells the first heading of a shortest walk, or that there is
no walk. -/
theorem headingWithin_spec (t : Terrain) (start : Cell) {fuel : Nat} (hfuel : t.depth ≤ fuel) :
    match t.headingWithin fuel start with
    | none => start = t.goal ∨ ¬∃ hs, Leads (fun c => t.isOpen c = true) start hs t.goal
    | some h => start ≠ t.goal ∧ BeginsFirst (fun c => t.isOpen c = true) start t.goal h := by
  unfold headingWithin
  by_cases hne : start = t.goal
  · rw [if_pos hne]
    exact .inl hne
  rw [if_neg hne]
  obtain ⟨hended, rank, done, hf⟩ := exists_frontier hne hfuel
  dsimp only
  generalize t.search start fuel ⟨[start], ∅⟩ = s at hended hf ⊢
  rcases hended with hempty | hhead
  · rw [hempty, List.head?_nil, if_neg (by simp)]
    refine .inr ?_
    rintro ⟨hs, hleads⟩
    obtain ⟨-, -, -, e, he, -⟩ := hf.exists_bound hne hleads
    rw [hempty] at he
    cases he
  · obtain ⟨h, hback, hfirst⟩ := hf.exists_beginsFirst hne hhead hfuel
    rw [if_pos hhead, hback, Option.bind_eq_bind, Option.bind_some, Heading.find?_toward]
    exact ⟨hne, hfirst⟩

/-- More steps than enough make no difference. -/
theorem headingWithin_eq {fuel : Nat} (hfuel : t.depth ≤ fuel) :
    t.headingWithin fuel start = t.firstHeading start := by
  have hmore := t.headingWithin_spec start hfuel
  have hspec := t.headingWithin_spec start (Nat.le_refl _)
  unfold firstHeading
  generalize t.headingWithin fuel start = found at hmore ⊢
  generalize t.headingWithin t.depth start = found' at hspec ⊢
  -- There cannot be a walk for one and none for the other.
  cases found with
  | none =>
    cases found' with
    | none => rfl
    | some k =>
      obtain ⟨hne, ⟨hs, hleads, -⟩, -⟩ := hspec
      exact (hmore.elim hne fun hnone => hnone ⟨_, hleads⟩).elim
  | some h =>
    cases found' with
    | none =>
      obtain ⟨hne, ⟨hs, hleads, -⟩, -⟩ := hmore
      exact (hspec.elim hne fun hnone => hnone ⟨_, hleads⟩).elim
    | some k => rw [hmore.2.unique hspec.2]

theorem ended_search {fuel : Nat} (hfuel : t.depth ≤ fuel) : (t.search start fuel ⟨[start], ∅⟩).Ended t.goal := by
  by_cases hne : start = t.goal
  · subst hne
    refine .inr ?_
    cases fuel with
    | zero => rfl
    | succ fuel => simp [search]
  · exact (exists_frontier hne hfuel).1

end Terrain

/-! ## Paths in a world -/

/-- Whether a path to a goal can go by a cell of the level: it is the goal itself, or no live
static sprite stands there. -/
def World.Enterable (w : World) (goal c : Cell) : Prop :=
  (0 ≤ c.col ∧ c.col < Single.round (w.bounds.w / w.blockSize)) ∧
  (0 ≤ c.row ∧ c.row < Single.round (w.bounds.h / w.blockSize)) ∧
  (c = goal ∨ ∀ k s, w.sprite? k = some s → s.alive = true → w.rules.hasRole k.type .static = true →
    s.rect.cell w.blockSize ≠ c)

namespace Pursuit

theorem mem_staticCells {w : World} {c : Cell} :
    c ∈ staticCells w ↔ ∃ k s, w.sprite? k = some s ∧ s.alive = true ∧ w.rules.hasRole k.type .static = true ∧
      s.rect.cell w.blockSize = c := by
  unfold staticCells
  rw [List.mem_map]
  constructor
  · rintro ⟨⟨k, s⟩, he, hc⟩
    obtain ⟨he, hrole⟩ := List.mem_filter.1 he
    obtain ⟨hs, halive⟩ := World.mem_live.1 he
    exact ⟨k, s, hs, halive, hrole, hc⟩
  · rintro ⟨k, s, hs, halive, hrole, hc⟩
    exact ⟨(k, s), List.mem_filter.2 ⟨World.mem_live.2 ⟨hs, halive⟩, hrole⟩, hc⟩

theorem isOpen_terrain (w : World) (goal c : Cell) : (terrain w goal).isOpen c = true ↔ w.Enterable goal c := by
  have hblocked : (terrain w goal).blocked.contains c = false ↔ c ∉ staticCells w := by
    show (Std.HashSet.ofList (staticCells w)).contains c = false ↔ _
    rw [Std.HashSet.contains_ofList, ← Bool.not_eq_true, List.contains_iff_mem]
  unfold Terrain.isOpen World.Enterable
  simp only [Bool.and_eq_true, Bool.or_eq_true, Bool.not_eq_true', decide_eq_true_eq, beq_iff_eq, hblocked,
    mem_staticCells, not_exists, not_and, and_assoc]
  rfl

/-- Without a target there is no step. With one, the search for a path to the closest target comes
to an end, and what it finds is what the step is: zero on the goal or without a path, otherwise
the first of the headings in which a shortest path begins. -/
theorem pathStep_shortest (w : World) (key : Key) (rect : Rect) (t : Template) :
    match closestTargets w key rect t with
    | [] => pathStep w key rect t = none
    | target :: _ =>
      let start := rect.cell w.blockSize
      let goal := target.cell w.blockSize
      let ground := terrain w goal
      (∀ extra, (ground.search start (ground.depth + extra) ⟨[start], ∅⟩).Ended goal ∧
        ground.headingWithin (ground.depth + extra) start = ground.firstHeading start) ∧
      ((start = goal ∨ ¬∃ hs, Leads (w.Enterable goal) start hs goal) ∧ pathStep w key rect t = some .zero ∨
        start ≠ goal ∧ ∃ h, BeginsFirst (w.Enterable goal) start goal h ∧ pathStep w key rect t = some h.toVec) := by
  unfold pathStep
  cases closestTargets w key rect t with
  | nil => rfl
  | cons target _ =>
    dsimp only [List.head?_cons, Option.map_some]
    generalize rect.cell w.blockSize = start
    generalize target.cell w.blockSize = goal
    refine ⟨fun extra => ?_, ?_⟩
    · have henough := Nat.le_add_right (terrain w goal).depth extra
      exact ⟨Terrain.ended_search henough, Terrain.headingWithin_eq henough⟩
    · have henter : (fun c => (terrain w goal).isOpen c = true) = w.Enterable goal :=
        funext fun c => propext (isOpen_terrain w goal c)
      have hspec := (terrain w goal).headingWithin_spec start (Nat.le_refl _)
      rw [henter] at hspec
      unfold Terrain.firstHeading
      generalize (terrain w goal).headingWithin (terrain w goal).depth start = found at hspec ⊢
      cases found with
      | none => exact .inl ⟨hspec, rfl⟩
      | some h => exact .inr ⟨hspec.1, h, hspec.2, rfl⟩

end Pursuit

end SpriteGame
