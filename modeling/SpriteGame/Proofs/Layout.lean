import Mathlib.Data.List.DropRight
import SpriteGame.Proofs.Births
import SpriteGame.Proofs.Complete
import SpriteGame.Proofs.Report
/-!
# What a level places

A character of a level places a sprite of every type that it is mapped to, on the cell that it
stands on. `Placement.Occurs` says where a level does so and `Placement.Before` in which order
the places are gone through: row by row, cell by cell and type by type. A start has just the
sprites of these placements, numbered in this order, except that of a singleton only the first
one counts (`build_layout`).
-/
namespace SpriteGame

/-! ## Rows -/

namespace Level

/-- What is dropped at the end of a list is all that fits there. -/
theorem dropWhile_end {α : Type} (p : α → Bool) (l : List α) :
    ∃ dropped, l = (l.reverse.dropWhile p).reverse ++ dropped ∧ (∀ a ∈ dropped, p a = true) ∧
      ∀ a ∈ (l.reverse.dropWhile p).reverse.getLast?, p a = false := by
  refine ⟨l.rtakeWhile p, List.rdropWhile_append_rtakeWhile.symm, fun a => List.mem_rtakeWhile_imp, fun a ha => ?_⟩
  obtain ⟨hne, rfl⟩ := List.mem_getLast?_eq_getLast ha
  exact Bool.eq_false_iff.2 (List.rdropWhile_last_not p l hne)

/-- A line loses all carriage returns at its end, and nothing else. -/
theorem dropReturns_eq (line : List Char) :
    ∃ n, line = dropReturns line ++ List.replicate n '\r' ∧ (dropReturns line).getLast? ≠ some '\r' := by
  obtain ⟨dropped, hline, hdropped, hlast⟩ := dropWhile_end (· = '\r') line
  refine ⟨dropped.length, ?_, fun h => ?_⟩
  · have hreturns : dropped = List.replicate dropped.length '\r' :=
      List.eq_replicate_of_mem fun c hc => of_decide_eq_true (hdropped c hc)
    rw [← hreturns]
    exact hline
  · exact absurd rfl (of_decide_eq_false (hlast _ h))

/-- The rows are those of the lines, up to the last one that is not blank. -/
theorem rows_eq (level : List Char) :
    ∃ blanks, (Text.lines level).map dropReturns = rows level ++ blanks ∧
      (∀ row ∈ blanks, ∀ c ∈ row, Text.isBlank c = true) ∧
      ∀ row ∈ (rows level).getLast?, ∃ c ∈ row, Text.isBlank c = false := by
  obtain ⟨blanks, hlines, hblanks, hlast⟩ :=
    dropWhile_end (·.all Text.isBlank) ((Text.lines level).map dropReturns)
  refine ⟨blanks, hlines, fun row hrow c hc => List.all_eq_true.1 (hblanks row hrow) c hc, fun row hrow => ?_⟩
  simpa using hlast row hrow

theorem foldl_max (rows : List (List Char)) (n : Nat) :
    n ≤ rows.foldl (fun n row => max n row.length) n ∧
      (∀ row ∈ rows, row.length ≤ rows.foldl (fun n row => max n row.length) n) ∧
      (rows.foldl (fun n row => max n row.length) n = n ∨
        ∃ row ∈ rows, row.length = rows.foldl (fun n row => max n row.length) n) := by
  induction rows generalizing n with
  | nil => exact ⟨Nat.le_refl n, by simp, .inl rfl⟩
  | cons row rows ih =>
    obtain ⟨hstart, hrows, hreached⟩ := ih (max n row.length)
    rw [List.foldl_cons, List.forall_mem_cons]
    refine ⟨by omega, ⟨by omega, hrows⟩, ?_⟩
    rcases hreached with hreached | ⟨r, hr, hlength⟩
    · rcases Nat.le_total n row.length with h | h
      · exact .inr ⟨row, List.mem_cons_self, by omega⟩
      · exact .inl (by omega)
    · exact .inr ⟨r, List.mem_cons_of_mem _ hr, hlength⟩

/-- The width is that of the longest row. -/
theorem width_eq (rows : List (List Char)) :
    (∀ row ∈ rows, row.length ≤ width rows) ∧ (rows = [] → width rows = 0) ∧
      (rows ≠ [] → ∃ row ∈ rows, row.length = width rows) := by
  obtain ⟨-, hrows, hreached⟩ := foldl_max rows 0
  refine ⟨hrows, fun h => by rw [h]; rfl, fun hne => ?_⟩
  rcases hreached with hzero | hreached
  · obtain ⟨row, hrow⟩ := List.exists_mem_of_ne_nil rows hne
    exact ⟨row, hrow, Nat.le_antisymm (hrows row hrow) (Nat.le_trans (Nat.le_of_eq hzero) (Nat.zero_le _))⟩
  · exact hreached

/-! ## Characters that are not mapped -/

/-- Without repetitions, elements keep the order in which they first occur. -/
theorem pairwise_eraseDups {α : Type} [DecidableEq α] (l : List α) (p : α → Bool) :
    (l.filter p).eraseDups.Pairwise fun a b => l.idxOf a < l.idxOf b := by
  induction l generalizing p with
  | nil => exact .nil
  | cons x l ih =>
    have hlater : ∀ q : α → Bool, (∀ a, q a = true → a ≠ x) →
        (l.filter q).eraseDups.Pairwise fun a b => (x :: l).idxOf a < (x :: l).idxOf b := by
      intro q hq
      refine (ih q).imp_of_mem fun {a b} ha hb hab => ?_
      have hne : ∀ {c}, c ∈ (l.filter q).eraseDups → x ≠ c := fun hc =>
        (hq _ (List.mem_filter.1 (List.mem_eraseDups.1 hc)).2).symm
      rw [List.idxOf_cons_ne _ (hne ha), List.idxOf_cons_ne _ (hne hb)]
      exact Nat.succ_lt_succ hab
    rw [List.filter_cons]
    split
    · rw [List.eraseDups_cons, List.filter_filter, List.pairwise_cons]
      refine ⟨fun b hb => ?_, hlater _ fun a ha => by simpa using (Bool.and_eq_true_iff.1 ha).1⟩
      have hne : x ≠ b := by
        rintro rfl
        simp at hb
      rw [List.idxOf_cons_self, List.idxOf_cons_ne _ hne]
      exact Nat.succ_pos _
    · next hx => exact hlater p fun a ha => by rintro rfl; exact hx ha

end Level

/-! ## Placements -/

/-- A sprite that a level places: where its cell is, how many types the character there places
before it, and its own type. -/
structure Placement where
  row : Nat
  col : Nat
  rank : Nat
  type : TypeId
  deriving DecidableEq

namespace Placement

/-- A level places the sprite. -/
def Occurs (rules : Ruleset) (rows : List (List Char)) (p : Placement) : Prop :=
  ∃ row c types, rows[p.row]? = some row ∧ row[p.col]? = some c ∧
    rules.levelMapping.get? c = some types ∧ types[p.rank]? = some p.type

/-- Rows are gone through from the top, cells from the left and types as they are mapped. -/
def Before (p q : Placement) : Prop :=
  p.row < q.row ∨ p.row = q.row ∧ (p.col < q.col ∨ p.col = q.col ∧ p.rank < q.rank)

instance (p q : Placement) : Decidable (p.Before q) := inferInstanceAs (Decidable (_ ∨ _))

/-- The sprite comes to be: it is not one more of a singleton. -/
def Counts (rules : Ruleset) (rows : List (List Char)) (p : Placement) : Prop :=
  p.Occurs rules rows ∧
    (rules.isSingleton p.type = true → ∀ q : Placement, q.Occurs rules rows → q.Before p → q.type ≠ p.type)

def request (block : Float32) (p : Placement) : SpawnRequest :=
  .plain p.type (Level.center block p.col p.row)

theorem Before.asymm {p q : Placement} (h : p.Before q) : ¬q.Before p := by
  unfold Before at h ⊢
  omega

/-- All placements of a level. -/
def all (rules : Ruleset) (rows : List (List Char)) : List Placement :=
  rows.zipIdx.flatMap fun r => r.1.zipIdx.flatMap fun c =>
    ((rules.levelMapping.get? c.1).getD []).zipIdx.map fun t => ⟨r.2, c.2, t.2, t.1⟩

variable {rules : Ruleset} {rows : List (List Char)}

theorem mem_all {p : Placement} : p ∈ all rules rows ↔ p.Occurs rules rows := by
  simp only [all, Occurs, List.mem_flatMap, List.mem_map, Prod.exists, List.mk_mem_zipIdx_iff_getElem?]
  constructor
  · rintro ⟨row, y, hrow, c, x, hc, type, k, htype, rfl⟩
    cases htypes : rules.levelMapping.get? c with
    | none => simp [htypes] at htype
    | some types =>
      rw [htypes] at htype
      exact ⟨row, c, types, hrow, hc, htypes, htype⟩
  · rintro ⟨row, c, types, hrow, hc, htypes, htype⟩
    exact ⟨row, p.row, hrow, c, p.col, hc, p.type, p.rank, by rwa [htypes], rfl⟩

theorem pairwise_all (rules : Ruleset) (rows : List (List Char)) : (all rules rows).Pairwise Before := by
  refine List.pairwise_flatMap.2 ⟨fun r _ => List.pairwise_flatMap.2 ⟨fun c _ => ?_, ?_⟩, ?_⟩
  · exact List.pairwise_map.2 ((World.pairwise_zipIdx _).imp fun h => .inr ⟨rfl, .inr ⟨rfl, h⟩⟩)
  · refine (World.pairwise_zipIdx _).imp fun h p hp q hq => .inr ?_
    obtain ⟨_, -, rfl⟩ := List.mem_map.1 hp
    obtain ⟨_, -, rfl⟩ := List.mem_map.1 hq
    exact ⟨rfl, .inl h⟩
  · refine (World.pairwise_zipIdx _).imp fun h p hp q hq => .inl ?_
    obtain ⟨_, -, hp⟩ := List.mem_flatMap.1 hp
    obtain ⟨_, -, hq⟩ := List.mem_flatMap.1 hq
    obtain ⟨_, -, rfl⟩ := List.mem_map.1 hp
    obtain ⟨_, -, rfl⟩ := List.mem_map.1 hq
    exact h

/-- What a level asks for is what it places, in that order. -/
theorem requests_eq (rules : Ruleset) (rows : List (List Char)) :
    Level.requests rules rows = (all rules rows).map (request rules.blockSize) := by
  have hcell : ∀ (types : List TypeId) (center : Vec),
      types.map (fun type => SpawnRequest.plain type center) =
        types.zipIdx.map fun t => SpawnRequest.plain t.1 center := fun types center => by
    calc types.map (fun type => SpawnRequest.plain type center)
        = (types.zipIdx.map (·.1)).map fun type => SpawnRequest.plain type center := by rw [List.zipIdx_map_fst]
      _ = types.zipIdx.map fun t => SpawnRequest.plain t.1 center := List.map_map
  simp only [Level.requests, Level.cells, all, List.flatMap_assoc, List.flatMap_map, List.map_flatMap, List.map_map, hcell]
  rfl

/-- What is before a placement is what is listed before it. -/
theorem mem_take_iff {l : List Placement} (hl : l.Pairwise Before) {i : Nat} {p : Placement} (hp : l[i]? = some p)
    {q : Placement} : q ∈ l.take i ↔ q ∈ l ∧ q.Before p := by
  obtain ⟨hi, hget⟩ := List.getElem?_eq_some_iff.1 hp
  have hsplit : l = l.take i ++ p :: l.drop (i + 1) := by
    rw [← hget, ← List.drop_eq_getElem_cons hi, List.take_append_drop]
  generalize l.take i = before, l.drop (i + 1) = after at hsplit
  subst hsplit
  obtain ⟨-, hlater, hbefore⟩ := List.pairwise_append.1 hl
  refine ⟨fun hq => ⟨List.mem_append_left _ hq, hbefore q hq p List.mem_cons_self⟩, fun ⟨hq, hqp⟩ => ?_⟩
  rcases List.mem_append.1 hq with hq | hq
  · exact hq
  · rcases List.mem_cons.1 hq with rfl | hq
    · exact absurd hqp hqp.asymm
    · exact absurd ((List.pairwise_cons.1 hlater).1 q hq) hqp.asymm

/-- Whether a placement of a level is not one more of a singleton. -/
def isFirst (rules : Ruleset) (rows : List (List Char)) (p : Placement) : Bool :=
  !(rules.isSingleton p.type && (all rules rows).any fun q => decide (q.Before p) && decide (q.type = p.type))

/-- The placements that come to be, in their order. -/
def counted (rules : Ruleset) (rows : List (List Char)) : List Placement :=
  (all rules rows).filter (isFirst rules rows)

theorem mem_counted {p : Placement} : p ∈ counted rules rows ↔ p.Counts rules rows := by
  unfold counted Counts isFirst
  rw [List.mem_filter, mem_all]
  refine and_congr_right fun _ => ?_
  simp only [Bool.not_eq_true', Bool.and_eq_false_imp, List.any_eq_false, mem_all, Bool.and_eq_true, decide_eq_true_eq,
    not_and]

theorem pairwise_counted (rules : Ruleset) (rows : List (List Char)) : (counted rules rows).Pairwise Before :=
  (pairwise_all rules rows).filter _

/-- On an empty field the requests of a level that come about are those of the placements that count. -/
theorem granted_requests (rules : Ruleset) (rows : List (List Char)) :
    rules.granted (fun _ => false) (Level.requests rules rows) =
      (counted rules rows).map (request rules.blockSize) := by
  have hgrants : ∀ p ∈ (all rules rows).zipIdx,
      rules.grants (fun _ => false) (((all rules rows).map (request rules.blockSize)).take p.2)
        (p.1.request rules.blockSize) = isFirst rules rows p.1 := by
    intro p hp
    have htake := fun q => @mem_take_iff _ (pairwise_all rules rows) _ _ (List.mk_mem_zipIdx_iff_getElem?.1 hp) q
    have hany : (((all rules rows).map (request rules.blockSize)).take p.2).any (·.type = p.1.type) =
        (all rules rows).any fun q => decide (q.Before p.1) && decide (q.type = p.1.type) := by
      rw [← List.map_take, List.any_map, Bool.eq_iff_iff, List.any_eq_true, List.any_eq_true]
      refine exists_congr fun q => ?_
      rw [htake q, Bool.and_eq_true, decide_eq_true_eq, and_assoc]
      rfl
    rw [Ruleset.grants, Bool.false_or]
    exact congrArg (fun b => !(_ && b)) hany
  have hall : (all rules rows).zipIdx.map (·.1) = all rules rows := List.zipIdx_map_fst ..
  calc rules.granted (fun _ => false) (Level.requests rules rows)
      = (((all rules rows).zipIdx.filter (isFirst rules rows ∘ (·.1))).map (·.1)).map (request rules.blockSize) := by
        rw [requests_eq, Ruleset.granted, List.zipIdx_map, List.filter_map, List.map_map, List.map_map]
        exact congrArg (List.map _) (List.filter_congr hgrants)
    _ = (counted rules rows).map (request rules.blockSize) := by
        rw [← List.filter_map, hall, counted]

end Placement

/-! ## Building -/

namespace World

variable {rules : Ruleset} {level : String} {seed : UInt64} {w : World}

/-- The births of a start are the placements that count, with ids from one on. -/
theorem births_bare (rules : Ruleset) (seed : UInt64) (bounds : Rect) (rows : List (List Char)) :
    (bare rules seed bounds).births (Level.requests rules rows) =
      ((Placement.counted rules rows).zipIdx 1).map fun b => (b.1.request rules.blockSize, b.2) := by
  have hpresent : (bare rules seed bounds).present = fun _ => false := by
    funext type
    rw [present, group_bare]
    rfl
  rw [births, hpresent]
  show (rules.granted (fun _ => false) (Level.requests rules rows)).zipIdx 1 = _
  rw [Placement.granted_requests, List.zipIdx_map]
  rfl

/-- What a level builds: the sprites of the placements that count, and nothing else. -/
theorem group_build (hrules : rules.Aligned)
    (hmapped : ∀ c types, rules.levelMapping.get? c = some types → ∀ type ∈ types, type < rules.registry.size)
    (h : build rules level seed = .ok w) :
    w.nextId = (Placement.counted rules (Level.rows level.toList)).length + 1 ∧
    ∀ type t, rules.template? type = some t →
      w.group type =
        (((Placement.counted rules (Level.rows level.toList)).zipIdx 1).filter (·.1.type = type)).map fun b =>
          (b.1.request rules.blockSize).make b.2 rules.blockSize t := by
  obtain ⟨-, rfl⟩ := build_eq_ok_iff.1 h
  have hrequests : ∀ r ∈ Level.requests rules (Level.rows level.toList), r.type < rules.registry.size := by
    rw [Placement.requests_eq]
    rintro r hr
    obtain ⟨p, hp, rfl⟩ := List.mem_map.1 hr
    obtain ⟨row, c, types, -, -, htypes, htype⟩ := Placement.mem_all.1 hp
    exact hmapped c types htypes p.type (List.mem_of_getElem? htype)
  obtain ⟨hnext, hgroups⟩ := group_foldl_instantiate_eq
    (w := bare rules seed (Level.bounds rules.blockSize (Level.rows level.toList))) hrules Array.size_replicate hrequests
  rw [births_bare] at hnext hgroups
  refine ⟨?_, fun type t ht => ?_⟩
  · rw [List.length_map, List.length_zipIdx] at hnext
    rw [nextId_withActions, hnext]
    exact Nat.add_comm 1 _
  · have hgroup := hgroups type t ht
    rw [group_bare, List.nil_append, newcomers, List.filter_map, List.map_map] at hgroup
    rw [group_withActions, hgroup]
    rfl

theorem extends_build (h : build rules level seed = .ok w) :
    (bare rules seed (Level.bounds rules.blockSize (Level.rows level.toList))).Extends w := by
  obtain ⟨-, rfl⟩ := build_eq_ok_iff.1 h
  exact (extends_foldl_instantiate _ _).trans (extends_withActions _)

/-- A world is laid out by a list of placements, numbered from one on. -/
structure LaidOut (rules : Ruleset) (rows : List (List Char)) (ps : List Placement) (w : World) : Prop where
  counts : ∀ p, p ∈ ps ↔ p.Counts rules rows
  ordered : ps.Pairwise Placement.Before
  size : w.groups.size = rules.registry.size
  group : ∀ type t, rules.template? type = some t →
    w.group type = ((ps.zipIdx 1).filter (·.1.type = type)).map fun b =>
      (b.1.request rules.blockSize).make b.2 rules.blockSize t
  nextId : w.nextId = ps.length + 1
  spawns : w.spawns = []
  bounds : w.bounds =
    ⟨0, 0, Float32.ofNat (Level.width rows) * rules.blockSize, Float32.ofNat rows.length * rules.blockSize⟩

/-- How a level is built. Its rows are its lines without the carriage returns at their ends, up to
the last one that is not blank. It is rejected just if they have a character that is neither blank
nor mapped; then all such characters are reported, each once and in the order in which they first
occur. Otherwise the world has a sprite for each placement that counts, on its cell and numbered in
their order, and no others; it is as wide as the longest row and as high as there are rows. -/
theorem build_layout (d : Description) (settings : Settings) (level : String) (seed : UInt64) :
    let rules := (Ruleset.compile d settings).value
    let rows := Level.rows level.toList
    (∀ line, ∃ n, line = Level.dropReturns line ++ List.replicate n '\r' ∧
      (Level.dropReturns line).getLast? ≠ some '\r') ∧
    (∃ blanks, (Text.lines level.toList).map Level.dropReturns = rows ++ blanks ∧
      (∀ row ∈ blanks, ∀ c ∈ row, Text.isBlank c = true) ∧
      ∀ row ∈ rows.getLast?, ∃ c ∈ row, Text.isBlank c = false) ∧
    ((∃ es, build rules level seed = .error es) ↔ ∃ c, Level.Undefined rules level c) ∧
    (∀ es, build rules level seed = .error es → ∃ cs : List Char, es = cs.map .undefinedSymbol ∧
      (∀ c, c ∈ cs ↔ Level.Undefined rules level c) ∧
      cs.Pairwise fun a b => rows.flatten.idxOf a < rows.flatten.idxOf b) ∧
    (∀ w, build rules level seed = .ok w → ∃ ps, LaidOut rules rows ps w) ∧
    (∀ (p : Placement) id t, ((p.request rules.blockSize).make id rules.blockSize t).id = id ∧
      (p.request rules.blockSize).Meets rules.blockSize t ((p.request rules.blockSize).make id rules.blockSize t)) ∧
    (∀ row ∈ rows, row.length ≤ Level.width rows) ∧ (rows = [] → Level.width rows = 0) ∧
    (rows ≠ [] → ∃ row ∈ rows, row.length = Level.width rows) := by
  intro rules rows
  have haligned : rules.Aligned := Ruleset.aligned_compile d settings
  refine ⟨Level.dropReturns_eq, Level.rows_eq _, ⟨fun ⟨es, hes⟩ => ?_, fun ⟨c, hc⟩ => ?_⟩, fun es hes => ?_,
    fun w hw => ?_, fun p id t => ⟨congrArg Prod.fst (SpawnRequest.tag_make (p.request _) id _ t), SpawnRequest.meets_make ..⟩,
    Level.width_eq rows⟩
  · obtain ⟨c, hc⟩ := List.exists_mem_of_ne_nil _ (build_eq_error_iff.1 hes).1
    exact ⟨c, Level.mem_undefinedSymbols.1 hc⟩
  · exact ⟨_, build_eq_error_iff.2 ⟨List.ne_nil_of_mem (Level.mem_undefinedSymbols.2 hc), rfl⟩⟩
  · exact ⟨_, (build_eq_error_iff.1 hes).2, fun c => Level.mem_undefinedSymbols, Level.pairwise_eraseDups _ _⟩
  · obtain ⟨hnext, hgroups⟩ := group_build haligned (fun c types => Ruleset.type_lt_of_mapped) hw
    have hstart := extends_build hw
    exact ⟨_, fun p => Placement.mem_counted, Placement.pairwise_counted rules rows, hstart.size.trans Array.size_replicate,
      hgroups, hnext, hstart.spawns, hstart.bounds⟩

/-- Of the two kings of a level only the first one is placed; two characters that stand for nothing
are reported. -/
theorem build_layout_throne :
    (∃ start, ∃ ps : List Placement, build (Ruleset.compile throne .default).value "kkA\nn  n\n " 7 = .ok start ∧
      (⟨0, 0, 0, 1⟩ : Placement) ∈ ps ∧ (⟨0, 1, 0, 1⟩ : Placement) ∉ ps ∧ start.nextId = ps.length + 1) ∧
    ∃ cs : List Char, build (Ruleset.compile throne .default).value "k?\n!A?" 7 = .error (cs.map .undefinedSymbol) ∧
      '?' ∈ cs ∧ '!' ∈ cs := by
  constructor
  · obtain ⟨start, h, -⟩ := @exists_start (Ruleset.compile throne .default).value "kkA\nn  n\n " 7
      (fun _ => true) (by decide +kernel)
    obtain ⟨-, -, -, -, hbuilt, -⟩ := build_layout throne .default "kkA\nn  n\n " 7
    obtain ⟨ps, hps⟩ := hbuilt start h
    refine ⟨start, ps, h, ?_, ?_, hps.nextId⟩ <;> rw [hps.counts, ← Placement.mem_counted] <;> decide +kernel
  · obtain ⟨-, -, hrejected, hreported, -⟩ := build_layout throne .default "k?\n!A?" 7
    have hask : Level.Undefined (Ruleset.compile throne .default).value "k?\n!A?" '?' := by decide +kernel
    have hshout : Level.Undefined (Ruleset.compile throne .default).value "k?\n!A?" '!' := by decide +kernel
    obtain ⟨es, hes⟩ := hrejected.2 ⟨'?', hask⟩
    obtain ⟨cs, rfl, hcs, -⟩ := hreported es hes
    exact ⟨cs, hes, (hcs _).2 hask, (hcs _).2 hshout⟩

end World

end SpriteGame
