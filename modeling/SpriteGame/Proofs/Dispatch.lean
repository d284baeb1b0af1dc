import Mathlib.Data.List.Induction
import SpriteGame.Proofs.Compilation
/-!
# The dispatch table is the closure of the rules

A rule reaches a pair of types when each of them is the type that it names, or inherits
from it. `dispatch_closure`: the dispatch table of a compiled rule set has one entry for
each pair that some rule reaches, with exactly the rules that reach it, and its entries
stand in the order of their first rules, then of their types.

The table is made rule by rule and pair by pair. Noting a rule for its pairs adds it to
the entries that there are and brings in the other pairs at the end (`foldl_note`); by
induction on the rules from the last one the table is what `between` says of each of its
`keys` (`table_eq`).
-/
namespace SpriteGame

/-! ## Pairs that a rule reaches -/

namespace Interaction

/-- A rule reaches a pair of types. The screen edge stands for itself alone. -/
def Reaches (registry : Registry) (r : Interaction) (a b : TypeId) : Prop :=
  (a = r.first ∨ r.first ∈ registry.ancestors a) ∧
    (r.second = Registry.edge ∧ b = Registry.edge ∨
      r.second ≠ Registry.edge ∧ (b = r.second ∨ r.second ∈ registry.ancestors b))

/-- Whether a rule covers a pair of types. -/
def covers (registry : Registry) (r : Interaction) (first second : TypeId) : Bool :=
  (registry.descendants r.first).contains first && (r.seconds registry).contains second

/-- The order of pairs of types. -/
def PairLt (x y : TypeId × TypeId) : Prop := x.1 < y.1 ∨ x.1 = y.1 ∧ x.2 < y.2

section

variable {registry : Registry} (hr : registry.WellFormed) (r : Interaction)
include hr

theorem covers_iff (hfirst : r.first < registry.size) (hsecond : r.second < registry.size) (a b : TypeId) :
    r.covers registry a b = true ↔ r.Reaches registry a b := by
  unfold covers Reaches seconds
  rw [Bool.and_eq_true, List.contains_iff_mem, List.contains_iff_mem, hr.mem_descendants hfirst]
  refine and_congr_right fun _ => ?_
  by_cases he : r.second = Registry.edge
  · simp [he]
  · simp [he, hr.mem_descendants hsecond]

omit hr in
theorem mem_pairs (x : TypeId × TypeId) : x ∈ r.pairs registry ↔ r.covers registry x.1 x.2 = true := by
  unfold pairs covers
  rw [Bool.and_eq_true, List.contains_iff_mem, List.contains_iff_mem]
  constructor
  · intro h
    obtain ⟨a, ha, hx⟩ := List.mem_flatMap.1 h
    obtain ⟨b, hb, rfl⟩ := List.mem_map.1 hx
    exact ⟨ha, hb⟩
  · rintro ⟨ha, hb⟩
    exact List.mem_flatMap.2 ⟨x.1, ha, List.mem_map.2 ⟨x.2, hb, rfl⟩⟩

theorem ascending_seconds : (r.seconds registry).Pairwise (· < ·) := by
  unfold seconds
  split
  · exact List.pairwise_singleton _ _
  · exact hr.ascending _

theorem ascending_pairs : (r.pairs registry).Pairwise PairLt := by
  unfold pairs
  refine List.pairwise_flatMap.2 ⟨fun a _ => ?_, (hr.ascending r.first).imp fun hab x hx y hy => ?_⟩
  · exact List.pairwise_map.2 ((ascending_seconds hr r).imp fun h => .inr ⟨rfl, h⟩)
  · obtain ⟨_, -, rfl⟩ := List.mem_map.1 hx
    obtain ⟨_, -, rfl⟩ := List.mem_map.1 hy
    exact .inl hab

theorem nodup_pairs : (r.pairs registry).Nodup := by
  refine (ascending_pairs hr r).imp fun {x y} h he => ?_
  subst he
  rcases h with h | ⟨-, h⟩ <;> exact Nat.lt_irrefl _ h

end

end Interaction

/-! ## The entries of the table -/

theorem eraseDups_of_nodup {α : Type} [BEq α] [LawfulBEq α] {l : List α} (h : l.Nodup) :
    l.eraseDups = l := by
  induction l with
  | nil => rfl
  | cons a l ih =>
    obtain ⟨ha, hl⟩ := List.nodup_cons.1 h
    rw [List.eraseDups_cons, List.filter_eq_self.2, ih hl]
    intro b hb
    have hne : b ≠ a := fun he => ha (he ▸ hb)
    simp [hne]

namespace Pairing

variable (registry : Registry)

/-- The pairs of types that some rule covers, each where the first such rule brings it in. -/
def keys (rules : List Interaction) : List (TypeId × TypeId) :=
  (rules.flatMap (·.pairs registry)).eraseDups

/-- The rules that cover a pair of types. -/
def between (rules : List Interaction) (pair : TypeId × TypeId) : Pairing where
  first := pair.1
  second := pair.2
  rules := (rules.zipIdx.filter fun (r, _) => r.covers registry pair.1 pair.2).map (·.2)

theorem mem_keys (rules : List Interaction) (x : TypeId × TypeId) :
    x ∈ keys registry rules ↔ ∃ r ∈ rules, r.covers registry x.1 x.2 = true := by
  unfold keys
  rw [List.mem_eraseDups, List.mem_flatMap]
  simp only [Interaction.mem_pairs]

/-- One more rule brings in the pairs that no rule before it reaches, at the end. -/
theorem keys_concat {registry : Registry} (hr : registry.WellFormed) (rules : List Interaction)
    (r : Interaction) :
    keys registry (rules ++ [r]) =
      keys registry rules ++ (r.pairs registry).filter fun x => !(keys registry rules).elem x := by
  have helem : ∀ x, (rules.flatMap (·.pairs registry)).elem x = (keys registry rules).elem x := by
    intro x
    unfold keys
    rw [Bool.eq_iff_iff, List.elem_iff, List.elem_iff, List.mem_eraseDups]
  unfold keys
  rw [List.flatMap_append, List.flatMap_singleton, List.eraseDups_append]
  congr 1
  refine (eraseDups_of_nodup ((Interaction.nodup_pairs hr r).filter _)).trans ?_
  exact List.filter_congr fun x _ => congrArg _ (helem x)

theorem nodup_keys {registry : Registry} (hr : registry.WellFormed) (rules : List Interaction) :
    (keys registry rules).Nodup := by
  induction rules using List.reverseRecOn with
  | nil => exact List.nodup_nil
  | append_singleton rules r ih =>
    rw [keys_concat hr]
    refine List.nodup_append.2 ⟨ih, (Interaction.nodup_pairs hr r).filter _, ?_⟩
    rintro x hx y hy rfl
    have hnew := (List.mem_filter.1 hy).2
    simp [hx] at hnew

/-! ## The rules of an entry -/

theorem mem_rules_between (rules : List Interaction) (x : TypeId × TypeId) (i : Nat) :
    i ∈ (between registry rules x).rules ↔
      ∃ r, rules[i]? = some r ∧ r.covers registry x.1 x.2 = true := by
  unfold between
  rw [List.mem_map]
  constructor
  · rintro ⟨⟨r, j⟩, hm, rfl⟩
    obtain ⟨hz, hc⟩ := List.mem_filter.1 hm
    exact ⟨r, List.mem_zipIdx_iff_getElem?.1 hz, hc⟩
  · rintro ⟨r, hi, hc⟩
    exact ⟨(r, i), List.mem_filter.2 ⟨List.mem_zipIdx_iff_getElem?.2 hi, hc⟩, rfl⟩

theorem ascending_rules_between (rules : List Interaction) (x : TypeId × TypeId) :
    (between registry rules x).rules.Pairwise (· < ·) := by
  have hall : ((rules.zipIdx).map (·.2)).Pairwise (· < ·) := by
    rw [List.zipIdx_map_snd]
    exact List.pairwise_lt_range'
  exact hall.sublist (List.filter_sublist.map _)

theorem rules_between_concat (rules : List Interaction) (r : Interaction) (x : TypeId × TypeId) :
    (between registry (rules ++ [r]) x).rules =
      (between registry rules x).rules ++ if r.covers registry x.1 x.2 then [rules.length] else [] := by
  unfold between
  simp only [List.zipIdx_append, List.filter_append, List.map_append]
  congr 1
  cases h : r.covers registry x.1 x.2 <;> simp [h]

/-- No rule covers a pair that is not among the keys. -/
theorem rules_between_of_not_mem {rules : List Interaction} {x : TypeId × TypeId} (h : x ∉ keys registry rules) :
    (between registry rules x).rules = [] := by
  refine List.eq_nil_iff_forall_not_mem.2 fun i hi => h ?_
  obtain ⟨r, hr, hc⟩ := (mem_rules_between registry rules x i).1 hi
  exact (mem_keys registry rules x).2 ⟨r, List.mem_of_getElem? hr, hc⟩

/-! ## How the table is made -/

/-- The entry of a pair of types with the rules that a function gives it. -/
def entry (rules : TypeId × TypeId → List Nat) (x : TypeId × TypeId) : Pairing := ⟨x.1, x.2, rules x⟩

theorem map_entry_congr {f g : TypeId × TypeId → List Nat} {ks : List (TypeId × TypeId)} (h : ∀ x ∈ ks, f x = g x) :
    ks.map (entry f) = ks.map (entry g) := by
  refine List.map_congr_left fun x hx => ?_
  unfold entry
  rw [h x hx]

/-- Noting a rule for one pair. -/
theorem note_map_entry {ks : List (TypeId × TypeId)} (hks : ks.Nodup) {g : TypeId × TypeId → List Nat}
    {x : TypeId × TypeId} (hg : x ∉ ks → g x = []) (i : Nat) :
    note i x (ks.map (entry g)) =
      (if x ∈ ks then ks else ks ++ [x]).map (entry fun y => if y = x then g y ++ [i] else g y) := by
  induction ks with
  | nil =>
    rw [if_neg List.not_mem_nil]
    simp [note, entry, hg List.not_mem_nil]
  | cons k ks ih =>
    obtain ⟨hk, hnodup⟩ := List.nodup_cons.1 hks
    rw [List.map_cons]
    unfold note
    by_cases hkx : k = x
    · -- The entry is found; those after it are of other pairs.
      subst hkx
      rw [if_pos ⟨rfl, rfl⟩, if_pos List.mem_cons_self, List.map_cons]
      congr 1
      · simp [entry]
      · refine map_entry_congr fun y hy => ?_
        have hne : y ≠ k := fun he => hk (he ▸ hy)
        rw [if_neg hne]
    · have hne : ¬((entry g k).first = x.1 ∧ (entry g k).second = x.2) :=
        fun h => hkx (Prod.ext h.1 h.2)
      have hmem : x ∈ k :: ks ↔ x ∈ ks := by
        rw [List.mem_cons]
        exact or_iff_right fun h => hkx h.symm
      rw [if_neg hne, ih hnodup fun h => hg ((not_congr hmem).2 h)]
      simp only [hmem]
      have hhead : entry g k = entry (fun y => if y = x then g y ++ [i] else g y) k := by
        simp [entry, hkx]
      split
      · rw [List.map_cons, hhead]
      · rw [List.cons_append, List.map_cons, hhead]

/-- Noting a rule for all its pairs: what has an entry gets the rule at its end, and the
rest comes in at the end of the table. -/
theorem foldl_note {ps ks : List (TypeId × TypeId)} (hps : ps.Nodup) (hks : ks.Nodup)
    {g : TypeId × TypeId → List Nat} (hg : ∀ x, x ∉ ks → g x = []) (i : Nat) :
    ps.foldl (fun table x => note i x table) (ks.map (entry g)) =
      (ks ++ ps.filter fun x => !ks.elem x).map (entry fun y => if y ∈ ps then g y ++ [i] else g y) := by
  induction ps generalizing ks g with
  | nil => simp
  | cons x ps ih =>
    obtain ⟨hx, hnodup⟩ := List.nodup_cons.1 hps
    have hrules : (fun y => if y ∈ x :: ps then g y ++ [i] else g y) =
        fun y => if y ∈ ps then (if y = x then g y ++ [i] else g y) ++ [i] else if y = x then g y ++ [i] else g y := by
      funext y
      by_cases hy : y = x
      · subst hy
        simp [hx]
      · simp [hy]
    rw [List.foldl_cons, note_map_entry hks (hg x) i, hrules]
    by_cases hmem : x ∈ ks
    · rw [if_pos hmem, ih hnodup hks fun y hy => ?_]
      · simp [hmem]
      · have hne : y ≠ x := fun he => hy (he ▸ hmem)
        rw [if_neg hne, hg y hy]
    · have hks' : (ks ++ [x]).Nodup := by
        refine List.nodup_append.2 ⟨hks, List.pairwise_singleton .., ?_⟩
        rintro a ha b hb rfl
        exact hmem (List.mem_singleton.1 hb ▸ ha)
      rw [if_neg hmem, ih hnodup hks' fun y hy => ?_]
      · have hsame : ps.filter (fun y => !(ks ++ [x]).elem y) = ps.filter fun y => !ks.elem y := by
          refine List.filter_congr fun y hy => ?_
          have hne : y ≠ x := fun he => hx (he ▸ hy)
          simp [hne]
        rw [hsame]
        simp [hmem]
      · rw [List.mem_append, not_or] at hy
        rw [if_neg fun he => hy.2 (List.mem_singleton.2 he), hg y hy.1]

theorem table_eq {registry : Registry} (hr : registry.WellFormed) (rules : List Interaction) :
    table registry rules = (keys registry rules).map (between registry rules) := by
  induction rules using List.reverseRecOn with
  | nil => rfl
  | append_singleton rules r ih =>
    have hstep : table registry (rules ++ [r]) = noteAll registry (table registry rules) (r, rules.length) := by
      unfold table
      rw [List.zipIdx_append, List.foldl_append]
      simp
    have hentry : ∀ l, between registry l = entry fun x => (between registry l x).rules := fun _ => rfl
    -- The last rule is noted in the table of those before it.
    rw [hstep, ih, hentry rules, hentry (rules ++ [r])]
    unfold noteAll
    rw [foldl_note (Interaction.nodup_pairs hr r) (nodup_keys hr rules)
      (fun x => rules_between_of_not_mem registry), keys_concat hr]
    refine map_entry_congr fun y _ => ?_
    rw [rules_between_concat]
    simp only [Interaction.mem_pairs]
    split <;> simp

/-! ## The order of the entries -/

/-- An entry stands before another one: by its first rule, then by its types. -/
def Before (p q : Pairing) : Prop :=
  ∃ i j, p.rules.head? = some i ∧ q.rules.head? = some j ∧
    (i < j ∨ i = j ∧ (p.first < q.first ∨ p.first = q.first ∧ p.second < q.second))

theorem ordered_table {registry : Registry} (hr : registry.WellFormed) (rules : List Interaction) :
    (table registry rules).Pairwise Before := by
  rw [table_eq hr, List.pairwise_map]
  induction rules using List.reverseRecOn with
  | nil => exact List.Pairwise.nil
  | append_singleton rules r ih =>
    -- An entry keeps its first rule, and that of a new entry is the new rule.
    have hold : ∀ {x i}, (between registry rules x).rules.head? = some i →
        (between registry (rules ++ [r]) x).rules.head? = some i := by
      intro x i h
      rw [rules_between_concat, List.head?_append, h]
      rfl
    have hnew : ∀ x ∈ (r.pairs registry).filter fun x => !(keys registry rules).elem x,
        (between registry (rules ++ [r]) x).rules.head? = some rules.length := by
      intro x hx
      obtain ⟨hpair, hfresh⟩ := List.mem_filter.1 hx
      have hnone : x ∉ keys registry rules := by simpa using hfresh
      rw [rules_between_concat, rules_between_of_not_mem registry hnone, (r.mem_pairs x).1 hpair]
      rfl
    rw [keys_concat hr]
    refine List.pairwise_append.2 ⟨ih.imp ?_, ?_, fun x hx y hy => ?_⟩
    · rintro x y ⟨i, j, hi, hj, h⟩
      exact ⟨i, j, hold hi, hold hj, h⟩
    · refine (((Interaction.ascending_pairs hr r).filter _).imp_of_mem fun hx hy h => ?_)
      exact ⟨_, _, hnew _ hx, hnew _ hy, .inr ⟨rfl, h⟩⟩
    · -- An entry from before starts with an older rule.
      obtain ⟨q, hq, hc⟩ := (mem_keys registry rules x).1 hx
      obtain ⟨k, hk⟩ := List.getElem?_of_mem hq
      have hmem : k ∈ (between registry rules x).rules := (mem_rules_between registry rules x k).2 ⟨q, hk, hc⟩
      obtain ⟨i, hi⟩ : ∃ i, (between registry rules x).rules.head? = some i := by
        cases hl : (between registry rules x).rules with
        | nil => rw [hl] at hmem; cases hmem
        | cons i l => exact ⟨i, rfl⟩
      obtain ⟨s, hs, -⟩ := (mem_rules_between registry rules x i).1 (List.mem_of_head? hi)
      obtain ⟨hlt, -⟩ := List.getElem?_eq_some_iff.1 hs
      exact ⟨i, rules.length, hold hi, hnew y hy, .inl hlt⟩

/-! ## Looking entries up -/

theorem find?_map_between (rules : List Interaction) (l : List (TypeId × TypeId)) (a b : TypeId) :
    (l.map (between registry rules)).find? (fun p => p.first = a && p.second = b) =
      if (a, b) ∈ l then some (between registry rules (a, b)) else none := by
  induction l with
  | nil => rfl
  | cons x l ih =>
    obtain ⟨a', b'⟩ := x
    rw [List.map_cons, List.find?_cons, ih]
    by_cases h : a' = a ∧ b' = b
    · obtain ⟨rfl, rfl⟩ := h
      simp [between]
    · have hne : (a, b) ≠ (a', b') := fun he => h ⟨(Prod.mk.inj he).1.symm, (Prod.mk.inj he).2.symm⟩
      have hf : (decide (a' = a) && decide (b' = b)) = false := by
        simpa using h
      show (match (decide (a' = a) && decide (b' = b)) with
        | true => some (between registry rules (a', b'))
        | false => _) = _
      simp [hf, hne]

end Pairing

namespace Ruleset

variable (d : Description) (settings : Settings)

theorem dispatch_compile :
    (compile d settings).value.dispatch.toList =
      Pairing.table (compile d settings).value.registry (compile d settings).value.interactions.toList := rfl

/-- A rule of a compiled rule set covers what it reaches. -/
theorem covers_iff_of_mem {rule : Interaction} (h : rule ∈ (compile d settings).value.interactions)
    (a b : TypeId) :
    rule.covers (compile d settings).value.registry a b = true ↔
      rule.Reaches (compile d settings).value.registry a b := by
  obtain ⟨hfirst, hsecond⟩ := types_lt_compile h
  exact Interaction.covers_iff (wellFormed_compile d settings) rule hfirst hsecond a b

theorem pair?_compile (a b : TypeId) :
    (compile d settings).value.pair? a b =
      if (a, b) ∈ Pairing.keys (compile d settings).value.registry
        (compile d settings).value.interactions.toList
      then some (Pairing.between (compile d settings).value.registry
        (compile d settings).value.interactions.toList (a, b))
      else none := by
  unfold pair?
  rw [← Array.find?_toList, dispatch_compile, Pairing.table_eq (wellFormed_compile d settings)]
  exact Pairing.find?_map_between ..

theorem mem_keys_compile (a b : TypeId) :
    (a, b) ∈ Pairing.keys (compile d settings).value.registry (compile d settings).value.interactions.toList ↔
      ∃ rule ∈ (compile d settings).value.interactions,
        rule.Reaches (compile d settings).value.registry a b := by
  rw [Pairing.mem_keys]
  constructor
  · rintro ⟨rule, hm, hc⟩
    exact ⟨rule, Array.mem_toList_iff.1 hm, (covers_iff_of_mem d settings (Array.mem_toList_iff.1 hm) a b).1 hc⟩
  · rintro ⟨rule, hm, hc⟩
    exact ⟨rule, Array.mem_toList_iff.2 hm, (covers_iff_of_mem d settings hm a b).2 hc⟩

theorem mem_rules_compile (a b : TypeId) (i : Nat) :
    i ∈ (Pairing.between (compile d settings).value.registry
        (compile d settings).value.interactions.toList (a, b)).rules ↔
      ∃ rule, (compile d settings).value.interactions[i]? = some rule ∧
        rule.Reaches (compile d settings).value.registry a b := by
  rw [Pairing.mem_rules_between]
  simp only [Array.getElem?_toList]
  refine exists_congr fun rule => and_congr_right fun hi => ?_
  exact covers_iff_of_mem d settings (Array.mem_of_getElem? hi) a b

/-- A place in the table holds the rules between two types that some rule reaches. -/
theorem eq_between_of_mem_dispatch {p : Pairing} (h : p ∈ (compile d settings).value.dispatch) :
    p = Pairing.between (compile d settings).value.registry (compile d settings).value.interactions.toList
        (p.first, p.second) ∧
      ∃ rule ∈ (compile d settings).value.interactions,
        rule.Reaches (compile d settings).value.registry p.first p.second := by
  rw [← Array.mem_toList_iff, dispatch_compile, Pairing.table_eq (wellFormed_compile d settings)] at h
  obtain ⟨⟨a, b⟩, hkey, rfl⟩ := List.mem_map.1 h
  exact ⟨rfl, (mem_keys_compile d settings a b).1 hkey⟩

theorem isSome_pair?_compile (a b : TypeId) :
    ((compile d settings).value.pair? a b).isSome = true ↔
      ∃ rule ∈ (compile d settings).value.interactions,
        rule.Reaches (compile d settings).value.registry a b := by
  rw [pair?_compile, ← mem_keys_compile]
  split <;> simp_all

theorem entry_compile {a b : TypeId} {p : Pairing} (h : (compile d settings).value.pair? a b = some p) :
    p.first = a ∧ p.second = b ∧ p.rules.Pairwise (· < ·) ∧
      ∀ i, i ∈ p.rules ↔ ∃ rule, (compile d settings).value.interactions[i]? = some rule ∧
        rule.Reaches (compile d settings).value.registry a b := by
  rw [pair?_compile] at h
  split at h
  · obtain rfl := Option.some.inj h
    exact ⟨rfl, rfl, Pairing.ascending_rules_between .., mem_rules_compile d settings a b⟩
  · cases h

theorem nodup_dispatch_compile :
    ((compile d settings).value.dispatch.toList.map fun p => (p.first, p.second)).Nodup := by
  have hwf := wellFormed_compile d settings
  have hkeys : (compile d settings).value.dispatch.toList.map (fun p => (p.first, p.second)) =
      Pairing.keys (compile d settings).value.registry (compile d settings).value.interactions.toList := by
    rw [dispatch_compile, Pairing.table_eq hwf]
    exact (List.map_map ..).trans (List.map_id _)
  rw [hkeys]
  exact Pairing.nodup_keys hwf _

/-- The dispatch table of a rule set is the closure of its rules. -/
structure Closed (r : Ruleset) : Prop where
  /-- A pair of types has an entry iff some rule reaches it. -/
  reached : ∀ a b, (r.pair? a b).isSome = true ↔ ∃ rule ∈ r.interactions, rule.Reaches r.registry a b
  /-- The entry is for the two types and has, ascending, the numbers of the rules that reach
  them. -/
  entry : ∀ a b p, r.pair? a b = some p →
    p.first = a ∧ p.second = b ∧ p.rules.Pairwise (· < ·) ∧
      ∀ i, i ∈ p.rules ↔ ∃ rule, r.interactions[i]? = some rule ∧ rule.Reaches r.registry a b
  /-- No pair of types has two entries. -/
  unique : (r.dispatch.toList.map fun p => (p.first, p.second)).Nodup
  /-- Entries stand in the order of their first rules, then of their types. -/
  ordered : r.dispatch.toList.Pairwise Pairing.Before

/-- The dispatch table of a description is the closure of its rules under inheritance. -/
theorem dispatch_closure : (compile d settings).value.Closed where
  reached := isSome_pair?_compile d settings
  entry _ _ _ h := entry_compile d settings h
  unique := nodup_dispatch_compile d settings
  ordered := by
    rw [dispatch_compile]
    exact Pairing.ordered_table (wellFormed_compile d settings) _

end Ruleset

end SpriteGame
