/-!
# Sorted maps

A finite map is the list of its entries in ascending key order, one entry per
key. The order is part of the value: two maps that answer every look-up alike
are equal (`ext_get?`), and a walk over the entries is a walk over the keys.
-/
namespace SpriteGame

/-- Entries in strictly ascending key order. -/
structure SortedMap (κ ν : Type) [Ord κ] where
  entries : List (κ × ν)
  sorted : entries.Pairwise fun a b => compare a.1 b.1 = .lt
  deriving DecidableEq

namespace SortedMap

variable {κ ν μ : Type} [Ord κ]

/-! ## Entry lists -/

/-- Write `v` at `k`: replace the entry of `k`, or insert one at its place. -/
def insertEntry (k : κ) (v : ν) : List (κ × ν) → List (κ × ν)
  | [] => [(k, v)]
  | (k', v') :: rest =>
    match compare k k' with
    | .lt => (k, v) :: (k', v') :: rest
    | .eq => (k, v) :: rest
    | .gt => (k', v') :: insertEntry k v rest

/-- The value of the first entry for `k`. -/
def findEntry (k : κ) : List (κ × ν) → Option ν
  | [] => none
  | (k', v) :: rest => if compare k k' = .eq then some v else findEntry k rest

theorem mem_insertEntry {k : κ} {v : ν} {l : List (κ × ν)} {e : κ × ν}
    (h : e ∈ insertEntry k v l) : e = (k, v) ∨ e ∈ l := by
  induction l with
  | nil => simpa [insertEntry] using h
  | cons x rest ih =>
    obtain ⟨k', v'⟩ := x
    simp only [insertEntry] at h
    split at h
    · simpa using h
    · rcases List.mem_cons.1 h with h | h
      · exact Or.inl h
      · exact Or.inr (List.mem_cons_of_mem _ h)
    · rcases List.mem_cons.1 h with h | h
      · exact Or.inr (h ▸ List.mem_cons_self)
      · exact (ih h).imp_right (List.mem_cons_of_mem _)

theorem sorted_insertEntry [Std.TransOrd κ] (k : κ) (v : ν) {l : List (κ × ν)}
    (h : l.Pairwise fun a b => compare a.1 b.1 = .lt) :
    (insertEntry k v l).Pairwise fun a b => compare a.1 b.1 = .lt := by
  induction l with
  | nil => simp [insertEntry]
  | cons x rest ih =>
    obtain ⟨k', v'⟩ := x
    obtain ⟨hx, hrest⟩ := List.pairwise_cons.1 h
    simp only [insertEntry]
    split
    · next hlt =>
      refine List.pairwise_cons.2 ⟨fun e he => ?_, h⟩
      rcases List.mem_cons.1 he with rfl | he
      · exact hlt
      · exact Std.TransCmp.lt_trans hlt (hx e he)
    · next heq =>
      exact List.pairwise_cons.2 ⟨fun e he => Std.TransCmp.lt_of_eq_of_lt heq (hx e he), hrest⟩
    · next hgt =>
      refine List.pairwise_cons.2 ⟨fun e he => ?_, ih hrest⟩
      rcases mem_insertEntry he with rfl | he
      · exact Std.OrientedCmp.lt_of_gt hgt
      · exact hx e he

theorem findEntry_insertEntry [Std.TransOrd κ] [Std.LawfulEqOrd κ] (k q : κ) (v : ν)
    (l : List (κ × ν)) :
    findEntry q (insertEntry k v l) = if compare q k = .eq then some v else findEntry q l := by
  induction l with
  | nil => simp [insertEntry, findEntry]
  | cons x rest ih =>
    obtain ⟨k', v'⟩ := x
    simp only [insertEntry]
    split
    · simp [findEntry]
    · next heq =>
      obtain rfl : k = k' := Std.LawfulEqCmp.eq_of_compare heq
      simp only [findEntry]
      split <;> simp_all
    · next hgt =>
      simp only [findEntry, ih]
      by_cases hq : compare q k' = .eq
      · obtain rfl : q = k' := Std.LawfulEqCmp.eq_of_compare hq
        have hne : compare q k ≠ .eq := by
          rw [Std.OrientedOrd.eq_swap, hgt]; decide
        simp [hne]
      · simp [hq]

/-- Nothing is found at a key below all entries. -/
theorem findEntry_eq_none [Std.TransOrd κ] {q : κ} {l : List (κ × ν)}
    (h : ∀ e ∈ l, compare q e.1 = .lt) : findEntry q l = none := by
  induction l with
  | nil => rfl
  | cons x rest ih =>
    obtain ⟨k', v'⟩ := x
    have hx : compare q k' = .lt := h (k', v') List.mem_cons_self
    simp [findEntry, hx, ih fun e he => h e (List.mem_cons_of_mem _ he)]

/-- A key above all entries goes to the end. -/
theorem insertEntry_of_gt {k : κ} {v : ν} {l : List (κ × ν)} (h : ∀ e ∈ l, compare k e.1 = .gt) :
    insertEntry k v l = l ++ [(k, v)] := by
  induction l with
  | nil => rfl
  | cons x rest ih =>
    obtain ⟨k', v'⟩ := x
    have hx : compare k k' = .gt := h (k', v') List.mem_cons_self
    simp [insertEntry, hx, ih fun e he => h e (List.mem_cons_of_mem _ he)]

theorem mem_of_findEntry [Std.LawfulEqOrd κ] {k : κ} {v : ν} {l : List (κ × ν)} (h : findEntry k l = some v) :
    (k, v) ∈ l := by
  induction l with
  | nil => cases h
  | cons x rest ih =>
    obtain ⟨k', v'⟩ := x
    simp only [findEntry] at h
    split at h
    · next heq =>
      obtain rfl := Std.LawfulEqCmp.eq_of_compare heq
      obtain rfl := Option.some.inj h
      exact List.mem_cons_self
    · exact List.mem_cons_of_mem _ (ih h)

theorem exists_findEntry [Std.ReflOrd κ] {k : κ} {l : List (κ × ν)} (h : k ∈ l.map (·.1)) :
    ∃ v, findEntry k l = some v := by
  induction l with
  | nil => cases h
  | cons x rest ih =>
    rw [findEntry]
    split
    · exact ⟨x.2, rfl⟩
    · next hne =>
      rcases List.mem_cons.1 h with rfl | h
      · exact absurd Std.ReflCmp.compare_self hne
      · exact ih h

/-! ## Maps -/

def empty : SortedMap κ ν := ⟨[], List.Pairwise.nil⟩

instance : Inhabited (SortedMap κ ν) := ⟨empty⟩

instance : EmptyCollection (SortedMap κ ν) := ⟨empty⟩

def get? (m : SortedMap κ ν) (k : κ) : Option ν := findEntry k m.entries

def contains (m : SortedMap κ ν) (k : κ) : Bool := (m.get? k).isSome

/-- The keys, ascending. -/
def keys (m : SortedMap κ ν) : List κ := m.entries.map (·.1)

def isEmpty (m : SortedMap κ ν) : Bool := m.entries.isEmpty

def mapValues (f : κ → ν → μ) (m : SortedMap κ ν) : SortedMap κ μ :=
  ⟨m.entries.map fun e => (e.1, f e.1 e.2), List.pairwise_map.2 m.sorted⟩

theorem eq_of_entries {m n : SortedMap κ ν} (h : m.entries = n.entries) : m = n := by
  cases m
  cases n
  simpa using h

@[simp] theorem get?_empty (k : κ) : (empty : SortedMap κ ν).get? k = none := rfl

theorem mem_entries_of_get? [Std.LawfulEqOrd κ] {m : SortedMap κ ν} {k : κ} {v : ν} (h : m.get? k = some v) :
    (k, v) ∈ m.entries := mem_of_findEntry h

/-- A key has a value. -/
theorem exists_get?_of_mem_keys [Std.ReflOrd κ] {m : SortedMap κ ν} {k : κ} (h : k ∈ m.keys) :
    ∃ v, m.get? k = some v := exists_findEntry h

/-- An entry is the one that its key finds. -/
theorem get?_of_mem_entries [Std.TransOrd κ] [Std.LawfulEqOrd κ] {m : SortedMap κ ν} {k : κ} {v : ν}
    (h : (k, v) ∈ m.entries) : m.get? k = some v := by
  obtain ⟨l, hl⟩ := m
  unfold get?
  dsimp only at h ⊢
  have hself : compare k k = .eq := Std.ReflCmp.compare_self
  induction l with
  | nil => cases h
  | cons x l ih =>
    obtain ⟨hfirst, hrest⟩ := List.pairwise_cons.1 hl
    rw [findEntry]
    rcases List.mem_cons.1 h with rfl | h
    · rw [if_pos hself]
    · -- The keys of later entries are greater.
      have hne : compare k x.1 ≠ .eq := fun heq => by
        have hlt : compare x.1 k = .lt := hfirst _ h
        rw [← Std.LawfulEqCmp.eq_of_compare heq, hself] at hlt
        cases hlt
      rw [if_neg hne]
      exact ih hrest h

theorem get?_mapValues [Std.LawfulEqOrd κ] (f : κ → ν → μ) (m : SortedMap κ ν) (k : κ) :
    (m.mapValues f).get? k = (m.get? k).map (f k) := by
  obtain ⟨l, hl⟩ := m
  unfold get? mapValues
  dsimp only
  induction l with
  | nil => rfl
  | cons x l ih =>
    simp only [List.map_cons, findEntry]
    split
    · next heq => rw [Std.LawfulEqCmp.eq_of_compare heq, Option.map_some]
    · exact ih (List.pairwise_cons.1 hl).2

variable [Std.TransOrd κ]

def insert (m : SortedMap κ ν) (k : κ) (v : ν) : SortedMap κ ν :=
  ⟨insertEntry k v m.entries, sorted_insertEntry k v m.sorted⟩

/-- The map of a list of entries; later ones overwrite earlier ones. -/
def ofList (l : List (κ × ν)) : SortedMap κ ν :=
  l.foldl (fun m e => m.insert e.1 e.2) empty

/-- The entries of `m` with those of `top` written over them. -/
def override (m top : SortedMap κ ν) : SortedMap κ ν :=
  top.entries.foldl (fun m e => m.insert e.1 e.2) m

theorem get?_insert [Std.LawfulEqOrd κ] (m : SortedMap κ ν) (k q : κ) (v : ν) :
    (m.insert k v).get? q = if compare q k = .eq then some v else m.get? q :=
  findEntry_insertEntry k q v m.entries

@[simp] theorem get?_insert_self [Std.LawfulEqOrd κ] (m : SortedMap κ ν) (k : κ) (v : ν) :
    (m.insert k v).get? k = some v := by
  simp [get?_insert]

theorem get?_insert_of_ne [Std.LawfulEqOrd κ] (m : SortedMap κ ν) {k q : κ} (v : ν) (h : q ≠ k) :
    (m.insert k v).get? q = m.get? q := by
  rw [get?_insert, if_neg fun he => h (Std.LawfulEqCmp.eq_of_compare he)]

/-- Entries that are written over a map come first. -/
theorem get?_override [Std.LawfulEqOrd κ] (m top : SortedMap κ ν) (k : κ) :
    (m.override top).get? k = (top.get? k).or (m.get? k) := by
  obtain ⟨l, hl⟩ := top
  show (l.foldl (fun m e => m.insert e.1 e.2) m).get? k = (findEntry k l).or (m.get? k)
  induction l generalizing m with
  | nil => rfl
  | cons e l ih =>
    obtain ⟨hfirst, hrest⟩ := List.pairwise_cons.1 hl
    rw [List.foldl_cons, ih (m.insert e.1 e.2) hrest, get?_insert]
    by_cases hk : compare k e.1 = .eq
    · -- The keys of the other entries are greater.
      obtain rfl : k = e.1 := Std.LawfulEqCmp.eq_of_compare hk
      rw [findEntry_eq_none hfirst, if_pos hk, findEntry, if_pos hk, Option.none_or, Option.some_or]
    · rw [if_neg hk, findEntry, if_neg hk]

/-- Entries that ascend from those of a map on are added at its end. -/
theorem entries_foldl_insert {l : List (κ × ν)} {m : SortedMap κ ν}
    (h : (m.entries ++ l).Pairwise fun a b => compare a.1 b.1 = .lt) :
    (l.foldl (fun m e => m.insert e.1 e.2) m).entries = m.entries ++ l := by
  induction l generalizing m with
  | nil => simp
  | cons e l ih =>
    have hlast : (m.insert e.1 e.2).entries = m.entries ++ [e] := by
      refine insertEntry_of_gt fun x hx => Std.OrientedCmp.gt_of_lt ?_
      exact (List.pairwise_append.1 h).2.2 x hx e List.mem_cons_self
    rw [List.foldl_cons, ih, hlast, List.append_assoc, List.singleton_append]
    rwa [hlast, List.append_assoc, List.singleton_append]

/-- A map is that of its entries. -/
theorem ofList_entries (m : SortedMap κ ν) : ofList m.entries = m :=
  eq_of_entries (@entries_foldl_insert _ _ _ _ m.entries empty m.sorted)

/-- Maps that answer every look-up alike are equal. -/
theorem ext_get? [Std.LawfulEqOrd κ] {m n : SortedMap κ ν} (h : ∀ k, m.get? k = n.get? k) :
    m = n := by
  obtain ⟨l, hl⟩ := m
  obtain ⟨r, hr⟩ := n
  suffices l = r by subst this; rfl
  simp only [get?] at h
  induction l generalizing r with
  | nil =>
    cases r with
    | nil => rfl
    | cons y ys => have := h y.1; simp [findEntry] at this
  | cons x xs ih =>
    cases r with
    | nil => have := h x.1; simp [findEntry] at this
    | cons y ys =>
      obtain ⟨hx, hxs⟩ := List.pairwise_cons.1 hl
      obtain ⟨hy, hys⟩ := List.pairwise_cons.1 hr
      have hkey : compare x.1 y.1 = .eq := by
        cases hc : compare x.1 y.1 with
        | eq => rfl
        | lt =>
          have h1 := h x.1
          have h2 : findEntry x.1 (y :: ys) = none := findEntry_eq_none fun e he => by
            rcases List.mem_cons.1 he with rfl | he
            · exact hc
            · exact Std.TransCmp.lt_trans hc (hy e he)
          rw [h2] at h1; simp [findEntry] at h1
        | gt =>
          have hc' : compare y.1 x.1 = .lt := Std.OrientedCmp.lt_of_gt hc
          have h1 := h y.1
          have h2 : findEntry y.1 (x :: xs) = none := findEntry_eq_none fun e he => by
            rcases List.mem_cons.1 he with rfl | he
            · exact hc'
            · exact Std.TransCmp.lt_trans hc' (hx e he)
          rw [h2] at h1; simp [findEntry] at h1
      have hk : x.1 = y.1 := Std.LawfulEqCmp.eq_of_compare hkey
      have hv : x.2 = y.2 := by have h1 := h x.1; simpa [findEntry, hkey] using h1
      have hxy : x = y := Prod.ext hk hv
      subst hxy
      rw [ih hxs ys hys fun k => ?_]
      by_cases hkx : compare k x.1 = .eq
      · have : k = x.1 := Std.LawfulEqCmp.eq_of_compare hkx
        rw [this, findEntry_eq_none hx, findEntry_eq_none hy]
      · simpa [findEntry, hkx] using h k

end SortedMap

end SpriteGame
