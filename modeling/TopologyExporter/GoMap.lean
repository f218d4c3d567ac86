/-
TopologyExporter/GoMap.lean

Go maps as finite maps.  A `map[κ]ν` has no order of its own: `range` visits
its entries in some order that the language leaves open and that may differ
from one `range` statement to the next.  The carrier is therefore Mathlib's
`Finmap` (two maps are equal as soon as they agree on every lookup), and an
iteration order is an explicit argument, a `RangeOrder`, which every function
that ranges over a map takes.

The second half is the accumulation pattern

    for _, x := range xs { m[key(x)] = f(x, m[key(x)]) }

whose final lookups are folds over the elements with that key
(`lookup_foldl_upsert`).
-/
import Mathlib.Data.Finmap
import Mathlib.Data.List.Nodup
import Mathlib.Data.List.Sort

/-- A Go `map[κ]ν`. -/
abbrev GoMap (κ ν : Type) := Finmap fun _ : κ => ν

namespace GoMap

variable {κ ν δ : Type} [DecidableEq κ]

/-! ### Reading and writing -/

/-- `m[k]`: a missing key reads as the zero value `z`. -/
def getD (m : GoMap κ ν) (k : κ) (z : ν) : ν := (m.lookup k).getD z

/-- `m[k] = f(m[k])`, where `f` sees whether the key was there. -/
def upsert (m : GoMap κ ν) (k : κ) (f : Option ν → ν) : GoMap κ ν :=
  m.insert k (f (m.lookup k))

theorem lookup_insert_eq (m : GoMap κ ν) (k k' : κ) (v : ν) :
    (m.insert k v).lookup k' = if k' = k then some v else m.lookup k' := by
  by_cases h : k' = k
  · subst h; simp
  · rw [if_neg h, Finmap.lookup_insert_of_ne m h]

@[simp] theorem lookup_upsert (m : GoMap κ ν) (k k' : κ) (f : Option ν → ν) :
    (m.upsert k f).lookup k' = if k' = k then some (f (m.lookup k)) else m.lookup k' :=
  lookup_insert_eq m k k' _

/-- A key that is inserted anew and erased again. -/
theorem erase_insert {m : GoMap κ ν} {k : κ} (h : k ∉ m) (v : ν) : (m.insert k v).erase k = m := by
  refine Finmap.ext_lookup fun k' => ?_
  by_cases hk : k' = k
  · rw [hk, Finmap.lookup_erase, Finmap.lookup_eq_none.mpr h]
  · rw [Finmap.lookup_erase_ne hk, Finmap.lookup_insert_of_ne m hk]

/-- Writing all entries of `m` over `m'`; the entries of one map have different
keys, so their order does not matter. -/
theorem lookup_union_eq (m m' : GoMap κ ν) (k : κ) :
    (m ∪ m').lookup k = (m.lookup k).or (m'.lookup k) := by
  rcases h : m.lookup k with - | v
  · rw [Finmap.lookup_union_right (Finmap.lookup_eq_none.mp h), Option.none_or]
  · rw [Finmap.lookup_union_left (Finmap.mem_of_lookup_eq_some h), h, Option.some_or]

/-! ### Building a map from its lookups -/

/-- The map with the keys of `s` on which `f` is defined, and `f` as lookup. -/
def ofFn (s : Finset κ) (f : κ → Option ν) : GoMap κ ν :=
  Finmap.keysLookupEquiv.symm
    ⟨(s.filter fun k => (f k).isSome, fun k => if k ∈ s then f k else none), by
      intro k
      by_cases h : k ∈ s <;> simp [h]⟩

@[simp] theorem lookup_ofFn (s : Finset κ) (f : κ → Option ν) (k : κ) :
    (ofFn s f).lookup k = if k ∈ s then f k else none := by
  simp [ofFn, Finmap.keysLookupEquiv_symm_apply_lookup]

/-- If `f` is undefined outside `s`, it is the lookup as it stands. -/
theorem lookup_ofFn_eq {s : Finset κ} {f : κ → Option ν} {k : κ} (h : k ∉ s → f k = none) :
    (ofFn s f).lookup k = f k := by
  rw [lookup_ofFn]
  by_cases hk : k ∈ s
  · rw [if_pos hk]
  · rw [if_neg hk, h hk]

/-! ### Iteration orders -/

/-- `l` lists the entries of `m`, each once. -/
structure Enumerates (m : GoMap κ ν) (l : List (κ × ν)) : Prop where
  nodup : (l.map Prod.fst).Nodup
  mem_iff : ∀ k v, (k, v) ∈ l ↔ m.lookup k = some v

/-- One order in which `range` may visit each map. -/
structure RangeOrder (κ ν : Type) [DecidableEq κ] where
  range : GoMap κ ν → List (κ × ν)
  enumerates : ∀ m, Enumerates m (range m)

theorem Enumerates.mem_keys {m : GoMap κ ν} {l : List (κ × ν)} (h : Enumerates m l)
    (k : κ) : k ∈ l.map Prod.fst ↔ k ∈ m := by
  rw [Finmap.mem_iff]
  constructor
  · intro hk
    obtain ⟨⟨k', v⟩, hmem, rfl⟩ := List.mem_map.mp hk
    exact ⟨v, (h.mem_iff _ _).mp hmem⟩
  · rintro ⟨v, hv⟩
    exact List.mem_map.mpr ⟨(k, v), (h.mem_iff k v).mpr hv, rfl⟩

/-- Two enumerations of a map differ in the order only. -/
theorem Enumerates.perm {m : GoMap κ ν} {l l' : List (κ × ν)} (h : Enumerates m l)
    (h' : Enumerates m l') : l.Perm l' := by
  rw [List.perm_ext_iff_of_nodup (List.Nodup.of_map _ h.nodup) (List.Nodup.of_map _ h'.nodup)]
  rintro ⟨k, v⟩
  rw [h.mem_iff, h'.mem_iff]

/-- The entries an enumeration holds under one key. -/
theorem Enumerates.filter_key {m : GoMap κ ν} {l : List (κ × ν)} (h : Enumerates m l)
    (k : κ) : l.filter (fun e => e.1 = k) = ((m.lookup k).map fun v => (k, v)).toList := by
  have hlen : (l.filter fun e => e.1 = k).length ≤ 1 := by
    have hcount := List.nodup_iff_count_le_one.mp h.nodup k
    rw [List.count_eq_countP, List.countP_map, List.countP_eq_length_filter] at hcount
    simpa [Function.comp_def, beq_eq_decide] using hcount
  have hmem : ∀ e, e ∈ l.filter (fun e => e.1 = k) ↔ e.1 = k ∧ m.lookup k = some e.2 := by
    rintro ⟨k', v⟩
    rw [List.mem_filter, h.mem_iff]
    constructor
    · rintro ⟨hv, hk⟩
      have hk' : k' = k := of_decide_eq_true hk
      exact ⟨hk', hk' ▸ hv⟩
    · rintro ⟨rfl, hv⟩
      exact ⟨hv, by simp⟩
  -- a list of at most one entry, of which the members are known
  generalize l.filter (fun e => e.1 = k) = l' at hlen hmem
  match l' with
  | [] =>
    rcases hm : m.lookup k with - | v
    · rfl
    · exact absurd ((hmem (k, v)).mpr ⟨rfl, hm⟩) (by simp)
  | [(k', v)] =>
    obtain ⟨rfl, hv⟩ := (hmem (k', v)).mp (by simp)
    simp only at hv
    rw [hv]
    rfl
  | _ :: _ :: _ => simp at hlen

/-- The elements of a multiset in increasing order. -/
def sortKeys {κ : Type} [LinearOrder κ] (s : Multiset κ) : List κ :=
  Quot.liftOn s (List.insertionSort (· ≤ ·)) fun l₁ l₂ h =>
    List.Perm.eq_of_pairwise (fun _ _ _ _ h₁ h₂ => le_antisymm h₁ h₂)
      (List.pairwise_insertionSort _ l₁) (List.pairwise_insertionSort _ l₂)
      (((List.perm_insertionSort (· ≤ ·) l₁).trans h).trans
        (List.perm_insertionSort (· ≤ ·) l₂).symm)

theorem coe_sortKeys {κ : Type} [LinearOrder κ] (s : Multiset κ) :
    (sortKeys s : Multiset κ) = s := by
  induction s using Quot.inductionOn with
  | _ l => exact Multiset.coe_eq_coe.mpr (List.perm_insertionSort (· ≤ ·) l)

theorem pairwise_sortKeys {κ : Type} [LinearOrder κ] (s : Multiset κ) :
    (sortKeys s).Pairwise (· ≤ ·) := by
  induction s using Quot.inductionOn with
  | _ l => exact List.pairwise_insertionSort (· ≤ ·) l

/-- Enumerating a map by increasing keys. -/
def sortedOrder (κ ν : Type) [LinearOrder κ] : RangeOrder κ ν where
  range m := (sortKeys m.keys.val).filterMap fun k => (m.lookup k).map fun v => (k, v)
  enumerates m := by
    have hmem : ∀ k, k ∈ sortKeys m.keys.val ↔ k ∈ m := fun k => by
      rw [← Multiset.mem_coe, coe_sortKeys, Finset.mem_val, Finmap.mem_keys]
    have hfst : ((sortKeys m.keys.val).filterMap fun k =>
        (m.lookup k).map fun v => (k, v)).map Prod.fst = sortKeys m.keys.val := by
      rw [List.map_filterMap]
      conv_rhs => rw [← List.filterMap_some (l := sortKeys m.keys.val)]
      refine List.filterMap_congr fun k hk => ?_
      rw [hmem, Finmap.mem_iff] at hk
      obtain ⟨v, hv⟩ := hk
      rw [hv]
      rfl
    refine ⟨?_, ?_⟩
    · rw [hfst, ← Multiset.coe_nodup, coe_sortKeys]
      exact m.keys.nodup
    · intro k v
      rw [List.mem_filterMap]
      constructor
      · rintro ⟨k', -, hk'⟩
        obtain ⟨v', hv', he⟩ := Option.map_eq_some_iff.mp hk'
        obtain ⟨rfl, rfl⟩ := Prod.mk.inj he
        exact hv'
      · intro hv
        exact ⟨k, (hmem k).mpr (Finmap.mem_of_lookup_eq_some hv), by rw [hv]; rfl⟩

/-- Visiting each map the other way round. -/
def RangeOrder.reverse (ord : RangeOrder κ ν) : RangeOrder κ ν where
  range m := (ord.range m).reverse
  enumerates m :=
    { nodup := by
        rw [List.map_reverse, List.nodup_reverse]
        exact (ord.enumerates m).nodup
      mem_iff := by
        intro k v
        rw [List.mem_reverse]
        exact (ord.enumerates m).mem_iff k v }

/-- A list without repetitions that reads the same both ways is short. -/
theorem length_le_one_of_reverse_eq {α : Type} {l : List α} (hnodup : l.Nodup)
    (h : l.reverse = l) : l.length ≤ 1 := by
  rcases l with - | ⟨a, l⟩
  · exact Nat.zero_le 1
  · rcases List.eq_nil_or_concat l with rfl | ⟨init, b, rfl⟩
    · exact le_rfl
    · -- the last element is the first
      have hhead := congrArg List.head? h
      have hab : b = a := by simpa using hhead
      subst hab
      simp at hnodup

/-! ### Accumulating into a map -/

/-- After a loop that updates one key per element, the value under `k` is the
fold of the updates made by the elements with that key. -/
theorem lookup_foldl_upsert (key : δ → κ) (f : δ → Option ν → ν) (l : List δ)
    (m : GoMap κ ν) (k : κ) :
    (l.foldl (fun m x => m.upsert (key x) (f x)) m).lookup k
      = (l.filter fun x => key x = k).foldl (fun o x => some (f x o)) (m.lookup k) := by
  induction l generalizing m with
  | nil => rfl
  | cons x l ih =>
      rw [List.foldl_cons, ih, lookup_upsert]
      by_cases hx : key x = k
      · subst hx; simp
      · simp [hx, Ne.symm hx]

theorem foldl_some_getD (g : ν → δ → ν) (z : ν) (l : List δ) :
    l.foldl (fun o x => some (g (Option.getD o z) x)) none
      = if l = [] then none else some (l.foldl g z) := by
  have aux : ∀ (l : List δ) (v : ν),
      l.foldl (fun o x => some (g (Option.getD o z) x)) (some v) = some (l.foldl g v) := by
    intro l
    induction l with
    | nil => intro v; rfl
    | cons x l ih => intro v; exact ih (g v x)
  cases l with
  | nil => rfl
  | cons x l => exact (aux l (g z x)).trans (by simp)

/-- Accumulating from the zero value `z`: a key no element has stays missing. -/
theorem lookup_foldl_upsert_getD (key : δ → κ) (g : ν → δ → ν) (z : ν) (l : List δ) (k : κ) :
    (l.foldl (fun (m : GoMap κ ν) x => m.upsert (key x) fun o => g (o.getD z) x) ∅).lookup k
      = if l.filter (fun x => key x = k) = [] then none
        else some ((l.filter fun x => key x = k).foldl g z) := by
  rw [lookup_foldl_upsert key fun x o => g (o.getD z) x]
  exact foldl_some_getD g z _

/-- Accumulation into a map of maps: the cell `(k, r)` holds the fold of the
contributions made to it, and is missing if there were none. -/
theorem lookup_lookup_foldl_upsert {ρ : Type} [DecidableEq ρ] (key : δ → κ) (sub : δ → ρ)
    (g : ν → δ → ν) (z : ν) (l : List δ) (k : κ) (r : ρ) :
    ((l.foldl (fun (m : GoMap κ (GoMap ρ ν)) x => m.upsert (key x) fun o =>
        upsert (o.getD ∅) (sub x) fun c => g (c.getD z) x) ∅).lookup k).bind
        (fun m => m.lookup r)
      = if l.filter (fun x => key x = k ∧ sub x = r) = [] then none
        else some ((l.filter fun x => key x = k ∧ sub x = r).foldl g z) := by
  have hfilter : l.filter (fun x => key x = k ∧ sub x = r)
      = (l.filter fun x => key x = k).filter fun x => sub x = r := by
    rw [List.filter_filter]
    exact List.filter_congr fun x _ => by simp [Bool.and_comm]
  rw [hfilter, lookup_foldl_upsert_getD key (fun (m : GoMap ρ ν) x =>
    upsert m (sub x) fun c => g (c.getD z) x) ∅]
  by_cases hl : l.filter (fun x => key x = k) = []
  · simp [hl]
  · rw [if_neg hl, Option.bind_some]
    exact lookup_foldl_upsert_getD sub g z _ r

/-- After a loop that writes entries, a key holds one of the values written under it, if
there are any. -/
theorem lookup_foldl_insert_cases (l : List (κ × ν)) (m : GoMap κ ν) (k : κ) :
    (∃ v, (k, v) ∈ l ∧ (l.foldl (fun m e => m.insert e.1 e.2) m).lookup k = some v)
      ∨ (∀ v, (k, v) ∉ l) ∧ (l.foldl (fun m e => m.insert e.1 e.2) m).lookup k = m.lookup k := by
  induction l generalizing m with
  | nil => exact Or.inr ⟨fun _ => List.not_mem_nil, rfl⟩
  | cons e l ih =>
      obtain ⟨k', v'⟩ := e
      rcases ih (m.insert k' v') with ⟨v, hv, hlookup⟩ | ⟨hnone, hlookup⟩
      · exact Or.inl ⟨v, List.mem_cons_of_mem _ hv, hlookup⟩
      · rw [lookup_insert_eq] at hlookup
        by_cases hk : k = k'
        · subst hk
          rw [if_pos rfl] at hlookup
          exact Or.inl ⟨v', List.mem_cons_self, hlookup⟩
        · rw [if_neg hk] at hlookup
          refine Or.inr ⟨fun v hv => ?_, hlookup⟩
          rcases List.mem_cons.mp hv with heq | hv
          · exact hk (Prod.mk.inj heq).1
          · exact hnone v hv

/-- Entries written under different keys are all there, and nothing else is. -/
theorem lookup_foldl_insert_iff {l : List (κ × ν)} (h : (l.map Prod.fst).Nodup) (k : κ) (v : ν) :
    (l.foldl (fun (m : GoMap κ ν) e => m.insert e.1 e.2) ∅).lookup k = some v ↔ (k, v) ∈ l := by
  rcases lookup_foldl_insert_cases l ∅ k with ⟨v', hv', hlookup⟩ | ⟨hnone, hlookup⟩
  · rw [hlookup]
    constructor
    · intro heq
      obtain rfl := Option.some.inj heq
      exact hv'
    · intro hv
      have hpair := List.inj_on_of_nodup_map h hv' hv rfl
      rw [(Prod.mk.inj hpair).2]
  · rw [hlookup, Finmap.lookup_empty]
    exact ⟨fun heq => absurd heq.symm (Option.some_ne_none v), fun hv => absurd hv (hnone v)⟩

/-- Ranging over a map and writing `g v` under each key maps `g` over its
values, whatever the order. -/
theorem lookup_foldl_insert {ν' : Type} {m : GoMap κ ν} {l : List (κ × ν)}
    (h : Enumerates m l) (g : ν → ν') (k : κ) :
    (l.foldl (fun (acc : GoMap κ ν') e => acc.insert e.1 (g e.2)) ∅).lookup k
      = (m.lookup k).map g := by
  have hup := lookup_foldl_upsert Prod.fst (fun e (_ : Option ν') => g e.2) l ∅ k
  simp only [upsert] at hup
  rw [hup, h.filter_key]
  rcases m.lookup k with - | v <;> rfl

end GoMap
