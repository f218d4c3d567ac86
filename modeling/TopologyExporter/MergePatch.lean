/-
TopologyExporter/MergePatch.lean

JSON merge patches.  A patch is itself a JSON object: a member that is null
removes, a member that is an object is merged in turn, any other member replaces.

Beside the merge stand the two ways to compute a patch: the difference of two
documents, and the three-way patch, which takes its deletions from the
difference of the original and the modified document and its additions and
changes from the difference of the current and the modified one.  These are the
notions, with leaves that are compared as they are; what a library makes of numbers
on the way is for its user to say (`mapLeaves`).

The leaves are an arbitrary type `L` (strings, numbers, whole arrays: merge
patches never look into an array).  Each operation is first given on the members
of an object, over any type of member values, and then by recursion on the
depth of the document.
-/
import TopologyExporter.GoMap
import Mathlib.Data.String.Basic

namespace MergePatch

open GoMap

/-! ### Members -/

section Members

variable {V : Type}

/-- What a merge makes of one member. -/
def mergeMember (merge : Option V → V → Option V) (target : Option V) : Option V → Option V
  | none => target
  | some v => merge target v

/-- Apply the members of a patch to the members of an object. -/
def mergeMembers (merge : Option V → V → Option V) (target patch : GoMap String V) :
    GoMap String V :=
  ofFn (target.keys ∪ patch.keys) fun k => mergeMember merge (target.lookup k) (patch.lookup k)

/-- What a patch says of one member: an added one as it is, null for a removed
one, a common one compared by `diff`. -/
def diffMember (null : V) (diff : V → V → Option V) : Option V → Option V → Option V
  | none, b => b
  | some _, none => some null
  | some a, some b => diff a b

/-- The patch from the members `a` to the members `b`. -/
def diffMembers (null : V) (diff : V → V → Option V) (a b : GoMap String V) : GoMap String V :=
  ofFn (a.keys ∪ b.keys) fun k => diffMember null diff (a.lookup k) (b.lookup k)

/-- Filter the members of an object. -/
def filterMembers (keep : V → Option V) (m : GoMap String V) : GoMap String V :=
  ofFn m.keys fun k => (m.lookup k).bind keep

/-- Each member of an object under a function. -/
def mapMembers (f : V → V) (m : GoMap String V) : GoMap String V :=
  ofFn m.keys fun k => (m.lookup k).map f

/-- Some member is in both objects, and the two values conflict. -/
def conflictMembers (conflict : V → V → Bool) (left right : GoMap String V) : Bool :=
  decide (∃ k ∈ left.keys, ∃ l ∈ left.lookup k, ∃ r ∈ right.lookup k, conflict l r)

@[simp] theorem lookup_mergeMembers (merge : Option V → V → Option V)
    (target patch : GoMap String V) (k : String) :
    (mergeMembers merge target patch).lookup k
      = mergeMember merge (target.lookup k) (patch.lookup k) := by
  refine lookup_ofFn_eq fun hk => ?_
  simp only [Finset.mem_union, Finmap.mem_keys, not_or] at hk
  rw [Finmap.lookup_eq_none.mpr hk.1, Finmap.lookup_eq_none.mpr hk.2, mergeMember]

@[simp] theorem lookup_diffMembers (null : V) (diff : V → V → Option V) (a b : GoMap String V)
    (k : String) :
    (diffMembers null diff a b).lookup k = diffMember null diff (a.lookup k) (b.lookup k) := by
  refine lookup_ofFn_eq fun hk => ?_
  simp only [Finset.mem_union, Finmap.mem_keys, not_or] at hk
  rw [Finmap.lookup_eq_none.mpr hk.1, Finmap.lookup_eq_none.mpr hk.2, diffMember]

@[simp] theorem lookup_filterMembers (keep : V → Option V) (m : GoMap String V) (k : String) :
    (filterMembers keep m).lookup k = (m.lookup k).bind keep := by
  refine lookup_ofFn_eq fun hk => ?_
  rw [Finmap.lookup_eq_none.mpr (mt Finmap.mem_keys.mpr hk), Option.bind_none]

@[simp] theorem lookup_mapMembers (f : V → V) (m : GoMap String V) (k : String) :
    (mapMembers f m).lookup k = (m.lookup k).map f := by
  refine lookup_ofFn_eq fun hk => ?_
  rw [Finmap.lookup_eq_none.mpr (mt Finmap.mem_keys.mpr hk), Option.map_none]

/-- A member the patch does not have stays as it is. -/
theorem lookup_mergeMembers_of_none {merge : Option V → V → Option V} {target patch : GoMap String V}
    {k : String} (h : patch.lookup k = none) :
    (mergeMembers merge target patch).lookup k = target.lookup k := by
  rw [lookup_mergeMembers, h, mergeMember]

theorem mergeMembers_empty (merge : Option V → V → Option V) (target : GoMap String V) :
    mergeMembers merge target ∅ = target :=
  Finmap.ext_lookup fun k => lookup_mergeMembers_of_none (Finmap.lookup_empty k)

/-- Merging the difference of `a` and `b` into `a` gives `b`, if that holds of the
members they share and the other members of `b` merge to themselves. -/
theorem mergeMembers_diffMembers {merge : Option V → V → Option V} {null : V}
    {diff : V → V → Option V} {a b : GoMap String V}
    (hnull : ∀ target, merge target null = none)
    (hadd : ∀ k, ∀ v ∈ b.lookup k, merge none v = some v)
    (hsame : ∀ v w, diff v w = none → v = w)
    (hdiff : ∀ k, ∀ w ∈ b.lookup k, ∀ v, ∀ d ∈ diff v w, merge (some v) d = some w) :
    mergeMembers merge a (diffMembers null diff a b) = b := by
  refine Finmap.ext_lookup fun k => ?_
  rw [lookup_mergeMembers, lookup_diffMembers]
  rcases a.lookup k with - | v <;> rcases eb : b.lookup k with - | w
  · rfl
  · exact hadd k w eb
  · exact hnull (some v)
  · rw [diffMember]
    rcases ed : diff v w with - | d
    · exact congrArg some (hsame v w ed)
    · exact hdiff k w eb v d ed

/-- If every value is put together again from the two halves a pair of filters
makes of it, so is every object. -/
theorem mergeMembers_filterMembers {merge : Option V → V → Option V} {keep keep' : V → Option V}
    (h : ∀ v, mergeMember merge (keep v) (keep' v) = some v) (m : GoMap String V) :
    mergeMembers merge (filterMembers keep m) (filterMembers keep' m) = m := by
  refine Finmap.ext_lookup fun k => ?_
  rw [lookup_mergeMembers, lookup_filterMembers, lookup_filterMembers]
  rcases m.lookup k with - | v
  · rfl
  · exact h v

theorem conflictMembers_filterMembers {conflict : V → V → Bool} {keep keep' : V → Option V}
    (h : ∀ v, ∀ l ∈ keep v, ∀ r ∈ keep' v, conflict l r = false) (m : GoMap String V) :
    conflictMembers conflict (filterMembers keep m) (filterMembers keep' m) = false := by
  refine decide_eq_false ?_
  rintro ⟨k, -, l, hl, r, hr, hc⟩
  rw [lookup_filterMembers] at hl hr
  obtain ⟨v, hv, hl⟩ := Option.bind_eq_some_iff.mp hl
  rw [Option.mem_def, hv] at hr
  rw [h v l hl r hr] at hc
  cases hc

end Members

/-! ### Documents -/

/-- JSON values with at most `n` levels of objects: null, a leaf, or an object. -/
def Value (L : Type) : Nat → Type
  | 0 => Option L
  | n + 1 => Option L ⊕ GoMap String (Value L n)

/-- A JSON object whose members have at most `n` levels. -/
abbrev Object (L : Type) (n : Nat) := GoMap String (Value L n)

variable {L : Type}

instance decEqValue [DecidableEq L] : (n : Nat) → DecidableEq (Value L n)
  | 0 => inferInstanceAs (DecidableEq (Option L))
  | n + 1 =>
      letI := decEqValue n
      inferInstanceAs (DecidableEq (Option L ⊕ GoMap String (Value L n)))

/-- The JSON null. -/
def null : {n : Nat} → Value L n
  | 0 => (none : Option L)
  | _ + 1 => Sum.inl none

/-- A leaf as a value. -/
def leaf : {n : Nat} → L → Value L n
  | 0, l => some l
  | _ + 1, l => Sum.inl (some l)

/-- An object as a value. -/
def obj {n : Nat} (m : Object L n) : Value L (n + 1) := Sum.inr m

/-- The members of a value; only an object has any. -/
def members {n : Nat} : Option (Value L (n + 1)) → Object L n
  | some (Sum.inr m) => m
  | _ => ∅

/-- A value with each leaf under a function. -/
def mapLeaves (f : L → L) : {n : Nat} → Value L n → Value L n
  | 0, v => Option.map f v
  | _ + 1, Sum.inl v => Sum.inl (v.map f)
  | _ + 1, Sum.inr m => Sum.inr (mapMembers (mapLeaves f) m)

/-- Apply a patch to a value or to nothing. -/
def merge : {n : Nat} → Option (Value L n) → Value L n → Option (Value L n)
  | 0, _, patch => Option.map some patch
  | _ + 1, _, Sum.inl leaf => leaf.map fun l => Sum.inl (some l)
  | _ + 1, target, Sum.inr patch => some (Sum.inr (mergeMembers merge (members target) patch))

/-- The patch from `a` to `b`, if they differ. -/
def diff [DecidableEq L] : {n : Nat} → Value L n → Value L n → Option (Value L n)
  | 0, a, b => if a = b then none else some b
  | _ + 1, Sum.inr a, Sum.inr b =>
      if diffMembers null diff a b = ∅ then none else some (Sum.inr (diffMembers null diff a b))
  | _ + 1, a, b => if a = b then none else some b

/-- Keep the nulls of a patch (`keepNull`), or everything else.  An object that is
empty to begin with counts as a value, one that becomes empty is dropped. -/
def filterNull [DecidableEq L] (keepNull : Bool) : {n : Nat} → Value L n → Option (Value L n)
  | 0, v => if Option.isNone v = keepNull then some v else none
  | _ + 1, Sum.inl v => if v.isNone = keepNull then some (Sum.inl v) else none
  | _ + 1, Sum.inr m =>
      if m = ∅ then
        if keepNull then none else some (Sum.inr m)
      else if filterMembers (filterNull keepNull) m = ∅ then none
      else some (Sum.inr (filterMembers (filterNull keepNull) m))

/-- Two patches conflict where they give different values. -/
def conflict [DecidableEq L] : {n : Nat} → Value L n → Value L n → Bool
  | 0, l, r => decide (l ≠ r)
  | _ + 1, Sum.inr l, Sum.inr r => conflictMembers conflict l r
  | _ + 1, l, r => decide (l ≠ r)

/-- The three-way patch; nothing if its two halves conflict. -/
def createThreeWay [DecidableEq L] {n : Nat} (original modified current : Object L n) :
    Option (Object L n) :=
  let addAndChange := filterMembers (filterNull false) (diffMembers null diff current modified)
  let delete := filterMembers (filterNull true) (diffMembers null diff original modified)
  if conflictMembers conflict addAndChange delete then none
  else some (mergeMembers merge delete addAndChange)

@[simp] theorem members_obj {n : Nat} (m : Object L n) : members (some (obj m)) = m := rfl

theorem merge_obj {n : Nat} (target : Option (Value L (n + 1))) (patch : Object L n) :
    merge target (obj patch) = some (obj (mergeMembers merge (members target) patch)) := rfl

theorem mapLeaves_leaf {n : Nat} (f : L → L) (l : L) :
    mapLeaves f (leaf l : Value L n) = leaf (f l) := by
  cases n <;> rfl

theorem mapLeaves_null {n : Nat} (f : L → L) : mapLeaves f (null : Value L n) = null := by
  cases n <;> rfl

theorem mapLeaves_obj {n : Nat} (f : L → L) (m : Object L n) :
    mapLeaves f (obj m) = obj (mapMembers (mapLeaves f) m) := rfl

theorem filterNull_obj [DecidableEq L] {n : Nat} (keepNull : Bool) {m : Object L n} (hm : m ≠ ∅) :
    filterNull keepNull (obj m)
      = if filterMembers (filterNull keepNull) m = ∅ then none
        else some (obj (filterMembers (filterNull keepNull) m)) :=
  if_neg hm

/-! ### Merging a difference -/

/-- A value without nulls. -/
def NullFree : {n : Nat} → Value L n → Prop
  | 0, v => Option.isSome v
  | _ + 1, Sum.inl v => v.isSome
  | _ + 1, Sum.inr m => ∀ k, ∀ v ∈ m.lookup k, NullFree v

theorem nullFree_leaf {n : Nat} (l : L) : NullFree (leaf l : Value L n) := by
  cases n with
  | zero => rfl
  | succ n => rfl

theorem merge_leaf {n : Nat} (target : Option (Value L n)) (l : L) :
    merge target (leaf l) = some (leaf l) := by
  cases n <;> rfl

theorem merge_null {n : Nat} (target : Option (Value L n)) : merge target null = none := by
  cases n with
  | zero => rfl
  | succ n => rfl

/-- Where there was nothing, a value without nulls merges to itself. -/
theorem merge_nothing {n : Nat} {v : Value L n} (hv : NullFree v) : merge none v = some v := by
  induction n with
  | zero =>
      obtain ⟨l, rfl⟩ := Option.isSome_iff_exists.mp hv
      rfl
  | succ n ih =>
      rcases v with leaf | m
      · obtain ⟨l, rfl⟩ := Option.isSome_iff_exists.mp hv
        rfl
      · refine congrArg (some ∘ Sum.inr) (Finmap.ext_lookup fun k => ?_)
        rw [lookup_mergeMembers]
        rcases e : m.lookup k with - | v
        · exact Finmap.lookup_empty k
        · exact ih (hv k v e)

section Difference

variable [DecidableEq L]

theorem diff_self {n : Nat} (v : Value L n) : diff v v = none := by
  induction n with
  | zero => exact if_pos rfl
  | succ n ih =>
      rcases v with leaf | m
      · exact if_pos rfl
      · refine if_pos (Finmap.ext_lookup fun k => ?_)
        rw [lookup_diffMembers]
        rcases m.lookup k with - | v
        · rfl
        · exact ih v

theorem diffMember_self {n : Nat} (v : Option (Value L n)) : diffMember null diff v v = none := by
  rcases v with - | v
  · rfl
  · exact diff_self v

/-- A member on which two objects agree is not in their difference. -/
theorem lookup_diff_of_eq {n : Nat} {a b : Object L n} {k : String} (h : a.lookup k = b.lookup k) :
    (diffMembers null diff a b).lookup k = none := by
  rw [lookup_diffMembers, h]
  exact diffMember_self (b.lookup k)

theorem diff_leaf {n : Nat} (a b : L) :
    diff (leaf a : Value L n) (leaf b) = if a = b then none else some (leaf b) := by
  cases n with
  | zero => exact if_congr Option.some_inj rfl rfl
  | succ n => exact if_congr (Sum.inl_injective.eq_iff.trans Option.some_inj) rfl rfl

theorem eq_of_diff_eq_none {n : Nat} {a b : Value L n} (h : diff a b = none) : a = b := by
  induction n with
  | zero =>
      by_contra hne
      have hsome : diff a b = some b := if_neg hne
      rw [h] at hsome
      cases hsome
  | succ n ih =>
      rcases a with la | ma <;> rcases b with lb | mb
      · by_contra hne
        simp [diff, hne] at h
      · simp [diff] at h
      · simp [diff] at h
      · -- no member differs, and by induction the members are equal
        have hempty : diffMembers null diff ma mb = ∅ := by
          by_contra hne
          simp [diff, hne] at h
        refine congrArg Sum.inr (Finmap.ext_lookup fun k => ?_)
        have hk : (diffMembers null diff ma mb).lookup k = none := by
          rw [hempty, Finmap.lookup_empty]
        rw [lookup_diffMembers] at hk
        rcases ea : ma.lookup k with - | va <;> rcases eb : mb.lookup k with - | vb <;>
          rw [ea, eb] at hk
        · cases hk
        · cases hk
        · exact congrArg some (ih hk)

theorem merge_diff {n : Nat} {a b d : Value L n} (hb : NullFree b) (hd : diff a b = some d) :
    merge (some a) d = some b := by
  induction n with
  | zero =>
      have hne : a ≠ b := fun heq => by rw [heq, diff_self] at hd; cases hd
      obtain rfl : b = d := Option.some.inj ((if_neg hne).symm.trans hd)
      exact merge_nothing hb
  | succ n ih =>
      -- unless both are objects the difference is `b`, and `a` has no members to keep
      have hne : a ≠ b := fun heq => by rw [heq, diff_self] at hd; cases hd
      rcases a with la | ma <;> rcases b with lb | mb
      · obtain rfl : Sum.inl lb = d := Option.some.inj ((if_neg hne).symm.trans hd)
        exact merge_nothing hb
      · obtain rfl : Sum.inr mb = d := Option.some.inj ((if_neg hne).symm.trans hd)
        exact merge_nothing hb
      · obtain rfl : Sum.inl lb = d := Option.some.inj ((if_neg hne).symm.trans hd)
        exact merge_nothing hb
      · have hdiff : diffMembers null diff ma mb ≠ ∅ := fun hempty =>
          hne (eq_of_diff_eq_none (show diff (obj ma) (obj mb) = none from if_pos hempty))
        obtain rfl : Sum.inr (diffMembers null diff ma mb) = d :=
          Option.some.inj ((if_neg hdiff).symm.trans hd)
        refine congrArg (some ∘ Sum.inr) (mergeMembers_diffMembers merge_null ?_ ?_ ?_)
        · exact fun k v hv => merge_nothing (hb k v hv)
        · exact fun v w => eq_of_diff_eq_none
        · exact fun k w hw v d hd => ih (hb k w hw) hd

/-- **A difference is a patch**: merged into the old document it gives the new one. -/
theorem mergeMembers_diff {n : Nat} {a b : Object L n} (hb : ∀ k, ∀ v ∈ b.lookup k, NullFree v) :
    mergeMembers merge a (diffMembers null diff a b) = b :=
  mergeMembers_diffMembers merge_null (fun k v hv => merge_nothing (hb k v hv))
    (fun _ _ => eq_of_diff_eq_none) (fun k w hw _ _ hd => merge_diff (hb k w hw) hd)

/-- The members of an object after a merge with the difference of two others. -/
theorem members_merge_diff {n : Nat} (c a b : Object L n) :
    members (mergeMember merge (some (obj c)) (diffMember null diff (some (obj a)) (some (obj b))))
      = mergeMembers merge c (diffMembers null diff a b) := by
  by_cases hempty : diffMembers null diff a b = ∅
  · have hdiff : diff (obj a) (obj b) = none := if_pos hempty
    rw [diffMember, hdiff, hempty, mergeMembers_empty, mergeMember, members_obj]
  · have hdiff : diff (obj a) (obj b) = some (obj (diffMembers null diff a b)) := if_neg hempty
    rw [diffMember, hdiff, mergeMember, merge_obj, members_obj, members_obj]

/-! ### The three-way patch -/

omit [DecidableEq L] in
theorem members_ite {n : Nat} (m : Object L n) [Decidable (m = ∅)] :
    members (if m = ∅ then none else some (obj m)) = m := by
  by_cases h : m = ∅
  · rw [if_pos h, h]
    rfl
  · rw [if_neg h]
    rfl

theorem merge_filterNull {n : Nat} (v : Value L n) :
    mergeMember merge (filterNull true v) (filterNull false v) = some v := by
  induction n with
  | zero => rcases v with - | l <;> rfl
  | succ n ih =>
      rcases v with (- | l) | m
      · rfl
      · rfl
      · have hm := mergeMembers_filterMembers ih m
        by_cases hempty : m = ∅
        · subst hempty
          rfl
        · show mergeMember merge (filterNull true (obj m)) (filterNull false (obj m)) = some (obj m)
          rw [filterNull_obj true hempty, filterNull_obj false hempty]
          by_cases hdrop : filterMembers (filterNull false) m = ∅
          · rw [hdrop, mergeMembers_empty] at hm
            rw [if_pos hdrop, hm, if_neg hempty, mergeMember]
          · rw [if_neg hdrop, mergeMember, merge_obj, members_ite, hm]

theorem conflict_filterNull {n : Nat} (v l : Value L n) (hl : l ∈ filterNull false v) (r : Value L n)
    (hr : r ∈ filterNull true v) : conflict l r = false := by
  induction n with
  | zero => rcases v with - | leaf <;> simp [filterNull] at hl hr
  | succ n ih =>
      rcases v with (- | leaf) | m
      · simp [filterNull] at hl
      · simp [filterNull] at hr
      · by_cases hempty : m = ∅
        · simp [filterNull, hempty] at hr
        · obtain ⟨-, hl⟩ := Option.ite_none_left_eq_some.mp ((filterNull_obj false hempty).symm.trans hl)
          obtain ⟨-, hr⟩ := Option.ite_none_left_eq_some.mp ((filterNull_obj true hempty).symm.trans hr)
          obtain rfl := Option.some.inj hl
          obtain rfl := Option.some.inj hr
          exact conflictMembers_filterMembers ih m

/-- **Three-way patches of two documents** are plain differences. -/
theorem createThreeWay_same {n : Nat} (old new : Object L n) :
    createThreeWay old new old = some (diffMembers null diff old new) := by
  have hconflict := conflictMembers_filterMembers conflict_filterNull (diffMembers null diff old new)
  simp only [createThreeWay, hconflict, Bool.false_eq_true, if_false]
  exact congrArg some (mergeMembers_filterMembers merge_filterNull _)

end Difference

end MergePatch
