/-
TopologyExporter/NRT.lean

The `NodeResourceTopology` object (v1alpha2) and its JSON form, as far as merge
patches can see it: the member structure of the object down to the single label
and annotation, with arrays as leaves.

The fields the API server assigns are kept apart from the others, so that two
objects have the same content if they agree in everything a client writes.
`NodeResourceTopology` has no status, and its type meta is the same in every object.

`decode_encode` is the round trip.  `applyPatch_foreign` says what a merge
leaves alone: the labels and annotations the patch does not mention.

Patches are computed by a library, which is a parameter (`PatchLibrary`).  It reads
every number as a `float64`, so that the costs of the zones may be rounded on the way:
a patch leads to the new object if they are not (`applyPatch_makeNRTPatch`).
-/
import TopologyExporter.MergePatch
import TopologyExporter.Monitor

namespace TopologyExporter

open GoMap MergePatch

/-! ### The object -/

/-- `metav1.OwnerReference`. -/
structure OwnerReference where
  apiVersion : String
  kind : String
  name : String
  uid : String
  controller : Option Bool := none
  blockOwnerDeletion : Option Bool := none
  deriving DecidableEq, Repr

/-- What a client writes of a `NodeResourceTopology`. -/
structure NRTContent where
  name : String
  labels : GoMap String String
  annotations : GoMap String String
  ownerReferences : List OwnerReference
  finalizers : List String
  topologyPolicies : List String
  zones : Option (List Zone)
  attributes : List AttributeInfo

/-- What the API server assigns. -/
structure ServerMeta where
  resourceVersion : Nat
  uid : Nat
  creationTimestamp : Nat
  deriving DecidableEq, Repr, Inhabited

/-- `v1alpha2.NodeResourceTopology`. -/
structure NodeResourceTopology extends NRTContent where
  serverMeta : ServerMeta

/-! ### The JSON form -/

/-- What a merge patch takes as a unit. -/
inductive Leaf
  | str (s : String)
  | num (n : Nat)
  | strings (l : List String)
  | references (l : List OwnerReference)
  | zones (l : List Zone)
  | attributes (l : List AttributeInfo)
  deriving DecidableEq

/-- A `map[string]string` with `omitempty`. -/
def encodeStrings (m : GoMap String String) : Option (Value Leaf 1) :=
  if m = ∅ then none
  else some (obj (ofFn m.keys fun k => (m.lookup k).map fun s => leaf (Leaf.str s)))

/-- A slice with `omitempty`. -/
def encodeSlice {α : Type} {n : Nat} (toLeaf : List α → Leaf) : List α → Option (Value Leaf n)
  | [] => none
  | l => some (leaf (toLeaf l))

/-- The members of `metadata`. -/
def metadataMember (nrt : NodeResourceTopology) : String → Option (Value Leaf 1)
  | "name" => some (leaf (Leaf.str nrt.name))
  | "labels" => encodeStrings nrt.labels
  | "annotations" => encodeStrings nrt.annotations
  | "ownerReferences" => encodeSlice Leaf.references nrt.ownerReferences
  | "finalizers" => encodeSlice Leaf.strings nrt.finalizers
  | "resourceVersion" => some (leaf (Leaf.num nrt.serverMeta.resourceVersion))
  | "uid" => some (leaf (Leaf.num nrt.serverMeta.uid))
  | "creationTimestamp" => some (leaf (Leaf.num nrt.serverMeta.creationTimestamp))
  | _ => none

def encodeMetadata (nrt : NodeResourceTopology) : Object Leaf 1 :=
  ofFn {"name", "labels", "annotations", "ownerReferences", "finalizers", "resourceVersion", "uid",
    "creationTimestamp"} (metadataMember nrt)

/-- The members of the object.  `zones` has no `omitempty`: nil zones are a null. -/
def nrtMember (nrt : NodeResourceTopology) : String → Option (Value Leaf 2)
  | "metadata" => some (obj (encodeMetadata nrt))
  | "topologyPolicies" => encodeSlice Leaf.strings nrt.topologyPolicies
  | "zones" => some (nrt.zones.elim null fun zones => leaf (Leaf.zones zones))
  | "attributes" => encodeSlice Leaf.attributes nrt.attributes
  | _ => none

/-- `json.Marshal`. -/
def encode (nrt : NodeResourceTopology) : Object Leaf 2 :=
  ofFn {"metadata", "topologyPolicies", "zones", "attributes"} (nrtMember nrt)

@[simp] theorem lookup_encodeMetadata (nrt : NodeResourceTopology) (key : String) :
    (encodeMetadata nrt).lookup key = metadataMember nrt key := by
  refine lookup_ofFn_eq fun hkey => ?_
  unfold metadataMember
  split <;> first | rfl | exact absurd hkey (by decide)

@[simp] theorem lookup_encode (nrt : NodeResourceTopology) (key : String) :
    (encode nrt).lookup key = nrtMember nrt key := by
  refine lookup_ofFn_eq fun hkey => ?_
  unfold nrtMember
  split <;> first | rfl | exact absurd hkey (by decide)

/-! ### Reading it back -/

/-- A string member; a null reads as the empty string. -/
def stringOf : Value Leaf 0 → Option String
  | none => some ""
  | some (Leaf.str s) => some s
  | some _ => none

/-- Read a `map[string]string`; missing and null are the empty map. -/
def decodeStrings : Option (Value Leaf 1) → Option (GoMap String String)
  | none => some ∅
  | some (Sum.inl none) => some ∅
  | some (Sum.inl (some _)) => none
  | some (Sum.inr m) =>
      if ∀ k ∈ m.keys, ((m.lookup k).bind stringOf).isSome then
        some (ofFn m.keys fun k => (m.lookup k).bind stringOf)
      else none

/-- Read a leaf; missing and null are the zero value. -/
def decodeLeaf {α : Type} {n : Nat} (ofLeaf : Leaf → Option α) (zero : α) :
    Option (Value Leaf (n + 1)) → Option α
  | none => some zero
  | some (Sum.inl none) => some zero
  | some (Sum.inl (some l)) => ofLeaf l
  | some (Sum.inr _) => none

def Leaf.str? : Leaf → Option String
  | str s => some s
  | _ => none

def Leaf.num? : Leaf → Option Nat
  | num n => some n
  | _ => none

def Leaf.strings? : Leaf → Option (List String)
  | strings l => some l
  | _ => none

def Leaf.references? : Leaf → Option (List OwnerReference)
  | references l => some l
  | _ => none

def Leaf.zones? : Leaf → Option (Option (List Zone))
  | zones l => some (some l)
  | _ => none

def Leaf.attributes? : Leaf → Option (List AttributeInfo)
  | attributes l => some l
  | _ => none

/-- `json.Unmarshal`. -/
def decode (doc : Object Leaf 2) : Option NodeResourceTopology := do
  let metadata := members (doc.lookup "metadata")
  let name ← decodeLeaf Leaf.str? "" (metadata.lookup "name")
  let labels ← decodeStrings (metadata.lookup "labels")
  let annotations ← decodeStrings (metadata.lookup "annotations")
  let ownerReferences ← decodeLeaf Leaf.references? [] (metadata.lookup "ownerReferences")
  let finalizers ← decodeLeaf Leaf.strings? [] (metadata.lookup "finalizers")
  let resourceVersion ← decodeLeaf Leaf.num? 0 (metadata.lookup "resourceVersion")
  let uid ← decodeLeaf Leaf.num? 0 (metadata.lookup "uid")
  let creationTimestamp ← decodeLeaf Leaf.num? 0 (metadata.lookup "creationTimestamp")
  let topologyPolicies ← decodeLeaf Leaf.strings? [] (doc.lookup "topologyPolicies")
  let zones ← decodeLeaf Leaf.zones? none (doc.lookup "zones")
  let attributes ← decodeLeaf Leaf.attributes? [] (doc.lookup "attributes")
  return { name, labels, annotations, ownerReferences, finalizers, topologyPolicies, zones,
           attributes, serverMeta := { resourceVersion, uid, creationTimestamp } }

theorem encodeStrings_empty : encodeStrings ∅ = none := if_pos rfl

theorem encodeStrings_of_ne {m : GoMap String String} (hm : m ≠ ∅) :
    ∃ doc : Object Leaf 0, encodeStrings m = some (obj doc)
      ∧ ∀ k, doc.lookup k = (m.lookup k).map fun s => leaf (Leaf.str s) := by
  refine ⟨_, if_neg hm, fun k => lookup_ofFn_eq fun hk => ?_⟩
  rw [Finmap.lookup_eq_none.mpr (mt Finmap.mem_keys.mpr hk), Option.map_none]

theorem lookup_of_encodeStrings (m : GoMap String String) (k : String) :
    (members (encodeStrings m)).lookup k = (m.lookup k).map fun s => leaf (Leaf.str s) := by
  by_cases hm : m = ∅
  · rw [hm, encodeStrings_empty, Finmap.lookup_empty]
    exact Finmap.lookup_empty k
  · obtain ⟨doc, hdoc, hlookup⟩ := encodeStrings_of_ne hm
    rw [hdoc, members_obj, hlookup]

/-- What a decoded string map holds. -/
theorem lookup_decodeStrings {m : Object Leaf 0} {strings : GoMap String String}
    (h : decodeStrings (some (obj m)) = some strings) (k : String) :
    strings.lookup k = (m.lookup k).bind stringOf := by
  obtain ⟨-, h⟩ := Option.ite_none_right_eq_some.mp h
  obtain rfl := Option.some.inj h
  refine lookup_ofFn_eq fun hk => ?_
  rw [Finmap.lookup_eq_none.mpr (mt Finmap.mem_keys.mpr hk), Option.bind_none]

theorem decodeStrings_obj {m : Object Leaf 0} {strings : GoMap String String}
    (h : ∀ k, m.lookup k = (strings.lookup k).map fun s => leaf (Leaf.str s)) :
    decodeStrings (some (obj m)) = some strings := by
  have hread : ∀ k, (m.lookup k).bind stringOf = strings.lookup k := fun k => by
    rw [h]
    rcases strings.lookup k with - | s <;> rfl
  have hok : ∀ k ∈ m.keys, ((m.lookup k).bind stringOf).isSome := fun k hk => by
    obtain ⟨v, hv⟩ := Finmap.mem_iff.mp (Finmap.mem_keys.mp hk)
    obtain ⟨s, hs, -⟩ := Option.map_eq_some_iff.mp ((h k).symm.trans hv)
    rw [hread, hs, Option.isSome_some]
  have hdecode : decodeStrings (some (obj m)) = some _ := if_pos hok
  refine hdecode.trans (congrArg some (Finmap.ext_lookup fun k => ?_))
  rw [lookup_decodeStrings hdecode, hread]

theorem decodeStrings_encodeStrings (m : GoMap String String) :
    decodeStrings (encodeStrings m) = some m := by
  by_cases hm : m = ∅
  · rw [hm, encodeStrings_empty, decodeStrings]
  · obtain ⟨doc, hdoc, hlookup⟩ := encodeStrings_of_ne hm
    rw [hdoc, decodeStrings_obj hlookup]

theorem decodeLeaf_encodeSlice {α : Type} {n : Nat} {toLeaf : List α → Leaf}
    {ofLeaf : Leaf → Option (List α)} (h : ∀ l, ofLeaf (toLeaf l) = some l) (l : List α) :
    decodeLeaf (n := n) ofLeaf [] (encodeSlice toLeaf l) = some l := by
  cases l with
  | nil => rfl
  | cons a l => exact h (a :: l)

theorem members_metadata_encode (nrt : NodeResourceTopology) :
    members ((encode nrt).lookup "metadata") = encodeMetadata nrt := by
  rw [lookup_encode]
  rfl

/-- **Round trip.** -/
theorem decode_encode (nrt : NodeResourceTopology) : decode (encode nrt) = some nrt := by
  have hzones : decodeLeaf Leaf.zones? none (nrtMember nrt "zones") = some nrt.zones := by
    show decodeLeaf Leaf.zones? none (some (nrt.zones.elim null _)) = _
    rcases nrt.zones with - | zones <;> rfl
  simp only [decode]
  rw [members_metadata_encode]
  simp only [lookup_encode, lookup_encodeMetadata, hzones]
  simp only [metadataMember, nrtMember, decodeStrings_encodeStrings]
  rw [decodeLeaf_encodeSlice (fun _ => rfl), decodeLeaf_encodeSlice (fun _ => rfl),
    decodeLeaf_encodeSlice (fun _ => rfl), decodeLeaf_encodeSlice (fun _ => rfl)]
  rfl

/-! ### Nulls -/

theorem nullFree_encodeStrings (m : GoMap String String) : ∀ v ∈ encodeStrings m, NullFree v := by
  intro v hv
  by_cases hm : m = ∅
  · rw [hm, encodeStrings_empty] at hv
    cases hv
  · obtain ⟨doc, hdoc, hlookup⟩ := encodeStrings_of_ne hm
    rw [hdoc] at hv
    obtain rfl := Option.some.inj hv
    intro k w hw
    obtain ⟨s, -, rfl⟩ := Option.map_eq_some_iff.mp ((hlookup k).symm.trans hw)
    exact nullFree_leaf (Leaf.str s)

theorem nullFree_encodeSlice {α : Type} {n : Nat} (toLeaf : List α → Leaf) (l : List α) :
    ∀ v ∈ encodeSlice (n := n) toLeaf l, NullFree v := by
  intro v hv
  cases l with
  | nil => cases hv
  | cons a l =>
      obtain rfl := Option.some.inj hv
      exact nullFree_leaf _

theorem nullFree_encodeMetadata (nrt : NodeResourceTopology) : NullFree (obj (encodeMetadata nrt)) := by
  intro key v hv
  rw [lookup_encodeMetadata] at hv
  unfold metadataMember at hv
  split at hv <;>
    first
    | exact nullFree_encodeStrings _ v hv
    | exact nullFree_encodeSlice _ _ v hv
    | (obtain rfl := Option.some.inj hv; exact nullFree_leaf _)
    | cases hv

/-- The JSON form has no null unless the zones are nil. -/
theorem nullFree_encode {nrt : NodeResourceTopology} (h : nrt.zones ≠ none) (key : String)
    (v : Value Leaf 2) (hv : v ∈ (encode nrt).lookup key) : NullFree v := by
  rw [lookup_encode] at hv
  unfold nrtMember at hv
  split at hv
  · obtain rfl := Option.some.inj hv
    exact nullFree_encodeMetadata nrt
  · exact nullFree_encodeSlice _ _ v hv
  · obtain ⟨zones, hzones⟩ := Option.ne_none_iff_exists'.mp h
    rw [hzones] at hv
    obtain rfl := Option.some.inj hv
    exact nullFree_leaf (Leaf.zones zones)
  · exact nullFree_encodeSlice _ _ v hv
  · cases hv

/-! ### The patch library -/

/-- A zone with its costs rounded. -/
def Zone.rounded (round : Int → Int) (zone : Zone) : Zone :=
  { zone with costs := zone.costs.map fun cost => { cost with value := round cost.value } }

/-- The costs are the only numbers of the JSON form: quantities, and what the server
assigns, are strings there. -/
def Leaf.rounded (round : Int → Int) : Leaf → Leaf
  | .zones l => .zones (l.map (Zone.rounded round))
  | l => l

/-- A document that is read with every number as a `float64`. -/
def roundedDocument (round : Int → Int) (doc : Object Leaf 2) : Object Leaf 2 :=
  mapMembers (mapLeaves (Leaf.rounded round)) doc

/-- The library of `CreateThreeWayJSONMergePatch`, and what is asked of it.  It reads numbers
as `float64` and writes them back; `round` is what becomes of an integer on the way, and up to
`2 ^ 53` that is the integer itself.  The three-way patch with one document as original and as
current one is the difference of the two documents. -/
structure PatchLibrary where
  createThreeWayJSONMergePatch (original modified current : Object Leaf 2) : Option (Object Leaf 2)
  round : Int → Int
  round_exact : ∀ n : Int, n.natAbs ≤ 2 ^ 53 → round n = n
  createThreeWay_same : ∀ old new, createThreeWayJSONMergePatch old new old
    = some (diffMembers null diff (roundedDocument round old) (roundedDocument round new))

/-- An integer as a `float64`, which has 53 binary digits; in the middle the even neighbour. -/
def roundFloat64 (n : Int) : Int :=
  if n.natAbs ≤ 2 ^ 53 then n
  else
    let unit := 2 ^ (n.natAbs.log2 - 52)
    let below := n.natAbs / unit
    let rest := n.natAbs % unit
    let nearest := if 2 * rest < unit ∨ 2 * rest = unit ∧ below % 2 = 0 then below else below + 1
    n.sign * (nearest * unit : Nat)

theorem roundFloat64_exact (n : Int) (h : n.natAbs ≤ 2 ^ 53) : roundFloat64 n = n := if_pos h

theorem createThreeWay_rounded (old new : Object Leaf 2) :
    createThreeWay (roundedDocument roundFloat64 old) (roundedDocument roundFloat64 new)
        (roundedDocument roundFloat64 old)
      = some (diffMembers null diff (roundedDocument roundFloat64 old)
          (roundedDocument roundFloat64 new)) :=
  createThreeWay_same _ _

/-- A library that computes three-way patches by their definition. -/
def threeWayLibrary : PatchLibrary where
  createThreeWayJSONMergePatch original modified current :=
    createThreeWay (roundedDocument roundFloat64 original) (roundedDocument roundFloat64 modified)
      (roundedDocument roundFloat64 current)
  round := roundFloat64
  round_exact := roundFloat64_exact
  createThreeWay_same := createThreeWay_rounded

/-- The object with its costs rounded. -/
def NodeResourceTopology.rounded (round : Int → Int) (nrt : NodeResourceTopology) :
    NodeResourceTopology :=
  { nrt with zones := nrt.zones.map fun zones => zones.map (Zone.rounded round) }

/-- All costs are integers that a `float64` holds. -/
def ExactCosts (zones : Option (List Zone)) : Prop :=
  ∀ l ∈ zones, ∀ zone ∈ l, ∀ cost ∈ zone.costs, cost.value.natAbs ≤ 2 ^ 53

instance (zones : Option (List Zone)) : Decidable (ExactCosts zones) :=
  inferInstanceAs (Decidable (∀ l ∈ zones, ∀ zone ∈ l, ∀ cost ∈ zone.costs,
    cost.value.natAbs ≤ 2 ^ 53))

theorem mapLeaves_encodeStrings (round : Int → Int) (m : GoMap String String) :
    (encodeStrings m).map (mapLeaves (Leaf.rounded round)) = encodeStrings m := by
  by_cases hm : m = ∅
  · rw [hm, encodeStrings_empty, Option.map_none]
  · obtain ⟨doc, hdoc, hlookup⟩ := encodeStrings_of_ne hm
    rw [hdoc, Option.map_some, mapLeaves_obj]
    refine congrArg (some ∘ obj) (Finmap.ext_lookup fun k => ?_)
    rw [lookup_mapMembers, hlookup]
    rcases m.lookup k with - | s <;> rfl

theorem mapLeaves_encodeSlice {α : Type} {n : Nat} {round : Int → Int} {toLeaf : List α → Leaf}
    (h : ∀ l, (toLeaf l).rounded round = toLeaf l) (l : List α) :
    (encodeSlice (n := n) toLeaf l).map (mapLeaves (Leaf.rounded round)) = encodeSlice toLeaf l := by
  cases l with
  | nil => rfl
  | cons a l =>
      show some (mapLeaves _ (leaf (toLeaf (a :: l)))) = some (leaf (toLeaf (a :: l)))
      rw [mapLeaves_leaf, h]

theorem mapLeaves_metadata (round : Int → Int) (nrt : NodeResourceTopology) :
    mapMembers (mapLeaves (Leaf.rounded round)) (encodeMetadata nrt)
      = encodeMetadata (nrt.rounded round) := by
  refine Finmap.ext_lookup fun key => ?_
  rw [lookup_mapMembers, lookup_encodeMetadata, lookup_encodeMetadata]
  unfold metadataMember
  split <;>
    first
    | exact mapLeaves_encodeStrings round _
    | exact mapLeaves_encodeSlice (fun _ => rfl) _
    | rfl

/-- **Only the costs are rounded** when the JSON form of an object is read. -/
theorem roundedDocument_encode (round : Int → Int) (nrt : NodeResourceTopology) :
    roundedDocument round (encode nrt) = encode (nrt.rounded round) := by
  refine Finmap.ext_lookup fun key => ?_
  rw [roundedDocument, lookup_mapMembers, lookup_encode, lookup_encode]
  unfold nrtMember
  split
  · rw [Option.map_some, mapLeaves_obj, mapLeaves_metadata]
  · exact mapLeaves_encodeSlice (fun _ => rfl) _
  · rw [NodeResourceTopology.rounded]
    rcases nrt.zones with - | zones
    · exact congrArg some (mapLeaves_null _)
    · exact congrArg some (mapLeaves_leaf _ _)
  · exact mapLeaves_encodeSlice (fun _ => rfl) _
  · rfl

theorem Zone.rounded_of_exact {lib : PatchLibrary} {zone : Zone}
    (h : ∀ cost ∈ zone.costs, cost.value.natAbs ≤ 2 ^ 53) : zone.rounded lib.round = zone := by
  have hcosts : (zone.costs.map fun cost => { cost with value := lib.round cost.value })
      = zone.costs := by
    refine (List.map_congr_left fun cost hcost => ?_).trans (List.map_id _)
    rw [lib.round_exact cost.value (h cost hcost)]
    rfl
  rw [Zone.rounded, hcosts]

/-- Exact costs are not rounded. -/
theorem NodeResourceTopology.rounded_of_exact {lib : PatchLibrary} {nrt : NodeResourceTopology}
    (h : ExactCosts nrt.zones) : nrt.rounded lib.round = nrt := by
  have hzones : (nrt.zones.map fun zones => zones.map (Zone.rounded lib.round)) = nrt.zones := by
    rcases hnrt : nrt.zones with - | zones
    · rfl
    · refine congrArg some ((List.map_congr_left fun zone hzone => ?_).trans (List.map_id _))
      exact Zone.rounded_of_exact (h zones hnrt zone hzone)
  rw [NodeResourceTopology.rounded, hzones]

/-! ### Patches -/

/-- `MakeNRTPatch`; nothing if the library fails.  The size of the full object, which only a
metric reads, is left out. -/
def makeNRTPatch (lib : PatchLibrary) (nrtOld nrtNew : NodeResourceTopology) :
    Option (Object Leaf 2) :=
  lib.createThreeWayJSONMergePatch (encode nrtOld) (encode nrtNew) (encode nrtOld)

/-- The difference of two objects whose costs have been rounded. -/
def PatchLibrary.difference (lib : PatchLibrary) (nrtOld nrtNew : NodeResourceTopology) :
    Object Leaf 2 :=
  diffMembers null diff (encode (nrtOld.rounded lib.round)) (encode (nrtNew.rounded lib.round))

/-- A merge patch applied to an object. -/
def applyPatch (nrt : NodeResourceTopology) (patch : Object Leaf 2) : Option NodeResourceTopology :=
  decode (mergeMembers merge (encode nrt) patch)

/-- Making a patch never fails. -/
theorem makeNRTPatch_eq (lib : PatchLibrary) (nrtOld nrtNew : NodeResourceTopology) :
    makeNRTPatch lib nrtOld nrtNew = some (lib.difference nrtOld nrtNew) := by
  rw [makeNRTPatch, lib.createThreeWay_same, roundedDocument_encode, roundedDocument_encode]
  rfl

/-- **The patch does what it is for**: applied to the old object it gives the new one, if the
costs of both are exact. -/
theorem applyPatch_makeNRTPatch {lib : PatchLibrary} {nrtOld nrtNew : NodeResourceTopology}
    {patch : Object Leaf 2} (hzones : nrtNew.zones ≠ none) (hold : ExactCosts nrtOld.zones)
    (hnew : ExactCosts nrtNew.zones) (h : makeNRTPatch lib nrtOld nrtNew = some patch) :
    applyPatch nrtOld patch = some nrtNew := by
  rw [makeNRTPatch_eq, PatchLibrary.difference, NodeResourceTopology.rounded_of_exact hold,
    NodeResourceTopology.rounded_of_exact hnew] at h
  obtain rfl := Option.some.inj h
  rw [applyPatch, mergeMembers_diff (nullFree_encode hzones), decode_encode]

/-! ### What a patch leaves alone -/

/-- A patch that says nothing of labels and of `foreign` annotations. -/
def ForeignFree (foreign : String → Prop) (patch : Object Leaf 2) : Prop :=
  ∀ v ∈ patch.lookup "metadata", ∃ metadata : Object Leaf 1, v = obj metadata
    ∧ metadata.lookup "labels" = none
    ∧ ∀ a ∈ metadata.lookup "annotations", ∃ annotations : Object Leaf 0, a = obj annotations
      ∧ ∀ k, foreign k → annotations.lookup k = none

/-- What the difference of two string maps says of a key on which they differ. -/
theorem diff_encodeStrings {old new : GoMap String String} (hnew : new ≠ ∅) {a : Value Leaf 1}
    (ha : a ∈ diffMember null diff (encodeStrings old) (encodeStrings new)) :
    ∃ doc : Object Leaf 0, a = obj doc
      ∧ ∀ k, doc.lookup k = if new.lookup k = old.lookup k then none
          else some ((new.lookup k).elim null fun s => leaf (Leaf.str s)) := by
  obtain ⟨docNew, hdocNew, hlookupNew⟩ := encodeStrings_of_ne hnew
  rw [hdocNew] at ha
  by_cases hold : old = ∅
  · -- an empty map is left out of the document, so the whole new one is the difference
    rw [hold, encodeStrings_empty] at ha
    obtain rfl := Option.some.inj ha
    refine ⟨docNew, rfl, fun k => ?_⟩
    rw [hlookupNew, hold, Finmap.lookup_empty]
    rcases new.lookup k with - | s <;> rfl
  · obtain ⟨docOld, hdocOld, hlookupOld⟩ := encodeStrings_of_ne hold
    rw [hdocOld] at ha
    obtain ⟨-, ha⟩ := Option.ite_none_left_eq_some.mp ha
    obtain rfl := Option.some.inj ha
    refine ⟨_, rfl, fun k => ?_⟩
    rw [lookup_diffMembers, hlookupOld, hlookupNew]
    by_cases hsame : new.lookup k = old.lookup k
    · rw [if_pos hsame, hsame, diffMember_self]
    · rw [if_neg hsame]
      rcases hk : old.lookup k with - | s <;> rcases hk' : new.lookup k with - | s'
      · exact absurd (hk'.trans hk.symm) hsame
      · rfl
      · rfl
      · refine (diff_leaf _ _).trans (if_neg fun heq => hsame ?_)
        rw [hk, hk', Leaf.str.inj heq]

/-- The difference of two string maps does not mention a key on which they agree. -/
theorem lookup_diff_encodeStrings {old new : GoMap String String} (hnew : new ≠ ∅)
    {a : Value Leaf 1} (ha : a ∈ diffMember null diff (encodeStrings old) (encodeStrings new)) :
    ∃ annotations : Object Leaf 0, a = obj annotations
      ∧ ∀ k, new.lookup k = old.lookup k → annotations.lookup k = none := by
  obtain ⟨annotations, rfl, hlookup⟩ := diff_encodeStrings hnew ha
  refine ⟨annotations, rfl, fun k hk => ?_⟩
  rw [hlookup, if_pos hk]

theorem foreignFree_makeNRTPatch {lib : PatchLibrary} {foreign : String → Prop}
    {nrtOld nrtNew : NodeResourceTopology} {patch : Object Leaf 2}
    (hlabels : nrtNew.labels = nrtOld.labels)
    (hannotations : ∀ k, foreign k → nrtNew.annotations.lookup k = nrtOld.annotations.lookup k)
    (hne : nrtNew.annotations ≠ ∅) (h : makeNRTPatch lib nrtOld nrtNew = some patch) :
    ForeignFree foreign patch := by
  rw [makeNRTPatch_eq] at h
  obtain rfl := Option.some.inj h
  intro v hv
  rw [PatchLibrary.difference, lookup_diffMembers, lookup_encode, lookup_encode] at hv
  obtain ⟨-, hv⟩ := Option.ite_none_left_eq_some.mp hv
  obtain rfl := Option.some.inj hv
  refine ⟨_, rfl, lookup_diff_of_eq ?_, fun a ha => ?_⟩
  · rw [lookup_encodeMetadata, lookup_encodeMetadata]
    exact congrArg encodeStrings hlabels.symm
  · rw [lookup_diffMembers, lookup_encodeMetadata, lookup_encodeMetadata] at ha
    obtain ⟨annotations, rfl, hlookup⟩ := lookup_diff_encodeStrings hne ha
    exact ⟨annotations, rfl, fun k hk => hlookup k (hannotations k hk)⟩

/-- What decoding reads labels and annotations from. -/
theorem decode_strings {doc : Object Leaf 2} {nrt : NodeResourceTopology}
    (h : decode doc = some nrt) :
    decodeStrings ((members (doc.lookup "metadata")).lookup "labels") = some nrt.labels
      ∧ decodeStrings ((members (doc.lookup "metadata")).lookup "annotations")
        = some nrt.annotations := by
  obtain ⟨name, -, h⟩ := Option.bind_eq_some_iff.mp h
  obtain ⟨labels, hlabels, h⟩ := Option.bind_eq_some_iff.mp h
  obtain ⟨annotations, hannotations, h⟩ := Option.bind_eq_some_iff.mp h
  -- the other eight members
  iterate 8 obtain ⟨_, -, h⟩ := Option.bind_eq_some_iff.mp h
  obtain rfl := Option.some.inj h
  exact ⟨hlabels, hannotations⟩

/-- The metadata after a merge, of which only metadata was said. -/
theorem members_metadata_merge {foreign : String → Prop} {patch : Object Leaf 2}
    (hpatch : ForeignFree foreign patch) (cur : NodeResourceTopology) :
    ∃ metadata : Object Leaf 1,
      members ((mergeMembers merge (encode cur) patch).lookup "metadata")
          = mergeMembers merge (encodeMetadata cur) metadata
        ∧ metadata.lookup "labels" = none
        ∧ ∀ a ∈ metadata.lookup "annotations", ∃ annotations : Object Leaf 0, a = obj annotations
          ∧ ∀ k, foreign k → annotations.lookup k = none := by
  rw [lookup_mergeMembers]
  rcases hv : patch.lookup "metadata" with - | v
  · refine ⟨∅, ?_, Finmap.lookup_empty _, fun a ha => ?_⟩
    · rw [mergeMembers_empty, mergeMember, members_metadata_encode]
    · rw [Finmap.lookup_empty] at ha
      cases ha
  · obtain ⟨metadata, rfl, hlabels, hannotations⟩ := hpatch v hv
    refine ⟨metadata, ?_, hlabels, hannotations⟩
    rw [mergeMember, merge_obj, members_obj, members_metadata_encode]

/-- **Foreign fields survive a merge.** -/
theorem applyPatch_foreign {foreign : String → Prop} {cur nrt : NodeResourceTopology}
    {patch : Object Leaf 2} (hpatch : ForeignFree foreign patch) (h : applyPatch cur patch = some nrt) :
    nrt.labels = cur.labels
      ∧ ∀ k, foreign k → nrt.annotations.lookup k = cur.annotations.lookup k := by
  obtain ⟨metadata, hmerge, hnone, hannotations⟩ := members_metadata_merge hpatch cur
  have hdecode := decode_strings h
  rw [hmerge, lookup_mergeMembers, lookup_mergeMembers, hnone, lookup_encodeMetadata,
    lookup_encodeMetadata] at hdecode
  have hlabels : decodeStrings (encodeStrings cur.labels) = some nrt.labels := hdecode.1
  have hannots : decodeStrings (mergeMember merge (encodeStrings cur.annotations)
      (metadata.lookup "annotations")) = some nrt.annotations := hdecode.2
  rw [decodeStrings_encodeStrings] at hlabels
  refine ⟨(Option.some.inj hlabels).symm, fun k hk => ?_⟩
  rcases ha : metadata.lookup "annotations" with - | a
  · rw [ha, mergeMember, decodeStrings_encodeStrings] at hannots
    rw [Option.some.inj hannots]
  · obtain ⟨annotations, rfl, hforeign⟩ := hannotations a ha
    rw [ha, mergeMember, merge_obj] at hannots
    rw [lookup_decodeStrings hannots, lookup_mergeMembers_of_none (hforeign k hk),
      lookup_of_encodeStrings]
    rcases cur.annotations.lookup k with - | s <;> rfl

/-! ### A patch on another object -/

/-- A slice that the patch gives is taken from it. -/
theorem decode_merge_slice {α : Type} [DecidableEq α] {n : Nat} {toLeaf : List α → Leaf}
    {ofLeaf : Leaf → Option (List α)} (h : ∀ l, ofLeaf (toLeaf l) = some l) (cur old new : List α) :
    decodeLeaf (n := n) ofLeaf [] (mergeMember merge (encodeSlice toLeaf cur)
        (diffMember null diff (encodeSlice toLeaf old) (encodeSlice toLeaf new)))
      = some (if new = old then cur else new) := by
  by_cases hsame : new = old
  · rw [if_pos hsame, hsame, diffMember_self]
    exact decodeLeaf_encodeSlice h cur
  · rw [if_neg hsame]
    rcases old with - | ⟨a, old⟩ <;> rcases new with - | ⟨b, new⟩
    · exact absurd rfl hsame
    · exact h (b :: new)
    · rfl
    · have hne : toLeaf (a :: old) ≠ toLeaf (b :: new) := fun heq =>
        hsame (Option.some.inj ((h _).symm.trans ((congrArg ofLeaf heq.symm).trans (h _))))
      simp only [encodeSlice, diffMember, diff_leaf, if_neg hne, mergeMember, merge_leaf]
      exact h (b :: new)

/-- So are the zones. -/
theorem decode_merge_zones (cur old new : Option (List Zone)) :
    decodeLeaf Leaf.zones? none (mergeMember merge
        (some (cur.elim null fun zones => leaf (Leaf.zones zones) : Value Leaf 2))
        (diffMember null diff (some (old.elim null fun zones => leaf (Leaf.zones zones)))
          (some (new.elim null fun zones => leaf (Leaf.zones zones)))))
      = some (if new = old then cur else new) := by
  by_cases hsame : new = old
  · rw [if_pos hsame, hsame, diffMember_self]
    rcases cur with - | zones <;> rfl
  · rw [if_neg hsame]
    rcases old with - | old <;> rcases new with - | new
    · exact absurd rfl hsame
    · rfl
    · rfl
    · have hne : Leaf.zones old ≠ Leaf.zones new := fun heq =>
        hsame (congrArg some (Leaf.zones.inj heq).symm)
      simp only [Option.elim, diffMember, diff_leaf, if_neg hne, mergeMember, merge_leaf]
      rfl

/-- A string map is merged key by key. -/
theorem decode_merge_strings (cur old : GoMap String String) {new : GoMap String String}
    (hnew : new ≠ ∅) :
    ∃ strings, decodeStrings (mergeMember merge (encodeStrings cur)
      (diffMember null diff (encodeStrings old) (encodeStrings new))) = some strings := by
  rcases hpatch : diffMember null diff (encodeStrings old) (encodeStrings new) with - | patch
  · exact ⟨cur, decodeStrings_encodeStrings cur⟩
  · obtain ⟨doc, rfl, hdoc⟩ := diff_encodeStrings hnew hpatch
    refine ⟨ofFn (cur.keys ∪ new.keys) fun k =>
      if new.lookup k = old.lookup k then cur.lookup k else new.lookup k, ?_⟩
    rw [mergeMember, merge_obj]
    refine decodeStrings_obj fun k => ?_
    rw [lookup_mergeMembers, lookup_of_encodeStrings, hdoc, lookup_ofFn_eq]
    · by_cases hsame : new.lookup k = old.lookup k
      · rw [if_pos hsame, if_pos hsame]
        rfl
      · rw [if_neg hsame, if_neg hsame]
        rcases new.lookup k with - | s
        · exact merge_null _
        · exact merge_leaf _ _
    · intro hk
      rw [Finset.mem_union, not_or, Finmap.mem_keys, Finmap.mem_keys] at hk
      rw [Finmap.lookup_eq_none.mpr hk.1, Finmap.lookup_eq_none.mpr hk.2, ite_self]

/-- **A patch on another object.**  The difference of two objects that differ in nothing the
server assigns can be applied to any object; owner references are taken from the patch if
it gives any. -/
theorem applyPatch_diff (cur : NodeResourceTopology) {old new : NodeResourceTopology}
    (hname : new.name = old.name) (hmeta : new.serverMeta = old.serverMeta)
    (hlabels : new.labels = old.labels) (hannotations : new.annotations ≠ ∅) :
    ∃ nrt, applyPatch cur (diffMembers null diff (encode old) (encode new)) = some nrt
      ∧ nrt.name = cur.name ∧ nrt.serverMeta = cur.serverMeta
      ∧ nrt.ownerReferences = if new.ownerReferences = old.ownerReferences
          then cur.ownerReferences else new.ownerReferences := by
  obtain ⟨annotations, hdecode⟩ := decode_merge_strings cur.annotations old.annotations hannotations
  have hkept : decodeStrings (mergeMember merge (encodeStrings cur.labels) none) = some cur.labels :=
    decodeStrings_encodeStrings cur.labels
  have hmetadata : members ((mergeMembers merge (encode cur)
      (diffMembers null diff (encode old) (encode new))).lookup "metadata")
      = mergeMembers merge (encodeMetadata cur)
          (diffMembers null diff (encodeMetadata old) (encodeMetadata new)) := by
    simp only [lookup_mergeMembers, lookup_diffMembers, lookup_encode]
    exact members_merge_diff _ _ _
  simp only [applyPatch, decode, hmetadata]
  simp only [lookup_mergeMembers, lookup_diffMembers, lookup_encode, lookup_encodeMetadata,
    metadataMember, nrtMember, hname, hmeta, hlabels, diffMember_self, hdecode]
  rw [decode_merge_slice (fun _ => rfl), decode_merge_slice (fun _ => rfl),
    decode_merge_slice (fun _ => rfl), decode_merge_slice (fun _ => rfl), decode_merge_zones,
    hkept]
  exact ⟨_, rfl, rfl, rfl, rfl⟩

/-- Rounding the costs changes none of this. -/
theorem applyPatch_difference (lib : PatchLibrary) (cur : NodeResourceTopology)
    {old new : NodeResourceTopology} (hname : new.name = old.name)
    (hmeta : new.serverMeta = old.serverMeta) (hlabels : new.labels = old.labels)
    (hannotations : new.annotations ≠ ∅) :
    ∃ nrt, applyPatch cur (lib.difference old new) = some nrt
      ∧ nrt.name = cur.name ∧ nrt.serverMeta = cur.serverMeta
      ∧ nrt.ownerReferences = if new.ownerReferences = old.ownerReferences
          then cur.ownerReferences else new.ownerReferences :=
  @applyPatch_diff cur (old.rounded lib.round) (new.rounded lib.round) hname hmeta hlabels
    hannotations

end TopologyExporter
