/-
TopologyExporter/ConfigOverlay.lean

A configuration that is split over several files (`cfgfile.go`).

`loadConfiglet` does not merge the nested maps of the files: it flattens each file and
overwrites flat keys, because "every path from the root to leaves will be unique by
design".  Here the trees come back.  A flat key stands for the path of its parts
(`lookup_flatten`), so that overwriting flat keys is laying one tree over the other
(`flatten_overlayDocument`): maps are merged by key at every depth, slices item by item,
and leaves are replaced.

Two things are asked of the files.  A key with a dot in it is not told apart from a path.
And where one file has a leaf and another one a map, both stay in the flat map.
-/
import TopologyExporter.ConfigFiles

namespace TopologyExporter

open GoMap GoString GoPanic

/-! ### Trees -/

/-- A decoded file. -/
abbrev Document := List (String × Yaml)

/-- The items of a slice under their numbers. -/
def numbered (i : Nat) (items : List Yaml) : Document :=
  (items.zipIdx i).map fun e => (toString e.2, e.1)

/-- What stands below a value. -/
def Yaml.members : Yaml → Document
  | .leaf _ => []
  | .map members => members
  | .slice items => numbered 0 items

/-- The value under a key. -/
def Yaml.child (y : Yaml) (key : String) : Option Yaml := y.members.lookup key

/-- The leaf at the end of a path. -/
def Yaml.leafAt : Yaml → List String → Option ConfValue
  | .leaf v, [] => some v
  | _, [] => none
  | y, key :: path => (y.child key).bind fun z => z.leafAt path

mutual

/-- A value with another one laid over it. -/
def Yaml.overlay : Yaml → Yaml → Yaml
  | .map members, .map upd =>
      .map (overlayMembers members upd ++ upd.filter fun e => (members.lookup e.1).isNone)
  | .slice items, .slice upd => .slice (overlayItems items upd)
  | _, upd => upd

/-- The members that were there. -/
def overlayMembers : Document → Document → Document
  | [], _ => []
  | (key, y) :: members, upd =>
      (key, match upd.lookup key with
        | some u => y.overlay u
        | none => y) :: overlayMembers members upd

/-- Slices are laid over each other item by item. -/
def overlayItems : List Yaml → List Yaml → List Yaml
  | [], upd => upd
  | y :: items, [] => y :: items
  | y :: items, u :: upd => y.overlay u :: overlayItems items upd

end

/-- No two members of a map have the same key, and no key has a dot in it. -/
inductive Yaml.WellFormed : Yaml → Prop
  | leaf (v : ConfValue) : Yaml.WellFormed (.leaf v)
  | map {members : Document} (hnodup : (members.map Prod.fst).Nodup)
      (hdot : ∀ e ∈ members, '.' ∉ e.1.toList) (hbelow : ∀ e ∈ members, Yaml.WellFormed e.2) :
      Yaml.WellFormed (.map members)
  | slice {items : List Yaml} (hbelow : ∀ y ∈ items, Yaml.WellFormed y) :
      Yaml.WellFormed (.slice items)

/-- Both values are leaves, or maps, or slices. -/
inductive Yaml.SameKind : Yaml → Yaml → Prop
  | leaf (v w : ConfValue) : Yaml.SameKind (.leaf v) (.leaf w)
  | map (members upd : Document) : Yaml.SameKind (.map members) (.map upd)
  | slice (items upd : List Yaml) : Yaml.SameKind (.slice items) (.slice upd)

/-- On all paths that they share, two values are of the same kind. -/
inductive Yaml.Compatible : Yaml → Yaml → Prop
  | intro {a b : Yaml} (hkind : a.SameKind b) (hbelow : ∀ key y u, a.child key = some y →
      b.child key = some u → Yaml.Compatible y u) : Yaml.Compatible a b

/-! ### Members -/

/-- Under different keys, what is looked up is what is listed. -/
theorem lookup_eq_some_iff_mem {β : Type} {l : List (String × β)} (hnodup : (l.map Prod.fst).Nodup)
    {key : String} {b : β} : l.lookup key = some b ↔ (key, b) ∈ l := by
  induction l with
  | nil => simp
  | cons e l ih =>
      obtain ⟨key', b'⟩ := e
      rw [List.map_cons, List.nodup_cons] at hnodup
      rw [List.mem_cons, Prod.mk.injEq, ← ih hnodup.2]
      by_cases hkey : key = key'
      · subst hkey
        have hnone : l.lookup key = none := by
          rw [List.lookup_eq_none_iff]
          intro p hp
          rw [bne_iff_ne]
          intro hkey
          exact hnodup.1 (List.mem_map.mpr ⟨p, hp, hkey.symm⟩)
        rw [List.lookup_cons_self, hnone]
        simp [eq_comm]
      · rw [List.lookup_cons, beq_false_of_ne hkey]
        simp [hkey]

theorem toString_injective : Function.Injective (toString : Nat → String) := by
  intro i j h
  have hlist : (Nat.repr i).toList ++ [] = (Nat.repr j).toList ++ [] := by
    rw [List.append_nil, List.append_nil]
    exact congrArg String.toList h
  exact (repr_append_inj (by simp) (by simp) hlist).1

theorem keys_numbered (i : Nat) (items : List Yaml) :
    (numbered i items).map Prod.fst = (List.range' i items.length).map toString := by
  rw [numbered, List.map_map, ← List.zipIdx_map_snd, List.map_map]
  rfl

theorem Yaml.WellFormed.nodup_keys {y : Yaml} (h : y.WellFormed) : (y.members.map Prod.fst).Nodup := by
  cases h with
  | leaf v => exact List.nodup_nil
  | map hnodup _ _ => exact hnodup
  | slice _ =>
      rw [Yaml.members, keys_numbered]
      exact (List.nodup_range' 1).map toString_injective

theorem Yaml.WellFormed.child_iff {y z : Yaml} (h : y.WellFormed) {key : String} :
    y.child key = some z ↔ (key, z) ∈ y.members :=
  lookup_eq_some_iff_mem h.nodup_keys

/-- What stands below is well formed, under a key without a dot. -/
theorem Yaml.WellFormed.of_mem_members {y z : Yaml} (h : y.WellFormed) {key : String}
    (hmem : (key, z) ∈ y.members) : '.' ∉ key.toList ∧ z.WellFormed := by
  cases h with
  | leaf v => cases hmem
  | map _ hdot hbelow => exact ⟨hdot _ hmem, hbelow _ hmem⟩
  | slice hbelow =>
      obtain ⟨⟨y, i⟩, hy, heq⟩ := List.mem_map.mp hmem
      obtain ⟨rfl, rfl⟩ := Prod.mk.inj heq
      refine ⟨fun hdot => absurd (isDigit_of_mem_repr hdot) (by decide), hbelow y ?_⟩
      exact List.mem_of_getElem? (List.mem_zipIdx_iff_getElem?.mp hy)

/-! ### Paths and keys -/

/-- The key of a path below a key. -/
def dotted (key : String) (path : List String) : String :=
  path.foldl (fun key part => enkey (some key) part) key

theorem toList_dotted (key : String) (path : List String) :
    (dotted key path).toList = ['.'].intercalate ((key :: path).map String.toList) := by
  induction path generalizing key with
  | nil => simp [dotted]
  | cons part path ih =>
      rw [dotted, List.foldl_cons, ← dotted, ih]
      rcases path with - | ⟨next, path⟩
      · simp [enkey]
      · simp [enkey]

/-- A key without dots, and the parts of a path, are found again. -/
theorem split_dotted {key : String} {path : List String}
    (h : ∀ part ∈ key :: path, '.' ∉ part.toList) : split (dotted key path) '.' = key :: path := by
  rw [← String.ofList_toList (s := dotted key path), toList_dotted]
  exact split_intercalate h (List.cons_ne_nil key path)

/-- Every key is that of a path. -/
theorem exists_dotted (key : String) : ∃ part path, split key '.' = part :: path
    ∧ dotted part path = key := by
  obtain ⟨part, path, hsplit⟩ : ∃ part path, split key '.' = part :: path := by
    apply List.exists_cons_of_ne_nil
    rw [← List.length_pos_iff_ne_nil, length_split]
    omega
  refine ⟨part, path, hsplit, ?_⟩
  rw [← String.toList_inj, toList_dotted, ← hsplit, intercalate_split]

/-! ### Flat keys -/

theorem flattenMembers_eq (path : Option String) (members : Document) :
    flattenMembers path members = members.flatMap fun e => e.2.flatten (enkey path e.1) := by
  induction members with
  | nil => rw [flattenMembers, List.flatMap_nil]
  | cons e members ih =>
      obtain ⟨key, y⟩ := e
      rw [flattenMembers, ih, List.flatMap_cons]

theorem flattenItems_eq (path : String) (i : Nat) (items : List Yaml) :
    flattenItems path i items = flattenMembers (some path) (numbered i items) := by
  induction items generalizing i with
  | nil => rfl
  | cons y items ih =>
      have hcons : numbered i (y :: items) = (toString i, y) :: numbered (i + 1) items := rfl
      rw [flattenItems, ih, hcons, flattenMembers]

/-- The flat entries below a value, if those below its members are the leaves. -/
theorem mem_flattenMembers_iff {y : Yaml} (h : y.WellFormed) (path : Option String)
    {e : String × ConfValue}
    (hbelow : ∀ m ∈ y.members, ∀ key, e ∈ m.2.flatten key
      ↔ ∃ rest, m.2.leafAt rest = some e.2 ∧ e.1 = dotted key rest) :
    e ∈ flattenMembers path y.members
      ↔ ∃ key rest, y.leafAt (key :: rest) = some e.2 ∧ e.1 = dotted (enkey path key) rest := by
  rw [flattenMembers_eq, List.mem_flatMap]
  constructor
  · rintro ⟨⟨key, z⟩, hmem, hflat⟩
    obtain ⟨rest, hleaf, hkey⟩ := (hbelow _ hmem _).mp hflat
    refine ⟨key, rest, ?_, hkey⟩
    rw [Yaml.leafAt, h.child_iff.mpr hmem, Option.bind_some, hleaf]
  · rintro ⟨key, rest, hleaf, hkey⟩
    rw [Yaml.leafAt, Option.bind_eq_some_iff] at hleaf
    obtain ⟨z, hchild, hleaf⟩ := hleaf
    have hmem := h.child_iff.mp hchild
    exact ⟨(key, z), hmem, (hbelow _ hmem _).mpr ⟨rest, hleaf, hkey⟩⟩

/-- The same under the key of the value, which is no leaf itself. -/
theorem mem_flatten_of_members {y : Yaml} (h : y.WellFormed) {key : String} {e : String × ConfValue}
    (hnil : y.leafAt [] = none) (hflat : y.flatten key = flattenMembers (some key) y.members)
    (hbelow : ∀ m ∈ y.members, ∀ key, e ∈ m.2.flatten key
      ↔ ∃ rest, m.2.leafAt rest = some e.2 ∧ e.1 = dotted key rest) :
    e ∈ y.flatten key ↔ ∃ path, y.leafAt path = some e.2 ∧ e.1 = dotted key path := by
  rw [hflat, mem_flattenMembers_iff h (some key) hbelow]
  constructor
  · rintro ⟨part, rest, hleaf, hkey⟩
    exact ⟨part :: rest, hleaf, hkey⟩
  · rintro ⟨- | ⟨part, rest⟩, hleaf, hkey⟩
    · rw [hnil] at hleaf
      cases hleaf
    · exact ⟨part, rest, hleaf, hkey⟩

/-- **The flat entries are the leaves**, under the keys of their paths. -/
theorem mem_flatten_iff {y : Yaml} (h : y.WellFormed) (key : String) (e : String × ConfValue) :
    e ∈ y.flatten key ↔ ∃ path, y.leafAt path = some e.2 ∧ e.1 = dotted key path := by
  induction h generalizing key with
  | leaf v =>
      rw [Yaml.flatten, List.mem_singleton]
      constructor
      · rintro rfl
        exact ⟨[], rfl, rfl⟩
      · rintro ⟨- | ⟨part, rest⟩, hleaf, hkey⟩
        · exact Prod.ext hkey (Option.some.inj hleaf).symm
        · cases hleaf
  | map hnodup hdot hbelow ih =>
      refine mem_flatten_of_members (.map hnodup hdot hbelow) rfl ?_ (fun m hm key => ih m hm key)
      rw [Yaml.flatten, Yaml.members]
  | slice hbelow ih =>
      refine mem_flatten_of_members (.slice hbelow) rfl ?_ (fun m hm key => ?_)
      · rw [Yaml.flatten, Yaml.members, flattenItems_eq]
      · obtain ⟨⟨y, i⟩, hy, rfl⟩ := List.mem_map.mp hm
        exact ih y (List.mem_of_getElem? (List.mem_zipIdx_iff_getElem?.mp hy)) key

/-- The parts of a path to a leaf have no dots in them. -/
theorem Yaml.WellFormed.dots {y : Yaml} (h : y.WellFormed) {path : List String} {v : ConfValue}
    (hleaf : y.leafAt path = some v) : ∀ part ∈ path, '.' ∉ part.toList := by
  induction path generalizing y with
  | nil => simp
  | cons key path ih =>
      rw [Yaml.leafAt, Option.bind_eq_some_iff] at hleaf
      obtain ⟨z, hchild, hleaf⟩ := hleaf
      obtain ⟨hdot, hz⟩ := h.of_mem_members (h.child_iff.mp hchild)
      exact List.forall_mem_cons.mpr ⟨hdot, ih hz hleaf⟩

/-- **A flat key stands for the path of its parts.** -/
theorem lookup_flatten (codec : YamlCodec) {doc : Document} (h : (Yaml.map doc).WellFormed)
    (key : String) :
    (codec.flatten doc).lookup key = (Yaml.map doc).leafAt (split key '.') := by
  have hmem : ∀ v, (key, v) ∈ flattenMembers none doc
      ↔ (Yaml.map doc).leafAt (split key '.') = some v := by
    intro v
    refine (mem_flattenMembers_iff h none fun m hm key =>
      mem_flatten_iff (h.of_mem_members hm).2 key (_, v)).trans ?_
    constructor
    · rintro ⟨part, rest, hleaf, rfl⟩
      rw [enkey, split_dotted (h.dots hleaf)]
      exact hleaf
    · intro hleaf
      obtain ⟨part, rest, hsplit, hkey⟩ := exists_dotted key
      rw [hsplit] at hleaf
      exact ⟨part, rest, hleaf, hkey.symm⟩
  rcases codec.flattens doc key with ⟨v, hv, hlookup⟩ | ⟨hnone, hlookup⟩
  · rw [hlookup, (hmem v).mp hv]
  · rw [hlookup, eq_comm, Option.eq_none_iff_forall_ne_some]
    intro v hv
    exact hnone v ((hmem v).mpr hv)

/-! ### One tree over another -/

/-- The value under a key, after another one has been laid over it. -/
def overlayChild : Option Yaml → Option Yaml → Option Yaml
  | some y, some u => some (y.overlay u)
  | some y, none => some y
  | none, u => u

theorem lookup_overlayMembers (members upd : Document) (key : String) :
    (overlayMembers members upd).lookup key
      = (members.lookup key).bind fun y => overlayChild (some y) (upd.lookup key) := by
  induction members with
  | nil => rfl
  | cons e members ih =>
      obtain ⟨key', y⟩ := e
      rw [overlayMembers, List.lookup_cons, List.lookup_cons]
      by_cases hkey : key = key'
      · subst hkey
        rw [beq_self_eq_true]
        rcases upd.lookup key with - | u <;> rfl
      · rw [beq_false_of_ne hkey]
        exact ih

/-- What is laid over a map adds the members that it does not have. -/
theorem lookup_added (members upd : Document) (key : String) (hnone : members.lookup key = none) :
    (upd.filter fun e => (members.lookup e.1).isNone).lookup key = upd.lookup key := by
  induction upd with
  | nil => rfl
  | cons e upd ih =>
      obtain ⟨key', u⟩ := e
      by_cases hkey : key = key'
      · subst hkey
        rw [List.filter_cons_of_pos (by simp [hnone]), List.lookup_cons_self, List.lookup_cons_self]
      · rw [List.lookup_cons, beq_false_of_ne hkey, ← ih, List.filter_cons]
        split_ifs
        · rw [List.lookup_cons, beq_false_of_ne hkey]
        · rfl

theorem getElem?_overlayItems (items upd : List Yaml) (i : Nat) :
    (overlayItems items upd)[i]? = overlayChild items[i]? upd[i]? := by
  induction items generalizing upd i with
  | nil => rfl
  | cons y items ih =>
      rcases upd with - | ⟨u, upd⟩
      · rw [overlayItems]
        rcases (y :: items)[i]? with - | z <;> rfl
      · rw [overlayItems]
        rcases i with - | i
        · rfl
        · exact ih upd i

theorem child_slice (items : List Yaml) (i : Nat) :
    (Yaml.slice items).child (toString i) = items[i]? := by
  have hnodup : ((numbered 0 items).map Prod.fst).Nodup := by
    rw [keys_numbered]
    exact (List.nodup_range' 1).map toString_injective
  refine Option.ext fun z => ?_
  rw [Yaml.child, Yaml.members, lookup_eq_some_iff_mem hnodup, numbered, List.mem_map,
    ← List.mk_mem_zipIdx_iff_getElem?]
  constructor
  · rintro ⟨⟨z, j⟩, hmem, heq⟩
    obtain ⟨hj, rfl⟩ := Prod.mk.inj heq
    rwa [← toString_injective hj]
  · intro hmem
    exact ⟨(z, i), hmem, rfl⟩

/-- Below a slice there are numbers only. -/
theorem child_slice_of_ne (items : List Yaml) {key : String} (h : ∀ i : Nat, key ≠ toString i) :
    (Yaml.slice items).child key = none := by
  rw [Yaml.child, Yaml.members, List.lookup_eq_none_iff]
  intro e he
  obtain ⟨⟨y, i⟩, -, rfl⟩ := List.mem_map.mp he
  exact bne_iff_ne.mpr (h i)

/-- What stands under a key of an overlay. -/
theorem child_overlay {a b : Yaml} (h : a.SameKind b) (key : String) :
    (a.overlay b).child key = overlayChild (a.child key) (b.child key) := by
  cases h with
  | leaf v w => rfl
  | map members upd =>
      rw [Yaml.overlay, Yaml.child, Yaml.child, Yaml.child, Yaml.members, Yaml.members, Yaml.members,
        List.lookup_append, lookup_overlayMembers]
      rcases hy : members.lookup key with - | y
      · exact lookup_added members upd key hy
      · rw [Option.bind_some]
        rcases upd.lookup key with - | u <;> rfl
  | slice items upd =>
      rw [Yaml.overlay]
      by_cases hkey : ∃ i : Nat, key = toString i
      · obtain ⟨i, rfl⟩ := hkey
        rw [child_slice, child_slice, child_slice, getElem?_overlayItems]
      · rw [not_exists] at hkey
        rw [child_slice_of_ne _ hkey, child_slice_of_ne _ hkey, child_slice_of_ne _ hkey, overlayChild]

/-- **The leaves of an overlay** are those of the upper tree, and those of the lower one elsewhere. -/
theorem leafAt_overlay {a b : Yaml} (h : a.Compatible b) (path : List String) :
    (a.overlay b).leafAt path = (b.leafAt path).or (a.leafAt path) := by
  induction h generalizing path with
  | @intro a b hkind hbelow ih =>
      rcases path with - | ⟨key, path⟩
      · cases hkind with
        | leaf v w => rfl
        | map members upd =>
            rw [Yaml.overlay]
            rfl
        | slice items upd =>
            rw [Yaml.overlay]
            rfl
      · rw [Yaml.leafAt, Yaml.leafAt, Yaml.leafAt, child_overlay hkind]
        rcases hy : a.child key with - | y
        · rw [overlayChild, Option.bind_none, Option.or_none]
        · rcases hu : b.child key with - | u
          · rfl
          · exact ih key y u hy hu path

theorem Yaml.SameKind.overlay {a b c : Yaml} (hac : a.SameKind c) (hbc : b.SameKind c) :
    a.SameKind b ∧ (a.overlay b).SameKind c := by
  cases hac with
  | leaf v w =>
      cases hbc
      exact ⟨.leaf _ _, .leaf _ _⟩
  | map members upd =>
      cases hbc
      refine ⟨.map _ _, ?_⟩
      rw [Yaml.overlay]
      exact .map _ _
  | slice items upd =>
      cases hbc
      refine ⟨.slice _ _, ?_⟩
      rw [Yaml.overlay]
      exact .slice _ _

/-- A tree that fits on two trees fits on one over the other. -/
theorem Yaml.Compatible.overlay {a b c : Yaml} (hac : a.Compatible c) (hbc : b.Compatible c) :
    (a.overlay b).Compatible c := by
  induction hac generalizing b with
  | @intro a c hkind hbelow ih =>
      obtain ⟨hkind', hbelow'⟩ := hbc
      obtain ⟨hab, hover⟩ := hkind.overlay hkind'
      refine .intro hover fun key z u hz hu => ?_
      rw [child_overlay hab] at hz
      rcases hy : a.child key with - | y
      · rw [hy, overlayChild] at hz
        exact hbelow' key z u hz hu
      · rcases hx : b.child key with - | x
        · rw [hy, hx, overlayChild] at hz
          obtain rfl := Option.some.inj hz
          exact hbelow key y u hy hu
        · rw [hy, hx, overlayChild] at hz
          obtain rfl := Option.some.inj hz
          exact ih key y u hy hu (hbelow' key x u hx hu)

theorem keys_overlayMembers (members upd : Document) :
    (overlayMembers members upd).map Prod.fst = members.map Prod.fst := by
  induction members with
  | nil => rfl
  | cons e members ih =>
      obtain ⟨key, y⟩ := e
      rw [overlayMembers, List.map_cons, List.map_cons, ih]

theorem nodup_keys_overlay {members upd : Document} (hmembers : (members.map Prod.fst).Nodup)
    (hupd : (upd.map Prod.fst).Nodup) :
    ((overlayMembers members upd ++ upd.filter fun e => (members.lookup e.1).isNone).map
      Prod.fst).Nodup := by
  rw [List.map_append, keys_overlayMembers]
  refine hmembers.append (hupd.sublist (List.filter_sublist.map Prod.fst)) ?_
  -- a member that is added has a key of its own
  intro key hkey hadded
  obtain ⟨e, he, rfl⟩ := List.mem_map.mp hadded
  obtain ⟨m, hm, hkey⟩ := List.mem_map.mp hkey
  have hnone := Option.isNone_iff_eq_none.mp (List.mem_filter.mp he).2
  exact bne_iff_ne.mp (List.lookup_eq_none_iff.mp hnone m hm) hkey.symm

/-- A value of an overlay comes from below, from above, or from both. -/
theorem of_overlayChild {P : Yaml → Prop} {y u : Option Yaml} {z : Yaml}
    (h : overlayChild y u = some z) (hy : ∀ x ∈ y, P x) (hu : ∀ x ∈ u, P x)
    (hboth : ∀ x ∈ y, ∀ x' ∈ u, P (x.overlay x')) : P z := by
  rcases y with - | y
  · exact hu z h
  · rcases u with - | u
    · obtain rfl := Option.some.inj h
      exact hy y rfl
    · obtain rfl := Option.some.inj h
      exact hboth y rfl u rfl

/-- Well-formed trees make a well-formed overlay. -/
theorem Yaml.WellFormed.overlay {a b : Yaml} (ha : a.WellFormed) (hb : b.WellFormed) :
    (a.overlay b).WellFormed := by
  induction ha generalizing b with
  | leaf v => cases b <;> exact hb
  | @map members hnodup hdot hbelow ih =>
      cases hb with
      | leaf w => exact .leaf w
      | slice hbelow' => exact .slice hbelow'
      | @map upd hnodup' hdot' hbelow' =>
          have hkeys := nodup_keys_overlay hnodup hnodup'
          have hchild := child_overlay (.map members upd)
          rw [Yaml.overlay] at hchild ⊢
          have hmem : ∀ {key y}, y ∈ members.lookup key → (key, y) ∈ members :=
            fun h => (lookup_eq_some_iff_mem hnodup).mp h
          have hmem' : ∀ {key u}, u ∈ upd.lookup key → (key, u) ∈ upd :=
            fun h => (lookup_eq_some_iff_mem hnodup').mp h
          have hover : ∀ e ∈ overlayMembers members upd
              ++ upd.filter (fun e => (members.lookup e.1).isNone),
              overlayChild (members.lookup e.1) (upd.lookup e.1) = some e.2 := by
            intro e he
            rw [← (lookup_eq_some_iff_mem hkeys).mpr he]
            exact (hchild e.1).symm
          refine .map hkeys (fun e he => ?_) (fun e he => ?_)
          · exact of_overlayChild (P := fun _ => '.' ∉ e.1.toList) (hover e he)
              (fun y hy => hdot (e.1, y) (hmem hy)) (fun u hu => hdot' (e.1, u) (hmem' hu))
              (fun y hy _ _ => hdot (e.1, y) (hmem hy))
          · exact of_overlayChild (hover e he) (fun y hy => hbelow _ (hmem hy))
              (fun u hu => hbelow' _ (hmem' hu))
              (fun y hy u hu => ih _ (hmem hy) (hbelow' _ (hmem' hu)))
  | @slice items hbelow ih =>
      cases hb with
      | leaf w => exact .leaf w
      | map hnodup' hdot' hbelow' => exact .map hnodup' hdot' hbelow'
      | @slice upd hbelow' =>
          rw [Yaml.overlay]
          refine .slice fun z hz => ?_
          obtain ⟨i, hi⟩ := List.mem_iff_getElem?.mp hz
          rw [getElem?_overlayItems] at hi
          exact of_overlayChild hi (fun y hy => hbelow y (List.mem_of_getElem? hy))
            (fun u hu => hbelow' u (List.mem_of_getElem? hu))
            (fun y hy u hu => ih y (List.mem_of_getElem? hy) (hbelow' u (List.mem_of_getElem? hu)))

/-! ### Files -/

/-- A decoded file with another one laid over it. -/
def overlayDocument (doc upd : Document) : Document := ((Yaml.map doc).overlay (.map upd)).members

/-- Several files, laid one over the other. -/
def overlayAll (docs : List Document) : Document := docs.foldl overlayDocument []

theorem map_overlayDocument (doc upd : Document) :
    Yaml.map (overlayDocument doc upd) = (Yaml.map doc).overlay (.map upd) := by
  rw [overlayDocument, Yaml.overlay, Yaml.members]

/-- **Overwriting flat keys is laying one tree over the other.** -/
theorem flatten_overlayDocument (codec : YamlCodec) {doc upd : Document}
    (hdoc : (Yaml.map doc).WellFormed) (hupd : (Yaml.map upd).WellFormed)
    (h : (Yaml.map doc).Compatible (.map upd)) :
    codec.flatten (overlayDocument doc upd)
      = mergeConfObj (codec.flatten doc) (codec.flatten upd) := by
  have hover : (Yaml.map (overlayDocument doc upd)).WellFormed := by
    rw [map_overlayDocument]
    exact hdoc.overlay hupd
  refine Finmap.ext_lookup fun key => ?_
  rw [lookup_flatten codec hover, map_overlayDocument, leafAt_overlay h, mergeConfObj,
    lookup_union_eq, lookup_flatten codec hdoc, lookup_flatten codec hupd]

theorem overlayAll_singleton (doc : Document) : overlayAll [doc] = doc := by
  have hall : doc.filter (fun e => (([] : Document).lookup e.1).isNone) = doc := List.filter_true doc
  rw [overlayAll, List.foldl_cons, List.foldl_nil, overlayDocument, Yaml.overlay, Yaml.members, hall,
    overlayMembers, List.nil_append]

/-- An empty file fits under every file. -/
theorem compatible_nil (doc : Document) : (Yaml.map []).Compatible (.map doc) :=
  .intro (.map [] doc) fun _ _ _ hy _ => by cases hy

theorem wellFormed_nil : (Yaml.map []).WellFormed :=
  .map List.nodup_nil (fun _ h => absurd h List.not_mem_nil) (fun _ h => absurd h List.not_mem_nil)

theorem wellFormed_overlayAll {docs : List Document}
    (hwf : ∀ doc ∈ docs, (Yaml.map doc).WellFormed) :
    (Yaml.map (overlayAll docs)).WellFormed := by
  refine List.foldlRecOn (motive := fun doc => (Yaml.map doc).WellFormed) docs overlayDocument
    wellFormed_nil fun base hbase doc hdoc => ?_
  rw [map_overlayDocument]
  exact hbase.overlay (hwf doc hdoc)

/-- **The merged files are the flattened overlay of the files.** -/
theorem flatten_overlayAll (codec : YamlCodec) {docs : List Document}
    (hwf : ∀ doc ∈ docs, (Yaml.map doc).WellFormed)
    (hfits : docs.Pairwise fun doc upd => (Yaml.map doc).Compatible (.map upd)) :
    codec.flatten (overlayAll docs) = mergeAll (docs.map codec.flatten) := by
  -- what has been laid so far is well formed, and all files to come fit on it
  have hfold : ∀ (docs : List Document) (base : Document), (Yaml.map base).WellFormed →
      (∀ doc ∈ docs, (Yaml.map doc).WellFormed) →
      (∀ doc ∈ docs, (Yaml.map base).Compatible (.map doc)) →
      docs.Pairwise (fun doc upd => (Yaml.map doc).Compatible (.map upd)) →
      codec.flatten (docs.foldl overlayDocument base)
        = (docs.map codec.flatten).foldl mergeConfObj (codec.flatten base) := by
    intro docs
    induction docs with
    | nil => intros; rfl
    | cons doc docs ih =>
        intro base hbase hwf hbelow hfits
        obtain ⟨hdoc, hwf⟩ := List.forall_mem_cons.mp hwf
        obtain ⟨hfit, hbelow⟩ := List.forall_mem_cons.mp hbelow
        obtain ⟨hnext, hfits⟩ := List.pairwise_cons.mp hfits
        rw [List.foldl_cons, List.map_cons, List.foldl_cons,
          ← flatten_overlayDocument codec hbase hdoc hfit]
        refine ih _ ?_ hwf (fun upd hupd => ?_) hfits
        · rw [map_overlayDocument]
          exact hbase.overlay hdoc
        · rw [map_overlayDocument]
          exact (hbelow upd hupd).overlay (hnext upd hupd)
  have hnil : codec.flatten [] = ∅ := by
    refine Finmap.ext_lookup fun key => ?_
    rcases codec.flattens [] key with ⟨v, hv, -⟩ | ⟨-, hlookup⟩
    · exact absurd hv List.not_mem_nil
    · rw [hlookup, Finmap.lookup_empty]
  rw [mergeAll, ← hnil]
  exact hfold docs [] wellFormed_nil hwf (fun doc _ => compatible_nil doc) hfits

/-- `loadConfiglet`, up to the decoding. -/
def loadDocument (codec : YamlCodec) (sys : System) (configPath : String) :
    Except ReadError Document := do
  let data ← readConfiglet sys configPath
  (codec.unmarshal data).mapError .other

/-- The files of the daemon, decoded. -/
def daemonDocuments (codec : YamlCodec) (sys : System) (configPathRoot : String) :
    Except ReadError (List Document) := do
  let configDir := child configPathRoot "daemon"
  let doc ← loadDocument codec sys (cleanPath (child configDir "config.yaml"))
  let configletDir := cleanPath (child configDir "config.yaml.d")
  let configlets : List Configlet := match readConfigletDir sys configletDir with
    | .ok entries => entries.filter fun entry => entry.isRegular
    | .error _ => []
  let docs ← configlets.mapM fun entry => loadDocument codec sys (child configletDir entry.name)
  pure (doc :: docs)

section Daemon

variable {codec : YamlCodec} {sys : System}

theorem loadConfiglet_eq (configPath : String) :
    loadConfiglet codec sys configPath = (loadDocument codec sys configPath).map codec.flatten := by
  rw [loadConfiglet, loadDocument]
  rcases readConfiglet sys configPath with err | data
  · rfl
  · rcases hdata : codec.unmarshal data with err | doc
    · simp [hdata, Except.mapError, bind, Except.bind, Except.map]
    · simp [hdata, Except.mapError, bind, Except.bind, Except.map, pure, Except.pure]

theorem mapM_loadConfiglet {entries : List Configlet} {path : Configlet → String}
    {docs : List Document}
    (h : (entries.mapM fun entry => loadDocument codec sys (path entry)) = .ok docs) :
    (entries.mapM fun entry => loadConfiglet codec sys (path entry)) = .ok (docs.map codec.flatten) := by
  induction entries generalizing docs with
  | nil =>
      cases h
      rfl
  | cons entry entries ih =>
      rw [List.mapM_cons] at h ⊢
      obtain ⟨doc, hdoc, h⟩ := bind_eq_ok_iff.mp h
      obtain ⟨rest, hrest, h⟩ := bind_eq_ok_iff.mp h
      cases h
      rw [loadConfiglet_eq, hdoc, ih hrest]
      rfl

/-- The files are flattened one by one. -/
theorem daemonConfs_of_documents {configRoot : String} {docs : List Document}
    (h : daemonDocuments codec sys configRoot = .ok docs) :
    daemonConfs codec sys configRoot = .ok (docs.map codec.flatten) := by
  obtain ⟨doc, hdoc, h⟩ := bind_eq_ok_iff.mp h
  obtain ⟨rest, hrest, h⟩ := bind_eq_ok_iff.mp h
  cases h
  refine bind_eq_ok_iff.mpr ⟨codec.flatten doc, ?_, ?_⟩
  · rw [loadConfiglet_eq, hdoc]
    rfl
  · exact bind_eq_ok_iff.mpr ⟨rest.map codec.flatten, mapM_loadConfiglet hrest, rfl⟩

theorem fromDaemonFiles_of_documents {configRoot : String} {docs : List Document}
    (h : daemonDocuments codec sys configRoot = .ok docs)
    (hwf : ∀ doc ∈ docs, (Yaml.map doc).WellFormed)
    (hfits : docs.Pairwise fun doc upd => (Yaml.map doc).Compatible (.map upd)) (p : ProgArgs) :
    fromDaemonFiles codec sys configRoot p
      = (dispatchConfObj (codec.flatten (overlayAll docs)) p).mapError .other := by
  rw [fromDaemonFiles, daemonConfs_of_documents h, flatten_overlayAll codec hwf hfits]
  rfl

/-- **Splitting a configuration over files changes nothing.**  Let the files of the daemon decode
to `docs`, let no key have a dot in it, and let no file have a value where another one has a map.
On a machine whose only file holds the documents laid one over the other, the daemon loads the same
arguments, or fails with the same error; and each field that has a key is read at the path that the
key spells. -/
theorem configlets_overlay {sys' : System} {configRoot configRoot' : String} {docs : List Document}
    (hdocs : daemonDocuments codec sys configRoot = .ok docs)
    (hone : daemonDocuments codec sys' configRoot' = .ok [overlayAll docs])
    (hwf : ∀ doc ∈ docs, (Yaml.map doc).WellFormed)
    (hfits : docs.Pairwise fun doc upd => (Yaml.map doc).Compatible (.map upd)) (p : ProgArgs) :
    fromDaemonFiles codec sys configRoot p = fromDaemonFiles codec sys' configRoot' p
      ∧ ∀ r, fromDaemonFiles codec sys configRoot p = .ok r → ∀ key s, (key, s) ∈ confBindings →
        r.get s = (((Yaml.map (overlayAll docs)).leafAt (split key '.')).bind fun v =>
          (s.kind.read key v).toOption).getD (p.get s) := by
  have hover := wellFormed_overlayAll hwf
  have hload := fromDaemonFiles_of_documents hdocs hwf hfits p
  have hload' := fromDaemonFiles_of_documents hone (fun doc hdoc => by
    rw [List.mem_singleton.mp hdoc]
    exact hover) (List.pairwise_singleton _ _) p
  constructor
  · rw [hload, hload', overlayAll_singleton]
  · intro r hr key s hs
    rw [hload] at hr
    rcases hdispatch : dispatchConfObj (codec.flatten (overlayAll docs)) p with err | r'
    · rw [hdispatch] at hr
      cases hr
    · rw [hdispatch] at hr
      cases hr
      rw [dispatchConfObj_get hdispatch hs, boundValue, lookup_flatten codec hover]

end Daemon

/-- The main file of a daemon. -/
def mainDocument : Document :=
  [("global", .map [("verbose", .leaf (.float64 3))]),
    ("nrtUpdater", .map [("hostname", .leaf (.string "worker")), ("noPublish", .leaf (.bool true))])]

/-- A configlet that renames the host. -/
def hostDocument : Document := [("nrtUpdater", .map [("hostname", .leaf (.string "worker-0"))])]

/-- Machines with both files, and with their overlay. -/
def splitSystem (whole : Bool) : System where
  lookupEnv _ := none
  hostname := .ok "worker"
  uid := 0
  evalSymlinks path := .ok path
  readFile path :=
    if path = "/etc/rte/daemon/config.yaml" then .ok (if whole then "whole" else "main")
    else .ok "host"
  readDir _ := if whole then .error .notExist else .ok [⟨"10-host.yaml", true⟩]

/-- A codec for the three files. -/
def splitCodec : YamlCodec where
  unmarshal text := .ok (if text = "main" then mainDocument
    else if text = "host" then hostDocument else overlayAll [mainDocument, hostDocument])
  unmarshalExtra _ := .ok ⟨none, none, ∅, []⟩
  flatten := flatConf
  flattens := flattens_flatConf

theorem wellFormed_mainDocument : (Yaml.map mainDocument).WellFormed := by
  refine .map (by decide) (by simp [mainDocument]) ?_
  simp only [mainDocument, List.forall_mem_cons, List.not_mem_nil, false_implies, implies_true,
    and_true]
  constructor
  · exact .map (by decide) (by simp) (by simp [Yaml.WellFormed.leaf])
  · exact .map (by decide) (by simp) (by simp [Yaml.WellFormed.leaf])

theorem wellFormed_hostUpdater : (Yaml.map [("hostname", .leaf (.string "worker-0"))]).WellFormed :=
  .map (by decide) (by simp) (by simp [Yaml.WellFormed.leaf])

theorem wellFormed_hostDocument : (Yaml.map hostDocument).WellFormed :=
  .map (by decide) (by simp [hostDocument]) (by simp [hostDocument, wellFormed_hostUpdater])

theorem compatible_hostDocument : (Yaml.map mainDocument).Compatible (.map hostDocument) := by
  refine .intro (.map _ _) fun key y u hy hu => ?_
  have hmem := wellFormed_hostDocument.child_iff.mp hu
  obtain ⟨rfl, rfl⟩ := Prod.mk.inj (List.mem_singleton.mp hmem)
  obtain rfl := Option.some.inj hy
  refine .intro (.map _ _) fun key y u hy hu => ?_
  have hmem := wellFormed_hostUpdater.child_iff.mp hu
  obtain ⟨rfl, rfl⟩ := Prod.mk.inj (List.mem_singleton.mp hmem)
  obtain rfl := Option.some.inj hy
  exact .intro (.leaf _ _) fun _ _ _ hy _ => by cases hy

/-- The configlet renames the host, and leaves the other fields of its map alone. -/
theorem configlets_overlay_host :
    fromDaemonFiles splitCodec (splitSystem false) "/etc/rte" ProgArgs.zero
        = fromDaemonFiles splitCodec (splitSystem true) "/etc/rte" ProgArgs.zero
      ∧ ∃ r, fromDaemonFiles splitCodec (splitSystem false) "/etc/rte" ProgArgs.zero = .ok r
        ∧ r.get .hostname = "worker-0" ∧ r.get .noPublish = true := by
  have hdocs : daemonDocuments splitCodec (splitSystem false) "/etc/rte"
      = .ok [mainDocument, hostDocument] := rfl
  have hone : daemonDocuments splitCodec (splitSystem true) "/etc/rte"
      = .ok [overlayAll [mainDocument, hostDocument]] := rfl
  obtain ⟨hsame, hread⟩ := configlets_overlay hdocs hone
    (List.forall_mem_cons.mpr ⟨wellFormed_mainDocument,
      List.forall_mem_singleton.mpr wellFormed_hostDocument⟩)
    (List.pairwise_pair.mpr compatible_hostDocument) ProgArgs.zero
  obtain ⟨r, hr⟩ : ∃ r, fromDaemonFiles splitCodec (splitSystem false) "/etc/rte" ProgArgs.zero
      = .ok r := ⟨_, rfl⟩
  refine ⟨hsame, r, hr, (hread r hr "nrtUpdater.hostname" .hostname (by decide)).trans ?_,
    (hread r hr "nrtUpdater.noPublish" .noPublish (by decide)).trans ?_⟩
  · decide +kernel
  · decide +kernel

end TopologyExporter
