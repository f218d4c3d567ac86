/-
TopologyExporter/FileNames.lean

Paths of package `path/filepath`, on their texts.

A path is taken apart at its last separator (`splitPath`) and joined again
(`joinPath`).  Cleaning is idempotent (`cleanPath_cleanPath`), keeps the name of a file
(`splitPath_cleanPath`), and undoes what joining the parts of a path adds to it
(`joinPath_splitPath`).
-/
import TopologyExporter.Sysinfo

namespace TopologyExporter

open GoString

/-! ### Cleaning -/

theorem cleanComponents_skip {c : String} (h : c = "" ∨ c = ".") (rooted : Bool)
    (cs out : List String) : cleanComponents rooted (c :: cs) out = cleanComponents rooted cs out :=
  if_pos h

theorem cleanComponents_plain {c : String} (h : ¬(c = "" ∨ c = ".")) (hup : c ≠ "..")
    (rooted : Bool) (cs out : List String) :
    cleanComponents rooted (c :: cs) out = cleanComponents rooted cs (c :: out) := by
  simp only [cleanComponents, if_neg h, if_neg hup]

/-- What two dots do to the components kept so far. -/
def goUp (rooted : Bool) : List String → List String
  | [] => if rooted then [] else [".."]
  | last :: out => if last = ".." then ".." :: last :: out else out

theorem cleanComponents_up (rooted : Bool) (cs out : List String) :
    cleanComponents rooted (".." :: cs) out = cleanComponents rooted cs (goUp rooted out) := by
  have hskip : ¬(".." = "" ∨ ".." = ".") := by decide
  cases out with
  | nil =>
      simp only [cleanComponents, if_neg hskip, if_true]
      rfl
  | cons last out =>
      simp only [cleanComponents, if_neg hskip, if_true, goUp]
      split_ifs <;> rfl

/-- Cleaning goes through a path from left to right. -/
theorem cleanComponents_append (rooted : Bool) (cs ds out : List String) :
    cleanComponents rooted (cs ++ ds) out
      = cleanComponents rooted ds (cleanComponents rooted cs out).reverse := by
  induction cs generalizing out with
  | nil => rw [List.nil_append, cleanComponents, List.reverse_reverse]
  | cons c cs ih =>
      rw [List.cons_append]
      by_cases hskip : c = "" ∨ c = "."
      · rw [cleanComponents_skip hskip, cleanComponents_skip hskip, ih]
      by_cases hup : c = ".."
      · rw [hup, cleanComponents_up, cleanComponents_up, ih]
      · rw [cleanComponents_plain hskip hup, cleanComponents_plain hskip hup, ih]

/-- Components that are clean already, last one first.  Two dots stand only at the front, and
only of a path that does not start at the root. -/
def Settles (rooted : Bool) : List String → Prop
  | [] => True
  | c :: out =>
      ¬(c = "" ∨ c = ".") ∧ '/' ∉ c.toList ∧ (c = ".." → goUp rooted out = ".." :: out)
        ∧ Settles rooted out

theorem settles_goUp {rooted : Bool} {out : List String} (h : Settles rooted out) :
    Settles rooted (goUp rooted out) := by
  cases out with
  | nil => cases rooted <;> simp [goUp, Settles]
  | cons last out =>
      by_cases hlast : last = ".."
      · simp only [goUp, if_pos hlast]
        exact ⟨by decide, by decide, fun _ => by rw [goUp, if_pos hlast], h⟩
      · simp only [goUp, if_neg hlast]
        exact h.2.2.2

theorem settles_cleanComponents {rooted : Bool} {cs out : List String}
    (hcs : ∀ c ∈ cs, '/' ∉ c.toList) (hout : Settles rooted out) :
    Settles rooted (cleanComponents rooted cs out).reverse := by
  induction cs generalizing out with
  | nil => rwa [cleanComponents, List.reverse_reverse]
  | cons c cs ih =>
      have hrest : ∀ c' ∈ cs, '/' ∉ c'.toList := fun c' hc' => hcs c' (List.mem_cons_of_mem c hc')
      by_cases hskip : c = "" ∨ c = "."
      · rw [cleanComponents_skip hskip]
        exact ih hrest hout
      by_cases hup : c = ".."
      · rw [hup, cleanComponents_up]
        exact ih hrest (settles_goUp hout)
      · rw [cleanComponents_plain hskip hup]
        exact ih hrest ⟨hskip, hcs c List.mem_cons_self, fun h => absurd h hup, hout⟩

theorem cleanComponents_of_settles {rooted : Bool} {out : List String} (h : Settles rooted out) :
    cleanComponents rooted out.reverse [] = out.reverse := by
  induction out with
  | nil => rfl
  | cons c out ih =>
      rw [List.reverse_cons, cleanComponents_append, ih h.2.2.2, List.reverse_reverse]
      by_cases hup : c = ".."
      · rw [hup, cleanComponents_up, h.2.2.1 hup, cleanComponents, List.reverse_cons]
      · rw [cleanComponents_plain h.1 hup, cleanComponents, List.reverse_cons]

theorem notMem_of_settles {rooted : Bool} {out : List String} (h : Settles rooted out) :
    ∀ c ∈ out, c ≠ "" ∧ '/' ∉ c.toList := by
  induction out with
  | nil => exact List.forall_mem_nil _
  | cons c out ih =>
      exact List.forall_mem_cons.mpr ⟨⟨fun hc => h.1 (.inl hc), h.2.1⟩, ih h.2.2.2⟩

theorem split_joined {l : List String} (h : ∀ c ∈ l, '/' ∉ c.toList) (hne : l ≠ []) :
    split ("/".intercalate l) '/' = l := by
  have htext : "/".intercalate l = String.ofList (['/'].intercalate (l.map String.toList)) := by
    rw [← String.toList_inj, String.toList_intercalate]
    simp
  rw [htext, split_intercalate h hne]

/-- A joined path starts with its first component. -/
theorem joined_start {c : String} {cs : List String} (hc : c ≠ "" ∧ '/' ∉ c.toList) :
    hasPrefix ("/".intercalate (c :: cs)) "/" = false ∧ "/".intercalate (c :: cs) ≠ "" := by
  obtain ⟨d, ds, hd⟩ : ∃ d ds, c.toList = d :: ds :=
    List.exists_cons_of_ne_nil fun hnil => hc.1 (String.toList_inj.mp hnil)
  obtain ⟨rest, hrest⟩ : ∃ rest, ("/".intercalate (c :: cs)).toList = d :: rest := by
    rw [String.toList_intercalate]
    cases cs with
    | nil => exact ⟨ds, by simp [hd]⟩
    | cons c' cs => exact ⟨_, by rw [List.map_cons, List.map_cons, List.intercalate_cons_cons, hd]; rfl⟩
  have hslash : '/' ≠ d := by
    intro heq
    rw [hd, ← heq] at hc
    exact hc.2 List.mem_cons_self
  constructor
  · simp [hasPrefix, hrest, List.isPrefixOf, hslash]
  · intro hnil
    simp [hnil] at hrest

/-- `filepath.Clean` is idempotent. -/
theorem cleanPath_cleanPath (path : String) : cleanPath (cleanPath path) = cleanPath path := by
  obtain ⟨rooted, hrooted⟩ : ∃ rooted, rooted = hasPrefix path "/" := ⟨_, rfl⟩
  obtain ⟨l, hl⟩ : ∃ l, l = cleanComponents rooted (split path '/') [] := ⟨_, rfl⟩
  have hsettles : Settles rooted l.reverse :=
    hl ▸ settles_cleanComponents (fun c => notMem_of_mem_split) trivial
  have hclean : cleanComponents rooted l [] = l := by
    have h := cleanComponents_of_settles hsettles
    rwa [List.reverse_reverse] at h
  have hparts := notMem_of_settles hsettles
  have hpath : cleanPath path = if rooted then "/" ++ "/".intercalate l
      else if "/".intercalate l = "" then "." else "/".intercalate l := by
    rw [cleanPath, ← hrooted, ← hl]
  cases rooted with
  | true =>
      have hroot : hasPrefix ("/" ++ "/".intercalate l) "/" = true := hasPrefix_append _ _
      have hsplit : split ("/" ++ "/".intercalate l) '/' = "" :: split ("/".intercalate l) '/' := by
        have hempty : '/' ∉ ([] : List Char) := List.not_mem_nil
        have h := split_append_cons hempty ("/".intercalate l).toList
        rw [String.ofList_toList] at h
        rw [← h, ← String.ofList_toList (s := "/" ++ "/".intercalate l)]
        simp
      rw [hpath, if_pos rfl, cleanPath, hroot, if_pos rfl, hsplit, cleanComponents_skip (.inl rfl)]
      rcases eq_or_ne l [] with rfl | hne
      · rfl
      · rw [split_joined (fun c hc => (hparts c (List.mem_reverse.mpr hc)).2) hne, hclean]
  | false =>
      rcases eq_or_ne l [] with rfl | hne
      · rw [hpath]
        rfl
      · have hsplit := split_joined (fun c hc => (hparts c (List.mem_reverse.mpr hc)).2) hne
        have hstart : hasPrefix ("/".intercalate l) "/" = false ∧ "/".intercalate l ≠ "" := by
          obtain ⟨c, cs, rfl⟩ := List.exists_cons_of_ne_nil hne
          exact joined_start (hparts c (List.mem_reverse.mpr List.mem_cons_self))
        rw [hpath, if_neg Bool.false_ne_true, if_neg hstart.2, cleanPath, hstart.1, hsplit, hclean,
          if_neg Bool.false_ne_true, if_neg hstart.2]

/-! ### Names of files -/

/-- `filepath.Split`. -/
def splitPath (path : String) : String × String :=
  (String.ofList (path.toList.reverse.dropWhile fun c => c ≠ '/').reverse,
    String.ofList (path.toList.reverse.takeWhile fun c => c ≠ '/').reverse)

/-- `filepath.Join` of two elements.  Empty ones are left out. -/
def joinPath (dir file : String) : String :=
  match [dir, file].filter fun elem => elem ≠ "" with
  | [] => ""
  | elems => cleanPath ("/".intercalate elems)

/-- The path ends in the name of a file. -/
def NamesFile (path : String) : Prop :=
  (splitPath path).2 ≠ "" ∧ (splitPath path).2 ≠ "." ∧ (splitPath path).2 ≠ ".."

instance (path : String) : Decidable (NamesFile path) := inferInstanceAs (Decidable (_ ∧ _))

/-- Nothing, or a text that ends in a separator. -/
def IsFront (front : List Char) : Prop := front = [] ∨ ∃ cs, front = cs ++ ['/']

theorem splitPath_append {front name : List Char} (hfront : IsFront front) (hname : '/' ∉ name) :
    splitPath (String.ofList (front ++ name)) = (String.ofList front, String.ofList name) := by
  have hrev : ∀ c ∈ name.reverse, decide (c ≠ '/') = true := by
    intro c hc
    exact decide_eq_true fun heq => hname (heq ▸ List.mem_reverse.mp hc)
  rw [splitPath, String.toList_ofList, List.reverse_append, List.dropWhile_append_of_pos hrev,
    List.takeWhile_append_of_pos hrev]
  rcases hfront with rfl | ⟨cs, rfl⟩ <;> simp

/-- Every path is a front and a name. -/
theorem exists_front (path : String) :
    ∃ front name, IsFront front ∧ '/' ∉ name ∧ path = String.ofList (front ++ name) := by
  refine ⟨(path.toList.reverse.dropWhile fun c => c ≠ '/').reverse,
    (path.toList.reverse.takeWhile fun c => c ≠ '/').reverse, ?_, ?_, ?_⟩
  · cases hrest : path.toList.reverse.dropWhile fun c => c ≠ '/' with
    | nil => exact .inl rfl
    | cons c rest =>
        have hc := List.head_dropWhile_not (fun c => decide (c ≠ '/')) (l := path.toList.reverse)
        simp only [hrest, List.head_cons] at hc
        have hslash : c = '/' := by simpa using hc
        exact .inr ⟨rest.reverse, by rw [List.reverse_cons, hslash]⟩
  · intro hmem
    simpa using List.mem_takeWhile_imp (List.mem_reverse.mp hmem)
  · rw [← List.reverse_append, List.takeWhile_append_dropWhile, List.reverse_reverse,
      String.ofList_toList]

/-- A name at the end of a list that is joined. -/
theorem exists_front_intercalate (l : List (List Char)) (name : List Char) :
    ∃ front, IsFront front ∧ ['/'].intercalate (l ++ [name]) = front ++ name := by
  induction l with
  | nil => exact ⟨[], .inl rfl, by simp⟩
  | cons cs l ih =>
      obtain ⟨front, hfront, heq⟩ := ih
      refine ⟨cs ++ '/' :: front, .inr ?_, ?_⟩
      · rcases hfront with rfl | ⟨cs', rfl⟩
        · exact ⟨cs, rfl⟩
        · exact ⟨cs ++ '/' :: cs', by simp⟩
      · cases l with
        | nil => simp_all [List.intercalate_cons_cons]
        | cons cs' l =>
            rw [List.cons_append, List.cons_append, List.intercalate_cons_cons, ← List.cons_append,
              heq]
            simp

theorem split_front {front name : List Char} (hfront : IsFront front) (hname : '/' ∉ name) :
    ∃ cs, split (String.ofList (front ++ name)) '/' = cs ++ [String.ofList name] := by
  rcases hfront with rfl | ⟨cs, rfl⟩
  · exact ⟨[], split_of_notMem (by rwa [List.nil_append, String.toList_ofList])⟩
  · refine ⟨split (String.ofList cs) '/', ?_⟩
    rw [split, split, String.toList_ofList, String.toList_ofList, List.append_assoc,
      List.singleton_append, List.splitOn_append_cons_self, List.splitOn_eq_singleton hname,
      List.map_append, List.map_singleton]

/-- Cleaning a path keeps the name of the file. -/
theorem splitPath_cleanPath {path : String} (h : NamesFile path) :
    (splitPath (cleanPath path)).2 = (splitPath path).2 := by
  obtain ⟨front, name, hfront, hname, rfl⟩ := exists_front path
  obtain ⟨cs, hsplit⟩ := split_front hfront hname
  have hplain := h
  rw [NamesFile, splitPath_append hfront hname] at hplain
  rw [splitPath_append hfront hname, cleanPath, hsplit]
  generalize hasPrefix (String.ofList (front ++ name)) "/" = rooted
  have hcomp : cleanComponents rooted (cs ++ [String.ofList name]) []
      = cleanComponents rooted cs [] ++ [String.ofList name] := by
    simp only [cleanComponents_append, cleanComponents, hplain.1, hplain.2.1, hplain.2.2, or_self,
      if_false, List.reverse_cons, List.reverse_reverse]
  obtain ⟨front', hfront', heq⟩ :=
    exists_front_intercalate ((cleanComponents rooted cs []).map String.toList) name
  have hcleaned : "/".intercalate (cleanComponents rooted (cs ++ [String.ofList name]) [])
      = String.ofList (front' ++ name) := by
    rw [hcomp, ← String.toList_inj, String.toList_intercalate, List.map_append, List.map_singleton]
    simp only [String.toList_ofList]
    exact heq
  have hne : String.ofList (front' ++ name) ≠ "" := by
    intro hnil
    have hname' : name = [] := by
      rw [← String.toList_inj, String.toList_ofList] at hnil
      exact (List.append_eq_nil_iff.mp hnil).2
    exact hplain.1 (by rw [hname'])
  dsimp only
  rw [hcleaned, if_neg hne]
  cases rooted with
  | false => exact congrArg Prod.snd (splitPath_append hfront' hname)
  | true =>
      have hroot : "/" ++ String.ofList (front' ++ name) = String.ofList ('/' :: front' ++ name) := by
        rw [← String.toList_inj]
        simp
      have hfront'' : IsFront ('/' :: front') := by
        rcases hfront' with rfl | ⟨cs', rfl⟩
        · exact .inr ⟨[], rfl⟩
        · exact .inr ⟨'/' :: cs', rfl⟩
      rw [if_pos rfl, hroot]
      exact congrArg Prod.snd (splitPath_append hfront'' hname)

/-- Of two separators one is enough. -/
theorem cleanPath_twice (cs rest : List Char) :
    cleanPath (String.ofList (cs ++ '/' :: '/' :: rest))
      = cleanPath (String.ofList (cs ++ '/' :: rest)) := by
  have hrooted : hasPrefix (String.ofList (cs ++ '/' :: '/' :: rest)) "/"
      = hasPrefix (String.ofList (cs ++ '/' :: rest)) "/" := by
    cases cs <;> simp [hasPrefix, List.isPrefixOf]
  have hcomp : ∀ rooted, cleanComponents rooted
        (split (String.ofList (cs ++ '/' :: '/' :: rest)) '/') []
      = cleanComponents rooted (split (String.ofList (cs ++ '/' :: rest)) '/') [] := by
    intro rooted
    simp only [split, String.toList_ofList, List.splitOn_append_cons_self,
      List.splitOn_cons_eq_if_modifyHead, BEq.rfl, if_true, List.map_append, List.map_cons,
      cleanComponents_append]
    -- between the two separators there is an empty component, which is skipped
    exact if_pos (.inl rfl)
  rw [cleanPath, cleanPath, hrooted, hcomp]

/-- The parts of the path of a file, joined again. -/
theorem joinPath_splitPath {path : String} (h : NamesFile path) :
    joinPath (splitPath path).1 (splitPath path).2 = cleanPath path := by
  obtain ⟨front, name, hfront, hname, rfl⟩ := exists_front path
  have hplain := h
  rw [NamesFile, splitPath_append hfront hname] at hplain
  rw [splitPath_append hfront hname]
  rcases hfront with rfl | ⟨cs, rfl⟩
  · simp [joinPath, hplain.1]
  · have hjoin : "/".intercalate [String.ofList (cs ++ ['/']), String.ofList name]
        = String.ofList (cs ++ '/' :: '/' :: name) := by
      rw [← String.toList_inj, String.toList_intercalate]
      simp
    have helems : [String.ofList (cs ++ ['/']), String.ofList name].filter (fun elem => elem ≠ "")
        = [String.ofList (cs ++ ['/']), String.ofList name] := by
      simp [hplain.1]
    rw [joinPath, helems]
    dsimp only
    rw [hjoin, cleanPath_twice, List.append_assoc, List.singleton_append]

end TopologyExporter
