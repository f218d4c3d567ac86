/-
TopologyExporter/GoPanic.lean

Run-time panics and the loops that may meet one.

A statement that may panic is a function into `Except Panic`, and a loop over
such statements is a `foldlM`.  `foldlM_dichotomy` is the rule for a loop whose
elements are each either harmless or fatal: under an invariant of the loop
variable it runs like a pure loop if all elements are harmless, and panics
otherwise.  `bind_eq_ok_iff` takes apart a sequence of steps, whatever its errors are, and
`mapM_eq_ok_iff` a loop that gathers results.
-/
import TopologyExporter.GoMap

/-- The run-time panics that the modelled code can meet. -/
inductive Panic
  | nilMapWrite
  | nilDereference
  deriving DecidableEq, Repr

namespace GoPanic

/-- `m[k] = v` on a map that may be nil. -/
def assign {κ ν : Type} [DecidableEq κ] (m : Option (GoMap κ ν)) (k : κ) (v : ν) :
    Except Panic (GoMap κ ν) :=
  match m with
  | none => .error .nilMapWrite
  | some m => .ok (m.insert k v)

/-- A sequence of two steps that completes. -/
theorem bind_eq_ok_iff {ε α β : Type} {x : Except ε α} {f : α → Except ε β} {b : β} :
    x >>= f = .ok b ↔ ∃ a, x = .ok a ∧ f a = .ok b := by
  constructor
  · intro h
    rcases x with e | a
    · cases h
    · exact ⟨a, rfl, h⟩
  · rintro ⟨a, rfl, h⟩
    exact h

theorem eq_ok_of_toOption {ε α : Type} {x : Except ε α} {a : α} (h : x.toOption = some a) :
    x = .ok a := by
  rcases x with e | a'
  · cases h
  · cases h
    rfl

/-- A loop that gathers results completes iff each of its elements has one. -/
theorem mapM_eq_ok_iff {ε α β : Type} {f : α → Except ε β} {l : List α} {l' : List β} :
    l.mapM f = .ok l' ↔ l.map f = l'.map .ok := by
  induction l generalizing l' with
  | nil =>
      constructor
      · intro h
        obtain rfl := Except.ok.inj h
        rfl
      · intro h
        obtain rfl := List.map_eq_nil_iff.mp h.symm
        rfl
  | cons a l ih =>
      simp only [List.mapM_cons, bind_eq_ok_iff, List.map_cons]
      constructor
      · rintro ⟨b, hb, bs, hbs, hl'⟩
        obtain rfl := Except.ok.inj hl'
        rw [hb, ih.mp hbs, List.map_cons]
      · intro h
        obtain ⟨b, bs, rfl, hb, hbs⟩ := List.map_eq_cons_iff.mp h.symm
        exact ⟨b, hb.symm, bs, ih.mpr hbs.symm, rfl⟩

/-- What is known of each result is known of the gathered ones. -/
theorem map_of_mapM {ε α β γ : Type} {f : α → Except ε β} {g : β → γ} {h : α → γ} {l : List α}
    {l' : List β} (hl : l.mapM f = .ok l') (hf : ∀ a ∈ l, ∀ b, f a = .ok b → g b = h a) :
    l'.map g = l.map h := by
  induction l generalizing l' with
  | nil =>
      obtain rfl := Except.ok.inj hl
      rfl
  | cons a l ih =>
      simp only [List.mapM_cons, bind_eq_ok_iff] at hl
      obtain ⟨b, hb, bs, hbs, hl'⟩ := hl
      obtain rfl := Except.ok.inj hl'
      rw [List.map_cons, List.map_cons, hf a List.mem_cons_self b hb,
        ih hbs fun a' ha' => hf a' (List.mem_cons_of_mem a ha')]

theorem exists_mapM_ok_iff {ε α β : Type} {f : α → Except ε β} {l : List α} :
    (∃ l', l.mapM f = .ok l') ↔ ∀ a ∈ l, ∃ b, f a = .ok b := by
  induction l with
  | nil => simp [pure, Except.pure]
  | cons a l ih =>
      simp only [List.mapM_cons, bind_eq_ok_iff, List.forall_mem_cons, ← ih]
      constructor
      · rintro ⟨_, b, hb, bs, hbs, -⟩
        exact ⟨⟨b, hb⟩, bs, hbs⟩
      · rintro ⟨⟨b, hb⟩, bs, hbs⟩
        exact ⟨b :: bs, b, hb, bs, hbs, rfl⟩

section Loop

variable {α β γ : Type} {step : β → α → Except Panic β} {pureStep : β → α → β}

/-- A loop over harmless elements runs like its pure counterpart. -/
theorem foldlM_of_good (I : β → Prop) (good : α → Prop)
    (hok : ∀ b a, I b → good a → step b a = .ok (pureStep b a))
    (hinv : ∀ b a, I b → good a → I (pureStep b a)) {l : List α} (hl : ∀ a ∈ l, good a)
    {b : β} (hb : I b) : l.foldlM step b = .ok (l.foldl pureStep b) := by
  induction l generalizing b with
  | nil => rfl
  | cons a l ih =>
      have ha := hl a (by simp)
      rw [List.foldlM_cons, hok b a hb ha, List.foldl_cons]
      exact ih (fun a' ha' => hl a' (by simp [ha'])) (hinv b a hb ha)

/-- **A loop of harmless and fatal elements** completes iff it meets no fatal
one. -/
theorem foldlM_dichotomy (I : β → Prop) (good : α → Prop)
    (hok : ∀ b a, I b → good a → step b a = .ok (pureStep b a))
    (hinv : ∀ b a, I b → good a → I (pureStep b a))
    (hbad : ∀ b a, I b → ¬ good a → ∃ p, step b a = .error p) (l : List α) {b : β} (hb : I b) :
    (∃ b', l.foldlM step b = .ok b') ↔ ∀ a ∈ l, good a := by
  constructor
  · rintro ⟨b', h⟩
    induction l generalizing b with
    | nil => simp
    | cons a l ih =>
        by_cases ha : good a
        · rw [List.foldlM_cons, hok b a hb ha] at h
          intro a' ha'
          rcases List.mem_cons.mp ha' with rfl | hmem
          · exact ha
          · exact ih (hinv b a hb ha) h a' hmem
        · obtain ⟨p, hp⟩ := hbad b a hb ha
          rw [List.foldlM_cons, hp] at h
          cases h
  · intro hl
    exact ⟨_, foldlM_of_good I good hok hinv hl hb⟩

/-- A loop whose steps panic in one way only panics in that way. -/
theorem foldlM_error_eq {p₀ : Panic} (h : ∀ b a p, step b a = .error p → p = p₀) (l : List α)
    {b : β} {p : Panic} (hl : l.foldlM step b = .error p) : p = p₀ := by
  induction l generalizing b with
  | nil => cases hl
  | cons a l ih =>
      rcases ha : step b a with p' | b'
      · rw [List.foldlM_cons, ha] at hl
        cases hl
        exact h b a p ha
      · rw [List.foldlM_cons, ha] at hl
        exact ih hl

/-- What every step preserves holds after a loop that completes. -/
theorem foldlM_invariant (I : β → Prop) (hstep : ∀ b a b', I b → step b a = .ok b' → I b')
    {l : List α} {b b' : β} (hb : I b) (h : l.foldlM step b = .ok b') : I b' := by
  induction l generalizing b with
  | nil =>
      cases h
      exact hb
  | cons a l ih =>
      rw [List.foldlM_cons] at h
      obtain ⟨b₁, hb₁, h⟩ := bind_eq_ok_iff.mp h
      exact ih (hstep b a b₁ hb hb₁) h

/-- A loop of loops is one loop over the inner elements. -/
theorem foldlM_flatMap {f : α → List γ} {g : β → γ → Except Panic β} (l : List α) (b : β) :
    (l.flatMap f).foldlM g b = l.foldlM (fun b a => (f a).foldlM g b) b := by
  induction l generalizing b with
  | nil => rfl
  | cons a l ih => simp [ih]

/-- A loop that skips some elements is the loop over the others. -/
theorem foldlM_filter (p : α → Bool) (l : List α) (b : β) :
    (l.filter p).foldlM step b = l.foldlM (fun b a => if p a then step b a else pure b) b := by
  induction l generalizing b with
  | nil => rfl
  | cons a l ih => by_cases ha : p a <;> simp [ha, ih]

end Loop

end GoPanic
