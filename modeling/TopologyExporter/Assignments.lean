/-
TopologyExporter/Assignments.lean

Variables and the assignments made to them.

A family of variables `ι` has values of the types `β`; a store holds a value for
each.  Sources of settings (a parsed command line, a decoded file) are lists of
assignments, made one after the other.  `run_apply` says what is left at the end: each
variable holds the last value assigned to it, if there is one.

The second half is about sources that are consulted only for variables that are still
unset, where the zero value of the type is taken to mean unset (`orElse`).
`passes_eq_iff` compares such a chain of passes with the precedence that it stands for.
-/
import Mathlib.Logic.Function.Basic

namespace Assignments

variable {ι : Type} [DecidableEq ι] {β : ι → Type}

/-- A value for one of the variables. -/
abbrev Assignment (β : ι → Type) := (i : ι) × β i

/-- The store after a list of assignments. -/
def run (st : ∀ i, β i) (l : List (Assignment β)) : ∀ i, β i :=
  l.foldl (fun st a => Function.update st a.1 a.2) st

/-- The value a single assignment has for a variable. -/
def Assignment.value? (a : Assignment β) (i : ι) : Option (β i) :=
  if h : a.1 = i then some (h ▸ a.2) else none

/-- The last value that is assigned to a variable. -/
def last : List (Assignment β) → (i : ι) → Option (β i)
  | [], _ => none
  | a :: l, i => (last l i).or (a.value? i)

theorem value?_self (a : Assignment β) : a.value? a.1 = some a.2 := dif_pos rfl

theorem value?_of_ne {a : Assignment β} {i : ι} (h : a.1 ≠ i) : a.value? i = none := dif_neg h

theorem update_apply_eq_getD (st : ∀ i, β i) (a : Assignment β) (i : ι) :
    Function.update st a.1 a.2 i = (a.value? i).getD (st i) := by
  by_cases h : a.1 = i
  · subst h
    rw [Function.update_self, value?_self, Option.getD_some]
  · rw [Function.update_of_ne (Ne.symm h), value?_of_ne h, Option.getD_none]

/-- **The last assignment counts.** -/
theorem run_apply (st : ∀ i, β i) (l : List (Assignment β)) (i : ι) :
    run st l i = (last l i).getD (st i) := by
  induction l generalizing st with
  | nil => rfl
  | cons a l ih =>
      show run (Function.update st a.1 a.2) l i = _
      rw [ih, update_apply_eq_getD, last]
      rcases last l i with - | v <;> rfl

/-! ### Zero for unset -/

section Zero

variable {α : Type} [DecidableEq α] {z d fallback : α} {flag file env : Option α}

/-- `v`, or `w` if `v` is the zero value. -/
def orElse (z v w : α) : α := if v = z then w else v

theorem orElse_zero_left (z w : α) : orElse z z w = w := if_pos rfl

theorem orElse_of_ne {v : α} (h : v ≠ z) (w : α) : orElse z v w = v := if_neg h

@[simp] theorem orElse_zero_right (z v : α) : orElse z v z = v := by
  by_cases h : v = z
  · rw [h, orElse_zero_left]
  · exact orElse_of_ne h z

/-- A value is kept if it is not zero, or if there is nothing to replace it by. -/
theorem orElse_eq_self_iff {v w : α} : orElse z v w = v ↔ (v = z → w = z) := by
  by_cases h : v = z
  · subst h
    rw [orElse_zero_left]
    exact ⟨fun h _ => h, fun h => h rfl⟩
  · rw [orElse_of_ne h]
    exact ⟨fun _ h' => absurd h' h, fun _ => rfl⟩

theorem orElse_eq_zero_iff {v w : α} : orElse z v w = z ↔ v = z ∧ w = z := by
  by_cases h : v = z
  · subst h
    rw [orElse_zero_left]
    exact ⟨fun h => ⟨rfl, h⟩, fun h => h.2⟩
  · rw [orElse_of_ne h]
    exact ⟨fun h' => absurd h' h, fun h' => h'.1⟩

/-- Passes over a default: the file, the environment if the value is zero, the flag, and
a fallback if the value is zero again. -/
def passes (z d fallback : α) (flag file env : Option α) : α :=
  orElse z (flag.getD (orElse z (file.getD d) (env.getD z))) fallback

/-- Flag over file over environment over default. -/
def precedence (z d fallback : α) (flag file env : Option α) : α :=
  ((flag.or file).or env).getD (orElse z d fallback)

/-- When passes keep the precedence. -/
def PassesKeep (z d fallback : α) (flag file env : Option α) : Prop :=
  match flag, file with
  | some f, _ => f = z → fallback = z
  | none, some v => v = z → env.getD z = z ∧ fallback = z
  | none, none => d = z ∨ env = none ∨ env = some d

instance : Decidable (PassesKeep z d fallback flag file env) :=
  match flag, file with
  | some _, _ => inferInstanceAs (Decidable (_ → _))
  | none, some _ => inferInstanceAs (Decidable (_ → _))
  | none, none => inferInstanceAs (Decidable (_ ∨ _))

/-- **Passes keep the precedence** as long as no source sets the zero value where a later
source has another one, and no default hides the environment. -/
theorem passes_eq_iff (henv : env = some z → d ≠ z) :
    passes z d fallback flag file env = precedence z d fallback flag file env
      ↔ PassesKeep z d fallback flag file env := by
  rcases flag with - | f
  · rcases file with - | v
    · show orElse z (orElse z d (env.getD z)) fallback = env.getD (orElse z d fallback) ↔ _
      by_cases hd : d = z
      · -- the environment is read
        have hkeep : PassesKeep z d fallback none none env := Or.inl hd
        subst hd
        rw [orElse_zero_left, orElse_zero_left]
        refine ⟨fun _ => hkeep, fun _ => ?_⟩
        rcases env with - | w
        · exact orElse_zero_left _ _
        · exact orElse_of_ne (fun hw => henv (congrArg some hw) rfl) _
      · rw [orElse_of_ne hd, orElse_of_ne hd]
        show d = env.getD d ↔ d = z ∨ env = none ∨ env = some d
        rcases env with - | w
        · exact ⟨fun _ => Or.inr (Or.inl rfl), fun _ => rfl⟩
        · constructor
          · intro h
            exact Or.inr (Or.inr (congrArg some h.symm))
          · rintro (h | h | h)
            · exact absurd h hd
            · cases h
            · exact (Option.some.inj h).symm
    · show orElse z (orElse z v (env.getD z)) fallback = v ↔ (v = z → env.getD z = z ∧ fallback = z)
      by_cases hv : v = z
      · subst hv
        rw [orElse_zero_left, orElse_eq_zero_iff]
        exact ⟨fun h _ => h, fun h => h rfl⟩
      · rw [orElse_of_ne hv, orElse_of_ne hv]
        exact ⟨fun _ h => absurd h hv, fun _ => rfl⟩
  · exact orElse_eq_self_iff

end Zero

end Assignments
