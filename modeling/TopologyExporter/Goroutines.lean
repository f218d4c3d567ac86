/-
TopologyExporter/Goroutines.lean

Goroutines that talk over channels.

A goroutine is given by its program points: at each of them it is at a `select`
(a single send or receive is a `select` with one case) or it has returned.  A
channel with a buffer takes a value while it has room and hands the values out
in order; a channel without one passes a value from a sender to a receiver when
both are there.  A channel may also lead outside the network; then the
outside sends or takes any value at any time.

`Step` is what one party, or two that meet, can do; a `Run` is any sequence of
steps, so it is any interleaving.  `Run.rule` is the invariant rule: the
invariant may speak of the actions so far.  `buffer_le_cap` is the one invariant
that every network has.
-/
import Mathlib.Logic.Function.Basic
import Mathlib.Data.List.Basic

namespace Goroutines

/-- A case of a `select`, with the program point it continues at. -/
inductive Case {Chan : Type} (Val : Chan → Type) (L : Type)
  | send (c : Chan) (v : Val c) (next : L)
  | recv (c : Chan) (next : Val c → L)

/-- A `select` statement; `default` is the branch for when no case is ready. -/
structure Select {Chan : Type} (Val : Chan → Type) (L : Type) where
  cases : List (Case Val L)
  default : Option L

/-- At program point `l` there is a `select` with this case. -/
def Offered {Chan : Type} {Val : Chan → Type} {L : Type} (code : L → Option (Select Val L)) (l : L)
    (case : Case Val L) : Prop :=
  ∃ sel, code l = some sel ∧ case ∈ sel.cases

/-- A network of goroutines. -/
structure Net (Party : Type) {Chan : Type} (Val : Chan → Type) where
  Loc : Party → Type
  /-- The statement at a program point; none once the goroutine has returned. -/
  code : (p : Party) → Loc p → Option (Select Val (Loc p))
  start : (p : Party) → Loc p
  /-- The capacity of a channel; none if the channel leads outside. -/
  cap : Chan → Option Nat

variable {Party Chan : Type} {Val : Chan → Type} {N : Net Party Val}

/-- Where each goroutine is, and what each buffer holds. -/
structure State (N : Net Party Val) where
  loc : (p : Party) → N.Loc p
  buf : (c : Chan) → List (Val c)

/-- What happens in a step. -/
inductive Act (Party : Type) {Chan : Type} (Val : Chan → Type)
  | push (p : Party) (c : Chan) (v : Val c)
  | pull (p : Party) (c : Chan) (v : Val c)
  | meet (giver taker : Party) (c : Chan) (v : Val c)
  | input (p : Party) (c : Chan) (v : Val c)
  | output (p : Party) (c : Chan) (v : Val c)
  | default (p : Party)

/-- The parties that move. -/
def Act.By (p : Party) : Act Party Val → Prop
  | .push q _ _ | .pull q _ _ | .input q _ _ | .output q _ _ | .default q => q = p
  | .meet giver taker _ _ => giver = p ∨ taker = p

namespace State

/-- Every goroutine at its first statement, every buffer empty. -/
def initial (N : Net Party Val) : State N := ⟨N.start, fun _ => []⟩

/-- Goroutine `p` is at a `select` with this case. -/
def Offers (s : State N) (p : Party) (case : Case Val (N.Loc p)) : Prop :=
  Offered (N.code p) (s.loc p) case

/-- The case can go through now.  Nothing is known of the outside. -/
def Ready (s : State N) (p : Party) : Case Val (N.Loc p) → Prop
  | .send c _ _ => ∃ n, N.cap c = some n
      ∧ ((s.buf c).length < n ∨ n = 0 ∧ ∃ q k, q ≠ p ∧ s.Offers q (.recv c k))
  | .recv c _ => ∃ n, N.cap c = some n
      ∧ (s.buf c ≠ [] ∨ n = 0 ∧ ∃ q v l, q ≠ p ∧ s.Offers q (.send c v l))

/-- A send on a channel with a buffer only needs room. -/
theorem ready_send {s : State N} {p : Party} {c : Chan} {v : Val c} {l : N.Loc p} {n : Nat}
    (hcap : N.cap c = some (n + 1)) : s.Ready p (.send c v l) ↔ (s.buf c).length < n + 1 := by
  constructor
  · rintro ⟨m, hm, hroom | ⟨rfl, -⟩⟩
    · obtain rfl : n + 1 = m := Option.some.inj (hcap.symm.trans hm)
      exact hroom
    · cases hcap.symm.trans hm
  · intro hroom
    exact ⟨n + 1, hcap, .inl hroom⟩

section Move

variable [DecidableEq Party]

/-- Goroutine `p` goes to program point `l`. -/
def move (s : State N) (p : Party) (l : N.Loc p) : State N :=
  { s with loc := Function.update s.loc p l }

@[simp] theorem move_loc_self (s : State N) (p : Party) (l : N.Loc p) : (s.move p l).loc p = l :=
  Function.update_self p l s.loc

@[simp] theorem move_loc_of_ne (s : State N) {p q : Party} (h : q ≠ p) (l : N.Loc p) :
    (s.move p l).loc q = s.loc q :=
  Function.update_of_ne h l s.loc

@[simp] theorem move_buf (s : State N) (p : Party) (l : N.Loc p) : (s.move p l).buf = s.buf := rfl

end Move

section Store

variable [DecidableEq Chan]

/-- The buffer of `c` becomes `vs`. -/
def store (s : State N) (c : Chan) (vs : List (Val c)) : State N :=
  { s with buf := Function.update s.buf c vs }

@[simp] theorem store_loc (s : State N) (c : Chan) (vs : List (Val c)) :
    (s.store c vs).loc = s.loc := rfl

@[simp] theorem store_buf_self (s : State N) (c : Chan) (vs : List (Val c)) :
    (s.store c vs).buf c = vs := by
  simp [store]

@[simp] theorem store_buf_of_ne (s : State N) {c d : Chan} (h : d ≠ c) (vs : List (Val c)) :
    (s.store c vs).buf d = s.buf d := by
  simp [store, h]

end Store

end State

variable [DecidableEq Party] [DecidableEq Chan]

/-! ### Steps and runs -/

/-- One step of the network. -/
inductive Step (N : Net Party Val) : State N → Act Party Val → State N → Prop
  | push {s : State N} {p : Party} {c : Chan} {v : Val c} {l : N.Loc p} {n : Nat}
      (hsend : s.Offers p (.send c v l)) (hcap : N.cap c = some n) (room : (s.buf c).length < n) :
      Step N s (.push p c v) ((s.move p l).store c (s.buf c ++ [v]))
  | pull {s : State N} {p : Party} {c : Chan} {v : Val c} {rest : List (Val c)} {k : Val c → N.Loc p}
      {n : Nat} (hrecv : s.Offers p (.recv c k)) (hcap : N.cap c = some (n + 1))
      (hbuf : s.buf c = v :: rest) :
      Step N s (.pull p c v) ((s.move p (k v)).store c rest)
  | meet {s : State N} {p q : Party} {c : Chan} {v : Val c} {l : N.Loc p} {k : Val c → N.Loc q}
      (hne : q ≠ p) (hcap : N.cap c = some 0) (hsend : s.Offers p (.send c v l))
      (hrecv : s.Offers q (.recv c k)) :
      Step N s (.meet p q c v) ((s.move p l).move q (k v))
  | input {s : State N} {p : Party} {c : Chan} {v : Val c} {k : Val c → N.Loc p}
      (hrecv : s.Offers p (.recv c k)) (hcap : N.cap c = none) :
      Step N s (.input p c v) (s.move p (k v))
  | output {s : State N} {p : Party} {c : Chan} {v : Val c} {l : N.Loc p}
      (hsend : s.Offers p (.send c v l)) (hcap : N.cap c = none) :
      Step N s (.output p c v) (s.move p l)
  | default {s : State N} {p : Party} {sel : Select Val (N.Loc p)} {l : N.Loc p}
      (hcode : N.code p (s.loc p) = some sel) (hdefault : sel.default = some l)
      (blocked : ∀ case ∈ sel.cases, ¬ s.Ready p case) :
      Step N s (.default p) (s.move p l)

/-- A sequence of steps, with what happened in them. -/
inductive Run (N : Net Party Val) (s : State N) : List (Act Party Val) → State N → Prop
  | nil : Run N s [] s
  | snoc {tr : List (Act Party Val)} {t u : State N} {a : Act Party Val}
      (run : Run N s tr t) (step : Step N t a u) : Run N s (tr ++ [a]) u

/-- **The invariant rule.**  What holds at the start and is kept by every step
holds after every run. -/
theorem Run.rule {I : List (Act Party Val) → State N → Prop} {s : State N} (hstart : I [] s)
    (hstep : ∀ tr t a u, I tr t → Step N t a u → I (tr ++ [a]) u)
    {tr : List (Act Party Val)} {t : State N} (run : Run N s tr t) : I tr t := by
  induction run with
  | nil => exact hstart
  | snoc _ step ih => exact hstep _ _ _ _ ih step

/-- A step changes a buffer only by the two buffer actions. -/
theorem Step.buf_cases {s t : State N} {a : Act Party Val} (step : Step N s a t) (c : Chan) :
    t.buf c = s.buf c
      ∨ (∃ v n, N.cap c = some n ∧ (s.buf c).length < n ∧ t.buf c = s.buf c ++ [v])
      ∨ ∃ v, s.buf c = v :: t.buf c := by
  cases step with
  | @push _ d v _ n _ hcap room =>
      rcases eq_or_ne c d with rfl | hne
      · exact .inr (.inl ⟨v, n, hcap, room, by simp⟩)
      · exact .inl (by simp [hne])
  | @pull _ d v rest _ _ _ _ hbuf =>
      rcases eq_or_ne c d with rfl | hne
      · exact .inr (.inr ⟨v, by simpa using hbuf⟩)
      · exact .inl (by simp [hne])
  | meet => exact .inl rfl
  | input => exact .inl rfl
  | output => exact .inl rfl
  | default => exact .inl rfl

/-- **No buffer ever holds more than its capacity.** -/
theorem buffer_le_cap {tr : List (Act Party Val)} {s : State N} (run : Run N (.initial N) tr s)
    {c : Chan} {n : Nat} (hcap : N.cap c = some n) : (s.buf c).length ≤ n := by
  refine Run.rule (I := fun _ s => (s.buf c).length ≤ n) (s := .initial N) (Nat.zero_le n) ?_ run
  intro _ t _ u hle step
  rcases step.buf_cases c with heq | ⟨v, m, hcap', hroom, heq⟩ | ⟨v, heq⟩
  · rwa [heq]
  · obtain rfl : n = m := Option.some.inj (hcap.symm.trans hcap')
    rw [heq, List.length_append]
    exact hroom
  · rw [heq] at hle
    exact Nat.le_of_succ_le hle

end Goroutines
