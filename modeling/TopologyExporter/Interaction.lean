/-
TopologyExporter/Interaction.lean

Programs that call a service.

A program is a tree of requests; it continues with whatever the service
answers.  A service answers a request from its state, which may include anything
that happens to it between two requests.  `Prog.run` runs a program against a
service and keeps the calls made, each with the state of the service right
after it.  A session runs one program after the other, each started from what
the previous one returned.

Two rules come with this.  `run_invariant` is for programs that follow a
discipline: each request is allowed by what the program has seen so far.
`session_rule` lifts a fact about one round to all rounds of a session.
-/
import Mathlib.Data.List.Basic

namespace Interaction

/-- A program that makes requests in `Q`, gets answers in `R` and returns an `α`. -/
inductive Prog (Q R α : Type)
  | ret (a : α)
  | call (q : Q) (k : R → Prog Q R α)

/-- A call, its answer, and the state of the service right after it. -/
structure Call (Q R σ : Type) where
  request : Q
  answer : R
  after : σ

/-- What is left of a run. -/
structure Run (Q R σ α : Type) where
  calls : List (Call Q R σ)
  final : σ
  result : α

/-- A run with one more call in front. -/
def Run.cons {Q R σ α : Type} (c : Call Q R σ) (run : Run Q R σ α) : Run Q R σ α :=
  ⟨c :: run.calls, run.final, run.result⟩

namespace Prog

variable {Q R α β γ σ : Type}

protected def bind : Prog Q R α → (α → Prog Q R β) → Prog Q R β
  | ret a, f => f a
  | call q k, f => call q fun r => (k r).bind f

instance : Monad (Prog Q R) where
  pure := ret
  bind := Prog.bind

/-- A single request. -/
def ask (q : Q) : Prog Q R R := call q ret

/-! ### Running -/

/-- Run a program from a state of the service. -/
def run (service : σ → Q → R × σ) : Prog Q R α → σ → Run Q R σ α
  | ret a, s => ⟨[], s, a⟩
  | call q k, s =>
      let (r, s') := service s q
      ((k r).run service s').cons ⟨q, r, s'⟩

variable {service : σ → Q → R × σ}

@[simp] theorem run_pure (a : α) (s : σ) :
    (pure a : Prog Q R α).run service s = ⟨[], s, a⟩ := rfl

@[simp] theorem run_ask_bind (q : Q) (f : R → Prog Q R α) (s : σ) :
    (ask q >>= f).run service s
      = ((f (service s q).1).run service (service s q).2).cons
          ⟨q, (service s q).1, (service s q).2⟩ := rfl

/-- Running a sequence of two programs. -/
theorem run_bind (p : Prog Q R α) (f : α → Prog Q R β) (s : σ) :
    (p >>= f).run service s
      = ⟨(p.run service s).calls
            ++ ((f (p.run service s).result).run service (p.run service s).final).calls,
          ((f (p.run service s).result).run service (p.run service s).final).final,
          ((f (p.run service s).result).run service (p.run service s).final).result⟩ := by
  induction p generalizing s with
  | ret a => rfl
  | call q k ih =>
      exact congrArg (Run.cons ⟨q, (service s q).1, (service s q).2⟩)
        (ih (service s q).1 (service s q).2)

/-- Every call of a run was served from some state. -/
theorem run_served {p : Prog Q R α} {s : σ} {c : Call Q R σ} (hc : c ∈ (p.run service s).calls) :
    ∃ s', service s' c.request = (c.answer, c.after) := by
  induction p generalizing s with
  | ret a => exact (List.not_mem_nil hc).elim
  | call q k ih =>
      rcases List.mem_cons.mp hc with rfl | hrest
      · exact ⟨s, rfl⟩
      · exact ih _ hrest

/-- A service that does what another one does, seen through `g`, gives the same run. -/
theorem run_map {σ' : Type} {service' : σ' → Q → R × σ'} {g : σ → σ'}
    (hg : ∀ s q, service' (g s) q = ((service s q).1, g (service s q).2)) (p : Prog Q R α) (s : σ) :
    (p.run service' (g s)).final = g (p.run service s).final
      ∧ (p.run service' (g s)).result = (p.run service s).result := by
  induction p generalizing s with
  | ret a => exact ⟨rfl, rfl⟩
  | call q k ih =>
      have hrest := ih (service s q).1 (service s q).2
      simp only [run, hg, Run.cons]
      exact hrest

/-! ### Disciplined programs -/

/-- Each request is allowed by what has been seen so far. -/
def Respects (allowed : γ → Q → Prop) (learn : γ → Q → R → γ) : γ → Prog Q R α → Prop
  | _, ret _ => True
  | seen, call q k => allowed seen q ∧ ∀ r, (k r).Respects allowed learn (learn seen q r)

variable {allowed : γ → Q → Prop} {learn : γ → Q → R → γ}

@[simp] theorem respects_ask_bind (seen : γ) (q : Q) (f : R → Prog Q R α) :
    (ask q >>= f).Respects allowed learn seen
      ↔ allowed seen q ∧ ∀ r, (f r).Respects allowed learn (learn seen q r) := Iff.rfl

/-- Sequencing of disciplined programs. -/
theorem Respects.bind {p : Prog Q R α} {f : α → Prog Q R β} {seen : γ}
    (hp : p.Respects allowed learn seen) (hf : ∀ seen' a, (f a).Respects allowed learn seen') :
    (p >>= f).Respects allowed learn seen := by
  induction p generalizing seen with
  | ret a => exact hf seen a
  | call q k ih => exact ⟨hp.1, fun r => ih r (hp.2 r)⟩

/-- **The invariant rule.**  If the service keeps `I` and establishes `Post` on
every allowed request, so does every run of a disciplined program. -/
theorem run_invariant {I : γ → σ → Prop} {Post : Call Q R σ → Prop}
    (hstep : ∀ seen s q, I seen s → allowed seen q →
      I (learn seen q (service s q).1) (service s q).2
        ∧ Post ⟨q, (service s q).1, (service s q).2⟩)
    {p : Prog Q R α} {seen : γ} (hp : p.Respects allowed learn seen) {s : σ} (hs : I seen s) :
    (∀ c ∈ (p.run service s).calls, Post c) ∧ ∃ seen', I seen' (p.run service s).final := by
  induction p generalizing seen s with
  | ret a => exact ⟨fun c hc => (List.not_mem_nil hc).elim, seen, hs⟩
  | call q k ih =>
      obtain ⟨hI, hpost⟩ := hstep seen s q hs hp.1
      obtain ⟨hcalls, hfinal⟩ := ih _ (hp.2 _) hI
      refine ⟨fun c hc => ?_, hfinal⟩
      rcases List.mem_cons.mp hc with rfl | hmem
      · exact hpost
      · exact hcalls c hmem

end Prog

/-! ### Sessions -/

/-- One program of a session: its input, the client's state before and after,
its result, and its calls. -/
structure Round (ι Q R σ τ β : Type) where
  input : ι
  before : τ
  after : τ
  result : β
  calls : List (Call Q R σ)
  final : σ

section Session

variable {ι Q R σ τ β : Type}

/-- The round that starts in `t` and `s` with input `i`. -/
def roundOf (prog : τ → ι → Prog Q R (τ × β)) (service : σ → Q → R × σ) (t : τ) (s : σ) (i : ι) :
    Round ι Q R σ τ β :=
  let out := (prog t i).run service s
  ⟨i, t, out.result.1, out.result.2, out.calls, out.final⟩

/-- Run a program for each input, passing the client's state on. -/
def session (prog : τ → ι → Prog Q R (τ × β)) (service : σ → Q → R × σ) :
    τ → σ → List ι → List (Round ι Q R σ τ β)
  | _, _, [] => []
  | t, s, i :: inputs =>
      let r := roundOf prog service t s i
      r :: session prog service r.after r.final inputs

/-- The client and the service after a session. -/
def reached (prog : τ → ι → Prog Q R (τ × β)) (service : σ → Q → R × σ) (t : τ) (s : σ)
    (inputs : List ι) : τ × σ :=
  inputs.foldl (fun ts i => ((roundOf prog service ts.1 ts.2 i).after,
    (roundOf prog service ts.1 ts.2 i).final)) (t, s)

variable {prog : τ → ι → Prog Q R (τ × β)} {service : σ → Q → R × σ}

theorem reached_snoc (t : τ) (s : σ) (inputs : List ι) (i : ι) :
    reached prog service t s (inputs ++ [i])
      = ((roundOf prog service (reached prog service t s inputs).1
            (reached prog service t s inputs).2 i).after,
          (roundOf prog service (reached prog service t s inputs).1
            (reached prog service t s inputs).2 i).final) := by
  rw [reached, List.foldl_append]
  rfl

/-- A session with a service that does what another one does, seen through `g`. -/
theorem reached_map {σ' : Type} {service' : σ' → Q → R × σ'} {g : σ → σ'}
    (hg : ∀ s q, service' (g s) q = ((service s q).1, g (service s q).2)) (t : τ) (s : σ)
    (inputs : List ι) :
    reached prog service' t (g s) inputs
      = ((reached prog service t s inputs).1, g (reached prog service t s inputs).2) := by
  induction inputs generalizing t s with
  | nil => rfl
  | cons i inputs ih =>
      obtain ⟨hfinal, hresult⟩ := Prog.run_map hg (prog t i) s
      have hround : (roundOf prog service' t (g s) i).after = (roundOf prog service t s i).after
          ∧ (roundOf prog service' t (g s) i).final = g (roundOf prog service t s i).final :=
        ⟨congrArg Prod.fst hresult, hfinal⟩
      simp only [reached, List.foldl_cons, hround]
      exact ih _ _

/-- One more input is one more round. -/
theorem session_snoc (t : τ) (s : σ) (inputs : List ι) (i : ι) :
    session prog service t s (inputs ++ [i])
      = session prog service t s inputs
          ++ [roundOf prog service (reached prog service t s inputs).1
            (reached prog service t s inputs).2 i] := by
  induction inputs generalizing t s with
  | nil => rfl
  | cons i' inputs ih => exact congrArg (List.cons _) (ih _ _)

/-- **The session rule.**  An invariant of the rounds done so far, the client and
the service, kept by every round, gives a fact about each round and what came
before it. -/
theorem session_rule {I : List (Round ι Q R σ τ β) → τ → σ → Prop} {good : ι → Prop}
    {P : List (Round ι Q R σ τ β) → Round ι Q R σ τ β → Prop}
    (hround : ∀ done t s i, I done t s → good i →
      I (done ++ [roundOf prog service t s i]) (roundOf prog service t s i).after
          (roundOf prog service t s i).final
        ∧ P done (roundOf prog service t s i))
    {t : τ} {s : σ} (h : I [] t s) {inputs : List ι} (hgood : ∀ i ∈ inputs, good i)
    {pre post : List (Round ι Q R σ τ β)} {r : Round ι Q R σ τ β}
    (hsession : session prog service t s inputs = pre ++ r :: post) : P pre r := by
  have aux : ∀ {done : List (Round ι Q R σ τ β)}, I done t s → P (done ++ pre) r := by
    clear h
    intro done h
    induction inputs generalizing t s done pre with
    | nil => simp [session] at hsession
    | cons i inputs ih =>
        obtain ⟨hI, hP⟩ := hround done t s i h (hgood i (by simp))
        cases pre with
        | nil =>
            obtain ⟨rfl, -⟩ := List.cons.inj hsession
            simpa using hP
        | cons r' pre =>
            obtain ⟨rfl, hrest⟩ := List.cons.inj hsession
            have hih := ih (fun i' hi' => hgood i' (by simp [hi'])) hrest hI
            rwa [List.append_assoc] at hih
  exact aux h

end Session

end Interaction
