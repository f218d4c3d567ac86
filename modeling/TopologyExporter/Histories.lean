/-
TopologyExporter/Histories.lean

A network of goroutines, one goroutine at a time.

What a goroutine does depends on the others only through what it receives.  Its
`history` in a run is the sequence of its own communications, and `Run.goes` says
that this history is one that the goroutine has on its own (`Goes`).  The other half
is the law of the channels, `Run.taken_append_buf`: what was taken from a channel,
followed by what is in its buffer, is what was sent on it, in order.

So a fact about all interleavings needs a fact about each goroutine alone, by
induction over its own steps, and the law for the channels between them.
`Run.work` bounds the length of a run by a potential.
-/
import TopologyExporter.Goroutines
import Mathlib.Algebra.Order.Group.Nat

namespace Goroutines

variable {Party Chan : Type} {Val : Chan → Type}

/-! ### Communications -/

/-- One communication of a goroutine. -/
inductive Comm {Chan : Type} (Val : Chan → Type)
  | sent (c : Chan) (v : Val c)
  | got (c : Chan) (v : Val c)

section Values

variable [DecidableEq Chan]

/-- A value on channel `d`, if this is `c`. -/
def onChan (c : Chan) {d : Chan} (v : Val d) : Option (Val c) :=
  if h : d = c then some (h ▸ v) else none

@[simp] theorem onChan_self (c : Chan) (v : Val c) : onChan c v = some v := dif_pos rfl

theorem onChan_of_ne {c d : Chan} (h : d ≠ c) (v : Val d) : onChan c v = none := dif_neg h

/-- What a goroutine with this history has sent on `c`, in order. -/
def sentOn (c : Chan) (h : List (Comm Val)) : List (Val c) :=
  h.filterMap fun
    | .sent _ v => onChan c v
    | .got _ _ => none

/-- What a goroutine with this history has received on `c`, in order. -/
def gotOn (c : Chan) (h : List (Comm Val)) : List (Val c) :=
  h.filterMap fun
    | .sent _ _ => none
    | .got _ v => onChan c v

@[simp] theorem sentOn_nil (c : Chan) : sentOn c ([] : List (Comm Val)) = [] := rfl

@[simp] theorem gotOn_nil (c : Chan) : gotOn c ([] : List (Comm Val)) = [] := rfl

theorem sentOn_append (c : Chan) (h h' : List (Comm Val)) :
    sentOn c (h ++ h') = sentOn c h ++ sentOn c h' := List.filterMap_append

theorem gotOn_append (c : Chan) (h h' : List (Comm Val)) :
    gotOn c (h ++ h') = gotOn c h ++ gotOn c h' := List.filterMap_append

@[simp] theorem sentOn_snoc_self (c : Chan) (h : List (Comm Val)) (v : Val c) :
    sentOn c (h ++ [.sent c v]) = sentOn c h ++ [v] := by
  simp [sentOn]

@[simp] theorem sentOn_snoc_of_ne {c d : Chan} (hne : d ≠ c) (h : List (Comm Val)) (v : Val d) :
    sentOn c (h ++ [.sent d v]) = sentOn c h := by
  simp [sentOn, onChan_of_ne hne]

@[simp] theorem sentOn_snoc_got (c : Chan) {d : Chan} (h : List (Comm Val)) (v : Val d) :
    sentOn c (h ++ [.got d v]) = sentOn c h := by
  simp [sentOn]

@[simp] theorem gotOn_snoc_self (c : Chan) (h : List (Comm Val)) (v : Val c) :
    gotOn c (h ++ [.got c v]) = gotOn c h ++ [v] := by
  simp [gotOn]

@[simp] theorem gotOn_snoc_of_ne {c d : Chan} (hne : d ≠ c) (h : List (Comm Val)) (v : Val d) :
    gotOn c (h ++ [.got d v]) = gotOn c h := by
  simp [gotOn, onChan_of_ne hne]

@[simp] theorem gotOn_snoc_sent (c : Chan) {d : Chan} (h : List (Comm Val)) (v : Val d) :
    gotOn c (h ++ [.sent d v]) = gotOn c h := by
  simp [gotOn]

end Values

/-! ### A goroutine on its own -/

/-- The goroutine with this code can go from `l` to a program point with these
communications, if the others let it. -/
inductive Goes {L : Type} (code : L → Option (Select Val L)) (l : L) : List (Comm Val) → L → Prop
  | start : Goes code l [] l
  | send {h : List (Comm Val)} {m n : L} {c : Chan} {v : Val c} (goes : Goes code l h m)
      (hsend : Offered code m (.send c v n)) : Goes code l (h ++ [.sent c v]) n
  | recv {h : List (Comm Val)} {m : L} {c : Chan} {k : Val c → L} (goes : Goes code l h m)
      (hrecv : Offered code m (.recv c k)) (v : Val c) : Goes code l (h ++ [.got c v]) (k v)
  | default {h : List (Comm Val)} {m n : L} {sel : Select Val L} (goes : Goes code l h m)
      (hcode : code m = some sel) (hdefault : sel.default = some n) : Goes code l h n

section Offers

variable [DecidableEq Chan] {L : Type} {code : L → Option (Select Val L)} {l m : L}
  {h : List (Comm Val)} {c : Chan} {v : Val c}

/-- What has been sent was offered. -/
theorem Goes.offered_of_mem_sentOn (goes : Goes code l h m) (hv : v ∈ sentOn c h) :
    ∃ l' n, Offered code l' (.send c v n) := by
  induction goes with
  | start => cases hv
  | @send h m n d w _ hsend ih =>
      rcases eq_or_ne d c with rfl | hd
      · rw [sentOn_snoc_self] at hv
        rcases List.mem_append.mp hv with hv | hv
        · exact ih hv
        · rw [List.mem_singleton.mp hv]
          exact ⟨m, n, hsend⟩
      · exact ih (by rwa [sentOn_snoc_of_ne hd] at hv)
  | recv _ _ _ ih => exact ih (by rwa [sentOn_snoc_got] at hv)
  | default _ _ _ ih => exact ih hv

/-- What has been received was waited for. -/
theorem Goes.offered_of_mem_gotOn (goes : Goes code l h m) (hv : v ∈ gotOn c h) :
    ∃ l' k, Offered code l' (.recv c k) := by
  induction goes with
  | start => cases hv
  | send _ _ ih => exact ih (by rwa [gotOn_snoc_sent] at hv)
  | @recv h m d k _ hrecv w ih =>
      rcases eq_or_ne d c with rfl | hd
      · exact ⟨m, k, hrecv⟩
      · exact ih (by rwa [gotOn_snoc_of_ne hd] at hv)
  | default _ _ _ ih => exact ih hv

end Offers

/-- A goroutine without code stays where it is. -/
theorem Goes.of_no_code {L : Type} {code : L → Option (Select Val L)} {l m : L} {h : List (Comm Val)}
    (hnone : ∀ l, code l = none) (goes : Goes code l h m) : h = [] ∧ m = l := by
  induction goes with
  | start => exact ⟨rfl, rfl⟩
  | send _ hsend _ =>
      obtain ⟨sel, hcode, -⟩ := hsend
      cases (hnone _).symm.trans hcode
  | recv _ hrecv _ _ =>
      obtain ⟨sel, hcode, -⟩ := hrecv
      cases (hnone _).symm.trans hcode
  | default _ hcode _ _ => cases (hnone _).symm.trans hcode

/-! ### Channels under other names -/

section Along

variable {Chan' : Type} (f : Chan' → Chan) {L : Type}

/-- The case, with its channel under the name `f` gives it. -/
def Case.along : Case (fun c => Val (f c)) L → Case Val L
  | .send c v n => .send (f c) v n
  | .recv c k => .recv (f c) k

/-- The code, with its channels under the names `f` gives them. -/
def codeAlong (code : L → Option (Select (fun c => Val (f c)) L)) (l : L) : Option (Select Val L) :=
  (code l).map fun sel => ⟨sel.cases.map (Case.along f), sel.default⟩

def Comm.along : Comm (fun c => Val (f c)) → Comm Val
  | .sent c v => .sent (f c) v
  | .got c v => .got (f c) v

variable {code : L → Option (Select (fun c => Val (f c)) L)} {f}

theorem offered_codeAlong {l : L} {case : Case Val L} :
    Offered (codeAlong f code) l case ↔ ∃ case', Offered code l case' ∧ case'.along f = case := by
  constructor
  · rintro ⟨sel, hcode, hcase⟩
    obtain ⟨sel', hcode', rfl⟩ := Option.map_eq_some_iff.mp hcode
    obtain ⟨case', hcase', rfl⟩ := List.mem_map.mp hcase
    exact ⟨case', ⟨sel', hcode', hcase'⟩, rfl⟩
  · rintro ⟨case', ⟨sel', hcode', hcase'⟩, rfl⟩
    exact ⟨_, Option.map_eq_some_iff.mpr ⟨sel', hcode', rfl⟩, List.mem_map_of_mem hcase'⟩

/-- The goroutine goes on as under the old names. -/
theorem Goes.of_along {l m : L} {h : List (Comm Val)} (goes : Goes (codeAlong f code) l h m) :
    ∃ h' : List (Comm fun c => Val (f c)), h = h'.map (Comm.along f) ∧ Goes code l h' m := by
  induction goes with
  | start => exact ⟨[], rfl, .start⟩
  | send _ hsend ih =>
      obtain ⟨h', rfl, goes'⟩ := ih
      obtain ⟨case, hcase, heq⟩ := offered_codeAlong.mp hsend
      cases case <;> cases heq
      exact ⟨_, by rw [List.map_append]; rfl, goes'.send hcase⟩
  | recv _ hrecv v ih =>
      obtain ⟨h', rfl, goes'⟩ := ih
      obtain ⟨case, hcase, heq⟩ := offered_codeAlong.mp hrecv
      cases case <;> cases heq
      exact ⟨_, by rw [List.map_append]; rfl, goes'.recv hcase v⟩
  | default _ hcode hdefault ih =>
      obtain ⟨h', rfl, goes'⟩ := ih
      obtain ⟨sel', hcode', rfl⟩ := Option.map_eq_some_iff.mp hcode
      exact ⟨h', rfl, goes'.default hcode' hdefault⟩

variable [DecidableEq Chan] [DecidableEq Chan']

theorem onChan_along (hf : Function.Injective f) (c : Chan') {d : Chan'} (v : Val (f d)) :
    onChan (f c) v = @onChan Chan' (fun c => Val (f c)) _ c d v := by
  rcases eq_or_ne d c with rfl | hd
  · simp
  · rw [onChan_of_ne hd, onChan_of_ne (hf.ne hd)]

theorem sentOn_along (hf : Function.Injective f) (c : Chan') (h : List (Comm fun c => Val (f c))) :
    sentOn (f c) (h.map (Comm.along f)) = sentOn c h := by
  rw [sentOn, sentOn, List.filterMap_map]
  refine List.filterMap_congr fun e _ => ?_
  cases e with
  | sent d v => exact onChan_along hf c v
  | got d v => rfl

theorem gotOn_along (hf : Function.Injective f) (c : Chan') (h : List (Comm fun c => Val (f c))) :
    gotOn (f c) (h.map (Comm.along f)) = gotOn c h := by
  rw [gotOn, gotOn, List.filterMap_map]
  refine List.filterMap_congr fun e _ => ?_
  cases e with
  | sent d v => rfl
  | got d v => exact onChan_along hf c v

end Along

/-! ### Runs -/

section History

variable [DecidableEq Party]

/-- The communications of `p` in an action. -/
def Act.comms (p : Party) : Act Party Val → List (Comm Val)
  | .push q c v | .output q c v => if q = p then [.sent c v] else []
  | .pull q c v | .input q c v => if q = p then [.got c v] else []
  | .meet giver taker c v =>
      (if giver = p then [.sent c v] else []) ++ if taker = p then [.got c v] else []
  | .default _ => []

/-- The communications of `p` in a run. -/
def history (p : Party) (tr : List (Act Party Val)) : List (Comm Val) := tr.flatMap (Act.comms p)

theorem history_snoc (p : Party) (tr : List (Act Party Val)) (a : Act Party Val) :
    history p (tr ++ [a]) = history p tr ++ a.comms p := by
  simp [history]

variable [DecidableEq Chan] {N : Net Party Val}

/-- One step, as the goroutine `p` sees it. -/
theorem Step.goes {s t : State N} {a : Act Party Val} (step : Step N s a t) {p : Party}
    {l : N.Loc p} {h : List (Comm Val)} (goes : Goes (N.code p) l h (s.loc p)) :
    Goes (N.code p) l (h ++ a.comms p) (t.loc p) := by
  cases step with
  | @push q c v n _ hsend =>
      rcases eq_or_ne q p with rfl | hq
      · simpa [Act.comms] using goes.send hsend
      · simpa [Act.comms, hq, hq.symm] using goes
  | @pull q c v _ k _ hrecv =>
      rcases eq_or_ne q p with rfl | hq
      · simpa [Act.comms] using goes.recv hrecv v
      · simpa [Act.comms, hq, hq.symm] using goes
  | @meet giver taker c v n k hne _ hsend hrecv =>
      rcases eq_or_ne giver p with rfl | hgiver
      · simpa [Act.comms, hne, hne.symm] using goes.send hsend
      · rcases eq_or_ne taker p with rfl | htaker
        · simpa [Act.comms, hgiver] using goes.recv hrecv v
        · simpa [Act.comms, hgiver, htaker, hgiver.symm, htaker.symm] using goes
  | @input q c v k hrecv =>
      rcases eq_or_ne q p with rfl | hq
      · simpa [Act.comms] using goes.recv hrecv v
      · simpa [Act.comms, hq, hq.symm] using goes
  | @output q c v n hsend =>
      rcases eq_or_ne q p with rfl | hq
      · simpa [Act.comms] using goes.send hsend
      · simpa [Act.comms, hq, hq.symm] using goes
  | @default q sel n hcode hdefault =>
      rcases eq_or_ne q p with rfl | hq
      · simpa [Act.comms] using goes.default hcode hdefault
      · simpa [Act.comms, hq, hq.symm] using goes

/-- **In a run, every goroutine does what it can do on its own.** -/
theorem Run.goes {s t : State N} {tr : List (Act Party Val)} (run : Run N s tr t) (p : Party) :
    Goes (N.code p) (s.loc p) (history p tr) (t.loc p) := by
  induction run with
  | nil => exact .start
  | snoc _ step ih =>
      rw [history_snoc]
      exact step.goes ih

/-! ### The law of the channels -/

/-- What is sent on `c` in an action, with its sender. -/
def Act.sends (c : Chan) : Act Party Val → List (Party × Val c)
  | .push p _ v | .output p _ v | .meet p _ _ v => ((onChan c v).map (Prod.mk p)).toList
  | .pull .. | .input .. | .default _ => []

/-- What is taken from `c` in an action, with its receiver. -/
def Act.takes (c : Chan) : Act Party Val → List (Party × Val c)
  | .pull p _ v | .input p _ v | .meet _ p _ v => ((onChan c v).map (Prod.mk p)).toList
  | .push .. | .output .. | .default _ => []

/-- What was sent on `c` in a run, each value with its sender. -/
def sends (c : Chan) (tr : List (Act Party Val)) : List (Party × Val c) := tr.flatMap (Act.sends c)

/-- What was taken from `c` in a run, each value with its receiver. -/
def takes (c : Chan) (tr : List (Act Party Val)) : List (Party × Val c) := tr.flatMap (Act.takes c)

/-- **What was taken from a channel, followed by what its buffer holds, is what was
sent on it.** -/
theorem Run.taken_append_buf {tr : List (Act Party Val)} {t : State N}
    (run : Run N (.initial N) tr t) {c : Chan} {n : Nat} (hcap : N.cap c = some n) :
    (takes c tr).map Prod.snd ++ t.buf c = (sends c tr).map Prod.snd := by
  induction run with
  | nil => rfl
  | @snoc tr t _ _ run step ih =>
      rw [takes, sends] at ih ⊢
      rw [List.flatMap_append, List.flatMap_append, List.map_append, List.map_append]
      cases step with
      | @push p d v =>
          rcases eq_or_ne d c with rfl | hd
          · simp [Act.sends, Act.takes, ← ih]
          · simp [Act.sends, Act.takes, onChan_of_ne hd, hd.symm, ih]
      | @pull p d v rest _ _ _ _ hbuf =>
          rcases eq_or_ne d c with rfl | hd
          · simp [Act.sends, Act.takes, ← ih, hbuf]
          · simp [Act.sends, Act.takes, onChan_of_ne hd, hd.symm, ih]
      | @meet p q d v _ _ hne hcap' =>
          rcases eq_or_ne d c with rfl | hd
          · -- a channel on which goroutines meet holds nothing
            have hempty : t.buf d = [] := List.length_eq_zero_iff.mp
              (Nat.le_zero.mp (buffer_le_cap run hcap'))
            simpa [Act.sends, Act.takes, hempty] using ih
          · simp [Act.sends, Act.takes, onChan_of_ne hd, ih]
      | @input p d v _ _ hcap' =>
          have hd : d ≠ c := by
            rintro rfl
            cases hcap.symm.trans hcap'
          simp [Act.sends, Act.takes, onChan_of_ne hd, ih]
      | @output p d v _ _ hcap' =>
          have hd : d ≠ c := by
            rintro rfl
            cases hcap.symm.trans hcap'
          simp [Act.sends, Act.takes, onChan_of_ne hd, ih]
      | default => simp [Act.sends, Act.takes, ih]

/-- What a goroutine has sent on a channel is its share of what was sent there. -/
theorem sentOn_history (c : Chan) (p : Party) (tr : List (Act Party Val)) :
    sentOn c (history p tr) = ((sends c tr).filter fun e => e.1 = p).map Prod.snd := by
  have hact : ∀ a : Act Party Val,
      sentOn c (a.comms p) = ((a.sends c).filter fun e => e.1 = p).map Prod.snd := by
    intro a
    cases a with
    | push q d v | output q d v =>
        by_cases hq : q = p <;> rcases h : onChan c v with - | w <;>
          simp [Act.comms, Act.sends, sentOn, hq, h]
    | meet q r d v =>
        by_cases hq : q = p <;> by_cases hr : r = p <;> rcases h : onChan c v with - | w <;>
          simp [Act.comms, Act.sends, sentOn, hq, hr, h]
    | pull q d v | input q d v =>
        by_cases hq : q = p <;> simp [Act.comms, Act.sends, sentOn, hq]
    | default => rfl
  induction tr with
  | nil => rfl
  | cons a tr ih =>
      rw [history, sends, List.flatMap_cons, List.flatMap_cons, sentOn_append, List.filter_append,
        List.map_append, hact]
      exact congrArg _ ih

/-- What a goroutine has received on a channel is its share of what was taken. -/
theorem gotOn_history (c : Chan) (p : Party) (tr : List (Act Party Val)) :
    gotOn c (history p tr) = ((takes c tr).filter fun e => e.1 = p).map Prod.snd := by
  have hact : ∀ a : Act Party Val,
      gotOn c (a.comms p) = ((a.takes c).filter fun e => e.1 = p).map Prod.snd := by
    intro a
    cases a with
    | push q d v | output q d v =>
        by_cases hq : q = p <;> simp [Act.comms, Act.takes, gotOn, hq]
    | meet q r d v =>
        by_cases hq : q = p <;> by_cases hr : r = p <;> rcases h : onChan c v with - | w <;>
          simp [Act.comms, Act.takes, gotOn, hq, hr, h]
    | pull q d v | input q d v =>
        by_cases hq : q = p <;> rcases h : onChan c v with - | w <;>
          simp [Act.comms, Act.takes, gotOn, hq, h]
    | default => rfl
  induction tr with
  | nil => rfl
  | cons a tr ih =>
      rw [history, takes, List.flatMap_cons, List.flatMap_cons, gotOn_append, List.filter_append,
        List.map_append, hact]
      exact congrArg _ ih

/-- No goroutine but `p` ever sends on `c`. -/
def OnlySender (N : Net Party Val) (p : Party) (c : Chan) : Prop :=
  ∀ q l v n, Offered (N.code q) l (.send c v n) → q = p

/-- No goroutine but `p` ever receives on `c`. -/
def OnlyReceiver (N : Net Party Val) (p : Party) (c : Chan) : Prop :=
  ∀ q l k, Offered (N.code q) l (.recv c k) → q = p

theorem Run.sentOn_eq_nil {s t : State N} {tr : List (Act Party Val)} (run : Run N s tr t) {p q : Party}
    {c : Chan} (hp : OnlySender N p c) (hne : q ≠ p) : sentOn c (history q tr) = [] := by
  refine List.eq_nil_iff_forall_not_mem.mpr fun v hv => hne ?_
  obtain ⟨l, n, hsend⟩ := (run.goes q).offered_of_mem_sentOn hv
  exact hp q l v n hsend

theorem Run.gotOn_eq_nil {s t : State N} {tr : List (Act Party Val)} (run : Run N s tr t) {p q : Party}
    {c : Chan} (hp : OnlyReceiver N p c) (hne : q ≠ p) : gotOn c (history q tr) = [] := by
  refine List.eq_nil_iff_forall_not_mem.mpr fun v hv => hne ?_
  obtain ⟨l, k, hrecv⟩ := (run.goes q).offered_of_mem_gotOn hv
  exact hp q l k hrecv

section Laws

variable {tr : List (Act Party Val)} {t : State N} {p q : Party} {c : Chan} {n : Nat}

/-- The law for the one receiver of a channel. -/
theorem Run.received_append_buf (run : Run N (.initial N) tr t) (hcap : N.cap c = some n)
    (hq : OnlyReceiver N q c) :
    gotOn c (history q tr) ++ t.buf c = (sends c tr).map Prod.snd := by
  rw [← run.taken_append_buf hcap, gotOn_history, List.filter_eq_self.mpr]
  intro e he
  by_contra hne
  have hmem : e.2 ∈ gotOn c (history e.1 tr) := by
    rw [gotOn_history]
    exact List.mem_map_of_mem (List.mem_filter.mpr ⟨he, by simp⟩)
  rw [run.gotOn_eq_nil hq (by simpa using hne)] at hmem
  cases hmem

/-- If the values tell whether `p` has sent them, the receiver can tell them apart. -/
theorem Run.received_from (run : Run N (.initial N) tr t) (hcap : N.cap c = some n)
    (hq : OnlyReceiver N q c) {P : Val c → Bool}
    (hP : ∀ r, ∀ v ∈ sentOn c (history r tr), P v = decide (r = p)) :
    (gotOn c (history q tr) ++ t.buf c).filter P = sentOn c (history p tr) := by
  rw [run.received_append_buf hcap hq, sentOn_history, List.filter_map]
  refine congrArg (List.map Prod.snd) (List.filter_congr fun e he => hP e.1 e.2 ?_)
  rw [sentOn_history]
  exact List.mem_map_of_mem (List.mem_filter.mpr ⟨he, by simp⟩)

/-- The law for a channel with one sender and one receiver. -/
theorem Run.received (run : Run N (.initial N) tr t) (hcap : N.cap c = some n)
    (hp : OnlySender N p c) (hq : OnlyReceiver N q c) :
    gotOn c (history q tr) ++ t.buf c = sentOn c (history p tr) := by
  rw [← run.received_from hcap hq (P := fun _ => true), List.filter_true]
  intro r v hv
  by_contra hne
  rw [run.sentOn_eq_nil hp (by simpa using hne)] at hv
  cases hv

/-- On a channel without a buffer everything sent has been received. -/
theorem Run.buf_eq_nil (run : Run N (.initial N) tr t) (hcap : N.cap c = some 0) : t.buf c = [] :=
  List.length_eq_zero_iff.mp (Nat.le_zero.mp (buffer_le_cap run hcap))

/-- Nothing is received on a channel that no one sends on. -/
theorem Run.gotOn_eq_nil_of_unused (run : Run N (.initial N) tr t) (hcap : N.cap c = some n)
    (hq : OnlyReceiver N q c) (hunused : ∀ p l v m, ¬ Offered (N.code p) l (.send c v m)) :
    gotOn c (history q tr) = [] := by
  have hnone : sends c tr = [] := by
    refine List.eq_nil_iff_forall_not_mem.mpr fun e he => ?_
    have hmem : e.2 ∈ sentOn c (history e.1 tr) := by
      rw [sentOn_history]
      exact List.mem_map_of_mem (List.mem_filter.mpr ⟨he, by simp⟩)
    obtain ⟨l, m, hsend⟩ := (run.goes e.1).offered_of_mem_sentOn hmem
    exact hunused e.1 l e.2 m hsend
  have hlaw := run.received_append_buf hcap hq
  rw [hnone, List.map_nil] at hlaw
  exact (List.append_eq_nil_iff.mp hlaw).1

end Laws

/-! ### The work that is left -/

/-- If every step is paid for, by the potential or, at most `k` of it, from outside, then
the length of a run is bounded by what came from outside. -/
theorem Run.work {μ : State N → Nat} {paid : Act Party Val → Bool} {k : Nat} {s t : State N}
    {tr : List (Act Party Val)}
    (hstep : ∀ t a u, Step N t a u → μ u + 1 ≤ μ t + if paid a then k else 0) (run : Run N s tr t) :
    tr.length + μ t ≤ μ s + k * tr.countP paid := by
  induction run with
  | nil => simp
  | @snoc tr t u a _ step ih =>
      have hpaid := hstep t a u step
      rw [List.length_append, List.length_singleton, List.countP_append, List.countP_singleton,
        Nat.mul_add]
      split_ifs at hpaid ⊢ <;> omega

end History

end Goroutines
