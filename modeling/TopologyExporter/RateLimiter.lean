/-
TopologyExporter/RateLimiter.lean

What goes through the rate limiter.

The network is the receiver and the sender with the decorated source, the
consumer and the caller of `Stop` outside: the source sends any event at any
time.  An event passes through three places, the receiver's hand, `bufferCh` and
the sender's hand (`View`), and `Flow` is all that a step does to them; every
invariant is one of `Flow`.
-/
import TopologyExporter.EventSource

namespace TopologyExporter

open Goroutines

/-- The two goroutines of the limiter. -/
inductive LimiterParty
  | receiver
  | sender
  deriving DecidableEq, Repr

/-- The limiter; the source and the stop channels lead outside. -/
def limiter : Net LimiterParty EventChan.Val where
  Loc
    | .receiver => ReceiverLoc
    | .sender => SenderLoc
  code
    | .receiver => receiver
    | .sender => sender
  start
    | .receiver => .select
    | .sender => .select
  cap
    | .inCh | .stopReceiverCh | .stopSenderCh => none
    | c => c.cap

/-- A state of the limiter. -/
abbrev LimiterState := State limiter

/-- An action of the limiter. -/
abbrev LimiterAct := Act LimiterParty EventChan.Val

/-! ### Where an event is -/

/-- The event the receiver has read and not yet offered to `bufferCh`. -/
def ReceiverLoc.hand : ReceiverLoc → Option Event
  | .incoming ev => some ev
  | _ => none

/-- The event the sender has taken and not yet delivered. -/
def SenderLoc.hand : SenderLoc → Option Event
  | .taking ev | .handing ev => some ev
  | _ => none

theorem ReceiverLoc.eq_of_hand {l : ReceiverLoc} {ev : Event} (h : l.hand = some ev) :
    l = .incoming ev := by
  cases l <;> cases h
  rfl

theorem SenderLoc.holds_of_hand {l : SenderLoc} (h : l.hand ≠ none) :
    ∃ ev, l = .taking ev ∨ l = .handing ev := by
  cases l with
  | taking ev => exact ⟨ev, .inl rfl⟩
  | handing ev => exact ⟨ev, .inr rfl⟩
  | select => exact (h rfl).elim
  | stopping => exact (h rfl).elim
  | returned => exact (h rfl).elim

/-- The events inside the limiter. -/
structure View where
  incoming : Option Event
  waiting : List Event
  outgoing : Option Event

def view (s : LimiterState) : View where
  incoming := ReceiverLoc.hand (s.loc .receiver)
  waiting := s.buf .bufferCh
  outgoing := SenderLoc.hand (s.loc .sender)

/-- The event that the source sent in this action. -/
def sentEvent : LimiterAct → Option Event
  | .input .receiver .inCh ev => some ev
  | _ => none

/-- The event that the consumer got in this action. -/
def deliveredEvent : LimiterAct → Option Event
  | .output .sender .outCh ev => some ev
  | _ => none

/-- What a step does to the events inside. -/
inductive Flow (x : View) : LimiterAct → View → Prop
  | read (ev : Event) (hin : x.incoming = none) :
      Flow x (.input .receiver .inCh ev) { x with incoming := some ev }
  | keep (ev : Event) (hin : x.incoming = some ev) :
      Flow x (.push .receiver .bufferCh ev) { x with incoming := none, waiting := x.waiting ++ [ev] }
  | drop (ev : Event) (hin : x.incoming = some ev) (full : bufferSize ≤ x.waiting.length) :
      Flow x (.default .receiver) { x with incoming := none }
  | pick (ev : Event) (rest : List Event) (hwait : x.waiting = ev :: rest) (hout : x.outgoing = none) :
      Flow x (.pull .sender .bufferCh ev) { x with waiting := rest, outgoing := some ev }
  | deliver (ev : Event) (hout : x.outgoing = some ev) :
      Flow x (.output .sender .outCh ev) { x with outgoing := none }
  | quiet (a : LimiterAct) (hsent : sentEvent a = none) (hdelivered : deliveredEvent a = none)
      (hdefault : a ≠ .default .receiver) (hby : a.By .receiver → x.incoming = none) : Flow x a x

/-- A step of the receiver without an event in hand. -/
theorem Flow.receiver_idle {x y : View} {a : LimiterAct} (hsent : sentEvent a = none)
    (hdelivered : deliveredEvent a = none) (hdefault : a ≠ .default .receiver)
    (hin : x.incoming = none) (hview : y = { x with incoming := none }) : Flow x a y := by
  rw [hview, ← hin]
  exact .quiet a hsent hdelivered hdefault fun _ => hin

/-- A step of the sender that leaves its hand as it is. -/
theorem Flow.sender_idle {x y : View} {a : LimiterAct} {o : Option Event} (hsent : sentEvent a = none)
    (hdelivered : deliveredEvent a = none) (hdefault : a ≠ .default .receiver)
    (hby : ¬ a.By .receiver) (hout : x.outgoing = o) (hview : y = { x with outgoing := o }) :
    Flow x a y := by
  rw [hview, ← hout]
  exact .quiet a hsent hdelivered hdefault fun h => (hby h).elim

/-- Every step of the two goroutines is one of these flows. -/
theorem flow_of_step {s t : LimiterState} {a : LimiterAct} (step : Step limiter s a t) :
    Flow (view s) a (view t) := by
  cases step with
  | @push p c v l n hsend hcap room =>
      cases p with
      | receiver =>
          cases receiver_sends hsend with
          | keep ev hl => exact .keep ev (by simp [view, hl, ReceiverLoc.hand])
          | done hl =>
              exact .receiver_idle rfl rfl (by simp) (by simp [view, hl, ReceiverLoc.hand]) rfl
      | sender =>
          cases sender_sends hsend with
          | hand ev hl => cases hcap
          | done hl =>
              exact .sender_idle (o := none) rfl rfl (by simp) (by simp [Act.By])
                (by simp [view, hl, SenderLoc.hand]) rfl
  | @pull p c v rest k n hrecv hcap hbuf =>
      cases p with
      | receiver => cases receiver_takes hrecv <;> cases hcap
      | sender =>
          cases sender_takes hrecv with
          | event hl => exact .pick v rest hbuf (by simp [view, hl, SenderLoc.hand])
          | stop hl => cases hcap
          | token ev hl => cases hcap
  | @meet p q c v l k hne hcap hsend hrecv =>
      -- no channel of the limiter is unbuffered: both ends of those lead outside
      cases p with
      | receiver => cases receiver_sends hsend <;> cases hcap
      | sender => cases sender_sends hsend <;> cases hcap
  | @input p c v k hrecv hcap =>
      cases p with
      | receiver =>
          cases receiver_takes hrecv with
          | event hl => exact .read v (by simp [view, hl, ReceiverLoc.hand])
          | stop hl =>
              exact .receiver_idle rfl rfl (by simp) (by simp [view, hl, ReceiverLoc.hand]) rfl
      | sender =>
          cases sender_takes hrecv with
          | event hl => cases hcap
          | stop hl =>
              exact .sender_idle (o := none) rfl rfl (by simp) (by simp [Act.By])
                (by simp [view, hl, SenderLoc.hand]) rfl
          | token ev hl =>
              exact .sender_idle (o := some ev) rfl rfl (by simp) (by simp [Act.By])
                (by simp [view, hl, SenderLoc.hand]) rfl
  | @output p c v l hsend hcap =>
      cases p with
      | receiver => cases receiver_sends hsend <;> cases hcap
      | sender =>
          cases sender_sends hsend with
          | hand ev hl => exact .deliver ev (by simp [view, hl, SenderLoc.hand])
          | done hl => cases hcap
  | @default p sel l hcode hdefault blocked =>
      cases p with
      | receiver =>
          obtain ⟨ev, hl, hcases, rfl⟩ := receiver_default hcode hdefault
          refine .drop ev (by simp [view, hl, ReceiverLoc.hand]) ?_
          have hready := blocked (.send .bufferCh ev .select) (by rw [hcases]; exact List.mem_singleton.mpr rfl)
          exact Nat.le_of_not_lt fun room => hready ((State.ready_send rfl).mpr room)
      | sender => rw [sender_default hcode] at hdefault; cases hdefault

/-! ### Nothing is invented -/

/-- The events that have left or are still inside, oldest first. -/
def passed (tr : List LimiterAct) (x : View) : List Event :=
  tr.filterMap deliveredEvent ++ x.outgoing.toList ++ x.waiting ++ x.incoming.toList

/-- An action adds at most one event at either end of the limiter. -/
theorem filterMap_snoc (f : LimiterAct → Option Event) (tr : List LimiterAct) (a : LimiterAct) :
    (tr ++ [a]).filterMap f = tr.filterMap f ++ (f a).toList := by
  rcases h : f a with - | ev <;> simp [h]

theorem Flow.passed_sublist {x y : View} {a : LimiterAct} {tr : List LimiterAct} (flow : Flow x a y)
    (h : (passed tr x).Sublist (tr.filterMap sentEvent)) :
    (passed (tr ++ [a]) y).Sublist ((tr ++ [a]).filterMap sentEvent) := by
  simp only [passed, filterMap_snoc] at h ⊢
  cases flow with
  | read ev hin => simpa [sentEvent, deliveredEvent, hin] using h.append_right [ev]
  | keep ev hin => simpa [sentEvent, deliveredEvent, hin] using h
  | drop ev hin full =>
      -- the event in hand was the last of the list
      rw [hin] at h
      simpa [sentEvent, deliveredEvent] using (List.sublist_append_left _ [ev]).trans h
  | pick ev rest hwait hout => simpa [sentEvent, deliveredEvent, hwait, hout] using h
  | deliver ev hout => simpa [sentEvent, deliveredEvent, hout] using h
  | quiet a hsent hdelivered => simpa [hsent, hdelivered] using h

/-- **The consumer gets a subsequence of what the source sent.** -/
theorem delivered_sublist_sent {tr : List LimiterAct} {s : LimiterState}
    (run : Run limiter (.initial limiter) tr s) :
    (tr.filterMap deliveredEvent).Sublist (tr.filterMap sentEvent) := by
  have hpassed : (passed tr (view s)).Sublist (tr.filterMap sentEvent) := by
    refine run.rule (I := fun tr s => (passed tr (view s)).Sublist (tr.filterMap sentEvent)) ?_ ?_
    · exact List.nil_sublist _
    · intro tr t a u h step
      exact (flow_of_step step).passed_sublist h
  refine List.Sublist.trans ?_ hpassed
  simp only [passed, List.append_assoc]
  exact List.sublist_append_left _ _

/-! ### After a read -/

/-- Until the next read: the event is in hand and the buffer has not grown, or it
was dealt with, and given up only if the buffer was full. -/
def DealtWith (ev : Event) (size : Nat) (tr : List LimiterAct) (x : View) : Prop :=
  (∀ a ∈ tr, sentEvent a = none) →
    x.incoming = some ev ∧ x.waiting.length ≤ size ∧ .default .receiver ∉ tr
      ∨ x.incoming = none ∧ (.default .receiver ∈ tr → bufferSize ≤ size)

theorem Flow.dealtWith {x y : View} {a : LimiterAct} {tr : List LimiterAct} {ev : Event} {size : Nat}
    (flow : Flow x a y) (h : DealtWith ev size tr x) : DealtWith ev size (tr ++ [a]) y := by
  intro hnone
  have hx := h fun b hb => hnone b (List.mem_append_left _ hb)
  have hother : a ≠ .default .receiver → (.default .receiver ∈ tr ++ [a] ↔ .default .receiver ∈ tr) := by
    intro hne
    simp [hne.symm]
  cases flow with
  | read ev' hin =>
      -- nothing is sent after `ev`
      cases hnone _ (List.mem_append_right _ (List.mem_singleton_self _))
  | keep ev' hin =>
      rw [hother (by simp)]
      rcases hx with ⟨-, -, hnot⟩ | ⟨hin', -⟩
      · exact .inr ⟨rfl, fun hdrop => (hnot hdrop).elim⟩
      · cases hin.symm.trans hin'
  | drop ev' hin full =>
      rcases hx with ⟨-, hsize, -⟩ | ⟨hin', -⟩
      · exact .inr ⟨rfl, fun _ => full.trans hsize⟩
      · cases hin.symm.trans hin'
  | pick ev' rest hwait hout =>
      rw [hother (by simp)]
      refine hx.imp_left fun ⟨hin, hsize, hnot⟩ => ⟨hin, ?_, hnot⟩
      rw [hwait] at hsize
      exact Nat.le_of_succ_le hsize
  | deliver ev' hout =>
      rw [hother (by simp)]
      exact hx
  | quiet a hsent hdelivered hdefault hby =>
      rw [hother hdefault]
      exact hx

/-- The consumer has been woken, or an event is on its way. -/
def Awake (tr : List LimiterAct) (x : View) : Prop :=
  (∃ ev, .output .sender .outCh ev ∈ tr) ∨ x.waiting ≠ [] ∨ x.outgoing ≠ none

theorem Flow.awake {x y : View} {a : LimiterAct} {tr : List LimiterAct} (flow : Flow x a y)
    (h : Awake tr x) : Awake (tr ++ [a]) y := by
  have hkept : Awake (tr ++ [a]) x :=
    h.imp_left fun ⟨ev, hmem⟩ => ⟨ev, List.mem_append_left _ hmem⟩
  cases flow with
  | read => exact hkept
  | keep ev hin => exact .inr (.inl (List.append_ne_nil_of_right_ne_nil _ (List.cons_ne_nil _ _)))
  | drop => exact hkept
  | pick => exact .inr (.inr (Option.some_ne_none _))
  | deliver ev hout => exact .inl ⟨ev, List.mem_append_right _ (List.mem_singleton_self _)⟩
  | quiet => exact hkept

/-- The event is still in the receiver's hand, or the consumer is awake. -/
def Pending (ev : Event) (tr : List LimiterAct) (x : View) : Prop :=
  (x.incoming = some ev ∧ ∀ a ∈ tr, ¬ a.By .receiver) ∨ Awake tr x

theorem Flow.pending {x y : View} {a : LimiterAct} {tr : List LimiterAct} {ev : Event}
    (flow : Flow x a y) (h : Pending ev tr x) : Pending ev (tr ++ [a]) y := by
  rcases h with ⟨hin, hby⟩ | hawake
  · have hstays : ¬ a.By .receiver → ∀ b ∈ tr ++ [a], ¬ b.By .receiver := by
      intro ha b hb
      rcases List.mem_append.mp hb with hb | hb
      · exact hby b hb
      · rwa [List.mem_singleton.mp hb]
    cases flow with
    | read ev' hin' => cases hin.symm.trans hin'
    | keep ev' => exact .inr (.inr (.inl (List.append_ne_nil_of_right_ne_nil _ (List.cons_ne_nil _ _))))
    | drop ev' _ full =>
        -- the event is given up, but then others are waiting
        refine .inr (.inr (.inl (List.ne_nil_of_length_pos ?_)))
        exact Nat.lt_of_lt_of_le (by decide) full
    | pick => exact .inr (.inr (.inr (Option.some_ne_none _)))
    | deliver ev' => exact .inr (.inl ⟨ev', List.mem_append_right _ (List.mem_singleton_self _)⟩)
    | quiet a _ _ _ hidle =>
        refine .inl ⟨hin, hstays fun ha => ?_⟩
        cases hin.symm.trans (hidle ha)
  · exact .inr (flow.awake hawake)

theorem Flow.eq_of_read {x y : View} {ev : Event} (flow : Flow x (.input .receiver .inCh ev) y) :
    y = { x with incoming := some ev } := by
  cases flow with
  | read => rfl
  | quiet _ hsent => cases hsent

/-- Both facts, in every state after a read. -/
theorem after_read {s₁ s₂ s₃ : LimiterState} {ev : Event} {tr : List LimiterAct}
    (read : Step limiter s₁ (.input .receiver .inCh ev) s₂) (run : Run limiter s₂ tr s₃) :
    DealtWith ev (s₁.buf .bufferCh).length tr (view s₃) ∧ Pending ev tr (view s₃) := by
  have hread : view s₂ = { view s₁ with incoming := some ev } := (flow_of_step read).eq_of_read
  refine run.rule (I := fun tr s =>
    DealtWith ev (s₁.buf .bufferCh).length tr (view s) ∧ Pending ev tr (view s)) ?_ ?_
  · rw [hread]
    exact ⟨fun _ => .inl ⟨rfl, le_rfl, List.not_mem_nil⟩, .inl ⟨rfl, by simp⟩⟩
  · intro tr t a u ⟨hdealt, hpending⟩ step
    exact ⟨(flow_of_step step).dealtWith hdealt, (flow_of_step step).pending hpending⟩

/-! ### A full buffer -/

/-- The limiter with these events waiting. -/
def filled (evs : List Event) : LimiterState := (State.initial limiter).store .bufferCh evs

theorem reads_filled (evs : List Event) (ev : Event) :
    Step limiter (filled evs) (.input .receiver .inCh ev) ((filled evs).move .receiver (.incoming ev)) :=
  .input (offered_receiver.mpr (.inl ⟨rfl, .inl rfl⟩)) rfl

/-- Every filling within the bound is reached. -/
theorem run_filled (evs : List Event) (h : evs.length ≤ bufferSize) :
    ∃ tr, Run limiter (.initial limiter) tr (filled evs) := by
  induction evs using List.reverseRecOn with
  | nil =>
      have hstart : filled [] = .initial limiter :=
        congrArg (State.mk limiter.start) (Function.update_eq_self EventChan.bufferCh _)
      exact ⟨[], hstart ▸ .nil⟩
  | append_singleton evs ev ih =>
      rw [List.length_append] at h
      obtain ⟨tr, run⟩ := ih (Nat.le_of_succ_le h)
      have push : Step limiter ((filled evs).move .receiver (.incoming ev)) (.push .receiver .bufferCh ev)
          ((((filled evs).move .receiver (.incoming ev)).move .receiver .select).store .bufferCh
            (evs ++ [ev])) :=
        .push (offered_receiver.mpr (.inr (.inl ⟨ev, rfl, rfl⟩))) rfl h
      have hfilled : (((filled evs).move .receiver (.incoming ev)).move .receiver .select).store .bufferCh
          (evs ++ [ev]) = filled (evs ++ [ev]) := by
        apply congrArg₂ State.mk
        · funext p
          cases p <;> rfl
        · funext c
          cases c <;> rfl
      exact ⟨_, hfilled ▸ (run.snoc (reads_filled evs ev)).snoc push⟩

theorem drops_filled (evs : List Event) (ev : Event) (h : bufferSize ≤ evs.length) :
    Step limiter ((filled evs).move .receiver (.incoming ev)) (.default .receiver)
      (((filled evs).move .receiver (.incoming ev)).move .receiver .select) := by
  refine .default rfl rfl ?_
  intro case hcase
  obtain rfl := List.mem_singleton.mp hcase
  intro hready
  exact Nat.not_lt_of_le h ((State.ready_send rfl).mp hready)

/-! ### The limiter -/

/-- **The limiter loses no wake-up and invents none**, whatever the source, the
consumer and the scheduler do.

What is handed out is a subsequence of what was sent.  The buffer is bounded, and
an event is given up only if the buffer was full when it was read.  In every
state after a read either the receiver has not moved since and still holds the
event, or an event was delivered since, or one is in `bufferCh` or in the
sender's hand. -/
theorem limiter_loses_no_wakeup :
    (∀ tr s, Run limiter (.initial limiter) tr s →
      (tr.filterMap deliveredEvent).Sublist (tr.filterMap sentEvent)
        ∧ (s.buf .bufferCh).length ≤ bufferSize)
    ∧ ∀ tr₁ s₁ ev s₂ tr₂ s₃, Run limiter (.initial limiter) tr₁ s₁ →
      Step limiter s₁ (.input .receiver .inCh ev) s₂ → Run limiter s₂ tr₂ s₃ →
      ((∀ a ∈ tr₂, sentEvent a = none) → .default .receiver ∈ tr₂ →
          (s₁.buf .bufferCh).length = bufferSize)
      ∧ (s₃.loc .receiver = .incoming ev ∧ (∀ a ∈ tr₂, ¬ a.By .receiver)
          ∨ (∃ ev', .output .sender .outCh ev' ∈ tr₂)
          ∨ s₃.buf .bufferCh ≠ []
          ∨ ∃ ev', s₃.loc .sender = .taking ev' ∨ s₃.loc .sender = .handing ev') := by
  refine ⟨fun tr s run => ⟨delivered_sublist_sent run, buffer_le_cap run rfl⟩, ?_⟩
  intro tr₁ s₁ ev s₂ tr₂ s₃ run₁ read run₂
  obtain ⟨hdealt, hpending⟩ := after_read read run₂
  constructor
  · intro hnone hdrop
    apply le_antisymm (buffer_le_cap run₁ rfl)
    rcases hdealt hnone with ⟨-, -, hnot⟩ | ⟨-, hfull⟩
    · exact (hnot hdrop).elim
    · exact hfull hdrop
  · rcases hpending with ⟨hin, hby⟩ | hdelivered | hwait | hout
    · exact .inl ⟨ReceiverLoc.eq_of_hand hin, hby⟩
    · exact .inr (.inl hdelivered)
    · exact .inr (.inr (.inl hwait))
    · exact .inr (.inr (.inr (SenderLoc.holds_of_hand hout)))

/-- A sixth event is read while five are waiting, and given up. -/
theorem limiter_loses_no_wakeup_full_buffer :
    ∃ evs tr s, Run limiter (.initial limiter) tr (filled evs)
      ∧ Run limiter ((filled evs).move .receiver (.incoming ⟨5, 0⟩)) [.default .receiver] s
      ∧ ((filled evs).buf .bufferCh).length = bufferSize
      ∧ (s.loc .receiver = .incoming ⟨5, 0⟩
            ∧ (∀ a ∈ [(.default .receiver : LimiterAct)], ¬ a.By .receiver)
          ∨ (∃ ev', .output .sender .outCh ev' ∈ [(.default .receiver : LimiterAct)])
          ∨ s.buf .bufferCh ≠ []
          ∨ ∃ ev', s.loc .sender = .taking ev' ∨ s.loc .sender = .handing ev') := by
  obtain ⟨tr, run⟩ := run_filled [⟨0, 0⟩, ⟨1, 0⟩, ⟨2, 0⟩, ⟨3, 0⟩, ⟨4, 0⟩] (by decide)
  have drop := Run.nil.snoc (drops_filled [⟨0, 0⟩, ⟨1, 0⟩, ⟨2, 0⟩, ⟨3, 0⟩, ⟨4, 0⟩] ⟨5, 0⟩ (by decide))
  obtain ⟨hfull, hpending⟩ :=
    limiter_loses_no_wakeup.2 tr _ ⟨5, 0⟩ _ _ _ run (reads_filled _ _) drop
  exact ⟨_, tr, _, run, drop, hfull (by simp [sentEvent]) (by simp), hpending⟩

/-- Nothing but the receiver's hand holds an event that was just read: the
alternatives do not cover the moment before it is offered to `bufferCh`. -/
theorem read_event_in_hand_only :
    ¬ ∀ tr₁ s₁ ev s₂ tr₂ s₃, Run limiter (.initial limiter) tr₁ s₁ →
      Step limiter s₁ (.input .receiver .inCh ev) s₂ → Run limiter s₂ tr₂ s₃ →
      (∃ ev', .output .sender .outCh ev' ∈ tr₂)
        ∨ s₃.buf .bufferCh ≠ []
        ∨ ∃ ev', s₃.loc .sender = .taking ev' ∨ s₃.loc .sender = .handing ev' := by
  intro h
  have read : Step limiter (.initial limiter) (.input .receiver .inCh ⟨0, 0⟩)
      ((State.initial limiter).move .receiver (.incoming ⟨0, 0⟩)) :=
    .input (offered_receiver.mpr (.inl ⟨rfl, .inl rfl⟩)) rfl
  rcases h [] _ _ _ [] _ .nil read .nil with ⟨ev', hmem⟩ | hwait | ⟨ev', hl | hl⟩
  · cases hmem
  · exact hwait rfl
  · cases hl
  · cases hl

end TopologyExporter
