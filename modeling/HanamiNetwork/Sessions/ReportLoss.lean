import HanamiNetwork.Basis.Ledger
import HanamiNetwork.Sessions.ReportRace

/-!
# Reports that get lost

A report that finds `m_whileSendError` up is dropped, which is meant for errors that are logged inside
a send. But the flag may be up for the report of another thread. `handsAll_iff` says when no message
is lost this way, however the threads are interleaved: when no other thread logs an error at all.

What the threads still owe and what they have handed over (`owed`) only changes when a message is
lost (`owed_step`).
-/

namespace HanamiNetwork

open HanamiNetwork.Basis

namespace ReportThreads

/-- The message that is still to be handed over in the calls of a thread: there is none inside a send. -/
def callMessage : List ReportPoint → Multiset (List UInt8)
  | [.test report] | [.raise report] => report.buffer.toList
  | [.send buffer _] => {buffer}
  | _ => 0

/-- The messages of the errors that are logged. -/
def messagesOf (reports : List Report) : Multiset (List UInt8) := reports.filterMap Report.buffer

theorem messagesOf_cons (report : Report) (reports : List Report) :
    messagesOf (report :: reports) = (report.buffer.toList : Multiset (List UInt8)) + messagesOf reports := by
  cases hb : report.buffer <;> simp [messagesOf, hb]

section

variable {ι : Type} {supportShiori : Bool} {shioriClient : Option Client} {program : ι → List Report}
  {s s' : ReportThreads ι} {i : ι}

/-- The messages a thread owes. -/
def owes (s : ReportThreads ι) (i : ι) : Multiset (List UInt8) := callMessage (s.calls i) + messagesOf (s.todo i)

/-- The messages all threads owe, and those that were handed over. -/
def owed [Fintype ι] (s : ReportThreads ι) : Multiset (List UInt8) := ∑ i, s.owes i + s.handed

variable (supportShiori shioriClient) in
/-- The message that the next step of a thread loses. -/
def lost (s : ReportThreads ι) (i : ι) : Multiset (List UInt8) :=
  match s.calls i with
  | [.test report] => if supportShiori = true → s.whileSendError = true then report.buffer.toList else 0
  | [.raise report] => if shioriClient = none then report.buffer.toList else 0
  | _ => 0

variable [DecidableEq ι]

theorem owes_step (h : Inv supportShiori shioriClient program s) (hs : StepCase supportShiori shioriClient s i s') :
    s'.owes i + s'.handed + s.lost supportShiori shioriClient i = s.owes i + s.handed := by
  have hi := h.stacked i
  cases hs with
  | finished hc => simp [lost, hc]
  | waits hc =>
    rw [hc] at hi
    rcases hi.rest with rfl | ⟨rest, rfl⟩ <;> simp [lost, hc]
  | log hc ht => simp [owes, lost, hc, ht, callMessage, messagesOf_cons]
  | drop hc hflag =>
    rw [hc] at hi
    rcases hi.rest with rfl | ⟨rest, rfl⟩
    · simp only [owes, lost, hc, callMessage, calls_goTo, todo_goTo, handed_goTo, ↓reduceIte, if_pos hflag]
      abel
    · simp [owes, lost, hc, callMessage]
  | pass hc hsupport hflag =>
    rw [hc] at hi
    rcases hi.rest with rfl | ⟨rest, rfl⟩ <;> simp [owes, lost, hc, callMessage, hsupport, hflag]
  | noClient hc hn =>
    rw [hc] at hi
    rcases hi.rest with rfl | ⟨rest, rfl⟩
    · simp only [owes, lost, hc, callMessage, calls_goTo, todo_goTo, handed_goTo, ↓reduceIte, if_pos hn]
      abel
    · simp [owes, lost, hc, callMessage]
  | noBuffer hc hn hb | raised hc hn hb =>
    rw [hc] at hi
    rcases hi.rest with rfl | ⟨rest, rfl⟩ <;> simp [owes, lost, hc, callMessage, hn, hb]
  | lock hc hh =>
    rw [hc] at hi
    rcases hi.rest with rfl | ⟨rest, rfl⟩
    · simp only [owes, lost, hc, callMessage, calls_goTo, todo_goTo, ↓reduceIte, ← Multiset.coe_add,
        Multiset.coe_singleton]
      abel
    · -- a send inside a send does not get the lock
      have hheld := (h.holder i).mpr ⟨rest, by simp [hc]⟩
      rw [hh] at hheld
      cases hheld
  | logInside hc | unlock hc | lower hc =>
    rw [hc] at hi
    rcases hi.rest with rfl | ⟨rest, rfl⟩ <;> simp [owes, lost, hc, callMessage]

variable [Fintype ι]

theorem owed_step (h : Inv supportShiori shioriClient program s) (hs : StepCase supportShiori shioriClient s i s') :
    s'.owed + s.lost supportShiori shioriClient i = s.owed := by
  have hsum : ∑ j, s'.owes j + s.owes i = ∑ j, s.owes j + s'.owes i := sum_add_of_eq_off i fun j hj => by
    rw [owes, owes, (other_of_stepCase hs hj).1, (other_of_stepCase hs hj).2]
  refine add_right_cancel (b := s.owes i) ?_
  calc
    s'.owed + s.lost supportShiori shioriClient i + s.owes i =
        ∑ j, s'.owes j + s.owes i + (s'.handed + s.lost supportShiori shioriClient i) := by
      rw [owed]
      abel
    _ = ∑ j, s.owes j + (s'.owes i + s'.handed + s.lost supportShiori shioriClient i) := by
      rw [hsum]
      abel
    _ = s.owed + s.owes i := by
      rw [owes_step h hs, owed]
      abel

/-- Nothing that is lost comes back. -/
theorem owed_le_of_reaches (h : Inv supportShiori shioriClient program s)
    (hr : Reaches supportShiori shioriClient s s') : s'.owed ≤ s.owed := by
  obtain ⟨schedule, rfl⟩ := hr
  refine (run_induction (P := fun s' => Inv supportShiori shioriClient program s' ∧ s'.owed ≤ s.owed)
    (fun s₁ k s₂ ⟨hi, hle⟩ hs => ⟨inv_step hi hs, ?_⟩) ⟨h, le_rfl⟩ schedule).2
  rw [← owed_step hi hs] at hle
  exact (Multiset.le_add_right _ _).trans hle

omit [DecidableEq ι] in
theorem owed_of_done (hd : s.Done) : s.owed = s.handed := by
  have howes : ∀ i, s.owes i = 0 := fun i => by simp [owes, (hd i).1, (hd i).2, callMessage, messagesOf]
  simp [owed, howes]

omit [DecidableEq ι] in
theorem owed_start : (start program).owed = ∑ i, messagesOf (program i) := by
  simp [owed, owes, start, callMessage]

omit [Fintype ι] in
theorem lost_of_alone (hf : Flagged supportShiori shioriClient program s) (ha : Alone i s)
    (hsupport : supportShiori = true) (hn : shioriClient ≠ none) (k : ι) : s.lost supportShiori shioriClient k = 0 := by
  have hflag (report : Report) (hc : s.calls k = [.test report]) : s.whileSendError ≠ true := by
    intro hup
    obtain ⟨j, point, hpoint, hraised⟩ := hf.lowered hn hup
    by_cases hji : j = i
    · by_cases hki : k = i
      · subst hji hki
        rw [hc] at hpoint
        obtain rfl := List.mem_singleton.mp hpoint
        exact hraised
      · rw [(ha.others k hki).1] at hc
        cases hc
    · rw [(ha.others j hji).1] at hpoint
      cases hpoint
  rw [lost]
  split
  · next report hc => exact if_neg fun h => hflag report hc (h hsupport)
  · exact if_neg hn
  · rfl

/-- One thread alone owes and has handed over the same in every state, if there is a client. -/
theorem owed_of_alone (h : ∀ j, j ≠ i → program j = []) (hsupport : supportShiori = true) (hn : shioriClient ≠ none)
    (schedule : List ι) :
    ((start program).run supportShiori shioriClient schedule).owed = ∑ i, messagesOf (program i) := by
  have hrun := run_induction (P := fun s => Inv supportShiori shioriClient program s ∧
      Flagged supportShiori shioriClient program s ∧ Alone i s ∧ s.owed = (start program).owed)
    (fun s k s' ⟨hi, hf, ha, ho⟩ hs => by
      have howed := owed_step hi hs
      rw [lost_of_alone hf ha hsupport hn k, add_zero] at howed
      exact ⟨inv_step hi hs, flagged_step hi hf hs, alone_step hi ha hs, howed.trans ho⟩)
    ⟨inv_start, flagged_start, alone_start h, rfl⟩ schedule
  rw [hrun.2.2.2, owed_start]

omit [Fintype ι] in
theorem handed_of_unsupported (h : ¬ (supportShiori = true ∧ shioriClient ≠ none)) (schedule : List ι) :
    ((start program).run supportShiori shioriClient schedule).handed = [] := by
  refine (run_induction (P := fun s => Inv supportShiori shioriClient program s ∧ s.handed = [])
    (fun s i s' ⟨hi, hh⟩ hs => ⟨inv_step hi hs, ?_⟩) ⟨inv_start, rfl⟩ schedule).2
  cases hs with
  | finished | waits | log | drop | pass | noClient | noBuffer | raised | logInside | unlock | lower => exact hh
  | lock hc =>
    have hstacked := hi.stacked i
    rw [hc] at hstacked
    cases hstacked with
    | outer hcall => exact absurd ⟨hcall.1, hcall.2.1⟩ h
    | inner _ _ _ _ hcall => exact absurd ⟨hcall.1, hcall.2.1⟩ h

/-- A second thread raises the flag, and the report of the first one is dropped. -/
theorem exists_lost {j : ι} (hij : i ≠ j) {report : Report} (hsupport : supportShiori = true)
    (hn : shioriClient ≠ none) (hr : report ∈ program i) (hb : report.buffer ≠ none) (hj : program j ≠ []) :
    ∃ s', Reaches supportShiori shioriClient (start program) s' ∧ s'.Done ∧ s'.owed ≠ (start program).owed := by
  have hji : j ≠ i := fun h => hij h.symm
  obtain ⟨s₁, after, second, later, h₁, hc₁, hi₁, hj₁, hflag₁, hh₁⟩ := reaches_before supportShiori hij hn hr hj
  obtain ⟨s₂, h₂, hc₂, hj₂, hi₂, hh₂⟩ : ∃ s₂, Reaches supportShiori shioriClient (start program) s₂ ∧
      (∀ k, k ≠ j → s₂.calls k = []) ∧ s₂.calls j = [.raise second] ∧ s₂.todo i = report :: after ∧ s₂.holder = none :=
    ⟨_, h₁.trans (reaches_passed hsupport hflag₁ (hc₁ j) hj₁), fun k hk => by simp [hk, hc₁], by simp,
      by simp [hij, hi₁], hh₁⟩
  obtain ⟨s₃, h₃, hc₃, hj₃, hi₃, hflag₃, hh₃⟩ : ∃ s₃, Reaches supportShiori shioriClient (start program) s₃ ∧
      (∀ k, k ≠ j → s₃.calls k = []) ∧ s₃.calls j = [.lower] ∧ s₃.todo i = report :: after ∧
      s₃.whileSendError = true ∧ s₃.holder = none :=
    ⟨_, h₂.trans (reaches_raised hn hj₂ hh₂), fun k hk => by simp [hk, hc₂], by simp, hi₂, rfl, hh₂⟩
  obtain ⟨s₄, h₄, hc₄, hj₄, hi₄, hflag₄, hh₄⟩ : ∃ s₄, Reaches supportShiori shioriClient (start program) s₄ ∧
      (∀ k, k ≠ i → k ≠ j → s₄.calls k = []) ∧ s₄.calls j = [.lower] ∧ s₄.calls i = [.test report] ∧
      s₄.whileSendError = true ∧ s₄.holder = none :=
    ⟨_, h₃.step (.log (hc₃ i hij) hi₃), fun k hk hk' => by simp [hk, hc₃ k hk'], by simp [hji, hj₃], by simp,
      hflag₃, hh₃⟩
  have hdrop : StepCase supportShiori shioriClient s₄ i _ := .drop hi₄ fun _ => hflag₄
  have hlower : StepCase supportShiori shioriClient _ j _ := .lower ((other_of_stepCase hdrop hji).1.trans hj₄)
  have hbetween : ∀ k, ({ (s₄.goTo i []).goTo j [] with whileSendError := false } : ReportThreads ι).calls k = [] := by
    intro k
    by_cases hk : k = j
    · simp [hk]
    · by_cases hk' : k = i
      · simp [hk', hij]
      · simp [hk, hk', hc₄ k hk' hk]
  obtain ⟨s', hend, hdone⟩ := reaches_done supportShiori shioriClient hbetween hh₄
  refine ⟨s', ((h₄.step hdrop).step hlower).trans hend, hdone, fun howed => ?_⟩
  have hlost : s₄.lost supportShiori shioriClient i = (report.buffer.toList : Multiset (List UInt8)) := by
    simp [lost, hi₄, hflag₄]
  have hle₄ := owed_le_of_reaches inv_start h₄
  have hle' := owed_le_of_reaches (inv_of_reaches (h₄.step hdrop)) (((Reaches.refl _).step hlower).trans hend)
  have hcard := congrArg Multiset.card (owed_step (inv_of_reaches h₄) hdrop)
  obtain ⟨buffer, hb⟩ := Option.ne_none_iff_exists'.mp hb
  rw [hlost, hb, Multiset.card_add] at hcard
  have hcard₄ := Multiset.card_le_card hle₄
  have hcard' := Multiset.card_le_card hle'
  rw [howed] at hcard'
  simp at hcard
  omega

end

/-- **When every message is handed over**: in every interleaving, when all reports are over, each message that
serialises was handed to the client of shiori once, exactly if shiori is supported and has its client, and no other
thread logs an error beside the one with the message. -/
theorem handsAll_iff {ι : Type} [Fintype ι] [DecidableEq ι] (supportShiori : Bool) (shioriClient : Option Client)
    (program : ι → List Report) :
    (∀ schedule, ((start program).run supportShiori shioriClient schedule).Done →
      (((start program).run supportShiori shioriClient schedule).handed : Multiset (List UInt8)) =
        ∑ i, messagesOf (program i)) ↔
      ∀ i, ∀ report ∈ program i, report.buffer ≠ none →
        supportShiori = true ∧ shioriClient ≠ none ∧ ∀ j, j ≠ i → program j = [] := by
  constructor
  · intro hall i report hr hb
    have hready : supportShiori = true ∧ shioriClient ≠ none := by
      by_contra hnot
      obtain ⟨s', ⟨schedule, rfl⟩, hdone⟩ :=
        reaches_done supportShiori shioriClient (s := start program) (fun _ => rfl) rfl
      have hnone := hall schedule hdone
      rw [handed_of_unsupported hnot] at hnone
      obtain ⟨buffer, hb⟩ := Option.ne_none_iff_exists'.mp hb
      have hmem : buffer ∈ ∑ i, messagesOf (program i) :=
        Multiset.mem_sum.mpr ⟨i, Finset.mem_univ i, List.mem_filterMap.mpr ⟨report, hr, hb⟩⟩
      rw [← hnone] at hmem
      cases hmem
    refine ⟨hready.1, hready.2, fun j hji => ?_⟩
    by_contra hj
    obtain ⟨s', ⟨schedule, rfl⟩, hdone, howed⟩ := exists_lost (fun hij => hji hij.symm) hready.1 hready.2 hr hb hj
    rw [owed_of_done hdone, hall schedule hdone, owed_start] at howed
    exact howed rfl
  · intro h schedule hdone
    rw [← owed_of_done hdone]
    by_cases hmessage : ∃ i, ∃ report ∈ program i, report.buffer ≠ none
    · obtain ⟨i, report, hr, hb⟩ := hmessage
      obtain ⟨hsupport, hn, hothers⟩ := h i report hr hb
      exact owed_of_alone hothers hsupport hn schedule
    · have hnone : ∑ i, messagesOf (program i) = 0 := Finset.sum_eq_zero fun i _ => by
        rw [messagesOf, Multiset.coe_eq_zero, List.filterMap_eq_nil_iff]
        intro report hr
        by_contra hb
        exact hmessage ⟨i, report, hr, hb⟩
      have hreached : Reaches supportShiori shioriClient (start program) _ := ⟨schedule, rfl⟩
      have hle := owed_le_of_reaches inv_start hreached
      rw [owed_start, hnone] at hle
      rw [hnone]
      exact Multiset.le_zero.mp hle

end ReportThreads

end HanamiNetwork
