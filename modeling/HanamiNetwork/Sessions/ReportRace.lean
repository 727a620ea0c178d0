import HanamiNetwork.Sessions.ReportThreads
import Mathlib.Algebra.BigOperators.Group.Finset.Basic
import Mathlib.Algebra.Order.BigOperators.Group.Finset

/-!
# Reports side by side

`m_whileSendError` is there to keep an error that is logged inside a send to shiori from being sent
itself, which would need the `m_sessionLock` that the send holds. Between threads it does not
do so: a second thread that has passed the test with the first lowers the flag too early.

* `stuck_iff` — a thread can come to wait for the lock it holds itself, exactly if some send
  logs an error that could be sent itself, and another thread logs an error too.
* `flagRaised_iff` — when all reports are over, the flag is up exactly if there is no client.
-/

namespace HanamiNetwork

namespace ReportThreads

section

variable {ι : Type} [DecidableEq ι] {supportShiori : Bool} {shioriClient : Option Client}
  {program : ι → List Report} {s s' : ReportThreads ι} {i : ι}

/-! ### Waiting for itself -/

/-- A thread waits for the lock it holds itself. -/
def Reentered (s : ReportThreads ι) (i : ι) : Prop :=
  s.holder = some i ∧ ∃ buffer nested calls, s.calls i = .send buffer nested :: calls

theorem reentered_step (h : Inv supportShiori shioriClient program s) (hr : s.Reentered i) {k : ι}
    (hs : StepCase supportShiori shioriClient s k s') : s'.Reentered i := by
  obtain ⟨hh, buffer, nested, calls, hc⟩ := hr
  by_cases hki : i = k
  · subst hki
    cases hs with
    | waits => exact ⟨hh, buffer, nested, calls, hc⟩
    | lock hc' hh' => rw [hh] at hh'; cases hh'
    | finished hc' | log hc' | drop hc' | pass hc' | noClient hc' | noBuffer hc' | raised hc' | logInside hc'
      | unlock hc' | lower hc' => rw [hc] at hc'; cases hc'
  · have hcalls := (other_of_stepCase hs hki).1
    refine ⟨?_, buffer, nested, calls, hcalls.trans hc⟩
    rw [(inv_step h hs).holder i, hcalls, ← h.holder i]
    exact hh

variable (shioriClient) in
/-- The send of the report logs an error that could be sent itself. -/
def LogsInside (report : Report) : Prop :=
  report.buffer ≠ none ∧ ∃ inside ∈ loggedInside shioriClient report, inside.buffer ≠ none

omit [DecidableEq ι] in
/-- Why a thread waits for itself: it is about to send an error that was logged inside a send. -/
theorem logsInside_of_reentered (h : Inv supportShiori shioriClient program s) (hr : s.Reentered i) :
    supportShiori = true ∧ (∃ report ∈ program i, LogsInside shioriClient report) ∧
      ∃ buffer nested rest, s.calls i = [.send buffer nested, .sending rest] := by
  obtain ⟨hh, buffer, nested, calls, hc⟩ := hr
  obtain ⟨rest, hrest⟩ := (h.holder i).mp hh
  have hstacked := h.stacked i
  rw [hc] at hstacked hrest
  cases hstacked with
  | outer => simp at hrest
  | inner hn hr hb hsub hcall =>
    obtain ⟨hsupport, -, inside, hinside, hbuffer, -⟩ := hcall
    exact ⟨hsupport, ⟨_, hr, hb, inside, hinside, by simp [hbuffer]⟩, _, _, _, hc⟩

/-- The flag is up at this point, if the other threads let it be. -/
def Raised : ReportPoint → Prop
  | .send _ _ | .sending _ | .lower => True
  | _ => False

/-- What holds if only one thread logs errors: the flag ends each call inside a send. -/
structure Alone (i : ι) (s : ReportThreads ι) : Prop where
  /-- The other threads do nothing. -/
  others : ∀ j, j ≠ i → s.calls j = [] ∧ s.todo j = []
  /-- The flag is up during a send, and before it. -/
  raised : ∀ point ∈ s.calls i, Raised point → s.whileSendError = true
  /-- A call inside a send is at its test. -/
  inner : ∀ point rest, s.calls i = [point, .sending rest] → ∃ report, point = .test report

section

variable {point : ReportPoint} {calls : List ReportPoint}

omit [DecidableEq ι] in
theorem Alone.flag (ha : Alone i s) (hc : s.calls i = point :: calls) (hpoint : Raised point) :
    s.whileSendError = true := ha.raised point (by simp [hc]) hpoint

omit [DecidableEq ι] in
/-- Past its test, a call is inside of no other. -/
theorem Alone.outermost (ha : Alone i s) (h : Inv supportShiori shioriClient program s)
    (hc : s.calls i = point :: calls) (hpoint : ∀ report, point ≠ .test report) : calls = [] := by
  have hstacked := h.stacked i
  rw [hc] at hstacked
  rcases hstacked.rest with rfl | ⟨rest, rfl⟩
  · rfl
  · obtain ⟨report, hreport⟩ := ha.inner _ _ hc
    exact absurd hreport (hpoint report)

end

theorem alone_step (h : Inv supportShiori shioriClient program s) (ha : Alone i s) {k : ι}
    (hs : StepCase supportShiori shioriClient s k s') : Alone i s' := by
  by_cases hki : k = i
  · subst hki
    have hothers : ∀ j, j ≠ k → s'.calls j = [] ∧ s'.todo j = [] := fun j hj => by
      rw [(other_of_stepCase hs hj).1, (other_of_stepCase hs hj).2]
      exact ha.others j hj
    have hstacked := h.stacked k
    cases hs with
    | finished | waits => exact ha
    | log hc ht => exact ⟨hothers, by simp [Raised], by simp⟩
    | drop hc =>
      rw [hc] at hstacked
      refine ⟨hothers, fun point hp hr => ha.raised point ?_ hr, ?_⟩
      · rw [hc]
        exact List.mem_cons_of_mem _ (by simpa using hp)
      · rcases hstacked.rest with rfl | ⟨rest, rfl⟩ <;> simp
    | pass hc hsupport hflag =>
      rw [hc] at hstacked
      rcases hstacked.rest with rfl | ⟨rest, rfl⟩
      · exact ⟨hothers, by simp [Raised], by simp⟩
      · have hraised := ha.raised (.sending rest) (by simp [hc]) trivial
        rw [hflag] at hraised
        cases hraised
    | noClient hc | noBuffer hc | raised hc =>
      obtain rfl := ha.outermost h hc (by simp)
      exact ⟨hothers, fun _ _ _ => rfl, by simp⟩
    | lock hc =>
      obtain rfl := ha.outermost h hc (by simp)
      exact ⟨hothers, fun _ _ _ => ha.flag hc trivial, by simp⟩
    | logInside hc => exact ⟨hothers, fun _ _ _ => ha.flag hc trivial, by simp⟩
    | unlock hc =>
      obtain rfl := ha.outermost h hc (by simp)
      exact ⟨hothers, fun _ _ _ => ha.flag hc trivial, by simp⟩
    | lower hc =>
      obtain rfl := ha.outermost h hc (by simp)
      exact ⟨hothers, by simp, by simp⟩
  · obtain ⟨hcalls, htodo⟩ := ha.others k hki
    cases hs with
    | finished => exact ha
    | log hc ht => rw [htodo] at ht; cases ht
    | waits hc | drop hc | pass hc | noClient hc | noBuffer hc | raised hc | lock hc | logInside hc | unlock hc
      | lower hc => rw [hcalls] at hc; cases hc

/-- One thread alone does not come to wait for itself. -/
theorem not_reentered_of_alone (h : Inv supportShiori shioriClient program s) (ha : Alone i s) (k : ι) :
    ¬ s.Reentered k := by
  intro hr
  obtain ⟨-, -, buffer, nested, rest, hc⟩ := logsInside_of_reentered h hr
  by_cases hki : k = i
  · subst hki
    obtain ⟨report, hreport⟩ := ha.inner _ _ hc
    cases hreport
  · rw [(ha.others k hki).1] at hc
    cases hc

omit [DecidableEq ι] in
theorem alone_start (h : ∀ j, j ≠ i → program j = []) : Alone i (start program) :=
  ⟨fun j hj => ⟨rfl, h j hj⟩, by simp [start], by simp [start]⟩

theorem alone_run (h : ∀ j, j ≠ i → program j = []) (schedule : List ι) :
    Alone i ((start program).run supportShiori shioriClient schedule) :=
  (run_induction (P := fun s => Inv supportShiori shioriClient program s ∧ Alone i s)
    (fun _ _ _ h hs => ⟨inv_step h.1 hs, alone_step h.1 h.2 hs⟩) ⟨inv_start, alone_start h⟩ schedule).2

/-! ### Coming to an end -/

mutual

/-- The steps a report takes, at most. -/
def weight : Report → ℕ
  | .mk _ _ _ _ nested => weights nested + 5

/-- The steps reports take, one after the other. -/
def weights : List Report → ℕ
  | [] => 0
  | report :: reports => weight report + 1 + weights reports

end

theorem weight_eq (report : Report) : weight report = weights report.nested + 5 := by
  cases report
  rfl

theorem weights_loggedInside_le (shioriClient : Option Client) (report : Report) :
    weights (loggedInside shioriClient report) ≤ weights report.nested := by
  rw [loggedInside]
  split_ifs
  · exact le_rfl
  · exact Nat.zero_le _

/-- The steps a call takes from here, at most. -/
def pointWeight : ReportPoint → ℕ
  | .test report => weight report
  | .raise report => weights report.nested + 4
  | .send _ nested => weights nested + 3
  | .sending nested => weights nested + 2
  | .lower => 1

/-- The steps a thread takes, at most. -/
def threadWeight (s : ReportThreads ι) (i : ι) : ℕ := ((s.calls i).map pointWeight).sum + weights (s.todo i)

/-- The thread has something to do, and does not wait for the lock. -/
structure Ready (s : ReportThreads ι) (i : ι) : Prop where
  /-- It is in a call, or will log an error. -/
  unfinished : s.calls i ≠ [] ∨ s.todo i ≠ []
  /-- If it is about to send, the lock is free. -/
  free : ∀ buffer nested calls, s.calls i = .send buffer nested :: calls → s.holder = none

theorem threadWeight_step_lt (hready : s.Ready i) (hs : StepCase supportShiori shioriClient s i s') :
    threadWeight s' i < threadWeight s i := by
  cases hs with
  | finished hc ht => exact absurd hready.unfinished (by simp [hc, ht])
  | waits hc hh =>
    have hfree := hready.free _ _ _ hc
    rw [hh] at hfree
    cases hfree
  | log hc ht => simp [threadWeight, hc, ht, pointWeight, weights]
  | drop hc => simp [threadWeight, hc, pointWeight, weight_eq]
  | pass hc => simp [threadWeight, hc, pointWeight, weight_eq]
  | noClient hc => simp [threadWeight, hc, pointWeight]
  | noBuffer hc => simp [threadWeight, hc, pointWeight]
  | @raised report _ _ hc =>
    have hle := weights_loggedInside_le shioriClient report
    simp only [threadWeight, hc, calls_goTo, todo_goTo, ↓reduceIte, List.map_cons, List.sum_cons, pointWeight]
    omega
  | lock hc => simp [threadWeight, hc, pointWeight]
  | logInside hc =>
    simp only [threadWeight, hc, calls_goTo, todo_goTo, ↓reduceIte, List.map_cons, List.sum_cons, pointWeight, weights]
    omega
  | unlock hc => simp [threadWeight, hc, pointWeight, weights]
  | lower hc => simp [threadWeight, hc, pointWeight]

omit [DecidableEq ι] in
/-- Unless a thread waits for itself, one of them can go on, up to the end. -/
theorem exists_ready (h : Inv supportShiori shioriClient program s) (hr : ∀ i, ¬ s.Reentered i) (hd : ¬ s.Done) :
    ∃ i, s.Ready i := by
  obtain ⟨i, hi⟩ := not_forall.mp hd
  have hi : s.calls i ≠ [] ∨ s.todo i ≠ [] := not_and_or.mp hi
  cases hh : s.holder with
  | none => exact ⟨i, hi, fun _ _ _ _ => hh⟩
  | some j =>
    obtain ⟨nested, hsending⟩ := (h.holder j).mp hh
    refine ⟨j, .inl (List.ne_nil_of_mem hsending), fun buffer nested calls hc => ?_⟩
    exact absurd ⟨hh, _, _, _, hc⟩ (hr j)

theorem exists_done [Fintype ι] (h : Inv supportShiori shioriClient program s)
    (hr : ∀ schedule i, ¬ (s.run supportShiori shioriClient schedule).Reentered i) :
    ∃ later, (s.run supportShiori shioriClient later).Done := by
  induction hn : ∑ i, threadWeight s i using Nat.strong_induction_on generalizing s with
  | _ n ih =>
    by_cases hd : s.Done
    · exact ⟨[], hd⟩
    · obtain ⟨i, hi⟩ := exists_ready h (hr []) hd
      have hs : StepCase supportShiori shioriClient s i _ := stepCase s i
      have hlt : ∑ j, threadWeight (s.step supportShiori shioriClient i) j < n := by
        rw [← hn]
        refine Finset.sum_lt_sum (fun j _ => ?_) ⟨i, Finset.mem_univ i, threadWeight_step_lt hi hs⟩
        by_cases hji : j = i
        · exact hji ▸ (threadWeight_step_lt hi hs).le
        · rw [threadWeight, threadWeight, (other_of_stepCase hs hji).1, (other_of_stepCase hs hji).2]
      obtain ⟨later, hlater⟩ := ih _ hlt (inv_step h hs) (fun schedule => hr (i :: schedule)) rfl
      exact ⟨i :: later, hlater⟩

/-! ### Getting stuck -/

/-- Two threads have passed the test, and the second one lowers the flag while the first is inside its send. -/
theorem reaches_reentered_of_passed {j : ι} (hij : i ≠ j) {report second : Report}
    (hsupport : supportShiori = true) (hl : LogsInside shioriClient report) (hi : s.calls i = [.raise report])
    (hj : s.calls j = [.raise second]) (hh : s.holder = none) :
    ∃ s', Reaches supportShiori shioriClient s s' ∧ s'.Reentered i := by
  obtain ⟨hb, inside, hinside, hb'⟩ := hl
  obtain ⟨buffer, hb⟩ := Option.ne_none_iff_exists'.mp hb
  obtain ⟨buffer', hb'⟩ := Option.ne_none_iff_exists'.mp hb'
  obtain ⟨nested, nested', hnested⟩ := List.append_of_mem hinside
  have hn : shioriClient ≠ none := by
    rintro rfl
    simp [loggedInside] at hinside
  have hji : j ≠ i := fun h => hij h.symm
  obtain ⟨s₁, h₁, hi₁, hj₁, hh₁⟩ : ∃ s₁, Reaches supportShiori shioriClient s s₁ ∧
      s₁.calls i = [.send buffer (loggedInside shioriClient report)] ∧ s₁.calls j = [.raise second] ∧
      s₁.holder = none :=
    ⟨_, (Reaches.refl s).step (.raised hi hn hb), by simp, by simp [hji, hj], hh⟩
  -- the second one raises it too, and sends
  obtain ⟨s₂, h₂, hi₂, hj₂, hflag₂, hh₂⟩ : ∃ s₂, Reaches supportShiori shioriClient s s₂ ∧
      s₂.calls i = [.send buffer (loggedInside shioriClient report)] ∧ s₂.calls j = [.lower] ∧
      s₂.whileSendError = true ∧ s₂.holder = none :=
    ⟨_, h₁.trans (reaches_raised hn hj₁ hh₁), by simp [hij, hi₁], by simp, rfl, hh₁⟩
  -- the first one sends, up to the error that could be sent itself
  obtain ⟨s₃, h₃, hi₃, hj₃, hflag₃, hh₃⟩ : ∃ s₃, Reaches supportShiori shioriClient s s₃ ∧
      s₃.calls i = [.sending (nested ++ inside :: nested')] ∧ s₃.calls j = [.lower] ∧ s₃.whileSendError = true ∧
      s₃.holder = some i :=
    ⟨_, h₂.step (.lock hi₂ hh₂), by simp [hnested], by simp [hji, hj₂], hflag₂, rfl⟩
  obtain ⟨s₄, h₄, hi₄, hj₄, hh₄⟩ : ∃ s₄, Reaches supportShiori shioriClient s s₄ ∧
      s₄.calls i = [.sending (inside :: nested')] ∧ s₄.calls j = [.lower] ∧ s₄.holder = some i :=
    ⟨_, h₃.trans (reaches_inside nested _ _ hflag₃ hi₃), by simp, by simp [hji, hj₃], hh₃⟩
  obtain ⟨s₅, h₅, hi₅, hflag₅, hh₅⟩ : ∃ s₅, Reaches supportShiori shioriClient s s₅ ∧
      s₅.calls i = [.sending (inside :: nested')] ∧ s₅.whileSendError = false ∧ s₅.holder = some i :=
    ⟨_, h₄.step (.lower hj₄), by simp [hij, hi₄], rfl, hh₄⟩
  have hlogged := h₅.step (.logInside hi₅)
  have hpassed := hlogged.step (.pass (calls_goTo_same ..) hsupport hflag₅)
  have hraised := hpassed.step (.raised (calls_goTo_same ..) hn hb')
  exact ⟨_, hraised, hh₅, buffer', _, _, calls_goTo_same ..⟩

/-- Two threads can both pass the test. -/
theorem reaches_reentered {j : ι} (hij : i ≠ j) {report : Report} (hsupport : supportShiori = true)
    (hr : report ∈ program i) (hl : LogsInside shioriClient report) (hj : program j ≠ []) :
    ∃ s', Reaches supportShiori shioriClient (start program) s' ∧ s'.Reentered i := by
  have hn : shioriClient ≠ none := by
    rintro rfl
    obtain ⟨-, inside, hinside, -⟩ := hl
    simp [loggedInside] at hinside
  have hji : j ≠ i := fun h => hij h.symm
  obtain ⟨s₁, after, second, later, h₁, hc₁, hi₁, hj₁, hflag₁, hh₁⟩ := reaches_before supportShiori hij hn hr hj
  obtain ⟨s₂, h₂, hi₂, hj₂, hti₂, hflag₂, hh₂⟩ : ∃ s₂, Reaches supportShiori shioriClient (start program) s₂ ∧
      s₂.calls i = [] ∧ s₂.calls j = [.raise second] ∧ s₂.todo i = report :: after ∧ s₂.whileSendError = false ∧
      s₂.holder = none :=
    ⟨_, h₁.trans (reaches_passed hsupport hflag₁ (hc₁ j) hj₁), by simp [hij, hc₁], by simp, by simp [hij, hi₁],
      hflag₁, hh₁⟩
  obtain ⟨s₃, h₃, hi₃, hj₃, hh₃⟩ : ∃ s₃, Reaches supportShiori shioriClient (start program) s₃ ∧
      s₃.calls i = [.raise report] ∧ s₃.calls j = [.raise second] ∧ s₃.holder = none :=
    ⟨_, h₂.trans (reaches_passed hsupport hflag₂ hi₂ hti₂), by simp, by simp [hji, hj₂], hh₂⟩
  obtain ⟨s', hs', hreentered⟩ := reaches_reentered_of_passed hij hsupport hl hi₃ hj₃ hh₃
  exact ⟨s', h₃.trans hs', hreentered⟩

theorem reentered_run (h : Inv supportShiori shioriClient program s) (hr : s.Reentered i) (schedule : List ι) :
    (s.run supportShiori shioriClient schedule).Reentered i :=
  (run_induction (P := fun s => Inv supportShiori shioriClient program s ∧ s.Reentered i)
    (fun _ _ _ h hs => ⟨inv_step h.1 hs, reentered_step h.1 h.2 hs⟩) ⟨h, hr⟩ schedule).2

end

/-- **When a thread can get stuck**: there is an interleaving after which some thread waits for a lock it holds itself,
so that not all can come to their end any more, exactly if some send logs an error that could be sent itself, and
another thread logs an error too. -/
theorem stuck_iff {ι : Type} [Fintype ι] [DecidableEq ι] (supportShiori : Bool) (shioriClient : Option Client)
    (program : ι → List Report) :
    (∃ schedule, ∀ later, ¬ ((start program).run supportShiori shioriClient (schedule ++ later)).Done) ↔
      supportShiori = true ∧
        ∃ i j, i ≠ j ∧ (∃ report ∈ program i, LogsInside shioriClient report) ∧ program j ≠ [] := by
  constructor
  · rintro ⟨schedule, hstuck⟩
    by_contra hcondition
    have hnever (schedule' : List ι) (i : ι) :
        ¬ ((start program).run supportShiori shioriClient schedule').Reentered i := by
      intro hr
      obtain ⟨hsupport, hlogs, -⟩ := logsInside_of_reentered (inv_run schedule') hr
      have hothers : ∀ j, j ≠ i → program j = [] := fun j hji => by
        by_contra hj
        exact hcondition ⟨hsupport, i, j, fun hij => hji hij.symm, hlogs, hj⟩
      exact not_reentered_of_alone (inv_run schedule') (alone_run hothers schedule') i hr
    obtain ⟨later, hdone⟩ := exists_done (inv_run schedule) fun later i => by
      rw [← run_append]
      exact hnever _ i
    rw [← run_append] at hdone
    exact hstuck later hdone
  · rintro ⟨hsupport, i, j, hij, ⟨report, hr, hl⟩, hj⟩
    obtain ⟨s', ⟨schedule, rfl⟩, hreentered⟩ := reaches_reentered hij hsupport hr hl hj
    refine ⟨schedule, fun later hdone => ?_⟩
    rw [run_append] at hdone
    obtain ⟨-, buffer, nested, calls, hc⟩ := reentered_run (inv_run schedule) hreentered later
    rw [(hdone i).1] at hc
    cases hc

/-! ### The flag -/

section

variable {ι : Type} [DecidableEq ι] {supportShiori : Bool} {shioriClient : Option Client}
  {program : ι → List Report} {s s' : ReportThreads ι} {i : ι}

omit [DecidableEq ι] in
/-- After the flag is raised, there is a client. -/
theorem Stacked.client {reports : List Report} {point : ReportPoint} {calls : List ReportPoint}
    (h : Stacked supportShiori shioriClient reports (point :: calls)) (hpoint : Raised point) :
    shioriClient ≠ none := by
  cases h with
  | outer hcall =>
    cases point with
    | test | raise => exact hpoint.elim
    | send => exact hcall.2.1
    | sending | lower => exact hcall.1
  | inner hn => exact hn

variable (supportShiori shioriClient) in
/-- Who raised the flag, and who will lower it. -/
structure Flagged (program : ι → List Report) (s : ReportThreads ι) : Prop where
  /-- The flag is raised for a report. -/
  support : s.whileSendError = true → supportShiori = true ∧ ∃ i, program i ≠ []
  /-- If there is a client, some thread will lower it. -/
  lowered : shioriClient ≠ none → s.whileSendError = true → ∃ i, ∃ point ∈ s.calls i, Raised point
  /-- If there is none, no thread comes to its end before the flag is raised. -/
  raised : shioriClient = none → supportShiori = true → s.whileSendError = false →
    ∀ i, program i ≠ [] → s.calls i ≠ [] ∨ s.todo i ≠ []

omit [DecidableEq ι] in
theorem flagged_start : Flagged supportShiori shioriClient program (start program) :=
  ⟨by simp [start], by simp [start], fun _ _ _ _ h => .inr h⟩

theorem exists_raised_goTo (s : ReportThreads ι) (i : ι) {point : ReportPoint} (calls : List ReportPoint)
    (hpoint : Raised point) : ∃ point' ∈ (s.goTo i (point :: calls)).calls i, Raised point' :=
  ⟨point, by simp, hpoint⟩

theorem lowered_step (hf : Flagged supportShiori shioriClient program s)
    (hs : StepCase supportShiori shioriClient s i s') (hn : shioriClient ≠ none) (hflag : s'.whileSendError = true) :
    ∃ k, ∃ point ∈ s'.calls k, Raised point := by
  cases hs with
  | finished | waits => exact hf.lowered hn hflag
  | log hc =>
    obtain ⟨k, point, hpoint, hraised⟩ := hf.lowered hn hflag
    have hki : k ≠ i := by
      rintro rfl
      simp [hc] at hpoint
    exact ⟨k, point, by simpa [hki] using hpoint, hraised⟩
  | drop hc =>
    obtain ⟨k, point, hpoint, hraised⟩ := hf.lowered hn hflag
    refine ⟨k, point, ?_, hraised⟩
    by_cases hki : k = i
    · subst hki
      rw [hc] at hpoint
      rcases List.mem_cons.mp hpoint with rfl | hpoint
      · exact hraised.elim
      · simpa using hpoint
    · simpa [hki] using hpoint
  | pass _ _ hdown => rw [show s.whileSendError = true from hflag] at hdown; cases hdown
  | noClient _ hnone => exact absurd hnone hn
  | noBuffer | raised | lock | unlock => exact ⟨i, exists_raised_goTo s i _ trivial⟩
  | @logInside report reports => exact ⟨i, .sending reports, by simp, trivial⟩
  | lower => cases hflag

theorem flagged_step (h : Inv supportShiori shioriClient program s)
    (hf : Flagged supportShiori shioriClient program s) (hs : StepCase supportShiori shioriClient s i s') :
    Flagged supportShiori shioriClient program s' := by
  refine ⟨fun hflag => ?_, lowered_step hf hs, fun hn hsupport hflag k hk => ?_⟩
  · have hi := h.stacked i
    cases hs with
    | finished | waits | log | drop | pass | lock | logInside | unlock => exact hf.support hflag
    | noClient hc | noBuffer hc | raised hc =>
      rw [hc] at hi
      exact ⟨hi.raise.1, i, hi.raise.2⟩
    | lower => cases hflag
  · by_cases hki : k = i
    · subst hki
      have hk' := h.stacked k
      cases hs with
      | finished | waits => exact hf.raised hn hsupport hflag k hk
      | log | pass => exact .inl (by simp)
      | drop _ hup => rw [show s.whileSendError = false from hflag] at hup; cases hup hsupport
      | noClient => cases hflag
      | noBuffer _ hclient | raised _ hclient => exact absurd hn hclient
      | lock hc | logInside hc | unlock hc | lower hc =>
        rw [hc] at hk'
        exact absurd hn (hk'.client trivial)
    · rw [(other_of_stepCase hs hki).1, (other_of_stepCase hs hki).2]
      refine hf.raised hn hsupport ?_ k hk
      have hi := h.stacked i
      cases hs with
      | finished | waits | log | drop | pass | lock | logInside | unlock => exact hflag
      | noClient | noBuffer | raised => cases hflag
      | lower hc =>
        rw [hc] at hi
        exact absurd hn (hi.client trivial)

theorem flagged_run (schedule : List ι) :
    Flagged supportShiori shioriClient program ((start program).run supportShiori shioriClient schedule) :=
  (run_induction (P := fun s => Inv supportShiori shioriClient program s ∧ Flagged supportShiori shioriClient program s)
    (fun _ _ _ h hs => ⟨inv_step h.1 hs, flagged_step h.1 h.2 hs⟩) ⟨inv_start, flagged_start⟩ schedule).2

end

/-- **When error reporting is silenced**: however the reports are interleaved, when all are over the flag is up exactly
if shiori is supported, has no client and an error was logged. -/
theorem flagRaised_iff {ι : Type} [DecidableEq ι] (supportShiori : Bool) (shioriClient : Option Client)
    (program : ι → List Report) (schedule : List ι)
    (hdone : ((start program).run supportShiori shioriClient schedule).Done) :
    ((start program).run supportShiori shioriClient schedule).whileSendError = true ↔
      supportShiori = true ∧ shioriClient = none ∧ ∃ i, program i ≠ [] := by
  have hf : Flagged supportShiori shioriClient program _ := flagged_run schedule
  constructor
  · intro hflag
    refine ⟨(hf.support hflag).1, ?_, (hf.support hflag).2⟩
    by_contra hn
    obtain ⟨i, point, hpoint, -⟩ := hf.lowered hn hflag
    rw [(hdone i).1] at hpoint
    cases hpoint
  · rintro ⟨hsupport, hn, i, hi⟩
    by_contra hflag
    have hunfinished := hf.raised hn hsupport (by simpa using hflag) i hi
    rw [(hdone i).1, (hdone i).2] at hunfinished
    simp at hunfinished

/-- Two threads that log an error each, before there is a client. -/
def twoErrors : Fin 2 → List Report := fun _ => [.mk (str "early") (some []) true ⟨[]⟩ []]

/-- Both get past the test before one of them raises the flag, which then stays up. -/
theorem flagRaised_twoErrors : ((start twoErrors).run true none [0, 1, 0, 1, 0, 1]).whileSendError = true := by
  refine (flagRaised_iff true none twoErrors [0, 1, 0, 1, 0, 1] ?_).mpr ⟨rfl, rfl, 0, by simp [twoErrors]⟩
  exact Fin.forall_fin_two.mpr ⟨⟨rfl, rfl⟩, ⟨rfl, rfl⟩⟩

end ReportThreads

end HanamiNetwork
