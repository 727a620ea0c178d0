import HanamiNetwork.Messaging.ErrorLog
import Mathlib.Data.Finset.Card
import Mathlib.Data.Fintype.Basic

/-!
# Threads that report errors

Every error that is logged calls `sendGenericErrorMessage`, on the thread that logs it. There is one
`m_whileSendError` for all threads, and it is tested and set without a lock; only the send takes a
lock, the `m_sessionLock` of shiori's client. Here the tests and settings of the flag, the
lock and what happens under it are taken one by one, and the threads take turns in any order,
while the client of shiori stays as it is.

`Inv` holds in every run: a thread is in one call, or in one inside the send of another, which never
gets to send itself. `reaches_report` says that a thread alone does what `sendGenericErrorMessage` of
`Messaging/ErrorLog.lean` does.
-/

namespace HanamiNetwork

/-- Where a thread is in a call of `sendGenericErrorMessage`. -/
inductive ReportPoint where
  /-- Before the test of `m_whileSendError`. -/
  | test (report : Report)
  /-- Before `m_whileSendError = true`. -/
  | raise (report : Report)
  /-- Before the lock of the send, with the errors that will be logged inside it. -/
  | send (buffer : List UInt8) (nested : List Report)
  /-- Inside the send, with the errors that are still to be logged. -/
  | sending (nested : List Report)
  /-- Before `m_whileSendError = false`. -/
  | lower

/-- The threads that log errors. -/
structure ReportThreads (ι : Type) where
  /-- `m_whileSendError`. -/
  whileSendError : Bool
  /-- The thread that holds the `m_sessionLock` of shiori's client. -/
  holder : Option ι
  /-- The calls of `sendGenericErrorMessage` each thread is in, innermost first. -/
  calls : ι → List ReportPoint
  /-- The errors each thread will log. -/
  todo : ι → List Report
  /-- The messages that were handed to the client, under its lock. -/
  handed : List (List UInt8)

/-- The errors that are logged inside the send. -/
def Report.nested : Report → List Report
  | mk _ _ _ _ nested => nested

/-- What is logged inside the send of a report: nothing without a session. -/
def loggedInside (shioriClient : Option Client) (report : Report) : List Report :=
  if (shioriClient.bind Client.session).isSome then report.nested else []

namespace ReportThreads

variable {ι : Type}

/-- The start, with the errors each thread will log. -/
def start (program : ι → List Report) : ReportThreads ι := ⟨false, none, fun _ => [], program, []⟩

variable [DecidableEq ι]

/-- The calls of a thread are changed. -/
def goTo (s : ReportThreads ι) (i : ι) (calls : List ReportPoint) : ReportThreads ι :=
  { s with calls := Function.update s.calls i calls }

variable (supportShiori : Bool) (shioriClient : Option Client)

/-- One step of one thread. -/
def step (s : ReportThreads ι) (i : ι) : ReportThreads ι :=
  match s.calls i, s.todo i with
  | [], [] => s
  | [], report :: reports => { s.goTo i [.test report] with todo := Function.update s.todo i reports }
  | .test report :: calls, _ =>
    if supportShiori = false then s.goTo i calls
    else if s.whileSendError = true then s.goTo i calls
    else s.goTo i (.raise report :: calls)
  | .raise report :: calls, _ =>
    let s := { s with whileSendError := true }
    match shioriClient, report.buffer with
    | none, _ => s.goTo i calls
    | some _, none => s.goTo i (.lower :: calls)
    | some _, some buffer => s.goTo i (.send buffer (loggedInside shioriClient report) :: calls)
  | .send buffer nested :: calls, _ =>
    match s.holder with
    | none => { s.goTo i (.sending nested :: calls) with holder := some i, handed := s.handed ++ [buffer] }
    -- the thread waits for the lock, for ever if it holds it itself
    | some _ => s
  | .sending (report :: reports) :: calls, _ => s.goTo i (.test report :: .sending reports :: calls)
  | .sending [] :: calls, _ => { s.goTo i (.lower :: calls) with holder := none }
  | .lower :: calls, _ => { s.goTo i calls with whileSendError := false }

/-- A run, in which the threads take turns in any order. -/
def run (s : ReportThreads ι) (schedule : List ι) : ReportThreads ι :=
  schedule.foldl (step supportShiori shioriClient) s

/-- What a step of a thread does. -/
inductive StepCase (s : ReportThreads ι) (i : ι) : ReportThreads ι → Prop where
  /-- The thread has logged all its errors. -/
  | finished (hc : s.calls i = []) (ht : s.todo i = []) : StepCase s i s
  /-- It waits for the lock. -/
  | waits {buffer : List UInt8} {nested : List Report} {calls : List ReportPoint} {j : ι}
      (hc : s.calls i = .send buffer nested :: calls) (hh : s.holder = some j) : StepCase s i s
  /-- It logs its next error. -/
  | log {report : Report} {reports : List Report} (hc : s.calls i = []) (ht : s.todo i = report :: reports) :
      StepCase s i { s.goTo i [.test report] with todo := Function.update s.todo i reports }
  /-- The test ends the call. -/
  | drop {report : Report} {calls : List ReportPoint} (hc : s.calls i = .test report :: calls)
      (hflag : supportShiori = true → s.whileSendError = true) : StepCase s i (s.goTo i calls)
  /-- The test finds the flag down. -/
  | pass {report : Report} {calls : List ReportPoint} (hc : s.calls i = .test report :: calls)
      (hs : supportShiori = true) (hflag : s.whileSendError = false) : StepCase s i (s.goTo i (.raise report :: calls))
  /-- The flag is raised, but there is no client. -/
  | noClient {report : Report} {calls : List ReportPoint} (hc : s.calls i = .raise report :: calls)
      (hn : shioriClient = none) : StepCase s i { s.goTo i calls with whileSendError := true }
  /-- The flag is raised, but the message does not serialise. -/
  | noBuffer {report : Report} {calls : List ReportPoint} (hc : s.calls i = .raise report :: calls)
      (hn : shioriClient ≠ none) (hb : report.buffer = none) :
      StepCase s i { s.goTo i (.lower :: calls) with whileSendError := true }
  /-- The flag is raised. -/
  | raised {report : Report} {calls : List ReportPoint} {buffer : List UInt8}
      (hc : s.calls i = .raise report :: calls) (hn : shioriClient ≠ none) (hb : report.buffer = some buffer) :
      StepCase s i { s.goTo i (.send buffer (loggedInside shioriClient report) :: calls) with whileSendError := true }
  /-- The send takes the lock. -/
  | lock {buffer : List UInt8} {nested : List Report} {calls : List ReportPoint}
      (hc : s.calls i = .send buffer nested :: calls) (hh : s.holder = none) :
      StepCase s i { s.goTo i (.sending nested :: calls) with holder := some i, handed := s.handed ++ [buffer] }
  /-- An error is logged inside the send. -/
  | logInside {report : Report} {reports : List Report} {calls : List ReportPoint}
      (hc : s.calls i = .sending (report :: reports) :: calls) :
      StepCase s i (s.goTo i (.test report :: .sending reports :: calls))
  /-- The send releases the lock. -/
  | unlock {calls : List ReportPoint} (hc : s.calls i = .sending [] :: calls) :
      StepCase s i { s.goTo i (.lower :: calls) with holder := none }
  /-- The flag is lowered. -/
  | lower {calls : List ReportPoint} (hc : s.calls i = .lower :: calls) :
      StepCase s i { s.goTo i calls with whileSendError := false }

variable {supportShiori shioriClient}

theorem stepCase (s : ReportThreads ι) (i : ι) :
    StepCase supportShiori shioriClient s i (s.step supportShiori shioriClient i) := by
  cases hc : s.calls i with
  | nil =>
    cases ht : s.todo i with
    | nil =>
      simp only [step, hc, ht]
      exact .finished hc ht
    | cons report reports =>
      simp only [step, hc, ht]
      exact .log hc ht
  | cons point calls =>
    cases point with
    | test report =>
      simp only [step, hc]
      split_ifs with hs hflag
      · exact .drop hc fun h => by simp [hs] at h
      · exact .drop hc fun _ => hflag
      · exact .pass hc (by simpa using hs) (by simpa using hflag)
    | raise report =>
      simp only [step, hc]
      cases hn : shioriClient with
      | none => exact .noClient hc rfl
      | some client =>
        cases hb : report.buffer with
        | none => exact .noBuffer hc (by simp) hb
        | some buffer => exact .raised hc (by simp) hb
    | send buffer nested =>
      cases hh : s.holder with
      | none =>
        simp only [step, hc, hh]
        exact .lock hc hh
      | some j =>
        simp only [step, hc, hh]
        exact .waits hc hh
    | sending nested =>
      cases nested with
      | nil =>
        simp only [step, hc]
        exact .unlock hc
      | cons report reports =>
        simp only [step, hc]
        exact .logInside hc
    | lower =>
      simp only [step, hc]
      exact .lower hc

@[simp] theorem calls_goTo (s : ReportThreads ι) (i : ι) (calls : List ReportPoint) (j : ι) :
    (s.goTo i calls).calls j = if j = i then calls else s.calls j := Function.update_apply _ _ _ _

theorem calls_goTo_same (s : ReportThreads ι) (i : ι) (calls : List ReportPoint) :
    (s.goTo i calls).calls i = calls := by simp

@[simp] theorem whileSendError_goTo (s : ReportThreads ι) (i : ι) (calls : List ReportPoint) :
    (s.goTo i calls).whileSendError = s.whileSendError := rfl

@[simp] theorem holder_goTo (s : ReportThreads ι) (i : ι) (calls : List ReportPoint) :
    (s.goTo i calls).holder = s.holder := rfl

@[simp] theorem todo_goTo (s : ReportThreads ι) (i : ι) (calls : List ReportPoint) :
    (s.goTo i calls).todo = s.todo := rfl

@[simp] theorem handed_goTo (s : ReportThreads ι) (i : ι) (calls : List ReportPoint) :
    (s.goTo i calls).handed = s.handed := rfl

theorem other_of_stepCase {s s' : ReportThreads ι} {i : ι} (hs : StepCase supportShiori shioriClient s i s') {j : ι}
    (hji : j ≠ i) : s'.calls j = s.calls j ∧ s'.todo j = s.todo j := by
  cases hs with
  | finished | waits => exact ⟨rfl, rfl⟩
  | log => simp [hji]
  | drop | pass | noClient | noBuffer | raised | lock | logInside | unlock | lower =>
    exact ⟨by simp [hji], rfl⟩

/-! ### What holds in every run -/

section

variable (supportShiori shioriClient)

/-- A call for one of these reports can be at this point. -/
def CallOf (reports : List Report) : ReportPoint → Prop
  | .test report => report ∈ reports
  | .raise report => supportShiori = true ∧ report ∈ reports
  | .send buffer nested => supportShiori = true ∧ shioriClient ≠ none ∧
      ∃ report ∈ reports, report.buffer = some buffer ∧ nested = loggedInside shioriClient report
  | .sending nested => shioriClient ≠ none ∧
      ∃ report ∈ reports, report.buffer ≠ none ∧ nested ⊆ loggedInside shioriClient report
  | .lower => shioriClient ≠ none ∧ reports ≠ []

/-- The calls a thread with these reports can be in: one, or one inside a send, which does not get to send itself. -/
inductive Stacked (reports : List Report) : List ReportPoint → Prop where
  /-- No call. -/
  | out : Stacked reports []
  /-- One call. -/
  | outer {point : ReportPoint} (hcall : CallOf supportShiori shioriClient reports point) : Stacked reports [point]
  /-- One inside a send. -/
  | inner {point : ReportPoint} {report : Report} {rest : List Report} (hn : shioriClient ≠ none)
      (hr : report ∈ reports) (hb : report.buffer ≠ none) (hrest : rest ⊆ loggedInside shioriClient report)
      (hcall : CallOf supportShiori shioriClient (loggedInside shioriClient report) point)
      (hpoint : ∀ nested, point ≠ .sending nested) : Stacked reports [point, .sending rest]

/-- What holds in every run. -/
structure Inv (program : ι → List Report) (s : ReportThreads ι) : Prop where
  /-- A thread logs the errors of its program. -/
  todo : ∀ i, s.todo i ⊆ program i
  /-- It is in one call, or in one inside another. -/
  stacked : ∀ i, Stacked supportShiori shioriClient (program i) (s.calls i)
  /-- The lock is held by the thread that is inside a send. -/
  holder : ∀ i, s.holder = some i ↔ ∃ nested, .sending nested ∈ s.calls i

end

section

variable {program : ι → List Report} {s s' : ReportThreads ι} {i : ι}

omit [DecidableEq ι] in
/-- The calls a call is inside of are one send. -/
theorem Stacked.rest {reports : List Report} {point : ReportPoint} {calls : List ReportPoint}
    (h : Stacked supportShiori shioriClient reports (point :: calls)) :
    calls = [] ∨ ∃ rest, calls = [.sending rest] := by
  cases h with
  | outer => exact .inl rfl
  | inner => exact .inr ⟨_, rfl⟩

omit [DecidableEq ι] in
/-- Before the flag is raised, shiori is supported. -/
theorem Stacked.raise {reports : List Report} {report : Report} {calls : List ReportPoint}
    (h : Stacked supportShiori shioriClient reports (.raise report :: calls)) :
    supportShiori = true ∧ reports ≠ [] := by
  cases h with
  | outer hcall => exact ⟨hcall.1, List.ne_nil_of_mem hcall.2⟩
  | inner _ hr _ _ hcall => exact ⟨hcall.1, List.ne_nil_of_mem hr⟩

omit [DecidableEq ι] in
theorem Stacked.tail {reports : List Report} {point : ReportPoint} {calls : List ReportPoint}
    (h : Stacked supportShiori shioriClient reports (point :: calls)) :
    Stacked supportShiori shioriClient reports calls := by
  cases h with
  | outer => exact .out
  | inner hn hr hb hrest => exact .outer ⟨hn, _, hr, hb, hrest⟩

omit [DecidableEq ι] in
theorem Stacked.head {reports : List Report} {point point' : ReportPoint} {calls : List ReportPoint}
    (h : Stacked supportShiori shioriClient reports (point :: calls)) (hpoint : ∀ nested, point' ≠ .sending nested)
    (hcall : ∀ reports', CallOf supportShiori shioriClient reports' point →
      CallOf supportShiori shioriClient reports' point') :
    Stacked supportShiori shioriClient reports (point' :: calls) := by
  cases h with
  | outer hc => exact .outer (hcall _ hc)
  | inner hn hr hb hrest hc => exact .inner hn hr hb hrest (hcall _ hc) hpoint

theorem stacked_step (h : Inv supportShiori shioriClient program s)
    (hs : StepCase supportShiori shioriClient s i s') :
    Stacked supportShiori shioriClient (program i) (s'.calls i) := by
  have hi := h.stacked i
  cases hs with
  | finished | waits => exact hi
  | log hc ht =>
    have hreport := h.todo i (ht ▸ List.mem_cons_self)
    simpa using .outer hreport
  | drop hc | noClient hc | lower hc =>
    rw [hc] at hi
    simpa using hi.tail
  | pass hc hsupport =>
    rw [hc] at hi
    simp only [calls_goTo, ↓reduceIte]
    exact hi.head (by simp) fun _ hr => ⟨hsupport, hr⟩
  | noBuffer hc hn =>
    rw [hc] at hi
    simp only [calls_goTo, ↓reduceIte]
    exact hi.head (by simp) fun _ hr => ⟨hn, List.ne_nil_of_mem hr.2⟩
  | raised hc hn hb =>
    rw [hc] at hi
    simp only [calls_goTo, ↓reduceIte]
    exact hi.head (by simp) fun _ hr => ⟨hr.1, hn, _, hr.2, hb, rfl⟩
  | lock hc hh =>
    rw [hc] at hi
    cases hi with
    | outer hcall =>
      obtain ⟨-, hn, report, hr, hb, rfl⟩ := hcall
      simpa using .outer ⟨hn, report, hr, by simp [hb], List.Subset.refl _⟩
    | inner =>
      have hheld := (h.holder i).mpr ⟨_, by rw [hc]; exact List.mem_cons_of_mem _ List.mem_cons_self⟩
      rw [hh] at hheld
      cases hheld
  | logInside hc =>
    rw [hc] at hi
    cases hi with
    | outer hcall =>
      obtain ⟨hn, report, hr, hb, hsub⟩ := hcall
      have hlogged := List.cons_subset.mp hsub
      simpa using .inner hn hr hb hlogged.2 hlogged.1 (by simp)
    | inner _ _ _ _ _ hpoint => exact absurd rfl (hpoint _)
  | unlock hc =>
    rw [hc] at hi
    cases hi with
    | outer hcall =>
      obtain ⟨hn, report, hr, -, -⟩ := hcall
      simpa using .outer ⟨hn, List.ne_nil_of_mem hr⟩
    | inner _ _ _ _ _ hpoint => exact absurd rfl (hpoint _)

theorem todo_step (h : Inv supportShiori shioriClient program s)
    (hs : StepCase supportShiori shioriClient s i s') : s'.todo i ⊆ program i := by
  cases hs with
  | log hc ht =>
    have hall := h.todo i
    rw [ht] at hall
    simpa using (List.cons_subset.mp hall).2
  | finished | waits | drop | pass | noClient | noBuffer | raised | lock | logInside | unlock | lower => exact h.todo i

theorem holder_step (h : Inv supportShiori shioriClient program s)
    (hs : StepCase supportShiori shioriClient s i s') (j : ι) :
    s'.holder = some j ↔ ∃ nested, .sending nested ∈ s'.calls j := by
  have hj := h.holder j
  by_cases hji : j = i
  · subst hji
    cases hs with
    | finished | waits => exact hj
    | log hc | drop hc | pass hc | noClient hc | noBuffer hc | raised hc | lower hc =>
      rw [hc] at hj
      simpa using hj
    | lock hc => simp
    | logInside hc =>
      rw [hc] at hj
      have hheld : s.holder = some j := hj.mpr ⟨_, List.mem_cons_self⟩
      simpa using hheld
    | unlock hc =>
      have hstacked := h.stacked j
      rw [hc] at hstacked
      cases hstacked with
      | outer => simp
      | inner _ _ _ _ _ hpoint => exact absurd rfl (hpoint _)
  · rw [(other_of_stepCase hs hji).1, ← hj]
    have hne : i ≠ j := fun hij => hji hij.symm
    cases hs with
    | finished | waits | log | drop | pass | noClient | noBuffer | raised | logInside | lower => rfl
    | lock hc hh => simp [hh, hne]
    | unlock hc =>
      have hheld : s.holder = some i := (h.holder i).mpr ⟨[], by simp [hc]⟩
      simp [hheld, hne]

omit [DecidableEq ι] in
theorem inv_start : Inv supportShiori shioriClient program (start program) :=
  ⟨fun _ => List.Subset.refl _, fun _ => .out, fun _ => by simp [start]⟩

theorem inv_step (h : Inv supportShiori shioriClient program s)
    (hs : StepCase supportShiori shioriClient s i s') : Inv supportShiori shioriClient program s' := by
  refine ⟨fun j => ?_, fun j => ?_, holder_step h hs⟩
  · by_cases hji : j = i
    · exact hji ▸ todo_step h hs
    · rw [(other_of_stepCase hs hji).2]
      exact h.todo j
  · by_cases hji : j = i
    · exact hji ▸ stacked_step h hs
    · rw [(other_of_stepCase hs hji).1]
      exact h.stacked j

theorem run_induction {P : ReportThreads ι → Prop}
    (hstep : ∀ s i s', P s → StepCase supportShiori shioriClient s i s' → P s') (h : P s) (schedule : List ι) :
    P (s.run supportShiori shioriClient schedule) := by
  induction schedule generalizing s with
  | nil => exact h
  | cons i schedule ih => exact ih (hstep s i _ h (stepCase s i))

theorem inv_run (schedule : List ι) :
    Inv supportShiori shioriClient program ((start program).run supportShiori shioriClient schedule) :=
  run_induction (fun _ _ _ h hs => inv_step h hs) inv_start schedule

theorem run_append (s : ReportThreads ι) (schedule later : List ι) :
    s.run supportShiori shioriClient (schedule ++ later) =
      (s.run supportShiori shioriClient schedule).run supportShiori shioriClient later := List.foldl_append

/-- All threads have logged their errors. -/
def Done (s : ReportThreads ι) : Prop := ∀ i, s.calls i = [] ∧ s.todo i = []

/-! ### Runs that exist -/

theorem step_eq (hs : StepCase supportShiori shioriClient s i s') : s.step supportShiori shioriClient i = s' := by
  cases hs with
  | finished hc ht => simp [step, hc, ht]
  | log hc ht => simp [step, hc, ht]
  | waits hc hh | lock hc hh => simp [step, hc, hh]
  | drop hc hflag => cases hs : supportShiori <;> simp_all [step]
  | pass hc hsupport hflag => simp [step, hc, hsupport, hflag]
  | noClient hc hn => simp [step, hc, hn]; rfl
  | noBuffer hc hn hb =>
    obtain ⟨client, rfl⟩ := Option.ne_none_iff_exists'.mp hn
    simp [step, hc, hb]; rfl
  | raised hc hn hb =>
    obtain ⟨client, rfl⟩ := Option.ne_none_iff_exists'.mp hn
    simp [step, hc, hb]; rfl
  | logInside hc | unlock hc | lower hc => simp [step, hc]

variable (supportShiori shioriClient) in
/-- A run leads from one state to another. -/
def Reaches (s s' : ReportThreads ι) : Prop := ∃ schedule, s.run supportShiori shioriClient schedule = s'

theorem Reaches.refl (s : ReportThreads ι) : Reaches supportShiori shioriClient s s := ⟨[], rfl⟩

theorem Reaches.trans {s'' : ReportThreads ι} (h : Reaches supportShiori shioriClient s s')
    (h' : Reaches supportShiori shioriClient s' s'') : Reaches supportShiori shioriClient s s'' := by
  obtain ⟨schedule, rfl⟩ := h
  obtain ⟨later, rfl⟩ := h'
  exact ⟨schedule ++ later, List.foldl_append⟩

theorem Reaches.step {s'' : ReportThreads ι} (h : Reaches supportShiori shioriClient s s')
    (hs : StepCase supportShiori shioriClient s' i s'') : Reaches supportShiori shioriClient s s'' :=
  h.trans ⟨[i], step_eq hs⟩

@[simp] theorem goTo_goTo (s : ReportThreads ι) (i : ι) (calls calls' : List ReportPoint) :
    (s.goTo i calls).goTo i calls' = s.goTo i calls' := by simp [goTo]

theorem goTo_self (s : ReportThreads ι) {i : ι} {calls : List ReportPoint} (hc : s.calls i = calls) :
    s.goTo i calls = s := by simp [goTo, ← hc]

/-- With the flag up, the errors that are logged inside a send are not reported. -/
theorem reaches_inside (nested nested' : List Report) (calls : List ReportPoint) (hflag : s.whileSendError = true)
    (hc : s.calls i = .sending (nested ++ nested') :: calls) :
    Reaches supportShiori shioriClient s (s.goTo i (.sending nested' :: calls)) := by
  induction nested generalizing s with
  | nil =>
    rw [goTo_self s (by simpa using hc)]
    exact .refl s
  | cons report nested ih =>
    have hlog : Reaches supportShiori shioriClient s _ := (Reaches.refl s).step (.logInside hc)
    have hdrop := hlog.step (.drop (calls_goTo_same ..) fun _ => hflag)
    rw [goTo_goTo] at hdrop
    have hrest := ih (s := s.goTo i (.sending (nested ++ nested') :: calls)) hflag (by simp)
    rw [goTo_goTo] at hrest
    exact hdrop.trans hrest

theorem reaches_sent {buffer : List UInt8} {nested : List Report} {calls : List ReportPoint}
    (hc : s.calls i = .send buffer nested :: calls) (hflag : s.whileSendError = true) (hh : s.holder = none) :
    Reaches supportShiori shioriClient s { s.goTo i (.lower :: calls) with handed := s.handed ++ [buffer] } := by
  have hlock : Reaches supportShiori shioriClient s _ := (Reaches.refl s).step (.lock hc hh)
  have hinside : Reaches supportShiori shioriClient _ _ := hlock.trans
    (reaches_inside (i := i) nested [] calls hflag (by simp))
  have hunlock := hinside.step (.unlock (calls_goTo_same ..))
  simpa [goTo, hh] using hunlock

/-- A thread that has raised the flag comes to lower it, if the lock is free. -/
theorem reaches_raised {report : Report} {calls : List ReportPoint} (hn : shioriClient ≠ none)
    (hc : s.calls i = .raise report :: calls) (hh : s.holder = none) :
    Reaches supportShiori shioriClient s { s.goTo i (.lower :: calls) with
      whileSendError := true
      handed := s.handed ++ report.buffer.toList } := by
  cases hb : report.buffer with
  | none =>
    have hraised : Reaches supportShiori shioriClient s _ := (Reaches.refl s).step (.noBuffer hc hn hb)
    simpa [goTo] using hraised
  | some buffer =>
    have hraised : Reaches supportShiori shioriClient s _ := (Reaches.refl s).step (.raised hc hn hb)
    have hsent := hraised.trans (reaches_sent (calls_goTo_same ..) rfl hh)
    simpa [goTo] using hsent

/-- The messages that are handed over in a trace. -/
def messages (es : List Effect) : List (List UInt8) := es.filterMap fun
  | .genericMessage _ _ buffer => some buffer
  | _ => none

variable (supportShiori shioriClient) in
/-- **A thread alone** does with a report what `sendGenericErrorMessage` does. -/
theorem reaches_report (x : World) {report : Report} {reports : List Report} (hc : s.calls i = [])
    (ht : s.todo i = report :: reports) (hh : s.holder = none) :
    ∃ r : Reporter,
      (sendGenericErrorMessage x 0 report ⟨supportShiori, shioriClient, s.whileSendError⟩).value = some r ∧
      Reaches supportShiori shioriClient s { s with
        todo := Function.update s.todo i reports
        whileSendError := r.whileSendError
        handed := s.handed ++ messages
          (sendGenericErrorMessage x 0 report ⟨supportShiori, shioriClient, s.whileSendError⟩).effects } := by
  have hlog : Reaches supportShiori shioriClient s _ := (Reaches.refl s).step (.log hc ht)
  have hself : Function.update s.calls i [] = s.calls := by rw [← hc, Function.update_eq_self]
  have hdrop (h : supportShiori = true → s.whileSendError = true) := hlog.step (.drop (calls_goTo_same ..) h)
  cases hflag : s.whileSendError with
  | true =>
    rw [sendGenericErrorMessage_of_raised rfl]
    refine ⟨_, rfl, ?_⟩
    simpa [goTo, hself, messages, hflag] using hdrop fun _ => hflag
  | false =>
    obtain ⟨errorMessage, buffer, sent, error, nested⟩ := report
    rw [sendGenericErrorMessage_of_lowered]
    cases hsupport : supportShiori with
    | false =>
      subst hsupport
      refine ⟨_, rfl, ?_⟩
      simpa [goTo, hself, messages, hflag] using hdrop nofun
    | true =>
      subst hsupport
      have hpass := hlog.step (.pass (calls_goTo_same ..) rfl hflag)
      cases hn : shioriClient with
      | none =>
        subst hn
        refine ⟨_, rfl, ?_⟩
        simpa [goTo, hself, messages] using hpass.step (.noClient (calls_goTo_same ..) rfl)
      | some client =>
        subst hn
        have hraised := hpass.trans (reaches_raised (by simp) (calls_goTo_same ..) hh)
        have hlowered := hraised.step (.lower (calls_goTo_same ..))
        cases buffer with
        | none =>
          refine ⟨_, rfl, ?_⟩
          simpa [goTo, hself, messages, Report.buffer] using hlowered
        | some buffer =>
          refine ⟨_, rfl, ?_⟩
          cases hsession : client.session <;>
            simpa [goTo, hself, messages, Report.buffer, handOver, hsession] using hlowered

theorem lowered_of_report (x : World) {report : Report} {r : Reporter} (hn : shioriClient ≠ none)
    (hr : (sendGenericErrorMessage x 0 report ⟨supportShiori, shioriClient, false⟩).value = some r) :
    r.whileSendError = false := by
  obtain ⟨client, rfl⟩ := Option.ne_none_iff_exists'.mp hn
  have hready : ClientReady ⟨supportShiori, some client, false⟩ (.call report) := fun _ _ _ => by simp
  have hlow := (lowered_step_iff (x := x) rfl (.call report)).mpr hready
  simpa [reporterStep, hr] using hlow

variable (supportShiori shioriClient) in
theorem reaches_reports (reports rest : List Report) (hc : s.calls i = []) (ht : s.todo i = reports ++ rest)
    (hh : s.holder = none) : ∃ flag handed, Reaches supportShiori shioriClient s { s with
        todo := Function.update s.todo i rest
        whileSendError := flag
        handed := handed } ∧
      (shioriClient ≠ none → s.whileSendError = false → flag = false) := by
  induction reports generalizing s with
  | nil =>
    have hself : Function.update s.todo i rest = s.todo := by
      rw [List.nil_append] at ht
      rw [← ht, Function.update_eq_self]
    rw [hself]
    exact ⟨s.whileSendError, s.handed, .refl s, fun _ h => h⟩
  | cons report reports ih =>
    obtain ⟨r, hr, hreport⟩ := reaches_report supportShiori shioriClient literalWorld hc ht hh
    obtain ⟨flag, handed, hreports, hflag⟩ := ih (s := { s with
      todo := Function.update s.todo i (reports ++ rest)
      whileSendError := r.whileSendError
      handed := _ }) hc (Function.update_self ..) hh
    refine ⟨flag, handed, ?_, fun hn hdown => hflag hn ?_⟩
    · simpa using hreport.trans hreports
    · rw [hdown] at hr
      exact lowered_of_report literalWorld hn hr

variable (supportShiori shioriClient) in
/-- From between the reports, all threads can come to their end. -/
theorem reaches_done [Fintype ι] (hc : ∀ i, s.calls i = []) (hh : s.holder = none) :
    ∃ s', Reaches supportShiori shioriClient s s' ∧ s'.Done := by
  have h : ∀ threads : Finset ι, ∃ s', Reaches supportShiori shioriClient s s' ∧ (∀ i, s'.calls i = []) ∧
      s'.holder = none ∧ ∀ i ∈ threads, s'.todo i = [] := by
    intro threads
    induction threads using Finset.induction_on with
    | empty => exact ⟨s, .refl s, hc, hh, by simp⟩
    | insert i threads _ ih =>
      obtain ⟨s', hs', hc', hh', ht'⟩ := ih
      obtain ⟨flag, handed, hreports, -⟩ := reaches_reports supportShiori shioriClient _ [] (hc' i)
        (List.append_nil _).symm hh'
      refine ⟨_, hs'.trans hreports, hc', hh', fun j hj => ?_⟩
      by_cases hji : j = i
      · exact hji ▸ Function.update_self ..
      · exact (Function.update_of_ne hji ..).trans (ht' j (Finset.mem_of_mem_insert_of_ne hj hji))
  obtain ⟨s', hs', hc', -, ht'⟩ := h Finset.univ
  exact ⟨s', hs', fun i => ⟨hc' i, ht' i (Finset.mem_univ i)⟩⟩

/-- A thread that finds the flag down passes its test. -/
theorem reaches_passed {report : Report} {reports : List Report} (hsupport : supportShiori = true)
    (hflag : s.whileSendError = false) (hc : s.calls i = []) (ht : s.todo i = report :: reports) :
    Reaches supportShiori shioriClient s
      { s.goTo i [.raise report] with todo := Function.update s.todo i reports } := by
  have hlog : Reaches supportShiori shioriClient s _ := (Reaches.refl s).step (.log hc ht)
  simpa [goTo] using hlog.step (.pass (calls_goTo_same ..) hsupport hflag)

theorem inv_of_reaches (h : Reaches supportShiori shioriClient (start program) s) :
    Inv supportShiori shioriClient program s := by
  obtain ⟨schedule, rfl⟩ := h
  exact inv_run schedule

variable (supportShiori) in
/-- A thread comes to any of its reports before another one logs its first error. -/
theorem reaches_before {j : ι} (hij : i ≠ j) (hn : shioriClient ≠ none) {report : Report} (hr : report ∈ program i)
    (hj : program j ≠ []) : ∃ s' after second later, Reaches supportShiori shioriClient (start program) s' ∧
      (∀ k, s'.calls k = []) ∧ s'.todo i = report :: after ∧ s'.todo j = second :: later ∧
      s'.whileSendError = false ∧ s'.holder = none := by
  obtain ⟨before, after, hi⟩ := List.append_of_mem hr
  obtain ⟨second, later, hj⟩ := List.exists_cons_of_ne_nil hj
  obtain ⟨flag, handed, hbefore, hflag⟩ := reaches_reports supportShiori shioriClient (s := start program) before
    (report :: after) rfl hi rfl
  obtain rfl := hflag hn rfl
  have hji : j ≠ i := fun h => hij h.symm
  exact ⟨_, after, second, later, hbefore, fun _ => rfl, Function.update_self ..,
    (Function.update_of_ne hji ..).trans hj, rfl, rfl⟩

end

end ReportThreads

end HanamiNetwork
