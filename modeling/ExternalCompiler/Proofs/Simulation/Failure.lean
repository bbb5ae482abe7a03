/-
A simulated run whose main thread fails:

* `Options.Fails`: the main thread of a run fails, and the threads go on;
* `ClosesUp`, `Options.Fails.closesUp`: the main thread closes the queue;
* `Aftermath`, `Options.Fails.aftermath`: it writes nothing any more, and nobody accepts a task or
  shuts the service down;
* `summaries_of_leads`: workers never fail, so the first error is that of the main thread;
* `concludes_or_breaksDown`: what a simulated run brings, whether its main thread fails or not;
* `failed_run_winds_up`: the workers of a run whose main thread failed wind up all the same.
-/
import ExternalCompiler.Proofs.Shutdown
import ExternalCompiler.Proofs.Simulation.Report

namespace ExternalCompiler

/-! ### The main thread after a failure -/

namespace Action

/-- The action writes and submits nothing, and leaves the state of the service alone. -/
def isUnobtrusive (a : Action) : Bool :=
  !a.isOutput && !a.isPush && !a.writesState

variable {a : Action}

lemma isUnobtrusive_iff :
    a.isUnobtrusive = true ↔ a.isOutput = false ∧ a.isPush = false ∧ a.writesState = false := by
  simp [isUnobtrusive, and_assoc]

lemma isUnobtrusive_of_isLocking (h : a.isLocking = true) : a.isUnobtrusive = true := by
  cases h using isLocking_cases <;> rfl

lemma isUnobtrusive_of_isOfWorker {v : Nat} (h : a.isOfWorker v = true) :
    a.isUnobtrusive = true := by
  cases h using isOfWorker_cases with
  | chore a h => cases h using isChore_cases <;> rfl
  | errand a h =>
      cases h using isErrand_cases with
      | locking a h => exact isUnobtrusive_of_isLocking h
      | _ => rfl
  | _ => rfl

end Action

namespace Routine

variable {α : Type} {looks : Nat} {o : Options} {c : Config} {es : List Event} {e : ServiceError}

/-- The routine is done after so many actions at most. -/
def Within : Routine α → Nat → Prop
  | done _, _ => True
  | act _ next, n + 1 => ∀ x, (next x).Within n
  | _, _ => False

lemma Within.leads {r r' : Routine α} {n : Nat} (hr : r.Within n) (h : r.Leads es r') :
    es.length ≤ n ∧ r' ≠ more := by
  induction h generalizing n with
  | refl r =>
      refine ⟨Nat.zero_le n, ?_⟩
      rintro rfl
      exact hr
  | act t x s _ ih =>
      cases n with
      | zero => exact hr.elim
      | succ n =>
          obtain ⟨hlength, hmore⟩ := ih (hr x)
          exact ⟨Nat.succ_le_succ hlength, hmore⟩

/-- The main thread fails where its bootstrap does. -/
lemma drive_leads_error (h : (drive looks o c).Leads es (done (.error e))) :
    (bootstrap looks c o.bootstrapTimeout.isSome rootClass Broker.queue).Leads es
      (done (.error e)) := by
  obtain ⟨es₁, es₂, x, rfl, hboot, h₁⟩ := leads_bind_done.mp h
  cases x with
  | error e' =>
      obtain ⟨rfl, he⟩ := leads_done.mp h₁
      cases he
      rwa [List.append_nil]
  | ok report =>
      obtain ⟨es₃, es₄, accepted, rfl, -, h₂⟩ := leads_bind_done.mp h₁
      obtain ⟨es₅, es₆, _, rfl, -, h₃⟩ := leads_bind_done.mp h₂
      obtain ⟨t, _, s, es₇, rfl, h₄⟩ := leads_pause_done.mp h₃
      cases (leads_done.mp h₄).2

/-- Whatever comes of it, the main thread ends with closing the queue. -/
lemma driveAndClose_leads_done {x : Except ServiceError Unit}
    (h : (driveAndClose looks o c).Leads es (done x)) :
    ∃ es₁ es₂, es = es₁ ++ es₂ ∧ (drive looks o c).Leads es₁ (done x) ∧
      close.Leads es₂ (done ()) := by
  obtain ⟨es₁, es₂, y, rfl, hdrive, h₁⟩ := leads_bind_done.mp h
  obtain ⟨es₃, es₄, u, rfl, hclose, h₂⟩ := leads_bind_done.mp h₁
  obtain ⟨rfl, hx⟩ := leads_done.mp h₂
  cases hx
  exact ⟨es₁, es₃, by simp, hdrive, hclose⟩

/-- At the end the main thread has closed the queue. -/
lemma main_closes (looks : Nat) (o : Options) (c : Config) :
    (driveAndClose looks o c).Meets mainAccount {} fun _ k => k.closed = true := by
  refine (main_drive looks o c).bind fun x k _ => main_close.bind fun _ k' hk' => ?_
  subst hk'
  rfl

end Routine

/-- In some order of the threads of a run, the main thread fails with the error `e` after the
history `g`, and the events `h` follow. -/
structure Options.Fails (bound : Nat) (o : Options) (c : Config) (e : ServiceError)
    (g h : List Event) (R Q : System) : Prop where
  reach : System.Run (o.system bound c) g R
  fails : (o.system bound c).Returns 1 (Routine.drive bound o c) g (.error e)
  run : System.Run R h Q
  simulated : ∀ d ∈ g ++ h, d.action.Simulated d.answer

/-- With its part of the events `h` the main thread closes the queue. -/
structure ClosesUp (h : List Event) (Q : System) : Prop where
  /-- It does five things at most: it takes the lock and marks it, closes the queue, and gives the
  lock back. -/
  few : (own 1 h).length ≤ 5
  unrolled : Q.threads 1 ≠ .more
  /-- It can go on until then, unless another thread has the lock. -/
  acts : ∀ a next, Q.threads 1 = .act a next →
    (∃ d Q', System.Run Q [d] Q' ∧ d.thread = 1 ∧ d.action.Simulated d.answer) ∨
      ∃ u, u ≠ 1 ∧ Q.shared.lock.holder = some u
  closes : (Q.threads 1).isDone = true → Q.shared.queue.isClosed = true

/-- What is left after the failure. -/
structure Aftermath (bound : Nat) (o : Options) (c : Config) (e : ServiceError)
    (g h : List Event) (Q : System) : Prop where
  /-- What failed is the bootstrap. -/
  failed : (Routine.bootstrap bound c o.bootstrapTimeout.isSome rootClass .queue).Leads (own 1 g)
    (.done (.error e))
  closing : ClosesUp h Q
  /-- No task is accepted any more. -/
  accepted : pushed h = []
  /-- Nothing is written any more, and before nobody else wrote anything. -/
  silent : ∀ d ∈ h, d.action.isOutput = false
  written : ∀ d ∈ g, d.action.isOutput = true → d.thread = 1
  /-- The service is in the state in which the run started it. -/
  state : Q.shared.service.state =
    if c.selectsExternalCompiler then .initialized else .uninitialized

section Fails

variable {bound : Nat} {o : Options} {c : Config} {e : ServiceError} {g h : List Event}
  {R Q : System}

lemma system_drive (bound : Nat) (o : Options) (c : Config) :
    (o.system bound c).threads 1 = (Routine.drive bound o c).bind fun x =>
      (Routine.close.bind fun _ => .done x).bind fun _ => .done () := by
  rw [Options.system_main, Routine.driveAndClose, Routine.bind_eq, Routine.bind_assoc]
  rfl

/-- After its failure the main thread closes the queue. -/
lemma Options.Fails.rest (hfails : o.Fails bound c e g h R Q) :
    R.threads 1 = Routine.close.bind fun _ => .done () := by
  have hleads := hfails.reach.leads 1
  rw [system_drive] at hleads
  exact hleads.unique (hfails.fails.2.bind _)

lemma Options.Fails.closesUp (hfails : o.Fails bound c e g h R Q) : ClosesUp h Q := by
  have hwhole := hfails.reach.trans hfails.run
  have hrest := hfails.run.leads 1
  rw [hfails.rest] at hrest
  have hwithin : (Routine.close.bind fun _ => Routine.done ()).Within 5 :=
    fun _ _ _ _ _ => trivial
  obtain ⟨hfew, hmore⟩ := hwithin.leads hrest
  refine ⟨hfew, hmore, fun a next hact => ?_, fun hdone => ?_⟩
  · exact ((Options.pool_system bound o c).guarded.run hwhole).acts hact
  · obtain ⟨x, -, hx⟩ := hwhole.exists_returns Options.system_main (fun _ => .inl rfl) hdone
    obtain ⟨hexpected, hfits⟩ := main_fits hwhole hfails.simulated
    exact hfits.closed.trans ((Routine.main_closes bound o c).leads hx.2 hexpected)

/-- All but the bootstrap is unobtrusive: the workers, and the main thread that closes the queue. -/
lemma Options.Fails.unobtrusive (hfails : o.Fails bound c e g h R Q) :
    (∀ d ∈ g, d.thread ≠ 1 → d.action.isUnobtrusive = true) ∧
      ∀ d ∈ h, d.action.isUnobtrusive = true := by
  have hworkers : ∀ d ∈ g ++ h, d.thread ≠ 1 → d.action.isUnobtrusive = true :=
    fun d hd hmain => Action.isUnobtrusive_of_isOfWorker
      (isOfWorker_of_run (hfails.reach.trans hfails.run) d hd hmain)
  refine ⟨fun d hd => hworkers d (List.mem_append_left h hd), fun d hd => ?_⟩
  by_cases hmain : d.thread = 1
  · have hclose : (R.threads 1).Only (·.isUnobtrusive = true) := by
      rw [hfails.rest]
      exact (Routine.only_close (fun _ => Action.isUnobtrusive_of_isLocking) rfl).bind
        fun _ => trivial
    exact (hclose.leads (hfails.run.leads 1)).2 d (mem_own.mpr ⟨hd, hmain⟩)
  · exact hworkers d (List.mem_append_right g hd) hmain

/-- A bootstrap that fails with the simulated runtime leaves the state of the service alone. -/
lemma writes_of_failed (hboot : (Routine.bootstrap bound c o.bootstrapTimeout.isSome rootClass
      .queue).Leads (own 1 g) (.done (.error e)))
    (hsim : ∀ d ∈ g, d.action.Simulated d.answer) : ∀ d ∈ own 1 g, d.writes = none := by
  have hqueue : Broker.queue.Only fun a => a.writesState = false ∧ a ≠ .call .bootstrapFinished :=
    queue_only fun a ha => by
      cases ha using Action.isVisit_cases <;> exact ⟨rfl, Action.noConfusion⟩
  obtain ⟨hwrites, hiff⟩ := bootstrap_failsIfRefused hqueue hboot
  intro d hd
  refine (hwrites d hd).resolve_right fun hfailed => ?_
  obtain ⟨⟨t, a, x, s⟩, hd', hrefused⟩ := hiff.mp ⟨d, hd, hfailed⟩
  have hanswer := hsim _ (mem_own.mp hd').1
  rcases a with a | p | q
  · cases hrefused
  · cases hrefused
  · cases q with
    | bootstrapFinished =>
        obtain rfl : x = .ok () := hanswer rfl
        cases hrefused
    | _ => cases hrefused

theorem Options.Fails.aftermath (hfails : o.Fails bound c e g h R Q) :
    Aftermath bound o c e g h Q := by
  have hboot := Routine.drive_leads_error hfails.fails.2
  obtain ⟨hbefore, hafter⟩ := hfails.unobtrusive
  refine ⟨hboot, hfails.closesUp, ?_, fun d hd => ?_, fun d hd hout => ?_, ?_⟩
  · refine List.filterMap_eq_nil_iff.mpr fun d hd => Event.pushed?_eq_none ?_
    exact (Action.isUnobtrusive_iff.mp (hafter d hd)).2.1
  · exact (Action.isUnobtrusive_iff.mp (hafter d hd)).1
  · by_contra hmain
    rw [(Action.isUnobtrusive_iff.mp (hbefore d hd hmain)).1] at hout
    cases hout
  · have hnothing : ∀ d ∈ g ++ h, d.writes = none := by
      obtain ⟨hsimg, -⟩ := List.forall_mem_append.mp hfails.simulated
      refine List.forall_mem_append.mpr ⟨fun d hd => ?_, fun d hd => ?_⟩
      · by_cases hmain : d.thread = 1
        · exact writes_of_failed hboot hsimg d (mem_own.mpr ⟨hd, hmain⟩)
        · exact Event.writes_of_writesState
            (Action.isUnobtrusive_iff.mp (hbefore d hd hmain)).2.2
      · exact Event.writes_of_writesState (Action.isUnobtrusive_iff.mp (hafter d hd)).2.2
    rw [(hfails.reach.trans hfails.run).written writtenBy_state, Options.system_shared]
    obtain ⟨hlast, -⟩ | ⟨k, d, k', st, hsplit, hwrites, -⟩ := lastWrite_cases Event.writes
      (Options.startShared c).service.state (g ++ h)
    · exact hlast
    · rw [hnothing d (by simp [hsplit])] at hwrites
      cases hwrites

end Fails

/-! ### What the threads bring -/

/-- The threads of a run bring these results with the history `h`. -/
def Options.Brings (bound : Nat) (o : Options) (c : Config) (h : List Event)
    (results : List ThreadResult) : Prop :=
  List.Forall₂ (fun t x => t.rest.Leads (own t.me h) (.done x)) (runThreads bound o c) results

section Brings

variable {bound : Nat} {o : Options} {c : Config} {h : List Event} {Q : System}

/-- Where no worker fails, only the main thread decides whether there are summaries. -/
lemma summaries_of_leads {workers : List Nat} {results : List ThreadResult}
    (hresults : List.Forall₂ (fun t x => t.rest.Leads (own t.me h) (.done x))
      (workers.map (workerThread bound o c) ++ [mainThread bound o c]) results)
    (hok : ∀ w ∈ workers, ∀ x, (Routine.work bound c w o.compileMillis.toNat).Leads
      (own (w + 2) h) (.done x) → ∃ s, x = .ok s) :
    (∀ w ∈ workers, ∃ s, (Routine.work bound c w o.compileMillis.toNat).Leads (own (w + 2) h)
      (.done (.ok s))) ∧
      ∃ x l, (Routine.driveAndClose bound o c).Leads (own 1 h) (.done x) ∧
        summaries results = x.map fun _ => l := by
  induction workers generalizing results with
  | nil =>
      obtain ⟨y, ys, hy, hys, rfl⟩ := List.forall₂_cons_left_iff.mp hresults
      obtain rfl := List.forall₂_nil_left_iff.mp hys
      obtain ⟨x, rfl, hmain⟩ := leads_mainThread hy
      refine ⟨by simp, x, [], hmain, ?_⟩
      cases x <;> rfl
  | cons w workers ih =>
      obtain ⟨y, ys, hy, hys, rfl⟩ := List.forall₂_cons_left_iff.mp hresults
      obtain ⟨x, rfl, hworker⟩ := leads_workerThread hy
      obtain ⟨hokw, hokws⟩ := List.forall_mem_cons.mp hok
      obtain ⟨s, rfl⟩ := hokw x hworker
      obtain ⟨hworkers, z, l, hmain, hsummaries⟩ := ih hys hokws
      refine ⟨List.forall_mem_cons.mpr ⟨⟨s, hworker⟩, hworkers⟩, z, s :: l, hmain, ?_⟩
      rw [summaries, hsummaries]
      cases z <;> rfl

/-- Workers never fail. -/
lemma worker_succeeds {w : Nat} (hw : w < o.workers.toNat)
    (hsim : ∀ d ∈ h, d.action.Simulated d.answer) {x : Except ServiceError Summary}
    (hx : (Routine.work bound c w o.compileMillis.toNat).Leads (own (w + 2) h) (.done x)) :
    ∃ s, x = .ok s := by
  have hreturns : (o.system bound c).Returns (w + 2)
      (Routine.work bound c w o.compileMillis.toNat) h x :=
    ⟨⟨_, Options.system_worker (Options.mem_crew.mpr hw)⟩, hx⟩
  obtain ⟨s, hs, -⟩ := balanced_of_returns (fun d hd => hsim d (mem_own.mp hd).1) hreturns
  exact ⟨s, hs⟩

/-- So all workers bring summaries, and the main thread decides. -/
lemma Options.Brings.summaries {results : List ThreadResult} (hresults : o.Brings bound c h results)
    (hsim : ∀ d ∈ h, d.action.Simulated d.answer) :
    (∀ t ∈ o.crew, ∃ s, (o.system bound c).Returns t
      (Routine.work bound c (t - 2) o.compileMillis.toNat) h (.ok s)) ∧
      ∃ x l, (Routine.driveAndClose bound o c).Leads (own 1 h) (.done x) ∧
        ExternalCompiler.summaries results = x.map fun _ => l := by
  obtain ⟨hworkers, hmain⟩ := summaries_of_leads hresults
    fun w hw x hx => worker_succeeds (List.mem_range.mp hw) hsim hx
  refine ⟨fun t ht => ?_, hmain⟩
  obtain ⟨w, rfl⟩ : ∃ w, t = w + 2 := Nat.exists_eq_add_of_le' (Finset.mem_Ico.mp ht).1
  obtain ⟨s, hs⟩ := hworkers w (List.mem_range.mpr (Options.mem_crew.mp ht))
  exact ⟨s, ⟨_, Options.system_worker ht⟩, hs⟩

end Brings

/-! ### Simulated runs -/

section Simulate

variable {bound : Nat} {o : Options} {c : Config} {e : ServiceError} {g h : List Event}
  {R Q : System}

/-- A simulated run ends well up to its report. It writes the report then, leaves the sink `k`, and
returns `x`. -/
def Options.Concludes (o : Options) (c : Config) (output k : Sink) (x : Except RunError Unit) :
    Prop :=
  ∃ h Q l, ∃ k₀ : Sink, ∃ y, o.Ends o.turnBound c h Q l ∧ output.Answers h k₀ ∧
    k₀.writeAll (reportLines (reported h Q) l) = (k, y) ∧ x = y.mapError .output

/-- The main thread of a simulated run fails, and all threads come to their ends. The sink `k` is
what the bootstrap left, and `x` is its failure. -/
def Options.BreaksDown (o : Options) (c : Config) (output k : Sink) (x : Except RunError Unit) :
    Prop :=
  ∃ e g h R Q, o.Fails o.turnBound c e g h R Q ∧
    (∃ results, o.Brings o.turnBound c (g ++ h) results) ∧ output.Answers g k ∧
    x = .error (.service e)

/-- A run whose main thread brings an error is one in which it fails at some point. -/
lemma fails_of_leads (hrun : System.Run (o.system bound c) h Q)
    (hsim : ∀ d ∈ h, d.action.Simulated d.answer)
    (hmain : (Routine.driveAndClose bound o c).Leads (own 1 h) (.done (.error e))) :
    ∃ g h' R, h = g ++ h' ∧ o.Fails bound c e g h' R Q := by
  obtain ⟨es₁, es₂, hown, hdrive, hclose⟩ := Routine.driveAndClose_leads_done hmain
  obtain ⟨t, _, s, es₃, rfl, -⟩ := Routine.leads_act_done.mp hclose
  obtain ⟨g, h', rfl, rfl, -⟩ := exists_of_own_eq_append_cons hown
  obtain ⟨R, hreach, hrest⟩ := hrun.split
  exact ⟨g, _, R, rfl, hreach, ⟨⟨_, system_drive bound o c⟩, hdrive⟩, hrest, hsim⟩

/-- The start of the service writes nothing. -/
lemma started_output (o : Options) (c : Config) (output : Sink) :
    (Options.started c (o.startWorld output)).output = output := by
  rw [Options.started, Thread.proceed, Routine.startUp]
  split_ifs <;> rfl

/-- What is written at the end is the report. -/
lemma exists_of_finish {w : World} {l : List Summary} {x : Except RunError Unit} {k : Sink}
    (hfinish : Options.finish w l = (x, k)) :
    ∃ y, w.output.writeAll (reportLines (Access.perform 1 w.shared (.storeState .shutDown)).2 l) =
      (k, y) ∧ x = y.mapError .output := by
  simp only [Options.finish, printReport_eq_writeAll] at hfinish
  generalize Sink.writeAll _ _ = written at hfinish ⊢
  obtain ⟨output, y⟩ := written
  obtain ⟨rfl, rfl⟩ := Prod.mk.inj hfinish
  exact ⟨y, rfl, rfl⟩

/-- A simulated run ends well up to its report, or its main thread fails in it. -/
lemma concludes_or_breaksDown {output k : Sink} {x : Except RunError Unit}
    (hrun : o.simulateWith c output = some (x, k)) :
    o.Concludes c output k x ∨ o.BreaksDown c output k x := by
  simp only [Options.simulateWith, Option.bind_eq_bind, Option.bind_eq_some_iff] at hrun
  obtain ⟨results, hresults, hrest⟩ := hrun
  obtain ⟨es, Q, hw, hout, hleads⟩ := (shows_started o.turnBound o c output).results
    (nodup_runThreads _ o c) rest_runThreads hresults
  rw [started_output] at hout
  generalize (World.schedule o.turnBound (Options.started c (o.startWorld output))
    (runThreads o.turnBound o c)).2 = w at hw hout hrest
  rw [List.nil_append] at hw
  cases hsummaries : summaries results with
  | error e =>
      -- no worker brings an error, so this one is that of the main thread
      rw [hsummaries] at hrest
      cases hrest
      obtain ⟨-, x, l, hmain, hx⟩ := Options.Brings.summaries hleads hw.simulated
      rw [hsummaries] at hx
      obtain rfl : x = .error e := by
        cases x with
        | error e' => cases hx; rfl
        | ok _ => cases hx
      obtain ⟨g, h, R, rfl, hfails⟩ := fails_of_leads hw.run hw.simulated hmain
      obtain ⟨k, hg, hh⟩ := Sink.answers_append.mp hout
      obtain rfl := hh.of_silent hfails.aftermath.silent
      exact .inr ⟨e, g, h, R, Q, hfails, ⟨results, hleads⟩, hg, rfl⟩
  | ok l =>
      rw [hsummaries] at hrest
      obtain ⟨hworkers, hmain⟩ := leads_of_summaries hleads hsummaries
      have hshared : w.shared = Q.shared.withRuntime (RuntimeCalls.after {} es) := by
        rw [hw.shared, Options.system_shared]
        rfl
      obtain ⟨y, hwrite, hx⟩ := exists_of_finish (Option.some.inj hrest)
      rw [hshared] at hwrite
      exact .inl ⟨es, Q, l, w.output, y, ends_of_leads hw.run hw.simulated hworkers hmain, hout,
        hwrite, hx⟩

/-- After a failure all threads of a run bring this failure, and the queue is closed; if there are
workers, they have settled. -/
lemma Options.Fails.brings (hfails : o.Fails bound c e g h R Q) {results : List ThreadResult}
    (hresults : o.Brings bound c (g ++ h) results) :
    Q.shared.queue.isClosed = true ∧ summaries results = .error e ∧
      (o.workers ≠ 0 → ∃ s, Settled c o.crew s (g ++ h) Q) := by
  have hwhole := hfails.reach.trans hfails.run
  obtain ⟨hworkers, x, l, hmain, hsummaries⟩ := hresults.summaries hfails.simulated
  have hdone : Q.threads 1 = .done () := by
    have hleads := hwhole.leads 1
    rw [Options.system_main] at hleads
    exact hleads.unique (hmain.bind _)
  obtain rfl : x = .error e := by
    rw [own_append] at hmain
    have hlast : (Routine.close.bind fun _ => Routine.done (.error e)).Leads (own 1 h) (.done x) :=
      hmain.of_append (hfails.fails.2.bind _)
    obtain ⟨es₁, es₂, u, -, -, hend⟩ := Routine.leads_bind_done.mp hlast
    exact Routine.done.inj (Routine.leads_done.mp hend).2
  refine ⟨hfails.closesUp.closes (by rw [hdone]; rfl), hsummaries, fun hcrew => ?_⟩
  have hpool := Options.pool_system bound o c
  have : Nonempty Summary := ⟨{}⟩
  choose! s hs using hworkers
  have hfirst : 2 ∈ o.crew := by
    refine Options.mem_crew.mpr (Nat.pos_of_ne_zero fun hzero => hcrew ?_)
    exact UInt64.toNat_inj.mp hzero
  have hempty := (hpool.drained hwhole (hs 2 hfirst)).1
  have hbalanced := balanced_of_crew (fun d hd _ => hfails.simulated d hd) hs
  exact ⟨s, hpool.settled hwhole hempty hbalanced⟩

end Simulate

/-- **A run whose main thread fails winds its workers down.** Whatever the order of the threads,
however many workers there are and however the bootstrap fails: the main thread then closes the
queue, no task is accepted any more, nothing is written but by the bootstrap, and the service is not
shut down. Once the queue is closed, every worker winds up, and a worker that returns has not
failed. When all threads have returned, the error is that of the main thread, and if there are
workers, then the queue is empty and every accepted task was taken by exactly one of them. And a
simulated run whose configuration loads either ends well up to its report, or its main thread fails
so: then it returns this error, and its output is what the bootstrap wrote. -/
theorem failed_run_winds_up (o : Options) :
    (∀ bound c e g h R Q, o.Fails bound c e g h R Q →
      Aftermath bound o c e g h Q ∧
      (∀ h₁ h₂ S, h = h₁ ++ h₂ → System.Run R h₁ S → System.Run S h₂ Q →
        S.shared.queue.isClosed = true → ∀ t ∈ o.crew,
          WindsUp t bound ((own t (g ++ h₁)).countP (·.action.isPop)) S.shared.queue.length h₂ Q) ∧
      (∀ t ∈ o.crew, ∀ x, (o.system bound c).Returns t
        (Routine.work bound c (t - 2) o.compileMillis.toNat) (g ++ h) x → ∃ s, x = .ok s) ∧
      ∀ results, o.Brings bound c (g ++ h) results →
        Q.shared.queue.isClosed = true ∧ summaries results = .error e ∧
          (o.workers ≠ 0 → ∃ s, Settled c o.crew s (g ++ h) Q)) ∧
    ∀ read c output x k, o.compilerConfig read = .ok c →
      o.simulate read output = some (x, k) →
        o.Concludes c output k x ∨ o.BreaksDown c output k x := by
  refine ⟨fun bound c e g h R Q hfails => ?_, fun read c output x k hconfig hrun => ?_⟩
  · have hpool := Options.pool_system bound o c
    refine ⟨hfails.aftermath, ?_, fun t ht x hx => ?_, fun results => hfails.brings⟩
    · rintro h₁ h₂ S rfl hreach hrun hclosed t ht
      refine hpool.windsUp ht (hfails.reach.trans hreach) hrun (fun d hd => ?_) hclosed
      rw [List.append_assoc] at hd
      exact hfails.simulated d (mem_own.mp hd).1
    · obtain ⟨s, hs, -⟩ := balanced_of_returns
        (fun d hd => hfails.simulated d (mem_own.mp hd).1) hx
      exact ⟨s, hs⟩
  · rw [Options.simulate, hconfig] at hrun
    exact concludes_or_breaksDown hrun

/-- A run with one worker, and with a bootstrap that is given up at its first look. -/
def cancelledRun : Options where
  workers := 1
  compileMillis := 60
  showsProgress := true
  bootstrapTimeout := some 0

/-- The bootstrap is cancelled with two tasks in the queue. The run returns this error, and its
worker takes up every accepted task all the same. -/
theorem failed_run_winds_up_cancelled :
    ∃ c g h R Q s k,
      cancelledRun.simulate (fun _ => .error .notFound) {} =
        some (.error (.service (.bootstrapCancelled 100 2)), k) ∧
      cancelledRun.Fails cancelledRun.turnBound c (.bootstrapCancelled 100 2) g h R Q ∧
      Aftermath cancelledRun.turnBound cancelledRun c (.bootstrapCancelled 100 2) g h Q ∧
      Settled c cancelledRun.crew s (g ++ h) Q ∧ ({} : Sink).Answers g k := by
  have houtcome : (cancelledRun.simulate (fun _ => .error .notFound) {}).map (·.1) =
      some (.error (.service (.bootstrapCancelled 100 2))) := by decide +kernel
  obtain ⟨⟨x, k⟩, hrun, rfl⟩ := Option.map_eq_some_iff.mp houtcome
  obtain ⟨hfailed, hsimulated⟩ := failed_run_winds_up cancelledRun
  obtain ⟨h, Q, l, k₀, y, -, -, -, hx⟩ | ⟨e, g, h, R, Q, hfails, ⟨results, hresults⟩, hk, hx⟩ :=
    hsimulated _ _ _ _ k rfl hrun
  · cases y <;> cases hx
  · cases hx
    obtain ⟨haftermath, -, -, hbrings⟩ := hfailed _ _ _ _ _ _ _ hfails
    obtain ⟨s, hsettled⟩ := (hbrings results hresults).2.2 (by decide)
    exact ⟨_, g, h, R, Q, s, k, hrun, hfails, haftermath, hsettled, hk⟩

end ExternalCompiler
