/-
The threads of a simulated run, in any order:

* `Options.crew`, `Options.system`: the workers and the main thread over the state in which they
  begin; `pool_system`: they are a pool;
* `MainLedger.Fits`, `main_fits`: what the main thread keeps track of is true, whatever the workers
  do;
* `module_of_window`: while the window is open, no method of the compiler's own module was
  submitted; `module_of_job`: so the gate never finds it open for such a method.
-/
import Mathlib.Order.Interval.Finset.Nat
import ExternalCompiler.Proofs.Simulation.MainThread
import ExternalCompiler.Proofs.Worker.Pool

namespace ExternalCompiler

/-! ### The threads -/

namespace Options

/-- The threads of the workers of a run. -/
def crew (o : Options) : Finset ThreadId :=
  Finset.Ico 2 (o.workers.toNat + 2)

lemma mem_crew {o : Options} {w : Nat} : w + 2 ∈ o.crew ↔ w < o.workers.toNat := by
  simp [crew]

/-- The threads of a run: the main thread has the number one, and those of the workers follow. Their
loops are unrolled as often as `bound` says. -/
def system (bound : Nat) (o : Options) (c : Config) : System where
  shared := (started c (o.startWorld {})).shared
  threads t :=
    if t = 1 then (Routine.driveAndClose bound o c).bind fun _ => .done ()
    else if t ∈ o.crew then
      (Routine.work bound c (t - 2) o.compileMillis.toNat).bind fun _ => .done ()
    else .done ()

/-- The state in which the threads of a run begin. -/
def startShared (c : Config) : Shared where
  service := { state := if c.selectsExternalCompiler then .initialized else .uninitialized }

/-- Whatever is in the output, the threads of a run begin with the same state. -/
lemma started_shared (c : Config) {w : World} (hw : w.shared = {}) :
    (started c w).shared = startShared c := by
  rw [started, Thread.proceed, Routine.startUp, startShared]
  split_ifs
  · obtain ⟨shared, clock, output, cancelAt⟩ := w
    obtain rfl : shared = {} := hw
    rfl
  · exact hw

section System

variable {bound : Nat} {o : Options} {c : Config} {t : ThreadId}

lemma system_shared (bound : Nat) (o : Options) (c : Config) :
    (o.system bound c).shared = startShared c :=
  started_shared c rfl

lemma system_main :
    (o.system bound c).threads 1 = (Routine.driveAndClose bound o c).bind fun _ => .done () :=
  rfl

lemma system_worker (ht : t ∈ o.crew) :
    (o.system bound c).threads t =
      (Routine.work bound c (t - 2) o.compileMillis.toNat).bind fun _ => .done () := by
  have hne : t ≠ 1 := by
    rintro rfl
    simp [crew] at ht
  exact (if_neg hne).trans (if_pos ht)

lemma system_other (hmain : t ≠ 1) (ht : t ∉ o.crew) :
    (o.system bound c).threads t = .done () :=
  (if_neg hmain).trans (if_neg ht)

/-- All but the main thread do what workers do. -/
lemma only_isOfWorker (hmain : t ≠ 1) :
    ((o.system bound c).threads t).Only (·.isOfWorker (t - 2) = true) := by
  by_cases ht : t ∈ o.crew
  · rw [system_worker ht]
    exact (Routine.only_work (fun _ ha => ha) _ _ _).bind fun _ => trivial
  · rw [system_other hmain ht]
    trivial

/-- The main thread takes no tasks and does not count jobs. -/
lemma only_not_isOfJob :
    ((o.system bound c).threads 1).Only (·.isOfJob = false) := by
  rw [system_main]
  refine (Routine.only_driveAndClose ?_ ?_ (fun _ => Action.not_isOfJob_of_isVisit) _ _ _).bind
    fun _ => trivial
  · intro a ha
    cases ha using Action.isWatch_cases <;> rfl
  · intro a ha
    cases ha using Action.isBracket_cases <;> rfl

/-- The threads of a run are a pool. -/
lemma pool_system (bound : Nat) (o : Options) (c : Config) :
    Pool bound c o.crew (· - 2) (fun _ => o.compileMillis.toNat) (o.system bound c) := by
  have hshared := system_shared bound o c
  have hnobody : 0 ∉ o.crew := by simp [crew]
  refine ⟨by rw [hshared]; rfl, by rw [hshared]; rfl, system_other (by decide) hnobody,
    fun t ht => system_worker ht, fun t ht => ?_, fun t ht => ?_⟩
  · by_cases hmain : t = 1
    · subst hmain
      rw [system_main]
      exact Routine.party_driveAndClose _ _ _
    · rw [system_other hmain ht]
      exact .done
  · by_cases hmain : t = 1
    · subst hmain
      exact only_not_isOfJob
    · rw [system_other hmain ht]
      trivial

end System

end Options

/-! ### What the main thread knows -/

/-- What the main thread keeps track of is true. -/
structure MainLedger.Fits (k : MainLedger) (s : Shared) : Prop where
  flag : s.compileTheWorld = k.flag
  window : s.service.isBootstrapping = k.window
  closed : s.queue.isClosed = k.closed
  emptied : k.emptied = true → s.queue.tasks = []

section Fits

variable {k : MainLedger} {t : ThreadId} {a : Action} {x : a.Answer} {s s' : Shared}

/-- What the main thread does keeps its ledger right. -/
lemma MainLedger.Fits.after (h : k.Fits s) (heff : Effect t s a x s') :
    (mainAccount.after k a x).Fits s' := by
  obtain ⟨hflag, hwindow, hclosed, hemptied⟩ := h
  rcases a with a | p | c
  · obtain ⟨rfl, rfl⟩ := effect_access.mp heff
    cases a with
    | pushTask task => exact ⟨hflag, hwindow, hclosed, nofun⟩
    | popTask =>
        simp only [Access.perform, Queue.pop]
        cases htasks : s.queue.tasks with
        | nil => exact ⟨hflag, hwindow, hclosed, fun _ => htasks⟩
        | cons task rest =>
            refine ⟨hflag, hwindow, hclosed, fun hk => ?_⟩
            have hnone := hemptied hk
            rw [htasks] at hnone
            cases hnone
    | readLength =>
        refine ⟨hflag, hwindow, hclosed, fun hzero => List.length_eq_zero_iff.mp ?_⟩
        exact beq_iff_eq.mp hzero
    | storeFlag | swapFlag => exact ⟨rfl, hwindow, hclosed, hemptied⟩
    | openWindow =>
        simp only [Access.perform]
        split
        next hopen => exact ⟨hflag, hopen, hclosed, hemptied⟩
        next => exact ⟨hflag, rfl, hclosed, hemptied⟩
    | closeWindow => exact ⟨hflag, rfl, hclosed, hemptied⟩
    | setClosed => exact ⟨hflag, hwindow, rfl, hemptied⟩
    | claimStartup =>
        simp only [Access.perform]
        split <;> exact ⟨hflag, hwindow, hclosed, hemptied⟩
    | _ => exact ⟨hflag, hwindow, hclosed, hemptied⟩
  · cases p with
    | takeLock => exact heff.2 ▸ ⟨hflag, hwindow, hclosed, hemptied⟩
    | awaitWork seen millis => exact heff.2.2 ▸ ⟨hflag, hwindow, hclosed, hemptied⟩
    | sleep millis => exact heff ▸ ⟨hflag, hwindow, hclosed, hemptied⟩
  · cases c <;> exact heff ▸ ⟨hflag, hwindow, hclosed, hemptied⟩

/-- The main thread gets the answers that it expects. -/
lemma MainLedger.Fits.expects (h : k.Fits s) (heff : Effect t s a x s') (hsim : a.Simulated x) :
    mainAccount.expects k a x := by
  rcases a with a | p | c
  · obtain ⟨rfl, -⟩ := effect_access.mp heff
    cases a with
    | readFlag | swapFlag => exact h.flag
    | readClosed => exact h.closed
    | openWindow =>
        have hwindow := h.window
        simp only [Access.perform, mainAccount]
        split
        next hopen => rw [← hwindow, hopen]; rfl
        next hopen =>
          rw [Bool.not_eq_true] at hopen
          rw [← hwindow, hopen]; rfl
    | _ => trivial
  · trivial
  · exact hsim

/-- A worker leaves the flag and the window alone. -/
lemma Action.isNeutral_of_isOfWorker {v : Nat} {a : Action} (h : a.isOfWorker v = true) :
    a.isNeutral = true := by
  cases h using isOfWorker_cases with
  | chore a h => cases h using isChore_cases <;> rfl
  | errand a h =>
      cases h using isErrand_cases with
      | locking a h => exact isNeutral_of_isVisit (isVisit_of_isLocking h)
      | _ => rfl
  | _ => rfl

/-- A worker keeps it right, too. -/
lemma MainLedger.Fits.of_isOfWorker {v : Nat} (h : k.Fits s) (heff : Effect t s a x s')
    (ha : a.isOfWorker v = true) : k.Fits s' := by
  have hneutral := Action.isNeutral_of_isOfWorker ha
  have hflag : s'.compileTheWorld = s.compileTheWorld :=
    keeps_flag (Action.writesFlag_of_isNeutral hneutral) _ _ _ _ heff
  have hwindow : s'.service.isBootstrapping = s.service.isBootstrapping :=
    keeps_window (Action.writesWindow_of_isNeutral hneutral) _ _ _ _ heff
  have hclosed : s'.queue.isClosed = s.queue.isClosed := by
    refine keeps_of_perform (v := (·.queue.isClosed)) (fun _ _ => rfl) ?_ _ _ _ _ heff
    rintro b rfl me s
    cases b with
    | setClosed => cases ha
    | popTask =>
        simp only [Access.perform, Queue.pop]
        split <;> rfl
    | claimStartup | openWindow => simp only [Access.perform]; split <;> rfl
    | _ => rfl
  refine ⟨hflag.trans h.flag, hwindow.trans h.window, hclosed.trans h.closed, fun hk => ?_⟩
  have hshorter := length_le_of_not_push heff (Action.isPush_of_isOfWorker ha)
  rw [Queue.length, Queue.length, h.emptied hk, List.length_nil] at hshorter
  exact List.length_eq_zero_iff.mp (Nat.le_zero.mp hshorter)

end Fits

/-- What the main thread keeps track of after the history `h`. -/
def mainLedger (h : List Event) : MainLedger :=
  mainAccount.run {} (own 1 h)

section Run

variable {bound : Nat} {o : Options} {c : Config} {h : List Event} {Q : System}

/-- The events of the other threads are what workers do. -/
lemma isOfWorker_of_run (hrun : System.Run (o.system bound c) h Q) :
    ∀ e ∈ h, e.thread ≠ 1 → e.action.isOfWorker (e.thread - 2) = true := by
  intro e he hne
  exact ((Options.only_isOfWorker hne).leads (hrun.leads e.thread)).2 e (mem_own.mpr ⟨he, rfl⟩)

/-- In every run what the main thread keeps track of is true. -/
lemma main_fits (hrun : System.Run (o.system bound c) h Q)
    (hsim : ∀ e ∈ h, e.action.Simulated e.answer) :
    mainAccount.Expected {} (own 1 h) ∧ (mainLedger h).Fits Q.shared := by
  have hshared := Options.system_shared bound o c
  refine hrun.expected (A := mainAccount) MainLedger.Fits ?_ ?_ ?_ fun _ _ _ hk =>
    ⟨hk.flag, hk.window, hk.closed, hk.emptied⟩
  · rw [hshared]
    exact ⟨rfl, rfl, rfl, nofun⟩
  · rintro e he hmain k s hk heff
    exact ⟨hk.expects heff (hsim e he), hk.after heff⟩
  · intro e he hne k s hk heff
    exact hk.of_isOfWorker heff (isOfWorker_of_run hrun e he hne)

lemma main_meets :
    ((o.system bound c).threads 1).Meets mainAccount {} fun _ _ => True := by
  rw [Options.system_main]
  exact (Routine.main_driveAndClose bound o c).bind fun _ _ _ => trivial

/-! ### The window -/

lemma pushed_after (k : MainLedger) (e : Event) :
    (mainAccount.after k e.action e.answer).pushed = k.pushed ++ e.pushed?.toList := by
  obtain ⟨t, a, x, s⟩ := e
  rcases a with a | p | c
  · cases a <;> first | rfl | exact (List.append_nil _).symm
  · exact (List.append_nil _).symm
  · cases c <;> exact (List.append_nil _).symm

/-- The tasks in the ledger of the main thread are those that came into the queue. -/
lemma pushed_main (hrun : System.Run (o.system bound c) h Q) :
    (mainLedger h).pushed = pushed h := by
  have hothers := isOfWorker_of_run hrun
  clear hrun
  suffices hall : ∀ k : MainLedger, (mainAccount.run k (own 1 h)).pushed = k.pushed ++ pushed h from
    hall {}
  induction h with
  | nil => exact fun k => (List.append_nil _).symm
  | cons e h ih =>
      obtain ⟨he, hh⟩ := List.forall_mem_cons.mp hothers
      intro k
      rw [pushed_cons]
      by_cases hmain : e.thread = 1
      · rw [own_cons_self hmain, ← List.append_assoc, ← pushed_after]
        exact ih hh _
      · have hnone := Event.pushed?_eq_none (Action.isPush_of_isOfWorker (he hmain))
        rw [own_cons_other hmain, hnone]
        exact ih hh k

/-- While the window is open, no method of the compiler's own module was submitted. -/
lemma module_of_window (hrun : System.Run (o.system bound c) h Q)
    (hsim : ∀ e ∈ h, e.action.Simulated e.answer)
    (hwindow : Q.shared.service.isBootstrapping = true) :
    ∀ t ∈ pushed h, t.method.module ≠ compilerModule := by
  obtain ⟨hexpected, hfits⟩ := main_fits hrun hsim
  rw [← pushed_main hrun]
  refine main_meets.kept
    (I := fun k => k.window = true → ∀ t ∈ k.pushed, t.method.module ≠ compilerModule)
    (hrun.leads 1) hexpected nofun ?_ (hfits.window.symm.trans hwindow)
  intro k a x hasks hk
  rcases a with a | p | c
  · cases a with
    | pushTask t =>
        intro hopen
        exact List.forall_mem_append.mpr ⟨hk hopen, by simpa using hasks hopen⟩
    | openWindow => exact fun _ => hasks
    | closeWindow => exact nofun
    | _ => exact hk
  · exact hk
  · cases c <;> exact hk

/-- The action found the window open. -/
def Action.seesWindow : (a : Action) → a.Answer → Bool
  | .access .readBootstrapping, (window : Bool) => window
  | _, _ => false

/-- A job has an open window only if its task is of a kind that all tasks are then. -/
lemma windows_after {q : CompileTask → Prop} {n : Nat} {l : Ledger} {a : Action} {x : a.Answer}
    (hl : ∀ j ∈ l.jobs, j.window = true → q j.task)
    (hlook : a.seesWindow x = true → ∀ j ∈ l.jobs, q j.task) :
    ∀ j ∈ ((jobAccount n).after l a x).jobs, j.window = true → q j.task := by
  rcases a with a | p | c
  · cases a with
    | popTask =>
        cases x with
        | none => exact hl
        | some t => exact List.forall_mem_cons.mpr ⟨nofun, hl⟩
    | readBootstrapping =>
        change ∀ j ∈ l.jobs.modifyHead fun j => { j with window := x }, j.window = true → q j.task
        cases hjobs : l.jobs with
        | nil => simp
        | cons j rest =>
            rw [hjobs] at hl hlook
            refine List.forall_mem_cons.mpr ⟨fun hopen => ?_, (List.forall_mem_cons.mp hl).2⟩
            exact hlook hopen j List.mem_cons_self
    | addCounter k m =>
        change ∀ j ∈ (l.add k m).jobs, j.window = true → q j.task
        rw [Ledger.add]
        split_ifs
        · cases hjobs : l.jobs with
          | nil => simp
          | cons j rest =>
              rw [hjobs] at hl
              exact List.forall_mem_cons.mpr (List.forall_mem_cons.mp hl)
        · exact hl
        · exact hl
    | _ => exact hl
  · exact hl
  · exact hl

/-- The gate never finds the window open for a method of the compiler's own module. -/
lemma module_of_job (hrun : System.Run (o.system bound c) h Q)
    (hsim : ∀ e ∈ h, e.action.Simulated e.answer) (t : ThreadId) :
    ∀ j ∈ (ledger (own t h)).jobs, j.window = true → j.task.method.module ≠ compilerModule := by
  refine hrun.invariant (I := fun h _ => (∀ e ∈ h, e.action.Simulated e.answer) →
    ∀ j ∈ (ledger (own t h)).jobs, j.window = true → j.task.method.module ≠ compilerModule)
    ?_ ?_ (fun _ _ _ _ ih _ => ih) hsim
  · simp [ledger, Conduct.run]
  · intro g R e R' hR ih hstep hsim'
    obtain ⟨hsimg, -⟩ := List.forall_mem_append.mp hsim'
    by_cases he : e.thread = t
    · have hledger : ledger (own t (g ++ [e])) =
          (jobAccount 0).after (ledger (own t g)) e.action e.answer := by
        rw [own_append, own_cons_self he, own_nil, ledger, Conduct.run_append]
        rfl
      rw [hledger]
      refine windows_after (q := fun task => task.method.module ≠ compilerModule) (ih hsimg)
        fun hsees j hj => ?_
      have hwindow : R.shared.service.isBootstrapping = true := by
        have heff := hstep.effect
        obtain ⟨u, a, x, s⟩ := e
        rcases a with a | p | c
        · cases a <;> first | cases hsees; done | skip
          exact (effect_access.mp heff).1.symm.trans hsees
        · cases hsees
        · cases hsees
      -- a task with which the worker is busy left the queue, so it came into it
      refine module_of_window hR hsimg hwindow j.task ?_
      have htaken : j.task ∈ popped (own t g) := by
        rw [← tasks_ledger, List.mem_reverse]
        exact List.mem_map_of_mem hj
      have hpopped : j.task ∈ popped g :=
        (List.filter_sublist.filterMap Event.popped?).subset htaken
      have hqueue := hR.conservation
      rw [(Options.pool_system bound o c).queue] at hqueue
      have hpushed : pushed g = popped g ++ R.shared.queue.tasks := hqueue
      rw [hpushed]
      exact List.mem_append_left _ hpopped
    · rw [own_append, own_cons_other he, own_nil, List.append_nil]
      exact ih hsimg

end Run

end ExternalCompiler
