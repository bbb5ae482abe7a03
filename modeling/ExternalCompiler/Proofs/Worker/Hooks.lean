/-
The lifecycle hooks, their worker and the queue lock:

* `IdleAction.onWorker`: what the action of a hook changes about its worker; `seen_onEmptyQueue`,
  `seen_stopping`: a hook changes that, or nothing after a failure;
* `Operation`, `Client`: the programs made of what threads may do with the queue;
* `hooks_keep_lock`: in every run the external runtime is called without the lock, and a hook
  leaves the lock and its worker as its result says.
-/
import ExternalCompiler.Proofs.Worker.Locking

namespace ExternalCompiler

/-! ### The hooks and their worker -/

/-- What the action of an idle worker changes about the worker. -/
def IdleAction.onWorker : IdleAction → Worker → Worker
  | .none, v => v
  | .detached, v => { v with isAttached := false }
  | .repacked, v => { v with repacks := v.repacks + 1 }

/-- What the hook for a worker that stops does: nothing if the compiler is not hosted. -/
def IdleAction.atStop (c : Config) : IdleAction :=
  if c.isHosted then .detached else .none

/-- A detached worker stays as it is when it is detached. -/
lemma IdleAction.onWorker_detached {v : Worker} (h : v.isAttached = false) :
    IdleAction.detached.onWorker v = v := by
  obtain ⟨id, attached, repacks⟩ := v
  obtain rfl : attached = false := h
  rfl

/-- What a hook changes about its worker: what its action says after a success, and nothing after a
failure. -/
def IdleAction.onResult (x : Except ServiceError IdleAction) (v : Worker) : Worker :=
  match x with
  | .ok action => action.onWorker v
  | .error _ => v

namespace Routine

section Worker

variable {α : Type} {w : Nat} {b v : Worker} {es : List Event}

/-- What is no write to a worker leaves it as it is. -/
lemma seen_worker_of_only {r : Routine α} {x : α} (hr : r.Only (·.writesWorker w = false))
    (h : r.Leads es (done x)) (hs : Seen (·.workers w) b es v) : v = b :=
  (hs.of_keeps fun _ he => keeps_worker ((hr.leads h).2 _ he)).1

lemma writesWorker_of_isLookout (a : Action) (h : a.isLookout = true) :
    a.writesWorker w = false := by
  cases h using Action.isLookout_cases <;> rfl

lemma writesWorker_of_isLocking (a : Action) (h : a.isLocking = true) :
    a.writesWorker w = false :=
  writesWorker_of_isLookout a (Action.isLookout_of_isLocking h)

/-- What is done leaves the worker as it is. -/
lemma seen_done {x y : α} (h : (done y).Leads es (done x)) (hs : Seen (·.workers w) b es v) :
    x = y ∧ v = b := by
  obtain ⟨rfl, hx⟩ := leads_done.mp h
  cases hx
  exact ⟨rfl, seen_nil.mp hs⟩

/-- Taking the lock again leaves the worker as it is. -/
lemma seen_relock {x y : α} (h : (lock.bind fun _ => done y).Leads es (done x))
    (hs : Seen (·.workers w) b es v) : x = y ∧ v = b := by
  obtain ⟨es₁, es₂, u, rfl, hlock, h⟩ := leads_bind_done.mp h
  obtain ⟨v₁, hs₁, hs₂⟩ := seen_append.mp hs
  obtain ⟨rfl, rfl⟩ := seen_done h hs₂
  exact ⟨rfl, seen_worker_of_only (only_lock writesWorker_of_isLocking) hlock hs₁⟩

/-- A call of the external runtime that succeeded is noted at the worker. -/
lemma seen_success {a : Access} {f : Worker → Worker} {x : Except ServiceError Unit}
    (h : ((access a).bind fun _ => done (.ok ())).Leads es (done x))
    (hs : Seen (·.workers w) b es v)
    (hwrite : ∀ me s, (a.perform me s).2.workers w = f (s.workers w)) :
    v = if x.isOk then f b else b := by
  obtain ⟨t, answer, s, es', rfl, h'⟩ := leads_access_done.mp h
  obtain ⟨hb, s', heff, hs'⟩ := seen_cons.mp hs
  obtain ⟨rfl, hv⟩ := seen_done h' hs'
  rw [hv, (effect_access.mp heff).2, hwrite, hb]
  rfl

/-- A detach that succeeds clears the attachment and nothing else. -/
lemma seen_detach {reason : String} {x : Except ServiceError Unit}
    (h : (detach w reason).Leads es (done x)) (hs : Seen (·.workers w) b es v) :
    v = if x.isOk then IdleAction.detached.onWorker b else b := by
  obtain ⟨t, y, s, es', rfl, h'⟩ := leads_call_done.mp h
  obtain ⟨-, hs'⟩ := hs.tail_of_keeps (keeps_worker rfl)
  cases y with
  | error e =>
      obtain ⟨rfl, rfl⟩ := seen_done h' hs'
      rfl
  | ok _ => exact seen_success h' hs' fun _ _ => if_pos rfl

/-- A repack that succeeds counts one repack and does nothing else. -/
lemma seen_repack {x : Except ServiceError Unit} (h : (repack w).Leads es (done x))
    (hs : Seen (·.workers w) b es v) :
    v = if x.isOk then IdleAction.repacked.onWorker b else b := by
  obtain ⟨t, y, s, es', rfl, h'⟩ := leads_call_done.mp h
  obtain ⟨-, hs'⟩ := hs.tail_of_keeps (keeps_worker rfl)
  cases y with
  | error e =>
      obtain ⟨rfl, rfl⟩ := seen_done h' hs'
      rfl
  | ok _ => exact seen_success h' hs' fun _ _ => if_pos rfl

lemma seen_afterWait {outcome : WaitOutcome} {x : Except ServiceError IdleAction}
    (h : (afterWait w outcome).Leads es (done x)) (hs : Seen (·.workers w) b es v) :
    v = IdleAction.onResult x b := by
  cases outcome with
  | timedOut =>
      obtain ⟨es₁, es₂, y, rfl, h₁, h₂⟩ := leads_bind_done.mp h
      obtain ⟨v₁, hs₁, hs₂⟩ := seen_append.mp hs
      have hy := seen_detach h₁ hs₁
      cases y <;>
        · obtain ⟨rfl, rfl⟩ := seen_done h₂ hs₂
          exact hy
  | notified =>
      obtain ⟨es₁, es₂, y, rfl, h₁, h₂⟩ := leads_bind_done.mp h
      obtain ⟨v₁, hs₁, hs₂⟩ := seen_append.mp hs
      have hy := seen_repack h₁ hs₁
      cases y <;>
        · obtain ⟨rfl, rfl⟩ := seen_done h₂ hs₂
          exact hy

lemma seen_idleOut {delay : Nat} {x : Except ServiceError IdleAction}
    (h : (idleOut w delay).Leads es (done x)) (hs : Seen (·.workers w) b es v) :
    v = IdleAction.onResult x b := by
  obtain ⟨es₁, es', outcome, rfl, hwait, h⟩ := leads_bind_done.mp h
  obtain ⟨es₂, es', u, rfl, hunlock, h⟩ := leads_bind_done.mp h
  obtain ⟨es₃, es₄, y, rfl, hafter, h⟩ := leads_bind_done.mp h
  obtain ⟨v₁, hs₁, hs⟩ := seen_append.mp hs
  obtain ⟨v₂, hs₂, hs⟩ := seen_append.mp hs
  obtain ⟨v₃, hs₃, hs₄⟩ := seen_append.mp hs
  obtain rfl := seen_worker_of_only (only_waitForWork writesWorker_of_isLookout delay) hwait hs₁
  obtain rfl := seen_worker_of_only (only_unlock writesWorker_of_isLocking) hunlock hs₂
  obtain rfl := seen_afterWait hafter hs₃
  cases y with
  | error e =>
      obtain ⟨rfl, rfl⟩ := seen_done h hs₄
      rfl
  | ok action =>
      obtain ⟨rfl, rfl⟩ := seen_relock h hs₄
      rfl

lemma seen_none {x : Except ServiceError IdleAction}
    (h : (done (.ok .none) : Routine (Except ServiceError IdleAction)).Leads es (done x))
    (hs : Seen (·.workers w) b es v) : v = IdleAction.onResult x b := by
  obtain ⟨rfl, rfl⟩ := seen_done h hs
  rfl

/-- The hook for an empty queue changes its worker as its result says. -/
lemma seen_onEmptyQueue {c : Config} {x : Except ServiceError IdleAction}
    (h : (onEmptyQueue c w).Leads es (done x)) (hs : Seen (·.workers w) b es v) :
    v = IdleAction.onResult x b := by
  rw [onEmptyQueue] at h
  split at h
  · obtain ⟨t, attached, s, es', rfl, h'⟩ := leads_access_done.mp h
    obtain ⟨-, hs'⟩ := hs.tail_of_keeps (keeps_worker rfl)
    cases attached with
    | false => exact seen_none h' hs'
    | true =>
        rw [if_pos rfl] at h'
        split at h'
        · exact seen_none h' hs'
        · obtain ⟨t', uptime, s', es'', rfl, h''⟩ := leads_call_done.mp h'
          obtain ⟨-, hs''⟩ := hs'.tail_of_keeps (keeps_worker rfl)
          split at h''
          · exact seen_none h'' hs''
          · exact seen_idleOut h'' hs''
  · exact seen_none h hs

/-- The hook for a worker that stops leaves the worker of a hosted compiler detached; after a
failure the worker is as it was. -/
lemma seen_stopping {c : Config} {x : Except ServiceError Unit}
    (h : (stopping c w).Leads es (done x)) (hs : Seen (·.workers w) b es v) :
    v = if x.isOk then (IdleAction.atStop c).onWorker b else b := by
  rw [stopping] at h
  by_cases hhosted : c.isHosted = true
  · rw [if_pos hhosted] at h
    rw [IdleAction.atStop, if_pos hhosted]
    obtain ⟨t, attached, s, es', rfl, h'⟩ := leads_access_done.mp h
    obtain ⟨rfl, s', heff, -⟩ := seen_cons.mp hs
    obtain ⟨-, hs'⟩ := hs.tail_of_keeps (keeps_worker rfl)
    have hattached := (effect_access.mp heff).1
    cases attached with
    | false =>
        obtain ⟨rfl, hv⟩ := seen_done h' hs'
        rw [hv]
        exact (IdleAction.onWorker_detached hattached.symm).symm
    | true =>
        obtain ⟨es₁, es', u, rfl, hunlock, h⟩ := leads_bind_done.mp h'
        obtain ⟨es₂, es₃, y, rfl, hdetach, h⟩ := leads_bind_done.mp h
        obtain ⟨v₁, hs₁, hs'⟩ := seen_append.mp hs'
        obtain ⟨v₂, hs₂, hs₃⟩ := seen_append.mp hs'
        obtain rfl := seen_worker_of_only (only_unlock writesWorker_of_isLocking) hunlock hs₁
        obtain rfl := seen_detach hdetach hs₂
        cases y with
        | error e =>
            obtain ⟨rfl, rfl⟩ := seen_done h hs₃
            rfl
        | ok _ =>
            obtain ⟨rfl, rfl⟩ := seen_relock h hs₃
            rfl
  · rw [if_neg hhosted] at h
    rw [IdleAction.atStop, if_neg hhosted]
    obtain ⟨rfl, rfl⟩ := seen_done h hs
    rfl

end Worker

end Routine

/-! ### Programs -/

/-- What a thread may do with the queue: `Operation held r keeps` says that it may do `r` if it has
the lock (`held` is true) or if it has not, and that it has the lock afterwards if `keeps` says so
of the result. -/
inductive Operation : {α : Type} → Bool → Routine α → (α → Bool) → Prop
  | lock : Operation false Routine.lock fun _ => true
  | unlock : Operation true Routine.unlock fun _ => false
  | submit (t : CompileTask) : Operation false (Routine.submit t) fun _ => false
  | size (tier : Tier) : Operation false (Routine.size tier) fun _ => false
  | length : Operation false Routine.length fun _ => false
  | close : Operation false Routine.close fun _ => false
  | visit {a : Access} (ha : (Action.access a).role = .visit) :
      Operation true (Routine.access a) fun _ => true
  | wait (millis : Nat) : Operation true (Routine.waitForWork millis) fun _ => true
  | onEmptyQueue (c : Config) (w : Nat) : Operation true (Routine.onEmptyQueue c w) (·.isOk)
  | stopping (c : Config) (w : Nat) : Operation true (Routine.stopping c w) (·.isOk)
  | work (rounds : Nat) (c : Config) (w compileMillis : Nat) :
      Operation false (Routine.work rounds c w compileMillis) fun _ => false

/-- The programs of threads that have the lock or have it not: any number of operations, one after
the other, and between them anything that has nothing to do with the lock. -/
inductive Client : Bool → Routine Unit → Prop
  | done {held : Bool} : Client held (.done ())
  | more {held : Bool} : Client held .more
  | aloof {held : Bool} {a : Action} {next : a.Answer → Routine Unit} (ha : a.role = .aloof)
      (hnext : ∀ x, Client held (next x)) : Client held (.act a next)
  | operate {α : Type} {held : Bool} {r : Routine α} {keeps : α → Bool} {k : α → Routine Unit}
      (hr : Operation held r keeps) (hk : ∀ x, Client (keeps x) (k x)) : Client held (r.bind k)

/-- What a thread has of the lock that has it or has it not. -/
def Hold.serves (w : Hold) (held : Bool) : Prop :=
  if held then w = .marked else w.isHeld = false

lemma serves_of_handedBack {α : Type} {x : Except ServiceError α} {w : Hold}
    (h : Routine.handedBack x w) : w.serves x.isOk := by
  cases x with
  | error e => exact h ▸ rfl
  | ok a => exact h

lemma Operation.obeys {α : Type} {held : Bool} {r : Routine α} {keeps : α → Bool} {w : Hold}
    (h : Operation held r keeps) (hw : w.serves held) :
    r.Obeys w fun x w' => w'.serves (keeps x) := by
  cases h with
  | lock => exact Routine.obeys_lock hw
  | unlock =>
      obtain rfl : w = .marked := hw
      exact Routine.obeys_unlock.mono fun _ _ hw' => hw' ▸ rfl
  | submit t => exact Routine.obeys_submit hw t
  | size tier => exact Routine.obeys_size hw tier
  | length => exact Routine.obeys_length hw
  | close => exact Routine.obeys_close hw
  | visit ha =>
      obtain rfl : w = .marked := hw
      exact Routine.obeys_visit ha
  | wait millis =>
      obtain rfl : w = .marked := hw
      exact Routine.obeys_waitForWork millis
  | onEmptyQueue c v =>
      obtain rfl : w = .marked := hw
      exact (Routine.obeys_onEmptyQueue c v).mono fun _ _ => serves_of_handedBack
  | stopping c v =>
      obtain rfl : w = .marked := hw
      exact (Routine.obeys_stopping c v).mono fun _ _ => serves_of_handedBack
  | work rounds c v compileMillis => exact Routine.obeys_work hw rounds c v compileMillis

lemma Client.obeys {held : Bool} {r : Routine Unit} {w : Hold} (h : Client held r)
    (hw : w.serves held) : r.Obeys w fun _ _ => True := by
  induction h generalizing w with
  | done | more => trivial
  | @aloof held a next ha _ ih =>
      cases held with
      | true =>
          obtain rfl : w = .marked := hw
          exact ⟨.marked, by rw [ha]; rfl, fun x => ih x rfl⟩
      | false =>
          refine ⟨.out, ?_, fun x => ih x rfl⟩
          rw [ha]
          cases w <;> first | rfl | cases hw
  | operate hr _ ih => exact (hr.obeys hw).bind fun x w' hw' => ih x hw'

/-! ### Every run -/

section Runs

variable {P Q R : System} {h : List Event} {t : ThreadId}

/-- At the start nobody has the lock. -/
lemma guarded_of_clients (hlock : P.shared.lock = {}) (hnobody : P.threads 0 = .done ())
    (hclients : ∀ t, Client false (P.threads t)) : Guarded (fun _ => .out) P where
  obeys t := (hclients t).obeys rfl
  fits t := by
    rw [hlock]
    exact ⟨nofun, nofun, fun ht => by simp [ht.symm]⟩
  nobody := ⟨hnobody, rfl⟩

/-- A routine that hands the lock back or leaves it free does so in a run. -/
lemma Guarded.handedBack {α : Type} {w : ThreadId → Hold} {r : Routine (Except ServiceError α)}
    {x : Except ServiceError α} (hg : Guarded w R) (hheld : R.shared.lock.heldBy t)
    (hr : r.Obeys .marked Routine.handedBack) (hrun : System.Run R h Q)
    (hreturn : R.Returns t r h x) :
    if x.isOk then Q.shared.lock.heldBy t else Q.shared.lock.freeOf t := by
  have hQ := hg.run hrun
  have hmarked := hg.marked_iff.mpr hheld
  have hback : Routine.handedBack x ((w t).run (own t h)) := hmarked ▸ hr.leads hreturn.2
  cases x with
  | ok a => exact hQ.marked_iff.mp hback
  | error e =>
      have hout : (w t).run (own t h) = .out := hback
      refine hQ.freeOf ?_ ?_ ?_
      · rintro rfl
        rw [hg.nobody.2] at hmarked
        cases hmarked
      · rw [hout]
        rfl
      · rw [hout]
        nofun

/-- **The hooks keep the discipline of the lock.** Threads share a queue and run any operations on
it, and each worker is left alone by the others while a hook works on it. The external runtime is
only called by a thread that does not hold the lock. A hook that succeeds hands the lock back and
has changed its worker as its action says; a hook that fails leaves the lock free and its worker as
it was. -/
theorem hooks_keep_lock (hlock : P.shared.lock = {}) (hnobody : P.threads 0 = .done ())
    (hclients : ∀ t, Client false (P.threads t)) :
    (∀ h Q, System.Run P h Q → ∀ e ∈ h, e.action.role = .outward →
      e.before.lock.freeOf e.thread) ∧
      ∀ g R h Q t c w, System.Run P g R → System.Run R h Q → R.shared.lock.heldBy t →
        (∀ e ∈ h, e.thread ≠ t → e.action.writesWorker w = false) →
          (∀ action, R.Returns t (Routine.onEmptyQueue c w) h (.ok action) →
            Q.shared.lock.heldBy t ∧
              Q.shared.workers w = action.onWorker (R.shared.workers w)) ∧
          (∀ error, R.Returns t (Routine.onEmptyQueue c w) h (.error error) →
            Q.shared.lock.freeOf t ∧ Q.shared.workers w = R.shared.workers w) ∧
          (R.Returns t (Routine.stopping c w) h (.ok ()) →
            Q.shared.lock.heldBy t ∧
              Q.shared.workers w = (IdleAction.atStop c).onWorker (R.shared.workers w)) ∧
          ∀ error, R.Returns t (Routine.stopping c w) h (.error error) →
            Q.shared.lock.freeOf t ∧ Q.shared.workers w = R.shared.workers w := by
  have hstart := guarded_of_clients hlock hnobody hclients
  refine ⟨fun h Q hrun e he hrole => ?_, fun g R h Q t c w hg hrun hheld halone => ?_⟩
  · obtain ⟨h₁, h₂, rfl⟩ := List.append_of_mem he
    obtain ⟨R, R', hR, hstep, -⟩ := hrun.at_event
    rw [hstep.before]
    exact (hstart.run hR).free_of_outward hstep hrole
  · have hguarded := hstart.run hg
    have hseen := hrun.seen (v := (·.workers w)) (fun e he ht => keeps_worker (halone e he ht))
      fun s holder => rfl
    have hidle {x} (hreturn : R.Returns t (Routine.onEmptyQueue c w) h x) :=
      hguarded.handedBack hheld (Routine.obeys_onEmptyQueue c w) hrun hreturn
    have hstop {x} (hreturn : R.Returns t (Routine.stopping c w) h x) :=
      hguarded.handedBack hheld (Routine.obeys_stopping c w) hrun hreturn
    refine ⟨fun action hreturn => ?_, fun error hreturn => ?_, fun hreturn => ?_,
      fun error hreturn => ?_⟩
    · exact ⟨hidle hreturn, Routine.seen_onEmptyQueue hreturn.2 hseen⟩
    · exact ⟨hidle hreturn, Routine.seen_onEmptyQueue hreturn.2 hseen⟩
    · exact ⟨hstop hreturn, Routine.seen_stopping hreturn.2 hseen⟩
    · exact ⟨hstop hreturn, Routine.seen_stopping hreturn.2 hseen⟩

end Runs

/-- A hosted compiler whose workers may be detached from the start. -/
def hostedConfig : Config where
  nativeLibrary := true
  startupGraceMillis := 0

/-- A thread that takes the lock and finds the queue empty. -/
def idleThread : System where
  shared := {}
  threads
    | 1 => Routine.lock.bind fun _ =>
        (Routine.onEmptyQueue hostedConfig 7).bind fun _ => .done ()
    | _ => .done ()

/-- The thread takes the lock. -/
def idleStart : List Event × System :=
  idleThread.play Call.silence (List.replicate 2 1)

/-- The hook runs: nothing comes, and the worker is detached. -/
def idleRun : List Event × System :=
  idleStart.2.play Call.silence (List.replicate 14 1)

/-- The idle worker is detached by a call outside the lock, and the lock is handed back. -/
theorem hooks_keep_lock_idle :
    (∃ e ∈ idleStart.1 ++ idleRun.1, e.action.role = .outward ∧ e.before.lock.freeOf e.thread) ∧
      idleRun.2.shared.lock.heldBy 1 ∧
      idleRun.2.shared.workers 7 = { idleStart.2.shared.workers 7 with isAttached := false } := by
  have hclients : ∀ t, Client false (idleThread.threads t) := by
    intro t
    simp only [idleThread]
    split
    · exact .operate .lock fun _ => .operate (.onEmptyQueue _ _) fun _ => .done
    · exact .done
  have hstart : System.Run idleThread idleStart.1 idleStart.2 := System.run_play _ _ _
  have hrun : System.Run idleStart.2 idleRun.1 idleRun.2 := System.run_play _ _ _
  have hdone : (idleRun.2.threads 1).isDone = true := by decide +kernel
  obtain ⟨x, -, hreturn⟩ := hrun.exists_returns (t := 1)
    (r := Routine.onEmptyQueue hostedConfig 7) rfl (fun _ => .inl rfl) hdone
  obtain ⟨hcalls, hhooks⟩ := hooks_keep_lock (P := idleThread) rfl rfl hclients
  have hown : idleRun.1.all (fun e => e.thread == 1) = true := by decide +kernel
  have hheld : idleStart.2.shared.lock.heldBy 1 := ⟨by decide +kernel, by decide +kernel⟩
  obtain ⟨hok, herror, -⟩ := hhooks _ _ _ _ 1 hostedConfig 7 hstart hrun hheld
    fun e he ht => absurd (by simpa using List.all_eq_true.mp hown e he) ht
  have hdetached : (idleRun.2.shared.workers 7).isAttached = false := by decide +kernel
  have hattached : (idleStart.2.shared.workers 7).isAttached = true := by decide +kernel
  have hcall : (idleStart.1 ++ idleRun.1).any (·.action.role = .outward) = true := by
    decide +kernel
  refine ⟨?_, ?_⟩
  · obtain ⟨e, he, hrole⟩ := List.any_eq_true.mp hcall
    have hrole' := of_decide_eq_true hrole
    exact ⟨e, he, hrole', hcalls _ _ (hstart.trans hrun) e he hrole'⟩
  · cases x with
    | error e =>
        have hworker := (herror e hreturn).2
        rw [hworker, hattached] at hdetached
        cases hdetached
    | ok action =>
        obtain ⟨hheld, hworker⟩ := hok action hreturn
        cases action with
        | detached => exact ⟨hheld, hworker⟩
        | none | repacked =>
            rw [hworker] at hdetached
            exact absurd (hattached.symm.trans hdetached) (by decide)

end ExternalCompiler
