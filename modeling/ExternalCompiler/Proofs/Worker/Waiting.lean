/-
Workers that wait for work are woken by it:

* `Known.permits`: a wait begins on a queue that is known to be empty and open, and goes on with the
  number of acceptances that was read at its start; `heeds_work`: on every path of its loop a
  compiler thread keeps to that;
* `Action.isOfWorker`, `Action.isOfWorker_cases`, `only_work`: what the thread of a worker does at
  all;
* `sinceWait`: what happened since a thread began its last wait; `exists_wait_of_seen` cuts a
  history there;
* `hasNews_of_tasks`: a task in a queue that was empty is news;
* `Wakes`, `workers_wake`: while a task waits or the queue is closed, every worker that waits for
  work is about to be told.
-/
import Mathlib.Data.List.DropRight
import ExternalCompiler.Proofs.Conduct
import ExternalCompiler.Proofs.Queue.Acceptance

namespace ExternalCompiler

/-! ### What a wait asks for -/

/-- A wait begins only on a queue that is known to be empty and open, and it goes on with the number
of acceptances that was read last. -/
def Known.permits : Conduct Known where
  after := Known.learns.after
  asks
    | k, .access .readSubmitted => k.isEmpty = true ∧ k.isOpen = true
    | k, .pause (.awaitWork seen _) => k.seen = some seen
    | _, _ => True

namespace Action

/-- The action reads the number of acceptances, which begins a wait. -/
def isSnapshot : Action → Bool
  | .access .readSubmitted => true
  | _ => false

/-- The action belongs to waiting for work. -/
def isWait : Action → Bool
  | .access .readSubmitted | .pause (.awaitWork _ _) => true
  | _ => false

/-- What the hooks do for the worker `v` beside waiting: they ask for the worker, take the lock and
give it back, and detach or repack the worker. -/
def isErrand (v : Nat) : Action → Bool
  | .access (.readAttached w) | .access (.storeAttached w _) | .access (.countRepack w)
  | .call (.detach w _) | .call (.repack w) => w == v
  | a => a.isLocking

/-- What may be done whatever is known of the queue. -/
lemma permits_of_not_wait {a : Action} (h : a.isWait = false) (k : Known) :
    Known.permits.asks k a := by
  rcases a with a | p | c
  · cases a
    case readSubmitted => cases h
    all_goals trivial
  · cases p
    case awaitWork => cases h
    all_goals trivial
  · trivial

lemma isErrand_of_isLocking {v : Nat} {a : Action} (h : a.isLocking = true) :
    a.isErrand v = true := by
  cases h using isLocking_cases <;> rfl

/-- What the hooks do beside waiting, action by action. -/
@[elab_as_elim]
lemma isErrand_cases {v : Nat} {motive : (a : Action) → a.isErrand v = true → Prop}
    (readAttached : motive (.access (.readAttached v)) (decide_eq_true rfl))
    (storeAttached : ∀ b, motive (.access (.storeAttached v b)) (decide_eq_true rfl))
    (countRepack : motive (.access (.countRepack v)) (decide_eq_true rfl))
    (detach : ∀ reason, motive (.call (.detach v reason)) (decide_eq_true rfl))
    (repack : motive (.call (.repack v)) (decide_eq_true rfl))
    (locking : ∀ (a : Action) (h : a.isLocking = true), motive a (isErrand_of_isLocking h))
    {a : Action} (h : a.isErrand v = true) : motive a h := by
  unfold isErrand at h
  split at h
  · obtain rfl := beq_iff_eq.mp h
    exact readAttached
  · obtain rfl := beq_iff_eq.mp h
    exact storeAttached _
  · obtain rfl := beq_iff_eq.mp h
    exact countRepack
  · obtain rfl := beq_iff_eq.mp h
    exact detach _
  · obtain rfl := beq_iff_eq.mp h
    exact repack
  · exact locking _ h

lemma not_wait_of_isErrand {v : Nat} {a : Action} (h : a.isErrand v = true) : a.isWait = false := by
  cases h using isErrand_cases with
  | locking a h => cases h using isLocking_cases <;> rfl
  | _ => rfl

lemma not_wait_of_isChore {v : Nat} {a : Action} (h : a.isChore v = true) : a.isWait = false := by
  cases h using isChore_cases <;> rfl

/-- What the thread of the worker `v` does. -/
def isOfWorker (v : Nat) : Action → Bool
  | .access .popTask | .access .readClosed | .access .readLength | .access .readSubmitted
  | .pause (.awaitWork _ _) => true
  | a => a.isChore v || a.isErrand v

lemma isOfWorker_of_isChore {v : Nat} {a : Action} (h : a.isChore v = true) :
    a.isOfWorker v = true := by
  unfold isOfWorker
  split <;> simp [h]

lemma isOfWorker_of_isErrand {v : Nat} {a : Action} (h : a.isErrand v = true) :
    a.isOfWorker v = true := by
  unfold isOfWorker
  split <;> simp [h]

/-- What the thread of a worker does: it looks for tasks, waits for them and takes them up. -/
@[elab_as_elim]
lemma isOfWorker_cases {v : Nat} {motive : (a : Action) → a.isOfWorker v = true → Prop}
    (popTask : motive (.access .popTask) rfl) (readClosed : motive (.access .readClosed) rfl)
    (readLength : motive (.access .readLength) rfl)
    (readSubmitted : motive (.access .readSubmitted) rfl)
    (awaitWork : ∀ seen millis, motive (.pause (.awaitWork seen millis)) rfl)
    (chore : ∀ (a : Action) (h : a.isChore v = true), motive a (isOfWorker_of_isChore h))
    (errand : ∀ (a : Action) (h : a.isErrand v = true), motive a (isOfWorker_of_isErrand h))
    {a : Action} (h : a.isOfWorker v = true) : motive a h := by
  unfold isOfWorker at h
  split at h
  · exact popTask
  · exact readClosed
  · exact readLength
  · exact readSubmitted
  · exact awaitWork _ _
  · obtain hchore | herrand := Bool.or_eq_true_iff.mp h
    · exact chore _ hchore
    · exact errand _ herrand

/-- Workers submit no tasks. -/
lemma isPush_of_isOfWorker {v : Nat} {a : Action} (h : a.isOfWorker v = true) :
    a.isPush = false := by
  cases h using isOfWorker_cases with
  | chore a h => cases h using isChore_cases <;> rfl
  | errand a h =>
      cases h using isErrand_cases with
      | locking a h => exact isPush_of_isLocking h
      | _ => rfl
  | _ => rfl

lemma isOfWorker_of_isLookout {v : Nat} {a : Action} (h : a.isLookout = true) :
    a.isOfWorker v = true := by
  cases h using isLookout_cases <;> rfl

end Action

namespace Routine

section Errands

variable {p : Action → Prop} {w : Nat}

lemma only_detach (hp : ∀ a, a.isErrand w = true → p a) (reason : String) :
    (detach w reason).Only p := by
  refine (only_call.mpr (hp (.call (.detach w _)) (beq_self_eq_true w))).bind fun x => ?_
  cases x with
  | error e => trivial
  | ok _ =>
      have hstore := hp (.access (.storeAttached w false)) (beq_self_eq_true w)
      exact (only_access.mpr hstore).bind fun _ => trivial

lemma only_repack (hp : ∀ a, a.isErrand w = true → p a) : (repack w).Only p := by
  refine (only_call.mpr (hp (.call (.repack w)) (beq_self_eq_true w))).bind fun x => ?_
  cases x with
  | error e => trivial
  | ok _ =>
      have hcount := hp (.access (.countRepack w)) (beq_self_eq_true w)
      exact (only_access.mpr hcount).bind fun _ => trivial

lemma only_afterWait (hp : ∀ a, a.isErrand w = true → p a) (outcome : WaitOutcome) :
    (afterWait w outcome).Only p := by
  cases outcome with
  | timedOut =>
      refine (only_detach hp _).bind fun x => ?_
      cases x <;> trivial
  | notified =>
      refine (only_repack hp).bind fun x => ?_
      cases x <;> trivial

lemma only_stopping (hp : ∀ a, a.isErrand w = true → p a) (c : Config) :
    (stopping c w).Only p := by
  have hlocking : ∀ a : Action, a.isLocking = true → p a :=
    fun a ha => hp a (Action.isErrand_of_isLocking ha)
  have hread := hp (.access (.readAttached w)) (beq_self_eq_true w)
  refine only_ite ((only_access.mpr hread).bind fun attached => only_ite ?_ trivial) trivial
  refine (only_unlock hlocking).bind fun _ => (only_detach hp _).bind fun x => ?_
  cases x with
  | error e => trivial
  | ok _ => exact (only_lock hlocking).bind fun _ => trivial

/-! ### All that a worker does -/

lemma only_idleOut (hp : ∀ a, a.isOfWorker w = true → p a) (delay : Nat) :
    (idleOut w delay).Only p := by
  have herrand : ∀ a : Action, a.isErrand w = true → p a :=
    fun a ha => hp a (Action.isOfWorker_of_isErrand ha)
  have hlocking : ∀ a : Action, a.isLocking = true → p a :=
    fun a ha => herrand a (Action.isErrand_of_isLocking ha)
  have hlookout : ∀ a : Action, a.isLookout = true → p a :=
    fun a ha => hp a (Action.isOfWorker_of_isLookout ha)
  refine (only_waitForWork hlookout delay).bind fun outcome => ?_
  refine (only_unlock hlocking).bind fun _ => ?_
  refine (only_afterWait herrand outcome).bind fun x => ?_
  cases x with
  | error e => trivial
  | ok action => exact (only_lock hlocking).bind fun _ => trivial

lemma only_onEmptyQueue (hp : ∀ a, a.isOfWorker w = true → p a) (c : Config) :
    (onEmptyQueue c w).Only p := by
  have hread : p (.access (.readAttached w)) :=
    hp _ (Action.isOfWorker_of_isErrand (beq_self_eq_true w))
  refine only_ite ((only_access.mpr hread).bind fun attached => only_ite ?_ trivial) trivial
  cases c.idleDelay with
  | none => trivial
  | some delay =>
      refine (only_call.mpr (hp _ rfl)).bind fun uptime => only_ite trivial ?_
      exact only_idleOut hp delay

lemma only_workRounds (hp : ∀ a, a.isOfWorker w = true → p a) (c : Config)
    (compileMillis rounds : Nat) (s : Summary) :
    (workRounds c w compileMillis rounds s).Only p := by
  have herrand : ∀ a : Action, a.isErrand w = true → p a :=
    fun a ha => hp a (Action.isOfWorker_of_isErrand ha)
  have hlocking : ∀ a : Action, a.isLocking = true → p a :=
    fun a ha => herrand a (Action.isErrand_of_isLocking ha)
  have hchore : ∀ a : Action, a.isChore w = true → p a :=
    fun a ha => hp a (Action.isOfWorker_of_isChore ha)
  have hlookout : ∀ a : Action, a.isLookout = true → p a :=
    fun a ha => hp a (Action.isOfWorker_of_isLookout ha)
  induction rounds generalizing s with
  | zero => trivial
  | succ n ih =>
      refine (only_access.mpr (hp _ rfl)).bind fun task => ?_
      cases task with
      | some t =>
          refine (only_unlock hlocking).bind fun _ => ?_
          refine (only_compile hchore c compileMillis t s).bind fun s => ?_
          exact (only_lock hlocking).bind fun _ => ih s
      | none =>
          refine (only_access.mpr (hp _ rfl)).bind fun closed => only_ite ?_ ?_
          · refine (only_stopping herrand c).bind fun x => ?_
            cases x with
            | error e => trivial
            | ok _ => exact (only_unlock hlocking).bind fun _ => trivial
          · refine (only_onEmptyQueue hp c).bind fun x => ?_
            cases x with
            | error e => trivial
            | ok action => cases action with
              | none => exact (only_lookAgain hlookout).bind fun _ => ih _
              | detached | repacked => exact ih _

/-- What the thread of a worker does is for this worker. -/
lemma only_work (hp : ∀ a, a.isOfWorker w = true → p a) (rounds : Nat) (c : Config)
    (compileMillis : Nat) : (work rounds c w compileMillis).Only p := by
  have hlocking : ∀ a : Action, a.isLocking = true → p a :=
    fun a ha => hp a (Action.isOfWorker_of_isErrand (Action.isErrand_of_isLocking ha))
  exact (only_lock hlocking).bind fun _ => only_workRounds hp c compileMillis rounds {}

end Errands

section Heeds

variable {α : Type} {k : Known}

/-- What does not wait may always be done. -/
lemma heeds_of_not_wait {r : Routine α} (hr : r.Only (·.isWait = false)) :
    r.Heeds Known.permits k fun _ _ => True :=
  heeds_of_only (hr.mono fun _ => Action.permits_of_not_wait)

lemma heeds_of_errands {r : Routine α} {w : Nat} (hr : r.Only (·.isErrand w = true)) :
    r.Heeds Known.permits k fun _ _ => True :=
  heeds_of_not_wait (hr.mono fun _ => Action.not_wait_of_isErrand)

lemma heeds_lock : lock.Heeds Known.permits k fun _ _ => True :=
  heeds_of_errands (only_lock fun _ => Action.isErrand_of_isLocking (v := 0))

lemma heeds_unlock : unlock.Heeds Known.permits k fun _ _ => True :=
  heeds_of_errands (only_unlock fun _ => Action.isErrand_of_isLocking (v := 0))

/-- A wait on a queue that is known to be empty and open. -/
lemma heeds_waitForWork (hempty : k.isEmpty = true) (hopen : k.isOpen = true) (millis : Nat) :
    (waitForWork millis).Heeds Known.permits k fun _ _ => True := by
  refine ⟨⟨hempty, hopen⟩, fun seen => ⟨trivial, fun _ => ⟨trivial, fun closed => ?_⟩⟩⟩
  cases closed with
  | true => exact ⟨trivial, fun _ => trivial⟩
  | false => exact ⟨trivial, fun _ => ⟨rfl, fun outcome => ⟨trivial, fun _ => trivial⟩⟩⟩

lemma heeds_idleOut (hempty : k.isEmpty = true) (hopen : k.isOpen = true) (w delay : Nat) :
    (idleOut w delay).Heeds Known.permits k fun _ _ => True := by
  refine (heeds_waitForWork hempty hopen delay).bind fun outcome _ _ => ?_
  refine heeds_unlock.bind fun _ _ _ => ?_
  refine (heeds_of_errands (only_afterWait (w := w) (fun _ => id) outcome)).bind fun x _ _ => ?_
  cases x with
  | error e => trivial
  | ok action => exact heeds_lock.bind fun _ _ _ => trivial

/-- The hook for an empty queue waits on the queue that its worker found empty and open. -/
lemma heeds_onEmptyQueue (hempty : k.isEmpty = true) (hopen : k.isOpen = true) (c : Config)
    (w : Nat) : (onEmptyQueue c w).Heeds Known.permits k fun _ _ => True := by
  rw [onEmptyQueue]
  split
  · refine ⟨trivial, fun attached => ?_⟩
    cases attached with
    | false => trivial
    | true =>
        cases hdelay : c.idleDelay with
        | none =>
            simp only [done_bind, if_true]
            trivial
        | some delay =>
            simp only [done_bind, if_true]
            refine ⟨trivial, fun uptime => ?_⟩
            simp only [done_bind]
            split
            · trivial
            · exact heeds_idleOut hempty hopen w delay
  · trivial

/-- The second look waits on a queue that it found empty and open itself. -/
lemma heeds_lookAgain : lookAgain.Heeds Known.permits k fun _ _ => True := by
  refine ⟨trivial, fun waiting => ?_⟩
  simp only [done_bind]
  split
  next hzero =>
    subst hzero
    refine ⟨trivial, fun closed => ?_⟩
    cases closed with
    | true => trivial
    | false => exact (heeds_waitForWork rfl rfl _).bind fun _ _ _ => trivial
  next => trivial

lemma heeds_workRounds (c : Config) (w compileMillis rounds : Nat) (s : Summary) :
    (workRounds c w compileMillis rounds s).Heeds Known.permits k fun _ _ => True := by
  induction rounds generalizing k s with
  | zero => trivial
  | succ n ih =>
      refine (heeds_access trivial).bind fun task k' hk' => ?_
      cases task with
      | some t =>
          refine heeds_unlock.bind fun _ _ _ => ?_
          refine (heeds_of_not_wait (only_compile (fun _ => Action.not_wait_of_isChore) c
            compileMillis t s)).bind fun s _ _ => ?_
          exact heeds_lock.bind fun _ _ _ => ih s
      | none =>
          refine (heeds_access trivial).bind fun closed k'' hk'' => ?_
          cases closed with
          | true =>
              refine (heeds_of_errands (only_stopping (w := w) (fun _ => id) c)).bind
                fun x _ _ => ?_
              cases x with
              | error e => trivial
              | ok _ => exact heeds_unlock.bind fun _ _ _ => trivial
          | false =>
              subst hk' hk''
              refine (heeds_onEmptyQueue rfl rfl c w).bind fun x _ _ => ?_
              cases x with
              | error e => trivial
              | ok action =>
                  cases action with
                  | none => exact heeds_lookAgain.bind fun _ _ _ => ih _
                  | detached | repacked => exact ih _

/-- A compiler thread waits only on a queue that it found empty and open. -/
lemma heeds_work (rounds : Nat) (c : Config) (w compileMillis : Nat) :
    (work rounds c w compileMillis).Heeds Known.permits k fun _ _ => True :=
  heeds_lock.bind fun _ _ _ => heeds_workRounds c w compileMillis rounds _

end Heeds

end Routine

/-! ### Since a wait began -/

/-- What happened since the thread `t` began its last wait. -/
def sinceWait (t : ThreadId) (h : List Event) : List Event :=
  h.rtakeWhile fun e => !(e.thread == t && e.action.isSnapshot)

lemma sinceWait_append {t : ThreadId} {h₁ h₂ : List Event} {e : Event} (he : e.thread = t)
    (hsnap : e.action.isSnapshot = true) (hlater : ∀ e ∈ own t h₂, e.action.isSnapshot = false) :
    sinceWait t (h₁ ++ e :: h₂) = h₂ := by
  have hall := forall_not_of_own hlater
  rw [sinceWait, List.rtakeWhile, List.reverse_append, List.reverse_cons, List.append_assoc,
    List.takeWhile_append_of_pos (by simpa using hall), List.singleton_append,
    List.takeWhile_cons_of_neg (by simp [he, hsnap]), List.append_nil, List.reverse_reverse]

/-- What a thread read last as the number of acceptances, it read at its last look at it. -/
lemma exists_snapshot {es : List Event} {n : UInt64} (h : (Known.permits.run {} es).seen = some n) :
    ∃ es₁ u s es₂, es = es₁ ++ ⟨u, .access .readSubmitted, n, s⟩ :: es₂ ∧
      ∀ e ∈ es₂, e.action.isSnapshot = false := by
  induction es using List.reverseRecOn with
  | nil => cases h
  | append_singleton es e ih =>
      rw [Conduct.run_append] at h
      obtain ⟨u, a, x, s⟩ := e
      by_cases hsnap : a.isSnapshot = true
      · rcases a with a | p | c
        · cases a <;> first | cases hsnap; done | skip
          obtain rfl : x = n := Option.some.inj h
          exact ⟨es, u, s, [], rfl, by simp⟩
        · cases hsnap
        · cases hsnap
      · have hkept : (Known.permits.run (Known.permits.run {} es) [⟨u, a, x, s⟩]).seen =
            (Known.permits.run {} es).seen := by
          rcases a with a | p | c
          · cases a <;> first | rfl | exact absurd rfl hsnap | skip
            cases x <;> rfl
          · rfl
          · rfl
        rw [hkept] at h
        obtain ⟨es₁, u', s', es₂, rfl, hlater⟩ := ih h
        refine ⟨es₁, u', s', es₂ ++ [⟨u, a, x, s⟩], by simp, ?_⟩
        exact List.forall_mem_append.mpr ⟨hlater, by simpa using hsnap⟩

/-! ### News -/

section Runs

variable {P Q R S : System} {g h : List Event} {t : ThreadId} {seen : UInt64} {millis : Nat}

/-- A task that waits in a queue that was empty is news, unless `2 ^ 64` tasks came. -/
lemma hasNews_of_tasks (hrun : System.Run S h Q) (hempty : S.shared.queue.tasks = [])
    (hfew : (pushed h).length < 2 ^ 64) (htasks : Q.shared.queue.tasks ≠ []) :
    Q.shared.queue.hasNews S.shared.queue.submitted = true := by
  have hsome : pushed h ≠ [] := by
    intro hnone
    have hkept := hrun.conservation
    rw [hempty, hnone] at hkept
    exact htasks (List.append_eq_nil_iff.mp hkept.symm).2
  have hmoved : Q.shared.queue.submitted ≠ S.shared.queue.submitted := by
    intro hsame
    have hcount := congrArg UInt64.toNat (hrun.submitted.symm.trans hsame)
    rw [UInt64.toNat_add, UInt64.toNat_ofNat'] at hcount
    have hbound := S.shared.queue.submitted.toNat_lt
    have hpos := List.length_pos_iff.mpr hsome
    omega
  simp [Queue.hasNews, hmoved]

/-- A worker that waits for work began its wait where the queue was empty, with the number of
acceptances that it waits to change. -/
lemma Guarded.exists_wait {α : Type} {w : ThreadId → Hold} {r : Routine α}
    {next : WaitOutcome → Routine α} (hg : Guarded w R)
    (hr : r.Heeds Known.permits {} fun _ _ => True) (hrun : System.Run R h Q)
    (hleads : r.Leads (own t h) (.act (.pause (.awaitWork seen millis)) next)) :
    ∃ S, System.Run S (sinceWait t h) Q ∧ S.shared.queue.tasks = [] ∧
      S.shared.queue.submitted = seen := by
  have hseen : (Known.permits.run {} (own t h)).seen = some seen := (hr.leads hleads).1
  obtain ⟨es₁, u, s, es₂, hown, hlater⟩ := exists_snapshot hseen
  obtain ⟨h₁, h₂, rfl, hown₁, rfl⟩ := exists_of_own_eq_append_cons hown
  have hthread : u = t := by
    have hmem : (⟨u, .access .readSubmitted, seen, s⟩ : Event) ∈
        own t (h₁ ++ ⟨u, .access .readSubmitted, seen, s⟩ :: h₂) := by
      rw [hown]
      simp
    exact (mem_own.mp hmem).2
  obtain ⟨S, S', hS, hstep, hS'⟩ := hrun.at_event
  have hknown : Known.permits.asks (Known.permits.run {} es₁) (.access .readSubmitted) := by
    rw [hown] at hleads
    exact hr.asked hleads
  have hsight := (hg.sight (t := t) hS (sight_nothing _ _)).fits
  rw [hown₁] at hsight
  obtain ⟨hanswer, hkept⟩ := effect_access.mp hstep.effect
  rw [sinceWait_append hthread rfl hlater]
  refine ⟨S', hS', ?_, ?_⟩
  · rw [hkept]
    exact hsight.empty hknown.1
  · rw [hkept]
    exact hanswer.symm

/-- The thread `t`, which waits for the number of acceptances to be another one than `seen`, is
about to be told. -/
structure Wakes (t : ThreadId) (seen : UInt64) (millis : Nat) (Q : System) : Prop where
  /-- The condition of its wait is false. -/
  news : Q.shared.queue.hasNews seen = true
  /-- Whatever it does next is to report that it was notified. -/
  reports : ∀ e Q', System.Step Q e Q' → e.thread = t →
    e = ⟨t, .pause (.awaitWork seen millis), .notified, Q.shared⟩
  /-- It does so as soon as nobody else has the lock. -/
  checks : Q.shared.lock.holder = none ∨ Q.shared.lock.holder = some t →
    ∃ Q', System.Run Q
      [⟨t, .pause (.awaitWork seen millis), .notified, Q.shared.setHolder (some t)⟩] Q'
  /-- It does not go back to waiting once it has the lock. -/
  stays : Q.shared.lock.holder = some t → ¬ ∃ Q', System.Look Q Q'

/-- Whoever waits while there is news is about to be told. -/
lemma wakes_of_hasNews {next : WaitOutcome → Routine Unit}
    (hact : Q.threads t = .act (.pause (.awaitWork seen millis)) next)
    (hnews : Q.shared.queue.hasNews seen = true) : Wakes t seen millis Q where
  news := hnews
  reports := by
    rintro e Q' (⟨hact', heff⟩) rfl
    rw [hact] at hact'
    cases hact'
    obtain ⟨-, rfl, -⟩ := heff
    simp [Queue.outcome, hnews]
  checks := by
    have hreports : .notified = Q.shared.queue.outcome seen := by simp [Queue.outcome, hnews]
    rintro (hfree | hheld)
    · exact ⟨_, .look (.take hact hfree) (.step (.act hact ⟨rfl, hreports, rfl⟩) (.refl _))⟩
    · have hsame : Q.shared.setHolder (some t) = Q.shared := by
        rw [Shared.setHolder, ← hheld]
      rw [hsame]
      exact ⟨_, .step (.act hact ⟨hheld, hreports, rfl⟩) (.refl _)⟩
  stays := by
    rintro hheld ⟨Q', hlook⟩
    cases hlook with
    | take hact' hfree =>
        rw [hheld] at hfree
        cases hfree
    | giveBack hact' hheld' hnone =>
        obtain rfl := Option.some.inj (hheld.symm.trans hheld')
        rw [hact] at hact'
        cases hact'
        rw [hnews] at hnone
        cases hnone

/-- **No wake-up is lost.** Threads share a queue and run any operations on it, and the thread `t`
runs the loop of a compiler thread. Whenever it begins to wait for work, the queue is empty and
open. In every state in which it waits while a task is in the queue or the queue is closed, it is
about to be told, unless `2 ^ 64` tasks were accepted since its wait began. -/
theorem workers_wake {rounds : Nat} {c : Config} {w compileMillis : Nat}
    {k : Except ServiceError Summary → Routine Unit} {r : Routine (Except ServiceError Summary)}
    (hlock : P.shared.lock = {}) (hnobody : P.threads 0 = .done ())
    (hclients : ∀ t, Client false (P.threads t)) (hreach : System.Run P g R)
    (hstart : R.threads t = (Routine.work rounds c w compileMillis).bind k)
    (hrun : System.Run R h Q) (hleads : (Routine.work rounds c w compileMillis).Leads (own t h) r) :
    (∀ millis f, r = (Routine.waitForWork millis).bind f →
      Q.shared.queue.tasks = [] ∧ Q.shared.queue.isClosed = false) ∧
      ∀ seen millis next, r = .act (.pause (.awaitWork seen millis)) next →
        (pushed (sinceWait t h)).length < 2 ^ 64 →
          Q.shared.queue.tasks ≠ [] ∨ Q.shared.queue.isClosed = true → Wakes t seen millis Q := by
  have hguarded := (guarded_of_clients hlock hnobody hclients).run hreach
  have hheeds := Routine.heeds_work (k := {}) rounds c w compileMillis
  refine ⟨fun millis f hr => ?_, fun seen millis next hr hfew hwaits => ?_⟩
  · subst hr
    obtain ⟨hempty, hopen⟩ := (hheeds.leads hleads).1
    have hsight := (hguarded.sight (t := t) hrun (sight_nothing _ _)).fits
    exact ⟨hsight.empty hempty, hsight.unclosed hopen⟩
  · subst hr
    have hact : Q.threads t = .act (.pause (.awaitWork seen millis)) fun x => (next x).bind k := by
      have hthread := hrun.leads t
      rw [hstart] at hthread
      exact hthread.unique (hleads.bind k)
    obtain ⟨S, hS, hempty, rfl⟩ := hguarded.exists_wait hheeds hrun hleads
    refine wakes_of_hasNews hact ?_
    rcases hwaits with htasks | hclosed
    · exact hasNews_of_tasks hS hempty hfew htasks
    · simp [Queue.hasNews, hclosed]

end Runs

/-- A compiler thread and a thread that submits a task. -/
def waitingPair : System where
  shared := {}
  threads
    | 1 => (Routine.work 1 {} 7 0).bind fun _ => .done ()
    | 2 => (Routine.submit plainTask).bind fun _ => .done ()
    | _ => .done ()

/-- The compiler thread begins to wait, and the task comes. -/
def waitingRun : List Event × System :=
  waitingPair.play Call.silence (List.replicate 10 1 ++ List.replicate 7 2)

/-- The compiler thread that waits is about to be told of the task. -/
theorem workers_wake_pair :
    waitingRun.2.shared.queue.tasks = [plainTask] ∧
      ∃ seen millis, Wakes 1 seen millis waitingRun.2 := by
  have hclients : ∀ t, Client false (waitingPair.threads t) := by
    intro t
    simp only [waitingPair]
    split
    · exact .operate (.work _ _ _ _) fun _ => .done
    · exact .operate (.submit _) fun _ => .done
    · exact .done
  have hrun : System.Run waitingPair waitingRun.1 waitingRun.2 := System.run_play _ _ _
  have htasks : waitingRun.2.shared.queue.tasks = [plainTask] := by decide +kernel
  have hfew : (pushed (sinceWait 1 waitingRun.1)).length < 2 ^ 64 := by decide +kernel
  have hwaiting : (waitingRun.2.threads 1).isWaiting = true := by decide +kernel
  refine ⟨htasks, ?_⟩
  obtain ⟨r, hleads, hthread⟩ | ⟨es₁, es₂, x, -, -, hdone⟩ := (hrun.leads 1).of_bind
  · rw [hthread] at hwaiting
    rcases r with x | ⟨a | p | c, next⟩ | _
    · cases hwaiting
    · cases hwaiting
    · cases p with
      | awaitWork seen millis =>
          exact ⟨seen, millis, (workers_wake rfl rfl hclients (.refl _) rfl hrun hleads).2 seen
            millis next rfl hfew (.inl (by simp [htasks]))⟩
      | takeLock | sleep => cases hwaiting
    · cases hwaiting
    · cases hwaiting
  · rw [(Routine.leads_done.mp hdone).2] at hwaiting
    cases hwaiting

end ExternalCompiler
