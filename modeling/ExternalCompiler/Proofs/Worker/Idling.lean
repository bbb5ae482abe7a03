/-
What a worker that found nothing to do does once its wait has ended:

* `WaitOutcome.action`, `WaitOutcome.request`: the end of a wait decides what the worker does, and
  what it asks the external runtime for;
* `WaitPath`, `leads_idleOut_done`, `leads_onEmptyQueue_done`: the hook for an empty queue, taken
  apart into its events; `Stays`: why it does not wait at all;
* `Guarded.queue_kept`, `Guarded.held_throughout`: while a thread has the lock and leaves the queue
  alone, nobody changes the queue;
* `LastLook`: the last look of a thread at the queue;
* `idle_as_waited`: the hook keeps the lock and does nothing, or acts once, as the wait ended: it
  repacks its worker exactly if the queue was closed or a task was accepted until the last look.
-/
import ExternalCompiler.Proofs.Queue.Acceptance

namespace ExternalCompiler

/-! ### The end of a wait -/

/-- What a worker does after a wait that ended so, if the external runtime agrees. -/
def WaitOutcome.action : WaitOutcome → IdleAction
  | timedOut => .detached
  | notified => .repacked

/-- The event in which the worker `w` asks the external runtime for that. -/
def WaitOutcome.request (outcome : WaitOutcome) (t : ThreadId) (w : Nat)
    (answer : Except ServiceError Unit) (s : Shared) : Event :=
  match outcome with
  | timedOut => ⟨t, .call (.detach w "releasing idle compiler thread"), answer, s⟩
  | notified => ⟨t, .call (.repack w), answer, s⟩

lemma WaitOutcome.role_request {outcome : WaitOutcome} {t : ThreadId} {w : Nat}
    {answer : Except ServiceError Unit} {s : Shared} :
    (outcome.request t w answer s).action.role = .outward := by
  cases outcome <;> rfl

/-- With the events `es` the worker calls the external runtime once, as a wait demands that ended
so, and the result `x` says what became of it. -/
def WaitOutcome.Decides (outcome : WaitOutcome) (t : ThreadId) (w : Nat) (es : List Event)
    (x : Except ServiceError IdleAction) : Prop :=
  ∃ answer s, es.filter (·.action.role = .outward) = [outcome.request t w answer s] ∧
    x = answer.map fun _ => outcome.action

lemma Queue.outcome_eq_notified {q : Queue} {seen : UInt64} :
    q.outcome seen = .notified ↔ q.submitted ≠ seen ∨ q.isClosed = true := by
  simp [Queue.outcome, Queue.hasNews, imp_iff_not_or]

/-- The number of acceptances is the same again only after `2 ^ 64` more. -/
lemma add_ofNat_ne_self {a : UInt64} {n : Nat} : a + UInt64.ofNat n ≠ a ↔ ¬ 2 ^ 64 ∣ n := by
  rw [not_iff_not, ← UInt64.toNat_inj, UInt64.toNat_add, UInt64.toNat_ofNat',
    Nat.dvd_iff_mod_eq_zero]
  have hbound := a.toNat_lt
  omega

/-! ### The events of the hook -/

namespace Action

/-- The hook asks whether it has to wait. -/
def isInquiry : Action → Bool
  | .access (.readAttached _) | .call .now => true
  | _ => false

/-- The action is no inquiry, no wait and no call of the external runtime. -/
def isPlain (a : Action) : Bool :=
  !a.isInquiry && a.role != .wait && a.role != .outward

lemma isPlain_of_isLocking {a : Action} (h : a.isLocking = true) : a.isPlain = true := by
  cases h using isLocking_cases <;> rfl

lemma isInquiry_of_isPlain {a : Action} (h : a.isPlain = true) : a.isInquiry = false := by
  simp only [isPlain, Bool.and_eq_true, Bool.not_eq_true'] at h
  exact h.1.1

lemma not_wait_of_isPlain {a : Action} (h : a.isPlain = true) : a.role ≠ .wait := by
  simp only [isPlain, Bool.and_eq_true, bne_iff_ne] at h
  exact h.1.2

lemma not_outward_of_isPlain {a : Action} (h : a.isPlain = true) : a.role ≠ .outward := by
  simp only [isPlain, Bool.and_eq_true, bne_iff_ne] at h
  exact h.2

end Action

/-- The events of a wait, and how it ends: on a closed queue at once, and else with a look at the
queue. -/
inductive WaitPath (millis : Nat) : List Event → WaitOutcome → Prop
  | closed (t₁ t₂ t₃ t₄ : ThreadId) (seen : UInt64) (s₁ s₂ s₃ s₄ : Shared) :
      WaitPath millis [⟨t₁, .access .readSubmitted, seen, s₁⟩, ⟨t₂, .access .clearOwner, (), s₂⟩,
        ⟨t₃, .access .readClosed, true, s₃⟩, ⟨t₄, .access .markOwner, (), s₄⟩] .notified
  | waited (outcome : WaitOutcome) (t₁ t₂ t₃ t₄ t₅ t₆ : ThreadId) (seen : UInt64)
      (s₁ s₂ s₃ s₄ s₅ s₆ : Shared) :
      WaitPath millis [⟨t₁, .access .readSubmitted, seen, s₁⟩, ⟨t₂, .access .clearOwner, (), s₂⟩,
        ⟨t₃, .access .readClosed, false, s₃⟩, ⟨t₄, .access .releaseLock, (), s₄⟩,
        ⟨t₅, .pause (.awaitWork seen millis), outcome, s₅⟩, ⟨t₆, .access .markOwner, (), s₆⟩]
        outcome

lemma WaitPath.unasking {millis : Nat} {es : List Event} {outcome : WaitOutcome}
    (h : WaitPath millis es outcome) :
    ∀ e ∈ es, e.action.isInquiry = false ∧ e.action.role ≠ .outward := by
  cases h <;> simp [Action.isInquiry, Action.role]

/-- A single call of the external runtime among other events. -/
lemma filter_outward {es es' : List Event} {e : Event}
    (hes : ∀ e ∈ es, e.action.role ≠ .outward) (he : e.action.role = .outward)
    (hes' : ∀ e ∈ es', e.action.role ≠ .outward) :
    (es ++ e :: es').filter (·.action.role = .outward) = [e] := by
  rw [List.filter_append, List.filter_eq_nil_iff.mpr (by simpa using hes),
    List.filter_cons_of_pos (by simpa using he), List.filter_eq_nil_iff.mpr (by simpa using hes')]
  rfl

/-- Why the hook for an empty queue does not wait: the compiler is not hosted, the worker is found
detached, idling is switched off, or the runtime started just now. -/
inductive Stays (c : Config) (w : Nat) (es : List Event) : Prop
  | unhosted (hhosted : c.isHosted = false)
  | detached {t : ThreadId} {s : Shared}
      (hread : (⟨t, .access (.readAttached w), false, s⟩ : Event) ∈ es)
  | disabled (hdelay : c.idleDelayMillis.toInt ≤ 0)
  | early {t : ThreadId} {uptime : Nat} {s : Shared}
      (hasked : (⟨t, .call .now, uptime, s⟩ : Event) ∈ es) (hgrace : uptime < c.startupGrace)

namespace Routine

variable {es : List Event} {w delay : Nat} {c : Config} {outcome : WaitOutcome}
  {x : Except ServiceError IdleAction}

lemma leads_waitForWork_done (h : (waitForWork delay).Leads es (done outcome)) :
    WaitPath delay es outcome := by
  obtain ⟨t₁, seen, s₁, es₁, rfl, h₁⟩ := leads_access_done.mp h
  obtain ⟨t₂, _, s₂, es₂, rfl, h₂⟩ := leads_access_done.mp h₁
  obtain ⟨t₃, closed, s₃, es₃, rfl, h₃⟩ := leads_access_done.mp h₂
  cases closed with
  | true =>
      obtain ⟨t₄, _, s₄, es₄, rfl, h₄⟩ := leads_access_done.mp h₃
      obtain ⟨rfl, houtcome⟩ := leads_done.mp h₄
      cases houtcome
      exact .closed t₁ t₂ t₃ t₄ seen s₁ s₂ s₃ s₄
  | false =>
      obtain ⟨t₄, _, s₄, es₄, rfl, h₄⟩ := leads_access_done.mp h₃
      obtain ⟨t₅, outcome', s₅, es₅, rfl, h₅⟩ := leads_pause_done.mp h₄
      obtain ⟨t₆, _, s₆, es₆, rfl, h₆⟩ := leads_access_done.mp h₅
      obtain ⟨rfl, houtcome⟩ := leads_done.mp h₆
      cases houtcome
      exact .waited outcome t₁ t₂ t₃ t₄ t₅ t₆ seen s₁ s₂ s₃ s₄ s₅ s₆

/-- After its request the worker notes what the external runtime agreed to. -/
lemma leads_afterWait_done (h : (afterWait w outcome).Leads es (done x)) :
    ∃ t answer s es', es = outcome.request t w answer s :: es' ∧
      (∀ e ∈ es', e.action.isPlain = true) ∧ x = answer.map fun _ => outcome.action := by
  -- both requests are made and noted in the same way
  cases outcome <;>
    · obtain ⟨es₁, es₂, y, rfl, h₁, h₂⟩ := leads_bind_done.mp h
      obtain ⟨t, answer, s, es', rfl, h'⟩ := leads_call_done.mp h₁
      have hnoted : y = answer ∧ ∀ e ∈ es', e.action.isPlain = true := by
        cases answer with
        | error e =>
            obtain ⟨rfl, hy⟩ := leads_done.mp h'
            cases hy
            exact ⟨rfl, by simp⟩
        | ok _ =>
            obtain ⟨t', _, s', es'', rfl, h''⟩ := leads_access_done.mp h'
            obtain ⟨rfl, hy⟩ := leads_done.mp h''
            cases hy
            exact ⟨rfl, List.forall_mem_singleton.mpr rfl⟩
      obtain ⟨rfl, hplain⟩ := hnoted
      refine ⟨t, y, s, es', ?_⟩
      cases y <;>
        · obtain ⟨rfl, hx⟩ := leads_done.mp h₂
          cases hx
          exact ⟨by rw [List.append_nil]; rfl, hplain, rfl⟩

/-- A worker that waits asks the external runtime for one thing, as the wait ended. -/
lemma leads_idleOut_done (h : (idleOut w delay).Leads es (done x)) :
    ∃ es₁ es₂ es₃ outcome t answer s,
      es = es₁ ++ (es₂ ++ outcome.request t w answer s :: es₃) ∧ WaitPath delay es₁ outcome ∧
      (∀ e ∈ es₂ ++ es₃, e.action.isPlain = true) ∧ x = answer.map fun _ => outcome.action := by
  obtain ⟨es₁, es', outcome, rfl, hwait, h⟩ := leads_bind_done.mp h
  obtain ⟨es₂, es', u, rfl, hunlock, h⟩ := leads_bind_done.mp h
  obtain ⟨es₃, es₄, y, rfl, hafter, h⟩ := leads_bind_done.mp h
  obtain ⟨t, answer, s, es₃, rfl, hplain₃, rfl⟩ := leads_afterWait_done hafter
  have hplain₂ := ((only_unlock fun a ha => Action.isPlain_of_isLocking ha).leads hunlock).2
  refine ⟨es₁, es₂, es₃ ++ es₄, outcome, t, answer, s, by simp, leads_waitForWork_done hwait, ?_⟩
  cases answer with
  | error e =>
      obtain ⟨rfl, hx⟩ := leads_done.mp h
      cases hx
      refine ⟨?_, rfl⟩
      simpa only [List.append_nil, List.forall_mem_append] using ⟨hplain₂, hplain₃⟩
  | ok _ =>
      obtain ⟨es₄, es₅, u, rfl, hlock, h⟩ := leads_bind_done.mp h
      obtain ⟨rfl, hx⟩ := leads_done.mp h
      cases hx
      have hplain₄ := ((only_lock fun a ha => Action.isPlain_of_isLocking ha).leads hlock).2
      refine ⟨?_, rfl⟩
      simpa only [List.append_nil, List.forall_mem_append] using ⟨hplain₂, hplain₃, hplain₄⟩

lemma idleDelay_eq_none : c.idleDelay = none ↔ c.idleDelayMillis.toInt ≤ 0 := by
  simp [Config.idleDelay]

/-- The hook stays, or it made all its inquiries and waits. -/
lemma leads_onEmptyQueue_done (h : (onEmptyQueue c w).Leads es (done x)) :
    (Stays c w es ∧ x = .ok .none ∧ ∀ e ∈ es, e.action.role = .aloof) ∨
      ∃ delay t₁ s₁ t₂ s₂, ∃ uptime : Nat, ∃ es', c.isHosted = true ∧ c.idleDelay = some delay ∧
        c.startupGrace ≤ uptime ∧
        es = ⟨t₁, .access (.readAttached w), true, s₁⟩ :: ⟨t₂, .call .now, uptime, s₂⟩ :: es' ∧
        (idleOut w delay).Leads es' (done x) := by
  rw [onEmptyQueue] at h
  split at h
  next hhosted =>
    obtain ⟨t₁, attached, s₁, es₁, rfl, h₁⟩ := leads_access_done.mp h
    cases attached with
    | false =>
        obtain ⟨rfl, hx⟩ := leads_done.mp h₁
        cases hx
        exact .inl ⟨.detached (List.mem_singleton.mpr rfl), rfl, by simp [Action.role]⟩
    | true =>
        rw [if_pos rfl] at h₁
        split at h₁
        next hdelay =>
          obtain ⟨rfl, hx⟩ := leads_done.mp h₁
          cases hx
          exact .inl ⟨.disabled (idleDelay_eq_none.mp hdelay), rfl, by simp [Action.role]⟩
        next delay hdelay =>
          obtain ⟨t₂, uptime, s₂, es₂, rfl, h₂⟩ := leads_call_done.mp h₁
          split at h₂
          next hgrace =>
            obtain ⟨rfl, hx⟩ := leads_done.mp h₂
            cases hx
            refine .inl ⟨.early (t := t₂) (s := s₂) ?_ hgrace, rfl, by simp [Action.role]⟩
            exact List.mem_cons_of_mem _ (List.mem_singleton.mpr rfl)
          next hgrace =>
            exact .inr ⟨delay, t₁, s₁, t₂, s₂, uptime, es₂, hhosted, hdelay, Nat.not_lt.mp hgrace,
              rfl, h₂⟩
  next hhosted =>
    obtain ⟨rfl, hx⟩ := leads_done.mp h
    cases hx
    exact .inl ⟨.unhosted (Bool.not_eq_true _ ▸ hhosted), rfl, by simp⟩

/-- A hook that made all its inquiries has no reason to stay. -/
lemma not_stays {t₁ t₂ : ThreadId} {s₁ s₂ : Shared} {uptime : Nat} (hhosted : c.isHosted = true)
    (hdelay : c.idleDelay = some delay) (hgrace : c.startupGrace ≤ uptime)
    (hes : ∀ e ∈ es, e.action.isInquiry = false) :
    ¬ Stays c w (⟨t₁, .access (.readAttached w), true, s₁⟩ ::
      ⟨t₂, .call .now, uptime, s₂⟩ :: es) := by
  rintro (hunhosted | hread | hdisabled | ⟨hasked, hearly⟩)
  · rw [hhosted] at hunhosted
    cases hunhosted
  · obtain _ | ⟨_, _ | ⟨_, hread⟩⟩ := hread
    cases hes _ hread
  · rw [idleDelay_eq_none.mpr hdisabled] at hdelay
    cases hdelay
  · obtain _ | ⟨_, _ | ⟨_, hasked⟩⟩ := hasked
    · exact Nat.not_lt.mpr hgrace hearly
    · cases hes _ hasked

/-- The hook stays, or it waits once and acts as the wait ended. -/
lemma stays_or_decides (h : (onEmptyQueue c w).Leads es (done x)) :
    (Stays c w es ∧ x = .ok .none ∧ ∀ e ∈ es, e.action.role = .aloof) ∨
      ¬ Stays c w es ∧ ∃ es₁ es₂ es₃ delay outcome u, es = es₁ ++ (es₂ ++ es₃) ∧
        (∀ e ∈ es₁, e.action.role = .aloof) ∧ WaitPath delay es₂ outcome ∧
        (∀ e ∈ es₃, e.action.role ≠ .wait) ∧ outcome.Decides u w es x := by
  obtain hstays | ⟨delay, t₁, s₁, t₂, s₂, uptime, es', hhosted, hdelay, hgrace, rfl, hidle⟩ :=
    leads_onEmptyQueue_done h
  · exact .inl hstays
  obtain ⟨es₁, es₂, es₃, outcome, u, answer, s, rfl, hpath, hplain, rfl⟩ := leads_idleOut_done hidle
  obtain ⟨hplain₂, hplain₃⟩ := List.forall_mem_append.mp hplain
  refine .inr ⟨not_stays hhosted hdelay hgrace ?_, [_, _], es₁, _, delay, outcome, u, rfl,
    by simp [Action.role], hpath, ?_, answer, s, ?_, rfl⟩
  · refine List.forall_mem_append.mpr ⟨fun e he => (hpath.unasking e he).1, ?_⟩
    refine List.forall_mem_append.mpr
      ⟨fun e he => Action.isInquiry_of_isPlain (hplain₂ e he), ?_⟩
    refine List.forall_mem_cons.mpr
      ⟨?_, fun e he => Action.isInquiry_of_isPlain (hplain₃ e he)⟩
    cases outcome <;> rfl
  · refine List.forall_mem_append.mpr
      ⟨fun e he => Action.not_wait_of_isPlain (hplain₂ e he), ?_⟩
    refine List.forall_mem_cons.mpr
      ⟨?_, fun e he => Action.not_wait_of_isPlain (hplain₃ e he)⟩
    rw [WaitOutcome.role_request]
    decide
  · have hbefore : ∀ e ∈ [⟨t₁, .access (.readAttached w), true, s₁⟩,
        ⟨t₂, .call .now, uptime, s₂⟩] ++ (es₁ ++ es₂), e.action.role ≠ .outward := by
      refine List.forall_mem_append.mpr ⟨by simp [Action.role], ?_⟩
      exact List.forall_mem_append.mpr ⟨fun e he => (hpath.unasking e he).2,
        fun e he => Action.not_outward_of_isPlain (hplain₂ e he)⟩
    rw [← filter_outward hbefore WaitOutcome.role_request
      fun e he => Action.not_outward_of_isPlain (hplain₃ e he)]
    simp

end Routine

/-! ### While the lock is held -/

/-- Only giving the lock back loses it. -/
lemma Hold.isHeld_shift {w : Hold} {ρ : Role} (hw : w.isHeld = true) (hρ : ρ ≠ .release) :
    ((w.shift ρ).getD w).isHeld = true := by
  cases w <;> cases ρ <;> first | cases hw; done | exact absurd rfl hρ | rfl

lemma Hold.isHeld_run {w : Hold} {es : List Event} (hw : w.isHeld = true)
    (hes : ∀ e ∈ es, e.action.role ≠ .release) : (w.run es).isHeld = true := by
  induction es generalizing w with
  | nil => exact hw
  | cons e es ih =>
      obtain ⟨he, hes⟩ := List.forall_mem_cons.mp hes
      exact ih (Hold.isHeld_shift hw he) hes

/-- What has nothing to do with the lock leaves the mark. -/
lemma Hold.run_marked {es : List Event} (hes : ∀ e ∈ es, e.action.role = .aloof) :
    Hold.marked.run es = .marked := by
  induction es with
  | nil => rfl
  | cons e es ih =>
      obtain ⟨he, hes⟩ := List.forall_mem_cons.mp hes
      have hshift : (Hold.marked.shift e.action.role).getD .marked = .marked := by
        rw [he]
        rfl
      rw [Hold.run, List.foldl_cons, hshift]
      exact ih hes

section Held

variable {w : ThreadId → Hold} {R Q : System} {h : List Event} {t : ThreadId}

/-- A thread that asks for nothing that concerns the lock holds it all along. -/
lemma Guarded.held_throughout (hg : Guarded w R) (hheld : R.shared.lock.heldBy t)
    (hrun : System.Run R h Q) (haloof : ∀ e ∈ own t h, e.action.role = .aloof) :
    (∀ e ∈ h, e.before.lock.heldBy t) ∧ Q.shared.lock.heldBy t := by
  have hmarked := hg.marked_iff.mpr hheld
  refine ⟨fun e he => ?_, (hg.run hrun).marked_iff.mp ?_⟩
  · obtain ⟨h₁, h₂, rfl⟩ := List.append_of_mem he
    obtain ⟨S, S', hS, hstep, -⟩ := hrun.at_event
    rw [hstep.before]
    refine (hg.run hS).marked_iff.mp ?_
    rw [own_append, List.forall_mem_append] at haloof
    rw [hmarked, Hold.run_marked haloof.1]
  · rw [hmarked, Hold.run_marked haloof]

/-- The action neither gives the lock back nor changes the queue. -/
def Action.sparesQueue (a : Action) : Prop :=
  a.role ≠ .release ∧ Keeps (·.queue) a

/-- While a thread has the lock and spares the queue, nobody changes it. -/
lemma Guarded.queue_kept (hg : Guarded w R) (hheld : (w t).isHeld = true)
    (hrun : System.Run R h Q) (hown : ∀ e ∈ own t h, e.action.sparesQueue) :
    Q.shared.queue = R.shared.queue := by
  induction hrun generalizing w with
  | refl => rfl
  | @step R S Q e h hstep _ ih =>
      have hg' := hg.step hstep
      by_cases he : e.thread = t
      · rw [own_cons_self he] at hown
        obtain ⟨hspares, hown⟩ := List.forall_mem_cons.mp hown
        have hheld' : ((w t).run (own t [e])).isHeld = true := by
          rw [own_cons_self he]
          exact Hold.isHeld_run hheld (List.forall_mem_singleton.mpr hspares.1)
        exact (ih hg' hheld' hown).trans (hspares.2 _ _ _ _ hstep.effect)
      · -- no other thread gets at the queue without the lock
        rw [own_cons_other he] at hown
        have hkept := keeps_queue (hg.not_visit hstep he hheld) _ _ _ _ hstep.effect
        have hheld' : ((w t).run (own t [e])).isHeld = true := by rwa [own_cons_other he]
        exact (ih hg' hheld' hown).trans hkept
  | look hlook _ ih =>
      obtain ⟨holder, hshared⟩ := hlook.shared
      rw [ih (hg.look hlook) hheld hown, hshared]
      rfl

/-- What a thread reads while it has the lock, it reads of the queue as it was when it took it. -/
lemma Guarded.read_queue (hg : Guarded w R) (hheld : (w t).isHeld = true)
    (hrun : System.Run R h Q) {es es' : List Event} {u : ThreadId} {a : Access} {x : a.Answer}
    {s : Shared} (hown : own t h = es ++ ⟨u, .access a, x, s⟩ :: es')
    (hes : ∀ e ∈ es, e.action.sparesQueue) :
    s.queue = R.shared.queue ∧ x = (a.perform u s).1 := by
  obtain ⟨h₁, h₂, rfl, rfl, -⟩ := exists_of_own_eq_append_cons hown
  obtain ⟨S, S', hS, hstep, -⟩ := hrun.at_event
  obtain rfl : s = S.shared := hstep.before
  exact ⟨hg.queue_kept hheld hS hes, (effect_access.mp hstep.effect).1⟩

end Held

/-! ### The last look -/

/-- At the event `e`, after the history `h₁`, the thread `t` looks at the queue for the last time,
under the lock. -/
structure LastLook (t : ThreadId) (h h₁ : List Event) (e : Event) : Prop where
  thread : e.thread = t
  looks : e.action.role = .wait
  locked : e.before.lock.holder = some t
  last : ∃ h₂, h = h₁ ++ e :: h₂ ∧ ∀ e' ∈ own t h₂, e'.action.role ≠ .wait

section Runs

variable {v : ThreadId → Hold} {P Q R : System} {g h es₁ es₂ es₃ : List Event} {t : ThreadId}
  {c : Config} {w delay : Nat} {outcome : WaitOutcome} {x : Except ServiceError IdleAction}

lemma spares_of_aloof {a : Action} (h : a.role = .aloof) : a.sparesQueue :=
  ⟨by rw [h]; decide, keeps_queue (by rw [h]; decide)⟩

lemma spares_readSubmitted : (Action.access .readSubmitted).sparesQueue :=
  ⟨by decide, keeps_of_perform (fun _ _ => rfl) (by rintro _ ⟨⟩ _ _; rfl)⟩

lemma spares_clearOwner : (Action.access .clearOwner).sparesQueue :=
  ⟨by decide, keeps_queue (by decide)⟩

/-- At the start of a wait a thread reads whether the queue was closed when it took the lock. -/
lemma Guarded.read_closed {es : List Event} {t₁ t₂ t₃ : ThreadId} {seen : UInt64}
    {closed : Bool} {s₁ s₂ s₃ : Shared} (hg : Guarded v R) (es' : List Event)
    (hheld : (v t).isHeld = true) (hrun : System.Run R h Q) (hes : ∀ e ∈ es, e.action.sparesQueue)
    (hown : own t h = es ++ ⟨t₁, .access .readSubmitted, seen, s₁⟩ ::
      ⟨t₂, .access .clearOwner, (), s₂⟩ :: ⟨t₃, .access .readClosed, closed, s₃⟩ :: es') :
    closed = R.shared.queue.isClosed := by
  have hown' : own t h = (es ++ [⟨t₁, .access .readSubmitted, seen, s₁⟩,
      ⟨t₂, .access .clearOwner, (), s₂⟩]) ++ ⟨t₃, .access .readClosed, closed, s₃⟩ :: es' := by
    simpa using hown
  obtain ⟨hqueue, hclosed⟩ := hg.read_queue hheld hrun hown' <| List.forall_mem_append.mpr
    ⟨hes, List.forall_mem_cons.mpr
      ⟨spares_readSubmitted, List.forall_mem_singleton.mpr spares_clearOwner⟩⟩
  exact hclosed.trans (congrArg Queue.isClosed hqueue)

/-- A wait ends with news exactly if the queue was closed at its start, or if at its last look it is
closed or tasks were accepted. -/
lemma Guarded.outcome_of_wait (hg : Guarded v R) (hheld : (v t).isHeld = true)
    (hrun : System.Run R h Q) (hpath : WaitPath delay es₂ outcome)
    (hown : own t h = es₁ ++ (es₂ ++ es₃)) (hbefore : ∀ e ∈ es₁, e.action.role = .aloof)
    (hafter : ∀ e ∈ es₃, e.action.role ≠ .wait) :
    (R.shared.queue.isClosed = true → outcome = .notified) ∧
      (R.shared.queue.isClosed = false → ∃ h₁ e, LastLook t h h₁ e ∧
        (outcome = .notified ↔
          e.before.queue.isClosed = true ∨ ¬ 2 ^ 64 ∣ (pushed h₁).length)) := by
  have hspares : ∀ e ∈ es₁, e.action.sparesQueue := fun e he => spares_of_aloof (hbefore e he)
  cases hpath with
  | closed t₁ t₂ t₃ t₄ seen s₁ s₂ s₃ s₄ =>
      have hclosed := hg.read_closed (_ :: es₃) hheld hrun hspares (by simpa using hown)
      exact ⟨fun _ => rfl, fun hopen => absurd (hclosed.trans hopen) (by decide)⟩
  | waited outcome t₁ t₂ t₃ t₄ t₅ t₆ seen s₁ s₂ s₃ s₄ s₅ s₆ =>
      have hopen := hg.read_closed (_ :: _ :: _ :: es₃) hheld hrun hspares (by simpa using hown)
      refine ⟨fun hclosed => absurd (hopen.trans hclosed) (by decide), fun _ => ?_⟩
      obtain ⟨hqueue, hseen⟩ := hg.read_queue hheld hrun hown hspares
      have hsubmitted : seen = R.shared.queue.submitted :=
        hseen.trans (congrArg Queue.submitted hqueue)
      have hcut : own t h = (es₁ ++ [⟨t₁, .access .readSubmitted, seen, s₁⟩,
          ⟨t₂, .access .clearOwner, (), s₂⟩, ⟨t₃, .access .readClosed, false, s₃⟩,
          ⟨t₄, .access .releaseLock, (), s₄⟩]) ++
          ⟨t₅, .pause (.awaitWork seen delay), outcome, s₅⟩ ::
            ⟨t₆, .access .markOwner, (), s₆⟩ :: es₃ := by
        simpa using hown
      obtain ⟨h₁, h₂, rfl, -, hown₂⟩ := exists_of_own_eq_append_cons hcut
      obtain ⟨S, S', hS, hstep, -⟩ := hrun.at_event
      obtain ⟨hlocked, houtcome, -⟩ := hstep.effect
      obtain rfl : s₅ = S.shared := hstep.before
      have hthread : t₅ = t :=
        (mem_own (e := ⟨t₅, .pause (.awaitWork seen delay), outcome, S.shared⟩)).mp
          (by rw [hown]; simp) |>.2
      refine ⟨h₁, _, ⟨hthread, rfl, hthread ▸ hlocked, h₂, rfl, ?_⟩, ?_⟩
      · rw [hown₂]
        exact List.forall_mem_cons.mpr ⟨by simp [Action.role], hafter⟩
      · rw [show outcome = _ from houtcome, Queue.outcome_eq_notified, hS.submitted, hsubmitted,
          add_ofNat_ne_self, or_comm]

/-- A thread that decides with its own events decides in its own name. -/
lemma decides_own {u : ThreadId} (hdecides : outcome.Decides u w (own t h) x) :
    outcome.Decides t w (own t h) x := by
  obtain ⟨answer, s, hfilter, hx⟩ := hdecides
  have hmem : outcome.request u w answer s ∈ own t h :=
    List.mem_of_mem_filter (hfilter ▸ List.mem_singleton.mpr rfl)
  obtain rfl : u = t := by
    have hthread := (mem_own.mp hmem).2
    cases outcome <;> exact hthread
  exact ⟨answer, s, hfilter, hx⟩

/-- **The hook for an empty queue acts as its wait ended.** Threads share a queue and run any
operations on it, and one of them calls the hook with the lock. If the compiler is not hosted, the
worker is found detached, idling is switched off or the startup grace is not over, then the hook
does nothing and keeps the lock all the time. Otherwise it calls the external runtime once. It
repacks the worker if the queue was closed, or if the queue is closed or tasks were accepted when
the thread looks at it for the last time, whatever became of these tasks; and it detaches the
worker if not. The result says which of the two the external runtime agreed to. -/
theorem idle_as_waited (hlock : P.shared.lock = {}) (hnobody : P.threads 0 = .done ())
    (hclients : ∀ t, Client false (P.threads t)) (hR : System.Run P g R)
    (hrun : System.Run R h Q) (hheld : R.shared.lock.heldBy t)
    (hreturn : R.Returns t (Routine.onEmptyQueue c w) h x) :
    (Stays c w (own t h) →
      x = .ok .none ∧ (∀ e ∈ own t h, e.action.role ≠ .outward) ∧
        (∀ e ∈ h, e.before.lock.heldBy t) ∧ Q.shared.lock.heldBy t) ∧
    (¬ Stays c w (own t h) → ∃ outcome : WaitOutcome, outcome.Decides t w (own t h) x ∧
        (R.shared.queue.isClosed = true → outcome = .notified) ∧
        (R.shared.queue.isClosed = false → ∃ h₁ e, LastLook t h h₁ e ∧
          (outcome = .notified ↔
            e.before.queue.isClosed = true ∨ ¬ 2 ^ 64 ∣ (pushed h₁).length) ∧
          ((pushed h₁).length < 2 ^ 64 →
            (outcome = .notified ↔ e.before.queue.isClosed = true ∨ pushed h₁ ≠ [])))) := by
  have hguarded := (guarded_of_clients hlock hnobody hclients).run hR
  have hmarked := hguarded.marked_iff.mpr hheld
  obtain ⟨hstays, rfl, haloof⟩ | ⟨hwaits, es₁, es₂, es₃, delay, outcome, u, hown, haloof, hpath,
    hafter, hdecides⟩ := Routine.stays_or_decides hreturn.2
  · refine ⟨fun _ => ⟨rfl, fun e he => ?_, hguarded.held_throughout hheld hrun haloof⟩,
      fun hnot => absurd hstays hnot⟩
    rw [haloof e he]
    decide
  · refine ⟨fun hstays => absurd hstays hwaits, fun _ => ⟨outcome, ?_, ?_⟩⟩
    · exact decides_own hdecides
    · obtain ⟨hclosed, hopen⟩ := hguarded.outcome_of_wait (by rw [hmarked]; rfl) hrun hpath hown
        haloof hafter
      refine ⟨hclosed, fun h' => ?_⟩
      obtain ⟨h₁, e, hlast, hiff⟩ := hopen h'
      refine ⟨h₁, e, hlast, hiff, fun hfew => hiff.trans (or_congr_right ?_)⟩
      rw [Ne, ← List.length_eq_zero_iff]
      omega

end Runs

/-- The first thread finds the queue empty, and the second brings a task and takes it away again. -/
def idlePair : System where
  shared := {}
  threads
    | 1 => Routine.lock.bind fun _ => (Routine.onEmptyQueue hostedConfig 7).bind fun
        | .ok .repacked => .done ()
        | _ => .more
    | 2 => (Routine.submit plainTask).bind fun _ => Routine.lock.bind fun _ =>
        (Routine.access .popTask).bind fun _ => Routine.unlock.bind fun _ => .done ()
    | _ => .done ()

/-- The first thread takes the lock. -/
def pairStart : List Event × System :=
  idlePair.play Call.silence [1, 1]

/-- The task comes and goes while the first thread waits. -/
def pairRun : List Event × System :=
  pairStart.2.play Call.silence (List.replicate 6 1 ++ List.replicate 12 2 ++ List.replicate 8 1)

/-- The task is gone when the worker looks, and the worker is repacked all the same. -/
theorem idle_as_waited_taken :
    popped pairRun.1 = [plainTask] ∧ ∃ h₁ e, LastLook 1 pairRun.1 h₁ e ∧ pushed h₁ ≠ [] ∧
      pairStart.2.Returns 1 (Routine.onEmptyQueue hostedConfig 7) pairRun.1 (.ok .repacked) := by
  have hclients : ∀ t, Client false (idlePair.threads t) := by
    intro t
    simp only [idlePair]
    split
    · refine .operate .lock fun _ => .operate (.onEmptyQueue _ _) fun x => ?_
      split <;> constructor
    · exact .operate (.submit _) fun _ => .operate .lock fun _ => .operate (.visit rfl) fun _ =>
        .operate .unlock fun _ => .done
    · exact .done
  have hstart : System.Run idlePair pairStart.1 pairStart.2 := System.run_play _ _ _
  have hrun : System.Run pairStart.2 pairRun.1 pairRun.2 := System.run_play _ _ _
  have hdone : (pairRun.2.threads 1).isDone = true := by decide +kernel
  have hheld : pairStart.2.shared.lock.heldBy 1 := ⟨by decide +kernel, by decide +kernel⟩
  obtain ⟨x, hx, hreturn⟩ := hrun.exists_returns (t := 1)
    (r := Routine.onEmptyQueue hostedConfig 7) rfl
    (by intro x; split <;> first | exact .inl rfl | exact .inr rfl) hdone
  have hrepacked : x = .ok .repacked := by
    split at hx
    · rfl
    · cases hx
  subst hrepacked
  obtain ⟨hstays, hdecides⟩ := idle_as_waited rfl rfl hclients hstart hrun hheld hreturn
  obtain ⟨outcome, ⟨answer, s, -, hanswer⟩, -, hlook⟩ :=
    hdecides fun h => nomatch (hstays h).1
  have houtcome : outcome = .notified := by
    cases answer <;> cases outcome <;> first | rfl | cases hanswer
  obtain ⟨h₁, e, hlast, -, hnews⟩ := hlook (by decide +kernel)
  obtain ⟨h₂, hsplit, -⟩ := hlast.last
  have hfew : (pushed h₁).length ≤ 1 := by
    have hpushed : (pushed pairRun.1).length = 1 := by decide +kernel
    rw [← hpushed, hsplit, pushed_append, List.length_append]
    exact Nat.le_add_right _ _
  have hopen : pairRun.1.all (!·.before.queue.isClosed) = true := by decide +kernel
  have he : e.before.queue.isClosed = false := by
    simpa using List.all_eq_true.mp hopen e (by rw [hsplit]; simp)
  refine ⟨by decide +kernel, h₁, e, hlast, ?_, hreturn⟩
  simpa [he] using (hnews (by omega)).mp houtcome

end ExternalCompiler
