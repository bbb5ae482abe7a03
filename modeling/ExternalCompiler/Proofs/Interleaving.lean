/-
Threads that share one state, and their runs:

* `Routine.Leads`: what is left of a routine after some of its actions were answered;
  `leads_bind_done` splits the events of one routine after the other;
* `Routine.Only`: all actions of a routine are of one kind;
* `Effect`: what an action of a thread may answer and what it does; `Keeps`: what an action leaves
  alone;
* `System`, `System.Run`: the threads act in any order, and a run has a history of events;
* `System.Run.leads`: a run leads each thread through its own events (`own`);
* `System.play`: a run for a schedule;
* `System.Run.seen`: what the other threads leave alone evolves by a thread's own events.
-/
import Mathlib.Data.List.Basic
import Mathlib.Logic.Function.Basic
import ExternalCompiler.Routine

namespace ExternalCompiler

/-! ### Events -/

/-- An event: what a thread did, the answer that it got, and the shared state right before. -/
structure Event where
  thread : ThreadId
  action : Action
  answer : action.Answer
  before : Shared

/-- The events of one thread. -/
def own (t : ThreadId) (h : List Event) : List Event :=
  h.filter (·.thread = t)

@[simp] lemma own_nil (t : ThreadId) : own t [] = [] := rfl

@[simp] lemma own_append (t : ThreadId) (h h' : List Event) :
    own t (h ++ h') = own t h ++ own t h' :=
  List.filter_append h h'

lemma own_cons_self {e : Event} {t : ThreadId} (he : e.thread = t) (h : List Event) :
    own t (e :: h) = e :: own t h := by
  simp [own, he]

lemma own_cons_other {e : Event} {t : ThreadId} (he : e.thread ≠ t) (h : List Event) :
    own t (e :: h) = own t h := by
  simp [own, he]

lemma mem_own {t : ThreadId} {h : List Event} {e : Event} :
    e ∈ own t h ↔ e ∈ h ∧ e.thread = t := by
  simp [own]

/-- What no own event of a thread is, no event is on behalf of this thread. -/
lemma forall_not_of_own {t : ThreadId} {h : List Event} {p : Event → Bool}
    (hp : ∀ e ∈ own t h, p e = false) : ∀ e ∈ h, (!(e.thread == t && p e)) = true := by
  intro e he
  by_cases ht : e.thread = t
  · simp [hp e (mem_own.mpr ⟨he, ht⟩)]
  · simp [ht]

/-- Where a thread's own events are cut, the whole history can be cut. -/
lemma exists_of_own_eq_append_cons {t : ThreadId} {h es es' : List Event} {e : Event}
    (ho : own t h = es ++ e :: es') :
    ∃ h₁ h₂, h = h₁ ++ e :: h₂ ∧ own t h₁ = es ∧ own t h₂ = es' := by
  obtain ⟨h₁, h₂', rfl, ho₁, ho₂⟩ := List.filter_eq_append_iff.mp ho
  obtain ⟨l, h₂, rfl, hl, -, ho₂⟩ := List.filter_eq_cons_iff.mp ho₂
  refine ⟨h₁ ++ l, h₂, by simp, ?_, ho₂⟩
  have hl' : own t l = [] := List.filter_eq_nil_iff.mpr hl
  rw [own_append, hl', List.append_nil]
  exact ho₁

namespace Routine

variable {α β γ : Type}

/-! ### One routine after the other -/

@[simp] lemma bind_eq (r : Routine α) (f : α → Routine β) : (r >>= f) = r.bind f := rfl

@[simp] lemma pure_eq (a : α) : (pure a : Routine α) = done a := rfl

@[simp] lemma done_bind (a : α) (f : α → Routine β) : (done a).bind f = f a := rfl

@[simp] lemma more_bind (f : α → Routine β) : (more : Routine α).bind f = more := rfl

@[simp] lemma act_bind (a : Action) (next : a.Answer → Routine α) (f : α → Routine β) :
    (act a next).bind f = act a fun x => (next x).bind f := rfl

@[simp] lemma access_bind (a : Access) (f : a.Answer → Routine β) :
    (access a).bind f = act (.access a) f := rfl

@[simp] lemma pause_bind (p : Pause) (f : p.Answer → Routine β) :
    (pause p).bind f = act (.pause p) f := rfl

@[simp] lemma call_bind (c : Call) (f : c.Answer → Routine β) :
    (call c).bind f = act (.call c) f := rfl

lemma bind_assoc (r : Routine α) (f : α → Routine β) (g : β → Routine γ) :
    (r.bind f).bind g = r.bind fun a => (f a).bind g := by
  induction r with
  | done a => rfl
  | act a next ih => exact congrArg (act a) (funext ih)
  | more => rfl

/-- Whether a routine is done. -/
def isDone : Routine α → Bool
  | done _ => true
  | _ => false

/-! ### Answered actions -/

/-- `r.Leads es r'`: after the events `es`, which answer its actions, `r'` is left of `r`. -/
inductive Leads : Routine α → List Event → Routine α → Prop
  | refl (r : Routine α) : Leads r [] r
  | act {a : Action} {next : a.Answer → Routine α} {r : Routine α} {es : List Event}
      (t : ThreadId) (x : a.Answer) (s : Shared) (h : Leads (next x) es r) :
      Leads (.act a next) (⟨t, a, x, s⟩ :: es) r

lemma Leads.trans {r r' r'' : Routine α} {es es' : List Event} (h : r.Leads es r')
    (h' : r'.Leads es' r'') : r.Leads (es ++ es') r'' := by
  induction h with
  | refl r => exact h'
  | act t x s _ ih => exact .act t x s (ih h')

/-- What goes before a continuation leads on with the continuation behind it. -/
lemma Leads.bind {r r' : Routine α} {es : List Event} (h : r.Leads es r') (f : α → Routine β) :
    (r.bind f).Leads es (r'.bind f) := by
  induction h with
  | refl r => exact .refl _
  | act t x s _ ih => exact .act t x s ih

/-- The answers decide what is left of a routine. -/
lemma Leads.unique {r r' r'' : Routine α} {es : List Event} (h : r.Leads es r')
    (h' : r.Leads es r'') : r' = r'' := by
  induction h with
  | refl r =>
      cases h'
      rfl
  | act t x s _ ih =>
      cases h' with
      | act _ _ _ h' => exact ih h'

/-- What follows on the first events leads on from what they left. -/
lemma Leads.of_append {r r' r'' : Routine α} {es es' : List Event}
    (h : r.Leads (es ++ es') r'') (h' : r.Leads es r') : r'.Leads es' r'' := by
  induction h' with
  | refl r => exact h
  | act t x s _ ih =>
      cases h with
      | act _ _ _ h => exact ih h

@[simp] lemma leads_done {a : α} {es : List Event} {r : Routine α} :
    (done a).Leads es r ↔ es = [] ∧ r = done a := by
  constructor
  · rintro ⟨⟩
    exact ⟨rfl, rfl⟩
  · rintro ⟨rfl, rfl⟩
    exact .refl _

lemma not_leads_more_done {a : α} {es : List Event} : ¬ (more : Routine α).Leads es (done a) := by
  rintro ⟨⟩

/-- A routine that acts and is done afterwards had its first action answered. -/
lemma leads_act_done {a : Action} {next : a.Answer → Routine α} {es : List Event} {b : α} :
    (act a next).Leads es (done b) ↔
      ∃ t x s es', es = ⟨t, a, x, s⟩ :: es' ∧ (next x).Leads es' (done b) := by
  constructor
  · rintro (_ | ⟨t, x, s, h⟩)
    exact ⟨t, x, s, _, rfl, h⟩
  · rintro ⟨t, x, s, es', rfl, h⟩
    exact .act t x s h

lemma leads_access_done {a : Access} {f : a.Answer → Routine α} {es : List Event} {b : α} :
    ((access a).bind f).Leads es (done b) ↔
      ∃ t x s es', es = ⟨t, .access a, x, s⟩ :: es' ∧ (f x).Leads es' (done b) :=
  leads_act_done

lemma leads_pause_done {p : Pause} {f : p.Answer → Routine α} {es : List Event} {b : α} :
    ((pause p).bind f).Leads es (done b) ↔
      ∃ t x s es', es = ⟨t, .pause p, x, s⟩ :: es' ∧ (f x).Leads es' (done b) :=
  leads_act_done

lemma leads_call_done {c : Call} {f : c.Answer → Routine α} {es : List Event} {b : α} :
    ((call c).bind f).Leads es (done b) ↔
      ∃ t x s es', es = ⟨t, .call c, x, s⟩ :: es' ∧ (f x).Leads es' (done b) :=
  leads_act_done

/-- The events of one routine after the other are the events of the first, which brings a result,
and then those of the second. -/
lemma leads_bind_done {r : Routine α} {f : α → Routine β} {es : List Event} {b : β} :
    (r.bind f).Leads es (done b) ↔
      ∃ es₁ es₂ a, es = es₁ ++ es₂ ∧ r.Leads es₁ (done a) ∧ (f a).Leads es₂ (done b) := by
  constructor
  · intro h
    induction r generalizing es with
    | done a => exact ⟨[], es, a, rfl, .refl _, h⟩
    | act a next ih =>
        obtain ⟨t, x, s, es', rfl, h'⟩ := leads_act_done.mp h
        obtain ⟨es₁, es₂, y, rfl, h₁, h₂⟩ := ih x h'
        exact ⟨⟨t, a, x, s⟩ :: es₁, es₂, y, rfl, .act t x s h₁, h₂⟩
    | more => exact absurd h not_leads_more_done
  · rintro ⟨es₁, es₂, a, rfl, h₁, h₂⟩
    exact (h₁.bind f).trans h₂

/-- What is left of one routine after the other is left of the first, or the first is done and it is
left of the second. -/
lemma Leads.of_bind {r : Routine α} {f : α → Routine β} {es : List Event} {r' : Routine β}
    (h : (r.bind f).Leads es r') :
    (∃ q, r.Leads es q ∧ r' = q.bind f) ∨
      ∃ es₁ es₂ a, es = es₁ ++ es₂ ∧ r.Leads es₁ (done a) ∧ (f a).Leads es₂ r' := by
  induction r generalizing es with
  | done a => exact .inr ⟨[], es, a, rfl, .refl _, h⟩
  | act a next ih =>
      cases h with
      | refl => exact .inl ⟨_, .refl _, rfl⟩
      | act t x s h =>
          obtain ⟨q, hq, rfl⟩ | ⟨es₁, es₂, b, rfl, h₁, h₂⟩ := ih x h
          · exact .inl ⟨q, .act t x s hq, rfl⟩
          · exact .inr ⟨_ :: es₁, es₂, b, rfl, .act t x s h₁, h₂⟩
  | more =>
      cases h
      exact .inl ⟨more, .refl _, rfl⟩

/-! ### Kinds of actions -/

/-- All actions of a routine are of one kind. -/
def Only (p : Action → Prop) : Routine α → Prop
  | done _ => True
  | act a next => p a ∧ ∀ x, (next x).Only p
  | more => True

section Only

variable {p : Action → Prop}

@[simp] lemma only_done (a : α) : (done a).Only p := trivial

@[simp] lemma only_more : (more : Routine α).Only p := trivial

lemma only_access {a : Access} : (access a).Only p ↔ p (.access a) :=
  ⟨fun h => h.1, fun h => ⟨h, fun _ => trivial⟩⟩

lemma only_pause {q : Pause} : (pause q).Only p ↔ p (.pause q) :=
  ⟨fun h => h.1, fun h => ⟨h, fun _ => trivial⟩⟩

lemma only_call {c : Call} : (call c).Only p ↔ p (.call c) :=
  ⟨fun h => h.1, fun h => ⟨h, fun _ => trivial⟩⟩

lemma only_ite {b : Prop} [Decidable b] {r r' : Routine α} (h : r.Only p) (h' : r'.Only p) :
    (if b then r else r').Only p := by
  split
  · exact h
  · exact h'

lemma Only.bind {r : Routine α} {f : α → Routine β} (hr : r.Only p) (hf : ∀ a, (f a).Only p) :
    (r.bind f).Only p := by
  induction r with
  | done a => exact hf a
  | act a next ih => exact ⟨hr.1, fun x => ih x (hr.2 x)⟩
  | more => trivial

lemma Only.mono {q : Action → Prop} {r : Routine α} (hr : r.Only p) (h : ∀ a, p a → q a) :
    r.Only q := by
  induction r with
  | done a => trivial
  | act a next ih => exact ⟨h a hr.1, fun x => ih x (hr.2 x)⟩
  | more => trivial

/-- What is left of a routine is of the same kind, and so is what it did. -/
lemma Only.leads {r r' : Routine α} {es : List Event} (hr : r.Only p) (h : r.Leads es r') :
    r'.Only p ∧ ∀ e ∈ es, p e.action := by
  induction h with
  | refl r => exact ⟨hr, by simp⟩
  | act t x s _ ih =>
      obtain ⟨hr', hes⟩ := ih (hr.2 x)
      exact ⟨hr', List.forall_mem_cons.mpr ⟨hr.1, hes⟩⟩

end Only

end Routine

/-! ### Effects -/

/-- Gives the queue lock to a thread or to no thread. -/
def Shared.setHolder (s : Shared) (holder : Option ThreadId) : Shared :=
  { s with lock := { s.lock with holder := holder } }

/-- Whether a task was accepted since the number of acceptances was `seen`, or the queue is
closed. -/
def Queue.hasNews (q : Queue) (seen : UInt64) : Bool :=
  q.submitted != seen || q.isClosed

/-- How a wait ends at a look at the queue. -/
def Queue.outcome (q : Queue) (seen : UInt64) : WaitOutcome :=
  if q.hasNews seen then .notified else .timedOut

/-- `Effect me s a x s'`: when the thread `me` does `a` in the state `s`, it may be answered `x`
and leave the state `s'`. A thread takes the lock only when no thread holds it; a wait ends at a
look at the queue, under the lock; what is around answers as it likes. -/
def Effect (me : ThreadId) (s : Shared) : (a : Action) → a.Answer → Shared → Prop
  | .access a, x, s' => a.perform me s = (x, s')
  | .pause .takeLock, _, s' => s.lock.holder = none ∧ s' = s.setHolder (some me)
  | .pause (.awaitWork seen _), x, s' =>
      s.lock.holder = some me ∧ x = s.queue.outcome seen ∧ s' = s
  | .pause (.sleep _), _, s' => s' = s
  | .call _, _, s' => s' = s

lemma effect_access {me : ThreadId} {s s' : Shared} {a : Access} {x : a.Answer} :
    Effect me s (.access a) x s' ↔ x = (a.perform me s).1 ∧ s' = (a.perform me s).2 := by
  rw [Effect, Prod.ext_iff, eq_comm, @eq_comm _ s']

/-! ### What actions leave alone -/

/-- An action of this kind never changes a view of the state. -/
def Keeps {β : Type} (v : Shared → β) (a : Action) : Prop :=
  ∀ me s x s', Effect me s a x s' → v s' = v s

/-- Only accesses change what does not show the lock. -/
lemma keeps_of_perform {β : Type} {v : Shared → β} {a : Action}
    (hlock : ∀ s holder, v (s.setHolder holder) = v s)
    (haccess : ∀ b, a = .access b → ∀ me s, v (b.perform me s).2 = v s) : Keeps v a := by
  intro me s x s' heff
  cases a with
  | access b =>
      rw [(effect_access.mp heff).2]
      exact haccess b rfl me s
  | pause p =>
      cases p with
      | takeLock => rw [heff.2, hlock]
      | awaitWork seen millis => rw [heff.2.2]
      | sleep millis => exact congrArg v heff
  | call c => exact congrArg v heff

namespace Action

/-- The action may change the compile-the-world flag. -/
def writesFlag : Action → Bool
  | .access (.storeFlag _) | .access (.swapFlag _) => true
  | _ => false

/-- The action may change the state of the service. -/
def writesState : Action → Bool
  | .access (.storeState _) | .access .claimStartup => true
  | _ => false

/-- The action may open or close the bootstrap window. -/
def writesWindow : Action → Bool
  | .access .openWindow | .access .closeWindow => true
  | _ => false

/-- The action may change a worker. -/
def writesWorker (w : Nat) : Action → Bool
  | .access (.storeAttached v _) | .access (.countRepack v) => v == w
  | _ => false

end Action

lemma keeps_flag {a : Action} (h : a.writesFlag = false) : Keeps (·.compileTheWorld) a := by
  refine keeps_of_perform (fun s holder => rfl) ?_
  rintro b rfl me s
  cases b with
  | storeFlag | swapFlag => cases h
  | claimStartup | openWindow => simp only [Access.perform]; split <;> rfl
  | _ => rfl

lemma keeps_state {a : Action} (h : a.writesState = false) : Keeps (·.service.state) a := by
  refine keeps_of_perform (fun s holder => rfl) ?_
  rintro b rfl me s
  cases b with
  | storeState | claimStartup => cases h
  | openWindow => simp only [Access.perform]; split <;> rfl
  | _ => rfl

lemma keeps_window {a : Action} (h : a.writesWindow = false) :
    Keeps (·.service.isBootstrapping) a := by
  refine keeps_of_perform (fun s holder => rfl) ?_
  rintro b rfl me s
  cases b with
  | openWindow | closeWindow => cases h
  | claimStartup => simp only [Access.perform]; split <;> rfl
  | _ => rfl

lemma keeps_worker {a : Action} {w : Nat} (h : a.writesWorker w = false) :
    Keeps (·.workers w) a := by
  refine keeps_of_perform (fun s holder => rfl) ?_
  rintro b rfl me s
  cases b with
  | storeAttached v _ | countRepack v =>
      have hwv : w ≠ v := by
        rintro rfl
        simp [Action.writesWorker] at h
      exact if_neg hwv
  | claimStartup | openWindow => simp only [Access.perform]; split <;> rfl
  | _ => rfl

/-- No action changes the number of a worker. -/
lemma keeps_workerId (w : Nat) (a : Action) : Keeps (fun s => (s.workers w).id) a := by
  refine keeps_of_perform (fun s holder => rfl) ?_
  rintro b rfl me s
  cases b with
  | storeAttached v _ | countRepack v =>
      by_cases hwv : w = v
      · subst hwv
        simp [Access.perform, Shared.onWorker]
      · simp [Access.perform, Shared.onWorker, hwv]
  | claimStartup | openWindow => simp only [Access.perform]; split <;> rfl
  | _ => rfl

/-! ### Systems -/

/-- The state that threads share and what each thread has still to do. -/
structure System where
  shared : Shared
  threads : ThreadId → Routine Unit

namespace System

/-- A thread acts. -/
inductive Step : System → Event → System → Prop
  | act {P : System} {t : ThreadId} {a : Action} {next : a.Answer → Routine Unit} {x : a.Answer}
      {s : Shared} (hact : P.threads t = .act a next) (heff : Effect t P.shared a x s) :
      Step P ⟨t, a, x, P.shared⟩ ⟨s, Function.update P.threads t (next x)⟩

/-- A thread that awaits work takes the lock for a look at the queue, or gives it back because
there is no news. -/
inductive Look : System → System → Prop
  | take {P : System} {t : ThreadId} {seen : UInt64} {millis : Nat}
      {next : WaitOutcome → Routine Unit}
      (hact : P.threads t = .act (.pause (.awaitWork seen millis)) next)
      (hfree : P.shared.lock.holder = none) :
      Look P { P with shared := P.shared.setHolder (some t) }
  | giveBack {P : System} {t : ThreadId} {seen : UInt64} {millis : Nat}
      {next : WaitOutcome → Routine Unit}
      (hact : P.threads t = .act (.pause (.awaitWork seen millis)) next)
      (hheld : P.shared.lock.holder = some t) (hnews : P.shared.queue.hasNews seen = false) :
      Look P { P with shared := P.shared.setHolder none }

/-- `Run P h Q`: the threads act in some order, and the history of their events is `h`. -/
inductive Run : System → List Event → System → Prop
  | refl (P : System) : Run P [] P
  | step {P Q R : System} {e : Event} {h : List Event} (hstep : Step P e Q) (hrun : Run Q h R) :
      Run P (e :: h) R
  | look {P Q R : System} {h : List Event} (hlook : Look P Q) (hrun : Run Q h R) : Run P h R

lemma Step.before {P Q : System} {e : Event} (h : Step P e Q) : e.before = P.shared := by
  cases h
  rfl

lemma Step.effect {P Q : System} {e : Event} (h : Step P e Q) :
    Effect e.thread P.shared e.action e.answer Q.shared := by
  cases h with
  | act _ heff => exact heff

/-- The other threads stay where they are. -/
lemma Step.threads_other {P Q : System} {e : Event} (h : Step P e Q) {t : ThreadId}
    (ht : e.thread ≠ t) : Q.threads t = P.threads t := by
  cases h
  exact Function.update_of_ne ht.symm _ _

/-- The thread that acts goes on with its answer. -/
lemma Step.leads {P Q : System} {e : Event} (h : Step P e Q) :
    (P.threads e.thread).Leads [e] (Q.threads e.thread) := by
  cases h with
  | act hact _ =>
      simp only [hact, Function.update_self]
      exact .act _ _ _ (.refl _)

lemma Look.threads {P Q : System} (h : Look P Q) : Q.threads = P.threads := by
  cases h <;> rfl

/-- A look moves nothing but the lock. -/
lemma Look.shared {P Q : System} (h : Look P Q) :
    ∃ holder, Q.shared = P.shared.setHolder holder := by
  cases h <;> exact ⟨_, rfl⟩

namespace Run

variable {P Q R : System} {h h' : List Event} {t : ThreadId}

lemma trans (hr : Run P h Q) (hr' : Run Q h' R) : Run P (h ++ h') R := by
  induction hr with
  | refl P => exact hr'
  | step hstep _ ih => exact .step hstep (ih hr')
  | look hlook _ ih => exact .look hlook (ih hr')

/-- A run passes through a state after each part of its history. -/
lemma split (hr : Run P (h ++ h') R) : ∃ Q, Run P h Q ∧ Run Q h' R := by
  generalize hh : h ++ h' = g at hr
  induction hr generalizing h with
  | refl P =>
      obtain ⟨rfl, rfl⟩ := List.append_eq_nil_iff.mp hh
      exact ⟨P, .refl P, .refl P⟩
  | @step P₁ Q₁ R₁ e g hstep hrun ih =>
      cases h with
      | nil =>
          subst hh
          exact ⟨P₁, .refl P₁, .step hstep hrun⟩
      | cons e' h =>
          obtain ⟨rfl, rfl⟩ := List.cons_eq_cons.mp hh
          obtain ⟨Q, h₁, h₂⟩ := ih rfl
          exact ⟨Q, .step hstep h₁, h₂⟩
  | look hlook _ ih =>
      obtain ⟨Q, h₁, h₂⟩ := ih hh
      exact ⟨Q, .look hlook h₁, h₂⟩

/-- A run with a first event comes to the step of this event. -/
lemma uncons {e : Event} (hr : Run P (e :: h) R) :
    ∃ P' Q, Run P [] P' ∧ Step P' e Q ∧ Run Q h R := by
  generalize hh : e :: h = g at hr
  induction hr with
  | refl P => cases hh
  | step hstep hrun _ =>
      obtain ⟨rfl, rfl⟩ := List.cons_eq_cons.mp hh
      exact ⟨_, _, .refl _, hstep, hrun⟩
  | look hlook _ ih =>
      obtain ⟨P', Q, h₁, h₂, h₃⟩ := ih hh
      exact ⟨P', Q, .look hlook h₁, h₂, h₃⟩

/-- Every event of a run is a step of it. -/
lemma at_event {e : Event} (hr : Run P (h ++ e :: h') R) :
    ∃ Q Q', Run P h Q ∧ Step Q e Q' ∧ Run Q' h' R := by
  obtain ⟨Q₀, h₁, h₂⟩ := hr.split
  obtain ⟨Q, Q', h₃, hstep, h₄⟩ := h₂.uncons
  exact ⟨Q, Q', by simpa using h₁.trans h₃, hstep, h₄⟩

/-- Every event of a run has its effect. -/
lemma effect_of_mem (hr : Run P h Q) {e : Event} (he : e ∈ h) :
    ∃ s, Effect e.thread e.before e.action e.answer s := by
  obtain ⟨h₁, h₂, rfl⟩ := List.append_of_mem he
  obtain ⟨R, R', -, hstep, -⟩ := hr.at_event
  exact ⟨R'.shared, hstep.before ▸ hstep.effect⟩

/-- What holds at the start of a run and is kept by its steps and looks holds all along it. -/
lemma invariant {I : List Event → System → Prop} (hr : Run P h Q) (hstart : I [] P)
    (hstep : ∀ g R e R', Run P g R → I g R → Step R e R' → I (g ++ [e]) R')
    (hlook : ∀ g R R', Run P g R → I g R → Look R R' → I g R') : I h Q := by
  suffices hmain : ∀ g R, Run P g R → I g R → Run R h Q → I (g ++ h) Q from
    hmain [] P (.refl P) hstart hr
  intro g R hg hI hrest
  clear hr
  induction hrest generalizing g with
  | refl R => simpa using hI
  | @step R R' Q e h hs _ ih =>
      rw [List.append_cons]
      exact ih _ (hg.trans (.step hs (.refl _))) (hstep _ _ _ _ hg hI hs)
  | look hl _ ih => exact ih _ (by simpa using hg.trans (.look hl (.refl _))) (hlook _ _ _ hg hI hl)

/-- A run leads each thread through its own events. -/
theorem leads (hr : Run P h Q) (t : ThreadId) :
    (P.threads t).Leads (own t h) (Q.threads t) := by
  induction hr with
  | refl P => exact .refl _
  | @step P Q R e h hstep _ ih =>
      by_cases he : e.thread = t
      · rw [own_cons_self he]
        subst he
        exact hstep.leads.trans ih
      · rw [own_cons_other he, ← hstep.threads_other he]
        exact ih
  | look hlook _ ih =>
      rw [hlook.threads] at ih
      exact ih

end Run

/-! ### Routines inside a run -/

/-- With the history `h`, the thread `t` of `P` runs the routine `r` to its end, with the result
`a`; whatever it does afterwards is not looked at. -/
def Returns {α : Type} (P : System) (t : ThreadId) (r : Routine α) (h : List Event) (a : α) :
    Prop :=
  (∃ k, P.threads t = r.bind k) ∧ r.Leads (own t h) (.done a)

/-- A thread that does nothing after a routine, and is done, ran the routine to its end, with a
result after which it is done. -/
lemma Run.exists_returns {α : Type} {P Q : System} {h : List Event} {t : ThreadId}
    {r : Routine α} {k : α → Routine Unit} (hr : Run P h Q) (hstart : P.threads t = r.bind k)
    (hk : ∀ a, k a = .done () ∨ k a = .more) (hdone : (Q.threads t).isDone = true) :
    ∃ a, k a = .done () ∧ P.Returns t r h a := by
  have hl := hr.leads t
  cases hq : Q.threads t with
  | done u =>
      rw [hstart, hq] at hl
      obtain ⟨es₁, es₂, a, hown, h₁, h₂⟩ := Routine.leads_bind_done.mp hl
      rcases hk a with ha | ha
      · rw [ha] at h₂
        obtain ⟨rfl, -⟩ := Routine.leads_done.mp h₂
        rw [List.append_nil] at hown
        exact ⟨a, ha, ⟨k, hstart⟩, hown ▸ h₁⟩
      · rw [ha] at h₂
        exact absurd h₂ Routine.not_leads_more_done
  | act a next => rw [hq] at hdone; cases hdone
  | more => rw [hq] at hdone; cases hdone

/-! ### Playing a schedule -/

/-- Lets a thread act if it can; what is around answers with `answer`, and a thread that awaits
work looks once and does not wait any longer. -/
def next? (answer : (c : Call) → c.Answer) (P : System) (t : ThreadId) :
    Option (Event × System) :=
  match P.threads t with
  | .done _ => none
  | .more => none
  | .act (.access a) next =>
      some (⟨t, .access a, (a.perform t P.shared).1, P.shared⟩,
        ⟨(a.perform t P.shared).2, Function.update P.threads t (next (a.perform t P.shared).1)⟩)
  | .act (.pause .takeLock) next =>
      if P.shared.lock.holder = none then
        some (⟨t, .pause .takeLock, (), P.shared⟩,
          ⟨P.shared.setHolder (some t), Function.update P.threads t (next ())⟩)
      else none
  | .act (.pause (.awaitWork seen millis)) next =>
      if P.shared.lock.holder = none then
        some (⟨t, .pause (.awaitWork seen millis), P.shared.queue.outcome seen,
            P.shared.setHolder (some t)⟩,
          ⟨P.shared.setHolder (some t),
            Function.update P.threads t (next (P.shared.queue.outcome seen))⟩)
      else none
  | .act (.pause (.sleep millis)) next =>
      some (⟨t, .pause (.sleep millis), (), P.shared⟩,
        ⟨P.shared, Function.update P.threads t (next ())⟩)
  | .act (.call c) next =>
      some (⟨t, .call c, answer c, P.shared⟩,
        ⟨P.shared, Function.update P.threads t (next (answer c))⟩)

/-- Lets threads act in the given order and keeps the history. -/
def play (answer : (c : Call) → c.Answer) (P : System) : List ThreadId → List Event × System
  | [] => ([], P)
  | t :: rest =>
      match P.next? answer t with
      | none => P.play answer rest
      | some (e, Q) => (e :: (Q.play answer rest).1, (Q.play answer rest).2)

lemma run_next? {answer : (c : Call) → c.Answer} {P Q : System} {t : ThreadId} {e : Event}
    (h : P.next? answer t = some (e, Q)) : Run P [e] Q := by
  rw [next?] at h
  split at h
  · cases h
  · cases h
  next hact =>
    cases h
    exact .step (.act hact (effect_access.mpr ⟨rfl, rfl⟩)) (.refl _)
  next hact =>
    split_ifs at h with hfree
    cases h
    exact .step (.act hact ⟨hfree, rfl⟩) (.refl _)
  next hact =>
    split_ifs at h with hfree
    cases h
    exact .look (.take hact hfree) (.step (.act hact ⟨rfl, rfl, rfl⟩) (.refl _))
  next hact =>
    cases h
    exact .step (.act hact rfl) (.refl _)
  next hact =>
    cases h
    exact .step (.act hact rfl) (.refl _)

/-- What is played is a run. -/
theorem run_play (answer : (c : Call) → c.Answer) (ts : List ThreadId) (P : System) :
    Run P (P.play answer ts).1 (P.play answer ts).2 := by
  induction ts generalizing P with
  | nil => exact .refl P
  | cons t rest ih =>
      rw [play]
      split
      · exact ih P
      next e Q hnext => exact (run_next? hnext).trans (ih Q)

end System

/-! ### Views of the state -/

/-- `Seen v b es c`: the events `es` happened where the view `v` of the state showed `b` at first,
and each later event what the one before it left; at the end it shows `c`. -/
inductive Seen {β : Type} (v : Shared → β) : β → List Event → β → Prop
  | nil (b : β) : Seen v b [] b
  | cons {b c : β} {e : Event} {es : List Event} {s : Shared} (hb : v e.before = b)
      (heff : Effect e.thread e.before e.action e.answer s) (hseen : Seen v (v s) es c) :
      Seen v b (e :: es) c

section Seen

variable {β : Type} {v : Shared → β} {b c : β} {es es' : List Event}

lemma seen_nil : Seen v b [] c ↔ c = b := by
  constructor
  · rintro ⟨⟩
    rfl
  · rintro rfl
    exact .nil _

lemma seen_cons {e : Event} :
    Seen v b (e :: es) c ↔
      v e.before = b ∧
        ∃ s, Effect e.thread e.before e.action e.answer s ∧ Seen v (v s) es c := by
  constructor
  · rintro (_ | ⟨hb, heff, hseen⟩)
    exact ⟨hb, _, heff, hseen⟩
  · rintro ⟨hb, s, heff, hseen⟩
    exact .cons hb heff hseen

lemma seen_append : Seen v b (es ++ es') c ↔ ∃ m, Seen v b es m ∧ Seen v m es' c := by
  induction es generalizing b with
  | nil => simp [seen_nil]
  | cons e es ih =>
      simp only [List.cons_append, seen_cons, ih]
      constructor
      · rintro ⟨hb, s, heff, m, h₁, h₂⟩
        exact ⟨m, ⟨hb, s, heff, h₁⟩, h₂⟩
      · rintro ⟨m, ⟨hb, s, heff, h₁⟩, h₂⟩
        exact ⟨hb, s, heff, m, h₁, h₂⟩

/-- Events that keep a view all see the same. -/
lemma Seen.of_keeps (hs : Seen v b es c) (hk : ∀ e ∈ es, Keeps v e.action) :
    c = b ∧ ∀ e ∈ es, v e.before = b := by
  induction hs with
  | nil b => exact ⟨rfl, by simp⟩
  | cons hb heff _ ih =>
      obtain ⟨hke, hkes⟩ := List.forall_mem_cons.mp hk
      have hv := hke _ _ _ _ heff
      obtain ⟨rfl, hes⟩ := ih hkes
      refine ⟨hv.trans hb, List.forall_mem_cons.mpr ⟨hb, ?_⟩⟩
      exact fun e he => ((hes e he).trans hv).trans hb

/-- After an event that keeps a view, the rest sees the same. -/
lemma Seen.tail_of_keeps {e : Event} (hs : Seen v b (e :: es) c) (hk : Keeps v e.action) :
    v e.before = b ∧ Seen v b es c := by
  obtain ⟨hb, s, heff, hrest⟩ := seen_cons.mp hs
  rw [hk _ _ _ _ heff, hb] at hrest
  exact ⟨hb, hrest⟩

/-- A view that the other threads and the looks of waiting threads keep evolves by a thread's own
events. -/
theorem System.Run.seen {P Q : System} {h : List Event} {t : ThreadId} (hr : System.Run P h Q)
    (hothers : ∀ e ∈ h, e.thread ≠ t → Keeps v e.action)
    (hlock : ∀ s holder, v (s.setHolder holder) = v s) :
    Seen v (v P.shared) (own t h) (v Q.shared) := by
  induction hr with
  | refl P => exact .nil _
  | @step P Q R e h hstep _ ih =>
      obtain ⟨hke, hkh⟩ := List.forall_mem_cons.mp hothers
      by_cases he : e.thread = t
      · rw [own_cons_self he]
        refine .cons (by rw [hstep.before]) ?_ (ih hkh)
        rw [hstep.before]
        exact hstep.effect
      · rw [own_cons_other he, ← hke he _ _ _ _ hstep.effect]
        exact ih hkh
  | look hlook _ ih =>
      obtain ⟨holder, hshared⟩ := hlook.shared
      rw [hshared, hlock] at ih
      exact ih hothers

end Seen

end ExternalCompiler
