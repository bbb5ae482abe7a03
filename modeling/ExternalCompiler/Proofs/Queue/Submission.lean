/-
The course of a submission to the queue, read off its events:

* `Action.isSubmitting`, `Action.readsClosed`: what a submission does beside taking the lock;
* `submit_course`: a submission reads the flag, and unless it is on looks once whether the queue is
  closed; only an accepted one puts its task into the queue;
* `submit_leads_done`: while the flag is off, a task is refused only because the queue is closed;
* `submit_verdict`: what decides a submission.
-/
import ExternalCompiler.Proofs.Queue.Conservation
import ExternalCompiler.Proofs.Queue.Visits

namespace ExternalCompiler

namespace Action

/-- The action belongs to a submission to the queue: it reads the flag, looks whether the queue is
closed, or puts a task into it. -/
def isSubmitting : Action → Bool
  | .access .readFlag | .access .readClosed | .access (.pushTask _) => true
  | _ => false

/-- The action looks whether the queue is closed. -/
def readsClosed : Action → Bool
  | .access .readClosed => true
  | _ => false

lemma not_submitting_of_isLocking {a : Action} (h : a.isLocking = true) :
    a.isSubmitting = false := by
  cases h using isLocking_cases <;> rfl

lemma not_readsClosed {a : Action} (h : a.isSubmitting = false) : a.readsClosed = false := by
  rcases a with a | p | c
  · cases a <;> first | rfl | cases h
  · rfl
  · rfl

end Action

namespace Routine

/-- What belongs to no submission puts no task into the queue and does not look whether it is
closed. -/
lemma quiet_of_not_submitting {es : List Event} (h : ∀ e ∈ es, e.action.isSubmitting = false) :
    pushed es = [] ∧ es.filter (·.action.readsClosed) = [] := by
  refine ⟨List.filterMap_eq_nil_iff.mpr fun e he => ?_, List.filter_eq_nil_iff.mpr fun e he => ?_⟩
  · have hquiet := h e he
    obtain ⟨t, a, x, s⟩ := e
    rcases a with a | p | c
    · cases a <;> first | rfl | cases hquiet
    · rfl
    · rfl
  · simp [Action.not_readsClosed (h e he)]

/-- The same for the events of a routine. -/
lemma quiet_of_only {α : Type} {r r' : Routine α} {es : List Event}
    (hr : r.Only (·.isSubmitting = false)) (h : r.Leads es r') :
    pushed es = [] ∧ es.filter (·.action.readsClosed) = [] :=
  quiet_of_not_submitting (hr.leads h).2

/-- What gives the lock back and then returns puts nothing into the queue and looks at nothing. -/
lemma unlock_leads_done {α : Type} {x y : α} {es : List Event}
    (h : (unlock.bind fun _ => done y).Leads es (done x)) :
    x = y ∧ pushed es = [] ∧ es.filter (·.action.readsClosed) = [] := by
  obtain ⟨es₁, es₂, u, rfl, hunlock, h⟩ := leads_bind_done.mp h
  obtain ⟨rfl, hx⟩ := leads_done.mp h
  cases hx
  rw [List.append_nil]
  exact ⟨rfl, quiet_of_only (only_unlock fun _ => Action.not_submitting_of_isLocking) hunlock⟩

/-- A submission reads the flag. If the flag is on, that is all, and the task is refused; else the
submission looks once whether the queue is closed, and the task is refused only for that reason. -/
lemma submit_course {task : CompileTask} {es : List Event} {accepted : Bool}
    (h : (submit task).Leads es (done accepted))
    (heff : ∀ e ∈ es, ∃ s, Effect e.thread e.before e.action e.answer s) :
    pushed es = (if accepted then [task] else []) ∧
      ∃ e es', es = e :: es' ∧ e.action = .access .readFlag ∧
        (e.before.compileTheWorld = true → accepted = false ∧ es' = []) ∧
        (e.before.compileTheWorld = false →
          ∃ look, es.filter (·.action.readsClosed) = [look] ∧
            accepted = !look.before.queue.isClosed) := by
  obtain ⟨t, flag, s, es₁, rfl, h₁⟩ := leads_access_done.mp h
  obtain ⟨⟨s', hflag⟩, heff⟩ := List.forall_mem_cons.mp heff
  obtain rfl : flag = s.compileTheWorld := (effect_access.mp hflag).1
  cases hworld : s.compileTheWorld with
  | true =>
      rw [hworld] at h₁
      obtain ⟨rfl, haccepted⟩ := leads_done.mp h₁
      cases haccepted
      exact ⟨rfl, _, _, rfl, rfl, fun _ => ⟨rfl, rfl⟩, fun hoff => by simp [hworld] at hoff⟩
  | false =>
      rw [hworld] at h₁
      obtain ⟨es₂, es₃, u, rfl, hlock, h₂⟩ := leads_bind_done.mp h₁
      obtain ⟨t', closed, s'', es₄, rfl, h₃⟩ := leads_access_done.mp h₂
      obtain ⟨s₃, hclosed⟩ := heff ⟨t', .access .readClosed, closed, s''⟩ (by simp)
      have hanswer : closed = s''.queue.isClosed := (effect_access.mp hclosed).1
      obtain ⟨hpushed, hlooks⟩ :=
        quiet_of_only (only_lock fun _ => Action.not_submitting_of_isLocking) hlock
      suffices hlook : accepted = !closed ∧ pushed es₄ = (if accepted then [task] else []) ∧
          es₄.filter (·.action.readsClosed) = [] by
        obtain ⟨haccepted, hpushed', hlooks'⟩ := hlook
        refine ⟨?_, _, _, rfl, rfl, fun hon => by simp [hworld] at hon, fun _ => ?_⟩
        · simp only [pushed_cons, pushed_append, hpushed, hpushed', Event.pushed?]
          rfl
        · refine ⟨⟨t', .access .readClosed, closed, s''⟩, ?_, by rw [haccepted, hanswer]⟩
          rw [List.filter_cons, List.filter_append, List.filter_cons, hlooks, hlooks']
          rfl
      cases closed with
      | true =>
          obtain ⟨rfl, hpushed', hlooks'⟩ := unlock_leads_done h₃
          exact ⟨rfl, hpushed', hlooks'⟩
      | false =>
          obtain ⟨t'', y, s₄, es₅, rfl, h₄⟩ := leads_access_done.mp h₃
          obtain ⟨rfl, hpushed', hlooks'⟩ := unlock_leads_done h₄
          rw [pushed_cons, hpushed', List.filter_cons, hlooks']
          exact ⟨rfl, rfl, rfl⟩

/-- While the flag is off, a submission to the queue looks once whether the queue is closed, and its
task is refused only for that reason. -/
lemma submit_leads_done {task : CompileTask} {es : List Event} {accepted : Bool}
    (h : (submit task).Leads es (done accepted))
    (heff : ∀ e ∈ es, ∃ s, Effect e.thread e.before e.action e.answer s)
    (hoff : ∀ e ∈ es, e.before.compileTheWorld = false) :
    pushed es = (if accepted then [task] else []) ∧
      ∃ e, es.filter (·.action.readsClosed) = [e] ∧ accepted = !e.before.queue.isClosed := by
  obtain ⟨hpushed, e, es', rfl, -, -, hlook⟩ := submit_course h heff
  exact ⟨hpushed, hlook (hoff e List.mem_cons_self)⟩

/-- **What decides a submission.** A task is accepted exactly if its submission found the flag off
and the queue open. -/
lemma submit_verdict {task : CompileTask} {es : List Event} {accepted : Bool}
    (h : (submit task).Leads es (done accepted))
    (heff : ∀ e ∈ es, ∃ s, Effect e.thread e.before e.action e.answer s) :
    accepted = true ↔
      (∃ e ∈ es, e.action = .access .readFlag ∧ e.before.compileTheWorld = false) ∧
        ∃ e ∈ es, e.action.readsClosed = true ∧ e.before.queue.isClosed = false := by
  obtain ⟨-, e, es', rfl, hflag, hon, hoff⟩ := submit_course h heff
  cases hworld : e.before.compileTheWorld with
  | true =>
      obtain ⟨rfl, rfl⟩ := hon hworld
      refine ⟨nofun, ?_⟩
      rintro ⟨⟨e', he', -, hoff'⟩, -⟩
      rw [List.mem_singleton.mp he', hworld] at hoff'
      cases hoff'
  | false =>
      obtain ⟨look, hlooks, rfl⟩ := hoff hworld
      have hmem : ∀ e' ∈ e :: es', e'.action.readsClosed = true ↔ e' = look := by
        intro e' he'
        have hsole : e' = look ↔ e' ∈ (e :: es').filter (·.action.readsClosed) := by
          rw [hlooks, List.mem_singleton]
        rw [hsole, List.mem_filter]
        exact ⟨fun hreads => ⟨he', hreads⟩, fun hreads => hreads.2⟩
      have hlook : look ∈ e :: es' := by
        have hself := List.mem_singleton_self look
        rw [← hlooks] at hself
        exact (List.mem_filter.mp hself).1
      rw [Bool.not_eq_true']
      constructor
      · intro hopen
        exact ⟨⟨e, List.mem_cons_self, hflag, hworld⟩, look, hlook, (hmem look hlook).mpr rfl,
          hopen⟩
      · rintro ⟨-, e', he', hreads, hopen⟩
        rwa [(hmem e' he').mp hreads] at hopen

end Routine

end ExternalCompiler
