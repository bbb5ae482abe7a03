/-
How a bootstrap seeds and drains, read off its events:

* `Submission`, `submitAll_leads_done`: the submissions of a bootstrap, one for each of its tasks;
* `drain_leads_done`: a drained bootstrap ends with a poll that found no task at the top tier;
* `seedAndDrain_course`, `bootstrap_course`: a bootstrap that succeeded, part by part.
-/
import ExternalCompiler.Proofs.Bootstrap.Course
import ExternalCompiler.Proofs.Queue.Submission

namespace ExternalCompiler

namespace Action

/-- The action counts the tasks of a tier. -/
def isPoll : Action → Bool
  | .access (.countTasks _) => true
  | _ => false

lemma not_submitting_of_isWatch {a : Action} (h : a.isWatch = true) : a.isSubmitting = false := by
  cases h using isWatch_cases <;> rfl

lemma not_poll_of_isWatch {a : Action} (h : a.isWatch = true) : a.isPoll = false := by
  cases h using isWatch_cases <;> rfl

lemma not_poll_of_isLocking {a : Action} (h : a.isLocking = true) : a.isPoll = false := by
  cases h using isLocking_cases <;> rfl

end Action

/-! ### Submissions -/

/-- A submission: its task, its events, and whether the task was accepted. -/
structure Submission where
  task : CompileTask
  events : List Event
  accepted : Bool

namespace Routine

/-- A broker is given the tasks one after the other. -/
lemma submitAll_leads_done {broker : Broker} {tasks : List CompileTask} {n m : Nat}
    {es : List Event} (h : (submitAll broker tasks n).Leads es (done m)) :
    ∃ subs : List Submission, subs.map (·.task) = tasks ∧ es = subs.flatMap (·.events) ∧
      (∀ b ∈ subs, (broker.submit b.task).Leads b.events (done b.accepted)) ∧
      m = n + subs.countP (·.accepted) := by
  induction tasks generalizing n es with
  | nil =>
      obtain ⟨rfl, hm⟩ := leads_done.mp h
      cases hm
      exact ⟨[], rfl, rfl, by simp, rfl⟩
  | cons t rest ih =>
      obtain ⟨es₁, es₂, accepted, rfl, hsubmit, h⟩ := leads_bind_done.mp h
      cases accepted with
      | true =>
          obtain ⟨subs, rfl, rfl, hsubs, rfl⟩ := ih h
          refine ⟨⟨t, es₁, true⟩ :: subs, rfl, rfl, List.forall_mem_cons.mpr ⟨hsubmit, hsubs⟩, ?_⟩
          rw [List.countP_cons_of_pos rfl]
          omega
      | false =>
          obtain ⟨subs, rfl, rfl, hsubs, rfl⟩ := ih h
          refine ⟨⟨t, es₁, false⟩ :: subs, rfl, rfl, List.forall_mem_cons.mpr ⟨hsubmit, hsubs⟩, ?_⟩
          rw [List.countP_cons_of_neg (by simp)]

/-! ### The drain -/

/-- A visit that counts the tasks of a tier. -/
lemma size_leads_done {tier : Tier} {n : Nat} {es : List Event}
    (h : (size tier).Leads es (done n)) :
    ∃ es₁ t s es₂, es = es₁ ++ ⟨t, .access (.countTasks tier), n, s⟩ :: es₂ ∧
      ∀ e ∈ es₂, e.action.isPoll = false := by
  obtain ⟨es₁, es', u, rfl, hlock, h₁⟩ := leads_bind_done.mp h
  obtain ⟨t, m, s, es₂, rfl, h₂⟩ := leads_access_done.mp h₁
  obtain ⟨es₃, es₄, u', rfl, hunlock, h₃⟩ := leads_bind_done.mp h₂
  obtain ⟨rfl, hm⟩ := leads_done.mp h₃
  cases hm
  refine ⟨es₁, t, s, es₃, by simp, ?_⟩
  exact ((only_unlock fun _ => Action.not_poll_of_isLocking).leads hunlock).2

/-- One round of a drained bootstrap: it sleeps, asks for the size of the top tier, looks whether it
was cancelled, and waits for a first task; then it goes on waiting for one, or it shows its progress
and is done if nothing waits. -/
lemma drain_round {broker : Broker} {print cancellable : Bool} {start n : Nat} {first : Bool}
    {dots : Nat} {es : List Event}
    (h : (drain print cancellable broker start (n + 1) first dots).Leads es (done (.ok ()))) :
    ∃ t s es₁ es₂ es₃ es₄ size waits,
      es = ⟨t, .pause (.sleep pollMillis), (), s⟩ :: (es₁ ++ (es₂ ++ (es₃ ++ es₄))) ∧
      (broker.size .top).Leads es₁ (done size) ∧
      (checkCancelled cancellable start size).Leads es₂ (done (.ok ())) ∧
      (awaitsFirstTask first size).Leads es₃ (done waits) ∧
      if waits then (drain print cancellable broker start n true dots).Leads es₄ (done (.ok ()))
      else ∃ es₅ es₆ dots', es₄ = es₅ ++ es₆ ∧
        (showProgress print dots).Leads es₅ (done (.ok dots')) ∧
        if size = 0 then es₆ = []
        else (drain print cancellable broker start n false dots').Leads es₆ (done (.ok ())) := by
  obtain ⟨t, u, s, es', rfl, h₁⟩ := leads_pause_done.mp h
  obtain ⟨es₁, es', size, rfl, hsize, h₂⟩ := leads_bind_done.mp h₁
  obtain ⟨es₂, es', x, rfl, hcheck, h₃⟩ := leads_bind_done.mp h₂
  cases x with
  | error e => cases (leads_done.mp h₃).2
  | ok _ =>
      obtain ⟨es₃, es₄, waits, rfl, hwaits, h₄⟩ := leads_bind_done.mp h₃
      refine ⟨t, s, es₁, es₂, es₃, es₄, size, waits, rfl, hsize, hcheck, hwaits, ?_⟩
      cases waits with
      | true => exact h₄
      | false =>
          obtain ⟨es₅, es₆, y, rfl, hshow, h₅⟩ := leads_bind_done.mp h₄
          cases y with
          | error e => cases (leads_done.mp h₅).2
          | ok dots' =>
              refine ⟨es₅, es₆, dots', rfl, hshow, ?_⟩
              simp only at h₅
              split at h₅
              next hzero => rw [if_pos hzero, (leads_done.mp h₅).1]
              next hsome =>
                rw [if_neg hsome]
                exact h₅

/-- A drained bootstrap ends with a poll of the queue that found no task at the top tier. -/
lemma drain_leads_done {print cancellable : Bool} {start n : Nat} {first : Bool} {dots : Nat}
    {es : List Event}
    (h : (drain print cancellable .queue start n first dots).Leads es (done (.ok ()))) :
    ∃ es₁ t s es₂, es = es₁ ++ ⟨t, .access (.countTasks .top), 0, s⟩ :: es₂ ∧
      ∀ e ∈ es₂, e.action.isPoll = false := by
  induction n generalizing first dots es with
  | zero => exact absurd h not_leads_more_done
  | succ n ih =>
      have hwatch : ∀ a : Action, a.isWatch = true → a.isPoll = false :=
        fun _ => Action.not_poll_of_isWatch
      obtain ⟨t, s, es₁, es₂, es₃, es₄, size, waits, rfl, hsize, hcheck, hwaits, hrest⟩ :=
        drain_round h
      cases waits with
      | true =>
          obtain ⟨es₅, t', s', es₆, rfl, hquiet⟩ := ih hrest
          exact ⟨⟨t, .pause (.sleep pollMillis), (), s⟩ :: (es₁ ++ (es₂ ++ (es₃ ++ es₅))), t', s',
            es₆, by simp, hquiet⟩
      | false =>
          obtain ⟨es₅, es₆, dots', rfl, hshow, hrest⟩ := hrest
          split at hrest
          next hzero =>
            subst hzero hrest
            obtain ⟨es₇, t', s', es₈, rfl, hquiet⟩ := size_leads_done hsize
            refine ⟨⟨t, .pause (.sleep pollMillis), (), s⟩ :: es₇, t', s',
              es₈ ++ (es₂ ++ (es₃ ++ es₅)), by simp, ?_⟩
            have hcheck' := ((only_checkCancelled hwatch _ _ _).leads hcheck).2
            have hwaits' := ((only_awaitsFirstTask (p := (·.isPoll = false)) rfl _ _).leads
              hwaits).2
            have hshow' := ((only_showProgress hwatch _ _).leads hshow).2
            simp only [List.forall_mem_append]
            exact ⟨hquiet, hcheck', hwaits', hshow'⟩
          next hsome =>
            obtain ⟨es₇, t', s', es₈, rfl, hquiet⟩ := ih hrest
            exact ⟨⟨t, .pause (.sleep pollMillis), (), s⟩ ::
              (es₁ ++ (es₂ ++ (es₃ ++ (es₅ ++ es₇)))), t', s', es₈, by simp, hquiet⟩

/-- The inside of a bootstrap that succeeded, part by part: it opens its output, looks at the clock,
submits its tasks, drains, reads the counter and the clock for its report, and closes its output. -/
lemma seedAndDrain_course {polls : Nat} {print cancellable : Bool} {methods : List Method}
    {broker : Broker} {es : List Event} {report : BootstrapReport}
    (h : (seedAndDrain polls print cancellable methods broker).Leads es (done (.ok report))) :
    ∃ es₀ t₀ start s₀ es₁ es₂ t₁ s₁ t₂ finish s₂ es₃,
      es = es₀ ++ ⟨t₀, .call .now, start, s₀⟩ :: (es₁ ++ (es₂ ++
        ⟨t₁, .access (.readCounter .methodsCompiled), report.compiled, s₁⟩ ::
          ⟨t₂, .call .now, finish, s₂⟩ :: es₃)) ∧
      (openOutput print).Leads es₀ (done (.ok ())) ∧
      (submitAll broker (seedTasks methods) 0).Leads es₁ (done report.submitted) ∧
      (drain print cancellable broker start polls true 0).Leads es₂ (done (.ok ())) ∧
      (closeOutput print report).Leads es₃ (done (.ok ())) := by
  obtain ⟨es₀, es', x, rfl, hopen, h₁⟩ := leads_bind_done.mp h
  cases x with
  | error e => cases (leads_done.mp h₁).2
  | ok _ =>
      obtain ⟨t₀, start, s₀, es', rfl, h₂⟩ := leads_call_done.mp h₁
      obtain ⟨es₁, es', submitted, rfl, hsubmit, h₃⟩ := leads_bind_done.mp h₂
      obtain ⟨es₂, es', y, rfl, hdrain, h₄⟩ := leads_bind_done.mp h₃
      cases y with
      | error e => cases (leads_done.mp h₄).2
      | ok _ =>
          obtain ⟨t₁, compiled, s₁, es', rfl, h₅⟩ := leads_access_done.mp h₄
          obtain ⟨t₂, finish, s₂, es', rfl, h₆⟩ := leads_call_done.mp h₅
          obtain ⟨es₃, es₄, z, rfl, hclose, h₇⟩ := leads_bind_done.mp h₆
          cases z with
          | error e => cases (leads_done.mp h₇).2
          | ok _ =>
              obtain ⟨rfl, hreport⟩ := leads_done.mp h₇
              cases hreport
              exact ⟨es₀, t₀, start, s₀, es₁, es₂, t₁, s₁, t₂, finish, s₂, es₃, by simp, hopen,
                hsubmit, hdrain, hclose⟩

/-- The inside of a bootstrap that succeeded: it opens its output, submits its tasks, drains, and
closes its output; the report says how many tasks were accepted. -/
lemma seedAndDrain_leads_done {polls : Nat} {print cancellable : Bool} {methods : List Method}
    {broker : Broker} {es : List Event} {report : BootstrapReport}
    (h : (seedAndDrain polls print cancellable methods broker).Leads es (done (.ok report))) :
    ∃ es₀ es₁ es₂ es₃ start, es = es₀ ++ (es₁ ++ (es₂ ++ es₃)) ∧
      (∀ e ∈ es₀, e.action.isWatch = true) ∧
      (submitAll broker (seedTasks methods) 0).Leads es₁ (done report.submitted) ∧
      (drain print cancellable broker start polls true 0).Leads es₂ (done (.ok ())) ∧
      ∀ e ∈ es₃, e.action.isWatch = true := by
  have hwatch : ∀ a : Action, a.isWatch = true → a.isWatch = true := fun _ => id
  obtain ⟨es₀, t₀, start, s₀, es₁, es₂, t₁, s₁, t₂, finish, s₂, es₃, rfl, hopen, hsubmit, hdrain,
    hclose⟩ := seedAndDrain_course h
  refine ⟨es₀ ++ [⟨t₀, .call .now, start, s₀⟩], es₁, es₂,
    ⟨t₁, .access (.readCounter .methodsCompiled), report.compiled, s₁⟩ ::
      ⟨t₂, .call .now, finish, s₂⟩ :: es₃, start, by simp, ?_, hsubmit, hdrain, ?_⟩
  · have hopen' := ((only_openOutput hwatch _).leads hopen).2
    exact List.forall_mem_append.mpr ⟨hopen', List.forall_mem_singleton.mpr rfl⟩
  · have hclose' := ((only_closeOutput hwatch _ _).leads hclose).2
    exact List.forall_mem_cons.mpr ⟨rfl, List.forall_mem_cons.mpr ⟨rfl, hclose'⟩⟩

/-- A bootstrap that reports is not in interpreter-only mode and got its window. -/
lemma opened_of_report {polls : Nat} {c : Config} {cancellable : Bool} {methods : List Method}
    {broker : Broker} {es : List Event} {report : BootstrapReport}
    (h : (bootstrap polls c cancellable methods broker).Leads es (done (.ok (some report)))) :
    c.executionMode ≠ .interpreted ∧ ∃ e ∈ es, e.opensWindow := by
  rw [bootstrap] at h
  split at h
  next => cases (leads_done.mp h).2
  next hmode =>
    obtain ⟨t, opened, s, es', rfl, h₁⟩ := leads_access_done.mp h
    cases opened with
    | false => cases (leads_done.mp h₁).2
    | true => exact ⟨hmode, _, List.mem_cons_self, rfl⟩

/-- A bootstrap that reports: it opens its window, switches the flag off, seeds and drains, closes
its window, tells the external runtime and puts the flag back. -/
lemma bootstrap_course {polls : Nat} {c : Config} {cancellable : Bool} {methods : List Method}
    {broker : Broker} {es : List Event} {report : BootstrapReport}
    (h : (bootstrap polls c cancellable methods broker).Leads es (done (.ok (some report)))) :
    ∃ t s t' saved s' inside t₁ s₁ t₂ s₂ t₃ s₃,
      es = ⟨t, .access .openWindow, true, s⟩ :: ⟨t', .access (.swapFlag false), saved, s'⟩ ::
        (inside ++ [⟨t₁, .access .closeWindow, (), s₁⟩, ⟨t₂, .call .bootstrapFinished, .ok (), s₂⟩,
          ⟨t₃, .access (.storeFlag saved), (), s₃⟩]) ∧
      (seedAndDrain polls c.printProgress cancellable methods broker).Leads inside
        (done (.ok report)) := by
  obtain ⟨hmode, hopen⟩ := opened_of_report h
  obtain ⟨t, s, t', saved, s', inside, ending, x, rfl, hinside, hend⟩ :=
    bootstrap_leads_done hmode h hopen
  cases hend with
  | finished report t₁ t₂ t₃ s₁ s₂ s₃ =>
      exact ⟨t, s, t', saved, s', inside, t₁, s₁, t₂, s₂, t₃, s₃, rfl, hinside⟩

/-- What a bootstrap does before its submissions switches the flag off. -/
lemma seen_flag_of_opening {t t' : ThreadId} {s s' : Shared} {saved b c : Bool} {es : List Event}
    (hwatch : ∀ e ∈ es, e.action.isWatch = true)
    (hs : Seen (·.compileTheWorld) b (⟨t, .access .openWindow, true, s⟩ ::
      ⟨t', .access (.swapFlag false), saved, s'⟩ :: es) c) : c = false := by
  obtain ⟨-, hs'⟩ := hs.tail_of_keeps (keeps_flag rfl)
  obtain ⟨-, s'', heff, hs''⟩ := seen_cons.mp hs'
  rw [(effect_access.mp heff).2] at hs''
  exact (hs''.of_keeps fun e he =>
    keeps_flag (Action.writesFlag_of_isNeutral (Action.isNeutral_of_isWatch (hwatch e he)))).1

/-- The events of a bootstrap on the queue that reports: it switches the flag off, submits its
tasks, and looks at the queue until no task waits at the top tier. -/
theorem bootstrap_leads_report {polls : Nat} {c : Config} {cancellable : Bool}
    {methods : List Method} {es : List Event} {report : BootstrapReport}
    (h : (bootstrap polls c cancellable methods .queue).Leads es (done (.ok (some report)))) :
    ∃ (opening waiting closing : List Event) (t : ThreadId) (s : Shared) (subs : List Submission),
      es = opening ++ (subs.flatMap (·.events) ++
        (waiting ++ ⟨t, .access (.countTasks .top), 0, s⟩ :: closing)) ∧
      (∀ b c, Seen (·.compileTheWorld) b opening c → c = false) ∧
      (∀ e ∈ opening, e.action.isSubmitting = false) ∧ subs.map (·.task) = seedTasks methods ∧
      (∀ b ∈ subs, (submit b.task).Leads b.events (done b.accepted)) ∧
      report.submitted = subs.countP (·.accepted) ∧
      (∀ e ∈ waiting ++ closing, e.action.isSubmitting = false) ∧
      ∀ e ∈ closing, e.action.isPoll = false := by
  obtain ⟨t₁, s₁, t₂, saved, s₂, es', t₃, s₃, t₄, s₄, t₅, s₅, rfl, hinside⟩ := bootstrap_course h
  obtain ⟨es₀, es₁, es₂, es₃, start, rfl, hwatch₀, hsubmit, hdrain, hwatch₃⟩ :=
    seedAndDrain_leads_done hinside
  obtain ⟨subs, htasks, rfl, hsubs, hcount⟩ := submitAll_leads_done hsubmit
  have hquiet := ((only_drain (fun _ => Action.not_submitting_of_isWatch)
    (fun _ => only_size (fun _ => Action.not_submitting_of_isLocking) rfl) _ _ _ _ _ _).leads
      hdrain).2
  obtain ⟨es₄, t, s, es₅, rfl, hpolls⟩ := drain_leads_done hdrain
  obtain ⟨hquiet₄, hquiet₅⟩ := List.forall_mem_append.mp hquiet
  refine ⟨⟨t₁, .access .openWindow, true, s₁⟩ :: ⟨t₂, .access (.swapFlag false), saved, s₂⟩ :: es₀,
    es₄, es₅ ++ (es₃ ++ [⟨t₃, .access .closeWindow, (), s₃⟩,
      ⟨t₄, .call .bootstrapFinished, .ok (), s₄⟩, ⟨t₅, .access (.storeFlag saved), (), s₅⟩]), t, s,
    subs, by simp, fun b c hs => seen_flag_of_opening hwatch₀ hs, ?_, htasks, hsubs,
    by simpa using hcount, ?_, ?_⟩
  · refine List.forall_mem_cons.mpr ⟨rfl, List.forall_mem_cons.mpr ⟨rfl, fun e he => ?_⟩⟩
    exact Action.not_submitting_of_isWatch (hwatch₀ e he)
  · simp only [List.forall_mem_append]
    exact ⟨hquiet₄, (List.forall_mem_cons.mp hquiet₅).2,
      fun e he => Action.not_submitting_of_isWatch (hwatch₃ e he), by simp [Action.isSubmitting]⟩
  · simp only [List.forall_mem_append]
    exact ⟨hpolls, fun e he => Action.not_poll_of_isWatch (hwatch₃ e he),
      by simp [Action.isPoll]⟩

end Routine

end ExternalCompiler
