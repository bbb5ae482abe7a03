/-
A bootstrap that reports has seeded its candidates and waited until they were taken:

* `Seeded`: the submissions of a bootstrap are its candidates, and those that were accepted are the
  tasks that it put into the queue and reports;
* `open_of_getLast?`: a queue that is open at the last look was open at all looks;
* `popped_of_arrival`: what came into a queue in which no task waits at the top tier has left it;
* `bootstrap_seeds`: a bootstrap that reports is seeded, and each of its tasks has left the queue
  once, no later than its last look at the queue.
-/
import ExternalCompiler.Proofs.Bootstrap.Seeding

namespace ExternalCompiler

/-! ### The submissions of a bootstrap -/

/-- The submissions `subs` of the bootstrap of the thread `t` with the history `h`. -/
structure Seeded (t : ThreadId) (methods : List Method) (report : BootstrapReport)
    (h : List Event) (subs : List Submission) : Prop where
  /-- There is one for each method that is neither native nor static nor an initializer. -/
  tasks : subs.map (·.task) =
    (methods.filter fun m => !m.isNative && !m.isStatic && !m.isInitializer).map fun m =>
      { method := m, entry := .invocation, tier := .fullOptimization, hotCount := 10,
        reason := .bootstrap }
  /-- The thread made each of them. -/
  made : ∀ b ∈ subs, (Routine.submit b.task).Leads b.events (.done b.accepted)
  /-- It made them in this order, and no others. -/
  order : ∃ es es', own t h = es ++ (subs.flatMap (·.events) ++ es') ∧
    ∀ e ∈ es ++ es', e.action.isSubmitting = false
  /-- The accepted tasks are those that the thread put into the queue. -/
  pushed : pushed (own t h) = (subs.filter (·.accepted)).map (·.task)
  /-- The report counts them. -/
  count : report.submitted = subs.countP (·.accepted)
  /-- All are accepted if the queue is open when the thread looks at that for the last time. -/
  whenOpen : (∀ e ∈ ((own t h).filter (·.action.readsClosed)).getLast?,
    e.before.queue.isClosed = false) → ∀ b ∈ subs, b.accepted = true

/-- What is put into the queue by submissions that put in exactly the accepted tasks. -/
lemma pushed_flatMap {subs : List Submission}
    (h : ∀ b ∈ subs, pushed b.events = if b.accepted then [b.task] else []) :
    pushed (subs.flatMap (·.events)) = (subs.filter (·.accepted)).map (·.task) := by
  induction subs with
  | nil => rfl
  | cons b rest ih =>
      obtain ⟨hb, hrest⟩ := List.forall_mem_cons.mp h
      rw [List.flatMap_cons, pushed_append, ih hrest, hb]
      cases hacc : b.accepted <;> simp [hacc]

/-- If nothing opens the queue again and it is open at the last of some events, it is open at all of
them. -/
lemma open_of_getLast? {es : List Event}
    (hclosed : es.Pairwise fun e e' =>
      e.before.queue.isClosed = true → e'.before.queue.isClosed = true)
    (hlast : ∀ e ∈ es.getLast?, e.before.queue.isClosed = false) :
    ∀ e ∈ es, e.before.queue.isClosed = false := by
  intro e he
  rcases List.eq_nil_or_concat' es with rfl | ⟨es', last, rfl⟩
  · cases he
  · have hopen := hlast last (by simp)
    rcases List.mem_append.mp he with he | he
    · rw [← Bool.not_eq_true]
      intro hclosed'
      have hboth := (List.pairwise_append.mp hclosed).2.2 e he last (by simp) hclosed'
      rw [hopen] at hboth
      cases hboth
    · rw [List.mem_singleton.mp he]
      exact hopen

/-! ### What has left the queue -/

section Departures

variable {P Q : System} {h h₁ h₂ : List Event} {t : ThreadId} {task : CompileTask} {i : Nat}

lemma arrivals_append : arrivals P (h₁ ++ h₂) =
    arrivals P h₁ ++ h₂.filterMap fun e => e.pushed?.map (some e.thread, ·) := by
  rw [arrivals, arrivals, List.filterMap_append, List.append_assoc]

/-- Who brought a task put it into the queue. -/
lemma mem_pushed_of_arrival (h' : (some t, task) ∈
    h.filterMap fun e => e.pushed?.map (some e.thread, ·)) : task ∈ pushed (own t h) := by
  obtain ⟨e, he, hpush⟩ := List.mem_filterMap.mp h'
  obtain ⟨task', hpushed, heq⟩ := Option.map_eq_some_iff.mp hpush
  obtain ⟨hthread, rfl⟩ := Prod.mk.inj heq
  exact List.mem_filterMap.mpr ⟨e, mem_own.mpr ⟨he, Option.some.inj hthread⟩, hpushed⟩

lemma mem_pushed_of_mem_arrivals (h' : (some t, task) ∈ arrivals P h) :
    task ∈ pushed (own t h) := by
  rcases List.mem_append.mp h' with hmem | hmem
  · obtain ⟨x, -, hx⟩ := List.mem_map.mp hmem
    cases hx
  · exact mem_pushed_of_arrival hmem

/-- What came into a queue that holds no such task any more has left it, and as the task at its own
place. -/
lemma popped_of_arrival {brought : Option ThreadId} (hrun : System.Run P h Q)
    (hi : (arrivals P h)[i]? = some (brought, task)) (hgone : task ∉ Q.shared.queue.tasks) :
    (popped h)[i]? = some task := by
  have hplace : (popped h ++ Q.shared.queue.tasks)[i]? = some task := by
    rw [← hrun.conservation, ← map_snd_arrivals, List.getElem?_map, hi]
    rfl
  rcases Nat.lt_or_ge i (popped h).length with hlt | hge
  · rwa [List.getElem?_append_left hlt] at hplace
  · rw [List.getElem?_append_right hge] at hplace
    exact absurd (List.mem_of_getElem? hplace) hgone

/-- What a thread put into the queue has left it before a look that found no task at its tier, if
the thread puts nothing into the queue from then on. -/
lemma popped_before_look {t' : ThreadId} {s : Shared} {tier : Tier}
    (hrun : System.Run P (h₁ ++ ⟨t', .access (.countTasks tier), 0, s⟩ :: h₂) Q)
    (hlate : pushed (own t (⟨t', .access (.countTasks tier), 0, s⟩ :: h₂)) = [])
    (htier : ∀ task ∈ pushed (own t h₁), task.tier = tier)
    (hi : (arrivals P (h₁ ++ ⟨t', .access (.countTasks tier), 0, s⟩ :: h₂))[i]? =
      some (some t, task)) : (popped h₁)[i]? = some task := by
  obtain ⟨R, R', hR, hstep, -⟩ := hrun.at_event
  have hearly : (arrivals P h₁)[i]? = some (some t, task) := by
    rw [arrivals_append] at hi
    rcases Nat.lt_or_ge i (arrivals P h₁).length with hlt | hge
    · rwa [List.getElem?_append_left hlt] at hi
    · rw [List.getElem?_append_right hge] at hi
      have hmem := mem_pushed_of_arrival (List.mem_of_getElem? hi)
      rw [hlate] at hmem
      cases hmem
  refine popped_of_arrival hR hearly fun hwaits => ?_
  have hzero : R.shared.queue.sizeAt tier = 0 := (effect_access.mp hstep.effect).1.symm
  have htop := htier task (mem_pushed_of_mem_arrivals (List.mem_of_getElem? hearly))
  exact List.countP_eq_zero.mp hzero task hwaits (by simp [htop])

end Departures

/-! ### Bootstraps that report -/

section Report

variable {P Q : System} {h : List Event} {t : ThreadId} {polls : Nat} {c : Config}
  {cancellable : Bool} {methods : List Method} {report : BootstrapReport}

lemma tier_of_mem_seedTasks {task : CompileTask} (h : task ∈ seedTasks methods) :
    task.tier = .top := by
  obtain ⟨m, -, rfl⟩ := List.mem_map.mp h
  rfl

/-- While a bootstrap submits its tasks, the flag is off. -/
lemma flag_off_of_own {opening es : List Event} {subs : List Submission}
    (hrun : System.Run P h Q) (hflag : ∀ e ∈ h, e.thread ≠ t → e.action.writesFlag = false)
    (hown : own t h = opening ++ (subs.flatMap (·.events) ++ es))
    (hopening : ∀ b c, Seen (·.compileTheWorld) b opening c → c = false)
    (hsubs : ∀ b ∈ subs, (Routine.submit b.task).Leads b.events (.done b.accepted)) :
    ∀ b ∈ subs, ∀ e ∈ b.events, e.before.compileTheWorld = false := by
  have hseen := hrun.seen (v := (·.compileTheWorld)) (fun e he ht => keeps_flag (hflag e he ht))
    fun s holder => rfl
  rw [hown] at hseen
  obtain ⟨b, hseen₀, hseen₁⟩ := seen_append.mp hseen
  obtain rfl := hopening _ _ hseen₀
  obtain ⟨c, hseen₂, -⟩ := seen_append.mp hseen₁
  intro b hb e he
  refine (hseen₂.of_keeps fun e' he' => keeps_flag ?_).2 e (List.mem_flatMap.mpr ⟨b, hb, he⟩)
  obtain ⟨b', hb', he'⟩ := List.mem_flatMap.mp he'
  exact Action.writesFlag_of_isNeutral (((Routine.only_submit
    (fun _ => Action.isNeutral_of_isVisit) b'.task).leads (hsubs b' hb')).2 e' he')

/-- Each submission of a bootstrap looks once whether the queue is closed, and is refused only for
that. -/
lemma submissions_of_own {opening es : List Event} {subs : List Submission}
    (hrun : System.Run P h Q) (hflag : ∀ e ∈ h, e.thread ≠ t → e.action.writesFlag = false)
    (hown : own t h = opening ++ (subs.flatMap (·.events) ++ es))
    (hopening : ∀ b c, Seen (·.compileTheWorld) b opening c → c = false)
    (hsubs : ∀ b ∈ subs, (Routine.submit b.task).Leads b.events (.done b.accepted)) :
    ∀ b ∈ subs, pushed b.events = (if b.accepted then [b.task] else []) ∧
      ∃ e, b.events.filter (·.action.readsClosed) = [e] ∧
        b.accepted = !e.before.queue.isClosed := by
  intro b hb
  refine Routine.submit_leads_done (hsubs b hb) (fun e he => ?_)
    (flag_off_of_own hrun hflag hown hopening hsubs b hb)
  have hmem : e ∈ own t h := by
    rw [hown, List.mem_append, List.mem_append]
    exact .inr (.inl (List.mem_flatMap.mpr ⟨b, hb, he⟩))
  exact hrun.effect_of_mem (mem_own.mp hmem).1

/-- If the queue is open at the last look, all submissions are accepted. -/
lemma accepted_of_open {opening es : List Event} {subs : List Submission}
    (hrun : System.Run P h Q) (hown : own t h = opening ++ (subs.flatMap (·.events) ++ es))
    (hmade : ∀ b ∈ subs, ∃ e, b.events.filter (·.action.readsClosed) = [e] ∧
      b.accepted = !e.before.queue.isClosed)
    (hlast : ∀ e ∈ ((own t h).filter (·.action.readsClosed)).getLast?,
      e.before.queue.isClosed = false) :
    ∀ b ∈ subs, b.accepted = true := by
  have hopen := open_of_getLast? ((hrun.pairwise_closed.filter _).filter _) hlast
  intro b hb
  obtain ⟨e, hlook, haccepted⟩ := hmade b hb
  have he : e ∈ b.events.filter (·.action.readsClosed) := by
    rw [hlook]
    exact List.mem_singleton_self e
  obtain ⟨hmem, hreads⟩ := List.mem_filter.mp he
  rw [haccepted, hopen e]
  · rfl
  · refine List.mem_filter.mpr ⟨?_, hreads⟩
    change e ∈ own t h
    rw [hown, List.mem_append, List.mem_append]
    exact .inr (.inl (List.mem_flatMap.mpr ⟨b, hb, hmem⟩))

/-- **A bootstrap that reports has seeded its candidates and waited until they were taken.** Others
may do anything meanwhile but write the flag. The submissions of the bootstrap are its candidates;
those that the queue accepted are the ones that it reports, and that is all of them unless the
queue was closed. What came into the queue leaves it in the same order; and what the bootstrap put
into it has left it, each task at its own place, before the last look of the bootstrap at the
queue. -/
theorem bootstrap_seeds (hrun : System.Run P h Q)
    (hreturn : P.Returns t (Routine.bootstrap polls c cancellable methods .queue) h
      (.ok (some report)))
    (hflag : ∀ e ∈ h, e.thread ≠ t → e.action.writesFlag = false) :
    (∃ subs, Seeded t methods report h subs) ∧
      (arrivals P h).map (·.2) = popped h ++ Q.shared.queue.tasks ∧
      ∃ (h₁ h₂ : List Event) (e : Event), h = h₁ ++ e :: h₂ ∧ e.thread = t ∧
        e.action = .access (.countTasks .top) ∧ (∀ e' ∈ own t h₂, e'.action.isPoll = false) ∧
        ∀ (i : Nat) (task : CompileTask), (arrivals P h)[i]? = some (some t, task) →
          (popped h₁)[i]? = some task := by
  obtain ⟨opening, waiting, closing, t', s, subs, hown, hopening, hquiet, htasks, hsubs, hcount,
    hquiet', hpolls⟩ := Routine.bootstrap_leads_report hreturn.2
  obtain ⟨hwaiting, hclosing⟩ := List.forall_mem_append.mp hquiet'
  have hrest : ∀ e ∈ waiting ++ ⟨t', .access (.countTasks .top), 0, s⟩ :: closing,
      e.action.isSubmitting = false :=
    List.forall_mem_append.mpr ⟨hwaiting, List.forall_mem_cons.mpr ⟨rfl, hclosing⟩⟩
  have hmade := submissions_of_own hrun hflag hown hopening hsubs
  have hpushed : pushed (own t h) = (subs.filter (·.accepted)).map (·.task) := by
    rw [hown, pushed_append, pushed_append, (Routine.quiet_of_not_submitting hquiet).1,
      (Routine.quiet_of_not_submitting hrest).1, pushed_flatMap fun b hb => (hmade b hb).1]
    simp
  refine ⟨⟨subs, htasks, hsubs, ⟨_, _, hown, List.forall_mem_append.mpr ⟨hquiet, hrest⟩⟩, hpushed,
    hcount, accepted_of_open hrun hown fun b hb => (hmade b hb).2⟩, ?_, ?_⟩
  · rw [map_snd_arrivals, hrun.conservation]
  · rw [← List.append_assoc, ← List.append_assoc] at hown
    obtain ⟨h₁, h₂, rfl, hown₁, hown₂⟩ := exists_of_own_eq_append_cons hown
    have hlook : (⟨t', .access (.countTasks .top), 0, s⟩ : Event) ∈
        own t (h₁ ++ ⟨t', .access (.countTasks .top), 0, s⟩ :: h₂) := by
      rw [hown]
      simp
    have hlook' := (mem_own.mp hlook).2
    refine ⟨h₁, h₂, _, rfl, hlook', rfl, by rwa [hown₂], fun i task hi => ?_⟩
    refine popped_before_look hrun ?_ ?_ hi
    · rw [own_cons_self hlook', hown₂, pushed_cons, (Routine.quiet_of_not_submitting hclosing).1]
      rfl
    · intro task' htask'
      have hmem : task' ∈ pushed (own t (h₁ ++ ⟨t', .access (.countTasks .top), 0, s⟩ :: h₂)) := by
        rw [own_append, pushed_append]
        exact List.mem_append_left _ htask'
      rw [hpushed] at hmem
      obtain ⟨b, hb, rfl⟩ := List.mem_map.mp hmem
      have hseed : b.task ∈ seedTasks methods := by
        rw [← htasks]
        exact List.mem_map_of_mem (List.mem_of_mem_filter hb)
      exact tier_of_mem_seedTasks hseed

end Report

/-- Is done after a bootstrap that reports. -/
def afterReport : Except ServiceError (Option BootstrapReport) → Routine Unit
  | .ok (some _) => .done ()
  | _ => .more

/-- What a thread that is done after its bootstrap returned is a report. -/
lemma System.Run.exists_report {P Q : System} {h : List Event} {t : ThreadId}
    {r : Routine (Except ServiceError (Option BootstrapReport))} (hrun : System.Run P h Q)
    (hstart : P.threads t = r.bind afterReport) (hdone : (Q.threads t).isDone = true) :
    ∃ report, P.Returns t r h (.ok (some report)) := by
  obtain ⟨result, hresult, hreturn⟩ := hrun.exists_returns hstart
    (fun x => by rcases x with e | _ | report <;> simp [afterReport]) hdone
  rcases result with e | _ | report
  · cases hresult
  · cases hresult
  · exact ⟨report, hreturn⟩

/-- The second thread takes the task while the bootstrap sleeps, and the bootstrap reports. -/
def reportedRun : List Event × System :=
  (seededPair afterReport).play Call.silence
    (List.replicate 13 1 ++ List.replicate 5 2 ++ List.replicate 30 1)

/-- The one task of the bootstrap is the first that came into the queue, and it was the first to
leave it, before the last look of the bootstrap. -/
theorem bootstrap_seeds_pair :
    (∃ report subs, Seeded 1 [plainMethod] report reportedRun.1 subs) ∧
      ∃ (h₁ h₂ : List Event) (e : Event), reportedRun.1 = h₁ ++ e :: h₂ ∧ e.thread = 1 ∧
        e.action = .access (.countTasks .top) ∧ (popped h₁)[0]? = some (seedTask plainMethod) := by
  have hrun : System.Run (seededPair afterReport) reportedRun.1 reportedRun.2 :=
    System.run_play _ _ _
  have hdone : (reportedRun.2.threads 1).isDone = true := by decide +kernel
  obtain ⟨result, hresult, hreturn⟩ := hrun.exists_returns rfl (fun x => by
    unfold afterReport
    split
    · exact .inl rfl
    · exact .inr rfl) hdone
  obtain ⟨report, rfl⟩ : ∃ report, result = .ok (some report) := by
    unfold afterReport at hresult
    split at hresult
    · exact ⟨_, rfl⟩
    · cases hresult
  have hflag : reportedRun.1.all (fun e => e.thread == 1 || !e.action.writesFlag) = true := by
    decide +kernel
  have harrival : (arrivals (seededPair afterReport) reportedRun.1)[0]? =
      some (some 1, seedTask plainMethod) := by decide +kernel
  obtain ⟨⟨subs, hseeded⟩, -, h₁, h₂, e, hcut, hthread, haction, -, hpopped⟩ :=
    bootstrap_seeds hrun hreturn fun e he ht => by
      simpa [ht] using List.all_eq_true.mp hflag e he
  exact ⟨⟨report, subs, hseeded⟩, h₁, h₂, e, hcut, hthread, haction, hpopped 0 _ harrival⟩

end ExternalCompiler
