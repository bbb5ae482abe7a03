/-
Whether the seeds of a bootstrap are spared the simple tier:

* `Consults`: a worker takes a seed out of the queue, says so, and consults the gate;
  `consults_of_takeUp`: what a worker does that takes up one task;
* `Event.isLive`, `forcedSimple_leads_done`: what the gate decides beside a live external runtime;
* `isBootstrapping_of_own`: the window of a bootstrap that no other thread touches;
* `seed_taken_within`: every seed is taken while the window is open;
* `seeds_spared`: a seed is left to the simple tier exactly if its module is excluded and the
  bootstrap closed its window after the worker took the seed and before it consulted the gate;
  `seed_forced`: this happens.
-/
import ExternalCompiler.Gate
import ExternalCompiler.Proofs.Bootstrap.Handled
import ExternalCompiler.Proofs.Bootstrap.Seeds

namespace ExternalCompiler

/-! ### Workers that consult the gate -/

/-- After the history `h₁` the worker of the thread `u` takes a task out of the queue that the
thread `t` put there. It gives the lock back and says that a request was handled; then, after `h₂`,
it looks at the window and consults the gate, which answers `forced`. -/
structure Consults (P : System) (c : Config) (t u : ThreadId) (task : CompileTask) (forced : Bool)
    (h h₁ h₂ : List Event) : Prop where
  seed : (arrivals P h)[(popped h₁).length]? = some (some t, task)
  cut : ∃ s opened s' h₃, h = h₁ ++ ⟨u, .access .popTask, some task, s⟩ ::
      (h₂ ++ ⟨u, .access .readBootstrapping, opened, s'⟩ :: h₃) ∧
    (Routine.unlock.bind fun _ => Routine.markRequestHandled).Leads (own u h₂) (.done ()) ∧
    ∃ es es', own u h₃ = es ++ es' ∧
      (forcedSimple opened c.isHosted task.method.module).Leads es (.done forced)

namespace Routine

/-- A worker takes one task out of the queue, says so, and consults the gate. -/
def takeUp (c : Config) : Routine (Option (CompileTask × Bool)) := do
  lock
  match ← access .popTask with
  | none => do
    unlock
    pure none
  | some task => do
    unlock
    markRequestHandled
    let forced ← consultGate c task.method
    pure (some (task, forced))

lemma takeUp_leads_done {c : Config} {task : CompileTask} {forced : Bool} {es : List Event}
    (h : (takeUp c).Leads es (done (some (task, forced)))) :
    ∃ es₁ u s es₂ u' opened s' es₃, es = es₁ ++ ⟨u, .access .popTask, some task, s⟩ ::
        (es₂ ++ ⟨u', .access .readBootstrapping, opened, s'⟩ :: es₃) ∧
      (unlock.bind fun _ => markRequestHandled).Leads es₂ (done ()) ∧
      (forcedSimple opened c.isHosted task.method.module).Leads es₃ (done forced) := by
  obtain ⟨es₁, es', _, rfl, hlock, h₁⟩ := leads_bind_done.mp h
  obtain ⟨u, popped, s, es'', rfl, h₂⟩ := leads_access_done.mp h₁
  cases popped with
  | none =>
      obtain ⟨_, _, _, _, _, h₃⟩ := leads_bind_done.mp h₂
      cases (leads_done.mp h₃).2
  | some task' =>
      obtain ⟨es₂, es₃, _, rfl, hunlock, h₃⟩ := leads_bind_done.mp h₂
      obtain ⟨es₄, es₅, _, rfl, hmark, h₄⟩ := leads_bind_done.mp h₃
      obtain ⟨es₆, es₇, forced', rfl, hgate, h₅⟩ := leads_bind_done.mp h₄
      obtain ⟨rfl, hresult⟩ := leads_done.mp h₅
      cases hresult
      obtain ⟨u', opened, s', es₈, rfl, hforced⟩ := leads_access_done.mp hgate
      refine ⟨es₁, u, s, es₂ ++ es₄, u', opened, s', es₈, by simp, ?_, hforced⟩
      exact leads_bind_done.mpr ⟨es₂, es₄, (), rfl, hunlock, hmark⟩

end Routine

/-! ### The gate -/

/-- A look at the external runtime finds a live instance that excludes these modules. -/
def Event.isLive (handle : UInt64) (modules : List ModuleId) : Event → Bool
  | ⟨_, .call .probe, (found : Option UInt64), _⟩ => found = some handle
  | ⟨_, .call (.excluded _), (excluded : Option (List ModuleId)), _⟩ => excluded = some modules
  | _ => true

/-- Beside a live external runtime the gate forces what is excluded, if the window is closed. -/
lemma forcedSimple_leads_done {handle : UInt64} {modules : List ModuleId} {opened forced : Bool}
    {module : ModuleId} {es : List Event} (hlive : ∀ e ∈ es, e.isLive handle modules = true)
    (h : (forcedSimple opened false module).Leads es (.done forced)) :
    forced = true ↔ opened = false ∧ module ∈ modules := by
  unfold forcedSimple at h
  cases opened with
  | true =>
      obtain ⟨-, hforced⟩ := Routine.leads_done.mp h
      cases hforced
      simp
  | false =>
      obtain ⟨t, found, s, es', rfl, h₁⟩ := Routine.leads_call_done.mp h
      obtain rfl : found = some handle := of_decide_eq_true (hlive _ List.mem_cons_self)
      obtain ⟨t', excluded, s', es'', rfl, h₂⟩ := Routine.leads_call_done.mp h₁
      obtain rfl : excluded = some modules :=
        of_decide_eq_true (hlive _ (List.mem_cons_of_mem _ List.mem_cons_self))
      obtain ⟨-, hforced⟩ := Routine.leads_done.mp h₂
      cases hforced
      simp

/-! ### The window -/

/-- A bootstrap that reports opens its window first and closes it once; afterwards it does not look
at the queue any more. -/
lemma Routine.bootstrap_leads_window {polls : Nat} {c : Config} {cancellable : Bool}
    {methods : List Method} {es : List Event} {report : BootstrapReport}
    (h : (bootstrap polls c cancellable methods .queue).Leads es (done (.ok (some report)))) :
    ∃ u s es₁ u' s' es₂, es = ⟨u, .access .openWindow, true, s⟩ ::
        (es₁ ++ ⟨u', .access .closeWindow, (), s'⟩ :: es₂) ∧
      (∀ e ∈ es₁, e.action.writesWindow = false) ∧
      ∀ e ∈ es₂, e.action.writesWindow = false ∧ e.action.isPoll = false := by
  obtain ⟨hmode, hopen⟩ := opened_of_report h
  obtain ⟨u, s, t, saved, r, es₁, es₂, x, rfl, hinside, hend⟩ :=
    bootstrap_leads_done hmode h hopen
  have hneutral := ((only_seedAndDrain (fun _ => Action.isNeutral_of_isWatch)
    (queue_only fun _ => Action.isNeutral_of_isVisit) _ _ _ _).leads hinside).2
  cases hend with
  | finished report t₁ t₂ t₃ s₁ s₂ s₃ =>
      refine ⟨u, s, ⟨t, .access (.swapFlag false), saved, r⟩ :: es₁, t₁, s₁, _, rfl, ?_, ?_⟩
      · exact List.forall_mem_cons.mpr
          ⟨rfl, fun e he => Action.writesWindow_of_isNeutral (hneutral e he)⟩
      · simp [Action.writesWindow, Action.isPoll]

lemma closed_of_closesWindow {t : ThreadId} {s s' : Shared} {a : Action} {x : a.Answer}
    (ha : a.closesWindow = true) (heff : Effect t s a x s') :
    s'.service.isBootstrapping = false := by
  rcases a with a | p | q
  · cases a <;> first | cases ha; done | skip
    rw [(effect_access.mp heff).2]
    rfl
  · cases ha
  · cases ha

lemma opened_of_openWindow {t : ThreadId} {s s' : Shared}
    (heff : Effect t s (.access .openWindow) true s') : s'.service.isBootstrapping = true := by
  obtain ⟨hopened, rfl⟩ := effect_access.mp heff
  simp only [Access.perform] at hopened ⊢
  split at hopened
  next => cases hopened
  next hclosed =>
    rw [if_neg hclosed]
    rfl

/-- Without an attempt to open it, a window stays as it is until it is closed. -/
lemma window_of_seen {es : List Event} {a b : Bool}
    (hs : Seen (·.service.isBootstrapping) a es b)
    (hes : ∀ e ∈ es, e.action.writesWindow = true → e.action.closesWindow = true) :
    b = (a && !es.any (·.action.closesWindow)) := by
  induction es generalizing a with
  | nil =>
      rw [seen_nil.mp hs]
      simp
  | cons e es ih =>
      obtain ⟨he, hes'⟩ := List.forall_mem_cons.mp hes
      cases hwrites : e.action.writesWindow with
      | true =>
          obtain ⟨-, s, heff, hrest⟩ := seen_cons.mp hs
          have hcloses := he hwrites
          rw [closed_of_closesWindow hcloses heff] at hrest
          rw [ih hrest hes', List.any_cons, hcloses]
          simp
      | false =>
          obtain ⟨-, hrest⟩ := hs.tail_of_keeps (keeps_window hwrites)
          rw [ih hrest hes', List.any_cons, Action.not_closes hwrites, Bool.false_or]

/-- What follows an element of a kind follows the first element of this kind. -/
lemma suffix_of_first {α : Type} {p : α → Bool} {l₁ l₂ m₁ m₂ : List α} {a b : α}
    (h : l₁ ++ a :: l₂ = m₁ ++ b :: m₂) (ha : p a = true) (hm₁ : ∀ x ∈ m₁, p x = false) :
    l₂ <:+ m₂ := by
  induction m₁ generalizing l₁ with
  | nil =>
      cases l₁ with
      | nil => exact (List.cons_eq_cons.mp h).2 ▸ List.suffix_rfl
      | cons c l₁ => exact ⟨l₁ ++ [a], by simpa using (List.cons_eq_cons.mp h).2⟩
  | cons c m₁ ih =>
      obtain ⟨hc, hm₁⟩ := List.forall_mem_cons.mp hm₁
      cases l₁ with
      | nil =>
          rw [← (List.cons_eq_cons.mp h).1, ha] at hc
          cases hc
      | cons d l₁ => exact ih (List.cons_eq_cons.mp h).2 hm₁

section Window

variable {P Q R : System} {h h₁ h₂ h₃ : List Event} {t u : ThreadId} {polls : Nat} {c : Config}
  {cancellable : Bool} {methods : List Method} {report : BootstrapReport}

/-- Once a bootstrap has begun, its window is open until it closes it, if no other thread touches
it. -/
lemma isBootstrapping_of_own (hrun : System.Run P h₁ R)
    (hreturn : P.Returns t (Routine.bootstrap polls c cancellable methods .queue) (h₁ ++ h₂)
      (.ok (some report)))
    (hothers : ∀ e ∈ h₁ ++ h₂, e.thread ≠ t → e.action.writesWindow = false)
    (hbegun : own t h₁ ≠ []) :
    R.shared.service.isBootstrapping = !(own t h₁).any (·.action.closesWindow) := by
  obtain ⟨v, s, es₁, v', s', es₂, hown, hes₁, hes₂⟩ := Routine.bootstrap_leads_window hreturn.2
  have hseen := hrun.seen (v := (·.service.isBootstrapping))
    (fun e he ht => keeps_window (hothers e (List.mem_append_left _ he) ht)) fun s holder => rfl
  rw [own_append] at hown
  obtain ⟨e, es, hcons⟩ := List.exists_cons_of_ne_nil hbegun
  rw [hcons, List.cons_append] at hown
  obtain ⟨rfl, hrest⟩ := List.cons_eq_cons.mp hown
  rw [hcons] at hseen ⊢
  obtain ⟨-, r, heff, hseen⟩ := seen_cons.mp hseen
  rw [opened_of_openWindow heff] at hseen
  have hes : ∀ e ∈ es, e.action.writesWindow = true → e.action.closesWindow = true := by
    intro e he hwrites
    have hmem : e ∈ es₁ ++ ⟨v', .access .closeWindow, (), s'⟩ :: es₂ :=
      hrest ▸ List.mem_append_left _ he
    rcases List.mem_append.mp hmem with hmem | hmem
    · rw [hes₁ e hmem] at hwrites
      cases hwrites
    · rcases List.mem_cons.mp hmem with rfl | hmem
      · rfl
      · rw [(hes₂ e hmem).1] at hwrites
        cases hwrites
  rw [window_of_seen hseen hes]
  rfl

/-- A seed that is taken out of the queue was put into it before. -/
lemma begun_of_taken {task : CompileTask} {s : Shared}
    (hcut : h = h₁ ++ ⟨u, .access .popTask, some task, s⟩ :: h₂) (hrun : System.Run P h Q)
    (hseed : (arrivals P h)[(popped h₁).length]? = some (some t, task)) : own t h₁ ≠ [] := by
  subst hcut
  obtain ⟨R, R', hR, hstep, -⟩ := hrun.at_event
  have hpop : some task = R.shared.queue.pop.1 := (effect_access.mp hstep.effect).1
  have hlt : (popped h₁).length < (arrivals P h₁).length := by
    have hlength := congrArg List.length ((map_snd_arrivals P h₁).trans hR.conservation)
    rw [List.length_map, List.length_append] at hlength
    have hsome : R.shared.queue.tasks ≠ [] := by
      intro hnone
      rw [Queue.pop, hnone] at hpop
      cases hpop
    have hpos := List.length_pos_iff.mpr hsome
    omega
  rw [arrivals_append, List.getElem?_append_left hlt] at hseed
  have hmem := mem_pushed_of_mem_arrivals (List.mem_of_getElem? hseed)
  rintro hnil
  rw [hnil] at hmem
  cases hmem

/-- **Every seed is taken while the window is open**, since the last look of the bootstrap at the
queue finds none, and the window is closed after that. -/
lemma seed_taken_within {task : CompileTask} {s : Shared}
    (hcut : h = h₁ ++ ⟨u, .access .popTask, some task, s⟩ :: h₂) (hrun : System.Run P h Q)
    (hreturn : P.Returns t (Routine.bootstrap polls c cancellable methods .queue) h
      (.ok (some report)))
    (hflag : ∀ e ∈ h, e.thread ≠ t → e.action.writesFlag = false)
    (hseed : (arrivals P h)[(popped h₁).length]? = some (some t, task)) :
    ∀ e ∈ own t h₁, e.action.closesWindow = false := by
  subst hcut
  obtain ⟨-, -, g₁, g₂, look, hcut, hmine, hlook, -, hpopped⟩ := bootstrap_seeds hrun hreturn hflag
  obtain ⟨v, r, es₁, v', r', es₂, hown, hes₁, hes₂⟩ := Routine.bootstrap_leads_window hreturn.2
  have hplace := hpopped _ _ hseed
  obtain ⟨g, rfl, -⟩ | ⟨g, rfl, -⟩ := List.append_eq_append_iff.mp hcut
  · intro e he
    by_contra hcloses
    rw [Bool.not_eq_false] at hcloses
    obtain ⟨l, l', hl⟩ := List.append_of_mem he
    -- what follows the closing of the window holds no look at the queue
    have hcut' : l ++ e :: (l' ++ (own t g ++ look :: own t g₂)) =
        (⟨v, .access .openWindow, true, r⟩ :: es₁) ++
          ⟨v', .access .closeWindow, (), r'⟩ :: es₂ := by
      rw [List.cons_append, ← hown, hcut, own_append, own_append, own_cons_self hmine, hl]
      simp
    have hsuffix := suffix_of_first hcut' hcloses
      (List.forall_mem_cons.mpr ⟨rfl, fun e he => Action.not_closes (hes₁ e he)⟩)
    have hquiet := (hes₂ look (hsuffix.subset (by simp))).2
    rw [hlook] at hquiet
    cases hquiet
  · have hlength : (popped g₁).length ≤ (popped (g₁ ++ g)).length := by simp [popped]
    rw [List.getElem?_eq_none hlength] at hplace
    cases hplace

/-- The window is closed at a look after a seed was taken exactly if the bootstrap closed it in
between. -/
lemma closed_iff_between {task : CompileTask} {s s' : Shared} {opened : Bool}
    (hcut : h = h₁ ++ ⟨u, .access .popTask, some task, s⟩ ::
      (h₂ ++ ⟨u, .access .readBootstrapping, opened, s'⟩ :: h₃)) (hrun : System.Run P h Q)
    (hreturn : P.Returns t (Routine.bootstrap polls c cancellable methods .queue) h
      (.ok (some report)))
    (hothers : ∀ e ∈ h, e.thread ≠ t → e.action.writesWindow = false)
    (hbegun : own t h₁ ≠ []) (hopen : ∀ e ∈ own t h₁, e.action.closesWindow = false) :
    opened = false ↔ ∃ e ∈ own t h₂, e.action.closesWindow = true := by
  obtain rfl : h = (h₁ ++ ⟨u, .access .popTask, some task, s⟩ :: h₂) ++
      ⟨u, .access .readBootstrapping, opened, s'⟩ :: h₃ := by
    simpa using hcut
  obtain ⟨R, R', hR, hstep, -⟩ := hrun.at_event
  have hopened : opened = R.shared.service.isBootstrapping := (effect_access.mp hstep.effect).1
  have hwindow := isBootstrapping_of_own hR hreturn hothers (by simp [hbegun])
  have hpop : (own t [⟨u, .access .popTask, some task, s⟩]).any (·.action.closesWindow) = false :=
    List.any_eq_false.mpr fun e he => by simp [List.mem_singleton.mp (mem_own.mp he).1,
      Action.closesWindow]
  rw [hopened, hwindow, List.append_cons, own_append, own_append, List.any_append, List.any_append,
    hpop, List.any_eq_false.mpr fun e he => by simp [hopen e he]]
  simp

/-- A worker takes a seed while the window is open, and the gate forces the seed exactly if the
bootstrap closed the window too early for it. -/
lemma Consults.forced_iff {handle : UInt64} {modules : List ModuleId} {task : CompileTask}
    {forced : Bool} (hconsults : Consults P c t u task forced h h₁ h₂) (hrun : System.Run P h Q)
    (hreturn : P.Returns t (Routine.bootstrap polls c cancellable methods .queue) h
      (.ok (some report)))
    (hothers : ∀ e ∈ h, e.thread ≠ t → e.action.isNeutral = true) (hhosted : c.isHosted = false)
    (hlive : ∀ e ∈ h, e.isLive handle modules = true) :
    own t h₁ ≠ [] ∧ (∀ e ∈ own t h₁, e.action.closesWindow = false) ∧
      (forced = true ↔ (∃ e ∈ own t h₂, e.action.closesWindow = true) ∧
        task.method.module ∈ modules) := by
  obtain ⟨hseed, s, opened, s', h₃, hcut, -, es, es', hown, hgate⟩ := hconsults
  have hbegun := begun_of_taken hcut hrun hseed
  have hopen := seed_taken_within hcut hrun hreturn
    (fun e he ht => Action.writesFlag_of_isNeutral (hothers e he ht)) hseed
  refine ⟨hbegun, hopen, ?_⟩
  have hclosed := closed_iff_between hcut hrun hreturn
    (fun e he ht => Action.writesWindow_of_isNeutral (hothers e he ht)) hbegun hopen
  rw [hhosted] at hgate
  rw [forcedSimple_leads_done (fun e he => hlive e ?_) hgate, hclosed]
  have hmem : e ∈ own u h₃ := hown ▸ List.mem_append_left _ he
  simp [hcut, (mem_own.mp hmem).1]

/-- **When the seeds of a bootstrap are spared.** A bootstrap of a compiler that is not hosted
reports, and the other threads, which write neither the flag nor the window, are any workers. A
worker that takes a seed takes it while the window is open, and the gate leaves the seed to the
simple tier exactly if the external runtime excludes its module and the bootstrap closed the window
between the pop and the gate's look at the window. So all seeds are spared exactly if no worker is
that late with a seed of an excluded module. -/
theorem seeds_spared {handle : UInt64} {modules : List ModuleId} (hrun : System.Run P h Q)
    (hreturn : P.Returns t (Routine.bootstrap polls c cancellable methods .queue) h
      (.ok (some report)))
    (hothers : ∀ e ∈ h, e.thread ≠ t → e.action.isNeutral = true) (hhosted : c.isHosted = false)
    (hlive : ∀ e ∈ h, e.isLive handle modules = true) :
    (∀ u task forced h₁ h₂, Consults P c t u task forced h h₁ h₂ →
      own t h₁ ≠ [] ∧ (∀ e ∈ own t h₁, e.action.closesWindow = false) ∧
        (forced = true ↔ (∃ e ∈ own t h₂, e.action.closesWindow = true) ∧
          task.method.module ∈ modules)) ∧
    ((∀ u task forced h₁ h₂, Consults P c t u task forced h h₁ h₂ → forced = false) ↔
      ∀ u task forced h₁ h₂, Consults P c t u task forced h h₁ h₂ →
        task.method.module ∈ modules → ∀ e ∈ own t h₂, e.action.closesWindow = false) := by
  have hforced := fun u task forced h₁ h₂ (hconsults : Consults P c t u task forced h h₁ h₂) =>
    hconsults.forced_iff hrun hreturn hothers hhosted hlive
  refine ⟨hforced, fun hspared u task forced h₁ h₂ hconsults hmodule e he => ?_,
    fun hintime u task forced h₁ h₂ hconsults => ?_⟩
  · by_contra hcloses
    rw [Bool.not_eq_false] at hcloses
    have htrue := (hforced u task forced h₁ h₂ hconsults).2.2.mpr ⟨⟨e, he, hcloses⟩, hmodule⟩
    rw [hspared u task forced h₁ h₂ hconsults] at htrue
    cases htrue
  · by_contra hlate
    rw [Bool.not_eq_false] at hlate
    obtain ⟨⟨e, he, hcloses⟩, hmodule⟩ := (hforced u task forced h₁ h₂ hconsults).2.2.mp hlate
    rw [hintime u task forced h₁ h₂ hconsults hmodule e he] at hcloses
    cases hcloses

end Window

/-! ### One seed of an excluded module -/

/-- What a thread that takes up one task takes up is a seed, if nobody else submits any. -/
lemma consults_of_takeUp {P Q : System} {c : Config} {t u : ThreadId} {task : CompileTask}
    {forced : Bool} {h : List Event} (hrun : System.Run P h Q)
    (htake : (Routine.takeUp c).Leads (own u h) (.done (some (task, forced))))
    (honly : ∀ a ∈ arrivals P h, a.1 = some t) : ∃ h₁ h₂, Consults P c t u task forced h h₁ h₂ := by
  obtain ⟨es₁, v, s, es₂, v', opened, s', es₃, hown, hmark, hgate⟩ :=
    Routine.takeUp_leads_done htake
  obtain ⟨h₁, h', rfl, -, hown'⟩ := exists_of_own_eq_append_cons hown
  obtain ⟨h₂, h₃, rfl, rfl, rfl⟩ := exists_of_own_eq_append_cons hown'
  obtain rfl : u = v :=
    ((mem_own (e := ⟨v, .access .popTask, some task, s⟩)).mp (by rw [hown]; simp)).2.symm
  obtain rfl : u = v' :=
    ((mem_own (e := ⟨v', .access .readBootstrapping, opened, s'⟩)).mp (by rw [hown']; simp)).2.symm
  refine ⟨h₁, h₂, ?_, s, opened, s', h₃, rfl, hmark, _, [], by simp, hgate⟩
  have hplace : ((arrivals P (h₁ ++ ⟨u, .access .popTask, some task, s⟩ ::
      (h₂ ++ ⟨u, .access .readBootstrapping, opened, s'⟩ :: h₃))).map (·.2))[(popped h₁).length]? =
        some task := by
    rw [map_snd_arrivals, hrun.conservation, popped, List.filterMap_append, ← popped]
    simp [Event.popped?]
  rw [List.getElem?_map] at hplace
  obtain ⟨a, ha, rfl⟩ := Option.map_eq_some_iff.mp hplace
  rw [ha, ← honly a (List.mem_of_getElem? ha)]

/-- A method of the external compiler itself. -/
def compilerMethod : Method where
  holder := "Object"
  name := "toString"
  module := ⟨"jdk.internal.vm.compiler"⟩

/-- Surroundings with a live external runtime that excludes its own module. -/
def liveCompiler : (c : Call) → c.Answer
  | .probe => some 1
  | .excluded _ => some [⟨"jdk.internal.vm.compiler"⟩]
  | c => c.silence

/-- Is done after a task about which the gate answered `forced`. -/
def answered (forced : Bool) : Option (CompileTask × Bool) → Routine Unit
  | some (_, b) => if b = forced then .done () else .more
  | none => .more

/-- A bootstrap of this method on the first thread, and a worker on the second. -/
def gatedPair (forced : Bool) : System where
  shared := {}
  threads
    | 1 => (Routine.bootstrap 2 {} false [compilerMethod] .queue).bind afterReport
    | 2 => (Routine.takeUp {}).bind (answered forced)
    | _ => .done ()

/-- The worker consults the gate while the bootstrap sleeps. -/
def timelyRun : List Event × System :=
  (gatedPair false).play liveCompiler
    (List.replicate 11 1 ++ List.replicate 8 2 ++ List.replicate 30 1)

/-- The worker takes its task while the bootstrap sleeps, says so, and consults the gate when the
bootstrap is over. -/
def lateRun : List Event × System :=
  (gatedPair true).play liveCompiler
    (List.replicate 11 1 ++ List.replicate 7 2 ++ List.replicate 30 1 ++ List.replicate 3 2)

/-- A history of this pair in which the bootstrap reports and the worker gets the answer `forced`
about its seed, in the surroundings of the theorem. -/
structure Gated (forced : Bool) (h : List Event) : Prop where
  reports : ∃ report, (gatedPair forced).Returns 1
    (Routine.bootstrap 2 {} false [compilerMethod] .queue) h (.ok (some report))
  neutral : ∀ e ∈ h, e.thread ≠ 1 → e.action.isNeutral = true
  live : ∀ e ∈ h, e.isLive 1 [⟨"jdk.internal.vm.compiler"⟩] = true
  consults : ∃ h₁ h₂, Consults (gatedPair forced) {} 1 2 (seedTask compilerMethod) forced h h₁ h₂

lemma gated_of_done {forced : Bool} {h : List Event} {Q : System}
    (hrun : System.Run (gatedPair forced) h Q) (hreported : (Q.threads 1).isDone = true)
    (hanswered : (Q.threads 2).isDone = true)
    (hneutral : h.all (fun e => e.thread == 1 || e.action.isNeutral) = true)
    (hlive : h.all (·.isLive 1 [⟨"jdk.internal.vm.compiler"⟩]) = true)
    (harrivals : arrivals (gatedPair forced) h = [(some 1, seedTask compilerMethod)]) :
    Gated forced h := by
  refine ⟨?_, fun e he ht => by simpa [ht] using List.all_eq_true.mp hneutral e he,
    List.all_eq_true.mp hlive, ?_⟩
  · obtain ⟨result, hresult, hreturn⟩ := hrun.exists_returns (t := 1) rfl (fun x => by
      unfold afterReport
      split <;> first | exact .inl rfl | exact .inr rfl) hreported
    unfold afterReport at hresult
    split at hresult
    · exact ⟨_, hreturn⟩
    · cases hresult
  · obtain ⟨answer, hanswer, hreturn⟩ := hrun.exists_returns (t := 2) (r := Routine.takeUp {})
      (k := answered forced) rfl (fun x => by
        unfold answered
        repeat' split
        all_goals first | exact .inl rfl | exact .inr rfl) hanswered
    obtain ⟨task, rfl⟩ : ∃ task, answer = some (task, forced) := by
      unfold answered at hanswer
      split at hanswer
      · split at hanswer
        next hb => exact ⟨_, by rw [hb]⟩
        next => cases hanswer
      · cases hanswer
    obtain ⟨h₁, h₂, hconsults⟩ := consults_of_takeUp (t := 1) hrun hreturn.2 (by simp [harrivals])
    have hseed := List.mem_of_getElem? hconsults.seed
    rw [harrivals, List.mem_singleton] at hseed
    obtain rfl : task = seedTask compilerMethod := (Prod.mk.inj hseed).2
    exact ⟨h₁, h₂, hconsults⟩

/-- The worker that consults the gate in time is told to compile its seed as it is. -/
theorem seeds_spared_timely :
    ∃ h₁ h₂, Consults (gatedPair false) {} 1 2 (seedTask compilerMethod) false timelyRun.1 h₁ h₂ ∧
      own 1 h₁ ≠ [] ∧ ∀ e ∈ own 1 (h₁ ++ h₂), e.action.closesWindow = false := by
  have hrun : System.Run (gatedPair false) timelyRun.1 timelyRun.2 := System.run_play _ _ _
  obtain ⟨⟨report, hreturn⟩, hneutral, hlive, h₁, h₂, hconsults⟩ := gated_of_done hrun
    (by decide +kernel) (by decide +kernel) (by decide +kernel) (by decide +kernel)
    (by decide +kernel)
  obtain ⟨hforced, -⟩ := seeds_spared hrun hreturn hneutral rfl hlive
  obtain ⟨hbegun, hopen, hiff⟩ := hforced _ _ _ _ _ hconsults
  refine ⟨h₁, h₂, hconsults, hbegun, ?_⟩
  rw [own_append]
  refine List.forall_mem_append.mpr ⟨hopen, fun e he => ?_⟩
  by_contra hcloses
  rw [Bool.not_eq_false] at hcloses
  cases hiff.mpr ⟨⟨e, he, hcloses⟩, List.mem_singleton.mpr rfl⟩

/-- **A seed is left to the simple tier.** The bootstrap reports, and the worker that took its one
seed is told to leave it to the simple tier. -/
theorem seed_forced : System.Run (gatedPair true) lateRun.1 lateRun.2 ∧ Gated true lateRun.1 := by
  have hrun : System.Run (gatedPair true) lateRun.1 lateRun.2 := System.run_play _ _ _
  exact ⟨hrun, gated_of_done hrun (by decide +kernel) (by decide +kernel) (by decide +kernel)
    (by decide +kernel) (by decide +kernel)⟩

end ExternalCompiler
