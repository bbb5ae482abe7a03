/-
Every exit of a bootstrap undoes what it did:

* `Standing`: what a bootstrap has to leave in order;
* `bootstrap_exit`: at whichever point a bootstrap ends that got its window, the window is closed,
  the flag has its value back, and the external runtime was told exactly if nothing failed, with
  the window closed already and the flag still off.
-/
import ExternalCompiler.Proofs.Bootstrap.Course

namespace ExternalCompiler

/-! ### What a bootstrap has to leave in order -/

/-- The compile-the-world flag, whether the window is open, and the state of the service. -/
structure Standing where
  flag : Bool
  window : Bool
  state : ServiceState

/-- The standing of a shared state. -/
def Shared.standing (s : Shared) : Standing :=
  ⟨s.compileTheWorld, s.service.isBootstrapping, s.service.state⟩

namespace Action

/-- The action leaves the flag, the window and the state of the service alone. -/
def sparesStanding (a : Action) : Bool :=
  !a.writesFlag && !a.writesWindow && !a.writesState

/-- The action tells the external runtime that the bootstrap is finished. -/
def isNotification : Action → Bool
  | .call .bootstrapFinished => true
  | _ => false

/-- The action spares the standing and tells the external runtime nothing about the bootstrap. -/
def isQuiet (a : Action) : Bool :=
  a.sparesStanding && !a.isNotification

/-- The action belongs to a broker: it is quiet, and neither an output nor a look at the token of
the bootstrap. -/
def isBrokers (a : Action) : Bool :=
  a.isQuiet && !a.canFail

lemma isBrokers_of_isVisit {a : Action} (h : a.isVisit = true) : a.isBrokers = true := by
  cases h using isVisit_cases <;> rfl

lemma isQuiet_of_isWatch {a : Action} (h : a.isWatch = true) : a.isQuiet = true := by
  cases h using isWatch_cases <;> rfl

end Action

lemma keeps_standing {a : Action} (h : a.sparesStanding = true) : Keeps Shared.standing a := by
  simp only [Action.sparesStanding, Bool.and_eq_true, Bool.not_eq_true'] at h
  obtain ⟨⟨hflag, hwindow⟩, hstate⟩ := h
  intro me s x s' heff
  have h₁ := keeps_flag hflag _ _ _ _ heff
  have h₂ := keeps_window hwindow _ _ _ _ heff
  have h₃ := keeps_state hstate _ _ _ _ heff
  simp only [Shared.standing, h₁, h₂, h₃]

/-- Both brokers keep to what belongs to a broker. -/
lemma queue_isBrokers : Broker.queue.Only (·.isBrokers = true) :=
  queue_only fun _ h => Action.isBrokers_of_isVisit h

namespace Event

/-- The external runtime was told and did not accept it. -/
def isRefusal : Event → Bool
  | ⟨_, .call .bootstrapFinished, .error _, _⟩ => true
  | _ => false

lemma isRefusal_eq_false {e : Event} (h : e.action.isNotification = false) :
    e.isRefusal = false := by
  obtain ⟨t, a, x, s⟩ := e
  cases a with
  | access a => rfl
  | pause p => rfl
  | call c => cases c <;> first | rfl | cases h

end Event

/-! ### The exits -/

section Standing

variable {t : ThreadId} {s s' : Shared} {b c : Standing} {es : List Event}

lemma seen_storeFlag {v : Bool}
    (h : Seen Shared.standing b (⟨t, .access (.storeFlag v), (), s⟩ :: es) c) :
    s.standing = b ∧ Seen Shared.standing { b with flag := v } es c := by
  obtain ⟨rfl, s', heff, hs⟩ := seen_cons.mp h
  rw [(effect_access.mp heff).2] at hs
  exact ⟨rfl, hs⟩

lemma seen_swapFlag {v saved : Bool}
    (h : Seen Shared.standing b (⟨t, .access (.swapFlag v), saved, s⟩ :: es) c) :
    saved = b.flag ∧ Seen Shared.standing { b with flag := v } es c := by
  obtain ⟨rfl, s', heff, hs⟩ := seen_cons.mp h
  obtain ⟨hsaved, heff⟩ := effect_access.mp heff
  rw [heff] at hs
  exact ⟨hsaved, hs⟩

lemma seen_openWindow
    (h : Seen Shared.standing b (⟨t, .access .openWindow, true, s⟩ :: es) c) :
    b.window = false ∧ Seen Shared.standing { b with window := true } es c := by
  obtain ⟨rfl, s', heff, hs⟩ := seen_cons.mp h
  obtain ⟨hopened, heff⟩ := effect_access.mp heff
  rw [heff] at hs
  simp only [Access.perform] at hopened hs
  split at hopened
  next => cases hopened
  next hclosed =>
    rw [if_neg hclosed] at hs
    exact ⟨Bool.eq_false_iff.mpr hclosed, hs⟩

lemma seen_closeWindow
    (h : Seen Shared.standing b (⟨t, .access .closeWindow, (), s⟩ :: es) c) :
    s.standing = b ∧ Seen Shared.standing { b with window := false } es c := by
  obtain ⟨rfl, s', heff, hs⟩ := seen_cons.mp h
  rw [(effect_access.mp heff).2] at hs
  exact ⟨rfl, hs⟩

lemma seen_storeState {st : ServiceState}
    (h : Seen Shared.standing b (⟨t, .access (.storeState st), (), s⟩ :: es) c) :
    s.standing = b ∧ Seen Shared.standing { b with state := st } es c := by
  obtain ⟨rfl, s', heff, hs⟩ := seen_cons.mp h
  rw [(effect_access.mp heff).2] at hs
  exact ⟨rfl, hs⟩

lemma seen_call {q : Call} {x : q.Answer}
    (h : Seen Shared.standing b (⟨t, .call q, x, s⟩ :: es) c) :
    s.standing = b ∧ Seen Shared.standing b es c := by
  obtain ⟨rfl, s', rfl, hs⟩ := seen_cons.mp h
  exact ⟨rfl, hs⟩

end Standing

/-- What the last events of a bootstrap do, when its window is open and the flag is off. -/
lemma standing_of_ending {saved : Bool} {st : ServiceState} {b : Standing} {es : List Event}
    {x : Except ServiceError BootstrapReport}
    {result : Except ServiceError (Option BootstrapReport)} (hend : Ending saved x es result)
    (hseen : Seen Shared.standing ⟨false, true, st⟩ es b) :
    b.window = false ∧ b.flag = saved ∧
      es.countP (·.action.isNotification) = (if x.isOk then 1 else 0) ∧
      (∀ e ∈ es, e.action.isNotification = true → e.before.standing = ⟨false, false, st⟩) ∧
      (b.state = .failed ↔ es.any (·.isRefusal) = true ∨ st = .failed) := by
  cases hend with
  | brokenOff e t₁ t₂ s₁ s₂ =>
      obtain ⟨-, hseen⟩ := seen_storeFlag hseen
      obtain ⟨-, hseen⟩ := seen_closeWindow hseen
      obtain rfl := seen_nil.mp hseen
      refine ⟨rfl, rfl, rfl, ?_, ?_⟩
      · simp [Action.isNotification]
      · simp [Event.isRefusal]
  | refused report e t₁ t₂ t₃ t₄ s₁ s₂ s₃ s₄ =>
      obtain ⟨-, hseen⟩ := seen_closeWindow hseen
      obtain ⟨htold, hseen⟩ := seen_call hseen
      obtain ⟨-, hseen⟩ := seen_storeState hseen
      obtain ⟨-, hseen⟩ := seen_storeFlag hseen
      obtain rfl := seen_nil.mp hseen
      refine ⟨rfl, rfl, rfl, ?_, ?_⟩
      · simpa [Action.isNotification] using htold
      · simp [Event.isRefusal]
  | finished report t₁ t₂ t₃ s₁ s₂ s₃ =>
      obtain ⟨-, hseen⟩ := seen_closeWindow hseen
      obtain ⟨htold, hseen⟩ := seen_call hseen
      obtain ⟨-, hseen⟩ := seen_storeFlag hseen
      obtain rfl := seen_nil.mp hseen
      refine ⟨rfl, rfl, rfl, ?_, ?_⟩
      · simpa [Action.isNotification] using htold
      · simp [Event.isRefusal]

/-- The last events of a bootstrap hold no failure. -/
lemma no_failure_of_ending {saved : Bool} {es : List Event}
    {x : Except ServiceError BootstrapReport}
    {result : Except ServiceError (Option BootstrapReport)} (hend : Ending saved x es result) :
    es.any (·.isFailure) = false := by
  cases hend <;> rfl

open Routine in
/-- Inside its window a bootstrap leaves the standing alone and tells nobody. An output or a look at
its token fails there exactly if the inside fails. -/
lemma quiet_of_inside {polls : Nat} {print cancellable : Bool} {methods : List Method}
    {broker : Broker} {es : List Event} {x : Except ServiceError BootstrapReport}
    (hbroker : broker.Only (·.isBrokers = true))
    (h : (seedAndDrain polls print cancellable methods broker).Leads es (done x)) :
    (∀ e ∈ es, e.action.sparesStanding = true ∧ e.action.isNotification = false) ∧
      es.any (·.isFailure) = !x.isOk := by
  have hbroker' := hbroker.mono fun a ha => Bool.and_eq_true_iff.mp ha
  refine ⟨fun e he => ?_, ?_⟩
  · have hquiet := ((only_seedAndDrain (fun a ha => Action.isQuiet_of_isWatch ha)
      (hbroker'.mono fun a ha => ha.1) _ _ _ _).leads h).2 e he
    simpa [Action.isQuiet] using hquiet
  · rw [reports_seedAndDrain (hbroker'.mono fun a ha => by simpa using ha.2) _ _ _ _ _ _ h,
      Bool.not_not]

open Routine in
/-- **Every exit of a bootstrap undoes what it did.** A bootstrap that got its window and returns,
while no other thread writes the flag, the window or the state of the service, leaves the window
closed and the flag as it was. It tells the external runtime once if no output failed and no
cancellation was seen, and not at all else; when it does, the window is closed and the flag is
still off. The service has failed at the end exactly if the external runtime did not accept that,
or it had failed before. -/
theorem bootstrap_exit {P Q : System} {h : List Event} {t : ThreadId} {polls : Nat} {c : Config}
    {cancellable : Bool} {methods : List Method} {broker : Broker}
    {result : Except ServiceError (Option BootstrapReport)}
    (hmode : c.executionMode ≠ .interpreted) (hbroker : broker.Only (·.isBrokers = true))
    (hrun : System.Run P h Q)
    (hreturn : P.Returns t (bootstrap polls c cancellable methods broker) h result)
    (hopen : ∃ e ∈ own t h, e.opensWindow)
    (halone : ∀ e ∈ h, e.thread ≠ t → e.action.sparesStanding = true) :
    Q.shared.service.isBootstrapping = false ∧
      Q.shared.compileTheWorld = P.shared.compileTheWorld ∧
      (own t h).countP (·.action.isNotification) = (if (own t h).any (·.isFailure) then 0 else 1) ∧
      (∀ e ∈ own t h, e.action.isNotification = true →
        e.before.service.isBootstrapping = false ∧ e.before.compileTheWorld = false) ∧
      (Q.shared.service.state = .failed ↔
        (own t h).any (·.isRefusal) = true ∨ P.shared.service.state = .failed) := by
  have hseen := hrun.seen (fun e he ht => keeps_standing (halone e he ht)) fun s holder => rfl
  obtain ⟨t₁, s₁, t₂, saved, s₂, es₁, es₂, x, hown, hinside, hend⟩ :=
    bootstrap_leads_done hmode hreturn.2 hopen
  rw [hown] at hseen ⊢
  obtain ⟨-, hseen⟩ := seen_openWindow hseen
  obtain ⟨hsaved, hseen⟩ := seen_swapFlag hseen
  obtain ⟨b, hseen₁, hseen₂⟩ := seen_append.mp hseen
  obtain ⟨hspares, hfails⟩ := quiet_of_inside hbroker hinside
  obtain ⟨rfl, -⟩ := hseen₁.of_keeps fun e he => keeps_standing (hspares e he).1
  obtain ⟨hwindow, hflag, hcount, hbefore, hstate⟩ := standing_of_ending hend hseen₂
  have hnone : es₁.countP (·.action.isNotification) = 0 :=
    List.countP_eq_zero.mpr fun e he => by simp [(hspares e he).2]
  have hrefusal : es₁.any (·.isRefusal) = false :=
    List.any_eq_false.mpr fun e he => by simp [Event.isRefusal_eq_false (hspares e he).2]
  refine ⟨hwindow, hflag.trans hsaved, ?_, ?_, ?_⟩
  · have hany : (es₁ ++ es₂).any (·.isFailure) = !x.isOk := by
      rw [List.any_append, no_failure_of_ending hend, Bool.or_false, hfails]
    simp only [List.countP_cons, List.countP_append, List.any_cons, hnone, hcount, hany]
    cases x <;> rfl
  · intro e he htold
    rw [List.mem_cons, List.mem_cons, List.mem_append] at he
    obtain rfl | rfl | he | he := he
    · cases htold
    · cases htold
    · rw [(hspares e he).2] at htold
      cases htold
    · have hb := hbefore e he htold
      exact ⟨congrArg Standing.window hb, congrArg Standing.flag hb⟩
  · rw [List.any_cons, List.any_cons, List.any_append, hrefusal]
    exact hstate

/-- Surroundings in which nothing happens but that the external runtime refuses the end of a
bootstrap. -/
def refusing : (c : Call) → c.Answer
  | .bootstrapFinished => .error (.communication "bootstrap finished" "gone")
  | c => c.silence

/-- The second thread takes the task while the bootstrap sleeps; in the end the external runtime
refuses. -/
def refusedRun : List Event × System :=
  (seededPair fun _ => .done ()).play refusing
    (List.replicate 13 1 ++ List.replicate 5 2 ++ List.replicate 30 1)

open Routine in
/-- The refused end is one of the exits: the window is closed, the flag is on again, and the
service has failed. -/
theorem bootstrap_exit_refused :
    (own 1 refusedRun.1).any (·.isRefusal) = true ∧
      refusedRun.2.shared.service.isBootstrapping = false ∧
      refusedRun.2.shared.compileTheWorld = true ∧
      (own 1 refusedRun.1).countP (·.action.isNotification) = 1 ∧
      refusedRun.2.shared.service.state = .failed := by
  have hrun : System.Run (seededPair fun _ => .done ()) refusedRun.1 refusedRun.2 :=
    System.run_play _ _ _
  have hdone : (refusedRun.2.threads 1).isDone = true := by decide +kernel
  obtain ⟨result, -, hreturn⟩ := hrun.exists_returns rfl (fun _ => .inl rfl) hdone
  have hopen : (own 1 refusedRun.1).any (·.opensWindow) = true := by decide +kernel
  have halone : refusedRun.1.all
      (fun e => e.thread == 1 || e.action.sparesStanding) = true := by decide +kernel
  have hrefused : (own 1 refusedRun.1).any (·.isRefusal) = true := by decide +kernel
  have hnone : (own 1 refusedRun.1).any (·.isFailure) = false := by decide +kernel
  obtain ⟨hwindow, hflag, hcount, -, hstate⟩ := bootstrap_exit (by decide) queue_isBrokers hrun
    hreturn (List.any_eq_true.mp hopen) fun e he ht => by
      simpa [ht] using List.all_eq_true.mp halone e he
  refine ⟨hrefused, hwindow, hflag, ?_, hstate.mpr (.inl hrefused)⟩
  rw [hcount, if_neg (by simp [hnone])]

end ExternalCompiler
