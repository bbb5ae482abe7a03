/-
The course of a bootstrap, read off its events:

* `Action.isWatch`, `Action.isBracket`: what a bootstrap does beside its broker while it waits and
  writes, and around that, with their cases; `only_bootstrap`: it does nothing else;
* `Routine.Reports`: a routine fails exactly when an output failed or a cancellation was seen;
  `reports_seedAndDrain`: the inside of a bootstrap is one;
* `Ending`, `bootstrap_leads_done`: the events of a bootstrap that got its window, exit by exit.
-/
import ExternalCompiler.Bootstrap
import ExternalCompiler.Proofs.Queue.Visits

namespace ExternalCompiler

/-! ### Kinds of actions -/

namespace Action

/-- What a bootstrap does inside its window, beside its broker. -/
def isWatch : Action → Bool
  | .pause (.sleep _) | .call .isCancelled | .call .now | .access .readHandled
  | .access (.readCounter _) | .call (.write _) | .call .flush => true
  | _ => false

/-- What a bootstrap does around its inside: it opens and closes its window, switches the flag off
and puts it back, tells the external runtime, and marks a service as failed whose runtime did not
accept that. -/
def isBracket : Action → Bool
  | .access .openWindow | .access .closeWindow | .access (.swapFlag _) | .access (.storeFlag _)
  | .access (.storeState .failed) | .call .bootstrapFinished => true
  | _ => false

/-- What a bootstrap does inside its window, action by action. -/
@[elab_as_elim]
lemma isWatch_cases {motive : (a : Action) → a.isWatch = true → Prop}
    (sleep : ∀ millis, motive (.pause (.sleep millis)) rfl)
    (isCancelled : motive (.call .isCancelled) rfl) (now : motive (.call .now) rfl)
    (readHandled : motive (.access .readHandled) rfl)
    (readCounter : ∀ k, motive (.access (.readCounter k)) rfl)
    (write : ∀ text, motive (.call (.write text)) rfl) (flush : motive (.call .flush) rfl)
    {a : Action} (h : a.isWatch = true) : motive a h := by
  unfold isWatch at h
  split at h
  · exact sleep _
  · exact isCancelled
  · exact now
  · exact readHandled
  · exact readCounter _
  · exact write _
  · exact flush
  · cases h

/-- What a bootstrap does around its inside, action by action. -/
@[elab_as_elim]
lemma isBracket_cases {motive : (a : Action) → a.isBracket = true → Prop}
    (openWindow : motive (.access .openWindow) rfl)
    (closeWindow : motive (.access .closeWindow) rfl)
    (swapFlag : ∀ v, motive (.access (.swapFlag v)) rfl)
    (storeFlag : ∀ v, motive (.access (.storeFlag v)) rfl)
    (fail : motive (.access (.storeState .failed)) rfl)
    (bootstrapFinished : motive (.call .bootstrapFinished) rfl) {a : Action}
    (h : a.isBracket = true) : motive a h := by
  unfold isBracket at h
  split at h
  · exact openWindow
  · exact closeWindow
  · exact swapFlag _
  · exact storeFlag _
  · exact fail
  · exact bootstrapFinished
  · cases h

/-- What may end a bootstrap early: an output, and the question whether it was cancelled. -/
def canFail : Action → Bool
  | .call (.write _) | .call .flush | .call .isCancelled => true
  | _ => false

/-- The action leaves the flag and the window alone. -/
def isNeutral (a : Action) : Bool :=
  !a.writesFlag && !a.writesWindow

lemma isNeutral_of_isVisit {a : Action} (h : a.isVisit = true) : a.isNeutral = true := by
  cases h using isVisit_cases <;> rfl

lemma isNeutral_of_isWatch {a : Action} (h : a.isWatch = true) : a.isNeutral = true := by
  cases h using isWatch_cases <;> rfl

lemma writesFlag_of_isNeutral {a : Action} (h : a.isNeutral = true) : a.writesFlag = false := by
  simp only [isNeutral, Bool.and_eq_true, Bool.not_eq_true'] at h
  exact h.1

lemma writesWindow_of_isNeutral {a : Action} (h : a.isNeutral = true) :
    a.writesWindow = false := by
  simp only [isNeutral, Bool.and_eq_true, Bool.not_eq_true'] at h
  exact h.2

/-- What belongs to waiting leaves the window alone. -/
lemma writesWindow_of_isWatch {a : Action} (h : a.isWatch = true) : a.writesWindow = false :=
  writesWindow_of_isNeutral (isNeutral_of_isWatch h)

end Action

namespace Routine

variable {p : Action → Prop}

/-! ### The inside of a bootstrap -/

section Inside

variable {broker : Broker}

lemma only_submitAll (hb : broker.Only p) (tasks : List CompileTask) (accepted : Nat) :
    (submitAll broker tasks accepted).Only p := by
  induction tasks generalizing accepted with
  | nil => trivial
  | cons t rest ih => exact (hb.submit t).bind fun b => only_ite (ih _) (ih _)

lemma only_emit (hp : ∀ a, a.isWatch = true → p a) (text : String) : (emit text).Only p := by
  refine (only_call.mpr (hp _ rfl)).bind fun x => ?_
  cases x <;> trivial

lemma only_flushSink (hp : ∀ a, a.isWatch = true → p a) : flushSink.Only p := by
  refine (only_call.mpr (hp _ rfl)).bind fun x => ?_
  cases x <;> trivial

lemma only_emitDots (hp : ∀ a, a.isWatch = true → p a) (n : Nat) : (emitDots n).Only p := by
  induction n with
  | zero => exact only_flushSink hp
  | succ n ih =>
      refine (only_emit hp _).bind fun x => ?_
      cases x with
      | error e => trivial
      | ok _ => exact ih

lemma only_showProgress (hp : ∀ a, a.isWatch = true → p a) (print : Bool) (dots : Nat) :
    (showProgress print dots).Only p := by
  refine only_ite ((only_access.mpr (hp _ rfl)).bind fun compiled => ?_) trivial
  refine (only_emitDots hp _).bind fun x => ?_
  cases x <;> trivial

lemma only_checkCancelled (hp : ∀ a, a.isWatch = true → p a) (cancellable : Bool)
    (start pending : Nat) : (checkCancelled cancellable start pending).Only p := by
  refine only_ite ((only_call.mpr (hp _ rfl)).bind fun cancelled => ?_) trivial
  exact only_ite ((only_call.mpr (hp _ rfl)).bind fun _ => trivial) trivial

lemma only_awaitsFirstTask (hp : p (.access .readHandled)) (first : Bool) (size : Nat) :
    (awaitsFirstTask first size).Only p :=
  only_ite ((only_access.mpr hp).bind fun _ => only_ite trivial trivial) trivial

lemma only_drain (hp : ∀ a, a.isWatch = true → p a) (hsize : ∀ tier, (broker.size tier).Only p)
    (print cancellable : Bool) (start n : Nat) (first : Bool) (dots : Nat) :
    (drain print cancellable broker start n first dots).Only p := by
  induction n generalizing first dots with
  | zero => trivial
  | succ n ih =>
      refine (only_pause.mpr (hp _ rfl)).bind fun _ => (hsize _).bind fun size => ?_
      refine (only_checkCancelled hp _ _ _).bind fun x => ?_
      cases x with
      | error e => trivial
      | ok _ =>
          refine (only_awaitsFirstTask (hp _ rfl) _ _).bind fun waits => only_ite (ih _ _) ?_
          refine (only_showProgress hp _ _).bind fun y => ?_
          cases y with
          | error e => trivial
          | ok dots => exact only_ite trivial (ih _ _)

lemma only_openOutput (hp : ∀ a, a.isWatch = true → p a) (print : Bool) :
    (openOutput print).Only p := by
  refine only_ite ((only_emit hp _).bind fun x => ?_) trivial
  cases x with
  | error e => trivial
  | ok _ => exact only_flushSink hp

lemma only_closeOutput (hp : ∀ a, a.isWatch = true → p a) (print : Bool)
    (report : BootstrapReport) : (closeOutput print report).Only p :=
  only_ite (only_emit hp _) trivial

/-- Inside its window a bootstrap does what its broker does and what belongs to waiting. -/
lemma only_seedAndDrain (hp : ∀ a, a.isWatch = true → p a) (hb : broker.Only p) (polls : Nat)
    (print cancellable : Bool) (methods : List Method) :
    (seedAndDrain polls print cancellable methods broker).Only p := by
  refine (only_openOutput hp _).bind fun x => ?_
  cases x with
  | error e => trivial
  | ok _ =>
      refine (only_call.mpr (hp _ rfl)).bind fun start => (only_submitAll hb _ _).bind fun n => ?_
      refine (only_drain hp hb.size _ _ _ _ _ _).bind fun y => ?_
      cases y with
      | error e => trivial
      | ok _ =>
          refine (only_access.mpr (hp _ rfl)).bind fun compiled => ?_
          refine (only_call.mpr (hp _ rfl)).bind fun finish => ?_
          refine (only_closeOutput hp _ _).bind fun z => ?_
          cases z <;> trivial

lemma only_announceEnd (htell : p (.call .bootstrapFinished))
    (hfail : p (.access (.storeState .failed))) : announceEnd.Only p := by
  refine (only_call.mpr htell).bind fun told => ?_
  cases told with
  | error e => exact (only_access.mpr hfail).bind fun _ => trivial
  | ok _ => trivial

lemma only_withinWindow (hp : ∀ a, a.isWatch = true → p a)
    (hbracket : ∀ a, a.isBracket = true → p a) (hb : broker.Only p) (polls : Nat)
    (print cancellable : Bool) (methods : List Method) :
    (withinWindow polls print cancellable methods broker).Only p := by
  refine (only_access.mpr (hbracket _ rfl)).bind fun previous => ?_
  refine (only_seedAndDrain hp hb _ _ _ _).bind fun x => ?_
  cases x with
  | error e =>
      refine (only_access.mpr (hbracket _ rfl)).bind fun _ => ?_
      exact (only_access.mpr (hbracket _ rfl)).bind fun _ => trivial
  | ok report =>
      refine (only_access.mpr (hbracket _ rfl)).bind fun _ => ?_
      refine (only_announceEnd (hbracket _ rfl) (hbracket _ rfl)).bind fun told => ?_
      cases told <;> exact (only_access.mpr (hbracket _ rfl)).bind fun _ => trivial

/-- A bootstrap does what its broker does, what belongs to waiting, and what is around that. -/
lemma only_bootstrap (hp : ∀ a, a.isWatch = true → p a) (hbracket : ∀ a, a.isBracket = true → p a)
    (hb : broker.Only p) (polls : Nat) (c : Config) (cancellable : Bool) (methods : List Method) :
    (bootstrap polls c cancellable methods broker).Only p := by
  refine only_ite trivial ?_
  refine (only_access.mpr (hbracket _ rfl)).bind fun opened => only_ite ?_ trivial
  refine (only_withinWindow hp hbracket hb _ _ _ _).bind fun x => ?_
  cases x <;> trivial

end Inside

end Routine

/-! ### Failures -/

/-- An output that failed, or a look at the token that found the bootstrap cancelled. -/
def Event.isFailure : Event → Bool
  | ⟨_, .call (.write _), .error _, _⟩ => true
  | ⟨_, .call .flush, .error _, _⟩ => true
  | ⟨_, .call .isCancelled, true, _⟩ => true
  | _ => false

lemma Event.isFailure_eq_false {e : Event} (h : e.action.canFail = false) :
    e.isFailure = false := by
  obtain ⟨t, a, x, s⟩ := e
  cases a with
  | access a => rfl
  | pause p => rfl
  | call c => cases c <;> first | rfl | cases h

namespace Routine

variable {α β : Type}

/-- The routine fails exactly when one of its events is a failure. -/
def Reports (r : Routine (Except ServiceError α)) : Prop :=
  ∀ es x, r.Leads es (done x) → x.isOk = !es.any Event.isFailure

lemma reports_ok (a : α) : (done (.ok a) : Routine (Except ServiceError α)).Reports := by
  intro es x h
  obtain ⟨rfl, hx⟩ := leads_done.mp h
  cases hx
  rfl

lemma reports_ite {b : Prop} [Decidable b] {r r' : Routine (Except ServiceError α)}
    (h : r.Reports) (h' : r'.Reports) : (if b then r else r').Reports := by
  split
  · exact h
  · exact h'

lemma reports_more : (more : Routine (Except ServiceError α)).Reports :=
  fun _ _ h => absurd h not_leads_more_done

/-- Going on after a success and breaking off after a failure. -/
lemma Reports.bind {r : Routine (Except ServiceError α)}
    {f : Except ServiceError α → Routine (Except ServiceError β)} (hr : r.Reports)
    (herror : ∀ e, f (.error e) = done (.error e)) (hok : ∀ a, (f (.ok a)).Reports) :
    (r.bind f).Reports := by
  intro es x h
  obtain ⟨es₁, es₂, y, rfl, h₁, h₂⟩ := leads_bind_done.mp h
  have hy := hr _ _ h₁
  cases y with
  | error e =>
      rw [herror] at h₂
      obtain ⟨rfl, hx⟩ := leads_done.mp h₂
      cases hx
      simpa [Except.isOk, Except.toBool] using hy
  | ok a =>
      have hx := hok a _ _ h₂
      rw [List.any_append, hx]
      simp_all [Except.isOk, Except.toBool]

/-- What cannot fail may come first. -/
lemma Reports.after {r : Routine α} {f : α → Routine (Except ServiceError β)}
    (hr : r.Only fun a => a.canFail = false) (hf : ∀ a, (f a).Reports) : (r.bind f).Reports := by
  intro es x h
  obtain ⟨es₁, es₂, a, rfl, h₁, h₂⟩ := leads_bind_done.mp h
  have hquiet : es₁.any Event.isFailure = false :=
    List.any_eq_false.mpr fun e he => by simp [Event.isFailure_eq_false ((hr.leads h₁).2 e he)]
  rw [List.any_append, hquiet, Bool.false_or]
  exact hf a _ _ h₂

lemma reports_emit (text : String) : (emit text).Reports := by
  intro es x h
  obtain ⟨t, y, s, es', rfl, h'⟩ := leads_call_done.mp h
  cases y <;>
    · obtain ⟨rfl, hx⟩ := leads_done.mp h'
      cases hx
      rfl

lemma reports_flushSink : flushSink.Reports := by
  intro es x h
  obtain ⟨t, y, s, es', rfl, h'⟩ := leads_call_done.mp h
  cases y <;>
    · obtain ⟨rfl, hx⟩ := leads_done.mp h'
      cases hx
      rfl

lemma reports_emitDots (n : Nat) : (emitDots n).Reports := by
  induction n with
  | zero => exact reports_flushSink
  | succ n ih => exact (reports_emit _).bind (fun _ => rfl) fun _ => ih

lemma reports_showProgress (print : Bool) (dots : Nat) : (showProgress print dots).Reports := by
  refine reports_ite (Reports.after (only_access.mpr rfl) fun compiled => ?_) (reports_ok _)
  exact (reports_emitDots _).bind (fun _ => rfl) fun _ => reports_ok _

lemma reports_checkCancelled (cancellable : Bool) (start pending : Nat) :
    (checkCancelled cancellable start pending).Reports := by
  refine reports_ite ?_ (reports_ok _)
  intro es x h
  obtain ⟨t, cancelled, s, es', rfl, h'⟩ := leads_call_done.mp h
  cases cancelled with
  | false =>
      obtain ⟨rfl, hx⟩ := leads_done.mp h'
      cases hx
      rfl
  | true =>
      obtain ⟨t', moment, s', es'', rfl, h''⟩ := leads_call_done.mp h'
      obtain ⟨rfl, hx⟩ := leads_done.mp h''
      cases hx
      rfl

variable {broker : Broker}

lemma reports_drain (hb : broker.Only fun a => a.canFail = false) (print cancellable : Bool)
    (start n : Nat) (first : Bool) (dots : Nat) :
    (drain print cancellable broker start n first dots).Reports := by
  induction n generalizing first dots with
  | zero => exact reports_more
  | succ n ih =>
      refine Reports.after (only_pause.mpr rfl) fun _ => Reports.after (hb.size _) fun size => ?_
      refine (reports_checkCancelled _ _ _).bind (fun _ => rfl) fun _ => ?_
      refine Reports.after (only_awaitsFirstTask (by rfl) _ _) fun waits => reports_ite (ih _ _) ?_
      exact (reports_showProgress _ _).bind (fun _ => rfl)
        fun _ => reports_ite (reports_ok _) (ih _ _)

lemma reports_openOutput (print : Bool) : (openOutput print).Reports :=
  reports_ite ((reports_emit _).bind (fun _ => rfl) fun _ => reports_flushSink) (reports_ok _)

lemma reports_closeOutput (print : Bool) (report : BootstrapReport) :
    (closeOutput print report).Reports :=
  reports_ite (reports_emit _) (reports_ok _)

/-- **The inside of a bootstrap fails exactly when an output failed or it was found cancelled.** -/
lemma reports_seedAndDrain (hb : broker.Only fun a => a.canFail = false) (polls : Nat)
    (print cancellable : Bool) (methods : List Method) :
    (seedAndDrain polls print cancellable methods broker).Reports := by
  refine (reports_openOutput _).bind (fun _ => rfl) fun _ => ?_
  refine Reports.after (only_call.mpr rfl) fun start => ?_
  refine Reports.after (only_submitAll hb _ _) fun submitted => ?_
  refine (reports_drain hb _ _ _ _ _ _).bind (fun _ => rfl) fun _ => ?_
  refine Reports.after (only_access.mpr rfl) fun compiled => ?_
  refine Reports.after (only_call.mpr rfl) fun finish => ?_
  exact (reports_closeOutput _ _).bind (fun _ => rfl) fun _ => reports_ok _

end Routine

/-! ### Exits -/

/-- How a bootstrap ends after its inside: with the flag it saved, what the inside brought, the
events that follow, and the result. A bootstrap that breaks off puts the flag back and closes its
window; else the window closes first, the external runtime is told, and the flag is put back. -/
inductive Ending (saved : Bool) : Except ServiceError BootstrapReport → List Event →
    Except ServiceError (Option BootstrapReport) → Prop
  | brokenOff (e : ServiceError) (t₁ t₂ : ThreadId) (s₁ s₂ : Shared) :
      Ending saved (.error e)
        [⟨t₁, .access (.storeFlag saved), (), s₁⟩, ⟨t₂, .access .closeWindow, (), s₂⟩] (.error e)
  | refused (report : BootstrapReport) (e : ServiceError) (t₁ t₂ t₃ t₄ : ThreadId)
      (s₁ s₂ s₃ s₄ : Shared) :
      Ending saved (.ok report)
        [⟨t₁, .access .closeWindow, (), s₁⟩, ⟨t₂, .call .bootstrapFinished, .error e, s₂⟩,
          ⟨t₃, .access (.storeState .failed), (), s₃⟩,
          ⟨t₄, .access (.storeFlag saved), (), s₄⟩] (.error e)
  | finished (report : BootstrapReport) (t₁ t₂ t₃ : ThreadId) (s₁ s₂ s₃ : Shared) :
      Ending saved (.ok report)
        [⟨t₁, .access .closeWindow, (), s₁⟩, ⟨t₂, .call .bootstrapFinished, .ok (), s₂⟩,
          ⟨t₃, .access (.storeFlag saved), (), s₃⟩] (.ok (some report))

/-- The event opens the bootstrap window. -/
def Event.opensWindow : Event → Bool
  | ⟨_, .access .openWindow, true, _⟩ => true
  | _ => false

namespace Routine

variable {broker : Broker}

lemma announceEnd_leads_done {es : List Event} {x : Except ServiceError Unit}
    (h : announceEnd.Leads es (done x)) :
    (∃ t s, es = [⟨t, .call .bootstrapFinished, .ok (), s⟩] ∧ x = .ok ()) ∨
      ∃ e t s t' s', es = [⟨t, .call .bootstrapFinished, .error e, s⟩,
        ⟨t', .access (.storeState .failed), (), s'⟩] ∧ x = .error e := by
  obtain ⟨t, y, s, es', rfl, h'⟩ := leads_call_done.mp h
  cases y with
  | error e =>
      obtain ⟨t', _, s', es'', rfl, h''⟩ := leads_access_done.mp h'
      obtain ⟨rfl, hx⟩ := leads_done.mp h''
      cases hx
      exact .inr ⟨e, t, s, t', s', rfl, rfl⟩
  | ok _ =>
      obtain ⟨rfl, hx⟩ := leads_done.mp h'
      cases hx
      exact .inl ⟨t, s, rfl, rfl⟩

/-- What follows on the inside of a bootstrap. -/
lemma withinWindow_leads_done {polls : Nat} {print cancellable : Bool} {methods : List Method}
    {es : List Event} {y : Except ServiceError BootstrapReport}
    (h : (withinWindow polls print cancellable methods broker).Leads es (done y)) :
    ∃ t saved s es₁ es₂ x, es = ⟨t, .access (.swapFlag false), saved, s⟩ :: (es₁ ++ es₂) ∧
      (seedAndDrain polls print cancellable methods broker).Leads es₁ (done x) ∧
      Ending saved x es₂ (y.map some) := by
  obtain ⟨t, saved, s, es', rfl, h'⟩ := leads_access_done.mp h
  obtain ⟨es₁, es₂, x, rfl, hinside, hend⟩ := leads_bind_done.mp h'
  refine ⟨t, saved, s, es₁, es₂, x, rfl, hinside, ?_⟩
  cases x with
  | error e =>
      obtain ⟨t₁, _, s₁, es₃, rfl, h₁⟩ := leads_access_done.mp hend
      obtain ⟨t₂, _, s₂, es₄, rfl, h₂⟩ := leads_access_done.mp h₁
      obtain ⟨rfl, hy⟩ := leads_done.mp h₂
      cases hy
      exact .brokenOff e t₁ t₂ s₁ s₂
  | ok report =>
      obtain ⟨t₁, _, s₁, es₃, rfl, h₁⟩ := leads_access_done.mp hend
      obtain ⟨es₄, es₅, z, rfl, htold, h₂⟩ := leads_bind_done.mp h₁
      obtain ⟨t₂, s₂, rfl, rfl⟩ | ⟨e, t₂, s₂, t₃, s₃, rfl, rfl⟩ := announceEnd_leads_done htold
      · obtain ⟨t₃, _, s₃, es₆, rfl, h₃⟩ := leads_access_done.mp h₂
        obtain ⟨rfl, hy⟩ := leads_done.mp h₃
        cases hy
        exact .finished report t₁ t₂ t₃ s₁ s₂ s₃
      · obtain ⟨t₄, _, s₄, es₆, rfl, h₃⟩ := leads_access_done.mp h₂
        obtain ⟨rfl, hy⟩ := leads_done.mp h₃
        cases hy
        exact .refused report e t₁ t₂ t₃ t₄ s₁ s₂ s₃ s₄

/-- The events of a bootstrap that got its window: it opens the window, switches the flag off,
seeds and drains, and ends in one of three ways. -/
theorem bootstrap_leads_done {polls : Nat} {c : Config} {cancellable : Bool}
    {methods : List Method} {es : List Event}
    {result : Except ServiceError (Option BootstrapReport)}
    (hmode : c.executionMode ≠ .interpreted)
    (h : (bootstrap polls c cancellable methods broker).Leads es (done result))
    (hopen : ∃ e ∈ es, e.opensWindow) :
    ∃ t s t' saved s' es₁ es₂ x,
      es = ⟨t, .access .openWindow, true, s⟩ :: ⟨t', .access (.swapFlag false), saved, s'⟩ ::
        (es₁ ++ es₂) ∧
      (seedAndDrain polls c.printProgress cancellable methods broker).Leads es₁ (done x) ∧
      Ending saved x es₂ result := by
  rw [bootstrap, if_neg hmode] at h
  obtain ⟨t, opened, s, es', rfl, h'⟩ := leads_access_done.mp h
  cases opened with
  | false =>
      obtain ⟨rfl, -⟩ := leads_done.mp h'
      simp [Event.opensWindow] at hopen
  | true =>
      obtain ⟨es₀, es₃, y, rfl, hwithin, hresult⟩ := leads_bind_done.mp h'
      obtain ⟨t', saved, s', es₁, es₂, x, rfl, hinside, hend⟩ := withinWindow_leads_done hwithin
      have hes₃ : es₃ = [] ∧ result = y.map some := by
        cases y with
        | error e =>
            obtain ⟨rfl, hr⟩ := leads_done.mp hresult
            cases hr
            exact ⟨rfl, rfl⟩
        | ok report =>
            obtain ⟨rfl, hr⟩ := leads_done.mp hresult
            cases hr
            exact ⟨rfl, rfl⟩
      obtain ⟨rfl, rfl⟩ := hes₃
      exact ⟨t, s, t', saved, s', es₁, es₂, x, by simp, hinside, hend⟩

/-- A bootstrap begins with asking for its window: it runs within the window that it got, or returns
with an error. -/
lemma bootstrap_bind {polls : Nat} {c : Config} {cancellable : Bool} {methods : List Method}
    (hmode : c.executionMode ≠ .interpreted)
    (k : Except ServiceError (Option BootstrapReport) → Routine Unit) :
    ∃ next, (bootstrap polls c cancellable methods broker).bind k =
        .act (.access .openWindow) next ∧
      next true = (withinWindow polls c.printProgress cancellable methods broker).bind
        (fun x => k (x.map some)) ∧
      next false = k (.error .bootstrapInProgress) := by
  rw [bootstrap, if_neg hmode]
  refine ⟨_, rfl, ?_, rfl⟩
  simp only [done_bind, if_true, bind_eq, bind_assoc]
  refine congrArg _ (funext fun x => ?_)
  cases x <;> rfl

end Routine

/-! ### A bootstrap of one method -/

/-- A method that a bootstrap seeds. -/
def plainMethod : Method where
  holder := "Object"
  name := "toString"
  module := ⟨"java.base"⟩

/-- A bootstrap of one method on the first thread, which goes on with `k`, and a second thread that
takes its task; compile-the-world is on at first. -/
def seededPair (k : Except ServiceError (Option BootstrapReport) → Routine Unit) : System where
  shared := { compileTheWorld := true, service := { requestHandled := true } }
  threads
    | 1 => (Routine.bootstrap 2 { printProgress := true } false [plainMethod] .queue).bind k
    | 2 => do
        Routine.lock
        let _ ← Routine.access .popTask
        Routine.unlock
    | _ => .done ()

end ExternalCompiler
