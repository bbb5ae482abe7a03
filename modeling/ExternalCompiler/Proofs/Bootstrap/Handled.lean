/-
What ends the first round of a bootstrap:

* `Handler`, `markConduct`: the programs that say that a request was handled by whole calls, which
  look at the window first;
* `untilClosed`, `Judged`: what happened while a bootstrap had its window, and whether it has
  reported on account of that: a poll found work, or a whole call said that a request was handled;
* `drain_first`: a first round ends with a poll that found work or with a handled request;
  `exists_drain_inside`: it belongs to the time before the window closed;
* `Unmarked`, `judged_of_clear`: a bootstrap is judged by its own window if no request counts as
  handled when it opens it;
* `exists_unjudged`: otherwise it may report without having waited for anything;
* `bootstraps_judged`: both; `stale_mark_unjudged`: a second bootstrap takes over the handled
  request of the first.
-/
import ExternalCompiler.Startup
import ExternalCompiler.Proofs.Alone
import ExternalCompiler.Proofs.Bootstrap.Seeding
import ExternalCompiler.Proofs.Conduct

namespace ExternalCompiler

/-! ### Announcements -/

namespace Action

/-- The action remembers that a request was handled. -/
def marksHandled : Action → Bool
  | .access .setHandled => true
  | _ => false

lemma marksHandled_iff {a : Action} : a.marksHandled = true ↔ a = .access .setHandled := by
  refine ⟨fun h => ?_, fun h => h ▸ rfl⟩
  rcases a with a | p | c
  · cases a <;> first | rfl | cases h
  · cases h
  · cases h

/-- The action closes the window. -/
def closesWindow : Action → Bool
  | .access .closeWindow => true
  | _ => false

lemma unseeing_of_isWatch {a : Action} (h : a.isWatch = true) : a ≠ .access .readBootstrapping := by
  rintro rfl
  cases h

lemma unseeing_of_isBracket {a : Action} (h : a.isBracket = true) :
    a ≠ .access .readBootstrapping := by
  rintro rfl
  cases h

lemma not_closes {a : Action} (h : a.writesWindow = false) : a.closesWindow = false := by
  rcases a with a | p | c
  · cases a <;> first | rfl | cases h
  · rfl
  · rfl

end Action

/-- A program that says that a request was handled by whole calls only. -/
inductive Handler : Routine Unit → Prop
  | done : Handler (.done ())
  | more : Handler .more
  | act {a : Action} {next : a.Answer → Routine Unit} (ha : a.marksHandled = false)
      (hnext : ∀ x, Handler (next x)) : Handler (.act a next)
  | mark {k : Unit → Routine Unit} (hk : Handler (k ())) :
      Handler (Routine.markRequestHandled.bind k)

/-- Such programs may go through anything else first. -/
lemma handler_bind {α : Type} {r : Routine α} {f : α → Routine Unit}
    (hr : r.Only (·.marksHandled = false)) (hf : ∀ a, Handler (f a)) : Handler (r.bind f) := by
  induction r with
  | done a => exact hf a
  | act a next ih => exact .act hr.1 fun x => ih x (hr.2 x)
  | more => exact .more

/-- A handled request is remembered only right after a look that found the window open. -/
def markConduct : Conduct Bool where
  after
    | _, .access .readBootstrapping, (opened : Bool) => opened
    | _, _, _ => false
  asks
    | armed, .access .setHandled => armed = true
    | _, _ => True

lemma markConduct_of_not_marks {a : Action} (h : a.marksHandled = false) (armed : Bool) :
    markConduct.asks armed a := by
  rcases a with a | p | c
  · cases a <;> trivial
  · trivial
  · trivial

/-- What was looked at before the last action does not matter. -/
lemma markConduct_after (armed armed' : Bool) (a : Action) (x : a.Answer) :
    markConduct.after armed a x = markConduct.after armed' a x := by
  rcases a with a | p | c
  · cases a <;> rfl
  · rfl
  · rfl

lemma Handler.heeds {r : Routine Unit} {armed : Bool} (h : Handler r) :
    r.Heeds markConduct armed fun _ _ => True := by
  induction h generalizing armed with
  | done => trivial
  | more => trivial
  | act ha _ ih => exact ⟨markConduct_of_not_marks ha armed, fun x => ih x⟩
  | mark _ ih =>
      refine ⟨trivial, fun opened => ?_⟩
      cases opened with
      | false => exact ih
      | true => exact ⟨rfl, fun _ => ih⟩

/-- The routine is about to remember that a request was handled. -/
def Routine.isMarking {α : Type} : Routine α → Bool
  | .act a _ => a.marksHandled
  | _ => false

lemma exists_act_of_isMarking {r : Routine Unit} (h : r.isMarking = true) :
    ∃ next, r = .act (.access .setHandled) next := by
  cases r with
  | done a => cases h
  | more => cases h
  | act a next =>
      obtain rfl := Action.marksHandled_iff.mp h
      exact ⟨next, rfl⟩

/-- What is not about to remember a handled request looks at the window again before it does. -/
lemma heeds_unarmed {r : Routine Unit} {armed : Bool}
    (h : r.Heeds markConduct armed fun _ _ => True) (hr : r.isMarking = false) :
    r.Heeds markConduct false fun _ _ => True := by
  cases r with
  | done a => trivial
  | more => trivial
  | act a next =>
      refine ⟨markConduct_of_not_marks hr false, fun x => ?_⟩
      rw [markConduct_after false armed]
      exact h.2 x

/-- Whoever may remember a handled request looked at the window right before. -/
lemma looked_of_armed {es : List Event} (h : markConduct.run false es = true) :
    ∃ es' e, es = es' ++ [e] ∧ e.action = .access .readBootstrapping := by
  rcases List.eq_nil_or_concat' es with rfl | ⟨es', e, rfl⟩
  · cases h
  · refine ⟨es', e, rfl, ?_⟩
    rw [Conduct.run_append] at h
    obtain ⟨t, a, x, s⟩ := e
    rcases a with a | p | c
    · cases a <;> first | rfl | cases h
    · cases h
    · cases h

/-- What does not mark a request leaves the handled requests alone. -/
lemma keeps_handled {a : Action} (h : a.marksHandled = false) :
    Keeps (·.service.requestHandled) a := by
  refine keeps_of_perform (fun s holder => rfl) ?_
  rintro b rfl me s
  cases b with
  | setHandled => cases h
  | claimStartup | openWindow => simp only [Access.perform]; split <;> rfl
  | _ => rfl

/-- A request that counts as handled since some event was remembered by an event. -/
lemma System.Run.exists_mark {P Q : System} {h : List Event} (hrun : System.Run P h Q)
    (hbefore : P.shared.service.requestHandled = false)
    (hafter : Q.shared.service.requestHandled = true) : ∃ e ∈ h, e.action.marksHandled = true := by
  induction hrun with
  | refl P =>
      rw [hbefore] at hafter
      cases hafter
  | @step P Q R e h hstep _ ih =>
      by_cases he : e.action.marksHandled = true
      · exact ⟨e, List.mem_cons_self, he⟩
      · rw [Bool.not_eq_true] at he
        have hkept := keeps_handled he _ _ _ _ hstep.effect
        obtain ⟨e', he', hmark⟩ := ih (hkept.trans hbefore) hafter
        exact ⟨e', List.mem_cons_of_mem _ he', hmark⟩
  | look hlook _ ih =>
      obtain ⟨holder, hshared⟩ := hlook.shared
      exact ih (by rw [hshared]; exact hbefore) hafter

/-! ### Judged by one's own window -/

/-- What happened before the thread `t` closed the window. -/
def untilClosed (t : ThreadId) (h : List Event) : List Event :=
  h.takeWhile fun e => !(e.thread == t && e.action.closesWindow)

lemma untilClosed_append {t : ThreadId} {h₁ h₂ : List Event} {e : Event} (he : e.thread = t)
    (hclose : e.action.closesWindow = true)
    (hopen : ∀ e ∈ own t h₁, e.action.closesWindow = false) :
    untilClosed t (h₁ ++ e :: h₂) = h₁ := by
  rw [untilClosed, List.takeWhile_append_of_pos (forall_not_of_own hopen),
    List.takeWhile_cons_of_neg (by simp [he, hclose]), List.append_nil]

/-- The bootstrap of the thread `t`, which opened its window with the first event of `h`, is judged
by this window: while the window was open, one of its polls found a task at the top tier, or
somebody said by a whole call that a request was handled. -/
inductive Judged (t : ThreadId) (broker : Broker) (h : List Event) : Prop
  | busy {u : ThreadId} {s : Shared} {es : List Event} {size : Nat}
      (hpoll : ⟨u, .pause (.sleep Routine.pollMillis), (), s⟩ :: es <:+: own t (untilClosed t h))
      (hsize : (broker.size .top).Leads es (.done size)) (hbusy : size ≠ 0) : Judged t broker h
  | marked {u : ThreadId} {e₁ e₂ : Event} (hcall : [e₁, e₂] <:+: own u (untilClosed t h))
      (hlook : e₁.action = .access .readBootstrapping)
      (hmark : e₂.action = .access .setHandled) : Judged t broker h

namespace Routine

variable {broker : Broker}

/-- A first round ends with a poll that found work, or because a request counts as handled. -/
lemma drain_first {print cancellable : Bool} {start n : Nat} {dots : Nat} {es : List Event}
    (h : (drain print cancellable broker start n true dots).Leads es (done (.ok ()))) :
    (∃ u s es' size, ⟨u, .pause (.sleep pollMillis), (), s⟩ :: es' <:+: es ∧
      (broker.size .top).Leads es' (done size) ∧ size ≠ 0) ∨
      ∃ u s, ⟨u, .access .readHandled, true, s⟩ ∈ es := by
  induction n generalizing es with
  | zero => exact absurd h not_leads_more_done
  | succ n ih =>
      obtain ⟨t, s, es₁, es₂, es₃, es₄, size, waits, rfl, hsize, -, hwaits, hrest⟩ := drain_round h
      by_cases hzero : size = 0
      · subst hzero
        obtain ⟨u, handled, s', es', rfl, hwaits'⟩ := leads_access_done.mp hwaits
        cases handled with
        | true => exact .inr ⟨u, s', by simp⟩
        | false =>
            obtain ⟨rfl, hw⟩ := leads_done.mp hwaits'
            cases hw
            obtain ⟨u', s'', es', size, hpoll, hsize', hbusy⟩ | ⟨u', s'', hread⟩ := ih hrest
            · refine .inl ⟨u', s'', es', size, hpoll.trans (List.IsSuffix.isInfix ?_), hsize',
                hbusy⟩
              exact ⟨⟨t, .pause (.sleep pollMillis), (), s⟩ ::
                (es₁ ++ (es₂ ++ [⟨u, .access .readHandled, false, s'⟩])), by simp⟩
            · exact .inr ⟨u', s'', by simp [hread]⟩
      · refine .inl ⟨t, s, es₁, size, List.IsPrefix.isInfix ?_, hsize, hzero⟩
        exact ⟨es₂ ++ (es₃ ++ es₄), by simp⟩

end Routine

/-- No request counts as handled, and nobody is about to remember one. -/
structure Unmarked (R : System) : Prop where
  clear : R.shared.service.requestHandled = false
  quiet : ∀ u, (R.threads u).isMarking = false

section Runs

variable {P Q R : System} {g h : List Event} {t : ThreadId} {polls : Nat} {c : Config}
  {cancellable : Bool} {methods : List Method} {broker : Broker} {report : BootstrapReport}

/-- A request that counts as handled where none did, with nobody about to remember one, was
announced by a whole call. -/
lemma exists_call_of_handled
    (hhandlers : ∀ u, (R.threads u).Heeds markConduct false fun _ _ => True)
    (hclear : R.shared.service.requestHandled = false) (hrun : System.Run R h Q)
    (hhandled : Q.shared.service.requestHandled = true) :
    ∃ u e₁ e₂, [e₁, e₂] <:+: own u h ∧ e₁.action = .access .readBootstrapping ∧
      e₂.action = .access .setHandled := by
  obtain ⟨e, he, hmark⟩ := hrun.exists_mark hclear hhandled
  have haction := Action.marksHandled_iff.mp hmark
  obtain ⟨h₁, h₂, rfl⟩ := List.append_of_mem he
  obtain ⟨S, S', hS, hstep, -⟩ := hrun.at_event
  have harmed := hS.asked hstep (hhandlers e.thread)
  rw [haction] at harmed
  obtain ⟨es, e', hown, hlook⟩ := looked_of_armed harmed
  refine ⟨e.thread, e', e, ⟨es, own e.thread h₂, ?_⟩, hlook, haction⟩
  rw [own_append, own_cons_self rfl, hown]
  simp

/-- A bootstrap that reports saw the queue drain before it closed its window. -/
lemma exists_drain_inside (hbroker : broker.Only (·.writesWindow = false))
    (hleads : (Routine.bootstrap polls c cancellable methods broker).Leads (own t h)
      (.done (.ok (some report)))) :
    ∃ start es, es <:+: own t (untilClosed t h) ∧
      (Routine.drain c.printProgress cancellable broker start polls true 0).Leads es
        (.done (.ok ())) := by
  obtain ⟨hmode, hopen⟩ := Routine.opened_of_report hleads
  obtain ⟨t₁, s₁, t₂, saved, s₂, es, ending, x, hown, hinside, hend⟩ :=
    Routine.bootstrap_leads_done hmode hleads hopen
  cases hend with
  | finished report u₁ u₂ u₃ r₁ r₂ r₃ =>
      have hcut : own t h = (⟨t₁, .access .openWindow, true, s₁⟩ ::
          ⟨t₂, .access (.swapFlag false), saved, s₂⟩ :: es) ++
            ⟨u₁, .access .closeWindow, (), r₁⟩ :: [⟨u₂, .call .bootstrapFinished, .ok (), r₂⟩,
              ⟨u₃, .access (.storeFlag saved), (), r₃⟩] := by
        rw [hown]
        simp
      have hmine : u₁ = t := by
        have hmem : (⟨u₁, .access .closeWindow, (), r₁⟩ : Event) ∈ own t h := by
          rw [hcut]
          simp
        exact (mem_own.mp hmem).2
      obtain ⟨h₁, h₂, rfl, hown₁, -⟩ := exists_of_own_eq_append_cons hcut
      have hinside' : ∀ e ∈ es, e.action.closesWindow = false :=
        ((Routine.only_seedAndDrain
          (fun _ ha => Action.not_closes (Action.writesWindow_of_isWatch ha))
          (hbroker.mono fun _ => Action.not_closes) _ _ _ _).leads hinside).2
      have huntil : untilClosed t (h₁ ++ ⟨u₁, .access .closeWindow, (), r₁⟩ :: h₂) = h₁ := by
        refine untilClosed_append hmine rfl ?_
        rw [hown₁]
        exact List.forall_mem_cons.mpr ⟨rfl, List.forall_mem_cons.mpr ⟨rfl, hinside'⟩⟩
      obtain ⟨es₀, es₁, es₂, es₃, start, rfl, -, -, hdrain, -⟩ :=
        Routine.seedAndDrain_leads_done hinside
      refine ⟨start, es₂, ?_, hdrain⟩
      rw [huntil, hown₁]
      exact ⟨⟨t₁, .access .openWindow, true, s₁⟩ ::
        ⟨t₂, .access (.swapFlag false), saved, s₂⟩ :: (es₀ ++ es₁), es₃, by simp⟩

/-- **A bootstrap is judged by its own window** if no request counts as handled when it opens the
window and nobody is about to remember one. -/
lemma judged_of_clear (hbroker : broker.Only (·.writesWindow = false))
    (hhandlers : ∀ u, (R.threads u).Heeds markConduct false fun _ _ => True)
    (hclear : R.shared.service.requestHandled = false) (hrun : System.Run R h Q)
    (hreturn : R.Returns t (Routine.bootstrap polls c cancellable methods broker) h
      (.ok (some report))) : Judged t broker h := by
  obtain ⟨start, es, hdrained, hdrain⟩ := exists_drain_inside hbroker hreturn.2
  obtain ⟨u, s, es', size, hpoll, hsize, hbusy⟩ | ⟨u, s, hread⟩ := Routine.drain_first hdrain
  · exact .busy (hpoll.trans hdrained) hsize hbusy
  · -- the window was open up to this look, so who said that a request was handled said so inside
    obtain ⟨g₁, g₂, huntil⟩ := List.append_of_mem (mem_own.mp (hdrained.subset hread)).1
    obtain ⟨rest, hsplit⟩ : untilClosed t h <+: h := List.takeWhile_prefix _
    rw [← hsplit, huntil, List.append_assoc, List.cons_append] at hrun
    obtain ⟨S, S', hS, hstep, -⟩ := hrun.at_event
    have hhandled := (effect_access.mp hstep.effect).1.symm
    obtain ⟨v, e₁, e₂, hcall, hlook, hmark⟩ := exists_call_of_handled hhandlers hclear hS hhandled
    refine .marked (u := v) (hcall.trans ?_) hlook hmark
    rw [huntil, own_append]
    exact (List.prefix_append _ _).isInfix

end Runs

/-! ### A bootstrap that waits for nothing -/

namespace Routine

variable {me : ThreadId} {s : Shared}

lemma ends_emit (text : String) : (emit text).Ends me s (.ok ()) s :=
  (ends_call (.write text) s).bind (ends_done _ _)

lemma ends_flushSink : flushSink.Ends me s (.ok ()) s :=
  (ends_call .flush s).bind (ends_done _ _)

lemma ends_emitDots (n : Nat) : (emitDots n).Ends me s (.ok ()) s := by
  induction n with
  | zero => exact ends_flushSink
  | succ n ih => exact (ends_emit ".").bind ih

lemma ends_showProgress (print : Bool) (dots : Nat) :
    ∃ dots', (showProgress print dots).Ends me s (.ok dots') s := by
  cases print with
  | false => exact ⟨dots, ends_done _ _⟩
  | true =>
      exact ⟨_, (ends_access (.readCounter .methodsCompiled) s).bind
        ((ends_emitDots _).bind (ends_done _ _))⟩

lemma ends_checkCancelled (cancellable : Bool) (start pending : Nat) :
    (checkCancelled cancellable start pending).Ends me s (.ok ()) s := by
  cases cancellable with
  | false => exact ends_done _ _
  | true => exact (ends_call .isCancelled s).bind (ends_done _ _)

/-- An empty first poll is taken for the end where a request counts as handled. -/
lemma ends_drain (hhandled : s.service.requestHandled = true) (print cancellable : Bool)
    (start n dots : Nat) :
    (drain print cancellable .outside start (n + 1) true dots).Ends me s (.ok ()) s := by
  obtain ⟨dots', hshow⟩ : ∃ dots', (showProgress print dots).Ends me s (.ok dots') s :=
    ends_showProgress print dots
  have hwaits : (awaitsFirstTask true 0).Ends me s false s := by
    have hread : (access .readHandled).Ends me s s.service.requestHandled s := ends_access _ s
    rw [hhandled] at hread
    exact hread.bind (ends_done _ _)
  refine (ends_sleep pollMillis s).bind ?_
  refine (ends_call (.size .top) s).bind ?_
  refine (ends_checkCancelled cancellable start 0).bind ?_
  refine hwaits.bind ?_
  exact hshow.bind (ends_done _ _)

lemma ends_submitAll (tasks : List CompileTask) (n : Nat) :
    (submitAll .outside tasks n).Ends me s n s := by
  induction tasks with
  | nil => exact ends_done _ _
  | cons t rest ih => exact (ends_call (.submit t) s).bind ih

lemma ends_openOutput (print : Bool) : (openOutput print).Ends me s (.ok ()) s := by
  cases print with
  | false => exact ends_done _ _
  | true => exact (ends_emit banner).bind ends_flushSink

lemma ends_closeOutput (print : Bool) (report : BootstrapReport) :
    (closeOutput print report).Ends me s (.ok ()) s := by
  cases print with
  | false => exact ends_done _ _
  | true => exact ends_emit _

lemma ends_seedAndDrain (hhandled : s.service.requestHandled = true) (polls : Nat)
    (print cancellable : Bool) (methods : List Method) :
    ∃ report, (seedAndDrain (polls + 1) print cancellable methods .outside).Ends me s
      (.ok report) s := by
  apply Exists.intro
  refine (ends_openOutput print).bind ?_
  refine (ends_call .now s).bind ?_
  refine (ends_submitAll _ 0).bind ?_
  refine (ends_drain hhandled print cancellable _ polls 0).bind ?_
  refine (ends_access (.readCounter .methodsCompiled) s).bind ?_
  refine (ends_call .now s).bind ?_
  exact (ends_closeOutput print _).bind (ends_done _ _)

/-- In silent surroundings a bootstrap that opened its window reports after one empty poll, if a
request counts as handled. -/
lemma ends_withinWindow (hhandled : s.service.requestHandled = true) (polls : Nat)
    (print cancellable : Bool) (methods : List Method) :
    ∃ report s', (withinWindow (polls + 1) print cancellable methods .outside).Ends me s
      (.ok report) s' := by
  have hstill : (Access.perform me s (.swapFlag false)).2.service.requestHandled = true := hhandled
  obtain ⟨report, hinside⟩ := @ends_seedAndDrain me _ hstill polls print cancellable methods
  have hannounce : ∀ s₁, announceEnd.Ends me s₁ (.ok ()) s₁ := fun s₁ =>
    (ends_call .bootstrapFinished s₁).bind (ends_done _ _)
  have hback : ∀ previous s₁, ((access (.storeFlag previous)).bind fun _ =>
      done (.ok report : Except ServiceError BootstrapReport)).Ends me s₁ (.ok report)
        (Access.perform me s₁ (.storeFlag previous)).2 := fun previous s₁ =>
    (ends_access (.storeFlag previous) s₁).bind (ends_done _ _)
  exact ⟨report, _, (ends_access (.swapFlag false) s).bind (hinside.bind
    ((ends_access .closeWindow _).bind ((hannounce _).bind (hback _ _))))⟩

end Routine

/-! ### Exactly when -/

lemma silent_size_leads {n : Nat} {es : List Event} {tier : Tier}
    (h : (Broker.outside.size tier).Leads es (.done n)) (hsilent : ∀ e ∈ es, e.Silent) : n = 0 := by
  obtain ⟨t, x, s, es', rfl, h'⟩ := Routine.leads_act_done.mp h
  cases (Routine.leads_done.mp h').2
  exact hsilent _ List.mem_cons_self

section Runs

variable {P Q R : System} {g h : List Event} {t : ThreadId} {polls : Nat} {c : Config}
  {cancellable : Bool} {methods : List Method} {broker : Broker} {report : BootstrapReport}

/-- Where all calls are answered by silence and nobody looks at the window, no bootstrap is judged
by its window. -/
lemma not_judged_of_silent (hsilent : ∀ e ∈ h, e.Silent)
    (hlooks : ∀ e ∈ h, e.action ≠ .access .readBootstrapping) : ¬ Judged t .outside h := by
  have hsub : ∀ u, ∀ e ∈ own u (untilClosed t h), e ∈ h :=
    fun u e he => List.takeWhile_subset _ (mem_own.mp he).1
  rintro (@⟨u, s, es, size, hpoll, hsize, hbusy⟩ | @⟨u, e₁, e₂, hcall, hlook, -⟩)
  · refine hbusy (silent_size_leads hsize fun e he => hsilent e (hsub t e ?_))
    exact hpoll.subset (List.mem_cons_of_mem _ he)
  · exact hlooks e₁ (hsub u e₁ (hcall.subset List.mem_cons_self)) hlook

/-- If a request counts as handled when a bootstrap has opened its window, or somebody is about to
remember one, then the bootstrap may begin where one counts as handled. -/
lemma exists_marked_start {next : Bool → Routine Unit} (hmarked : ¬ Unmarked R)
    (hact : R.threads t = .act (.access .openWindow) next)
    (hshut : R.shared.service.isBootstrapping = false) :
    ∃ es M, System.Run R (⟨t, .access .openWindow, true, R.shared⟩ :: es) M ∧ own t es = [] ∧
      (∀ e ∈ es, e.action = .access .setHandled) ∧ M.threads t = next true ∧
      M.shared.service.requestHandled = true := by
  obtain ⟨M, hopens, hnext, hothers, hsame⟩ : ∃ M, System.Step R
      ⟨t, .access .openWindow, true, R.shared⟩ M ∧ M.threads t = next true ∧
        (∀ u, u ≠ t → M.threads u = R.threads u) ∧
        M.shared.service.requestHandled = R.shared.service.requestHandled := by
    refine ⟨⟨R.shared.onService fun v => { v with isBootstrapping := true }, _⟩, .act hact ?_,
      Function.update_self _ _ _, fun u hu => Function.update_of_ne hu _ _, rfl⟩
    exact effect_access.mpr (by simp [Access.perform, hshut])
  by_cases hclear : R.shared.service.requestHandled = true
  · exact ⟨[], M, .step hopens (.refl M), rfl, by simp, hnext, hsame.trans hclear⟩
  · obtain ⟨u, hu⟩ : ∃ u, (R.threads u).isMarking = true := by
      by_contra hnone
      simp only [not_exists, Bool.not_eq_true] at hnone
      exact hmarked ⟨by simpa using hclear, hnone⟩
    have hut : u ≠ t := by
      rintro rfl
      rw [hact] at hu
      cases hu
    obtain ⟨next', hmark⟩ := exists_act_of_isMarking hu
    rw [← hothers u hut] at hmark
    have hmarks := System.Step.act hmark (effect_access.mpr ⟨rfl, rfl⟩)
    refine ⟨_, _, .step hopens (.step hmarks (.refl _)), own_cons_other hut _, by simp, ?_, rfl⟩
    exact (Function.update_of_ne hut.symm _ _).trans hnext

/-- Whenever the thread `t`, which is about to bootstrap, goes on with this next and reports, it is
judged by its own window. -/
def JudgedFrom (R : System) (t : ThreadId) (polls : Nat) (c : Config) (cancellable : Bool)
    (methods : List Method) (broker : Broker) : Prop :=
  ∀ e h Q report, System.Run R (e :: h) Q → e.thread = t →
    R.Returns t (Routine.bootstrap polls c cancellable methods broker) (e :: h)
      (.ok (some report)) → Judged t broker (e :: h)

/-- If a request counts as handled when a bootstrap opens its window, or somebody is about to
remember one, then the bootstrap may report without having waited for anything. -/
lemma exists_unjudged {k : Except ServiceError (Option BootstrapReport) → Routine Unit}
    (hstart : R.threads t = (Routine.bootstrap (polls + 1) c cancellable methods .outside).bind k)
    (hmode : c.executionMode ≠ .interpreted) (hshut : R.shared.service.isBootstrapping = false)
    (hmarked : ¬ Unmarked R) : ¬ JudgedFrom R t (polls + 1) c cancellable methods .outside := by
  obtain ⟨next, hbind, hnext, -⟩ := Routine.bootstrap_bind hmode k
  obtain ⟨es, M, hopened, hothers, hmarks, hthread, hhandled⟩ :=
    exists_marked_start hmarked (hstart.trans hbind) hshut
  obtain ⟨report, s', es', halone⟩ : ∃ report s', (Routine.withinWindow (polls + 1)
      c.printProgress cancellable methods .outside).Ends t M.shared (.ok report) s' :=
    Routine.ends_withinWindow hhandled polls c.printProgress cancellable methods
  have hrun := hopened.trans (halone.run (hthread.trans hnext))
  have hown : own t (⟨t, .access .openWindow, true, R.shared⟩ :: es ++ es') =
      ⟨t, .access .openWindow, true, R.shared⟩ :: es' := by
    have hself : own t es' = es' := List.filter_eq_self.mpr fun e he => by
      simpa using halone.thread e he
    rw [List.cons_append, own_cons_self (t := t) (by rfl), own_append, hothers, hself,
      List.nil_append]
  have hreturn : R.Returns t
      (Routine.bootstrap (polls + 1) c cancellable methods .outside)
      (⟨t, .access .openWindow, true, R.shared⟩ :: (es ++ es')) (.ok (some report)) := by
    refine ⟨⟨k, hstart⟩, ?_⟩
    rw [← List.cons_append, hown, Routine.bootstrap, if_neg hmode, Routine.bind_eq,
      Routine.access_bind]
    refine .act (a := .access .openWindow) t true R.shared ?_
    exact halone.leads.bind _
  have hunseeing := Routine.only_withinWindow (fun _ => Action.unseeing_of_isWatch)
    (fun _ => Action.unseeing_of_isBracket) (outside_only (by simp) (by simp)) (polls + 1)
    c.printProgress cancellable methods
  intro hjudged
  refine not_judged_of_silent ?_ ?_ (hjudged _ _ _ _ hrun rfl hreturn)
  · refine List.forall_mem_cons.mpr ⟨trivial, List.forall_mem_append.mpr ⟨fun e he => ?_,
      halone.silent⟩⟩
    obtain ⟨u, a, x, s⟩ := e
    obtain rfl : a = .access .setHandled := hmarks _ he
    trivial
  · refine List.forall_mem_cons.mpr ⟨by simp, List.forall_mem_append.mpr ⟨fun e he => ?_,
      (hunseeing.leads halone.leads).2⟩⟩
    rw [hmarks e he]
    simp

/-- **What a bootstrap is judged by.** Threads say by whole calls that a request was handled. A
bootstrap that reports is judged by its own window if, when it opens the window, no request counts
as handled and nobody is about to remember one. With a broker among the surroundings that holds
exactly then: else the bootstrap may take an empty first reading for the end. -/
theorem bootstraps_judged {k : Except ServiceError (Option BootstrapReport) → Routine Unit}
    (hhandlers : ∀ u, Handler (P.threads u)) (hreach : System.Run P g R)
    (hstart : R.threads t = (Routine.bootstrap polls c cancellable methods broker).bind k)
    (hbroker : broker.Only (·.writesWindow = false)) :
    (Unmarked R → JudgedFrom R t polls c cancellable methods broker) ∧
      (broker = .outside → c.executionMode ≠ .interpreted → 0 < polls →
        R.shared.service.isBootstrapping = false →
          (JudgedFrom R t polls c cancellable methods broker ↔ Unmarked R)) := by
  have hjudged : Unmarked R → JudgedFrom R t polls c cancellable methods broker := by
    intro hunmarked e h Q report hrun _ hreturn
    refine judged_of_clear hbroker (fun u => ?_) hunmarked.clear hrun hreturn
    have hheeds : (R.threads u).Heeds markConduct (markConduct.run false (own u g))
        fun _ _ => True := (hhandlers u).heeds.leads (hreach.leads u)
    exact heeds_unarmed hheeds (hunmarked.quiet u)
  refine ⟨hjudged, ?_⟩
  rintro rfl hmode hpolls hshut
  obtain ⟨n, rfl⟩ := Nat.exists_eq_succ_of_ne_zero (Nat.ne_of_gt hpolls)
  refine ⟨fun hall => ?_, hjudged⟩
  by_contra hmarked
  exact exists_unjudged hstart hmode hshut hmarked hall

end Runs

/-! ### Two bootstraps, one after the other -/

/-- A bootstrap of nothing with a broker among the surroundings. -/
def emptyBootstrap : Routine (Except ServiceError (Option BootstrapReport)) :=
  Routine.bootstrap 1 {} false [] .outside

/-- A fresh service, a thread that bootstraps and goes on with `k`, and a thread that says that a
request was handled. -/
def markedBootstrap (k : Except ServiceError (Option BootstrapReport) → Routine Unit) : System where
  shared := {}
  threads
    | 1 => emptyBootstrap.bind k
    | 2 => Routine.markRequestHandled.bind fun _ => .done ()
    | _ => .done ()

/-- Is done if a bootstrap reported, and does not go on otherwise. -/
def whenReported : Except ServiceError (Option BootstrapReport) → Routine Unit
  | .ok (some _) => .done ()
  | _ => .more

lemma handler_emptyBootstrap {k : Except ServiceError (Option BootstrapReport) → Routine Unit}
    (hk : ∀ x, Handler (k x)) : Handler (emptyBootstrap.bind k) := by
  refine handler_bind (Routine.only_bootstrap (fun a ha => ?_) (fun a ha => ?_)
    (outside_only (fun _ => rfl) fun _ => rfl) _ _ _ _) hk
  all_goals
    rcases a with a | p | c
    · cases a <;> first | rfl | cases ha
    · rfl
    · rfl

lemma handler_whenReported (x : Except ServiceError (Option BootstrapReport)) :
    Handler (whenReported x) := by
  rcases x with e | _ | report
  · exact .more
  · exact .more
  · exact .done

lemma handler_markedBootstrap {k : Except ServiceError (Option BootstrapReport) → Routine Unit}
    (hk : ∀ x, Handler (k x)) (u : ThreadId) : Handler ((markedBootstrap k).threads u) := by
  simp only [markedBootstrap]
  split
  · exact handler_emptyBootstrap hk
  · exact .mark .done
  · exact .done

/-- A bootstrap that is played to its end reported. -/
lemma returns_of_isDone {R : System} (ts : List ThreadId)
    (hstart : R.threads 1 = emptyBootstrap.bind whenReported)
    (hdone : ((R.play Call.silence ts).2.threads 1).isDone = true) :
    ∃ report, R.Returns 1 emptyBootstrap (R.play Call.silence ts).1 (.ok (some report)) := by
  obtain ⟨x, hx, hreturn⟩ := (System.run_play _ _ _).exists_returns hstart
    (fun x => by rcases x with e | _ | report <;> simp [whenReported]) hdone
  rcases x with e | _ | report
  · cases hx
  · cases hx
  · exact ⟨report, hreturn⟩

/-- The bootstrap opens its window, the other thread says that a request was handled, and the
bootstrap finds the queue empty. -/
def markedRun : List Event × System :=
  (markedBootstrap whenReported).play Call.silence (1 :: 2 :: 2 :: List.replicate 10 1)

/-- The bootstrap of a fresh service reports, and is judged by its own window. -/
theorem bootstraps_judged_marked :
    Unmarked (markedBootstrap whenReported) ∧
      (∃ report, (markedBootstrap whenReported).Returns 1 emptyBootstrap markedRun.1
        (.ok (some report))) ∧
      Judged 1 .outside markedRun.1 := by
  obtain ⟨report, hreturn⟩ := returns_of_isDone (R := markedBootstrap whenReported)
    (1 :: 2 :: 2 :: List.replicate 10 1) rfl (by decide +kernel)
  have hunmarked : Unmarked (markedBootstrap whenReported) := by
    refine ⟨rfl, fun u => ?_⟩
    simp only [markedBootstrap]
    split <;> rfl
  have hrun : System.Run (markedBootstrap whenReported) markedRun.1 markedRun.2 :=
    System.run_play _ _ _
  refine ⟨hunmarked, ⟨report, hreturn⟩, ?_⟩
  exact (bootstraps_judged (handler_markedBootstrap handler_whenReported) (.refl _) rfl
    (outside_only (fun _ => rfl) fun _ => rfl)).1 hunmarked _ _ _ report hrun rfl hreturn

/-- The bootstrap of a fresh service, in whose window a request is handled. -/
def staleStart : List Event × System :=
  (markedBootstrap fun _ => emptyBootstrap.bind whenReported).play Call.silence
    (1 :: 2 :: 2 :: List.replicate 10 1)

/-- The bootstrap that follows, in whose window nothing happens. -/
def staleRun : List Event × System :=
  staleStart.2.play Call.silence (List.replicate 11 1)

/-- **A bootstrap takes over what was handled in an earlier one.** A request is handled in the
window of the first bootstrap. The second one reports after one poll that found the queue empty,
although nothing was handled in its own window. -/
theorem stale_mark_unjudged :
    (∀ u, Handler ((markedBootstrap fun _ => emptyBootstrap.bind whenReported).threads u)) ∧
      System.Run (markedBootstrap fun _ => emptyBootstrap.bind whenReported) staleStart.1
        staleStart.2 ∧
      System.Run staleStart.2 staleRun.1 staleRun.2 ∧
      (∃ report, staleStart.2.Returns 1 emptyBootstrap staleRun.1 (.ok (some report))) ∧
      ¬ Judged 1 .outside staleRun.1 := by
  obtain ⟨report, hreturn⟩ := returns_of_isDone (R := staleStart.2) (List.replicate 11 1) rfl
    (by decide +kernel)
  refine ⟨handler_markedBootstrap fun _ => handler_emptyBootstrap handler_whenReported,
    System.run_play _ _ _, System.run_play _ _ _, ⟨report, hreturn⟩,
    not_judged_of_silent (System.silent_play _ _) fun e he => ?_⟩
  have hmine : staleRun.1.all (fun e => e.thread == 1) = true := by decide +kernel
  have hunseeing := Routine.only_bootstrap (fun _ => Action.unseeing_of_isWatch)
    (fun _ => Action.unseeing_of_isBracket) (outside_only (by simp) (by simp)) 1 {} false []
  refine (hunseeing.leads hreturn.2).2 e (mem_own.mpr ⟨he, ?_⟩)
  simpa using List.all_eq_true.mp hmine e he

end ExternalCompiler
