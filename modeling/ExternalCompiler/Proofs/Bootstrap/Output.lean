/-
The output of a bootstrap and its failures:

* `Routine.Breaks`: a routine breaks off at the first output that is refused; `Breaks.bind`,
  `Breaks.after`: a rule for one routine after the other;
* `bootstrap_breaks`: a bootstrap then puts compile-the-world back, closes its window and returns
  the failure (`breakOff`); `accepted_of_ok`: in a bootstrap that succeeds no output was refused;
* `emit_leads_done`, `emitDots_leads_done`, `openOutput_leads_done`: the texts of each part;
* `printed_course`: a bootstrap that shows its progress, from its opening to its closing;
* `silent_bootstrap`: a bootstrap that shows no progress leaves the sink alone.
-/
import ExternalCompiler.Proofs.Bootstrap.Seeding
import ExternalCompiler.Proofs.Output

namespace ExternalCompiler

namespace Routine

variable {α β : Type}

/-! ### Breaking off -/

/-- After a refused output the rest of the routine is as `post` says. -/
def Breaks (post : SinkError → Routine α → Prop) : Routine α → Prop
  | done _ => True
  | act a next => ∀ x, match a.refusal? x with
    | some e => post e (next x)
    | none => (next x).Breaks post
  | more => True

/-- A routine that breaks off is done with the failure. -/
def Fails (e : SinkError) (r : Routine (Except ServiceError α)) : Prop :=
  r = done (.error (.output e))

section Breaks

variable {post : SinkError → Routine α → Prop} {post' : SinkError → Routine β → Prop}

lemma breaks_ite {b : Prop} [Decidable b] {r r' : Routine α} (h : r.Breaks post)
    (h' : r'.Breaks post) : (if b then r else r').Breaks post := by
  split
  · exact h
  · exact h'

lemma Breaks.bind {r : Routine α} {f : α → Routine β} (hr : r.Breaks post)
    (hpost : ∀ e q, post e q → post' e (q.bind f)) (hf : ∀ a, (f a).Breaks post') :
    (r.bind f).Breaks post' := by
  induction r with
  | done a => exact hf a
  | act a next ih =>
      intro x
      have hx := hr x
      cases hrefusal : a.refusal? x with
      | some e =>
          rw [hrefusal] at hx
          exact hpost e _ hx
      | none =>
          rw [hrefusal] at hx
          exact ih x hx
  | more => trivial

/-- What has no output may come first. -/
lemma Breaks.after {r : Routine α} {f : α → Routine β}
    (hr : r.Only fun a => a.isOutput = false) (hf : ∀ a, (f a).Breaks post') :
    (r.bind f).Breaks post' := by
  induction r with
  | done a => exact hf a
  | act a next ih =>
      intro x
      rw [Action.refusal?_of_not_isOutput hr.1]
      exact ih x (hr.2 x)
  | more => trivial

/-- A routine that cannot succeed after a refused output refused none if it succeeds. -/
lemma Breaks.accepted {r : Routine α} {es : List Event} {a : α} (hr : r.Breaks post)
    (h : r.Leads es (done a)) (hpost : ∀ e q es', post e q → ¬ q.Leads es' (done a)) :
    ∀ e ∈ es, e.action.refusal? e.answer = none := by
  generalize hq : done a = q at h
  induction h with
  | refl r => simp
  | @act b next r es' t x s hrest ih =>
      subst hq
      have hx := hr x
      cases hrefusal : b.refusal? x with
      | some e =>
          rw [hrefusal] at hx
          exact absurd hrest (hpost e _ _ hx)
      | none =>
          rw [hrefusal] at hx
          exact List.forall_mem_cons.mpr ⟨hrefusal, ih hx rfl⟩

end Breaks

/-! ### The parts of a bootstrap break off -/

section Parts

variable {broker : Broker}

lemma breaks_emit (text : String) : (emit text).Breaks Fails := by
  intro x
  cases x with
  | error e => exact rfl
  | ok _ => trivial

lemma breaks_flushSink : flushSink.Breaks Fails := by
  intro x
  cases x with
  | error e => exact rfl
  | ok _ => trivial

/-- A failure is handed on. -/
lemma fails_bind {e : SinkError} {q : Routine (Except ServiceError α)}
    {f : Except ServiceError α → Routine (Except ServiceError β)} (hq : Fails e q)
    (hf : ∀ e, f (.error e) = done (.error e)) : Fails e (q.bind f) := by
  rw [hq]
  exact hf _

lemma breaks_emitDots (n : Nat) : (emitDots n).Breaks Fails := by
  induction n with
  | zero => exact breaks_flushSink
  | succ n ih =>
      refine (breaks_emit _).bind (fun e q hq => fails_bind hq fun _ => rfl) fun x => ?_
      cases x with
      | error e => trivial
      | ok _ => exact ih

lemma breaks_showProgress (print : Bool) (dots : Nat) :
    (showProgress print dots).Breaks Fails := by
  refine breaks_ite (Breaks.after (only_access.mpr rfl) fun compiled => ?_) trivial
  refine (breaks_emitDots _).bind (fun e q hq => fails_bind hq fun _ => rfl) fun x => ?_
  cases x <;> trivial

lemma silent_checkCancelled (cancellable : Bool) (start pending : Nat) :
    (checkCancelled cancellable start pending).Only fun a => a.isOutput = false := by
  refine only_ite ((only_call.mpr (by rfl)).bind fun cancelled => only_ite ?_ trivial) trivial
  exact (only_call.mpr (by rfl)).bind fun _ => trivial

lemma silent_awaitsFirstTask (first : Bool) (size : Nat) :
    (awaitsFirstTask first size).Only fun a => a.isOutput = false :=
  only_awaitsFirstTask (by rfl) first size

lemma breaks_drain (hb : broker.Only fun a => a.isOutput = false) (print cancellable : Bool)
    (start n : Nat) (first : Bool) (dots : Nat) :
    (drain print cancellable broker start n first dots).Breaks Fails := by
  induction n generalizing first dots with
  | zero => trivial
  | succ n ih =>
      refine Breaks.after (only_pause.mpr rfl) fun _ => Breaks.after (hb.size _) fun size => ?_
      refine Breaks.after (silent_checkCancelled _ _ _) fun x => ?_
      cases x with
      | error e => trivial
      | ok _ =>
          refine Breaks.after (silent_awaitsFirstTask _ _) fun waits => breaks_ite (ih _ _) ?_
          refine (breaks_showProgress _ _).bind (fun e q hq => fails_bind hq fun _ => rfl)
            fun y => ?_
          cases y with
          | error e => trivial
          | ok dots => exact breaks_ite trivial (ih _ _)

lemma breaks_openOutput (print : Bool) : (openOutput print).Breaks Fails := by
  refine breaks_ite ((breaks_emit _).bind (fun e q hq => fails_bind hq fun _ => rfl) fun x => ?_)
    trivial
  cases x with
  | error e => trivial
  | ok _ => exact breaks_flushSink

lemma breaks_closeOutput (print : Bool) (report : BootstrapReport) :
    (closeOutput print report).Breaks Fails :=
  breaks_ite (breaks_emit _) trivial

lemma breaks_seedAndDrain (hb : broker.Only fun a => a.isOutput = false) (polls : Nat)
    (print cancellable : Bool) (methods : List Method) :
    (seedAndDrain polls print cancellable methods broker).Breaks Fails := by
  refine (breaks_openOutput _).bind (fun e q hq => fails_bind hq fun _ => rfl) fun x => ?_
  cases x with
  | error e => trivial
  | ok _ =>
      refine Breaks.after (only_call.mpr rfl) fun start => ?_
      refine Breaks.after (only_submitAll hb _ _) fun submitted => ?_
      refine (breaks_drain hb _ _ _ _ _ _).bind (fun e q hq => fails_bind hq fun _ => rfl)
        fun y => ?_
      cases y with
      | error e => trivial
      | ok _ =>
          refine Breaks.after (only_access.mpr rfl) fun compiled => ?_
          refine Breaks.after (only_call.mpr rfl) fun finish => ?_
          refine (breaks_closeOutput _ _).bind (fun e q hq => fails_bind hq fun _ => rfl)
            fun z => ?_
          cases z <;> trivial

end Parts

/-- What a bootstrap does after a refused output: it puts compile-the-world back, closes its window
and returns the failure. -/
def breakOff (saved : Bool) (e : SinkError) :
    Routine (Except ServiceError (Option BootstrapReport)) := do
  access (.storeFlag saved)
  access .closeWindow
  pure (.error (.output e))

lemma breakOff_leads_done {saved : Bool} {e : SinkError} {es : List Event}
    {x : Except ServiceError (Option BootstrapReport)} :
    (breakOff saved e).Leads es (done x) ↔
      x = .error (.output e) ∧ ∃ t s t' s', es = [⟨t, .access (.storeFlag saved), (), s⟩,
        ⟨t', .access .closeWindow, (), s'⟩] := by
  constructor
  · intro h
    obtain ⟨t, u, s, es₁, rfl, h₁⟩ := leads_access_done.mp h
    obtain ⟨t', u', s', es₂, rfl, h₂⟩ := leads_access_done.mp h₁
    obtain ⟨rfl, hx⟩ := leads_done.mp h₂
    cases hx
    exact ⟨rfl, t, s, t', s', rfl⟩
  · rintro ⟨rfl, t, s, t', s', rfl⟩
    exact leads_access_done.mpr ⟨t, (), s, _, rfl,
      leads_access_done.mpr ⟨t', (), s', _, rfl, .refl _⟩⟩

/-- A bootstrap breaks off at the first output that is refused. -/
theorem bootstrap_breaks {broker : Broker} (hb : broker.Only fun a => a.isOutput = false)
    (polls : Nat) (c : Config) (cancellable : Bool) (methods : List Method) :
    (bootstrap polls c cancellable methods broker).Breaks
      fun e q => ∃ saved, q = breakOff saved e := by
  refine breaks_ite trivial (Breaks.after (only_access.mpr rfl) fun opened => breaks_ite ?_ trivial)
  have hwithin : (withinWindow polls c.printProgress cancellable methods broker).Breaks
      fun e q => ∃ saved, q = (do
        access (.storeFlag saved)
        access .closeWindow
        pure (.error (.output e))) := by
    refine Breaks.after (only_access.mpr rfl) fun saved => ?_
    refine (breaks_seedAndDrain hb _ _ _ _).bind (fun e q hq => ⟨saved, by rw [hq]; rfl⟩)
      fun x => ?_
    cases x with
    | error e =>
        refine Breaks.after (only_access.mpr rfl) fun _ => ?_
        exact Breaks.after (only_access.mpr rfl) fun _ => trivial
    | ok report =>
        refine Breaks.after (only_access.mpr rfl) fun _ => ?_
        refine Breaks.after (only_announceEnd rfl rfl) fun told => ?_
        cases told <;> exact Breaks.after (only_access.mpr rfl) fun _ => trivial
  refine hwithin.bind ?_ fun x => ?_
  · rintro e q ⟨saved, rfl⟩
    exact ⟨saved, rfl⟩
  · cases x <;> trivial

/-- In a bootstrap that succeeds no output was refused. -/
lemma accepted_of_ok {broker : Broker} (hb : broker.Only fun a => a.isOutput = false)
    {polls : Nat} {c : Config} {cancellable : Bool} {methods : List Method} {es : List Event}
    {result : Option BootstrapReport}
    (h : (bootstrap polls c cancellable methods broker).Leads es (done (.ok result))) :
    ∀ e ∈ es, e.action.refusal? e.answer = none := by
  refine (bootstrap_breaks hb polls c cancellable methods).accepted h ?_
  rintro e q es' ⟨saved, rfl⟩ hlead
  cases (breakOff_leads_done.mp hlead).1

/-! ### Texts -/

/-- A text that came out whole. -/
lemma emit_leads_done {text : String} {es : List Event}
    (h : (emit text).Leads es (done (.ok ()))) :
    ∃ t s, es = [⟨t, .call (.write text), .ok (), s⟩] := by
  obtain ⟨t, x, s, es', rfl, h'⟩ := leads_call_done.mp h
  cases x with
  | error e => cases (leads_done.mp h').2
  | ok _ => exact ⟨t, s, by rw [(leads_done.mp h').1]⟩

lemma flushSink_leads_done {es : List Event} (h : flushSink.Leads es (done (.ok ()))) :
    ∃ t s, es = [⟨t, .call .flush, .ok (), s⟩] := by
  obtain ⟨t, x, s, es', rfl, h'⟩ := leads_call_done.mp h
  cases x with
  | error e => cases (leads_done.mp h').2
  | ok _ => exact ⟨t, s, by rw [(leads_done.mp h').1]⟩

/-- So many dots are so many texts. -/
lemma emitDots_leads_done {n : Nat} {es : List Event}
    (h : (emitDots n).Leads es (done (.ok ()))) :
    texts es = List.replicate n "." ∧ ∀ e ∈ es, e.action.isOutput = true := by
  induction n generalizing es with
  | zero =>
      obtain ⟨t, s, rfl⟩ := flushSink_leads_done h
      exact ⟨rfl, List.forall_mem_singleton.mpr rfl⟩
  | succ n ih =>
      obtain ⟨es₁, es₂, x, rfl, hdot, h'⟩ := leads_bind_done.mp h
      cases x with
      | error e => cases (leads_done.mp h').2
      | ok _ =>
          obtain ⟨t, s, rfl⟩ := emit_leads_done hdot
          obtain ⟨htexts, hout⟩ := ih h'
          exact ⟨congrArg (List.cons ".") htexts, List.forall_mem_cons.mpr ⟨rfl, hout⟩⟩

/-- The output begins with the banner. -/
lemma openOutput_leads_done {es : List Event} (h : (openOutput true).Leads es (done (.ok ()))) :
    ∃ t s t' s', es = [⟨t, .call (.write banner), .ok (), s⟩, ⟨t', .call .flush, .ok (), s'⟩] := by
  obtain ⟨es₁, es₂, x, rfl, hbanner, h'⟩ := leads_bind_done.mp h
  cases x with
  | error e => cases (leads_done.mp h').2
  | ok _ =>
      obtain ⟨t, s, rfl⟩ := emit_leads_done hbanner
      obtain ⟨t', s', rfl⟩ := flushSink_leads_done h'
      exact ⟨t, s, t', s', rfl⟩

/-! ### The course of a bootstrap that shows its progress -/

/-- The events before the first submission: the window, the flag, the banner and the clock. -/
inductive Opening : List Event → Prop
  | mk (t₁ t₂ t₃ t₄ t₅ : ThreadId) (saved : Bool) (start : Nat) (s₁ s₂ s₃ s₄ s₅ : Shared) :
      Opening [⟨t₁, .access .openWindow, true, s₁⟩, ⟨t₂, .access (.swapFlag false), saved, s₂⟩,
        ⟨t₃, .call (.write banner), .ok (), s₃⟩, ⟨t₄, .call .flush, .ok (), s₄⟩,
        ⟨t₅, .call .now, start, s₅⟩]

/-- The events after the queue drained: what the report needs, the end of the line, and the end of
the bootstrap. -/
inductive Closing (report : BootstrapReport) : List Event → Prop
  | mk (t₁ t₂ t₃ t₄ t₅ t₆ : ThreadId) (finish : Nat) (saved : Bool)
      (s₁ s₂ s₃ s₄ s₅ s₆ : Shared) :
      Closing report [⟨t₁, .access (.readCounter .methodsCompiled), report.compiled, s₁⟩,
        ⟨t₂, .call .now, finish, s₂⟩,
        ⟨t₃, .call (.write (summaryText report.elapsedMillis report.compiled)), .ok (), s₃⟩,
        ⟨t₄, .access .closeWindow, (), s₄⟩, ⟨t₅, .call .bootstrapFinished, .ok (), s₅⟩,
        ⟨t₆, .access (.storeFlag saved), (), s₆⟩]

/-- A bootstrap that shows its progress and reports: it opens, submits its tasks, drains and
closes. -/
lemma printed_course {broker : Broker} {polls : Nat} {c : Config} {cancellable : Bool}
    {methods : List Method} {es : List Event} {report : BootstrapReport}
    (hprint : c.printProgress = true)
    (h : (bootstrap polls c cancellable methods broker).Leads es (done (.ok (some report)))) :
    ∃ (opening : List Event) (subs : List Submission) (start : Nat)
      (draining closing : List Event),
      es = opening ++ (subs.flatMap Submission.events ++ (draining ++ closing)) ∧
      Opening opening ∧ subs.map Submission.task = seedTasks methods ∧
      (∀ b ∈ subs, (broker.submit b.task).Leads b.events (done b.accepted)) ∧
      (drain true cancellable broker start polls true 0).Leads draining (done (.ok ())) ∧
      Closing report closing := by
  obtain ⟨t₁, s₁, t₂, saved, s₂, inside, t₃, s₃, t₄, s₄, t₅, s₅, rfl, hinside⟩ :=
    bootstrap_course h
  rw [hprint] at hinside
  obtain ⟨es₀, t₆, start, s₆, es₁, draining, t₇, s₇, t₈, finish, s₈, es₃, rfl, hopen, hsubmit,
    hdrain, hclose⟩ := seedAndDrain_course hinside
  obtain ⟨t₉, s₉, t₁₀, s₁₀, rfl⟩ := openOutput_leads_done hopen
  obtain ⟨t₁₁, s₁₁, rfl⟩ := emit_leads_done hclose
  obtain ⟨subs, htasks, rfl, hsubs, -⟩ := submitAll_leads_done hsubmit
  refine ⟨_, subs, start, draining, _, ?_, .mk t₁ t₂ t₉ t₁₀ t₆ saved start s₁ s₂ s₉ s₁₀ s₆,
    htasks, hsubs, hdrain, .mk t₇ t₈ t₁₁ t₃ t₄ t₅ finish saved s₇ s₈ s₁₁ s₃ s₄ s₅⟩
  simp

/-- Submissions have no output. -/
lemma silent_submissions {broker : Broker} {subs : List Submission}
    (hb : broker.Only fun a => a.isOutput = false)
    (hsubs : ∀ b ∈ subs, (broker.submit b.task).Leads b.events (done b.accepted)) :
    ∀ e ∈ subs.flatMap Submission.events, e.action.isOutput = false := by
  intro e he
  obtain ⟨b, hmem, he⟩ := List.mem_flatMap.mp he
  exact ((hb.submit b.task).leads (hsubs b hmem)).2 e he

/-! ### No output -/

section Silent

variable {broker : Broker}

lemma silent_drain (hsize : (broker.size .top).Only fun a => a.isOutput = false)
    (cancellable : Bool) (start n : Nat) (first : Bool) (dots : Nat) :
    (drain false cancellable broker start n first dots).Only fun a => a.isOutput = false := by
  induction n generalizing first dots with
  | zero => trivial
  | succ n ih =>
      refine (only_pause.mpr (by rfl)).bind fun _ => hsize.bind fun size => ?_
      refine (silent_checkCancelled _ _ _).bind fun x => ?_
      cases x with
      | error e => trivial
      | ok _ =>
          exact (silent_awaitsFirstTask _ _).bind fun waits =>
            only_ite (ih _ _) (only_ite trivial (ih _ _))

/-- A bootstrap that shows no progress leaves the sink alone. -/
theorem silent_bootstrap (hb : broker.Only fun a => a.isOutput = false) {c : Config}
    (hprint : c.printProgress = false) (polls : Nat) (cancellable : Bool)
    (methods : List Method) :
    (bootstrap polls c cancellable methods broker).Only fun a => a.isOutput = false := by
  have hinside :
      (seedAndDrain polls false cancellable methods broker).Only fun a => a.isOutput = false := by
    refine (only_call.mpr (by rfl)).bind fun start => (only_submitAll hb _ _).bind fun n => ?_
    refine (silent_drain (hb.size _) _ _ _ _ _).bind fun y => ?_
    cases y with
    | error e => trivial
    | ok _ =>
        refine (only_access.mpr (by rfl)).bind fun compiled => ?_
        exact (only_call.mpr (by rfl)).bind fun finish => trivial
  rw [bootstrap, hprint]
  refine only_ite trivial ((only_access.mpr (by rfl)).bind fun opened => only_ite ?_ trivial)
  refine Only.bind ?_ fun x => by cases x <;> trivial
  refine (only_access.mpr (by rfl)).bind fun previous => hinside.bind fun x => ?_
  cases x with
  | error e =>
      refine (only_access.mpr (by rfl)).bind fun _ => ?_
      exact (only_access.mpr (by rfl)).bind fun _ => trivial
  | ok report =>
      refine (only_access.mpr (by rfl)).bind fun _ => ?_
      refine (only_announceEnd (by rfl) (by rfl)).bind fun told => ?_
      cases told <;> exact (only_access.mpr (by rfl)).bind fun _ => trivial

end Silent

end Routine

end ExternalCompiler
