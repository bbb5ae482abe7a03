/-
Bootstraps exclude one another, also those that callbacks of a bootstrap start:

* `Caller`: the programs that bootstrap any number of times and leave the window alone otherwise;
* `windowConduct`: the window is opened by who does not hold it, and closed by who does;
  `heeds_bootstrap`: a bootstrap keeps to that, and lets go of the window before it returns;
* `holds`: whether the routine at a place holds the window, read off its events;
* `Sole`, `Exclusive`: the window is open exactly while one place holds it; a step and a move keep
  it so;
* `Refused`, `bootstraps_exclude`: a bootstrap that finds the window open is refused and changes
  nothing.
-/
import ExternalCompiler.Proofs.Bootstrap.Course
import ExternalCompiler.Proofs.Callbacks
import ExternalCompiler.Proofs.Conduct

namespace ExternalCompiler

/-! ### Who holds the window -/

/-- A program that bootstraps any number of times, with any configurations, methods and brokers, and
leaves the window alone otherwise. -/
inductive Caller : Routine Unit → Prop
  | done : Caller (.done ())
  | more : Caller .more
  | act {a : Action} {next : a.Answer → Routine Unit} (ha : a.writesWindow = false)
      (hnext : ∀ x, Caller (next x)) : Caller (.act a next)
  | boot {polls : Nat} {c : Config} {cancellable : Bool} {methods : List Method} {broker : Broker}
      {k : Except ServiceError (Option BootstrapReport) → Routine Unit}
      (hbroker : broker.Only (·.writesWindow = false)) (hk : ∀ x, Caller (k x)) :
      Caller ((Routine.bootstrap polls c cancellable methods broker).bind k)

/-- A routine holds the window from opening it to closing it. It opens the window only when it does
not hold it, and closes it only when it does. -/
def windowConduct : Conduct Bool where
  after
    | held, .access .openWindow, (opened : Bool) => held || opened
    | _, .access .closeWindow, _ => false
    | held, _, _ => held
  asks
    | held, .access .openWindow => held = false
    | held, .access .closeWindow => held = true
    | _, _ => True

lemma windowConduct_of_not_writes {a : Action} (h : a.writesWindow = false) (held : Bool) :
    windowConduct.asks held a ∧ ∀ x, windowConduct.after held a x = held := by
  rcases a with a | p | c
  · cases a <;> first | exact ⟨trivial, fun _ => rfl⟩ | cases h
  · exact ⟨trivial, fun _ => rfl⟩
  · exact ⟨trivial, fun _ => rfl⟩

namespace Routine

variable {α : Type} {held : Bool}

/-- What leaves the window alone may always be done. -/
lemma heeds_of_not_writesWindow {r : Routine α} (hr : r.Only (·.writesWindow = false)) :
    r.Heeds windowConduct held fun _ held' => held' = held :=
  heeds_of_still (hr.mono fun _ ha held => windowConduct_of_not_writes ha held)

lemma heeds_withinWindow {polls : Nat} {print cancellable : Bool} {methods : List Method}
    {broker : Broker} (hbroker : broker.Only (·.writesWindow = false)) :
    (withinWindow polls print cancellable methods broker).Heeds windowConduct true
      fun _ held => held = false := by
  have hinside := only_seedAndDrain (fun _ => Action.writesWindow_of_isWatch) hbroker polls
    print cancellable methods
  refine (heeds_access trivial).bind fun previous _ hheld => ?_
  subst hheld
  refine (heeds_of_not_writesWindow hinside).bind fun x _ hheld => ?_
  subst hheld
  cases x with
  | error e => exact ⟨trivial, fun _ => ⟨rfl, fun _ => rfl⟩⟩
  | ok report =>
      have hannounce : announceEnd.Only (·.writesWindow = false) := only_announceEnd rfl rfl
      refine ⟨rfl, fun _ => (heeds_of_not_writesWindow hannounce).bind fun y _ hheld => ?_⟩
      subst hheld
      cases y <;> exact ⟨trivial, fun _ => rfl⟩

/-- A bootstrap lets go of the window that it got before it returns. -/
lemma heeds_bootstrap {polls : Nat} {c : Config} {cancellable : Bool} {methods : List Method}
    {broker : Broker} (hbroker : broker.Only (·.writesWindow = false)) :
    (bootstrap polls c cancellable methods broker).Heeds windowConduct false
      fun _ held => held = false := by
  rw [bootstrap]
  split
  · rfl
  · refine ⟨rfl, fun opened => ?_⟩
    cases opened with
    | false => rfl
    | true =>
        refine (heeds_withinWindow hbroker).bind fun x held hheld => ?_
        cases x <;> exact hheld

end Routine

lemma Caller.heeds {r : Routine Unit} (h : Caller r) :
    r.Heeds windowConduct false fun _ held => held = false := by
  induction h with
  | done => rfl
  | more => trivial
  | act ha _ ih =>
      obtain ⟨hasks, hafter⟩ := windowConduct_of_not_writes ha false
      refine ⟨hasks, fun x => ?_⟩
      rw [hafter]
      exact ih x
  | boot hbroker _ ih =>
      refine (Routine.heeds_bootstrap hbroker).bind fun x held hheld => ?_
      subst hheld
      exact ih x

/-- Whether the routine at a place holds the window after a history. -/
def holds (p : Place) (h : List Deed) : Bool :=
  windowConduct.run false (deedsOf p h)

/-- A deed moves what its own place holds only. -/
lemma holds_concat (h : List Deed) (d : Deed) :
    (holds · (h ++ [d])) = Function.update (holds · h) d.place
      (windowConduct.after (holds d.place h) d.event.action d.event.answer) :=
  Conduct.track_concat h d

/-- Who holds the window does so until it closes it. -/
lemma windowConduct_run_of_keeps {es : List Event}
    (h : ∀ e ∈ es, e.action ≠ .access .closeWindow) : windowConduct.run true es = true := by
  induction es with
  | nil => rfl
  | cons e es ih =>
      obtain ⟨he, hes⟩ := List.forall_mem_cons.mp h
      have hstill : windowConduct.after true e.action e.answer = true := by
        obtain ⟨t, a, x, s⟩ := e
        rcases a with a | p | c
        · cases a <;> first | rfl | exact absurd rfl he
        · rfl
        · rfl
      rw [Conduct.run, List.foldl_cons, hstill]
      exact ih hes

lemma holds_append {p : Place} {h h' : List Deed} (hheld : holds p h = true)
    (hkeeps : ∀ d ∈ h', d.place = p → d.event.action ≠ .access .closeWindow) :
    holds p (h ++ h') = true := by
  rw [holds] at hheld
  rw [holds, deedsOf_append, Conduct.run_append, hheld]
  refine windowConduct_run_of_keeps fun e he => ?_
  obtain ⟨d, hd, hp, rfl⟩ := mem_deedsOf.mp he
  exact hkeeps d hd hp

/-! ### The window and its holder -/

/-- What a step of a routine does to the window and to whether the routine holds it. -/
inductive WindowMove : Bool → Shared → Bool → Shared → Prop
  | kept {held : Bool} {s s' : Shared}
      (hwindow : s'.service.isBootstrapping = s.service.isBootstrapping) :
      WindowMove held s held s'
  | opened {s s' : Shared} (hshut : s.service.isBootstrapping = false)
      (hopen : s'.service.isBootstrapping = true) : WindowMove false s true s'
  | closed {s s' : Shared} (hshut : s'.service.isBootstrapping = false) :
      WindowMove true s false s'

/-- An allowed action is a move. -/
lemma windowMove_of_asks {held : Bool} {t : ThreadId} {s s' : Shared} {a : Action} {x : a.Answer}
    (hasks : windowConduct.asks held a) (heff : Effect t s a x s') :
    WindowMove held s (windowConduct.after held a x) s' := by
  by_cases hwrites : a.writesWindow = true
  · rcases a with a | p | c
    · obtain ⟨rfl, rfl⟩ := effect_access.mp heff
      cases a with
      | openWindow =>
          obtain rfl : held = false := hasks
          cases hwindow : s.service.isBootstrapping with
          | true =>
              simp only [Access.perform, hwindow, if_true]
              exact .kept rfl
          | false =>
              simp only [Access.perform, hwindow, if_false, Bool.false_eq_true]
              exact .opened hwindow rfl
      | closeWindow =>
          obtain rfl : held = true := hasks
          exact .closed rfl
      | _ => cases hwrites
    · cases hwrites
    · cases hwrites
  · rw [Bool.not_eq_true] at hwrites
    rw [(windowConduct_of_not_writes hwrites held).2 x]
    exact .kept (keeps_window hwrites _ _ _ _ heff)

/-- The window is open exactly while one place holds it, and never do two. -/
structure Sole (σ : Place → Bool) (s : Shared) : Prop where
  window : s.service.isBootstrapping = true ↔ ∃ p, σ p = true
  alone : ∀ p q, σ p = true → σ q = true → p = q

/-- A move of one place keeps it so. -/
lemma Sole.move {σ : Place → Bool} {s s' : Shared} {p : Place} {held : Bool} (h : Sole σ s)
    (hmove : WindowMove (σ p) s held s') : Sole (Function.update σ p held) s' := by
  obtain ⟨hwindow, halone⟩ := h
  generalize hp : σ p = before at hmove
  have hself : Function.update σ p held p = held := Function.update_self _ _ _
  have hother : ∀ q, q ≠ p → Function.update σ p held q = σ q :=
    fun q hq => Function.update_of_ne hq _ _
  cases hmove with
  | kept hkept =>
      rw [← hp, Function.update_eq_self]
      exact ⟨by rw [hkept, hwindow], halone⟩
  | opened hshut hopen =>
      have hnone : ∀ q, σ q ≠ true := by
        intro q hq
        rw [hwindow.mpr ⟨q, hq⟩] at hshut
        cases hshut
      have honly : ∀ q, Function.update σ p true q = true → q = p := by
        intro q hq
        by_contra hne
        exact hnone q ((hother q hne).symm.trans hq)
      exact ⟨⟨fun _ => ⟨p, hself⟩, fun _ => hopen⟩,
        fun q q' hq hq' => (honly q hq).trans (honly q' hq').symm⟩
  | closed hshut =>
      have hnone : ∀ q, Function.update σ p false q ≠ true := by
        intro q hq
        by_cases hne : q = p
        · rw [hne, hself] at hq
          cases hq
        · exact hne (halone q p ((hother q hne).symm.trans hq) hp)
      refine ⟨⟨fun hopen => ?_, fun ⟨q, hq⟩ => absurd hq (hnone q)⟩,
        fun q _ hq => absurd hq (hnone q)⟩
      rw [hshut] at hopen
      cases hopen

/-! ### Every step and every move -/

/-- Every routine keeps to the conduct, from what its place holds, and the window is open exactly
while one place holds it. -/
structure Exclusive (σ : Place → Bool) (N : Nest) : Prop where
  heeds : N.Heeds windowConduct false σ
  sole : Sole σ N.shared

section Exclusive

variable {σ : Place → Bool} {N M : Nest} {d : Deed}

/-- Who holds the window has not returned. -/
lemma Exclusive.present (h : Exclusive σ N) {p : Place} (hp : σ p = true) :
    p.depth < (N.frames p.thread).length := by
  by_contra habove
  rw [h.heeds.fresh p (Nat.not_lt.mp habove)] at hp
  cases hp

lemma Exclusive.step (h : Exclusive σ N) (hstep : Nest.Step N d M) :
    Exclusive (Function.update σ d.place
      (windowConduct.after (σ d.place) d.event.action d.event.answer)) M where
  heeds := h.heeds.step hstep
  sole := h.sole.move (windowMove_of_asks (h.heeds.asked hstep) hstep.effect)

/-- A routine that is called back holds nothing at first, and one that returns holds nothing any
more. -/
lemma Exclusive.move (h : Exclusive σ N) (hmove : Nest.Move Caller N M) : Exclusive σ M where
  heeds := h.heeds.move hmove fun r hr => hr.heeds
  sole := by
    obtain hshared | ⟨holder, hshared⟩ := hmove.shared
    · rw [hshared]
      exact h.sole
    · rw [hshared]
      exact ⟨h.sole.window, h.sole.alone⟩

end Exclusive

/-! ### Bootstraps in callbacks -/

section Runs

variable {N Q : Nest} {h : List Deed}

/-- At first nobody holds the window. -/
lemma exclusive_nil (hshut : N.shared.service.isBootstrapping = false)
    (hcallers : ∀ t, ∃ r, N.frames t = [r] ∧ Caller r) : Exclusive (holds · []) N where
  heeds :=
    { frames := fun t => by
        obtain ⟨r, hstack, hr⟩ := hcallers t
        rw [hstack]
        exact ⟨hr.heeds, trivial⟩
      fresh := fun p _ => rfl }
  sole := by
    refine ⟨⟨fun hopen => ?_, ?_⟩, ?_⟩
    · rw [hshut] at hopen
      cases hopen
    · rintro ⟨p, ⟨⟩⟩
    · rintro p q ⟨⟩

/-- Along every run, one place holds the window while it is open, and no other. -/
theorem exclusive (hshut : N.shared.service.isBootstrapping = false)
    (hcallers : ∀ t, ∃ r, N.frames t = [r] ∧ Caller r) (hrun : Nest.Run Caller N h Q) :
    Exclusive (holds · h) Q := by
  refine hrun.invariant (I := fun h Q => Exclusive (holds · h) Q) (exclusive_nil hshut hcallers)
    ?_ ?_
  · intro g K d K' hK hstep
    rw [holds_concat]
    exact hK.step hstep
  · exact fun g K K' hK hmove => hK.move hmove

/-- A routine of the thread `t`, with `rest` below it, is about to bootstrap and to go on with `k`;
it is refused and changes nothing. -/
structure Refused (t : ThreadId) (rest : List (Routine Unit))
    (k : Except ServiceError (Option BootstrapReport) → Routine Unit) (Q : Nest) : Prop where
  /-- It can ask for the window. -/
  asks : ∃ Q', Nest.Step Q ⟨rest.length, ⟨t, .access .openWindow, false, Q.shared⟩⟩ Q'
  /-- It does nothing else; it is refused, nothing that is shared changes, and the bootstrap returns
  with an error. -/
  returns : ∀ d Q', Nest.Step Q d Q' → d.event.thread = t →
    d = ⟨rest.length, ⟨t, .access .openWindow, false, Q.shared⟩⟩ ∧ Q'.shared = Q.shared ∧
      Q'.frames t = k (.error .bootstrapInProgress) :: rest
  /-- Until then its thread calls nobody. -/
  stays : ∀ Q', Nest.Move Caller Q Q' → Q'.frames t = Q.frames t

/-- Whoever asks for the window while it is open is refused. -/
lemma refused_of_open {t : ThreadId} {rest : List (Routine Unit)} {next : Bool → Routine Unit}
    {k : Except ServiceError (Option BootstrapReport) → Routine Unit}
    (hstack : Q.frames t = .act (.access .openWindow) next :: rest)
    (hnext : next false = k (.error .bootstrapInProgress))
    (hopen : Q.shared.service.isBootstrapping = true) : Refused t rest k Q where
  asks := ⟨_, .act hstack (effect_access.mpr ⟨by simp [Access.perform, hopen], rfl⟩)⟩
  returns := by
    rintro d Q' ⟨hstack', heff⟩ rfl
    rw [hstack] at hstack'
    cases hstack'
    obtain ⟨rfl, rfl⟩ := effect_access.mp heff
    simp [Access.perform, hopen, hnext]
  stays := by
    intro Q' hmove
    cases hmove with
    | @enter u c next' rest' r hstack' hr =>
        refine Function.update_of_ne ?_ _ _
        rintro rfl
        rw [hstack] at hstack'
        cases hstack'
    | @leave u r rest' hstack' =>
        refine Function.update_of_ne ?_ _ _
        rintro rfl
        rw [hstack] at hstack'
        cases hstack'
    | look => rfl

/-- **Bootstraps exclude one another.** Threads bootstrap any number of times, also in callbacks of
the calls that a bootstrap makes, and leave the window alone otherwise. In every state that they
reach, the window is open exactly while one of them holds it, and never do two; whoever holds it has
not returned, and the window stays open until it closes it itself; and a bootstrap that finds the
window open is refused and changes nothing. -/
theorem bootstraps_exclude (hshut : N.shared.service.isBootstrapping = false)
    (hcallers : ∀ t, ∃ r, N.frames t = [r] ∧ Caller r) (hrun : Nest.Run Caller N h Q) :
    (Q.shared.service.isBootstrapping = true ↔ ∃! p, holds p h = true) ∧
      (∀ p q, holds p h = true → holds q h = true → p = q) ∧
      (∀ p, holds p h = true → p.depth < (Q.frames p.thread).length ∧
        ∀ g R, Nest.Run Caller Q g R →
          (∀ d ∈ g, d.place = p → d.event.action ≠ .access .closeWindow) →
            R.shared.service.isBootstrapping = true ∧ holds p (h ++ g) = true) ∧
      ∀ t rest polls c cancellable methods broker k,
        Q.frames t = (Routine.bootstrap polls c cancellable methods broker).bind k :: rest →
          c.executionMode ≠ .interpreted → Q.shared.service.isBootstrapping = true →
            Refused t rest k Q := by
  have hQ := exclusive hshut hcallers hrun
  refine ⟨⟨fun hopen => ?_, fun hone => hQ.sole.window.mpr hone.exists⟩, hQ.sole.alone,
    fun p hp => ⟨hQ.present hp, fun g R hg hkeeps => ?_⟩, ?_⟩
  · obtain ⟨p, hp⟩ := hQ.sole.window.mp hopen
    exact ⟨p, hp, fun q hq => hQ.sole.alone q p hq hp⟩
  · have hheld := holds_append hp hkeeps
    have hR := exclusive hshut hcallers (hrun.trans hg)
    exact ⟨hR.sole.window.mpr ⟨p, hheld⟩, hheld⟩
  · intro t rest polls c cancellable methods broker k hstack hmode hopen
    obtain ⟨next, hact, -, hnext⟩ := Routine.bootstrap_bind hmode k
    rw [hact] at hstack
    exact refused_of_open hstack hnext hopen

end Runs

/-! ### A bootstrap in a callback -/

/-- A bootstrap of nothing with a broker among the surroundings. -/
def smallBootstrap : Routine Unit :=
  (Routine.bootstrap 1 {} false [] .outside).bind fun _ => .done ()

/-- A thread with a bootstrap. -/
def reentrant : Nest where
  shared := {}
  frames
    | 1 => [smallBootstrap]
    | _ => [.done ()]

lemma caller_smallBootstrap : Caller smallBootstrap :=
  .boot (outside_only (fun _ => rfl) fun _ => rfl) fun _ => .done

/-- The bootstrap opens its window, switches the flag off, and after a while asks its broker for the
number of tasks; the broker bootstraps again, and is refused. -/
theorem bootstraps_exclude_reentrant : ∃ h Q, Nest.Run Caller reentrant h Q ∧
    holds ⟨1, 0⟩ h = true ∧
    ∃ next r, Q.frames 1 = [r, .act (.call (.size .top)) next] ∧
      Refused 1 [.act (.call (.size .top)) next] (fun _ => .done ()) Q := by
  have hcallers : ∀ t, ∃ r, reentrant.frames t = [r] ∧ Caller r := by
    intro t
    simp only [reentrant]
    split
    · exact ⟨_, rfl, caller_smallBootstrap⟩
    · exact ⟨_, rfl, .done⟩
  obtain ⟨h, Q, next, hrun, hstack, hopen, hheld⟩ : ∃ h Q next, Nest.Run Caller reentrant h Q ∧
      Q.frames 1 = [smallBootstrap, .act (.call (.size .top)) next] ∧
        Q.shared.service.isBootstrapping = true ∧ holds ⟨1, 0⟩ h = true :=
    ⟨_, _, _, .step (.act (t := 1) rfl (effect_access.mpr ⟨rfl, rfl⟩))
      (.step (.act (t := 1) rfl (effect_access.mpr ⟨rfl, rfl⟩))
        (.step (.act (t := 1) (x := (0 : Nat)) rfl rfl)
          (.step (.act (t := 1) (x := ()) rfl rfl)
            (.move (.enter (t := 1) rfl caller_smallBootstrap) (.refl _))))), rfl, rfl, rfl⟩
  exact ⟨h, Q, hrun, hheld, next, _, hstack,
    (bootstraps_exclude rfl hcallers hrun).2.2.2 1 _ 1 {} false [] .outside _ hstack (by decide)
      hopen⟩

end ExternalCompiler
