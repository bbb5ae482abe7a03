/-
Simulated threads run as threads do:

* `Shows`: a world after a history shows the state that the threads left, and the counts of the
  runtime are those of the history;
* `Advances`, `Shows.access`, `Shows.pause`, `Shows.call`: an action of a simulated thread is a
  step;
* `Moved`: what is left of a thread after the events of a run;
* `Shows.proceedWith`, `Shows.turns`, `Shows.schedule`: so what a thread does until it has to wait,
  what all of them do in turn, and what they do on a schedule are runs, and the output answers them;
* `Shows.results`: what threads bring on a schedule, they bring in a run.
-/
import ExternalCompiler.Proofs.Output
import ExternalCompiler.Proofs.Simulation.Runtime

namespace ExternalCompiler

variable {α : Type}

/-! ### The state of a world -/

/-- The shared state with other counts of the runtime. -/
def Shared.withRuntime (s : Shared) (r : RuntimeCalls) : Shared :=
  { s with runtime := r }

/-- The counts of the runtime make no difference to an access. -/
lemma perform_withRuntime (a : Access) (me : ThreadId) (s : Shared) (r : RuntimeCalls) :
    a.perform me (s.withRuntime r) =
      ((a.perform me s).1, (a.perform me s).2.withRuntime (r.note (.access a))) := by
  cases a with
  | claimStartup =>
      by_cases hstate : s.service.state = .uninitialized
      · exact (if_pos hstate).trans (by simp only [Access.perform, if_pos hstate]; rfl)
      · exact (if_neg hstate).trans (by simp only [Access.perform, if_neg hstate]; rfl)
  | openWindow =>
      by_cases hopen : s.service.isBootstrapping = true
      · exact (if_pos hopen).trans (by simp only [Access.perform, if_pos hopen]; rfl)
      · exact (if_neg hopen).trans (by simp only [Access.perform, if_neg hopen]; rfl)
  | _ => rfl

/-- A call changes the counts of the runtime only. -/
lemma shared_call (w : World) (c : Call) :
    (w.call c).2.shared = w.shared.withRuntime (w.shared.runtime.note (.call c)) := by
  cases c <;> rfl

/-- After the history `h` of the system `P`, the world shows the state of `Q`, with the counts of
the runtime. -/
structure Shows (P : System) (h : List Event) (Q : System) (w : World) : Prop where
  run : System.Run P h Q
  simulated : ∀ e ∈ h, e.action.Simulated e.answer
  shared : w.shared = Q.shared.withRuntime (P.shared.runtime.after h)

section Shows

variable {P Q : System} {h : List Event} {w w' : World} {me : ThreadId} {due : Nat}

lemma Shows.append {Q' : System} {es : List Event} (hw : Shows P h Q w) (hrun : System.Run Q es Q')
    (hsim : ∀ e ∈ es, e.action.Simulated e.answer)
    (hshared : w'.shared = Q'.shared.withRuntime ((P.shared.runtime.after h).after es)) :
    Shows P (h ++ es) Q' w' where
  run := hw.run.trans hrun
  simulated := List.forall_mem_append.mpr ⟨hw.simulated, hsim⟩
  shared := by rw [hshared, RuntimeCalls.after, RuntimeCalls.after, RuntimeCalls.after,
    List.foldl_append]

lemma Shows.append_nil (hw : Shows P h Q w) : Shows P (h ++ []) Q w := by
  rw [List.append_nil]
  exact hw

/-- The time and the output make no difference. -/
lemma Shows.of_shared (hw : Shows P h Q w) (hshared : w'.shared = w.shared) : Shows P h Q w' :=
  ⟨hw.run, hw.simulated, hshared.trans hw.shared⟩

/-- In the state of `Q` and in the world the lock and the queue are the same. -/
lemma Shows.lock_eq (hw : Shows P h Q w) : w.shared.lock = Q.shared.lock := by
  rw [hw.shared]
  rfl

lemma Shows.queue_eq (hw : Shows P h Q w) : w.shared.queue = Q.shared.queue := by
  rw [hw.shared]
  rfl

/-- The lock is given to a thread in both. -/
lemma Shows.takeLock (hw : Shows P h Q w) (me : ThreadId) :
    (w.takeLock me).shared =
      (Q.shared.setHolder (some me)).withRuntime (P.shared.runtime.after h) := by
  rw [World.takeLock, hw.shared]
  rfl

/-- After the history `h`, the action of a thread with its answer leads from the world to `w'` and
from `Q` to what `w'` shows. -/
def Advances (P : System) (h : List Event) (Q : System) (me : ThreadId) (a : Action) (x : a.Answer)
    (next : a.Answer → Routine Unit) (w' : World) : Prop :=
  ∃ s Q', Shows P (h ++ [⟨me, a, x, s⟩]) Q' w' ∧
    Q'.threads = Function.update Q.threads me (next x)

lemma Shows.access {a : Access} {next : a.Answer → Routine Unit} (hw : Shows P h Q w)
    (hthread : Q.threads me = .act (.access a) next) :
    Advances P h Q me (.access a) (a.perform me w.shared).1 next
      { w with shared := (a.perform me w.shared).2 } := by
  rw [hw.shared, perform_withRuntime]
  exact ⟨Q.shared, ⟨(a.perform me Q.shared).2, _⟩,
    hw.append (.step (.act hthread (effect_access.mpr ⟨rfl, rfl⟩)) (.refl _))
      (List.forall_mem_singleton.mpr trivial) rfl, rfl⟩

/-- The thread takes the lock for its last look at the queue. -/
lemma Shows.awaitWork {seen : UInt64} {millis : Nat} {next : WaitOutcome → Routine Unit}
    {x : WaitOutcome} (hw : Shows P h Q w)
    (hthread : Q.threads me = .act (.pause (.awaitWork seen millis)) next)
    (hfree : Q.shared.lock.holder = none) (hx : x = Q.shared.queue.outcome seen) :
    Advances P h Q me (.pause (.awaitWork seen millis)) x next (w.takeLock me) :=
  ⟨Q.shared.setHolder (some me), ⟨Q.shared.setHolder (some me), _⟩,
    hw.append (.look (.take hthread hfree) (.step (.act hthread ⟨rfl, hx, rfl⟩) (.refl _)))
      (List.forall_mem_singleton.mpr trivial) (hw.takeLock me), rfl⟩

lemma Shows.pause {p : Pause} {next : p.Answer → Routine Unit} {x : p.Answer} (hw : Shows P h Q w)
    (hthread : Q.threads me = .act (.pause p) next) (hpause : w.pause me due p = some (x, w')) :
    Advances P h Q me (.pause p) x next w' := by
  have hlock := hw.lock_eq
  cases p with
  | takeLock =>
      simp only [World.pause] at hpause
      split_ifs at hpause with hheld
      obtain ⟨rfl, rfl⟩ := Prod.mk.inj (Option.some.inj hpause)
      have hfree := Option.not_isSome_iff_eq_none.mp (hlock ▸ hheld)
      exact ⟨Q.shared, ⟨Q.shared.setHolder (some me), _⟩,
        hw.append (.step (.act hthread ⟨hfree, rfl⟩) (.refl _))
          (List.forall_mem_singleton.mpr trivial) (hw.takeLock me), rfl⟩
  | awaitWork seen millis =>
      have hnews : w.hasNews seen = Q.shared.queue.hasNews seen := by
        rw [World.hasNews, hw.queue_eq]
        rfl
      simp only [World.pause] at hpause
      split_ifs at hpause with hheld hfresh hdue
      all_goals
        obtain ⟨rfl, rfl⟩ := Prod.mk.inj (Option.some.inj hpause)
        have hfree := Option.not_isSome_iff_eq_none.mp (hlock ▸ hheld)
        rw [hnews] at hfresh
      · exact hw.awaitWork hthread hfree (if_pos hfresh).symm
      · exact hw.awaitWork hthread hfree (if_neg hfresh).symm
  | sleep millis =>
      simp only [World.pause] at hpause
      split_ifs at hpause
      obtain ⟨rfl, rfl⟩ := Prod.mk.inj (Option.some.inj hpause)
      exact ⟨Q.shared, ⟨Q.shared, _⟩, hw.append (.step (.act hthread rfl) (.refl _))
        (List.forall_mem_singleton.mpr trivial) hw.shared, rfl⟩

lemma Shows.call {c : Call} {next : c.Answer → Routine Unit} (hw : Shows P h Q w)
    (hthread : Q.threads me = .act (.call c) next) :
    Advances P h Q me (.call c) (w.call c).1 next (w.call c).2 := by
  refine ⟨Q.shared, ⟨Q.shared, _⟩, hw.append (.step (.act hthread rfl) (.refl _)) ?_ ?_, rfl⟩
  · refine List.forall_mem_singleton.mpr fun hrole => ?_
    cases c <;> first | rfl | cases hrole
  · rw [shared_call, hw.shared]
    rfl

/-- What a simulated thread does is a step of the thread. -/
lemma Shows.act {a : Action} {next : a.Answer → Routine Unit} {x : a.Answer}
    (hw : Shows P h Q w) (hthread : Q.threads me = .act a next)
    (hact : w.act me due a = some (x, w')) : Advances P h Q me a x next w' := by
  rcases a with a | p | c
  · have heff : ((a.perform me w.shared).1, { w with shared := (a.perform me w.shared).2 }) =
        (x, w') := Option.some.inj hact
    obtain ⟨rfl, rfl⟩ := Prod.mk.inj heff
    exact hw.access hthread
  · exact hw.pause hthread hact
  · have heff : w.call c = (x, w') := Option.some.inj hact
    have hcall := hw.call hthread
    rwa [heff] at hcall

/-- The output answers what a simulated thread does. -/
lemma answers_of_act {a : Action} {x : a.Answer} (hact : w.act me due a = some (x, w'))
    (t : ThreadId) (s : Shared) : w.output.Answers [⟨t, a, x, s⟩] w'.output := by
  rcases a with a | p | c
  · have heff : (_, { w with shared := (a.perform me w.shared).2 }) = (x, w') :=
      Option.some.inj hact
    obtain ⟨-, rfl⟩ := Prod.mk.inj heff
    exact .aloof rfl (.nil _)
  · have houtput : w'.output = w.output := by
      have hpause : w.pause me due p = some (x, w') := hact
      cases p <;>
        · simp only [World.pause] at hpause
          split_ifs at hpause <;>
            · obtain ⟨-, rfl⟩ := Prod.mk.inj (Option.some.inj hpause)
              rfl
    rw [houtput]
    exact .aloof rfl (.nil _)
  · have heff : w.call c = (x, w') := Option.some.inj hact
    cases c with
    | write text =>
        obtain ⟨rfl, rfl⟩ := Prod.mk.inj heff
        exact .write t text s (.nil _)
    | flush =>
        obtain ⟨rfl, rfl⟩ := Prod.mk.inj heff
        exact .flush t s (.nil _)
    | _ =>
        obtain ⟨-, rfl⟩ := Prod.mk.inj heff
        exact .aloof rfl (.nil _)

/-! ### What is left of the threads -/

/-- With the events `es` of all threads, `t'` is what is left of the thread `t`. -/
structure Moved (es : List Event) (t t' : Thread α) : Prop where
  me : t'.me = t.me
  leads : t.rest.Leads (own t.me es) t'.rest

variable {k : α → Routine Unit} {es es' : List Event} {t t' t'' : Thread α}
  {ts ts' ts'' : List (Thread α)}

lemma Moved.refl (t : Thread α) : Moved [] t t :=
  ⟨rfl, .refl _⟩

lemma Moved.trans (h₁ : Moved es t t') (h₂ : Moved es' t' t'') : Moved (es ++ es') t t'' where
  me := h₂.me.trans h₁.me
  leads := by
    rw [own_append]
    exact h₁.leads.trans (h₁.me ▸ h₂.leads)

lemma map_me_of_moved (hts : List.Forall₂ (Moved es) ts ts') :
    ts'.map (·.me) = ts.map (·.me) := by
  induction hts with
  | nil => rfl
  | cons h _ ih => rw [List.map_cons, List.map_cons, h.me, ih]

lemma moved_trans (h₁ : List.Forall₂ (Moved es) ts ts') (h₂ : List.Forall₂ (Moved es') ts' ts'') :
    List.Forall₂ (Moved (es ++ es')) ts ts'' := by
  induction h₁ generalizing ts'' with
  | nil =>
      cases h₂
      exact .nil
  | cons h _ ih =>
      cases h₂ with
      | cons h' hrest => exact .cons (h.trans h') (ih hrest)

/-- The history decides what is left of a thread. -/
lemma Shows.rest_of_moved {Q' : System} (hw : Shows P h Q w) (hw' : Shows P (h ++ es) Q' w')
    (hrest : Q.threads t.me = t.rest.bind k) (hmoved : Moved es t t') :
    Q'.threads t'.me = t'.rest.bind k := by
  have hbefore := hw.run.leads t.me
  have hafter := hw'.run.leads t.me
  rw [hrest] at hbefore
  rw [own_append] at hafter
  rw [hmoved.me]
  exact hafter.unique (hbefore.trans (hmoved.leads.bind k))

lemma Shows.rests_of_moved {Q' : System} (hw : Shows P h Q w) (hw' : Shows P (h ++ es) Q' w')
    (hrest : ∀ t ∈ ts, Q.threads t.me = t.rest.bind k) (hmoved : List.Forall₂ (Moved es) ts ts') :
    ∀ t ∈ ts', Q'.threads t.me = t.rest.bind k := by
  induction hmoved with
  | nil => exact nofun
  | cons ht _ ih =>
      obtain ⟨hrestt, hrestts⟩ := List.forall_mem_cons.mp hrest
      exact List.forall_mem_cons.mpr ⟨hw.rest_of_moved hw' hrestt ht, ih hrestts⟩

/-! ### Runs -/

/-- What a thread does until it has to wait. -/
lemma Shows.proceedWith {r : Routine α} (hw : Shows P h Q w)
    (hrest : Q.threads me = r.bind k) (due : Option Nat) :
    ∃ es Q', Shows P (h ++ es) Q' (Thread.proceedWith me r due w).2 ∧
      w.output.Answers es (Thread.proceedWith me r due w).2.output ∧
      Moved es ⟨me, r, due⟩ (Thread.proceedWith me r due w).1 ∧ ∀ e ∈ es, e.thread = me := by
  induction r generalizing h Q w due with
  | done a =>
      exact ⟨[], Q, hw.append_nil, .nil _, ⟨rfl, .refl _⟩, List.forall_mem_nil _⟩
  | more =>
      exact ⟨[], Q, hw.append_nil, .nil _, ⟨rfl, .refl _⟩, List.forall_mem_nil _⟩
  | act a next ih =>
      rw [Thread.proceedWith]
      split
      · exact ⟨[], Q, hw.append_nil, .nil _, ⟨rfl, .refl _⟩, List.forall_mem_nil _⟩
      next x w' hact =>
        obtain ⟨s, Q₁, hw₁, hthreads⟩ := hw.act hrest hact
        have hnext : Q₁.threads me = (next x).bind k := by
          rw [hthreads, Function.update_self]
        obtain ⟨es, Q', hw', hout, hmoved, hes⟩ := ih x hw₁ hnext none
        refine ⟨⟨me, a, x, s⟩ :: es, Q', ?_, ?_, ⟨hmoved.me, ?_⟩,
          List.forall_mem_cons.mpr ⟨rfl, hes⟩⟩
        · rw [List.append_cons]
          exact hw'
        · exact Sink.answers_append.mpr ⟨_, answers_of_act hact me s, hout⟩
        · have hown : own me (⟨me, a, x, s⟩ :: es) = ⟨me, a, x, s⟩ :: own me es :=
            own_cons_self rfl es
          exact hown ▸ .act me x s hmoved.leads

/-- What all threads do in turn. -/
lemma Shows.turns (hw : Shows P h Q w) (hdistinct : (ts.map (·.me)).Nodup)
    (hrest : ∀ t ∈ ts, Q.threads t.me = t.rest.bind k) :
    ∃ es Q', Shows P (h ++ es) Q' (w.turns ts).2 ∧
      w.output.Answers es (w.turns ts).2.output ∧
      List.Forall₂ (Moved es) ts (w.turns ts).1 ∧ ∀ e ∈ es, e.thread ∈ ts.map (·.me) := by
  induction ts generalizing h Q w with
  | nil => exact ⟨[], Q, hw.append_nil, .nil _, .nil, List.forall_mem_nil _⟩
  | cons t ts ih =>
      obtain ⟨hnew, hdistinct'⟩ := List.nodup_cons.mp hdistinct
      obtain ⟨ht, hts⟩ := List.forall_mem_cons.mp hrest
      obtain ⟨es₁, Q₁, hw₁, hout₁, hmoved, hes₁⟩ := hw.proceedWith ht t.due
      have hother : ∀ u ∈ ts, own u.me es₁ = [] := by
        intro u hu
        refine List.filter_eq_nil_iff.mpr fun e he => ?_
        have hne : t.me ≠ u.me := fun heq => hnew (List.mem_map.mpr ⟨u, hu, heq.symm⟩)
        simpa [hes₁ e he] using hne
      have hstill : ∀ u ∈ ts, Moved es₁ u u :=
        fun u hu => ⟨rfl, (hother u hu).symm ▸ .refl _⟩
      obtain ⟨es₂, Q₂, hw₂, hout₂, hmoved₂, hes₂⟩ := ih hw₁ hdistinct'
        fun u hu => hw.rest_of_moved hw₁ (hts u hu) (hstill u hu)
      have hnone : own t.me es₂ = [] := by
        refine List.filter_eq_nil_iff.mpr fun e he => ?_
        have hne : e.thread ≠ t.me := by
          intro heq
          have hmem := hes₂ e he
          rw [heq] at hmem
          exact hnew hmem
        simpa using hne
      rw [List.append_assoc] at hw₂
      refine ⟨es₁ ++ es₂, Q₂, hw₂, Sink.answers_append.mpr ⟨_, hout₁, hout₂⟩, .cons ?_ ?_, ?_⟩
      · refine ⟨hmoved.me, ?_⟩
        rw [own_append, hnone, List.append_nil]
        exact hmoved.leads
      · exact moved_trans (List.forall₂_same.mpr hstill) hmoved₂
      · refine List.forall_mem_append.mpr ⟨fun e he => ?_, fun e he => ?_⟩
        · exact hes₁ e he ▸ List.mem_cons_self
        · exact List.mem_cons_of_mem _ (hes₂ e he)

/-- What all threads do on a schedule is a run. -/
lemma Shows.schedule (n : Nat) (hw : Shows P h Q w) (hdistinct : (ts.map (·.me)).Nodup)
    (hrest : ∀ t ∈ ts, Q.threads t.me = t.rest.bind k) :
    ∃ es Q', Shows P (h ++ es) Q' (World.schedule n w ts).2 ∧
      w.output.Answers es (World.schedule n w ts).2.output ∧
      List.Forall₂ (Moved es) ts (World.schedule n w ts).1 := by
  induction n generalizing h Q w ts with
  | zero =>
      refine ⟨[], Q, hw.append_nil, .nil _, List.forall₂_same.mpr fun t _ => .refl t⟩
  | succ n ih =>
      obtain ⟨es₁, Q₁, hw₁, hout₁, hmoved₁, -⟩ := hw.turns hdistinct hrest
      have hdistinct₁ : ((w.turns ts).1.map (·.me)).Nodup :=
        (map_me_of_moved hmoved₁).symm ▸ hdistinct
      have hrest₁ := hw.rests_of_moved hw₁ hrest hmoved₁
      have hgoOn : ∀ w' : World, w'.shared = (w.turns ts).2.shared →
          w'.output = (w.turns ts).2.output → ∃ es Q',
            Shows P (h ++ es) Q' (World.schedule n w' (w.turns ts).1).2 ∧
              w.output.Answers es (World.schedule n w' (w.turns ts).1).2.output ∧
              List.Forall₂ (Moved es) ts (World.schedule n w' (w.turns ts).1).1 := by
        intro w' hshared houtput
        obtain ⟨es₂, Q₂, hw₂, hout₂, hmoved₂⟩ := ih (hw₁.of_shared hshared) hdistinct₁ hrest₁
        rw [List.append_assoc] at hw₂
        rw [houtput] at hout₂
        exact ⟨es₁ ++ es₂, Q₂, hw₂, Sink.answers_append.mpr ⟨_, hout₁, hout₂⟩,
          moved_trans hmoved₁ hmoved₂⟩
      simp only [World.schedule]
      split_ifs
      · exact hgoOn _ rfl rfl
      · split
        · exact ⟨es₁, Q₁, hw₁, hout₁, hmoved₁⟩
        · exact hgoOn _ rfl rfl

/-- What threads that are done brought is what their events led to. -/
lemma leads_of_moved {results : List α} (hmoved : List.Forall₂ (Moved es) ts ts')
    (hresults : ts'.mapM (·.result?) = some results) :
    List.Forall₂ (fun t x => t.rest.Leads (own t.me es) (.done x)) ts results := by
  induction hmoved generalizing results with
  | nil =>
      rw [List.mapM_nil] at hresults
      obtain rfl := Option.some.inj hresults
      exact .nil
  | cons h _ ih =>
      rw [List.mapM_cons] at hresults
      obtain ⟨x, hx, hrest⟩ := Option.bind_eq_some_iff.mp hresults
      obtain ⟨xs, hxs, hall⟩ := Option.bind_eq_some_iff.mp hrest
      obtain rfl := Option.some.inj hall
      refine .cons ?_ (ih hxs)
      rw [Thread.result?] at hx
      split at hx
      next a hdone =>
        obtain rfl := Option.some.inj hx
        exact hdone ▸ h.leads
      next => cases hx

/-- What threads bring on a schedule, they bring in a run. -/
theorem Shows.results {n : Nat} {results : List α} (hw : Shows P h Q w)
    (hdistinct : (ts.map (·.me)).Nodup) (hrest : ∀ t ∈ ts, Q.threads t.me = t.rest.bind k)
    (hresults : (World.schedule n w ts).1.mapM (·.result?) = some results) :
    ∃ es Q', Shows P (h ++ es) Q' (World.schedule n w ts).2 ∧
      w.output.Answers es (World.schedule n w ts).2.output ∧
      List.Forall₂ (fun t x => t.rest.Leads (own t.me es) (.done x)) ts results := by
  obtain ⟨es, Q', hw', hout, hmoved⟩ := hw.schedule n hdistinct hrest
  exact ⟨es, Q', hw', hout, leads_of_moved hmoved hresults⟩

end Shows

end ExternalCompiler
