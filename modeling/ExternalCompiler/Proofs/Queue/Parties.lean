/-
Who shares a queue with compiler threads:

* `Party`: the users of a queue that may also call the external runtime, while they do not have the
  lock; they keep the discipline of the lock and push only into an open queue (`guarded_of_parties`,
  `Party.heeds`);
* `Party.bootstrap`: whoever bootstraps with the queue is one;
* `Guarded.acts`: a thread that is not done can act, unless another one has the lock.
-/
import ExternalCompiler.Bootstrap
import ExternalCompiler.Proofs.Bootstrap.Course
import ExternalCompiler.Proofs.Queue.Acceptance
import ExternalCompiler.Proofs.Simulation.Runtime

namespace ExternalCompiler

/-! ### Parties -/

/-- The programs of threads that have the lock or have it not: they may do with the queue what
threads may do, put tasks into it only by submitting them, and call the external runtime while they
do not have the lock. -/
inductive Party : Bool → Routine Unit → Prop
  | done {held : Bool} : Party held (.done ())
  | more {held : Bool} : Party held .more
  | aloof {held : Bool} {a : Action} {next : a.Answer → Routine Unit} (ha : a.role = .aloof)
      (hnext : ∀ x, Party held (next x)) : Party held (.act a next)
  | outward {a : Action} {next : a.Answer → Routine Unit} (ha : a.role = .outward)
      (hnext : ∀ x, Party false (next x)) : Party false (.act a next)
  | submit {t : CompileTask} {k : Bool → Routine Unit} (hk : ∀ x, Party false (k x)) :
      Party false ((Routine.submit t).bind k)
  | operate {α : Type} {held : Bool} {r : Routine α} {keeps : α → Bool} {k : α → Routine Unit}
      (hr : Operation held r keeps) (hpush : r.Only (·.isPush = false))
      (hk : ∀ x, Party (keeps x) (k x)) : Party held (r.bind k)

lemma Action.isPush_of_role {a : Action} (h : a.role ≠ .visit) : a.isPush = false := by
  rcases a with a | p | c
  · cases a <;> first | rfl | exact absurd rfl h
  · rfl
  · rfl

lemma Action.role_of_isWatch {a : Action} (h : a.isWatch = true) : a.role = .aloof := by
  cases h using isWatch_cases <;> rfl

lemma Party.obeys {held : Bool} {r : Routine Unit} {w : Hold} (h : Party held r)
    (hw : w.serves held) : r.Obeys w fun _ _ => True := by
  induction h generalizing w with
  | done | more => trivial
  | @aloof held a next ha _ ih =>
      cases held with
      | true =>
          obtain rfl : w = .marked := hw
          exact ⟨.marked, by rw [ha]; rfl, fun x => ih x rfl⟩
      | false =>
          refine ⟨.out, ?_, fun x => ih x rfl⟩
          rw [ha]
          cases w <;> first | rfl | cases hw
  | outward ha _ ih =>
      refine ⟨.out, ?_, fun x => ih x rfl⟩
      rw [ha]
      exact Routine.shift_outward hw
  | submit _ ih => exact (Routine.obeys_submit hw _).bind fun x w' hw' => ih x hw'
  | operate hr _ _ ih => exact (hr.obeys hw).bind fun x w' hw' => ih x hw'

lemma Party.heeds {held : Bool} {r : Routine Unit} {k : Known} (h : Party held r) :
    r.Heeds Known.admits k fun _ _ => True := by
  induction h generalizing k with
  | done | more => trivial
  | aloof ha _ ih | outward ha _ ih =>
      refine ⟨fun hpush => ?_, fun x => ih x⟩
      rw [Action.isPush_of_role (by rw [ha]; decide)] at hpush
      cases hpush
  | submit _ ih => exact (heeds_submit _).bind fun x _ _ => ih x
  | operate _ hpush _ ih =>
      refine (Routine.heeds_of_only (hpush.mono fun a ha k hpush' => ?_)).bind fun x _ _ => ih x
      rw [ha] at hpush'
      cases hpush'

/-- At the start nobody has the lock. -/
lemma guarded_of_parties {P : System} (hlock : P.shared.lock = {})
    (hnobody : P.threads 0 = .done ()) (hparties : ∀ t, Party false (P.threads t)) :
    Guarded (fun _ => .out) P where
  obeys t := (hparties t).obeys rfl
  fits t := by
    rw [hlock]
    exact ⟨nofun, nofun, fun ht => by simp [ht.symm]⟩
  nobody := ⟨hnobody, rfl⟩

/-! ### Bootstraps with the queue -/

namespace Party

variable {α : Type} {k : α → Routine Unit}

/-- What has nothing to do with the lock may be done by every party. -/
lemma of_aloof {r : Routine α} (hr : r.Only (·.role = .aloof)) (hk : ∀ x, Party false (k x)) :
    Party false (r.bind k) := by
  induction r with
  | done a => exact hk a
  | act a next ih => exact .aloof hr.1 fun x => ih x (hr.2 x)
  | more => exact .more

/-- What belongs to waiting may be done by every party. -/
lemma of_watch {r : Routine α} (hr : r.Only (·.isWatch = true)) (hk : ∀ x, Party false (k x)) :
    Party false (r.bind k) :=
  of_aloof (hr.mono fun _ => Action.role_of_isWatch) hk

lemma submitAll {k : Nat → Routine Unit} (hk : ∀ n, Party false (k n)) (tasks : List CompileTask)
    (accepted : Nat) : Party false ((Routine.submitAll Broker.queue tasks accepted).bind k) := by
  induction tasks generalizing accepted with
  | nil => exact hk accepted
  | cons t rest ih =>
      rw [Routine.submitAll, Routine.bind_eq, Routine.bind_assoc]
      refine .submit fun taken => ?_
      cases taken with
      | true => exact ih (accepted + 1)
      | false => exact ih accepted

lemma drain {k : Except ServiceError Unit → Routine Unit} (hk : ∀ x, Party false (k x))
    (print cancellable : Bool) (start polls : Nat) (first : Bool) (dots : Nat) :
    Party false
      ((Routine.drain print cancellable Broker.queue start polls first dots).bind k) := by
  induction polls generalizing first dots with
  | zero => exact .more
  | succ n ih =>
      have hsize : (Routine.size .top).Only (·.isPush = false) :=
        Routine.only_size (fun _ => Action.isPush_of_isLocking) rfl
      simp only [Routine.drain, Routine.bind_eq, Routine.bind_assoc]
      refine of_watch (Routine.only_pause.mpr rfl) fun _ => ?_
      refine .operate (.size .top) hsize fun size => ?_
      refine of_watch (Routine.only_checkCancelled (fun _ => id) _ _ _) fun x => ?_
      cases x with
      | error e => exact hk _
      | ok _ =>
          rw [Routine.bind_assoc]
          have hlook : (Routine.awaitsFirstTask first size).Only (·.isWatch = true) :=
            Routine.only_awaitsFirstTask (p := (·.isWatch = true)) rfl _ _
          refine of_watch hlook fun waits => ?_
          cases waits with
          | true => exact ih true dots
          | false =>
              rw [if_neg Bool.false_ne_true, Routine.bind_assoc]
              refine of_watch (Routine.only_showProgress (fun _ => id) _ _) fun y => ?_
              cases y with
              | error e => exact hk _
              | ok dots =>
                  by_cases hempty : size = 0
                  · simpa [hempty] using hk _
                  · simpa [hempty] using ih false dots

lemma seedAndDrain {k : Except ServiceError BootstrapReport → Routine Unit}
    (hk : ∀ x, Party false (k x)) (polls : Nat) (print cancellable : Bool)
    (methods : List Method) :
    Party false
      ((Routine.seedAndDrain polls print cancellable methods Broker.queue).bind k) := by
  rw [Routine.seedAndDrain, Routine.bind_eq, Routine.bind_assoc]
  refine of_watch (Routine.only_openOutput (fun _ => id) _) fun x => ?_
  cases x with
  | error e => exact hk _
  | ok _ =>
      refine .aloof rfl fun start => ?_
      simp only [Routine.done_bind, Routine.bind_eq, Routine.bind_assoc]
      refine submitAll (fun submitted => ?_) _ _
      refine drain (fun y => ?_) _ _ _ _ _ _
      cases y with
      | error e => exact hk _
      | ok _ =>
          refine .aloof rfl fun compiled => .aloof rfl fun finish => ?_
          simp only [Routine.done_bind, Routine.bind_assoc]
          refine of_watch (Routine.only_closeOutput (fun _ => id) _ _) fun z => ?_
          cases z <;> exact hk _

/-- Whoever bootstraps with the queue shares it. -/
lemma bootstrap {k : Except ServiceError (Option BootstrapReport) → Routine Unit}
    (hk : ∀ x, Party false (k x)) (polls : Nat) (c : Config) (cancellable : Bool)
    (methods : List Method) :
    Party false ((Routine.bootstrap polls c cancellable methods Broker.queue).bind k) := by
  rw [Routine.bootstrap]
  split_ifs
  · exact hk _
  · refine .aloof rfl fun opened => ?_
    cases opened with
    | false => exact hk _
    | true =>
        simp only [Routine.withinWindow, Routine.bind_eq, Routine.done_bind, Routine.bind_assoc,
          if_true]
        refine .aloof rfl fun previous => seedAndDrain (fun x => ?_) _ _ _ _
        cases x with
        | error e => exact .aloof rfl fun _ => .aloof rfl fun _ => hk _
        | ok report =>
            refine .aloof rfl fun _ => .outward rfl fun told => ?_
            cases told with
            | error e => exact .aloof rfl fun _ => .aloof rfl fun _ => hk _
            | ok _ => exact .aloof rfl fun _ => hk _

end Party

/-! ### Progress -/

/-- Whoever is about to take the lock does not have it. -/
lemma Guarded.not_holder_of_take {w : ThreadId → Hold} {Q : System} {t : ThreadId}
    {next : Unit → Routine Unit} (hg : Guarded w Q)
    (hact : Q.threads t = .act (.pause .takeLock) next) : Q.shared.lock.holder ≠ some t := by
  intro hholder
  have hobeys := hg.obeys t
  rw [hact] at hobeys
  obtain ⟨w', hshift, -⟩ := hobeys
  rcases (hg.fits t).held hholder with hheld | ⟨-, hwaiting⟩
  · cases hw : w t <;> rw [hw] at hshift hheld <;> first | cases hheld; done | cases hshift
  · rw [hact] at hwaiting
    cases hwaiting

/-- A thread that is not done can act, as the simulated runtime answers, unless another thread has
the lock. -/
lemma Guarded.acts {w : ThreadId → Hold} {Q : System} {t : ThreadId} {a : Action}
    {next : a.Answer → Routine Unit} (hg : Guarded w Q) (hact : Q.threads t = .act a next) :
    (∃ e Q', System.Run Q [e] Q' ∧ e.thread = t ∧ e.action.Simulated e.answer) ∨
      ∃ u, u ≠ t ∧ Q.shared.lock.holder = some u := by
  by_cases hother : ∃ u, u ≠ t ∧ Q.shared.lock.holder = some u
  · exact .inr hother
  left
  have hmine : ∀ u, Q.shared.lock.holder = some u → u = t := by
    intro u hu
    by_contra hne
    exact hother ⟨u, hne, hu⟩
  rcases a with a | p | c
  · exact ⟨_, _, .step (.act hact (effect_access.mpr ⟨rfl, rfl⟩)) (.refl _), rfl, trivial⟩
  · cases p with
    | takeLock =>
        have hfree : Q.shared.lock.holder = none := by
          cases hholder : Q.shared.lock.holder with
          | none => rfl
          | some u => exact absurd (hmine u hholder ▸ hholder) (hg.not_holder_of_take hact)
        exact ⟨_, _, .step (.act (x := ()) hact ⟨hfree, rfl⟩) (.refl _), rfl, trivial⟩
    | awaitWork seen millis =>
        cases hholder : Q.shared.lock.holder with
        | none =>
            exact ⟨_, _, .look (.take hact hholder)
              (.step (.act hact ⟨rfl, rfl, rfl⟩) (.refl _)), rfl, trivial⟩
        | some u =>
            obtain rfl := hmine u hholder
            exact ⟨_, _, .step (.act hact ⟨hholder, rfl, rfl⟩) (.refl _), rfl, trivial⟩
    | sleep millis => exact ⟨_, _, .step (.act (x := ()) hact rfl) (.refl _), rfl, trivial⟩
  · exact ⟨_, _, .step (.act (x := c.simulated) hact rfl) (.refl _), rfl, fun _ => rfl⟩

end ExternalCompiler
