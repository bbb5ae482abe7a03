/-
The mark of the owner and the guards of the queue lock:

* `hasGuard`: a guard lives from the moment its thread leaves the mark of the owner up to the
  moment that it removes it, as the thread's own events say;
* `Attempt`, `Contender`: programs of operations on the queue, also of those that ask for the lock
  while their thread has it;
* `Routine.Abides`, `Routine.cut`: such a program keeps to the discipline of the lock but for
  requests that are never answered, and what is left of it without them obeys;
* `Owned.step`, `Owned.run`: no run sees the difference;
* `Passes`: the operations that a thread has behind it, and whether they left it a guard;
* `owner_exact`: in every reachable state the mark shows the thread with the guard, and no other.
-/
import ExternalCompiler.Proofs.Worker.Hooks

namespace ExternalCompiler

/-! ### Guards -/

/-- Whether a thread has a live guard after an event of its own: the guard is made with the mark
of the owner and ends when the mark is removed. -/
def Event.guard (alive : Bool) (e : Event) : Bool :=
  match e.action with
  | .access .markOwner => true
  | .access .clearOwner => false
  | _ => alive

/-- Whether a thread has a live guard after these events of its own. -/
def hasGuard (es : List Event) : Bool :=
  es.foldl Event.guard false

/-- What has another role than the mark leaves the guard alone. -/
lemma Event.guard_of_role {alive : Bool} {e : Event} :
    e.guard alive = match e.action.role with
      | .mark => true
      | .clear => false
      | _ => alive := by
  obtain ⟨t, a, x, s⟩ := e
  rcases a with a | p | c
  · cases a <;> rfl
  · cases p <;> rfl
  · cases c <;> rfl

namespace Hold

/-- A thread that has `w` of the lock may do what these events say, one after the other. -/
def Allows : Hold → List Event → Prop
  | _, [] => True
  | w, e :: es => ∃ w', w.shift e.action.role = some w' ∧ w'.Allows es

lemma run_cons {w w' : Hold} {e : Event} (h : w.shift e.action.role = some w') (es : List Event) :
    w.run (e :: es) = w'.run es := by
  simp [run, h]

lemma allows_append {w : Hold} {es es' : List Event} :
    w.Allows (es ++ es') ↔ w.Allows es ∧ (w.run es).Allows es' := by
  induction es generalizing w with
  | nil => simp [Allows, run]
  | cons e es ih =>
      simp only [List.cons_append, Allows, ih]
      constructor
      · rintro ⟨w', hshift, h, h'⟩
        exact ⟨⟨w', hshift, h⟩, by rwa [run_cons hshift]⟩
      · rintro ⟨⟨w', hshift, h⟩, h'⟩
        exact ⟨w', hshift, h, by rwa [run_cons hshift] at h'⟩

/-- A guard is the lock with its mark. -/
lemma foldl_guard {w : Hold} {es : List Event} (h : w.Allows es) :
    es.foldl Event.guard (decide (w = .marked)) = decide (w.run es = .marked) := by
  induction es generalizing w with
  | nil => rfl
  | cons e es ih =>
      obtain ⟨w', hshift, h'⟩ := h
      have hguard : e.guard (decide (w = .marked)) = decide (w' = .marked) := by
        rw [Event.guard_of_role]
        generalize e.action.role = ρ at hshift
        cases w <;> cases ρ <;> cases hshift <;> rfl
      rw [List.foldl_cons, hguard, ih h', run_cons hshift]

end Hold

/-! ### Programs that may ask for the lock twice -/

namespace Routine

variable {α β : Type} {w : Hold} {post : α → Hold → Prop}

/-- The routine keeps to what a thread may do that has `w` of the lock, and ends with `post`, or it
asks for the lock a second time. -/
def Abides : Routine α → Hold → (α → Hold → Prop) → Prop
  | done a, w, post => post a w
  | act a next, w, post =>
      (a.role = .take ∧ w.isHeld = true) ∨
        ∃ w', w.shift a.role = some w' ∧ ∀ x, (next x).Abides w' post
  | more, _, _ => True

lemma Obeys.abides {r : Routine α} (hr : r.Obeys w post) : r.Abides w post := by
  induction r generalizing w with
  | done a => exact hr
  | act a next ih =>
      obtain ⟨w', hw, hnext⟩ := hr
      exact .inr ⟨w', hw, fun x => ih x (hnext x)⟩
  | more => trivial

lemma Abides.bind {r : Routine α} {f : α → Routine β} {post' : β → Hold → Prop}
    (hr : r.Abides w post) (hf : ∀ a w', post a w' → (f a).Abides w' post') :
    (r.bind f).Abides w post' := by
  induction r generalizing w with
  | done a => exact hf a w hr
  | act a next ih =>
      obtain hstuck | ⟨w', hw, hnext⟩ := hr
      · exact .inl hstuck
      · exact .inr ⟨w', hw, fun x => ih x (hnext x)⟩
  | more => trivial

/-- What is left of a routine after events that a thread may do. -/
lemma Abides.leads {r r' : Routine α} {es : List Event} (hr : r.Abides w post)
    (h : r.Leads es r') (hes : w.Allows es) : r'.Abides (w.run es) post := by
  induction h generalizing w with
  | refl r => exact hr
  | @act a next _ _ t x s _ ih =>
      obtain ⟨w', hshift, hes'⟩ := hes
      rw [Hold.run_cons hshift]
      obtain ⟨htake, hheld⟩ | ⟨v, hv, hnext⟩ := hr
      · rw [show w.shift a.role = none by rw [htake]; cases w <;> first | rfl | cases hheld]
          at hshift
        cases hshift
      · obtain rfl : v = w' := Option.some.inj (hv.symm.trans hshift)
        exact ih (hnext x) hes'

/-- While a thread has the lock it may be refused at the flag, and otherwise it waits for itself. -/
lemma abides_submit_again (t : CompileTask) :
    (submit t).Abides .marked fun _ w' => w' = .marked := by
  refine .inr ⟨.marked, rfl, fun flag => ?_⟩
  cases flag with
  | true => rfl
  | false => exact .inl ⟨rfl, rfl⟩

/-- The routine up to the first action that its thread may not do. -/
def cut : Routine α → Hold → Routine α
  | done a, _ => done a
  | act a next, w =>
    match w.shift a.role with
    | some w' => act a fun x => (next x).cut w'
    | none => more
  | more, _ => more

lemma cut_act {a : Action} {next : a.Answer → Routine α} {w' : Hold}
    (h : w.shift a.role = some w') :
    (act a next).cut w = act a fun x => (next x).cut w' := by
  rw [cut, h]

/-- What is left of a routine without the actions that its thread may not do obeys. -/
lemma obeys_cut (r : Routine α) (w : Hold) : (r.cut w).Obeys w fun _ _ => True := by
  induction r generalizing w with
  | done a => trivial
  | act a next ih =>
      cases hshift : w.shift a.role with
      | none =>
          rw [cut, hshift]
          trivial
      | some w' =>
          rw [cut_act hshift]
          exact ⟨w', hshift, fun x => ih x w'⟩
  | more => trivial

end Routine

/-- What a thread may try with the queue: `Attempt held r keeps` says that it may try `r` if it has
the lock (`held` is true) or if it has not, and that it has the lock afterwards if `keeps` says so
of the result. A thread that has the lock may ask for it again. -/
inductive Attempt : {α : Type} → Bool → Routine α → (α → Bool) → Prop
  | proper {α : Type} {held : Bool} {r : Routine α} {keeps : α → Bool}
      (h : Operation held r keeps) : Attempt held r keeps
  | lock : Attempt true Routine.lock fun _ => true
  | submit (t : CompileTask) : Attempt true (Routine.submit t) fun _ => true
  | size (tier : Tier) : Attempt true (Routine.size tier) fun _ => true
  | length : Attempt true Routine.length fun _ => true
  | close : Attempt true Routine.close fun _ => true

/-- The programs of threads that have the lock or have it not: any number of attempts, one after
the other, and between them anything that has nothing to do with the lock. -/
inductive Contender : Bool → Routine Unit → Prop
  | done {held : Bool} : Contender held (.done ())
  | more {held : Bool} : Contender held .more
  | aloof {held : Bool} {a : Action} {next : a.Answer → Routine Unit} (ha : a.role = .aloof)
      (hnext : ∀ x, Contender held (next x)) : Contender held (.act a next)
  | attempt {α : Type} {held : Bool} {r : Routine α} {keeps : α → Bool} {k : α → Routine Unit}
      (hr : Attempt held r keeps) (hk : ∀ x, Contender (keeps x) (k x)) : Contender held (r.bind k)

/-- `Passes held r es held' r'`: a thread with the program `r` has done the events `es`, which are
whole operations and what stands between them, and `r'` is left; it had a guard at first if `held`
says so, and has one now if `held'` does. -/
inductive Passes : Bool → Routine Unit → List Event → Bool → Routine Unit → Prop
  | refl (held : Bool) (r : Routine Unit) : Passes held r [] held r
  | aloof {held held' : Bool} {a : Action} {next : a.Answer → Routine Unit} {r : Routine Unit}
      {es : List Event} (ha : a.role = .aloof) (t : ThreadId) (x : a.Answer) (s : Shared)
      (h : Passes held (next x) es held' r) :
      Passes held (.act a next) (⟨t, a, x, s⟩ :: es) held' r
  | attempt {α : Type} {held held' : Bool} {r : Routine α} {keeps : α → Bool}
      {k : α → Routine Unit} {r' : Routine Unit} {es es' : List Event} {x : α}
      (hr : Attempt held r keeps) (hes : r.Leads es (.done x))
      (h : Passes (keeps x) (k x) es' held' r') : Passes held (r.bind k) (es ++ es') held' r'

section Attempt

variable {held held' : Bool} {w : Hold}

lemma Attempt.abides {α : Type} {r : Routine α} {keeps : α → Bool} (h : Attempt held r keeps)
    (hw : w.serves held) : r.Abides w fun x w' => w'.serves (keeps x) := by
  cases h with
  | proper h => exact (h.obeys hw).abides
  | submit t =>
      obtain rfl : w = .marked := hw
      exact Routine.abides_submit_again t
  | lock | size | length | close =>
      obtain rfl : w = .marked := hw
      exact .inl ⟨rfl, rfl⟩

/-- What has nothing to do with the lock may be done at any time between two operations. -/
lemma serves_shift_aloof (hw : w.serves held) :
    ∃ w', w.shift .aloof = some w' ∧ w'.serves held := by
  cases held with
  | true =>
      obtain rfl : w = .marked := hw
      exact ⟨.marked, rfl, rfl⟩
  | false =>
      refine ⟨.out, ?_, rfl⟩
      cases w <;> first | rfl | cases hw

lemma Contender.abides {r : Routine Unit} (h : Contender held r) (hw : w.serves held) :
    r.Abides w fun _ _ => True := by
  induction h generalizing w with
  | done | more => trivial
  | aloof ha _ ih =>
      obtain ⟨w', hshift, hw'⟩ := serves_shift_aloof hw
      exact .inr ⟨w', by rwa [ha], fun x => ih x hw'⟩
  | attempt hr _ ih => exact (hr.abides hw).bind fun x w' hw' => ih x hw'

/-- After whole operations a thread has the lock if they say so. -/
lemma Passes.serves {r r' : Routine Unit} {es : List Event} (h : Passes held r es held' r')
    (hw : w.serves held) (hes : w.Allows es) : (w.run es).serves held' := by
  induction h generalizing w with
  | refl => exact hw
  | aloof ha t x s _ ih =>
      obtain ⟨w', hshift, hes'⟩ := hes
      obtain ⟨v, hv, hv'⟩ := serves_shift_aloof hw
      obtain rfl : v = w' := Option.some.inj (hv.symm.trans (ha ▸ hshift))
      rw [Hold.run_cons hshift]
      exact ih hv' hes'
  | attempt hr hlead _ ih =>
      obtain ⟨hes₁, hes₂⟩ := Hold.allows_append.mp hes
      have hafter := (hr.abides hw).leads hlead hes₁
      have hrest := ih hafter hes₂
      rwa [Hold.run, Hold.run, ← List.foldl_append] at hrest

end Attempt

/-! ### Runs -/

/-- The system without the actions that its threads may not do. -/
def System.cut (P : System) (w : ThreadId → Hold) : System where
  shared := P.shared
  threads t := (P.threads t).cut (w t)

/-- Every thread abides by what it may do, and without the requests that are never answered the
lock is where the threads believe it to be. -/
structure Owned (w : ThreadId → Hold) (P : System) : Prop where
  abides : ∀ t, (P.threads t).Abides (w t) fun _ _ => True
  guarded : Guarded w (P.cut w)

section Owned

variable {w : ThreadId → Hold} {P Q : System} {e : Event} {h : List Event} {t u : ThreadId}

/-- A thread that may do its next action may do it in what is left of the system too. -/
lemma System.cut_act {a : Action} {next : a.Answer → Routine Unit} {w' : Hold}
    (hact : P.threads t = .act a next) (hshift : (w t).shift a.role = some w') :
    (P.cut w).threads t = .act a fun x => (next x).cut w' :=
  (congrArg (Routine.cut · (w t)) hact).trans (Routine.cut_act hshift)

/-- A thread that acts does what it may do: a thread that has the lock cannot take it again. -/
lemma Owned.shift (ho : Owned w P) (hstep : System.Step P e Q) :
    ∃ w', (w e.thread).shift e.action.role = some w' := by
  cases hstep with
  | @act t a next x s hact heff =>
      have habides := ho.abides t
      rw [hact] at habides
      obtain ⟨htake, hheld⟩ | ⟨w', hshift, -⟩ := habides
      · have hfree := (effect_lock heff).2.1 htake
        have hholder : P.shared.lock.holder = some t := (ho.guarded.fits t).holder hheld
        rw [hfree] at hholder
        cases hholder
      · exact ⟨w', hshift⟩

/-- A step of a system is a step of what is left of it. -/
lemma Owned.cut_step (ho : Owned w P) (hstep : System.Step P e Q) :
    System.Step (P.cut w) e (Q.cut fun t => (w t).run (own t [e])) := by
  obtain ⟨w', hshift⟩ := ho.shift hstep
  cases hstep with
  | @act t a next x s hact heff =>
      have hthreads : (fun u => (Function.update P.threads t (next x) u).cut
          ((w u).run (own u [⟨t, a, x, P.shared⟩]))) =
          Function.update (P.cut w).threads t ((next x).cut w') := by
        funext u
        by_cases hu : t = u
        · subst hu
          rw [Function.update_self, Function.update_self,
            own_cons_self (show Event.thread ⟨t, a, x, P.shared⟩ = t from rfl),
            Hold.run_cons hshift]
          rfl
        · rw [Function.update_of_ne (Ne.symm hu), Function.update_of_ne (Ne.symm hu),
            own_cons_other hu]
          rfl
      change System.Step (P.cut w) _ ⟨s, fun u => (Function.update P.threads t (next x) u).cut
        ((w u).run (own u [⟨t, a, x, P.shared⟩]))⟩
      rw [hthreads]
      exact .act (System.cut_act hact hshift) heff

lemma Owned.step (ho : Owned w P) (hstep : System.Step P e Q) :
    Owned (fun t => (w t).run (own t [e])) Q := by
  refine ⟨fun u => ?_, ho.guarded.step (ho.cut_step hstep)⟩
  obtain ⟨w', hshift⟩ := ho.shift hstep
  by_cases hu : e.thread = u
  · subst hu
    rw [own_cons_self rfl]
    exact (ho.abides _).leads hstep.leads ⟨w', hshift, trivial⟩
  · rw [own_cons_other hu, hstep.threads_other hu]
    exact ho.abides u

/-- A thread that waits for work waits in what is left of the system too. -/
lemma Owned.wait {seen : UInt64} {millis : Nat} {next : WaitOutcome → Routine Unit}
    (ho : Owned w P) (hact : P.threads t = .act (.pause (.awaitWork seen millis)) next) :
    ∃ next', (P.cut w).threads t = .act (.pause (.awaitWork seen millis)) next' := by
  have habides := ho.abides t
  rw [hact] at habides
  obtain ⟨htake, -⟩ | ⟨w', hshift, -⟩ := habides
  · cases htake
  · exact ⟨_, System.cut_act hact hshift⟩

/-- Whoever waits for work has just given the lock back. -/
lemma Owned.released (ho : Owned w P) (hwait : (P.threads t).isWaiting = true) :
    w t = .released := by
  have habides := ho.abides t
  cases hact : P.threads t with
  | done a | more =>
      rw [hact] at hwait
      cases hwait
  | act a next =>
      rw [hact] at habides hwait
      have hrole := role_of_isWaiting hwait
      obtain ⟨htake, -⟩ | ⟨w', hshift, -⟩ := habides
      · rw [hrole] at htake
        cases htake
      · rw [hrole] at hshift
        cases hw : w t <;> rw [hw] at hshift <;> first | rfl | cases hshift

/-- A look of a waiting thread is a look in what is left of the system. -/
lemma Owned.look (ho : Owned w P) (hlook : System.Look P Q) : Owned w Q := by
  refine ⟨hlook.threads ▸ ho.abides, ho.guarded.look ?_⟩
  cases hlook with
  | take hact hfree =>
      obtain ⟨next', hact'⟩ := ho.wait hact
      exact .take hact' hfree
  | giveBack hact hheld hnews =>
      obtain ⟨next', hact'⟩ := ho.wait hact
      exact .giveBack hact' hheld hnews

/-- Along a run every thread does what it may do, and what it has of the lock follows from its own
events. -/
theorem Owned.run (ho : Owned w P) (hrun : System.Run P h Q) :
    (∀ t, (w t).Allows (own t h)) ∧ Owned (fun t => (w t).run (own t h)) Q := by
  refine hrun.invariant
    (I := fun h Q => (∀ t, (w t).Allows (own t h)) ∧ Owned (fun t => (w t).run (own t h)) Q)
    ⟨fun _ => trivial, ho⟩ ?_ fun g R R' _ ⟨hallows, hR⟩ hlook => ⟨hallows, hR.look hlook⟩
  rintro g R e R' - ⟨hallows, hR⟩ hstep
  refine ⟨fun t => ?_, ?_⟩
  · rw [own_append, Hold.allows_append]
    refine ⟨hallows t, ?_⟩
    by_cases ht : e.thread = t
    · subst ht
      obtain ⟨w', hshift⟩ := hR.shift hstep
      rw [own_cons_self rfl]
      exact ⟨w', hshift, trivial⟩
    · rw [own_cons_other ht]
      trivial
  · simpa only [own_append, Hold.run, List.foldl_append] using hR.step hstep

/-- At the start nobody has the lock. -/
lemma owned_of_contenders (hlock : P.shared.lock = {}) (hnobody : P.threads 0 = .done ())
    (hcontenders : ∀ t, Contender false (P.threads t)) : Owned (fun _ => .out) P where
  abides t := (hcontenders t).abides rfl
  guarded := {
    obeys t := Routine.obeys_cut _ _
    fits t := by
      rw [show (P.cut _).shared.lock = {} from hlock]
      exact ⟨nofun, nofun, fun ht => by simp [ht.symm]⟩
    nobody := ⟨congrArg (Routine.cut · .out) hnobody, rfl⟩ }

end Owned

/-! ### The mark shows the guard -/

section Runs

variable {P Q : System} {h : List Event}

/-- A thread has a guard exactly if it has the lock with its mark. -/
lemma hasGuard_iff {w : Hold} {es : List Event} (hw : w ≠ .marked) (hes : w.Allows es) :
    hasGuard es = true ↔ w.run es = .marked := by
  have hfold := Hold.foldl_guard hes
  rw [decide_eq_false hw] at hfold
  rw [hasGuard, hfold, decide_eq_true_iff]

/-- **The mark of the owner shows the guard.** Any number of threads run any operations on the queue
in any order, also such that ask for the lock while their thread has it. In every state that they
reach, the mark is removed or shows the thread that holds the lock; a thread finds itself marked
exactly if it has a live guard; a thread that waits for work has none, and no two threads have one.
Whole operations leave a thread with a guard as they should, and every question about the mark is
answered by the guard. -/
theorem owner_exact (hlock : P.shared.lock = {}) (hnobody : P.threads 0 = .done ())
    (hcontenders : ∀ t, Contender false (P.threads t)) (hrun : System.Run P h Q) :
    (Q.shared.lock.owner = 0 ∨ Q.shared.lock.holder = some Q.shared.lock.owner) ∧
      (∀ t ≠ 0, (Access.readOwner.perform t Q.shared).1 = hasGuard (own t h)) ∧
      (∀ t, (Q.threads t).isWaiting = true → hasGuard (own t h) = false) ∧
      (∀ t u, hasGuard (own t h) = true → hasGuard (own u h) = true → t = u) ∧
      (∀ t held r, Passes false (P.threads t) (own t h) held r → hasGuard (own t h) = held) ∧
      ∀ h₁ h₂ t answer s, h = h₁ ++ ⟨t, .access .readOwner, answer, s⟩ :: h₂ →
        answer = hasGuard (own t h₁) := by
  have hstart := owned_of_contenders hlock hnobody hcontenders
  have hguard {g R} (hg : System.Run P g R) (t) :
      hasGuard (own t g) = true ↔ Hold.out.run (own t g) = .marked :=
    hasGuard_iff (by decide) ((hstart.run hg).1 t)
  have hshown {g R} (hg : System.Run P g R) (t) (ht : t ≠ 0) :
      (Access.readOwner.perform t R.shared).1 = hasGuard (own t g) := by
    rw [Bool.eq_iff_iff, hguard hg, ← ((hstart.run hg).2.guarded.fits t).owner ht]
    exact beq_iff_eq
  obtain ⟨hallows, hQ⟩ := hstart.run hrun
  refine ⟨?_, fun t ht => hshown hrun t ht, fun t hwait => ?_, fun t u ht hu => ?_,
    fun t held r hpasses => ?_, ?_⟩
  · by_cases hzero : Q.shared.lock.owner = 0
    · exact .inl hzero
    · have hmarked := ((hQ.guarded.fits _).owner hzero).mp rfl
      exact .inr ((hQ.guarded.fits _).holder (by rw [hmarked]; rfl))
  · rw [← Bool.not_eq_true, hguard hrun, hQ.released hwait]
    nofun
  · have ht' := (hQ.guarded.marked_iff.mp ((hguard hrun t).mp ht)).1
    have hu' := (hQ.guarded.marked_iff.mp ((hguard hrun u).mp hu)).1
    exact Option.some.inj (ht'.symm.trans hu')
  · have hserves := hpasses.serves (w := .out) rfl (hallows t)
    cases held with
    | true => exact (hguard hrun t).mpr hserves
    | false =>
        rw [← Bool.not_eq_true, hguard hrun]
        intro hmarked
        rw [hmarked] at hserves
        cases hserves
  · rintro h₁ h₂ t answer s rfl
    obtain ⟨R, R', hR, hstep, -⟩ := hrun.at_event
    have hbefore := (hstart.run hR).2
    obtain ⟨-, -, -, -, -, hzero⟩ := hbefore.guarded.move (hbefore.cut_step hstep)
    exact (effect_access.mp hstep.effect).1.trans (hshown hR t hzero)

end Runs

/-- A thread that waits for work, and one that takes the lock in the meantime and asks for it a
second time. -/
def contendedPair : System where
  shared := {}
  threads
    | 1 => Routine.lock.bind fun _ => .act (.access .readOwner) fun _ =>
        (Routine.waitForWork 20).bind fun _ => Routine.unlock.bind fun _ => .done ()
    | 2 => Routine.lock.bind fun _ => Routine.length.bind fun _ => .done ()
    | _ => .done ()

/-- The first thread takes the lock, asks whether it has it and begins to wait; the second one
takes the lock, and then neither of them can act. -/
def contendedRun : List Event × System :=
  contendedPair.play Call.silence (List.replicate 7 1 ++ List.replicate 3 2 ++ [1])

/-- While the first thread waits, the second one has the only guard. -/
theorem owner_exact_waiting :
    (contendedRun.2.threads 1).isWaiting = true ∧
      (Access.readOwner.perform 1 contendedRun.2.shared).1 = false ∧
      (Access.readOwner.perform 2 contendedRun.2.shared).1 = true ∧
      contendedRun.2.shared.lock.holder = some 2 ∧
      ∀ t, hasGuard (own t contendedRun.1) = true → t = 2 := by
  have hcontenders : ∀ t, Contender false (contendedPair.threads t) := by
    intro t
    simp only [contendedPair]
    split
    · exact .attempt (.proper .lock) fun _ => .aloof rfl fun _ =>
        .attempt (.proper (.wait 20)) fun _ => .attempt (.proper .unlock) fun _ => .done
    · exact .attempt (.proper .lock) fun _ => .attempt .length fun _ => .done
    · exact .done
  have hrun : System.Run contendedPair contendedRun.1 contendedRun.2 := System.run_play _ _ _
  obtain ⟨howner, hshown, hwaiting, hsole, -⟩ :=
    owner_exact (P := contendedPair) rfl rfl hcontenders hrun
  have hwait : (contendedRun.2.threads 1).isWaiting = true := by decide +kernel
  have hguard : hasGuard (own 2 contendedRun.1) = true := by decide +kernel
  have hmark : contendedRun.2.shared.lock.owner = 2 := by decide +kernel
  rw [hmark] at howner
  exact ⟨hwait, (hshown 1 (by decide)).trans (hwaiting 1 hwait),
    (hshown 2 (by decide)).trans hguard, howner.resolve_left (by decide),
    fun t ht => hsole t 2 ht hguard⟩

end ExternalCompiler
