/-
What a thread knows of the queue while it has the lock:

* `Known`, `Known.after`, `Known.learns`: what a thread learns from the answers to its own actions;
  it forgets it when it gives the lock back;
* `Sight`, `Guarded.sight`: in every run of threads that keep the discipline of the lock, what a
  thread knows is true.

What a thread may do with what it knows is a conduct of its own (`Queue/Acceptance`,
`Worker/Waiting`).
-/
import ExternalCompiler.Proofs.Conduct
import ExternalCompiler.Proofs.Queue.Discipline

namespace ExternalCompiler

/-! ### Learning and forgetting -/

/-- What a thread knows: that no task waits in the queue, that the queue is open, and the number of
acceptances that it read last. -/
structure Known where
  isEmpty : Bool := false
  isOpen : Bool := false
  seen : Option UInt64 := none
deriving DecidableEq

namespace Known

/-- What a thread knows after an action was answered. -/
def after (k : Known) : (a : Action) → a.Answer → Known
  | .access .popTask, none => { k with isEmpty := true }
  | .access .popTask, some _ => { k with isEmpty := false }
  | .access .readLength, (n : Nat) => { k with isEmpty := n == 0 }
  | .access .readClosed, (closed : Bool) => { k with isOpen := !closed }
  | .access .readSubmitted, (n : UInt64) => { k with seen := some n }
  | .access (.pushTask _), _ => { k with isEmpty := false }
  | .access .setClosed, _ => { k with isOpen := false }
  | .access .releaseLock, _ => { k with isEmpty := false, isOpen := false }
  | _, _ => k

/-- A thread learns from its actions, and may do anything with what it knows. -/
def learns : Conduct Known where
  after := after
  asks _ _ := True

/-- What is known of a queue is true. -/
structure Fits (k : Known) (q : Queue) : Prop where
  empty : k.isEmpty = true → q.tasks = []
  unclosed : k.isOpen = true → q.isClosed = false

/-- What is not known cannot be false. -/
lemma fits_of_blind {k : Known} (hempty : k.isEmpty = false) (hopen : k.isOpen = false)
    (q : Queue) : k.Fits q :=
  ⟨by simp [hempty], by simp [hopen]⟩

/-- What a thread learns from its own action is true, if what it knew was true. -/
lemma Fits.after {k : Known} {me : ThreadId} {s s' : Shared} {a : Action} {x : a.Answer}
    (h : k.Fits s.queue) (heff : Effect me s a x s') : (k.after a x).Fits s'.queue := by
  obtain ⟨hempty, hunclosed⟩ := h
  rcases a with a | p | c
  · obtain ⟨rfl, rfl⟩ := effect_access.mp heff
    cases a with
    | popTask =>
        simp only [Access.perform, Queue.pop]
        cases htasks : s.queue.tasks with
        | nil => exact ⟨fun _ => htasks, hunclosed⟩
        | cons t rest => exact ⟨fun hnone => absurd hnone Bool.false_ne_true, hunclosed⟩
    | readLength =>
        refine ⟨fun hzero => List.length_eq_zero_iff.mp ?_, hunclosed⟩
        simpa [Known.after, Access.perform, Queue.length] using hzero
    | readClosed => exact ⟨hempty, by simp [Known.after, Access.perform]⟩
    | pushTask => exact ⟨fun hnone => absurd hnone Bool.false_ne_true, hunclosed⟩
    | setClosed => exact ⟨hempty, fun hnone => absurd hnone Bool.false_ne_true⟩
    | releaseLock => exact fits_of_blind rfl rfl _
    | claimStartup | openWindow =>
        simp only [Access.perform]
        split <;> exact ⟨hempty, hunclosed⟩
    | _ => exact ⟨hempty, hunclosed⟩
  · cases p with
    | takeLock => exact heff.2 ▸ ⟨hempty, hunclosed⟩
    | awaitWork seen millis => exact heff.2.2 ▸ ⟨hempty, hunclosed⟩
    | sleep millis => exact heff ▸ ⟨hempty, hunclosed⟩
  · exact heff ▸ ⟨hempty, hunclosed⟩

end Known

/-! ### What is known is true -/

/-- A thread that has `w` of the lock knows `k` of the queue: nothing if it has not the lock, and
else what is true. -/
structure Sight (w : Hold) (k : Known) (q : Queue) : Prop where
  blind : w.isHeld = false → k.isEmpty = false ∧ k.isOpen = false
  fits : k.Fits q

/-- Whoever has not the lock after an action knows nothing. -/
lemma blind_after {w w' : Hold} {k : Known} {a : Action} {x : a.Answer}
    (hblind : w.isHeld = false → k.isEmpty = false ∧ k.isOpen = false)
    (hshift : w.shift a.role = some w') (hw' : w'.isHeld = false) :
    (k.after a x).isEmpty = false ∧ (k.after a x).isOpen = false := by
  rcases a with a | p | c
  · cases a <;> cases w <;> cases hshift <;>
      first | exact hblind rfl | exact ⟨rfl, rfl⟩ | cases hw'
  · cases p <;> cases w <;> cases hshift <;> first | exact hblind rfl | cases hw'
  · cases c <;> cases w <;> cases hshift <;> first | exact hblind rfl | cases hw'

/-- What is done without the lock leaves the queue alone. -/
lemma keeps_queue {a : Action} (h : a.role ≠ .visit) : Keeps (·.queue) a := by
  refine keeps_of_perform (fun s holder => rfl) ?_
  rintro b rfl me s
  cases b with
  | pushTask | popTask | setClosed => exact absurd rfl h
  | claimStartup | openWindow => simp only [Access.perform]; split <;> rfl
  | _ => rfl

section Sight

variable {w : ThreadId → Hold} {P Q : System} {h : List Event} {e : Event} {t : ThreadId}
  {k : Known}

/-- Whoever visits the queue holds the lock. -/
lemma Guarded.held_of_visit (hg : Guarded w P) (hstep : System.Step P e Q)
    (hrole : e.action.role = .visit) : (w e.thread).isHeld = true := by
  obtain ⟨w', hshift, -⟩ := hg.move hstep
  rw [hrole] at hshift
  cases hw : w e.thread <;> rw [hw] at hshift <;> first | rfl | cases hshift

/-- While a thread has the lock, nobody else visits the queue. -/
lemma Guarded.not_visit (hg : Guarded w P) (hstep : System.Step P e Q) (ht : e.thread ≠ t)
    (hheld : (w t).isHeld = true) : e.action.role ≠ .visit := by
  intro hrole
  have hholder := (hg.fits e.thread).holder (hg.held_of_visit hstep hrole)
  rw [(hg.fits t).holder hheld] at hholder
  exact ht (Option.some.inj hholder).symm

lemma Guarded.sight_step (hg : Guarded w P) (hstep : System.Step P e Q)
    (hs : Sight (w t) k P.shared.queue) :
    Sight ((w t).run (own t [e])) (Known.learns.run k (own t [e])) Q.shared.queue := by
  by_cases ht : e.thread = t
  · subst ht
    rw [own_cons_self rfl]
    obtain ⟨w', hshift, -⟩ := hg.move hstep
    have hw : (w e.thread).run [e] = w' := by simp [Hold.run, hshift]
    refine ⟨fun hw' => ?_, hs.fits.after hstep.effect⟩
    rw [own_nil, hw] at hw'
    exact blind_after hs.blind hshift hw'
  · rw [own_cons_other ht]
    refine ⟨hs.blind, ?_⟩
    by_cases hheld : (w t).isHeld = true
    · have hkept := keeps_queue (hg.not_visit hstep ht hheld) _ _ _ _ hstep.effect
      simp only at hkept
      rw [hkept]
      exact hs.fits
    · obtain ⟨hempty, hopen⟩ := hs.blind (by simpa using hheld)
      exact Known.fits_of_blind hempty hopen _

/-- **What a thread knows of the queue is true**, whatever the others do. -/
theorem Guarded.sight (hg : Guarded w P) (hrun : System.Run P h Q)
    (hs : Sight (w t) k P.shared.queue) :
    Sight ((w t).run (own t h)) (Known.learns.run k (own t h)) Q.shared.queue := by
  refine hrun.invariant (I := fun h Q =>
    Sight ((w t).run (own t h)) (Known.learns.run k (own t h)) Q.shared.queue) hs ?_ ?_
  · intro g R e R' hR ih hstep
    rw [own_append, Conduct.run_append, Hold.run, List.foldl_append]
    exact (hg.run hR).sight_step hstep ih
  · intro g R R' _ ih hlook
    obtain ⟨holder, hshared⟩ := hlook.shared
    rw [hshared]
    exact ih

/-- Whoever knows nothing makes no mistake. -/
lemma sight_nothing (v : Hold) (q : Queue) : Sight v {} q where
  blind _ := ⟨rfl, rfl⟩
  fits := Known.fits_of_blind rfl rfl q

end Sight

end ExternalCompiler
