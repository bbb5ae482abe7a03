/-
What is counted along a history:

* `total`: the sum of a number for each event; `sum_total_own`: the threads of a crew make up the
  whole if the others count nothing; `Conduct.total_run`: what is kept track of step by step is such
  a sum;
* `Event.added`: what an event adds to a counter; `System.Run.counter`: a counter shows what was
  added to it, modulo `2 ^ 64`;
* `departures`: the tasks that left the queue, with the threads that took them.
-/
import Mathlib.Algebra.BigOperators.Group.Finset.Basic
import Mathlib.Algebra.BigOperators.Group.Finset.Piecewise
import Mathlib.Algebra.BigOperators.Ring.Finset
import ExternalCompiler.Proofs.Conduct
import ExternalCompiler.Proofs.Queue.Conservation

namespace ExternalCompiler

/-! ### Totals -/

/-- The sum of a number for each event. -/
def total (f : Event → Nat) (h : List Event) : Nat :=
  (h.map f).sum

section Total

variable {f : Event → Nat} {h : List Event}

@[simp] lemma total_nil : total f [] = 0 := rfl

@[simp] lemma total_cons (e : Event) (h : List Event) : total f (e :: h) = f e + total f h :=
  List.sum_cons

@[simp] lemma total_append (h h' : List Event) : total f (h ++ h') = total f h + total f h' := by
  simp [total]

/-- What each thread of a crew counts for itself adds up to the whole, if the others count
nothing. -/
lemma sum_total_own (crew : Finset ThreadId) (hothers : ∀ e ∈ h, e.thread ∉ crew → f e = 0) :
    ∑ t ∈ crew, total f (own t h) = total f h := by
  induction h with
  | nil => simp
  | cons e h ih =>
      obtain ⟨he, hh⟩ := List.forall_mem_cons.mp hothers
      have hown : ∀ t, total f (own t (e :: h)) =
          (if e.thread = t then f e else 0) + total f (own t h) := by
        intro t
        by_cases ht : e.thread = t
        · rw [own_cons_self ht, total_cons, if_pos ht]
        · rw [own_cons_other ht, if_neg ht, Nat.zero_add]
      rw [Finset.sum_congr rfl fun t _ => hown t, Finset.sum_add_distrib, ih hh,
        Finset.sum_ite_eq, total_cons]
      split
      · rfl
      next hcrew => rw [he hcrew]

lemma total_eq_zero (hnone : ∀ e ∈ h, f e = 0) : total f h = 0 := by
  refine List.sum_eq_zero fun n hn => ?_
  obtain ⟨e, he, rfl⟩ := List.mem_map.mp hn
  exact hnone e he

/-- How many events are of one kind. -/
lemma total_ite (p : Event → Bool) : total (fun e => if p e then 1 else 0) h = h.countP p := by
  induction h with
  | nil => rfl
  | cons e h ih => rw [total_cons, ih, List.countP_cons, Nat.add_comm]

/-- A number that grows with each event is at last what it was and the sum of its growth. -/
lemma Conduct.total_run {σ : Type} {C : Conduct σ} {g : σ → Nat}
    (hstep : ∀ k e, g (C.after k e.action e.answer) = g k + f e) (k : σ) (h : List Event) :
    g (C.run k h) = g k + total f h := by
  induction h generalizing k with
  | nil => rfl
  | cons e h ih =>
      rw [total_cons, ← Nat.add_assoc, ← hstep]
      exact ih _

end Total

/-! ### Counters -/

/-- What an event adds to a counter. -/
def Event.added (k : Counter) : Event → Nat
  | ⟨_, .access (.addCounter k' n), _, _⟩ => if k' = k then n.toNat else 0
  | _ => 0

lemma Counters.get_add (c : Counters) (k k' : Counter) (n : UInt64) :
    (c.add k n).get k' = c.get k' + if k = k' then n else 0 := by
  by_cases hk : k = k'
  · subst hk
    rw [if_pos rfl]
    rcases k with _ | _ | _ | ⟨_ | _⟩ | ⟨_ | _⟩ | ⟨_ | _⟩ | ⟨_ | _⟩ <;> rfl
  · rw [if_neg hk, UInt64.add_zero]
    rcases k with _ | _ | _ | ⟨_ | _⟩ | ⟨_ | _⟩ | ⟨_ | _⟩ | ⟨_ | _⟩ <;>
      rcases k' with _ | _ | _ | ⟨_ | _⟩ | ⟨_ | _⟩ | ⟨_ | _⟩ | ⟨_ | _⟩ <;>
        first | rfl | exact absurd rfl hk

/-- A counter moves by what is added to it. -/
lemma effect_counter {t : ThreadId} {a : Action} {x : a.Answer} {s s' : Shared}
    (h : Effect t s a x s') (k : Counter) :
    s'.service.counters.get k =
      s.service.counters.get k + UInt64.ofNat (Event.added k ⟨t, a, x, s⟩) := by
  rcases a with a | p | c
  · obtain ⟨-, rfl⟩ := effect_access.mp h
    cases a with
    | addCounter k' n =>
        simp only [Access.perform, Shared.onService, Counters.get_add, Event.added]
        split <;> simp
    | claimStartup | openWindow =>
        simp only [Access.perform]
        split <;> exact (UInt64.add_zero _).symm
    | _ => exact (UInt64.add_zero _).symm
  · cases p with
    | takeLock => exact h.2 ▸ (UInt64.add_zero _).symm
    | awaitWork seen millis => exact h.2.2 ▸ (UInt64.add_zero _).symm
    | sleep millis => exact h ▸ (UInt64.add_zero _).symm
  · exact h ▸ (UInt64.add_zero _).symm

/-- A counter shows what was added to it, modulo `2 ^ 64`. -/
theorem System.Run.counter {P Q : System} {h : List Event} (hr : System.Run P h Q) (k : Counter) :
    Q.shared.service.counters.get k =
      P.shared.service.counters.get k + UInt64.ofNat (total (Event.added k) h) := by
  induction hr with
  | refl P => simp
  | @step P Q R e h hstep _ ih =>
      have he : Q.shared.service.counters.get k =
          P.shared.service.counters.get k + UInt64.ofNat (e.added k) := by
        have heff := effect_counter hstep.effect k
        cases hstep
        exact heff
      rw [ih, he, total_cons, UInt64.ofNat_add, UInt64.add_assoc]
  | look hlook _ ih =>
      obtain ⟨holder, hshared⟩ := hlook.shared
      rw [hshared] at ih
      exact ih

/-- A counter shows what was added to it, if that fits into a word. -/
lemma System.Run.toNat_counter {P Q : System} {h : List Event} (hr : System.Run P h Q)
    {k : Counter}
    (hfits : (P.shared.service.counters.get k).toNat + total (Event.added k) h < 2 ^ 64) :
    (Q.shared.service.counters.get k).toNat =
      (P.shared.service.counters.get k).toNat + total (Event.added k) h := by
  rw [hr.counter k, UInt64.toNat_add, UInt64.toNat_ofNat', ← Nat.add_mod_mod, Nat.mod_mod,
    Nat.add_mod_mod]
  exact Nat.mod_eq_of_lt hfits

/-! ### Departures -/

/-- The tasks that were taken out of the queue, each with the thread that took it. -/
def departures (h : List Event) : List (ThreadId × CompileTask) :=
  h.filterMap fun e => e.popped?.map (e.thread, ·)

lemma map_snd_departures (h : List Event) : (departures h).map (·.2) = popped h := by
  simp [departures, popped, List.map_filterMap, Function.comp_def]

lemma departures_cons (e : Event) (h : List Event) :
    departures (e :: h) = (e.popped?.map (e.thread, ·)).toList ++ departures h := by
  cases he : e.popped? <;> simp [departures, he]

/-- What a thread took out of the queue. -/
lemma popped_own (t : ThreadId) (h : List Event) :
    popped (own t h) = ((departures h).filter (·.1 = t)).map (·.2) := by
  induction h with
  | nil => rfl
  | cons e h ih =>
      rw [departures_cons, List.filter_append, List.map_append, ← ih]
      by_cases ht : e.thread = t
      · rw [own_cons_self ht, popped_cons]
        cases e.popped? <;> simp [ht]
      · rw [own_cons_other ht]
        cases e.popped? <;> simp [ht]

end ExternalCompiler
