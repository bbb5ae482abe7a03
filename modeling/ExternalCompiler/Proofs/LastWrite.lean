/-
What was written last:

* `lastWrite`: the value after a list of steps that write it or leave it alone;
  `lastWrite_cases`: nothing was written, or the last write decides;
  `lastWrite_of_prefix_iff`: when a value is never left;
* `WrittenBy`: the events of threads write a view of the state, or leave it alone;
* `System.Run.written`, `Nest.Run.written`: the last write of a run decides what the view shows.
-/
import Mathlib.Data.List.Induction
import ExternalCompiler.Proofs.Callbacks

namespace ExternalCompiler

/-! ### Lists of steps -/

section List

variable {α β : Type} {w : α → Option β} {b : β} {l : List α}

/-- The value after some steps, where `w` says what a step writes: the last write decides. -/
def lastWrite (w : α → Option β) (b : β) (l : List α) : β :=
  l.foldl (fun b a => (w a).getD b) b

lemma lastWrite_append (b : β) (l l' : List α) :
    lastWrite w b (l ++ l') = lastWrite w (lastWrite w b l) l' :=
  List.foldl_append

lemma lastWrite_concat (b : β) (l : List α) (a : α) :
    lastWrite w b (l ++ [a]) = (w a).getD (lastWrite w b l) :=
  lastWrite_append b l [a]

/-- What was written before a write does not matter. -/
lemma lastWrite_append_cons {a : α} {c : β} (ha : w a = some c) (l l' : List α) :
    lastWrite w b (l ++ a :: l') = lastWrite w c l' := by
  rw [lastWrite_append, lastWrite, List.foldl_cons, ha, Option.getD_some, lastWrite]

/-- Either nothing was written, or there is a last write. -/
lemma lastWrite_cases (w : α → Option β) (b : β) (l : List α) :
    (lastWrite w b l = b ∧ ∀ a ∈ l, w a = none) ∨
      ∃ k a k' c, l = k ++ a :: k' ∧ w a = some c ∧ (∀ a' ∈ k', w a' = none) ∧
        lastWrite w b l = c := by
  induction l using List.reverseRecOn with
  | nil => exact .inl ⟨rfl, by simp⟩
  | append_singleton l a ih =>
      cases ha : w a with
      | some c => exact .inr ⟨l, a, [], c, rfl, ha, by simp, by rw [lastWrite_concat, ha]; rfl⟩
      | none =>
          have hlast : lastWrite w b (l ++ [a]) = lastWrite w b l := by
            rw [lastWrite_concat, ha, Option.getD_none]
          rw [hlast]
          obtain ⟨hb, hnone⟩ | ⟨k, a', k', c, rfl, ha', hnone, hc⟩ := ih
          · refine .inl ⟨hb, fun x hx => ?_⟩
            rcases List.mem_append.mp hx with hx | hx
            · exact hnone x hx
            · rwa [List.mem_singleton.mp hx]
          · refine .inr ⟨k, a', k' ++ [a], c, by simp, ha', fun x hx => ?_, hc⟩
            rcases List.mem_append.mp hx with hx | hx
            · exact hnone x hx
            · rwa [List.mem_singleton.mp hx]

/-- What holds of a value and of all that is written holds in the end. -/
lemma lastWrite_induct {p : β → Prop} (hb : p b) (hl : ∀ a ∈ l, ∀ c, w a = some c → p c) :
    p (lastWrite w b l) := by
  obtain ⟨hlast, -⟩ | ⟨k, a, k', c, rfl, ha, -, hlast⟩ := lastWrite_cases w b l
  · rwa [hlast]
  · rw [hlast]
    exact hl a (by simp) c ha

/-- A value is never left exactly when nothing else is written. -/
lemma lastWrite_of_prefix_iff :
    (∀ k, k <+: l → lastWrite w b k = b) ↔ ∀ a ∈ l, (w a).getD b = b := by
  induction l with
  | nil => simp [lastWrite]
  | cons a l ih =>
      rw [List.forall_mem_cons, ← ih]
      constructor
      · intro hkept
        have ha : (w a).getD b = b := hkept [a] ⟨l, rfl⟩
        refine ⟨ha, fun k hk => ?_⟩
        have hcons := hkept (a :: k) ((List.prefix_cons_inj a).mpr hk)
        rwa [lastWrite, List.foldl_cons, ha] at hcons
      · rintro ⟨ha, hkept⟩ k hk
        cases k with
        | nil => rfl
        | cons a' k =>
            obtain ⟨rfl, hk'⟩ := List.cons_prefix_cons.mp hk
            rw [lastWrite, List.foldl_cons, ha]
            exact hkept k hk'

end List

/-! ### Runs -/

section Runs

variable {β : Type} {v : Shared → β} {w : Event → Option β}

/-- The events of threads leave in a view of the state what `w` says, or leave it alone; the lock is
not part of the view. -/
structure WrittenBy (v : Shared → β) (w : Event → Option β) : Prop where
  effect : ∀ (e : Event) (s s' : Shared), Effect e.thread s e.action e.answer s' →
    v s' = (w e).getD (v s)
  lock : ∀ (s : Shared) (holder : Option ThreadId), v (s.setHolder holder) = v s

/-- **The last write of a run decides.** -/
theorem System.Run.written (hw : WrittenBy v w) {P Q : System} {h : List Event}
    (hrun : System.Run P h Q) : v Q.shared = lastWrite w (v P.shared) h := by
  refine hrun.invariant (I := fun h Q => v Q.shared = lastWrite w (v P.shared) h)
    rfl ?_ ?_
  · intro g R e R' _ hR hstep
    rw [hw.effect e R.shared R'.shared hstep.effect, hR, lastWrite_concat]
  · intro g R R' _ hR hlook
    obtain ⟨holder, hshared⟩ := hlook.shared
    rw [hshared, hw.lock, hR]

/-- The last write of a run decides also where calls call back. -/
theorem Nest.Run.written (hw : WrittenBy v w) {callback : Routine Unit → Prop} {N Q : Nest}
    {h : List Deed} (hrun : Nest.Run callback N h Q) :
    v Q.shared = lastWrite (fun d : Deed => w d.event) (v N.shared) h := by
  refine hrun.invariant (I := fun h Q => v Q.shared =
    lastWrite (fun d : Deed => w d.event) (v N.shared) h) rfl ?_ ?_
  · intro g K d K' hK hstep
    rw [hw.effect d.event K.shared K'.shared hstep.effect, hK, lastWrite_concat]
  · intro g K K' hK hmove
    rcases hmove.shared with hshared | ⟨holder, hshared⟩
    · rw [hshared, hK]
    · rw [hshared, hw.lock, hK]

end Runs

end ExternalCompiler
