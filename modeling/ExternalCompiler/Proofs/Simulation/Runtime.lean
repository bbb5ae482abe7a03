/-
The simulated external runtime among the surroundings of a run:

* `Call.simulated`, `Action.Simulated`: the answers that the simulated runtime gives;
  `simulated_play`: a schedule is played with them;
* `Action.runtimeCount?`, `Event.calls`: the calls that it counts;
* `RuntimeCalls.after`: its counts after a history; `get_after`: they are the numbers of the calls,
  modulo `2 ^ 64`.
-/
import ExternalCompiler.Simulation.World
import ExternalCompiler.Proofs.Counting
import ExternalCompiler.Proofs.Queue.Discipline

namespace ExternalCompiler

/-- The answer in a simulated world at its start. -/
def Call.simulated (c : Call) : c.Answer :=
  (({} : World).call c).1

/-- The simulated runtime gives this answer, if the action is a call of an external runtime. -/
def Action.Simulated : (a : Action) → a.Answer → Prop
  | .call c, x => (Action.call c).role = .outward → x = c.simulated
  | _, _ => True

/-- What is played with simulated answers has them. -/
lemma simulated_play (ts : List ThreadId) (P : System) :
    ∀ e ∈ (P.play Call.simulated ts).1, e.action.Simulated e.answer := by
  induction ts generalizing P with
  | nil => simp [System.play]
  | cons t rest ih =>
      rw [System.play]
      split
      · exact ih P
      next e Q hnext =>
        refine List.forall_mem_cons.mpr ⟨?_, ih Q⟩
        rw [System.next?] at hnext
        split at hnext
        · cases hnext
        · cases hnext
        · cases hnext
          trivial
        · split_ifs at hnext
          cases hnext
          trivial
        · split_ifs at hnext
          cases hnext
          trivial
        · cases hnext
          trivial
        · cases hnext
          exact fun _ => rfl

/-! ### Its counts -/

/-- The call of the external runtime that an action is, as it is counted there. -/
def Action.runtimeCount? : Action → Option RuntimeCount
  | .access (.countRuntime k) => some k
  | .call (.detach _ _) => some .detaches
  | .call (.repack _) => some .repacks
  | .call .bootstrapFinished => some .notifications
  | _ => none

/-- Counts the calls of one kind. -/
def Event.calls (k : RuntimeCount) (e : Event) : Nat :=
  if e.action.runtimeCount? = some k then 1 else 0

namespace RuntimeCalls

/-- One of the counts. -/
def get (r : RuntimeCalls) : RuntimeCount → UInt64
  | .attaches => r.attaches
  | .detaches => r.detaches
  | .repacks => r.repacks
  | .notifications => r.notifications

lemma get_count (r : RuntimeCalls) (k k' : RuntimeCount) :
    (r.count k).get k' = r.get k' + if k = k' then 1 else 0 := by
  cases k <;> cases k' <;> first | rfl | exact (UInt64.add_zero _).symm

/-- The counts after an action. -/
def note (r : RuntimeCalls) (a : Action) : RuntimeCalls :=
  match a.runtimeCount? with
  | some k => r.count k
  | none => r

lemma get_note (r : RuntimeCalls) (e : Event) (k : RuntimeCount) :
    (r.note e.action).get k = r.get k + UInt64.ofNat (e.calls k) := by
  rw [note, Event.calls]
  cases e.action.runtimeCount? with
  | none => simp
  | some k' =>
      rw [get_count]
      by_cases hk : k' = k <;> simp [hk]

/-- The counts after a history. -/
def after (r : RuntimeCalls) (h : List Event) : RuntimeCalls :=
  h.foldl (fun r e => r.note e.action) r

/-- The runtime counts its calls, modulo `2 ^ 64`. -/
lemma get_after (r : RuntimeCalls) (h : List Event) (k : RuntimeCount) :
    (r.after h).get k = r.get k + UInt64.ofNat (total (Event.calls k) h) := by
  induction h generalizing r with
  | nil => simp [after]
  | cons e h ih =>
      rw [total_cons, UInt64.ofNat_add, ← UInt64.add_assoc, ← get_note]
      exact ih _

end RuntimeCalls

end ExternalCompiler
