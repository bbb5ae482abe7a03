/-
A thread that goes on alone, in surroundings that keep silent:

* `Event.Silent`, `System.silent_play`: events of silent surroundings;
* `Alone`: the events of a routine that nobody interrupts and whose calls are answered by
  `Call.silence`, with its result and the state that it leaves; it never has to wait for a lock;
* `Alone.bind`, `Alone.leads`, `Alone.run`: one routine after the other, and such events as a run;
* `Routine.Ends`: a routine ends so.
-/
import ExternalCompiler.Proofs.Interleaving

namespace ExternalCompiler

/-- The event is no call, or a call that was answered by silence. -/
def Event.Silent : Event → Prop
  | ⟨_, .call c, x, _⟩ => x = c.silence
  | _ => True

/-- What is played in silent surroundings is silent. -/
lemma System.silent_play (ts : List ThreadId) (P : System) :
    ∀ e ∈ (P.play Call.silence ts).1, e.Silent := by
  induction ts generalizing P with
  | nil => simp [System.play]
  | cons t rest ih =>
      rw [System.play]
      split
      · exact ih P
      next e Q hnext =>
        refine List.forall_mem_cons.mpr ⟨?_, ih Q⟩
        rw [System.next?] at hnext
        split at hnext
        · cases hnext
        · cases hnext
        · cases hnext
          trivial
        · split_ifs at hnext
          cases hnext
          trivial
        · split_ifs at hnext
          cases hnext
          trivial
        · cases hnext
          trivial
        · cases hnext
          rfl

variable {α β : Type} {me : ThreadId} {s s' s'' : Shared} {es es' : List Event} {a : α} {b : β}

/-- `Alone me r s es a s'`: from the state `s` the thread `me` runs the routine `r` to its end
without anybody else and in silent surroundings; its events are `es`, its result is `a`, and it
leaves the state `s'`. -/
inductive Alone (me : ThreadId) : Routine α → Shared → List Event → α → Shared → Prop
  | done (a : α) (s : Shared) : Alone me (.done a) s [] a s
  | access {b : Access} {next : b.Answer → Routine α} {s s' : Shared} {es : List Event} {a : α}
      (h : Alone me (next (b.perform me s).1) (b.perform me s).2 es a s') :
      Alone me (.act (.access b) next) s (⟨me, .access b, (b.perform me s).1, s⟩ :: es) a s'
  | sleep {millis : Nat} {next : Unit → Routine α} {s s' : Shared} {es : List Event} {a : α}
      (h : Alone me (next ()) s es a s') :
      Alone me (.act (.pause (.sleep millis)) next) s
        (⟨me, .pause (.sleep millis), (), s⟩ :: es) a s'
  | call {c : Call} {next : c.Answer → Routine α} {s s' : Shared} {es : List Event} {a : α}
      (h : Alone me (next c.silence) s es a s') :
      Alone me (.act (.call c) next) s (⟨me, .call c, c.silence, s⟩ :: es) a s'

namespace Alone

variable {r : Routine α} {f : α → Routine β}

lemma bind (h : Alone me r s es a s') (hf : Alone me (f a) s' es' b s'') :
    Alone me (r.bind f) s (es ++ es') b s'' := by
  induction h with
  | done a s => exact hf
  | access _ ih => exact .access (ih hf)
  | sleep _ ih => exact .sleep (ih hf)
  | call _ ih => exact .call (ih hf)

lemma leads (h : Alone me r s es a s') : r.Leads es (.done a) := by
  induction h with
  | done a s => exact .refl _
  | access _ ih => exact .act _ _ _ ih
  | sleep _ ih => exact .act _ _ _ ih
  | call _ ih => exact .act _ _ _ ih

lemma thread (h : Alone me r s es a s') : ∀ e ∈ es, e.thread = me := by
  induction h with
  | done a s => simp
  | access _ ih => exact List.forall_mem_cons.mpr ⟨rfl, ih⟩
  | sleep _ ih => exact List.forall_mem_cons.mpr ⟨rfl, ih⟩
  | call _ ih => exact List.forall_mem_cons.mpr ⟨rfl, ih⟩

lemma silent (h : Alone me r s es a s') : ∀ e ∈ es, e.Silent := by
  induction h with
  | done a s => simp
  | access _ ih => exact List.forall_mem_cons.mpr ⟨trivial, ih⟩
  | sleep _ ih => exact List.forall_mem_cons.mpr ⟨trivial, ih⟩
  | call _ ih => exact List.forall_mem_cons.mpr ⟨rfl, ih⟩

/-- What a thread does alone is a run of any system in which it can begin. -/
lemma run {P : System} {k : α → Routine Unit} (h : Alone me r P.shared es a s')
    (hthread : P.threads me = r.bind k) :
    System.Run P es ⟨s', Function.update P.threads me (k a)⟩ := by
  generalize hs : P.shared = s at h
  induction h generalizing P with
  | done a s =>
      have hsame : (⟨s, Function.update P.threads me (k a)⟩ : System) = P := by
        rw [← hs, Function.update_eq_self_iff.mpr hthread.symm]
      rw [hsame]
      exact .refl P
  | @access b next s s' es a h ih =>
      subst hs
      have hrest := ih (P := ⟨_, Function.update P.threads me ((next _).bind k)⟩)
        (Function.update_self _ _ _) rfl
      rw [Function.update_idem] at hrest
      exact .step (.act hthread (effect_access.mpr ⟨rfl, rfl⟩)) hrest
  | @sleep millis next s s' es a h ih =>
      subst hs
      have hrest := ih (P := ⟨P.shared, Function.update P.threads me ((next ()).bind k)⟩)
        (Function.update_self _ _ _) rfl
      rw [Function.update_idem] at hrest
      exact .step (.act hthread rfl) hrest
  | @call c next s s' es a h ih =>
      subst hs
      have hrest := ih (P := ⟨P.shared, Function.update P.threads me ((next c.silence).bind k)⟩)
        (Function.update_self _ _ _) rfl
      rw [Function.update_idem] at hrest
      exact .step (.act hthread rfl) hrest

end Alone

namespace Routine

/-- Alone and in silent surroundings, the thread `me` runs the routine from `s` to its end, with the
result `a`, and leaves the state `s'`. -/
def Ends (me : ThreadId) (r : Routine α) (s : Shared) (a : α) (s' : Shared) : Prop :=
  ∃ es, Alone me r s es a s'

lemma ends_done (a : α) (s : Shared) : (done a).Ends me s a s :=
  ⟨_, .done a s⟩

lemma ends_access (x : Access) (s : Shared) :
    (access x).Ends me s (x.perform me s).1 (x.perform me s).2 :=
  ⟨_, .access (.done _ _)⟩

lemma ends_sleep (millis : Nat) (s : Shared) : (pause (.sleep millis)).Ends me s () s :=
  ⟨_, .sleep (.done _ _)⟩

lemma ends_call (c : Call) (s : Shared) : (call c).Ends me s c.silence s :=
  ⟨_, .call (.done _ _)⟩

lemma Ends.bind {r : Routine α} {f : α → Routine β} (h : r.Ends me s a s')
    (hf : (f a).Ends me s' b s'') : (r.bind f).Ends me s b s'' := by
  obtain ⟨es, hes⟩ := h
  obtain ⟨es', hes'⟩ := hf
  exact ⟨es ++ es', hes.bind hes'⟩

end Routine

end ExternalCompiler
