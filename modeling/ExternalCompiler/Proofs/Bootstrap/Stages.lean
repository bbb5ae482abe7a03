/-
The stages of bootstraps on several threads:

* `Boots`: the programs that bootstrap any number of times and leave the flag and the window alone
  otherwise;
* `Stage`, `stage`: how far a thread is with its bootstrap, read off its events;
* `Follows`: what a program at a stage may still do; `follows_bootstrap`: a bootstrap keeps to it;
* `Passage`: what a step does to the stage of its thread, to the flag and to the window;
* `Orderly`, `orderly`: the window keeps the insides of bootstraps apart.
-/
import ExternalCompiler.Proofs.Bootstrap.Course

namespace ExternalCompiler

namespace Action

/-- The action is a point where a thread may have to wait. -/
def isPause : Action → Bool
  | .pause _ => true
  | _ => false

end Action

/-- Both brokers leave the flag and the window alone. -/
lemma queue_isNeutral : Broker.queue.Only (·.isNeutral = true) :=
  queue_only fun _ h => Action.isNeutral_of_isVisit h

/-- A program that bootstraps any number of times, with any configurations, methods and brokers,
and leaves the flag and the window alone otherwise. -/
inductive Boots : Routine Unit → Prop
  | done : Boots (.done ())
  | more : Boots .more
  | act {a : Action} {next : a.Answer → Routine Unit} (ha : a.isNeutral = true)
      (hnext : ∀ x, Boots (next x)) : Boots (.act a next)
  | boot {polls : Nat} {c : Config} {cancellable : Bool} {methods : List Method} {broker : Broker}
      {k : Except ServiceError (Option BootstrapReport) → Routine Unit}
      (hbroker : broker.Only (·.isNeutral = true)) (hk : ∀ x, Boots (k x)) :
      Boots ((Routine.bootstrap polls c cancellable methods broker).bind k)

/-! ### Stages of a bootstrap -/

/-- How far a thread is with its bootstrap. -/
inductive Stage
  /-- It runs no bootstrap, or has not opened its window yet. -/
  | outside
  /-- It opened the window. -/
  | claimed
  /-- It switched the flag off, and its window is open. -/
  | overriding (saved : Bool)
  /-- It broke off and put the flag back, and its window is open. -/
  | restored
  /-- It closed its window and has not put the flag back. -/
  | trailing (saved : Bool)
deriving DecidableEq

namespace Stage

/-- The value of the flag that a bootstrap has still to put back. -/
def saved? : Stage → Option Bool
  | overriding saved => some saved
  | trailing saved => some saved
  | _ => none

/-- The window is open for this bootstrap. -/
def isInside : Stage → Bool
  | claimed | overriding _ | restored => true
  | _ => false

/-- The stage after an event of the thread. -/
def after : Stage → Event → Stage
  | outside, ⟨_, .access .openWindow, true, _⟩ => claimed
  | claimed, ⟨_, .access (.swapFlag _), saved, _⟩ => overriding saved
  | overriding _, ⟨_, .access (.storeFlag _), _, _⟩ => restored
  | overriding saved, ⟨_, .access .closeWindow, _, _⟩ => trailing saved
  | restored, ⟨_, .access .closeWindow, _, _⟩ => outside
  | trailing _, ⟨_, .access (.storeFlag _), _, _⟩ => outside
  | σ, _ => σ

/-- What leaves the flag and the window alone leaves the stage as it is. -/
lemma after_of_isNeutral (σ : Stage) {e : Event} (h : e.action.isNeutral = true) :
    σ.after e = σ := by
  obtain ⟨t, a, x, s⟩ := e
  cases a with
  | access a =>
      cases a with
      | openWindow | closeWindow | storeFlag | swapFlag => cases h
      | _ => cases σ <;> rfl
  | pause p => cases σ <;> rfl
  | call c => cases σ <;> rfl

end Stage

/-- The stage of a thread after a history. -/
def stage (t : ThreadId) (h : List Event) : Stage :=
  (own t h).foldl Stage.after .outside

lemma stage_concat_self (h : List Event) (e : Event) :
    stage e.thread (h ++ [e]) = (stage e.thread h).after e := by
  rw [stage, own_append, own_cons_self rfl, List.foldl_append]
  rfl

lemma stage_append_other {t : ThreadId} (h : List Event) {es : List Event}
    (hes : ∀ e ∈ es, e.thread ≠ t) : stage t (h ++ es) = stage t h := by
  have hnil : own t es = [] := List.filter_eq_nil_iff.mpr fun e he => by simpa using hes e he
  rw [stage, own_append, hnil, List.append_nil, stage]

/-- An event moves the stage of its thread only. -/
lemma stage_concat (h : List Event) (e : Event) :
    (stage · (h ++ [e])) = Function.update (stage · h) e.thread ((stage e.thread h).after e) := by
  funext t
  by_cases ht : t = e.thread
  · subst ht
    rw [stage_concat_self, Function.update_self]
  · rw [Function.update_of_ne ht, stage_append_other]
    simpa using Ne.symm ht

/-! ### What a program may do at a stage -/

/-- `Follows σ r`: at the stage `σ` the program `r` goes on as bootstraps do: it goes through the
stages in their order, puts back what it saved, and never stops in the middle but inside its
window. -/
inductive Follows : Stage → Routine Unit → Prop
  | done : Follows .outside (.done ())
  | more {σ : Stage} (hσ : ∀ saved, σ ≠ .trailing saved) : Follows σ .more
  | neutral {σ : Stage} {a : Action} {next : a.Answer → Routine Unit} (ha : a.isNeutral = true)
      (hwait : ∀ saved, σ = .trailing saved → a.isPause = false)
      (hnext : ∀ x, Follows σ (next x)) : Follows σ (.act a next)
  | claim {next : Bool → Routine Unit} (hopened : Follows .claimed (next true))
      (hrefused : Follows .outside (next false)) :
      Follows .outside (.act (.access .openWindow) next)
  | take {next : Bool → Routine Unit}
      (hnext : ∀ saved, Follows (.overriding saved) (next saved)) :
      Follows .claimed (.act (.access (.swapFlag false)) next)
  | putBack {saved : Bool} {next : Unit → Routine Unit} (hnext : Follows .restored (next ())) :
      Follows (.overriding saved) (.act (.access (.storeFlag saved)) next)
  | close {next : Unit → Routine Unit} (hnext : Follows .outside (next ())) :
      Follows .restored (.act (.access .closeWindow) next)
  | release {saved : Bool} {next : Unit → Routine Unit}
      (hnext : Follows (.trailing saved) (next ())) :
      Follows (.overriding saved) (.act (.access .closeWindow) next)
  | finish {saved : Bool} {next : Unit → Routine Unit} (hnext : Follows .outside (next ())) :
      Follows (.trailing saved) (.act (.access (.storeFlag saved)) next)

section Follows

open Routine

variable {σ : Stage}

/-- What is neutral may come first, but for pauses and endless loops on the way to putting the flag
back. -/
lemma follows_bind {α : Type} {r : Routine α} {f : α → Routine Unit}
    (hσ : ∀ saved, σ ≠ .trailing saved) (hr : r.Only (·.isNeutral = true))
    (hf : ∀ a, Follows σ (f a)) : Follows σ (r.bind f) := by
  induction r with
  | done a => exact hf a
  | act a next ih =>
      exact .neutral hr.1 (fun saved h => absurd h (hσ saved)) fun x => ih x (hr.2 x)
  | more => exact .more hσ

/-- A bootstrap whose window is open. -/
lemma follows_withinWindow {polls : Nat} {print cancellable : Bool} {methods : List Method}
    {broker : Broker} {k : Except ServiceError BootstrapReport → Routine Unit}
    (hbroker : broker.Only (·.isNeutral = true)) (hk : ∀ x, Follows .outside (k x)) :
    Follows .claimed ((withinWindow polls print cancellable methods broker).bind k) := by
  have hinside := only_seedAndDrain (fun _ h => Action.isNeutral_of_isWatch h) hbroker polls print
    cancellable methods
  rw [withinWindow, bind_eq, access_bind, act_bind]
  refine .take fun saved => ?_
  rw [bind_eq, bind_assoc]
  refine follows_bind (by simp) hinside fun x => ?_
  cases x with
  | error e => exact .putBack (.close (hk _))
  | ok report =>
      refine .release (.neutral rfl (fun _ _ => rfl) fun told => ?_)
      cases told with
      | error e => exact .neutral rfl (fun _ _ => rfl) fun _ => .finish (hk _)
      | ok _ => exact .finish (hk _)

/-- A bootstrap keeps to the stages. -/
lemma follows_bootstrap {polls : Nat} {c : Config} {cancellable : Bool} {methods : List Method}
    {broker : Broker} {k : Except ServiceError (Option BootstrapReport) → Routine Unit}
    (hbroker : broker.Only (·.isNeutral = true)) (hk : ∀ x, Follows .outside (k x)) :
    Follows .outside ((bootstrap polls c cancellable methods broker).bind k) := by
  rw [bootstrap]
  split
  · exact hk _
  · rw [bind_eq, access_bind, act_bind]
    refine .claim ?_ (hk _)
    rw [if_pos rfl, bind_eq, bind_assoc]
    refine follows_withinWindow hbroker fun x => ?_
    cases x <;> exact hk _

lemma follows_of_boots {r : Routine Unit} (h : Boots r) : Follows .outside r := by
  induction h with
  | done => exact .done
  | more => exact .more (by simp)
  | act ha _ ih => exact .neutral ha (by simp) ih
  | boot hbroker _ ih => exact follows_bootstrap hbroker ih

/-- What a step does to the stage of its thread, to the flag and to the window. -/
inductive Passage : Stage → Shared → Stage → Shared → Prop
  | stay {σ : Stage} {s s' : Shared} (hflag : s'.compileTheWorld = s.compileTheWorld)
      (hwindow : s'.service.isBootstrapping = s.service.isBootstrapping) : Passage σ s σ s'
  | opened {s s' : Shared} (hflag : s'.compileTheWorld = s.compileTheWorld)
      (hclosed : s.service.isBootstrapping = false) (hopen : s'.service.isBootstrapping = true) :
      Passage .outside s .claimed s'
  | taken {s s' : Shared} (hflag : s'.compileTheWorld = false)
      (hwindow : s'.service.isBootstrapping = s.service.isBootstrapping) :
      Passage .claimed s (.overriding s.compileTheWorld) s'
  | putBack {s s' : Shared} {saved : Bool} (hflag : s'.compileTheWorld = saved)
      (hwindow : s'.service.isBootstrapping = s.service.isBootstrapping) :
      Passage (.overriding saved) s .restored s'
  | closed {s s' : Shared} (hflag : s'.compileTheWorld = s.compileTheWorld) :
      Passage .restored s .outside s'
  | released {s s' : Shared} {saved : Bool} (hflag : s'.compileTheWorld = s.compileTheWorld) :
      Passage (.overriding saved) s (.trailing saved) s'
  | finished {s s' : Shared} {saved : Bool} (hflag : s'.compileTheWorld = saved)
      (hwindow : s'.service.isBootstrapping = s.service.isBootstrapping) :
      Passage (.trailing saved) s .outside s'

/-- A program that keeps to the stages passes on to the stage after its event, and keeps to the
stages from there. -/
lemma Follows.step {a : Action} {next : a.Answer → Routine Unit} {t : ThreadId} {x : a.Answer}
    {s s' : Shared} (h : Follows σ (.act a next)) (heff : Effect t s a x s') :
    Passage σ s (σ.after ⟨t, a, x, s⟩) s' ∧ Follows (σ.after ⟨t, a, x, s⟩) (next x) := by
  cases h with
  | neutral ha hwait hnext =>
      rw [Stage.after_of_isNeutral σ (e := ⟨t, a, x, s⟩) ha]
      simp only [Action.isNeutral, Bool.and_eq_true, Bool.not_eq_true'] at ha
      exact ⟨.stay (keeps_flag ha.1 _ _ _ _ heff) (keeps_window ha.2 _ _ _ _ heff), hnext x⟩
  | claim hopened hrefused =>
      obtain ⟨rfl, rfl⟩ := effect_access.mp heff
      cases hwindow : s.service.isBootstrapping with
      | true =>
          simp only [Access.perform, hwindow, if_true]
          exact ⟨.stay rfl rfl, hrefused⟩
      | false =>
          simp only [Access.perform, hwindow, if_false, Bool.false_eq_true]
          exact ⟨.opened rfl hwindow rfl, hopened⟩
  | take hnext =>
      obtain ⟨rfl, rfl⟩ := effect_access.mp heff
      exact ⟨.taken rfl rfl, hnext _⟩
  | putBack hnext =>
      obtain ⟨-, rfl⟩ := effect_access.mp heff
      exact ⟨.putBack rfl rfl, hnext⟩
  | close hnext =>
      obtain ⟨-, rfl⟩ := effect_access.mp heff
      exact ⟨.closed rfl, hnext⟩
  | release hnext =>
      obtain ⟨-, rfl⟩ := effect_access.mp heff
      exact ⟨.released rfl, hnext⟩
  | finish hnext =>
      obtain ⟨-, rfl⟩ := effect_access.mp heff
      exact ⟨.finished rfl rfl, hnext⟩

end Follows

/-! ### The window keeps the insides apart -/

/-- Every thread keeps to its stage, and the window is open for at most one of them. -/
structure Orderly (σ : ThreadId → Stage) (P : System) : Prop where
  follows : ∀ t, Follows (σ t) (P.threads t)
  inside : ∀ t, (σ t).isInside = true → P.shared.service.isBootstrapping = true
  alone : ∀ t u, (σ t).isInside = true → (σ u).isInside = true → t = u

section Orderly

variable {σ : ThreadId → Stage} {P Q : System} {e : Event}

/-- The step of an orderly thread is a passage. -/
lemma Orderly.passage (h : Orderly σ P) (hstep : System.Step P e Q) :
    Passage (σ e.thread) P.shared ((σ e.thread).after e) Q.shared ∧
      Follows ((σ e.thread).after e) (Q.threads e.thread) := by
  cases hstep with
  | @act t a next x s hact heff =>
      have hfollows := h.follows t
      rw [hact] at hfollows
      simpa using hfollows.step heff

/-- A passage moves the inside of a bootstrap only with the window. -/
lemma Passage.inside {τ τ' : Stage} {s s' : Shared} (h : Passage τ s τ' s') :
    (τ'.isInside = τ.isInside ∧ s'.service.isBootstrapping = s.service.isBootstrapping) ∨
      (τ'.isInside = true ∧ s.service.isBootstrapping = false ∧
        s'.service.isBootstrapping = true) ∨
      (τ.isInside = true ∧ τ'.isInside = false) := by
  cases h with
  | stay _ hwindow => exact .inl ⟨rfl, hwindow⟩
  | opened _ hclosed hopen => exact .inr (.inl ⟨rfl, hclosed, hopen⟩)
  | taken _ hwindow => exact .inl ⟨rfl, hwindow⟩
  | putBack _ hwindow => exact .inl ⟨rfl, hwindow⟩
  | closed => exact .inr (.inr ⟨rfl, rfl⟩)
  | released => exact .inr (.inr ⟨rfl, rfl⟩)
  | finished _ hwindow => exact .inl ⟨rfl, hwindow⟩

/-- If the thread that acted is inside afterwards, the window is open and nobody else is inside. -/
lemma Orderly.alone_after (h : Orderly σ P) (hstep : System.Step P e Q)
    (hin : ((σ e.thread).after e).isInside = true) :
    Q.shared.service.isBootstrapping = true ∧ ∀ u, (σ u).isInside = true → u = e.thread := by
  rcases (h.passage hstep).1.inside with ⟨hsame, hwindow⟩ | ⟨-, hclosed, hopen⟩ | ⟨-, hout⟩
  · rw [hsame] at hin
    exact ⟨hwindow.trans (h.inside _ hin), fun u hu => h.alone u _ hu hin⟩
  · exact ⟨hopen, fun u hu => absurd (h.inside u hu) (by simp [hclosed])⟩
  · rw [hout] at hin
    cases hin

/-- If another thread is inside, the window is still open after the step. -/
lemma Orderly.inside_after (h : Orderly σ P) (hstep : System.Step P e Q) {u : ThreadId}
    (hut : u ≠ e.thread) (hu : (σ u).isInside = true) :
    Q.shared.service.isBootstrapping = true := by
  rcases (h.passage hstep).1.inside with ⟨-, hwindow⟩ | ⟨-, -, hopen⟩ | ⟨hin, -⟩
  · exact hwindow.trans (h.inside u hu)
  · exact hopen
  · exact absurd (h.alone u _ hu hin) hut

lemma Orderly.step (h : Orderly σ P) (hstep : System.Step P e Q) :
    Orderly (Function.update σ e.thread ((σ e.thread).after e)) Q := by
  have hself : Function.update σ e.thread ((σ e.thread).after e) e.thread =
      (σ e.thread).after e := Function.update_self _ _ _
  have hother : ∀ u, u ≠ e.thread →
      Function.update σ e.thread ((σ e.thread).after e) u = σ u :=
    fun u hu => Function.update_of_ne hu _ _
  refine ⟨fun u => ?_, fun u hu => ?_, fun u v hu hv => ?_⟩
  · by_cases hut : u = e.thread
    · rw [hut, hself]
      exact (h.passage hstep).2
    · rw [hother u hut, hstep.threads_other (Ne.symm hut)]
      exact h.follows u
  · by_cases hut : u = e.thread
    · rw [hut, hself] at hu
      exact (h.alone_after hstep hu).1
    · rw [hother u hut] at hu
      exact h.inside_after hstep hut hu
  · by_cases hut : u = e.thread <;> by_cases hvt : v = e.thread
    · exact hut.trans hvt.symm
    · rw [hut, hself] at hu
      rw [hother v hvt] at hv
      exact hut.trans ((h.alone_after hstep hu).2 v hv).symm
    · rw [hother u hut] at hu
      rw [hvt, hself] at hv
      exact ((h.alone_after hstep hv).2 u hu).trans hvt.symm
    · rw [hother u hut] at hu
      rw [hother v hvt] at hv
      exact h.alone u v hu hv

/-- Looks at the queue change neither stages nor the window. -/
lemma Orderly.look (h : Orderly σ P) (hlook : System.Look P Q) : Orderly σ Q := by
  obtain ⟨holder, hshared⟩ := hlook.shared
  refine ⟨fun t => ?_, fun t ht => ?_, h.alone⟩
  · rw [hlook.threads]
    exact h.follows t
  · rw [hshared]
    exact h.inside t ht

/-- In every run of programs that bootstrap, the window keeps the insides apart. -/
theorem orderly {h : List Event} (hboots : ∀ t, Boots (P.threads t)) (hrun : System.Run P h Q) :
    Orderly (stage · h) Q := by
  refine hrun.invariant (I := fun h Q => Orderly (stage · h) Q) ?_ ?_ ?_
  · refine ⟨fun t => follows_of_boots (hboots t), ?_, ?_⟩
    · rintro t ⟨⟩
    · rintro t u ⟨⟩
  · intro g R e R' _ hR hstep
    rw [stage_concat]
    exact hR.step hstep
  · exact fun g R R' _ hR hlook => hR.look hlook

end Orderly

end ExternalCompiler
