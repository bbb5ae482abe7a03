/-
Conduct: what a thread keeps track of along its actions, and when it may do an action.

* `Conduct`: how an answered action changes what is kept track of, and what an action asks for;
  `Conduct.run`: what is kept track of after some events;
* `Routine.Heeds`: a routine does an action only where its conduct allows it, with a rule for one
  routine after the other;
* `Heeds.asked`, `System.Run.asked`: so does a thread in every run.
-/
import ExternalCompiler.Proofs.Interleaving

namespace ExternalCompiler

/-- What a thread keeps track of, and what it must be for an action. -/
structure Conduct (σ : Type) where
  /-- What is kept track of after an action was answered. -/
  after : σ → (a : Action) → a.Answer → σ
  /-- When an action is allowed. -/
  asks : σ → Action → Prop

variable {σ : Type} {C : Conduct σ} {k : σ}

/-- What is kept track of after some events. -/
def Conduct.run (C : Conduct σ) (k : σ) (es : List Event) : σ :=
  es.foldl (fun k e => C.after k e.action e.answer) k

lemma Conduct.run_append (k : σ) (es es' : List Event) :
    C.run k (es ++ es') = C.run (C.run k es) es' :=
  List.foldl_append

namespace Routine

variable {α β : Type} {post : α → σ → Prop}

/-- A routine does an action only where the conduct allows it, and ends with `post`. -/
def Heeds (C : Conduct σ) : Routine α → σ → (α → σ → Prop) → Prop
  | done a, k, post => post a k
  | act a next, k, post => C.asks k a ∧ ∀ x, (next x).Heeds C (C.after k a x) post
  | more, _, _ => True

lemma Heeds.mono {r : Routine α} {post' : α → σ → Prop} (hr : r.Heeds C k post)
    (h : ∀ a k', post a k' → post' a k') : r.Heeds C k post' := by
  induction r generalizing k with
  | done a => exact h a k hr
  | act a next ih => exact ⟨hr.1, fun x => ih x (hr.2 x)⟩
  | more => trivial

lemma Heeds.bind {r : Routine α} {f : α → Routine β} {post' : β → σ → Prop}
    (hr : r.Heeds C k post) (hf : ∀ a k', post a k' → (f a).Heeds C k' post') :
    (r.bind f).Heeds C k post' := by
  induction r generalizing k with
  | done a => exact hf a k hr
  | act a next ih => exact ⟨hr.1, fun x => ih x (hr.2 x)⟩
  | more => trivial

/-- A single access that is allowed. -/
lemma heeds_access {a : Access} (ha : C.asks k (.access a)) :
    (access a).Heeds C k fun x k' => k' = C.after k (.access a) x :=
  ⟨ha, fun _ => rfl⟩

/-- What is always allowed may be done. -/
lemma heeds_of_only {r : Routine α} (hr : r.Only fun a => ∀ k, C.asks k a) :
    r.Heeds C k fun _ _ => True := by
  induction r generalizing k with
  | done a => trivial
  | act a next ih => exact ⟨hr.1 k, fun x => ih x (hr.2 x)⟩
  | more => trivial

/-- What is always allowed and changes nothing that is kept track of may be done. -/
lemma heeds_of_still {r : Routine α}
    (hr : r.Only fun a => ∀ k, C.asks k a ∧ ∀ x, C.after k a x = k) :
    r.Heeds C k fun _ k' => k' = k := by
  induction r with
  | done a => rfl
  | act a next ih =>
      obtain ⟨hasks, hafter⟩ := hr.1 k
      refine ⟨hasks, fun x => ?_⟩
      rw [hafter]
      exact ih x (hr.2 x)
  | more => trivial

/-- What is left of a heedful routine is heedful, from what its events left. -/
lemma Heeds.leads {r r' : Routine α} {es : List Event} (hr : r.Heeds C k post)
    (h : r.Leads es r') : r'.Heeds C (C.run k es) post := by
  induction h generalizing k with
  | refl r => exact hr
  | act t x s _ ih => exact ih (hr.2 x)

/-- Whatever a heedful routine does is allowed. -/
lemma Heeds.asked {r r' : Routine α} {es es' : List Event} {e : Event} (hr : r.Heeds C k post)
    (h : r.Leads (es ++ e :: es') r') : C.asks (C.run k es) e.action := by
  induction es generalizing r k with
  | nil =>
      cases h with
      | act t x s h => exact hr.1
  | cons e' es ih =>
      cases h with
      | act t x s h => exact ih (hr.2 x) h

end Routine

/-- Whatever a heedful thread of a run does next is allowed. -/
lemma System.Run.asked {P R Q : System} {h : List Event} {e : Event} {post : Unit → σ → Prop}
    (hrun : System.Run P h R) (hstep : System.Step R e Q)
    (hheeds : (P.threads e.thread).Heeds C k post) :
    C.asks (C.run k (own e.thread h)) e.action := by
  have hleads := (hrun.trans (.step hstep (.refl Q))).leads e.thread
  rw [own_append, own_cons_self rfl] at hleads
  exact hheeds.asked hleads

end ExternalCompiler
