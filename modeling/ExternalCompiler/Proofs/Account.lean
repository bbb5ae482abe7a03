/-
Accounts: what a thread keeps track of where its actions are answered as expected.

* `Account`: a conduct, the answers that are expected, and what is to be true where a loop was not
  unrolled any further;
* `Routine.Meets`: a routine keeps to its account while the answers are the expected ones, with a
  rule for one routine after the other;
* `Account.Expected`: events with the expected answers; `Meets.leads`, `Meets.asked`, `Meets.kept`:
  what is left of a routine after them, what it asked for, and what it kept;
* `System.Run.expected`: the answers of a run are the expected ones if what is kept track of stays
  true.
-/
import ExternalCompiler.Proofs.Conduct

namespace ExternalCompiler

/-- A conduct with the answers that are expected. -/
structure Account (σ : Type) extends Conduct σ where
  /-- The answers that an action may get. -/
  expects : σ → (a : Action) → a.Answer → Prop
  /-- What is kept track of where a loop was not unrolled any further. -/
  halts : σ → Prop

variable {σ : Type} {A : Account σ} {k : σ}

/-- Events with the answers that are expected. -/
def Account.Expected (A : Account σ) : σ → List Event → Prop
  | _, [] => True
  | k, e :: es => A.expects k e.action e.answer ∧ A.Expected (A.after k e.action e.answer) es

namespace Routine

variable {α β : Type} {post : α → σ → Prop}

/-- A routine does an action only where its account allows it, ends with `post`, and is not unrolled
any further only where that is allowed, as long as the answers are the expected ones. -/
def Meets (A : Account σ) : Routine α → σ → (α → σ → Prop) → Prop
  | done a, k, post => post a k
  | act a next, k, post =>
      A.asks k a ∧ ∀ x, A.expects k a x → (next x).Meets A (A.after k a x) post
  | more, k, _ => A.halts k

lemma Meets.mono {r : Routine α} {post' : α → σ → Prop} (hr : r.Meets A k post)
    (h : ∀ a k', post a k' → post' a k') : r.Meets A k post' := by
  induction r generalizing k with
  | done a => exact h a k hr
  | act a next ih => exact ⟨hr.1, fun x hx => ih x (hr.2 x hx)⟩
  | more => exact hr

lemma Meets.bind {r : Routine α} {f : α → Routine β} {post' : β → σ → Prop}
    (hr : r.Meets A k post) (hf : ∀ a k', post a k' → (f a).Meets A k' post') :
    (r.bind f).Meets A k post' := by
  induction r generalizing k with
  | done a => exact hf a k hr
  | act a next ih => exact ⟨hr.1, fun x hx => ih x (hr.2 x hx)⟩
  | more => exact hr

/-- What is left of a routine keeps to the account, from what its events left. -/
lemma Meets.leads {r r' : Routine α} {es : List Event} (hr : r.Meets A k post)
    (h : r.Leads es r') (hes : A.Expected k es) : r'.Meets A (A.run k es) post := by
  induction h generalizing k with
  | refl r => exact hr
  | act t x s _ ih => exact ih (hr.2 x hes.1) hes.2

/-- Whatever the routine does is allowed. -/
lemma Meets.asked {r r' : Routine α} {es es' : List Event} {e : Event} (hr : r.Meets A k post)
    (h : r.Leads (es ++ e :: es') r') (hes : A.Expected k es) :
    A.asks (A.run k es) e.action := by
  induction es generalizing r k with
  | nil =>
      cases h with
      | act t x s h => exact hr.1
  | cons e' es ih =>
      cases h with
      | act t x s h => exact ih (hr.2 x hes.1) h hes.2

/-- What every allowed action keeps holds of what is kept track of. -/
lemma Meets.kept {I : σ → Prop} {r r' : Routine α} {es : List Event} (hr : r.Meets A k post)
    (h : r.Leads es r') (hes : A.Expected k es) (hstart : I k)
    (hstep : ∀ k a x, A.asks k a → I k → I (A.after k a x)) : I (A.run k es) := by
  induction h generalizing k with
  | refl r => exact hstart
  | act t x s _ ih => exact ih (hr.2 x hes.1) hes.2 (hstep _ _ x hr.1 hstart)

/-- What is always allowed and changes nothing that is kept track of keeps to the account, if it is
unrolled to its end. -/
lemma meets_of_still {r : Routine α} (hmore : A.halts k)
    (hr : r.Only fun a => ∀ k, A.asks k a ∧ ∀ x, A.after k a x = k) :
    r.Meets A k fun _ k' => k' = k := by
  induction r with
  | done a => rfl
  | act a next ih =>
      obtain ⟨hasks, hafter⟩ := hr.1 k
      refine ⟨hasks, fun x _ => ?_⟩
      rw [hafter]
      exact ih x (hr.2 x)
  | more => exact hmore

end Routine

/-- Where what a thread keeps track of is true at first, and stays true whoever acts, the thread
gets the expected answers. -/
theorem System.Run.expected {P Q : System} {h : List Event} {t : ThreadId}
    (truth : σ → Shared → Prop) (hrun : System.Run P h Q) (hstart : truth k P.shared)
    (hown : ∀ e ∈ h, e.thread = t → ∀ k s, truth k e.before →
      Effect t e.before e.action e.answer s →
        A.expects k e.action e.answer ∧ truth (A.after k e.action e.answer) s)
    (hothers : ∀ e ∈ h, e.thread ≠ t → ∀ k s, truth k e.before →
      Effect e.thread e.before e.action e.answer s → truth k s)
    (hlock : ∀ k s holder, truth k s → truth k (s.setHolder holder)) :
    A.Expected k (own t h) ∧ truth (A.run k (own t h)) Q.shared := by
  induction hrun generalizing k with
  | refl P => exact ⟨trivial, hstart⟩
  | @step P Q R e h hstep _ ih =>
      obtain ⟨howne, hownh⟩ := List.forall_mem_cons.mp hown
      obtain ⟨hotherse, hothersh⟩ := List.forall_mem_cons.mp hothers
      rw [← hstep.before] at hstart
      have heff : Effect e.thread e.before e.action e.answer Q.shared :=
        hstep.before ▸ hstep.effect
      by_cases ht : e.thread = t
      · rw [own_cons_self ht]
        obtain ⟨hexpects, htruth⟩ := howne ht k _ hstart (ht ▸ heff)
        obtain ⟨hes, hQ⟩ := ih htruth hownh hothersh
        exact ⟨⟨hexpects, hes⟩, hQ⟩
      · rw [own_cons_other ht]
        exact ih (hotherse ht k _ hstart heff) hownh hothersh
  | look hlook _ ih =>
      obtain ⟨holder, hshared⟩ := hlook.shared
      exact ih (hshared ▸ hlock k _ holder hstart) hown hothers

end ExternalCompiler
