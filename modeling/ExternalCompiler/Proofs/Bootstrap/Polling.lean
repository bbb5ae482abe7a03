/-
Where a bootstrap stops to wait for its queue:

* `Surroundings`: someone who answers every action of a routine and counts the polls;
  `Surroundings.Ends`, `Surroundings.StillPolling`: with so many polls begun, a routine is done, or
  was not unrolled any further; `Surroundings.During`: a routine is done within the same poll;
* `Polls`: what a sequence of polls finds; `Polls.surroundings`: every sequence can be found;
* `Polls.StopsAt`: the poll at which waiting ends, and how;
* `Polls.judge`, `Surroundings.Shows.poll`: what a single poll decides;
  `Polls.Reaches`, `Surroundings.Shows.rounds`: what holds from poll to poll, and where it leads;
* `drain_stops`: waiting ends at this poll and not before, and never if there is none.
-/
import Mathlib.Order.Bounds.Basic
import Mathlib.Tactic.Lemma
import ExternalCompiler.Bootstrap

namespace ExternalCompiler

variable {α β σ : Type}

/-! ### Surroundings -/

/-- The action is the sleep that a poll begins with. -/
def Action.beginsPoll : Action → Bool
  | .pause (.sleep millis) => millis == Routine.pollMillis
  | _ => false

/-- Someone who answers every action and remembers how many polls were begun. -/
structure Surroundings (σ : Type) where
  answer : (a : Action) → StateM σ a.Answer
  begun : σ → Nat
  counts : ∀ a k, begun ((answer a).run k).2 = if a.beginsPoll then begun k + 1 else begun k

namespace Surroundings

variable {S : Surroundings σ} {r : Routine α} {f : α → Routine β} {k k' : σ} {a : α} {i n : Nat}
  {q : α → Prop} {q' : β → Prop}

/-- The routine is done with a result that satisfies `q`, after `n` polls were begun. -/
def Ends (S : Surroundings σ) (r : Routine α) (k : σ) (n : Nat) (q : α → Prop) : Prop :=
  ∃ a k', (r.run S.answer).run k = (some a, k') ∧ S.begun k' = n ∧ q a

/-- The routine is not done when `n` polls were begun. -/
def StillPolling (S : Surroundings σ) (r : Routine α) (k : σ) (n : Nat) : Prop :=
  ∃ k', (r.run S.answer).run k = (none, k') ∧ S.begun k' = n

/-- A routine that runs when `i` polls were begun is done before another one begins, with a result
that satisfies `q`. -/
def During (S : Surroundings σ) (i : Nat) (r : Routine α) (q : α → Prop) : Prop :=
  ∀ k, S.begun k = i → S.Ends r k i q

lemma run_bind (h : (r.run S.answer).run k = (some a, k')) :
    ((r.bind f).run S.answer).run k = ((f a).run S.answer).run k' := by
  induction r generalizing k with
  | done b =>
      cases h
      rfl
  | act b next ih => exact ih _ h
  | more => cases (Prod.mk.inj h).1

lemma Ends.of_run {m : Nat} {r' : Routine α} (h : S.Ends r k' m q)
    (hrun : (r'.run S.answer).run k = (r.run S.answer).run k') : S.Ends r' k m q := by
  rwa [Ends, hrun]

lemma StillPolling.of_run {m : Nat} {r' : Routine α} (h : S.StillPolling r k' m)
    (hrun : (r'.run S.answer).run k = (r.run S.answer).run k') : S.StillPolling r' k m := by
  rwa [StillPolling, hrun]

lemma StillPolling.bind (h : S.StillPolling r k n) : S.StillPolling (r.bind f) k n := by
  induction r generalizing k with
  | done b =>
      obtain ⟨k', hrun, -⟩ := h
      cases hrun
  | act b next ih => exact ih _ h
  | more =>
      obtain ⟨k', hrun, hk'⟩ := h
      cases hrun
      exact ⟨k, rfl, hk'⟩

lemma during_done (h : q a) : S.During i (.done a) q :=
  fun k hk => ⟨a, k, rfl, hk, h⟩

/-- One routine after the other. -/
lemma During.bind (h : S.During i r q) (hf : ∀ a, q a → S.During i (f a) q') :
    S.During i (r.bind f) q' := by
  intro k hk
  obtain ⟨a, k', hrun, hk', ha⟩ := h k hk
  exact (hf a ha k' hk').of_run (run_bind hrun)

/-- First one routine ends, then another one goes on polling. -/
lemma During.polling (h : S.During i r q)
    (hf : ∀ a, q a → ∀ k, S.begun k = i → S.StillPolling (f a) k n) :
    ∀ k, S.begun k = i → S.StillPolling (r.bind f) k n := by
  intro k hk
  obtain ⟨a, k', hrun, hk', ha⟩ := h k hk
  exact (hf a ha k' hk').of_run (run_bind hrun)

/-- An access begins no poll, whatever it answers. -/
lemma during_access (b : Access) : S.During i (.access b) fun _ => True :=
  fun k hk => ⟨_, _, rfl, (S.counts (.access b) k).trans hk, trivial⟩

/-- A call begins no poll, whatever it answers. -/
lemma during_call (c : Call) : S.During i (.call c) fun _ => True :=
  fun k hk => ⟨_, _, rfl, (S.counts (.call c) k).trans hk, trivial⟩

end Surroundings

/-! ### Polls -/

/-- What each poll of a sequence finds: how many tasks wait at the top tier, whether the bootstrap
was cancelled by then, and whether a request was handled. -/
structure Polls where
  size : Nat → Nat
  isCancelled : Nat → Bool
  isHandled : Nat → Bool

/-- How the wait for the queue ends. -/
inductive DrainEnd
  | drained
  | cancelled (pending : Nat)

/-- The result says how the wait ended. -/
def DrainEnd.Tells : DrainEnd → Except ServiceError Unit → Prop
  | drained, x => x = .ok ()
  | cancelled pending, x => ∃ elapsed, x = .error (.bootstrapCancelled elapsed pending)

namespace Polls

variable {p : Polls} {i j f d : Nat} {e e' : DrainEnd}

/-- The first sign of a seed: a task waits, or one was handled. -/
def FirstSign (p : Polls) (f : Nat) : Prop :=
  IsLeast {i | 0 < p.size i ∨ p.isHandled i = true} f

/-- The first poll that finds the tier empty, from the first sign of a seed on. -/
def Drains (p : Polls) (d : Nat) : Prop :=
  ∃ f, p.FirstSign f ∧ IsLeast {i | f ≤ i ∧ p.size i = 0} d

/-- The first poll that finds the bootstrap cancelled. -/
def Cancels (p : Polls) (c : Nat) : Prop :=
  IsLeast {i | p.isCancelled i = true} c

/-- The poll at which the wait ends: a cancellation counts before an empty tier. -/
def StopsAt (p : Polls) (i : Nat) : DrainEnd → Prop
  | .drained => p.Drains i ∧ ∀ c, p.Cancels c → i < c
  | .cancelled pending => p.Cancels i ∧ pending = p.size i ∧ ∀ d, p.Drains d → i ≤ d

lemma Drains.unique (h : p.Drains i) (h' : p.Drains j) : i = j := by
  obtain ⟨f, hf, hi⟩ := h
  obtain ⟨f', hf', hj⟩ := h'
  obtain rfl := hf.unique hf'
  exact hi.unique hj

lemma StopsAt.unique (h : p.StopsAt i e) (h' : p.StopsAt j e') : i = j ∧ e = e' := by
  cases e <;> cases e'
  case drained.drained => exact ⟨h.1.unique h'.1, rfl⟩
  case drained.cancelled => exact absurd (h.2 j h'.1) (Nat.not_lt.mpr (h'.2.2 i h.1))
  case cancelled.drained => exact absurd (h'.2 i h.1) (Nat.not_lt.mpr (h.2.2 j h'.1))
  case cancelled.cancelled =>
      obtain rfl := h.1.unique h'.1
      exact ⟨rfl, by rw [h.2.1, h'.2.1]⟩

/-- A cancellation, or a tier that drains, ends the wait at some poll. -/
lemma exists_stopsAt (h : p.Cancels i ∨ p.Drains i) : ∃ j e, p.StopsAt j e := by
  -- the earlier of the two decides, and the cancellation if they meet
  by_cases hc : ∃ c, p.Cancels c ∧ ∀ d, p.Drains d → c ≤ d
  · obtain ⟨c, hc, hle⟩ := hc
    exact ⟨c, .cancelled (p.size c), hc, rfl, hle⟩
  · obtain ⟨d, hd⟩ : ∃ d, p.Drains d := by
      by_contra hnone
      obtain hi | hi := h
      · exact hc ⟨i, hi, fun d hd => absurd ⟨d, hd⟩ hnone⟩
      · exact hnone ⟨i, hi⟩
    refine ⟨d, .drained, hd, fun c hcancel => ?_⟩
    by_contra hle
    refine hc ⟨c, hcancel, fun d' hd' => ?_⟩
    rw [← hd.unique hd']
    exact Nat.not_lt.mp hle

/-- After the first sign of a seed it does not matter any more what was handled. -/
lemma stopsAt_congr {q : Polls} (hsize : q.size = p.size) (hcancel : q.isCancelled = p.isCancelled)
    (hf : p.FirstSign f) (hhandled : ∀ j ≤ f, q.isHandled j = p.isHandled j) :
    q.StopsAt i e ↔ p.StopsAt i e := by
  have hf' : q.FirstSign f := by
    refine ⟨?_, fun j hj => ?_⟩
    · have hsign : 0 < p.size f ∨ p.isHandled f = true := hf.1
      rwa [← hsize, ← hhandled f le_rfl] at hsign
    · by_contra hlt
      have hsign : 0 < q.size j ∨ q.isHandled j = true := hj
      rw [hsize, hhandled j (by omega)] at hsign
      exact hlt (hf.2 hsign)
  have hdrains : ∀ d, q.Drains d ↔ p.Drains d := by
    intro d
    constructor
    · rintro ⟨f', hf'', hd⟩
      obtain rfl := hf'.unique hf''
      exact ⟨f, hf, by rwa [← hsize]⟩
    · rintro ⟨f', hf'', hd⟩
      obtain rfl := hf.unique hf''
      exact ⟨f, hf', by rwa [hsize]⟩
  cases e <;> simp only [StopsAt, Cancels, hdrains, hsize, hcancel]

/-- Where no task ever waits and none is handled, the wait has no end. -/
lemma endless_of_quiet
    (h : ∀ i, p.size i = 0 ∧ p.isCancelled i = false ∧ p.isHandled i = false) :
    ∀ i, ¬ p.Cancels i ∧ ¬ p.Drains i := by
  intro i
  constructor
  · rintro ⟨hcancelled, -⟩
    have hcancelled' : p.isCancelled i = true := hcancelled
    rw [(h i).2.1] at hcancelled'
    cases hcancelled'
  · rintro ⟨f, ⟨hsign, -⟩, -⟩
    have hsign' : 0 < p.size f ∨ p.isHandled f = true := hsign
    rw [(h f).1, (h f).2.2] at hsign'
    simp at hsign'

/-! ### One poll after the other -/

/-- What a poll decides: the end, or that there is another one, in the first round or after it. -/
def judge (p : Polls) (first : Bool) (i : Nat) : DrainEnd ⊕ Bool :=
  if p.isCancelled i then .inl (.cancelled (p.size i))
  else if first && p.size i == 0 && !p.isHandled i then .inr true
  else if p.size i = 0 then .inl .drained
  else .inr false

/-- The wait comes to poll `i`, in the first round or after it: there was no cancellation, and
either no sign of a seed yet, or a first one and tasks ever since. -/
structure Reaches (p : Polls) (i : Nat) (first : Bool) : Prop where
  uncancelled : ∀ j < i, p.isCancelled j = false
  none_yet : first = true → ∀ j < i, p.size j = 0 ∧ p.isHandled j = false
  ever_since : first = false → ∃ f, p.FirstSign f ∧ f < i ∧ ∀ j, f ≤ j → j < i → 0 < p.size j

variable {first first' : Bool}

lemma reaches_zero (p : Polls) : p.Reaches 0 true where
  uncancelled := by simp
  none_yet := by simp
  ever_since := by simp

/-- A sign of a seed that was not seen before is the first one. -/
lemma Reaches.firstSign (h : p.Reaches i true) (hi : 0 < p.size i ∨ p.isHandled i = true) :
    p.FirstSign i := by
  refine ⟨hi, fun j hj => ?_⟩
  by_contra hlt
  obtain ⟨hsize, hhandled⟩ := h.none_yet rfl j (by omega)
  have hsign : 0 < p.size j ∨ p.isHandled j = true := hj
  rw [hsize, hhandled] at hsign
  simp at hsign

/-- The first sign of a seed was at this poll or before. -/
lemma Reaches.exists_firstSign (h : p.Reaches i first)
    (hi : (first && p.size i == 0 && !p.isHandled i) = false) :
    ∃ f, p.FirstSign f ∧ f ≤ i ∧ ∀ j, f ≤ j → j < i → 0 < p.size j := by
  cases first with
  | false =>
      obtain ⟨f, hf, hlt, hsize⟩ := h.ever_since rfl
      exact ⟨f, hf, hlt.le, hsize⟩
  | true =>
      refine ⟨i, h.firstSign ?_, le_rfl, by omega⟩
      cases hhandled : p.isHandled i with
      | true => exact .inr rfl
      | false =>
          rw [hhandled] at hi
          simp only [Bool.true_and, Bool.not_false, Bool.and_true, beq_eq_false_iff_ne] at hi
          exact .inl (Nat.pos_of_ne_zero hi)

lemma Reaches.not_drains (h : p.Reaches i first) (hj : j < i) : ¬ p.Drains j := by
  rintro ⟨f, hf, ⟨hle, hempty⟩, -⟩
  cases first with
  | true =>
      obtain ⟨hsize, hhandled⟩ := h.none_yet rfl f (by omega)
      have hsign : 0 < p.size f ∨ p.isHandled f = true := hf.1
      rw [hsize, hhandled] at hsign
      simp at hsign
  | false =>
      obtain ⟨f', hf', -, hsize⟩ := h.ever_since rfl
      obtain rfl := hf.unique hf'
      exact absurd (hsize j hle hj) (by omega)

/-- The wait did not end before. -/
lemma Reaches.not_stopsAt (h : p.Reaches i first) (hj : j < i) : ¬ p.StopsAt j e := by
  intro hstops
  cases e with
  | drained => exact h.not_drains hj hstops.1
  | cancelled pending =>
      have hcancelled : p.isCancelled j = true := hstops.1.1
      rw [h.uncancelled j hj] at hcancelled
      cases hcancelled

/-- What a poll decides is what the whole sequence says. -/
lemma Reaches.stopsAt (h : p.Reaches i first) (hjudge : p.judge first i = .inl e) :
    p.StopsAt i e := by
  unfold judge at hjudge
  split_ifs at hjudge with hcancelled hwaits hempty
  · obtain rfl := Sum.inl.inj hjudge
    refine ⟨⟨hcancelled, fun j hj => ?_⟩, rfl, fun d hd => ?_⟩
    · by_contra hlt
      have hj' : p.isCancelled j = true := hj
      rw [h.uncancelled j (by omega)] at hj'
      cases hj'
    · by_contra hlt
      exact h.not_drains (by omega) hd
  · obtain rfl := Sum.inl.inj hjudge
    obtain ⟨f, hf, hle, hsize⟩ := h.exists_firstSign (by simpa using hwaits)
    refine ⟨⟨f, hf, ⟨hle, hempty⟩, fun j hj => ?_⟩, fun c hc => ?_⟩
    · by_contra hlt
      exact absurd (hsize j hj.1 (by omega)) (by rw [hj.2]; omega)
    · by_contra hle
      have hc' : p.isCancelled c = true := hc.1
      obtain hlt | rfl := Nat.lt_or_eq_of_le (Nat.not_lt.mp hle)
      · rw [h.uncancelled c hlt] at hc'
        cases hc'
      · exact hcancelled hc'

/-- If it decides nothing, the wait comes to the next poll. -/
lemma Reaches.next (h : p.Reaches i first) (hjudge : p.judge first i = .inr first') :
    p.Reaches (i + 1) first' := by
  unfold judge at hjudge
  split_ifs at hjudge with hcancelled hwaits hempty
  · obtain rfl := Sum.inr.inj hjudge
    simp only [Bool.and_eq_true, beq_iff_eq, Bool.not_eq_true'] at hwaits
    obtain ⟨⟨rfl, hsize⟩, hhandled⟩ := hwaits
    refine ⟨?_, fun _ j hj => ?_, nofun⟩
    · exact Nat.forall_lt_succ_right.mpr ⟨h.uncancelled, by simpa using hcancelled⟩
    · obtain hlt | rfl := Nat.lt_succ_iff_lt_or_eq.mp hj
      · exact h.none_yet rfl j hlt
      · exact ⟨hsize, hhandled⟩
  · obtain rfl := Sum.inr.inj hjudge
    obtain ⟨f, hf, hle, hsize⟩ := h.exists_firstSign (by simpa using hwaits)
    refine ⟨?_, nofun, fun _ => ⟨f, hf, by omega, fun j hfj hj => ?_⟩⟩
    · exact Nat.forall_lt_succ_right.mpr ⟨h.uncancelled, by simpa using hcancelled⟩
    · obtain hlt | rfl := Nat.lt_succ_iff_lt_or_eq.mp hj
      · exact hsize j hfj hlt
      · exact Nat.pos_of_ne_zero hempty

end Polls

/-! ### The loop -/

/-- The polls of a broker and of the other surroundings find `p`: the broker says how many tasks
wait, and a bootstrap with a token, or one that shows its progress, is answered accordingly. The
sink never fails. -/
structure Surroundings.Shows (S : Surroundings σ) (p : Polls) (broker : Broker)
    (print cancellable : Bool) : Prop where
  size : ∀ i, S.During (i + 1) (broker.size .top) (· = p.size i)
  isCancelled : ∀ i, cancellable = true →
    S.During (i + 1) (Routine.call .isCancelled) (· = p.isCancelled i)
  uncancellable : cancellable = false → ∀ i, p.isCancelled i = false
  isHandled : ∀ i, S.During (i + 1) (Routine.access .readHandled) (· = p.isHandled i)
  write : print = true → ∀ i text, S.During i (Routine.call (.write text)) (· = .ok ())
  flush : print = true → ∀ i, S.During i (Routine.call .flush) (· = .ok ())

namespace Surroundings

open Routine

variable {S : Surroundings σ} {p : Polls} {broker : Broker} {print cancellable first : Bool}
  {k : σ} {i n start dots : Nat} {e : DrainEnd}

lemma Shows.during_emit (h : S.Shows p broker print cancellable) (hprint : print = true)
    (i : Nat) (text : String) : S.During i (emit text) (· = .ok ()) := by
  refine (h.write hprint i text).bind fun x hx => ?_
  subst hx
  exact during_done rfl

lemma Shows.during_flushSink (h : S.Shows p broker print cancellable) (hprint : print = true)
    (i : Nat) : S.During i flushSink (· = .ok ()) := by
  refine (h.flush hprint i).bind fun x hx => ?_
  subst hx
  exact during_done rfl

lemma Shows.during_emitDots (h : S.Shows p broker print cancellable) (hprint : print = true)
    (i n : Nat) : S.During i (emitDots n) (· = .ok ()) := by
  induction n with
  | zero => exact h.during_flushSink hprint i
  | succ n ih =>
      refine (h.during_emit hprint i ".").bind fun x hx => ?_
      subst hx
      exact ih

lemma Shows.during_showProgress (h : S.Shows p broker print cancellable) (i dots : Nat) :
    S.During i (showProgress print dots) fun x => ∃ dots', x = .ok dots' := by
  unfold showProgress
  split
  next hprint =>
    refine (during_access _).bind fun compiled _ => ?_
    refine (h.during_emitDots hprint i _).bind fun x hx => ?_
    subst hx
    exact during_done ⟨_, rfl⟩
  next => exact during_done ⟨_, rfl⟩

lemma Shows.during_checkCancelled (h : S.Shows p broker print cancellable)
    (i start pending : Nat) :
    S.During (i + 1) (checkCancelled cancellable start pending) fun x =>
      if p.isCancelled i then ∃ elapsed, x = .error (.bootstrapCancelled elapsed pending)
      else x = .ok () := by
  unfold checkCancelled
  split
  next hcancellable =>
    refine (h.isCancelled i hcancellable).bind fun x hx => ?_
    subst hx
    split
    next => exact (during_call _).bind fun moment _ => during_done ⟨_, rfl⟩
    next => exact during_done rfl
  next hcancellable =>
    rw [h.uncancellable (by simpa using hcancellable) i]
    exact during_done rfl

lemma Shows.during_awaitsFirstTask (h : S.Shows p broker print cancellable) (i : Nat)
    (first : Bool) (size : Nat) :
    S.During (i + 1) (awaitsFirstTask first size)
      (· = (first && size == 0 && !p.isHandled i)) := by
  unfold awaitsFirstTask
  split
  next hempty =>
    refine (h.isHandled i).bind fun x hx => ?_
    subst hx
    rw [hempty]
    cases p.isHandled i <;> exact during_done rfl
  next hempty =>
    rw [Bool.not_eq_true] at hempty
    rw [hempty]
    exact during_done rfl

/-- One poll decides what `Polls.judge` says. -/
lemma Shows.poll (h : S.Shows p broker print cancellable) (hk : S.begun k = i)
    (start n : Nat) (first : Bool) (dots : Nat) :
    match p.judge first i with
    | .inl e => S.Ends (drain print cancellable broker start (n + 1) first dots) k (i + 1) e.Tells
    | .inr first' => ∃ k' dots', S.begun k' = i + 1 ∧
        ((drain print cancellable broker start (n + 1) first dots).run S.answer).run k =
          ((drain print cancellable broker start n first' dots').run S.answer).run k' := by
  have hk₀ := (S.counts (.pause (.sleep pollMillis)) k).trans (congrArg (· + 1) hk)
  obtain ⟨size, k₁, hrun₁, hk₁, rfl⟩ := h.size i _ hk₀
  obtain ⟨x, k₂, hrun₂, hk₂, hx⟩ := h.during_checkCancelled i start (p.size i) k₁ hk₁
  have hrun : ((drain print cancellable broker start (n + 1) first dots).run S.answer).run k = _ :=
    (run_bind hrun₁).trans (run_bind hrun₂)
  unfold Polls.judge
  cases hcancelled : p.isCancelled i with
  | true =>
      rw [hcancelled] at hx
      obtain ⟨elapsed, rfl⟩ := hx
      exact ⟨_, k₂, hrun, hk₂, elapsed, rfl⟩
  | false =>
      rw [hcancelled] at hx
      obtain rfl : x = .ok () := hx
      obtain ⟨waits, k₃, hrun₃, hk₃, rfl⟩ := h.during_awaitsFirstTask i first (p.size i) k₂ hk₂
      replace hrun := hrun.trans (run_bind hrun₃)
      cases hwaits : first && p.size i == 0 && !p.isHandled i with
      | true =>
          rw [hwaits] at hrun
          exact ⟨k₃, dots, hk₃, hrun⟩
      | false =>
          rw [hwaits] at hrun
          obtain ⟨_, k₄, hrun₄, hk₄, dots', rfl⟩ := h.during_showProgress (i + 1) dots k₃ hk₃
          replace hrun := hrun.trans (run_bind hrun₄)
          by_cases hempty : p.size i = 0
          · simp only [hempty, if_true] at hrun ⊢
            exact ⟨_, k₄, hrun, hk₄, rfl⟩
          · simp only [hempty, if_false] at hrun ⊢
            exact ⟨k₄, dots', hk₄, hrun⟩

/-- From poll `i` on, `n` polls come to the end of the wait, or they do not and it goes on. -/
lemma Shows.rounds (h : S.Shows p broker print cancellable) (hk : S.begun k = i)
    (hreach : p.Reaches i first) (start n dots : Nat) :
    (∃ m e, m < i + n ∧ p.StopsAt m e ∧
      S.Ends (drain print cancellable broker start n first dots) k (m + 1) e.Tells) ∨
    (∀ m < i + n, ∀ e, ¬ p.StopsAt m e) ∧
      S.StillPolling (drain print cancellable broker start n first dots) k (i + n) := by
  -- the induction is on the polls that are left, and `Polls.Reaches` is handed from one to the next
  induction n generalizing k i first dots with
  | zero => exact .inr ⟨fun m hm e => hreach.not_stopsAt hm, k, rfl, hk⟩
  | succ n ih =>
      have hpoll := h.poll hk start n first dots
      cases hjudge : p.judge first i with
      | inl e =>
          rw [hjudge] at hpoll
          exact .inl ⟨i, e, by omega, hreach.stopsAt hjudge, hpoll⟩
      | inr first' =>
          rw [hjudge] at hpoll
          obtain ⟨k', dots', hk', hrun⟩ := hpoll
          have hlength : i + 1 + n = i + (n + 1) := by omega
          obtain ⟨m, e, hm, hstops, hends⟩ | ⟨hnone, hpolling⟩ := ih hk' (hreach.next hjudge) dots'
          · exact .inl ⟨m, e, hlength ▸ hm, hstops, hends.of_run hrun⟩
          · exact .inr ⟨hlength ▸ hnone, hlength ▸ hpolling.of_run hrun⟩

/-! ### Where it stops -/

/-- The wait ends where the polls say, if so many polls are looked at. -/
lemma Shows.stops (h : S.Shows p broker print cancellable) (hk : S.begun k = 0)
    (hstops : p.StopsAt i e) :
    if i < n then S.Ends (drain print cancellable broker start n true dots) k (i + 1) e.Tells
    else S.StillPolling (drain print cancellable broker start n true dots) k n := by
  have hrounds := h.rounds hk p.reaches_zero start n dots
  rw [Nat.zero_add] at hrounds
  obtain ⟨m, e', hm, hstops', hends⟩ | ⟨hnone, hpolling⟩ := hrounds
  · obtain ⟨rfl, rfl⟩ := hstops.unique hstops'
    rwa [if_pos hm]
  · rwa [if_neg fun hlt => hnone i hlt e hstops]

/-- The wait never ends if the polls find no end. -/
lemma Shows.polls_on (h : S.Shows p broker print cancellable) (hk : S.begun k = 0)
    (hnone : ∀ i, ¬ p.Cancels i ∧ ¬ p.Drains i) :
    S.StillPolling (drain print cancellable broker start n true dots) k n := by
  have hrounds := h.rounds hk p.reaches_zero start n dots
  rw [Nat.zero_add] at hrounds
  obtain ⟨m, e, -, hstops, -⟩ | ⟨-, hpolling⟩ := hrounds
  · cases e with
    | drained => exact absurd hstops.1 (hnone m).2
    | cancelled pending => exact absurd hstops.1 (hnone m).1
  · exact hpolling

lemma Shows.during_openOutput (h : S.Shows p broker print cancellable) (i : Nat) :
    S.During i (openOutput print) (· = .ok ()) := by
  unfold openOutput
  split
  next hprint =>
    refine (h.during_emit hprint i banner).bind fun x hx => ?_
    subst hx
    exact h.during_flushSink hprint i
  next => exact during_done rfl

lemma during_submitAll {accepts : CompileTask → Bool}
    (hsubmit : ∀ task, S.During i (broker.submit task) (· = accepts task))
    (tasks : List CompileTask) (accepted : Nat) :
    S.During i (submitAll broker tasks accepted) (· = accepted + tasks.countP accepts) := by
  induction tasks generalizing accepted with
  | nil => exact during_done rfl
  | cons task rest ih =>
      refine (hsubmit task).bind fun x hx => ?_
      subst hx
      rw [List.countP_cons]
      cases accepts task with
      | true => simpa [Nat.add_assoc, Nat.add_comm 1] using ih (accepted + 1)
      | false => exact ih accepted

/-- A bootstrap is still polling when the wait for its queue is. -/
lemma Shows.bootstrap_polls_on {c : Config} {methods : List Method}
    {accepts : CompileTask → Bool} (h : S.Shows p broker c.printProgress cancellable)
    (hmode : c.executionMode ≠ .interpreted)
    (hopen : S.During 0 (access .openWindow) (· = true))
    (hsubmit : ∀ task, S.During 0 (broker.submit task) (· = accepts task))
    (hnone : ∀ i, ¬ p.Cancels i ∧ ¬ p.Drains i) (hk : S.begun k = 0) :
    S.StillPolling (bootstrap n c cancellable methods broker) k n := by
  have hseeding : ∀ k, S.begun k = 0 →
      S.StillPolling (seedAndDrain n c.printProgress cancellable methods broker) k n := by
    refine (h.during_openOutput 0).polling fun x hx => ?_
    subst hx
    refine (during_call .now).polling fun start _ => ?_
    refine (during_submitAll hsubmit (seedTasks methods) 0).polling fun submitted _ k hk => ?_
    exact (h.polls_on hk hnone).bind
  have hwithin : ∀ k, S.begun k = 0 →
      S.StillPolling (withinWindow n c.printProgress cancellable methods broker) k n :=
    (during_access _).polling fun previous _ k hk => (hseeding k hk).bind
  unfold bootstrap
  rw [if_neg hmode]
  refine hopen.polling (fun x hx => ?_) k hk
  subst hx
  exact fun k hk => (hwithin k hk).bind

end Surroundings

open Routine in
/-- **Where a bootstrap stops to wait for its queue.** Let the polls find `p`, with no failing sink.
If the wait ends at poll `i`, it has its result then, and not at any poll before; it ends at some
poll exactly if there is a cancellation or the tier drains, and else it goes on forever. Once there
was a sign of a seed, it does not matter what was handled. A bootstrap whose seeds are all refused
goes on forever if no task ever waits, none is handled and nobody cancels it. -/
theorem drain_stops {S : Surroundings σ} {p : Polls} {broker : Broker} {print cancellable : Bool}
    {k : σ} (h : S.Shows p broker print cancellable) (hk : S.begun k = 0) (start dots n : Nat) :
    (∀ i e, p.StopsAt i e →
      if i < n then S.Ends (drain print cancellable broker start n true dots) k (i + 1) e.Tells
      else S.StillPolling (drain print cancellable broker start n true dots) k n) ∧
    ((∃ i e, p.StopsAt i e) ↔ ∃ i, p.Cancels i ∨ p.Drains i) ∧
    ((∀ i, ¬ p.Cancels i ∧ ¬ p.Drains i) →
      S.StillPolling (drain print cancellable broker start n true dots) k n) ∧
    (∀ (q : Polls) f, q.size = p.size → q.isCancelled = p.isCancelled → p.FirstSign f →
      (∀ j ≤ f, q.isHandled j = p.isHandled j) → ∀ i e, q.StopsAt i e ↔ p.StopsAt i e) ∧
    (∀ c methods, c.executionMode ≠ .interpreted → c.printProgress = print →
      S.During 0 (access .openWindow) (· = true) →
      (∀ task, S.During 0 (broker.submit task) (· = false)) →
      (∀ i, p.size i = 0 ∧ p.isCancelled i = false ∧ p.isHandled i = false) →
      S.StillPolling (bootstrap n c cancellable methods broker) k n) := by
  refine ⟨fun i e => h.stops hk, ⟨?_, ?_⟩, h.polls_on hk, ?_, ?_⟩
  · rintro ⟨i, e, hstops⟩
    cases e with
    | drained => exact ⟨i, .inr hstops.1⟩
    | cancelled pending => exact ⟨i, .inl hstops.1⟩
  · exact fun ⟨i, hi⟩ => Polls.exists_stopsAt hi
  · exact fun q f hsize hcancel hf hhandled i e => Polls.stopsAt_congr hsize hcancel hf hhandled
  · rintro c methods hmode rfl hopen hsubmit hquiet
    exact h.bootstrap_polls_on hmode hopen hsubmit (Polls.endless_of_quiet hquiet) hk

/-! ### Every sequence of polls can be found -/

/-- What the surroundings answer in which the polls find `p`, when `k` polls were begun; all else is
as in a fresh state with silent surroundings. -/
def Polls.reply (p : Polls) (k : Nat) : (a : Action) → a.Answer
  | .access .readHandled => p.isHandled (k - 1)
  | .access (.countTasks _) => p.size (k - 1)
  | .access b => (b.perform 1 {}).1
  | .pause (.awaitWork _ _) => .timedOut
  | .pause .takeLock => ()
  | .pause (.sleep _) => ()
  | .call .isCancelled => p.isCancelled (k - 1)
  | .call (.size _) => p.size (k - 1)
  | .call c => c.silence

/-- The surroundings that answer so. -/
def Polls.surroundings (p : Polls) : Surroundings Nat where
  answer a := fun k => (p.reply k a, if a.beginsPoll then k + 1 else k)
  begun k := k
  counts _ _ := rfl

/-- The queue and the broker outside find the polls that they are to find. -/
lemma Polls.shows_surroundings (p : Polls) {broker : Broker} (print : Bool)
    (hbroker : broker = .queue ∨ broker = .outside) :
    p.surroundings.Shows p broker print true where
  size i := by
    rintro _ rfl
    obtain rfl | rfl := hbroker <;> exact ⟨_, _, rfl, rfl, rfl⟩
  isCancelled i _ := by
    rintro _ rfl
    exact ⟨_, _, rfl, rfl, rfl⟩
  uncancellable := nofun
  isHandled i := by
    rintro _ rfl
    exact ⟨_, _, rfl, rfl, rfl⟩
  write _ i text k hk := ⟨_, _, rfl, hk, rfl⟩
  flush _ i k hk := ⟨_, _, rfl, hk, rfl⟩

/-- The tier is empty for two polls, then a task waits for the length of one, and later on the
bootstrap is cancelled. -/
def latePolls : Polls where
  size i := if i = 2 then 1 else 0
  isCancelled i := decide (4 ≤ i)
  isHandled _ := false

/-- Nothing ever happens. -/
def quietPolls : Polls where
  size _ := 0
  isCancelled _ := false
  isHandled _ := false

open Routine in
/-- The bootstrap that finds its seeds late stops at the fourth poll, and the one whose seeds were
refused never does. -/
theorem drain_stops_late :
    latePolls.StopsAt 3 .drained ∧
      latePolls.surroundings.Ends (drain true true .queue 0 4 true 0) 0 4 (· = .ok ()) ∧
      latePolls.surroundings.StillPolling (drain true true .queue 0 3 true 0) 0 3 ∧
      ∀ n methods,
        quietPolls.surroundings.StillPolling (bootstrap n {} true methods .outside) 0 n := by
  have hreach : latePolls.Reaches 3 false :=
    ((latePolls.reaches_zero.next rfl).next rfl).next rfl
  have hstops : latePolls.StopsAt 3 .drained := hreach.stopsAt rfl
  have hlate := latePolls.shows_surroundings true (.inl rfl)
  have hquiet := quietPolls.shows_surroundings false (.inr rfl)
  refine ⟨hstops, ?_, ?_, fun n methods => ?_⟩
  · exact (drain_stops hlate rfl 0 0 4).1 3 .drained hstops
  · exact (drain_stops hlate rfl 0 0 3).1 3 .drained hstops
  · exact (drain_stops hquiet rfl 0 0 n).2.2.2.2 {} methods (by decide) rfl
      (fun k hk => ⟨_, _, rfl, hk, rfl⟩) (fun task k hk => ⟨_, _, rfl, hk, rfl⟩)
      fun i => ⟨rfl, rfl, rfl⟩

end ExternalCompiler
