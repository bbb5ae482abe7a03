/-
The discipline of the queue lock:

* `Action.role`: what an action has to do with the lock; the external runtime is called by actions
  that look outward;
* `Hold`, `Hold.shift`: what a thread has of the lock, and which actions it may do then;
* `Routine.Obeys`: a routine keeps to that, with a rule for one routine after the other, and one
  lemma for each routine of the queue;
* `Guarded`: the lock is where the threads believe it to be; `Guarded.step`, `Guarded.run`: it
  stays there;
* `Guarded.free_of_outward`: a thread that looks outward neither holds the lock nor is marked as
  its owner.

Whether an action is allowed and what the thread has then is one partial function here, and not a
`Conduct` with its two halves: it is inverted, and threads that do not keep to it are cut off where
it has no value (`Queue/Ownership`).
-/
import ExternalCompiler.Proofs.Queue.Visits

namespace ExternalCompiler

/-! ### Roles -/

/-- What an action has to do with the queue lock. -/
inductive Role
  /-- It takes the lock. -/
  | take
  /-- It leaves the mark of the owner. -/
  | mark
  /-- It removes the mark of the owner. -/
  | clear
  /-- It gives the lock back. -/
  | release
  /-- It waits for work without the lock and takes it again. -/
  | wait
  /-- It needs the lock. -/
  | visit
  /-- It calls the external runtime, which must not happen under the lock. -/
  | outward
  /-- It has nothing to do with the lock. -/
  | aloof
deriving DecidableEq

/-- The role of an action. -/
def Action.role : Action → Role
  | .pause .takeLock => .take
  | .pause (.awaitWork _ _) => .wait
  | .access .markOwner => .mark
  | .access .clearOwner => .clear
  | .access .releaseLock => .release
  | .access (.pushTask _) | .access .popTask | .access (.countTasks _) | .access .readLength
  | .access .readClosed | .access .setClosed | .access .readSubmitted => .visit
  | .call (.detach _ _) | .call (.repack _) | .call .probe | .call (.excluded _)
  | .call .bootstrapFinished => .outward
  | _ => .aloof

/-- The lock after an action of a thread. -/
def Lock.after (me : ThreadId) (l : Lock) : Role → Lock
  | .take => { l with holder := some me }
  | .mark => { l with owner := me }
  | .clear => { l with owner := 0 }
  | .release => { l with holder := none }
  | _ => l

/-- A thread holds the lock and is marked as its owner. -/
def Lock.heldBy (l : Lock) (t : ThreadId) : Prop :=
  l.holder = some t ∧ l.owner = t

/-- A thread neither holds the lock nor is marked as its owner. -/
def Lock.freeOf (l : Lock) (t : ThreadId) : Prop :=
  l.holder ≠ some t ∧ l.owner ≠ t

/-- What an action does to the lock, and when a thread can take it and end a wait. -/
lemma effect_lock {me : ThreadId} {s s' : Shared} {a : Action} {x : a.Answer}
    (h : Effect me s a x s') :
    s'.lock = s.lock.after me a.role ∧ (a.role = .take → s.lock.holder = none) ∧
      (a.role = .wait → s.lock.holder = some me) := by
  rcases a with a | p | c
  · rw [(effect_access.mp h).2]
    cases a with
    | claimStartup | openWindow =>
        simp only [Access.perform]
        split <;> exact ⟨rfl, by rintro ⟨⟩, by rintro ⟨⟩⟩
    | _ => exact ⟨rfl, by rintro ⟨⟩, by rintro ⟨⟩⟩
  · cases p with
    | takeLock => exact ⟨h.2 ▸ rfl, fun _ => h.1, by rintro ⟨⟩⟩
    | awaitWork seen millis => exact ⟨h.2.2 ▸ rfl, by rintro ⟨⟩, fun _ => h.1⟩
    | sleep millis =>
        obtain rfl := h
        exact ⟨rfl, by rintro ⟨⟩, by rintro ⟨⟩⟩
  · obtain rfl := h
    cases c <;> exact ⟨rfl, by rintro ⟨⟩, by rintro ⟨⟩⟩

/-! ### What a thread has of the lock -/

/-- What a thread has of the queue lock. -/
inductive Hold
  /-- Nothing. -/
  | out
  /-- Nothing, and it has just given the lock back. -/
  | released
  /-- The lock, without its mark. -/
  | unmarked
  /-- The lock, with its mark. -/
  | marked
deriving DecidableEq

namespace Hold

/-- The thread has the lock. -/
def isHeld : Hold → Bool
  | unmarked | marked => true
  | _ => false

/-- What a thread has of the lock after an action, if it may do the action at all. -/
def shift : Hold → Role → Option Hold
  | out, .take | released, .take => some unmarked
  | unmarked, .mark => some marked
  | marked, .clear => some unmarked
  | unmarked, .release => some released
  | released, .wait => some unmarked
  | unmarked, .visit | unmarked, .aloof => some unmarked
  | marked, .visit | marked, .aloof => some marked
  | out, .outward | released, .outward | out, .aloof | released, .aloof => some out
  | _, _ => none

/-- What a thread has of the lock after some of its events. -/
def run (w : Hold) (es : List Event) : Hold :=
  es.foldl (fun w e => (w.shift e.action.role).getD w) w

end Hold

namespace Routine

variable {α β : Type}

/-- The routine keeps to what a thread may do that has `w` of the lock, and ends with `post`. -/
def Obeys : Routine α → Hold → (α → Hold → Prop) → Prop
  | done a, w, post => post a w
  | act a next, w, post => ∃ w', w.shift a.role = some w' ∧ ∀ x, (next x).Obeys w' post
  | more, _, _ => True

section Obeys

variable {w : Hold} {post : α → Hold → Prop}

lemma Obeys.mono {r : Routine α} {post' : α → Hold → Prop} (hr : r.Obeys w post)
    (h : ∀ a w', post a w' → post' a w') : r.Obeys w post' := by
  induction r generalizing w with
  | done a => exact h a w hr
  | act a next ih =>
      obtain ⟨w', hw, hnext⟩ := hr
      exact ⟨w', hw, fun x => ih x (hnext x)⟩
  | more => trivial

lemma Obeys.bind {r : Routine α} {f : α → Routine β} {post' : β → Hold → Prop}
    (hr : r.Obeys w post) (hf : ∀ a w', post a w' → (f a).Obeys w' post') :
    (r.bind f).Obeys w post' := by
  induction r generalizing w with
  | done a => exact hf a w hr
  | act a next ih =>
      obtain ⟨w', hw, hnext⟩ := hr
      exact ⟨w', hw, fun x => ih x (hnext x)⟩
  | more => trivial

/-- What is left of an obedient routine obeys, with what its events left of the lock. -/
lemma Obeys.leads {r r' : Routine α} {es : List Event} (hr : r.Obeys w post)
    (h : r.Leads es r') : r'.Obeys (w.run es) post := by
  induction h generalizing w with
  | refl r => exact hr
  | act t x s _ ih =>
      obtain ⟨w', hw, hnext⟩ := hr
      have hrun := ih (hnext x)
      rwa [← Option.getD_some (a := w') (b := w), ← hw] at hrun

/-- What has nothing to do with the lock, or calls the external runtime, may be done by whoever
does not hold it. -/
lemma obeys_of_only {r : Routine α} (hr : r.Only fun a => a.role = .aloof ∨ a.role = .outward)
    (hw : w.isHeld = false) : r.Obeys w fun _ w' => w'.isHeld = false := by
  induction r generalizing w with
  | done a => exact hw
  | act a next ih =>
      refine ⟨.out, ?_, fun x => ih x (hr.2 x) rfl⟩
      rcases hr.1 with hrole | hrole <;>
        · rw [hrole]
          cases w <;> first | rfl | cases hw
  | more => trivial

/-! ### The routines of the queue -/

lemma obeys_lock (hw : w.isHeld = false) : lock.Obeys w fun _ w' => w' = .marked := by
  refine ⟨.unmarked, ?_, fun _ => ⟨.marked, rfl, fun _ => rfl⟩⟩
  cases w <;> first | rfl | cases hw

lemma obeys_unlock : unlock.Obeys .marked fun _ w' => w' = .released :=
  ⟨.unmarked, rfl, fun _ => ⟨.released, rfl, fun _ => rfl⟩⟩

/-- What is done to the queue under the lock. -/
lemma obeys_visit {a : Access} (ha : (Action.access a).role = .visit) :
    (access a).Obeys .marked fun _ w' => w' = .marked :=
  ⟨.marked, by rw [ha]; rfl, fun _ => rfl⟩

lemma obeys_submit (hw : w.isHeld = false) (t : CompileTask) :
    (submit t).Obeys w fun _ w' => w'.isHeld = false := by
  refine ⟨.out, (by cases w <;> first | rfl | cases hw), fun flag => ?_⟩
  cases flag with
  | true => rfl
  | false =>
      refine (obeys_lock (w := .out) rfl).bind fun _ w' hw' => ?_
      subst hw'
      refine (obeys_visit rfl).bind fun closed w' hw' => ?_
      subst hw'
      cases closed with
      | true => exact obeys_unlock.bind fun _ w' hw' => hw' ▸ rfl
      | false =>
          refine (obeys_visit rfl).bind fun _ w' hw' => ?_
          subst hw'
          exact obeys_unlock.bind fun _ w' hw' => hw' ▸ rfl

/-- A visit: the lock is taken, something is done to the queue, and the lock is given back. -/
lemma obeys_visit_once {a : Access} {f : a.Answer → α} (ha : (Action.access a).role = .visit)
    (hw : w.isHeld = false) :
    (lock.bind fun _ => (access a).bind fun x => unlock.bind fun _ => done (f x)).Obeys w
      fun _ w' => w'.isHeld = false := by
  refine (obeys_lock hw).bind fun _ w' hw' => ?_
  subst hw'
  refine (obeys_visit ha).bind fun x w' hw' => ?_
  subst hw'
  exact obeys_unlock.bind fun _ w' hw' => hw' ▸ rfl

lemma obeys_size (hw : w.isHeld = false) (tier : Tier) :
    (size tier).Obeys w fun _ w' => w'.isHeld = false :=
  obeys_visit_once rfl hw

lemma obeys_length (hw : w.isHeld = false) : length.Obeys w fun _ w' => w'.isHeld = false :=
  obeys_visit_once rfl hw

lemma obeys_close (hw : w.isHeld = false) : close.Obeys w fun _ w' => w'.isHeld = false :=
  obeys_visit_once (f := fun _ => ()) rfl hw

/-- A wait begins and ends with the lock, whichever way it ends. -/
lemma obeys_waitForWork (millis : Nat) :
    (waitForWork millis).Obeys .marked fun _ w' => w' = .marked := by
  refine ⟨.marked, rfl, fun seen => ⟨.unmarked, rfl, fun _ => ⟨.unmarked, rfl, fun closed => ?_⟩⟩⟩
  cases closed with
  | true => exact ⟨.marked, rfl, fun _ => rfl⟩
  | false =>
      exact ⟨.released, rfl, fun _ => ⟨.unmarked, rfl, fun outcome => ⟨.marked, rfl, fun _ => rfl⟩⟩⟩

end Obeys

end Routine

/-! ### The lock is where the threads believe it to be -/

/-- The routine waits for work. -/
def Routine.isWaiting {α : Type} : Routine α → Bool
  | .act (.pause (.awaitWork _ _)) _ => true
  | _ => false

/-- The lock fits what the thread `t` has of it: it has the lock exactly if it holds it, but for
looks at the queue while it waits; and its mark exactly if it is marked as the owner. -/
structure Fits (t : ThreadId) (l : Lock) (w : Hold) (waiting : Bool) : Prop where
  holder : w.isHeld = true → l.holder = some t
  held : l.holder = some t → w.isHeld = true ∨ (w = .released ∧ waiting = true)
  owner : t ≠ 0 → (l.owner = t ↔ w = .marked)

/-- What a step of the thread `t` does to the lock and to what `t` has of it. -/
inductive LockMove (t : ThreadId) : Hold → Lock → Hold → Lock → Prop
  | taken {w : Hold} {l : Lock} (hw : w.isHeld = false) (hfree : l.holder = none) :
      LockMove t w l .unmarked { l with holder := some t }
  | woken {l : Lock} (hheld : l.holder = some t) : LockMove t .released l .unmarked l
  | marked {l : Lock} : LockMove t .unmarked l .marked { l with owner := t }
  | cleared {l : Lock} : LockMove t .marked l .unmarked { l with owner := 0 }
  | released {l : Lock} : LockMove t .unmarked l .released { l with holder := none }
  | stayed {w : Hold} {l : Lock} (hw : w.isHeld = true) : LockMove t w l w l
  | left {w : Hold} {l : Lock} (hw : w.isHeld = false) : LockMove t w l .out l

/-- The step of an obedient thread is a move. -/
lemma lockMove_of_shift {t : ThreadId} {w w' : Hold} {s s' : Shared} {a : Action} {x : a.Answer}
    (hshift : w.shift a.role = some w') (heff : Effect t s a x s') :
    LockMove t w s.lock w' s'.lock := by
  obtain ⟨hlock, htake, hwait⟩ := effect_lock heff
  rw [hlock]
  generalize a.role = ρ at *
  cases w <;> cases ρ <;> cases hshift
  case out.take | released.take => exact .taken rfl (htake rfl)
  case released.wait => exact .woken (hwait rfl)
  case unmarked.mark => exact .marked
  case marked.clear => exact .cleared
  case unmarked.release => exact .released
  case unmarked.visit | unmarked.aloof | marked.visit | marked.aloof => exact .stayed rfl
  case out.outward | out.aloof | released.outward | released.aloof => exact .left rfl

section Fits

variable {t u : ThreadId} {w w' v : Hold} {l l' : Lock} {waiting : Bool}

/-- A move keeps the lock fit for the thread that acts; it is not waiting unless it wakes up. -/
lemma LockMove.fits (h : LockMove t w l w' l') (hfits : Fits t l w waiting) (waiting' : Bool)
    (hwaiting : waiting = true → w' ≠ .out) : Fits t l' w' waiting' := by
  obtain ⟨hholder, hheld, howner⟩ := hfits
  cases h with
  | taken hw hfree => exact ⟨fun _ => rfl, fun _ => .inl rfl, by grind [Hold.isHeld]⟩
  | woken hh => exact ⟨fun _ => hh, fun _ => .inl rfl, by grind⟩
  | marked => exact ⟨hholder, fun _ => .inl rfl, by simp⟩
  | cleared => exact ⟨fun _ => hholder rfl, fun _ => .inl rfl, fun ht => by simp [ht.symm]⟩
  | released => exact ⟨by simp [Hold.isHeld], by simp, by grind⟩
  | stayed hw => exact ⟨hholder, fun _ => .inl hw, howner⟩
  | left hw => exact ⟨by simp [Hold.isHeld], by grind, by grind [Hold.isHeld]⟩

/-- A move of another thread keeps the lock fit. -/
lemma LockMove.fits_other (h : LockMove t w l w' l') (htu : t ≠ u) (hfits : Fits t l w waiting)
    {waiting' : Bool} (hother : Fits u l v waiting') : Fits u l' v waiting' := by
  obtain ⟨hholder, hheld, howner⟩ := hother
  -- a thread that has the lock is the only one
  have hsole : w.isHeld = true → v.isHeld = false := by
    intro hw
    by_contra hv
    have hu := hholder (by simpa using hv)
    rw [hfits.holder hw] at hu
    exact htu (Option.some.inj hu)
  cases h with
  | taken hw hfree => exact ⟨by grind, by grind, howner⟩
  | woken hh => exact ⟨hholder, hheld, howner⟩
  | marked => exact ⟨hholder, hheld, by grind [Hold.isHeld]⟩
  | cleared => exact ⟨hholder, hheld, by grind [Hold.isHeld]⟩
  | released => exact ⟨by grind [Hold.isHeld], by simp, howner⟩
  | stayed hw => exact ⟨hholder, hheld, howner⟩
  | left hw => exact ⟨hholder, hheld, howner⟩

end Fits

/-- Every thread obeys, and the lock fits what each of them has of it; thread zero does nothing. -/
structure Guarded (w : ThreadId → Hold) (P : System) : Prop where
  obeys : ∀ t, (P.threads t).Obeys (w t) fun _ _ => True
  fits : ∀ t, Fits t P.shared.lock (w t) (P.threads t).isWaiting
  nobody : P.threads 0 = .done () ∧ w 0 = .out

section Guarded

variable {w : ThreadId → Hold} {P Q : System} {e : Event} {t : ThreadId}

lemma role_of_isWaiting {α : Type} {a : Action} {next : a.Answer → Routine α}
    (h : (Routine.act a next).isWaiting = true) : a.role = .wait := by
  rcases a with a | p | c
  · cases h
  · cases p <;> first | rfl | cases h
  · cases h

/-- Whoever waits for work has just given the lock back. -/
lemma released_of_isWaiting {α : Type} {r : Routine α} {v : Hold} {post : α → Hold → Prop}
    (hr : r.Obeys v post) (hwait : r.isWaiting = true) : v = .released := by
  cases r with
  | done a => cases hwait
  | act a next =>
      obtain ⟨w', hshift, -⟩ := hr
      rw [role_of_isWaiting hwait] at hshift
      cases v <;> first | rfl | cases hshift
  | more => cases hwait

/-- The step of a guarded thread is a move of an obedient one. -/
lemma Guarded.move (h : Guarded w P) (hstep : System.Step P e Q) :
    ∃ w', (w e.thread).shift e.action.role = some w' ∧
      (Q.threads e.thread).Obeys w' (fun _ _ => True) ∧
      LockMove e.thread (w e.thread) P.shared.lock w' Q.shared.lock ∧
      ((P.threads e.thread).isWaiting = true → w' ≠ .out) ∧ e.thread ≠ 0 := by
  cases hstep with
  | @act t a next x s hact heff =>
      have hobeys := h.obeys t
      rw [hact] at hobeys
      have hreleased := released_of_isWaiting hobeys
      obtain ⟨w', hshift, hnext⟩ := hobeys
      refine ⟨w', hshift, ?_, lockMove_of_shift hshift heff, ?_, ?_⟩
      · simpa using hnext x
      · rintro hwait rfl
        simp only [hact] at hwait
        rw [hreleased hwait, role_of_isWaiting hwait] at hshift
        cases hshift
      · rintro (rfl : t = 0)
        rw [h.nobody.1] at hact
        cases hact

lemma Guarded.step (h : Guarded w P) (hstep : System.Step P e Q) :
    Guarded (fun t => (w t).run (own t [e])) Q := by
  obtain ⟨w', hshift, hnext, hmove, hwaiting, hzero⟩ := h.move hstep
  have hself : (w e.thread).run (own e.thread [e]) = w' := by
    rw [own_cons_self rfl]
    simp [Hold.run, hshift]
  have hother : ∀ u, e.thread ≠ u → (w u).run (own u [e]) = w u := by
    intro u hu
    rw [own_cons_other hu]
    rfl
  refine ⟨fun u => ?_, fun u => ?_, ?_⟩
  · by_cases hu : e.thread = u
    · subst hu
      rwa [hself]
    · rw [hother u hu, hstep.threads_other hu]
      exact h.obeys u
  · by_cases hu : e.thread = u
    · subst hu
      rw [hself]
      exact hmove.fits (h.fits _) _ hwaiting
    · rw [hother u hu, hstep.threads_other hu]
      exact hmove.fits_other hu (h.fits _) (h.fits u)
  · rw [hstep.threads_other hzero, hother 0 hzero]
    exact h.nobody

/-- A look of a waiting thread keeps the lock fit for all. -/
lemma Guarded.look (h : Guarded w P) (hlook : System.Look P Q) : Guarded w Q := by
  refine ⟨hlook.threads ▸ h.obeys, fun u => ?_, hlook.threads ▸ h.nobody⟩
  rw [hlook.threads]
  obtain ⟨hholder, hheld, howner⟩ := h.fits u
  cases hlook with
  | @take t seen millis next hact hfree =>
      refine ⟨fun hu => ?_, fun hu => ?_, howner⟩
      · rw [hfree] at hholder
        exact absurd (hholder hu) (by simp)
      · obtain rfl : t = u := Option.some.inj hu
        have hwait : (P.threads t).isWaiting = true := by
          rw [hact]
          rfl
        exact .inr ⟨released_of_isWaiting (h.obeys t) hwait, hwait⟩
  | @giveBack t seen millis next hact hheld' hnews =>
      refine ⟨fun hu => ?_, by simp [Shared.setHolder], howner⟩
      obtain rfl : t = u := Option.some.inj (hheld'.symm.trans (hholder hu))
      have hwait : (P.threads t).isWaiting = true := by
        rw [hact]
        rfl
      rw [released_of_isWaiting (h.obeys t) hwait] at hu
      cases hu

/-- Along a run, what each thread has of the lock follows from its own events. -/
theorem Guarded.run {h : List Event} (hg : Guarded w P) (hrun : System.Run P h Q) :
    Guarded (fun t => (w t).run (own t h)) Q := by
  refine hrun.invariant (I := fun h Q => Guarded (fun t => (w t).run (own t h)) Q) hg ?_ ?_
  · intro g R e R' _ hR hstep
    simpa only [own_append, Hold.run, List.foldl_append] using hR.step hstep
  · exact fun g R R' _ hR hlook => hR.look hlook

/-- A thread that has the lock with its mark is the one that the lock shows. -/
lemma Guarded.marked_iff (h : Guarded w P) : w t = .marked ↔ P.shared.lock.heldBy t := by
  have hzero : w t = .marked → t ≠ 0 := by
    rintro hw rfl
    rw [h.nobody.2] at hw
    cases hw
  constructor
  · intro hw
    exact ⟨(h.fits t).holder (by rw [hw]; rfl), ((h.fits t).owner (hzero hw)).mpr hw⟩
  · rintro ⟨hholder, howner⟩
    refine ((h.fits t).owner ?_).mp howner
    rintro rfl
    rcases (h.fits 0).held hholder with hheld | ⟨hreleased, -⟩
    · rw [h.nobody.2] at hheld
      cases hheld
    · rw [h.nobody.2] at hreleased
      cases hreleased

/-- A thread that has nothing of the lock, and does not wait either, is not shown by the lock. -/
lemma Guarded.freeOf (h : Guarded w P) (ht : t ≠ 0) (hw : (w t).isHeld = false)
    (hwait : w t = .released → (P.threads t).isWaiting = false) : P.shared.lock.freeOf t := by
  refine ⟨fun hholder => ?_, fun howner => ?_⟩
  · rcases (h.fits t).held hholder with hheld | ⟨hreleased, hwaiting⟩
    · rw [hw] at hheld
      cases hheld
    · rw [hwait hreleased] at hwaiting
      cases hwaiting
  · rw [((h.fits t).owner ht).mp howner] at hw
    cases hw

/-- A thread that looks outward neither holds the lock nor is marked as its owner. -/
lemma Guarded.free_of_outward (h : Guarded w P) (hstep : System.Step P e Q)
    (hrole : e.action.role = .outward) : P.shared.lock.freeOf e.thread := by
  obtain ⟨w', hshift, -, -, -, hzero⟩ := h.move hstep
  rw [hrole] at hshift
  refine h.freeOf hzero ?_ fun _ => ?_
  · cases hw : w e.thread <;> rw [hw] at hshift <;> first | rfl | cases hshift
  · by_contra hwait
    cases hstep with
    | @act t a next x s hact heff =>
        simp only [hact, Bool.not_eq_false] at hwait
        exact absurd ((role_of_isWaiting hwait).symm.trans hrole) (by decide)

end Guarded

end ExternalCompiler
