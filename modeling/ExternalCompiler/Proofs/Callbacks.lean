/-
Threads whose calls call back:

* `Nest`: each thread has a stack of routines; the first runs, and each of the others waits in a
  call for those before it;
* `Nest.Step`, `Nest.Move`: the running routine acts; a call calls back, and a callback returns;
* `Nest.Run`: the threads do so in any order, and a run has a history of deeds, which are events
  with the place in the stack of the routine that acted;
* `Nest.run_ofSystem`: what threads do that are not called back is a run of a nest;
* `deedsOf`: the events of one place;
* `Nest.Called`: a call of a routine inside a run, from its start to its return;
* `Conduct.track`: what the routine at each place keeps track of; `Nest.Run.heeds`: where callbacks
  keep to a conduct, every routine of a nest does, from what its place keeps track of.
-/
import ExternalCompiler.Proofs.Conduct

namespace ExternalCompiler

/-! ### Places -/

/-- A place in the stack of a thread, with the number of places below it. -/
structure Place where
  thread : ThreadId
  depth : Nat
deriving DecidableEq

/-- An event, and how deep in the stack of its thread the routine stands that acted. -/
structure Deed where
  depth : Nat
  event : Event

/-- The place of the routine that acted. -/
def Deed.place (d : Deed) : Place :=
  ⟨d.event.thread, d.depth⟩

/-- The events of one place. -/
def deedsOf (p : Place) (h : List Deed) : List Event :=
  (h.filter (·.place = p)).map (·.event)

lemma deedsOf_append (p : Place) (h h' : List Deed) :
    deedsOf p (h ++ h') = deedsOf p h ++ deedsOf p h' := by
  simp [deedsOf]

lemma deedsOf_singleton_self (d : Deed) : deedsOf d.place [d] = [d.event] := by
  simp [deedsOf]

lemma deedsOf_singleton_other {p : Place} {d : Deed} (hp : d.place ≠ p) : deedsOf p [d] = [] := by
  simp [deedsOf, hp]

lemma mem_deedsOf {p : Place} {h : List Deed} {e : Event} :
    e ∈ deedsOf p h ↔ ∃ d ∈ h, d.place = p ∧ d.event = e := by
  simp [deedsOf, and_assoc]

/-- Where the events of a place are cut, the whole history can be cut. -/
lemma exists_of_deedsOf_eq_append_cons {p : Place} {h : List Deed} {es es' : List Event}
    {e : Event} (ho : deedsOf p h = es ++ e :: es') :
    ∃ g d g', h = g ++ d :: g' ∧ d.place = p ∧ d.event = e ∧ deedsOf p g = es ∧
      deedsOf p g' = es' := by
  obtain ⟨l₁, l₂', ho', rfl, ho₂⟩ := List.map_eq_append_iff.mp ho
  obtain ⟨d, l₂, rfl, rfl, rfl⟩ := List.map_eq_cons_iff.mp ho₂
  obtain ⟨g, k, rfl, ho₁, hk⟩ := List.filter_eq_append_iff.mp ho'
  obtain ⟨l, g', rfl, hl, hd, hg'⟩ := List.filter_eq_cons_iff.mp hk
  have hl' : deedsOf p l = [] := by
    rw [deedsOf, List.filter_eq_nil_iff.mpr hl, List.map_nil]
  refine ⟨g ++ l, d, g', by simp, of_decide_eq_true hd, rfl, ?_, by rw [deedsOf, hg']⟩
  rw [deedsOf_append, hl', List.append_nil, deedsOf, ho₁]

/-! ### Nests -/

/-- The state that threads share, and the stack of each thread: its first routine runs, and each of
the others waits in a call for those before it. -/
structure Nest where
  shared : Shared
  frames : ThreadId → List (Routine Unit)

namespace Nest

/-- The routines that run. -/
def running (N : Nest) : System where
  shared := N.shared
  threads t := (N.frames t).headD (.done ())

/-- The running routine of a thread acts. -/
inductive Step : Nest → Deed → Nest → Prop
  | act {N : Nest} {t : ThreadId} {a : Action} {next : a.Answer → Routine Unit}
      {rest : List (Routine Unit)} {x : a.Answer} {s : Shared}
      (hstack : N.frames t = .act a next :: rest) (heff : Effect t N.shared a x s) :
      Step N ⟨rest.length, ⟨t, a, x, N.shared⟩⟩
        ⟨s, Function.update N.frames t (next x :: rest)⟩

/-- A call calls back with a routine of some kind, a callback returns, or a thread that awaits work
looks at the queue. -/
inductive Move (callback : Routine Unit → Prop) : Nest → Nest → Prop
  | enter {N : Nest} {t : ThreadId} {c : Call} {next : c.Answer → Routine Unit}
      {rest : List (Routine Unit)} {r : Routine Unit}
      (hstack : N.frames t = .act (.call c) next :: rest) (hr : callback r) :
      Move callback N
        { N with frames := Function.update N.frames t (r :: .act (.call c) next :: rest) }
  | leave {N : Nest} {t : ThreadId} {r : Routine Unit} {rest : List (Routine Unit)}
      (hstack : N.frames t = .done () :: r :: rest) :
      Move callback N { N with frames := Function.update N.frames t (r :: rest) }
  | look {N : Nest} {Q : System} (hlook : System.Look N.running Q) :
      Move callback N { N with shared := Q.shared }

lemma Step.effect {N M : Nest} {d : Deed} (h : Step N d M) :
    Effect d.event.thread N.shared d.event.action d.event.answer M.shared := by
  cases h with
  | act _ heff => exact heff

/-- No move changes more than the lock. -/
lemma Move.shared {callback : Routine Unit → Prop} {N M : Nest} (h : Move callback N M) :
    M.shared = N.shared ∨ ∃ holder, M.shared = N.shared.setHolder holder := by
  cases h with
  | look hlook => exact .inr hlook.shared
  | _ => exact .inl rfl

/-- `Run callback N h M`: the threads act, call back and return in some order, and the history of
their deeds is `h`. -/
inductive Run (callback : Routine Unit → Prop) : Nest → List Deed → Nest → Prop
  | refl (N : Nest) : Run callback N [] N
  | step {N M L : Nest} {d : Deed} {h : List Deed} (hstep : Step N d M)
      (hrun : Run callback M h L) : Run callback N (d :: h) L
  | move {N M L : Nest} {h : List Deed} (hmove : Move callback N M) (hrun : Run callback M h L) :
      Run callback N h L

namespace Run

variable {callback : Routine Unit → Prop} {N M L : Nest} {h g : List Deed}

lemma trans (hr : Run callback N h M) (hr' : Run callback M g L) : Run callback N (h ++ g) L := by
  induction hr with
  | refl N => exact hr'
  | step hstep _ ih => exact .step hstep (ih hr')
  | move hmove _ ih => exact .move hmove (ih hr')

/-- A run passes through a nest after each part of its history. -/
lemma split (hr : Run callback N (h ++ g) M) : ∃ K, Run callback N h K ∧ Run callback K g M := by
  generalize hl : h ++ g = l at hr
  induction hr generalizing h with
  | refl N =>
      obtain ⟨rfl, rfl⟩ := List.append_eq_nil_iff.mp hl
      exact ⟨N, .refl N, .refl N⟩
  | @step N K M d l hstep hrun ih =>
      cases h with
      | nil =>
          subst hl
          exact ⟨N, .refl N, .step hstep hrun⟩
      | cons d' h =>
          obtain ⟨rfl, rfl⟩ := List.cons_eq_cons.mp hl
          obtain ⟨K', h₁, h₂⟩ := ih rfl
          exact ⟨K', .step hstep h₁, h₂⟩
  | move hmove _ ih =>
      obtain ⟨K, h₁, h₂⟩ := ih hl
      exact ⟨K, .move hmove h₁, h₂⟩

/-- Every deed of a run is a step of it. -/
lemma at_deed {d : Deed} (hr : Run callback N (h ++ d :: g) M) :
    ∃ K K', Run callback N h K ∧ Step K d K' := by
  generalize hl : h ++ d :: g = l at hr
  induction hr generalizing h with
  | refl N => simp at hl
  | step hstep _ ih =>
      cases h with
      | nil =>
          obtain ⟨rfl, rfl⟩ := List.cons_eq_cons.mp hl
          exact ⟨_, _, .refl _, hstep⟩
      | cons d' h =>
          obtain ⟨rfl, rfl⟩ := List.cons_eq_cons.mp hl
          obtain ⟨K, K', hK, hd⟩ := ih rfl
          exact ⟨K, K', .step hstep hK, hd⟩
  | move hmove _ ih =>
      obtain ⟨K, K', hK, hd⟩ := ih hl
      exact ⟨K, K', .move hmove hK, hd⟩

/-- What holds at the start of a run and is kept by its steps and moves holds all along it. -/
lemma invariant {I : List Deed → Nest → Prop} (hr : Run callback N h M) (hstart : I [] N)
    (hstep : ∀ g K d K', I g K → Step K d K' → I (g ++ [d]) K')
    (hmove : ∀ g K K', I g K → Move callback K K' → I g K') : I h M := by
  suffices hmain : ∀ g, I g N → I (g ++ h) M from hmain [] hstart
  clear hstart
  induction hr with
  | refl N => simp
  | @step N K M d h hs _ ih =>
      intro g hg
      rw [List.append_cons]
      exact ih _ (hstep _ _ _ _ hg hs)
  | move hm _ ih => exact fun g hg => ih g (hmove _ _ _ hg hm)

end Run

/-- The nest of threads that are not called back. -/
def ofSystem (P : System) : Nest where
  shared := P.shared
  frames t := [P.threads t]

lemma step_ofSystem {P Q : System} {e : Event} (hstep : System.Step P e Q) :
    Step (ofSystem P) ⟨0, e⟩ (ofSystem Q) := by
  cases hstep with
  | @act t a next x s hact heff =>
      have hstack : (ofSystem P).frames t = [.act a next] := congrArg (fun r => [r]) hact
      have hframes : Function.update (ofSystem P).frames t [next x] =
          (ofSystem ⟨s, Function.update P.threads t (next x)⟩).frames :=
        (Function.comp_update (fun r => [r]) P.threads t (next x)).symm
      have hstep := Step.act hstack heff
      rwa [hframes] at hstep

/-- What threads do is done by a nest in which nobody calls back. -/
lemma run_ofSystem {callback : Routine Unit → Prop} {P Q : System} {h : List Event}
    (hrun : System.Run P h Q) : Run callback (ofSystem P) (h.map (Deed.mk 0)) (ofSystem Q) := by
  induction hrun with
  | refl P => exact .refl _
  | step hstep _ ih => exact .step (step_ofSystem hstep) ih
  | @look P Q R h hlook _ ih =>
      have hmove : Move callback (ofSystem P) { ofSystem P with shared := Q.shared } :=
        .look (Q := Q) hlook
      have hsame : { ofSystem P with shared := Q.shared } = ofSystem Q := by
        rw [ofSystem, ofSystem, hlook.threads]
      rw [hsame] at hmove
      exact .move hmove ih

/-- A call of a routine in a run from `N` to `Q` with the history `h`: after the deeds `before` the
routine at the place `p` starts with it, and after the deeds `during` it has returned `a`. -/
structure Called {α : Type} (callback : Routine Unit → Prop) (N : Nest) (h : List Deed) (Q : Nest)
    (p : Place) (r : Routine α) (before during : List Deed) (a : α) : Prop where
  inside : ∃ S rest k after, h = before ++ during ++ after ∧ Run callback N before S ∧
    Run callback S (during ++ after) Q ∧ S.frames p.thread = r.bind k :: rest ∧
    rest.length = p.depth
  leads : r.Leads (deedsOf p during) (.done a)

/-- Each deed of a call is one of the whole run. -/
lemma Called.exists_deed {α : Type} {callback : Routine Unit → Prop} {N Q : Nest} {h : List Deed}
    {p : Place} {r : Routine α} {before during : List Deed} {a : α}
    (hc : Called callback N h Q p r before during a) {e : Event} (he : e ∈ deedsOf p during) :
    ∃ g d g', h = g ++ d :: g' ∧ d.place = p ∧ d.event = e ∧ before <+: g ∧
      g ++ [d] <+: before ++ during := by
  obtain ⟨S, rest, k, after, rfl, -⟩ := hc.inside
  obtain ⟨d, hd, hp, rfl⟩ := mem_deedsOf.mp he
  obtain ⟨l, l', rfl⟩ := List.append_of_mem hd
  exact ⟨before ++ l, d, l' ++ after, by simp, hp, rfl, by simp, by simp⟩

/-! ### What the places keep track of -/

end Nest

section Track

variable {σ : Type} {C : Conduct σ} {start : σ}

/-- What the routine at each place keeps track of after a history. -/
def Conduct.track (C : Conduct σ) (start : σ) (h : List Deed) (p : Place) : σ :=
  C.run start (deedsOf p h)

/-- A deed changes what its own place keeps track of only. -/
lemma Conduct.track_concat (h : List Deed) (d : Deed) :
    C.track start (h ++ [d]) = Function.update (C.track start h) d.place
      (C.after (C.track start h d.place) d.event.action d.event.answer) := by
  funext p
  by_cases hp : d.place = p
  · subst hp
    rw [Function.update_self, track, deedsOf_append, deedsOf_singleton_self, run_append]
    rfl
  · rw [Function.update_of_ne (Ne.symm hp), track, deedsOf_append, deedsOf_singleton_other hp,
      List.append_nil, track]

/-- Each routine of a stack keeps to a conduct, from what its place keeps track of, and it ends
with `start`. -/
def Conduct.Guides (C : Conduct σ) (start : σ) (kept : Nat → σ) : List (Routine Unit) → Prop
  | [] => True
  | r :: rest =>
      r.Heeds C (kept rest.length) (fun _ k => k = start) ∧ C.Guides start kept rest

lemma Conduct.Guides.congr {kept kept' : Nat → σ} {l : List (Routine Unit)}
    (h : C.Guides start kept l) (hsame : ∀ i < l.length, kept' i = kept i) :
    C.Guides start kept' l := by
  induction l with
  | nil => trivial
  | cons r rest ih =>
      refine ⟨?_, ih h.2 fun i hi => hsame i (Nat.lt_succ_of_lt hi)⟩
      rw [hsame _ (Nat.lt_succ_self _)]
      exact h.1

namespace Nest

variable {κ : Place → σ} {N M Q : Nest} {d : Deed} {h : List Deed} {callback : Routine Unit → Prop}

/-- Every routine of a nest keeps to a conduct, and a place above all routines of its stack keeps
track of nothing. -/
structure Heeds (C : Conduct σ) (start : σ) (κ : Place → σ) (N : Nest) : Prop where
  frames : ∀ t, C.Guides start (fun i => κ ⟨t, i⟩) (N.frames t)
  fresh : ∀ p, (N.frames p.thread).length ≤ p.depth → κ p = start

/-- Whatever a routine of the nest does is allowed. -/
lemma Heeds.asked (hN : N.Heeds C start κ) (hstep : Step N d M) :
    C.asks (κ d.place) d.event.action := by
  cases hstep with
  | @act t a next rest x s hstack heff =>
      have hthread := hN.frames t
      rw [hstack] at hthread
      exact hthread.1.1

lemma Heeds.step (hN : N.Heeds C start κ) (hstep : Step N d M) :
    M.Heeds C start
      (Function.update κ d.place (C.after (κ d.place) d.event.action d.event.answer)) := by
  cases hstep with
  | @act t a next rest x s hstack heff =>
      have hthread := hN.frames t
      rw [hstack] at hthread
      obtain ⟨⟨-, hnext⟩, hrest⟩ := hthread
      have hself := hnext x
      change Heeds C start (Function.update κ ⟨t, rest.length⟩ (C.after (κ ⟨t, rest.length⟩) a x))
        ⟨s, Function.update N.frames t (next x :: rest)⟩
      generalize C.after (κ ⟨t, rest.length⟩) a x = k at hself ⊢
      refine ⟨fun u => ?_, fun p hp => ?_⟩
      · by_cases hu : u = t
        · subst hu
          simp only [Function.update_self]
          refine ⟨?_, hrest.congr fun i hi => Function.update_of_ne ?_ _ _⟩
          · simp only [Function.update_self]
            exact hself
          · simp [Nat.ne_of_lt hi]
        · simp only [Function.update_of_ne hu]
          exact (hN.frames u).congr fun i _ => Function.update_of_ne (by simp [hu]) _ _
      · have hlength : ((Function.update N.frames t (next x :: rest)) p.thread).length =
            (N.frames p.thread).length := by
          by_cases hu : p.thread = t
          · rw [hu, Function.update_self, hstack, List.length_cons, List.length_cons]
          · rw [Function.update_of_ne hu]
        rw [hlength] at hp
        have hplace : p ≠ ⟨t, rest.length⟩ := by
          rintro rfl
          rw [hstack] at hp
          exact Nat.not_succ_le_self _ hp
        rw [Function.update_of_ne hplace]
        exact hN.fresh p hp

/-- A routine that is called back starts with nothing to keep track of, and one that returns has
nothing left. -/
lemma Heeds.move (hN : N.Heeds C start κ) (hmove : Move callback N M)
    (hcallback : ∀ r, callback r → r.Heeds C start fun _ k => k = start) :
    M.Heeds C start κ := by
  cases hmove with
  | @enter t c next rest r hstack hr =>
      have hnew : κ ⟨t, (N.frames t).length⟩ = start := hN.fresh _ (Nat.le_refl _)
      rw [hstack] at hnew
      refine ⟨fun u => ?_, fun p hp => hN.fresh p (Nat.le_trans ?_ hp)⟩
      · by_cases hu : u = t
        · subst hu
          simp only [Function.update_self]
          refine ⟨?_, hstack ▸ hN.frames u⟩
          simp only [hnew]
          exact hcallback r hr
        · simp only [Function.update_of_ne hu]
          exact hN.frames u
      · by_cases hu : p.thread = t
        · simp [hu, hstack]
        · simp [Function.update_of_ne hu]
  | @leave t r rest hstack =>
      have hthread := hN.frames t
      rw [hstack] at hthread
      refine ⟨fun u => ?_, fun p hp => ?_⟩
      · by_cases hu : u = t
        · subst hu
          simp only [Function.update_self]
          exact hthread.2
        · simp only [Function.update_of_ne hu]
          exact hN.frames u
      · by_cases hu : p.thread = t
        · simp only [hu, Function.update_self] at hp
          rcases Nat.eq_or_lt_of_le hp with hdepth | hdepth
          · have hplace : p = ⟨t, (r :: rest).length⟩ := by rw [hdepth, ← hu]
            rw [hplace]
            exact hthread.1
          · exact hN.fresh p (by rwa [hu, hstack])
        · simp only [Function.update_of_ne hu] at hp
          exact hN.fresh p hp
  | look hlook => exact ⟨hN.frames, hN.fresh⟩

/-- Where the threads start with callbacks, and these keep to a conduct, every routine does all
along a run. -/
theorem Run.heeds (hcallback : ∀ r, callback r → r.Heeds C start fun _ k => k = start)
    (hstart : ∀ t, ∃ r, N.frames t = [r] ∧ callback r) (hrun : Run callback N h Q) :
    Q.Heeds C start (C.track start h) := by
  refine hrun.invariant (I := fun h Q => Q.Heeds C start (C.track start h)) ⟨fun t => ?_, ?_⟩ ?_ ?_
  · obtain ⟨r, hstack, hr⟩ := hstart t
    rw [hstack]
    exact ⟨hcallback r hr, trivial⟩
  · exact fun p _ => rfl
  · intro g K d K' hK hstep
    rw [Conduct.track_concat]
    exact hK.step hstep
  · exact fun g K K' hK hmove => hK.move hmove hcallback

/-- Whatever is done in such a run is allowed. -/
lemma Run.asked {g g' : List Deed}
    (hcallback : ∀ r, callback r → r.Heeds C start fun _ k => k = start)
    (hstart : ∀ t, ∃ r, N.frames t = [r] ∧ callback r)
    (hrun : Run callback N (g ++ d :: g') Q) :
    C.asks (C.track start g d.place) d.event.action := by
  obtain ⟨K, K', hK, hstep⟩ := hrun.at_deed
  exact (hK.heeds hcallback hstart).asked hstep

end Nest

end Track

end ExternalCompiler
