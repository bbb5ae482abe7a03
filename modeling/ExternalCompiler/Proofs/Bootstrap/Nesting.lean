/-
A bootstrap leaves the flag as it found it, also in a callback of another bootstrap:

* `Routine.IsCalling`, `Nest.Stands`: where a routine stands in a nest; those above it were called
  back by its call;
* `Nest.Run.stands`: what a routine did while it stood at its place, whatever it called back;
* `Nest.Completes`: a routine runs at its place, from its start right to its return;
* `Nest.Completes.still`: while it neither calls nor writes the flag, the flag is written by other
  threads only;
* `Overrides`, `Nest.Completes.flag_kept`: a routine that overrides the flag puts it back, whatever
  it called back; `bootstrap_overrides`: so does a bootstrap, however it ends;
* `overrides_nest`: overrides that nest restore the flag, and so do bootstraps.
-/
import ExternalCompiler.Proofs.Bootstrap.Course
import ExternalCompiler.Proofs.Bootstrap.Exclusion
import ExternalCompiler.Proofs.ScopedFlag

namespace ExternalCompiler

/-! ### Calling -/

/-- The action is a call. -/
def Action.isCall : Action → Bool
  | .call _ => true
  | _ => false

/-- The action neither calls nor writes the flag. -/
def Action.isCalm (a : Action) : Bool :=
  !a.isCall && !a.writesFlag

lemma Action.isCalm_iff {a : Action} :
    a.isCalm = true ↔ a.isCall = false ∧ a.writesFlag = false := by
  simp [isCalm]

/-- The events leave the flag alone, or they override it: what the flag was is saved at first and
put back at last, and there are calm events only before and after that. -/
inductive Overrides : List Event → Prop
  | calm {es : List Event} (hcalm : ∀ e ∈ es, e.action.isCalm = true) : Overrides es
  | override {es₁ es₂ es₃ : List Event} {t t' : ThreadId} {s s' : Shared} {v saved : Bool}
      (hbefore : ∀ e ∈ es₁, e.action.isCalm = true) (hafter : ∀ e ∈ es₃, e.action.isCalm = true) :
      Overrides (es₁ ++ ⟨t, .access (.swapFlag v), saved, s⟩ ::
        (es₂ ++ ⟨t', .access (.storeFlag saved), (), s'⟩ :: es₃))

namespace Routine

variable {α : Type}

/-- The routine is in a call, or about to call. -/
def IsCalling : Routine α → Prop
  | act a _ => a.isCall = true
  | _ => False

/-- What is left between the first events and those that follow. -/
lemma Leads.exists_between {r r' : Routine α} {es es' : List Event} (h : r.Leads (es ++ es') r') :
    ∃ q, r.Leads es q ∧ q.Leads es' r' := by
  induction es generalizing r with
  | nil => exact ⟨r, .refl r, h⟩
  | cons e es ih =>
      cases h with
      | act t x s h =>
          obtain ⟨q, hq, hq'⟩ := ih h
          exact ⟨q, .act t x s hq, hq'⟩

end Routine

/-! ### Standing at a place -/

namespace Nest

variable {callback : Routine Unit → Prop} {N M Q S R : Nest} {p : Place} {d : Deed}
  {h g g' : List Deed} {r r' : Routine Unit}

/-- At the place `p` stands the routine `r`; if there are others above it, it is in a call. -/
def Stands (N : Nest) (p : Place) (r : Routine Unit) : Prop :=
  ∃ top rest, N.frames p.thread = top ++ r :: rest ∧ rest.length = p.depth ∧
    (top ≠ [] → r.IsCalling)

lemma Stands.of_frames_eq (hr : N.Stands p r) (hsame : M.frames p.thread = N.frames p.thread) :
    M.Stands p r := by
  rwa [Stands, hsame]

/-- Its own deed brings a routine on. -/
lemma Stands.step_own (hr : N.Stands p r) (hstep : Step N d M) (hd : d.place = p) :
    ∃ q, r.Leads [d.event] q ∧ M.Stands p q := by
  obtain ⟨top, rest, hstack, hdepth, -⟩ := hr
  cases hstep with
  | @act t a next rest' x s hstack' heff =>
      subst hd
      have htop : top = [] := by
        have hlength := congrArg List.length (hstack.symm.trans hstack')
        simpa [Deed.place, hdepth] using hlength
      subst htop
      obtain ⟨rfl, rfl⟩ := List.cons_eq_cons.mp (hstack.symm.trans hstack')
      exact ⟨next x, .act _ _ _ (.refl _), [], rest, Function.update_self _ _ _, rfl, by simp⟩

/-- The deeds at other places leave it where it stands. -/
lemma Stands.step_other (hr : N.Stands p r) (hstep : Step N d M) (hd : d.place ≠ p) :
    M.Stands p r := by
  cases hstep with
  | @act t a next rest' x s hstack' heff =>
      by_cases ht : p.thread = t
      · obtain ⟨top, rest, hstack, hdepth, hcall⟩ := hr
        subst ht
        rw [hstack] at hstack'
        cases top with
        | nil =>
            obtain ⟨-, rfl⟩ := List.cons_eq_cons.mp hstack'
            exact absurd (by rw [Deed.place, hdepth]) hd
        | cons r₀ top =>
            obtain ⟨rfl, rfl⟩ := List.cons_eq_cons.mp hstack'
            exact ⟨next x :: top, rest, Function.update_self _ _ _, hdepth,
              fun _ => hcall (by simp)⟩
      · exact hr.of_frames_eq (Function.update_of_ne ht _ _)

/-- Callbacks come and go above it, unless it returns itself. -/
lemma Stands.move (hr : N.Stands p r) (hmove : Move callback N M) (hdone : r ≠ .done ()) :
    M.Stands p r := by
  cases hmove with
  | @enter t c next rest' r₀ hstack' hr₀ =>
      by_cases ht : p.thread = t
      · obtain ⟨top, rest, hstack, hdepth, hcall⟩ := hr
        subst ht
        refine ⟨r₀ :: top, rest, ?_, hdepth, fun _ => ?_⟩
        · rw [← hstack', hstack]
          exact Function.update_self _ _ _
        · cases top with
          | nil =>
              obtain ⟨rfl, -⟩ := List.cons_eq_cons.mp (hstack.symm.trans hstack')
              rfl
          | cons r₁ top => exact hcall (by simp)
      · exact hr.of_frames_eq (Function.update_of_ne ht _ _)
  | @leave t r₀ rest' hstack' =>
      by_cases ht : p.thread = t
      · obtain ⟨top, rest, hstack, hdepth, hcall⟩ := hr
        subst ht
        cases top with
        | nil => exact absurd (List.cons_eq_cons.mp (hstack.symm.trans hstack')).1 hdone
        | cons r₁ top =>
            obtain ⟨-, htail⟩ := List.cons_eq_cons.mp (hstack.symm.trans hstack')
            refine ⟨top, rest, ?_, hdepth, fun _ => hcall (by simp)⟩
            exact (Function.update_self _ _ _).trans htail.symm
      · exact hr.of_frames_eq (Function.update_of_ne ht _ _)
  | look hlook => exact hr.of_frames_eq rfl

/-- **A routine stands at its place until it returns**, and its own deeds say how far it came. -/
theorem Run.stands (hrun : Run callback N h Q) (hr : N.Stands p r)
    (hleads : r.Leads (deedsOf p h) r') (hr' : r' ≠ .done ()) : Q.Stands p r' := by
  -- what is left of `r` is not done before `r'` is, so no move takes it off the stack
  induction hrun generalizing r with
  | refl N =>
      cases hleads
      exact hr
  | @step N M L d h hstep _ ih =>
      rw [← List.singleton_append, deedsOf_append] at hleads
      by_cases hd : d.place = p
      · obtain ⟨q, hq, hM⟩ := hr.step_own hstep hd
        rw [← hd, deedsOf_singleton_self, hd] at hleads
        exact ih hM (hleads.of_append hq)
      · rw [deedsOf_singleton_other hd] at hleads
        exact ih (hr.step_other hstep hd) hleads
  | move hmove _ ih =>
      refine ih (hr.move hmove ?_) hleads
      rintro rfl
      exact hr' (Routine.leads_done.mp hleads).2

/-- While a routine does not call, nobody else acts on its thread. -/
lemma Stands.place_eq (hr : N.Stands p r) (hcall : ¬ r.IsCalling) (hstep : Step N d M)
    (hthread : d.event.thread = p.thread) : d.place = p := by
  obtain ⟨top, rest, hstack, hdepth, htop⟩ := hr
  obtain rfl : top = [] := by
    by_contra hne
    exact hcall (htop hne)
  cases hstep with
  | @act t a next rest' x s hstack' heff =>
      rw [← hthread] at hstack
      obtain ⟨-, rfl⟩ := List.cons_eq_cons.mp (hstack.symm.trans hstack')
      rw [Deed.place, hdepth, hthread]

/-! ### From the start to the return -/

/-- From the nest `S`, where the routine at the place `p` starts with `r`, the nest comes to `R`
with the deeds `during`; the last of them is one of the routine, and with it `r` has returned
`a`. -/
structure Completes {α : Type} (callback : Routine Unit → Prop) (S : Nest) (p : Place)
    (r : Routine α) (during : List Deed) (a : α) (R : Nest) : Prop where
  starts : ∃ k rest, S.frames p.thread = r.bind k :: rest ∧ rest.length = p.depth
  run : Run callback S during R
  leads : r.Leads (deedsOf p during) (.done a)
  ends : ∀ d ∈ during.getLast?, d.place = p

/-- A run goes through the step of each of its deeds. -/
lemma Run.cut (hrun : Run callback N (h ++ d :: g) Q) :
    ∃ K K', Run callback N h K ∧ Step K d K' ∧ Run callback K' g Q := by
  generalize hl : h ++ d :: g = l at hrun
  induction hrun generalizing h with
  | refl N => simp at hl
  | step hstep hrun ih =>
      cases h with
      | nil =>
          obtain ⟨rfl, rfl⟩ := List.cons_eq_cons.mp hl
          exact ⟨_, _, .refl _, hstep, hrun⟩
      | cons d' h =>
          obtain ⟨rfl, rfl⟩ := List.cons_eq_cons.mp hl
          obtain ⟨K, K', hK, hd, hK'⟩ := ih rfl
          exact ⟨K, K', .step hstep hK, hd, hK'⟩
  | move hmove _ ih =>
      obtain ⟨K, K', hK, hd, hK'⟩ := ih hl
      exact ⟨K, K', .move hmove hK, hd, hK'⟩

/-- No other thread than that of the place `p` writes the flag. -/
def FlagLeftTo (p : Place) (h : List Deed) : Prop :=
  ∀ d ∈ h, d.event.thread ≠ p.thread → d.event.action.writesFlag = false

/-- The flag is kept where nobody writes it. -/
lemma Run.flag_eq (hrun : Run callback N h Q)
    (hkeeps : ∀ d ∈ h, d.event.action.writesFlag = false) :
    Q.shared.compileTheWorld = N.shared.compileTheWorld := by
  induction hrun with
  | refl N => rfl
  | step hstep _ ih =>
      obtain ⟨hd, hh⟩ := List.forall_mem_cons.mp hkeeps
      exact (ih hh).trans (keeps_flag hd _ _ _ _ hstep.effect)
  | move hmove _ ih =>
      refine (ih hkeeps).trans ?_
      obtain hshared | ⟨holder, hshared⟩ := hmove.shared
      · rw [hshared]
      · rw [hshared]
        rfl

namespace Completes

variable {α : Type} {r : Routine α} {during : List Deed} {a : α}

/-- Before a deed of the routine that is no call, nobody else acts on its thread. -/
lemma place_eq (hc : Completes callback S p r during a R) (hcut : during = g ++ d :: g')
    {e : Event} {es : List Event} (hnext : deedsOf p (d :: g') = e :: es)
    (hcall : e.action.isCall = false) (hthread : d.event.thread = p.thread) : d.place = p := by
  obtain ⟨k, rest, hstack, hdepth⟩ := hc.starts
  have hrun := hc.run
  have hleads := hc.leads.bind k
  rw [hcut] at hrun
  rw [hcut, deedsOf_append, hnext] at hleads
  obtain ⟨K, K', hK, hstep⟩ := hrun.at_deed
  obtain ⟨q, hq, hq'⟩ := hleads.exists_between
  cases hq' with
  | act t x s h =>
      have hstands : K.Stands p _ := hK.stands ⟨[], rest, hstack, hdepth, by simp⟩ hq (by simp)
      exact hstands.place_eq (by simp [Routine.IsCalling, hcall]) hstep hthread

/-- A deed of the routine is still to come before it has returned. -/
lemma exists_next (hc : Completes callback S p r during a R) (hcut : during = g ++ d :: g') :
    ∃ e es, deedsOf p (d :: g') = e :: es := by
  refine List.exists_cons_of_ne_nil fun hnone => ?_
  have hlast : (d :: g').getLast (by simp) ∈ during.getLast? := by
    rw [hcut, List.getLast?_append_of_ne_nil _ (by simp), List.getLast?_eq_getLast_of_ne_nil]
    rfl
  have hmem := mem_deedsOf.mpr ⟨_, List.getLast_mem _, hc.ends _ hlast, rfl⟩
  rw [hnone] at hmem
  cases hmem

/-- While the routine neither calls nor writes the flag, nor do the other threads, the flag is not
written. -/
lemma still (hc : Completes callback S p r during a R) (hothers : FlagLeftTo p during)
    (hcut : during = g ++ (h ++ g')) (hcalm : ∀ e ∈ deedsOf p h, e.action.isCalm = true)
    (hnext : ∀ e ∈ (deedsOf p g').head?, e.action.isCall = false) :
    ∀ d ∈ h, d.event.action.writesFlag = false := by
  intro d hd
  by_cases hthread : d.event.thread = p.thread
  · obtain ⟨l, l', rfl⟩ := List.append_of_mem hd
    have hsplit : during = (g ++ l) ++ d :: (l' ++ g') := by simpa using hcut
    -- the next deed of the routine is calm, or the first one after `h`
    obtain ⟨e, es, hes⟩ := hc.exists_next hsplit
    have hcall : e.action.isCall = false := by
      rw [← List.cons_append, deedsOf_append, List.append_eq_cons_iff] at hes
      obtain ⟨-, hg'⟩ | ⟨es', hl', -⟩ := hes
      · exact hnext e (by rw [hg']; rfl)
      · exact (Action.isCalm_iff.mp (hcalm e (by rw [deedsOf_append, hl']; simp))).1
    have hplace := hc.place_eq hsplit hes hcall hthread
    exact (Action.isCalm_iff.mp (hcalm _ (mem_deedsOf.mpr ⟨d, hd, hplace, rfl⟩))).2
  · exact hothers d (by simp [hcut, hd]) hthread

/-- Where the routine did nothing but calm deeds before, its deed finds the flag as it was at the
start. -/
lemma flag_before (hc : Completes callback S p r during a R) (hothers : FlagLeftTo p during)
    {es es' : List Event} {e : Event} (hdeeds : deedsOf p during = es ++ e :: es')
    (hcalm : ∀ e ∈ es, e.action.isCalm = true) (hcall : e.action.isCall = false) :
    ∃ s s', Effect e.thread s e.action e.answer s' ∧
      s.compileTheWorld = S.shared.compileTheWorld := by
  obtain ⟨g, d, g', hcut, rfl, rfl, rfl, -⟩ := exists_of_deedsOf_eq_append_cons hdeeds
  have hhead : (deedsOf d.place (d :: g')).head? = some d.event := by simp [deedsOf]
  have hstill := hc.still hothers (hcut.trans (List.nil_append _).symm) hcalm
    (by simpa [hhead] using hcall)
  have hrun := hc.run
  rw [hcut] at hrun
  obtain ⟨K, K', hK, hstep, -⟩ := hrun.cut
  exact ⟨K.shared, K'.shared, hstep.effect, hK.flag_eq hstill⟩

/-- Where the routine does nothing but calm deeds afterwards, the flag stays at its return as its
deed left it. -/
lemma flag_after (hc : Completes callback S p r during a R) (hothers : FlagLeftTo p during)
    {es es' : List Event} {e : Event} (hdeeds : deedsOf p during = es ++ e :: es')
    (hcalm : ∀ e ∈ es', e.action.isCalm = true) :
    ∃ s s', Effect e.thread s e.action e.answer s' ∧
      R.shared.compileTheWorld = s'.compileTheWorld := by
  obtain ⟨g, d, g', hcut, rfl, rfl, -, rfl⟩ := exists_of_deedsOf_eq_append_cons hdeeds
  have hsplit : during = (g ++ [d]) ++ (g' ++ []) := by simpa using hcut
  have hstill := hc.still hothers hsplit hcalm (by simp [deedsOf])
  have hrun := hc.run
  rw [hcut] at hrun
  obtain ⟨K, K', -, hstep, hK'⟩ := hrun.cut
  exact ⟨K.shared, K'.shared, hstep.effect, hK'.flag_eq hstill⟩

/-- **Where events override the flag or leave it alone, the flag is kept**, whatever is called back
between them. -/
theorem flag_kept (hc : Completes callback S p r during a R) (hothers : FlagLeftTo p during)
    (hdeeds : Overrides (deedsOf p during)) :
    R.shared.compileTheWorld = S.shared.compileTheWorld := by
  generalize hes : deedsOf p during = es at hdeeds
  cases hdeeds with
  | calm hcalm =>
      have hsplit : during = [] ++ (during ++ []) := by simp
      exact hc.run.flag_eq (hc.still hothers hsplit (hes ▸ hcalm) (by simp [deedsOf]))
  | @override es₁ es₂ es₃ t t' s s' v saved hbefore hafter =>
      obtain ⟨s₁, _, hswap, hs₁⟩ := hc.flag_before hothers hes hbefore rfl
      have hstore : deedsOf p during = (es₁ ++ ⟨t, .access (.swapFlag v), saved, s⟩ :: es₂) ++
          ⟨t', .access (.storeFlag saved), (), s'⟩ :: es₃ := by simpa using hes
      obtain ⟨s₂, s₃, hback, hs₃⟩ := hc.flag_after hothers hstore hafter
      calc R.shared.compileTheWorld
          = s₃.compileTheWorld := hs₃
        _ = saved := by rw [(effect_access.mp hback).2]; rfl
        _ = s₁.compileTheWorld := (effect_access.mp hswap).1
        _ = S.shared.compileTheWorld := hs₁

end Completes

end Nest

/-! ### Bootstraps -/

/-- Every bootstrap that got its window puts back what it saved, and does nothing to the flag
afterwards. -/
lemma Ending.exists_store {saved : Bool} {x : Except ServiceError BootstrapReport}
    {es : List Event} {result : Except ServiceError (Option BootstrapReport)}
    (h : Ending saved x es result) :
    ∃ es₁ t s es₂, es = es₁ ++ ⟨t, .access (.storeFlag saved), (), s⟩ :: es₂ ∧
      ∀ e ∈ es₂, e.action.isCalm = true := by
  cases h with
  | brokenOff e t₁ t₂ s₁ s₂ =>
      exact ⟨[], t₁, s₁, [⟨t₂, .access .closeWindow, (), s₂⟩], rfl,
        List.forall_mem_singleton.mpr rfl⟩
  | refused report e t₁ t₂ t₃ t₄ s₁ s₂ s₃ s₄ => exact ⟨[_, _, _], t₄, s₄, [], rfl, by simp⟩
  | finished report t₁ t₂ t₃ s₁ s₂ s₃ => exact ⟨[_, _], t₃, s₃, [], rfl, by simp⟩

/-- A bootstrap overrides the flag if it gets its window, and else it does nothing. -/
lemma bootstrap_overrides {polls : Nat} {c : Config} {cancellable : Bool} {methods : List Method}
    {broker : Broker} {result : Except ServiceError (Option BootstrapReport)} {es : List Event}
    (h : (Routine.bootstrap polls c cancellable methods broker).Leads es (.done result)) :
    Overrides es := by
  by_cases hmode : c.executionMode = .interpreted
  · rw [Routine.bootstrap, if_pos hmode] at h
    obtain ⟨rfl, -⟩ := Routine.leads_done.mp h
    exact .calm (by simp)
  by_cases hopen : ∃ e ∈ es, e.opensWindow
  · obtain ⟨t, s, t', saved, s', es₁, es₂, x, rfl, -, hend⟩ :=
      Routine.bootstrap_leads_done hmode h hopen
    obtain ⟨es₃, u, s₃, es₄, rfl, hcalm⟩ := hend.exists_store
    have hoverride : Overrides ([⟨t, .access .openWindow, true, s⟩] ++
        ⟨t', .access (.swapFlag false), saved, s'⟩ ::
          ((es₁ ++ es₃) ++ ⟨u, .access (.storeFlag saved), (), s₃⟩ :: es₄)) :=
      .override (List.forall_mem_singleton.mpr rfl) hcalm
    simpa using hoverride
  · rw [Routine.bootstrap, if_neg hmode] at h
    obtain ⟨t, opened, s, es', rfl, h'⟩ := Routine.leads_access_done.mp h
    cases opened with
    | false =>
        obtain ⟨rfl, -⟩ := Routine.leads_done.mp h'
        exact .calm (List.forall_mem_singleton.mpr rfl)
    | true => exact absurd ⟨_, List.mem_cons_self, rfl⟩ hopen

/-! ### A bootstrap in the callback of another one -/

/-- Three overrides, two of them inside another one, and stores between them. -/
def nestedSteps : List FlagStep :=
  [.enter false, .set true, .enter false, .enter true, .leave 2, .set true, .leave 1, .leave 0]

/-- Nobody bootstraps and a request counts as handled; the flag is on or off. -/
def handledWith (flag : Bool) : Shared :=
  { compileTheWorld := flag, service := { requestHandled := true } }

/-- A bootstrap of nothing that can be cancelled. -/
def cancellable : Routine (Except ServiceError (Option BootstrapReport)) :=
  Routine.bootstrap 1 {} true [] .outside

/-- A callback that bootstraps. -/
def bootsAgain : Routine Unit :=
  cancellable.bind fun _ => .done ()

/-- A thread with a bootstrap; the flag is on. -/
def announcing : Nest where
  shared := handledWith true
  frames
    | 1 => [smallBootstrap]
    | _ => [.done ()]

section Announced

variable {callback : Routine Unit → Prop} {frames : ThreadId → List (Routine Unit)}

/-- A bootstrap in a callback is cancelled at its first look at the token. -/
lemma completes_cancelled {k : Except ServiceError (Option BootstrapReport) → Routine Unit}
    {r : Routine Unit} (hstack : frames 1 = [cancellable.bind k, r]) :
    ∃ during frames', Nest.Completes callback ⟨handledWith false, frames⟩ ⟨1, 1⟩ cancellable during
        (.error (.bootstrapCancelled 0 0)) ⟨handledWith false, frames'⟩ ∧
      frames' 1 = [k (.error (.bootstrapCancelled 0 0)), r] ∧ ∀ d ∈ during, d.place = ⟨1, 1⟩ :=
  ⟨_, _,
    { starts := ⟨k, [r], hstack, rfl⟩
      run := .step (.act (t := 1) hstack (effect_access.mpr ⟨rfl, rfl⟩))
        (.step (.act (t := 1) rfl (effect_access.mpr ⟨rfl, rfl⟩))
        (.step (.act (t := 1) (a := .call .now) (x := (0 : Nat)) rfl rfl)
        (.step (.act (t := 1) (a := .pause (.sleep 100)) (x := ()) rfl rfl)
        (.step (.act (t := 1) (a := .call (.size .top)) (x := (0 : Nat)) rfl rfl)
        (.step (.act (t := 1) (a := .call .isCancelled) (x := true) rfl rfl)
        (.step (.act (t := 1) (a := .call .now) (x := (0 : Nat)) rfl rfl)
        (.step (.act (t := 1) rfl (effect_access.mpr ⟨rfl, rfl⟩))
        (.step (.act (t := 1) rfl (effect_access.mpr ⟨rfl, rfl⟩)) (.refl _)))))))))
      leads := .act _ _ _ (.act _ _ _ (.act _ _ _ (.act _ _ _ (.act _ _ _ (.act _ _ _ (.act _ _ _
        (.act _ _ _ (.act _ _ _ (.refl _)))))))))
      ends := by rintro d ⟨⟩; rfl }, rfl, by simp [Deed.place]⟩

/-- A bootstrap switches the flag off and tells the external runtime that it is finished. The call
calls back, and when the callback has returned the bootstrap ends. -/
lemma run_announcing {r : Routine Unit} (hr : callback r) (hstack : frames 1 = [smallBootstrap]) :
    ∃ before frames' q report,
      Nest.Run callback ⟨handledWith true, frames⟩ before ⟨handledWith false, frames'⟩ ∧
      frames' 1 = [r, q] ∧ (∀ d ∈ before, d.place = ⟨1, 0⟩) ∧
      ∀ frames'', frames'' 1 = [.done (), q] → ∃ after R,
        Nest.Run callback ⟨handledWith false, frames''⟩ after R ∧
        (Routine.bootstrap 1 {} false [] .outside).Leads (deedsOf ⟨1, 0⟩ (before ++ after))
          (.done (.ok (some report))) ∧
        after ≠ [] ∧ ∀ d ∈ after, d.place = ⟨1, 0⟩ := by
  refine ⟨_, _, _, _,
    .step (.act (t := 1) hstack (effect_access.mpr ⟨rfl, rfl⟩))
      (.step (.act (t := 1) rfl (effect_access.mpr ⟨rfl, rfl⟩))
      (.step (.act (t := 1) (a := .call .now) (x := (0 : Nat)) rfl rfl)
      (.step (.act (t := 1) (a := .pause (.sleep 100)) (x := ()) rfl rfl)
      (.step (.act (t := 1) (a := .call (.size .top)) (x := (0 : Nat)) rfl rfl)
      (.step (.act (t := 1) rfl (effect_access.mpr ⟨rfl, rfl⟩))
      (.step (.act (t := 1) rfl (effect_access.mpr ⟨rfl, rfl⟩))
      (.step (.act (t := 1) (a := .call .now) (x := (0 : Nat)) rfl rfl)
      (.step (.act (t := 1) rfl (effect_access.mpr ⟨rfl, rfl⟩))
      (.move (.enter (t := 1) rfl hr) (.refl _)))))))))), rfl, by simp [Deed.place],
    fun frames'' hreturned => ⟨_, _,
      .move (.leave (t := 1) hreturned)
        (.step (.act (t := 1) (a := .call .bootstrapFinished) (x := .ok ()) rfl rfl)
        (.step (.act (t := 1) rfl (effect_access.mpr ⟨rfl, rfl⟩)) (.refl _))),
      .act _ _ _ (.act _ _ _ (.act _ _ _ (.act _ _ _ (.act _ _ _ (.act _ _ _ (.act _ _ _
        (.act _ _ _ (.act _ _ _ (.act _ _ _ (.act _ _ _ (.refl _))))))))))),
      by simp, by simp [Deed.place]⟩⟩

end Announced

/-! ### Overrides nest -/

/-- **Overrides of a flag nest.** A flag without live overrides is stored, overridden and left again
in an order that nests: only the newest override is left, and nothing is stored while none is live.
Then every override that is left brings back the value right before it began, the flag has its first
value whenever no override is live, and, as long as nothing was stored, it has the value of its
newest override. And a bootstrap, whether it is called back by another one or not, leaves the flag
as it found it: whatever it ends with and whatever its own calls call back, as long as no other
thread writes the flag. -/
theorem overrides_nest {f : ScopedFlag} {l : List FlagStep} (hf : f.live = []) (hl : f.Nests l) :
    f.Restored l ∧
      ∀ callback S p polls c cancellable methods broker during result R,
        Nest.Completes callback S p (Routine.bootstrap polls c cancellable methods broker) during
            result R →
          (∀ d ∈ during, d.event.thread ≠ p.thread → d.event.action.writesFlag = false) →
            R.shared.compileTheWorld = S.shared.compileTheWorld := by
  refine ⟨hl.restored hf, ?_⟩
  intro callback S p polls c cancellable methods broker during result R hbootstrap hothers
  exact hbootstrap.flag_kept hothers (bootstrap_overrides hbootstrap.leads)

/-- The flag is on. A bootstrap switches it off and tells the external runtime that it is finished;
the call bootstraps again, and that bootstrap is cancelled. It leaves the flag off, and the first
one leaves it on. -/
theorem overrides_nest_announced :
    ({ value := true } : ScopedFlag).Nests nestedSteps ∧
      ({ value := true } : ScopedFlag).Restored nestedSteps ∧
      ∃ during inner report K K' R,
        Nest.Completes (· = bootsAgain) announcing ⟨1, 0⟩
          (Routine.bootstrap 1 {} false [] .outside) during (.ok (some report)) R ∧
        Nest.Completes (· = bootsAgain) K ⟨1, 1⟩ cancellable inner
          (.error (.bootstrapCancelled 0 0)) K' ∧
        inner <:+: during ∧ (∀ d ∈ during, d.event.thread = 1) ∧
        K.shared.compileTheWorld = false ∧ K'.shared.compileTheWorld = false ∧
        R.shared.compileTheWorld = true := by
  have hl : ({ value := true } : ScopedFlag).Nests nestedSteps := by decide
  obtain ⟨hrestored, hflag⟩ := overrides_nest rfl hl
  obtain ⟨before, frames, q, report, hbefore, hcalled, hbefore', hresume⟩ :=
    @run_announcing (· = bootsAgain) announcing.frames bootsAgain rfl rfl
  obtain ⟨inner, frames', hinner, hreturned, hinner'⟩ :=
    completes_cancelled (k := fun _ => .done ()) hcalled
  obtain ⟨after, R, hafter, hleads, hne, hafter'⟩ := hresume frames' hreturned
  have hown : deedsOf ⟨1, 0⟩ (before ++ (inner ++ after)) = deedsOf ⟨1, 0⟩ (before ++ after) := by
    have hnone : deedsOf ⟨1, 0⟩ inner = [] := by
      simp only [deedsOf, List.map_eq_nil_iff, List.filter_eq_nil_iff]
      exact fun d hd => by simp [hinner' d hd]
    rw [deedsOf_append, deedsOf_append, hnone, List.nil_append, ← deedsOf_append]
  have houter : Nest.Completes (· = bootsAgain) announcing ⟨1, 0⟩
      (Routine.bootstrap 1 {} false [] .outside) (before ++ (inner ++ after)) (.ok (some report))
      R := {
    starts := ⟨_, [], rfl, rfl⟩
    run := hbefore.trans (hinner.run.trans hafter)
    leads := hown ▸ hleads
    ends := fun d hd => hafter' d (by
      rw [← List.append_assoc, List.getLast?_append_of_ne_nil _ hne] at hd
      exact List.mem_of_getLast? hd) }
  have hthread : ∀ d ∈ before ++ (inner ++ after), d.event.thread = 1 := by
    intro d hd
    rcases List.mem_append.mp hd with hd | hd
    · exact congrArg Place.thread (hbefore' d hd)
    rcases List.mem_append.mp hd with hd | hd
    · exact congrArg Place.thread (hinner' d hd)
    · exact congrArg Place.thread (hafter' d hd)
  have hwithin : inner <:+: before ++ (inner ++ after) := ⟨before, after, by simp⟩
  refine ⟨hl, hrestored, _, inner, report, _, _, R, houter, hinner, hwithin, hthread, rfl, ?_, ?_⟩
  · exact hflag _ _ _ _ _ _ _ _ _ _ _ hinner fun d hd hother =>
      absurd (hthread d (hwithin.subset hd)) hother
  · exact hflag _ _ _ _ _ _ _ _ _ _ _ houter fun d hd hother => absurd (hthread d hd) hother

end ExternalCompiler
