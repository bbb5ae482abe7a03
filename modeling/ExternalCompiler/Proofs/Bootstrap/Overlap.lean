/-
Bootstraps that overlap, and the flag that each of them overrides:

* `Overlap`: a bootstrap closed its window and has not put the flag back, and another one overrides
  it;
* `Faithful`: whoever overrides the flag saved its first value; `faithful_of_no_overlap`: so it is
  until two bootstraps overlap;
* `bootstraps_flag`: the flag is right in every run if it was off at first or no two bootstraps
  overlap, and only then;
* `overlapping_bootstraps_flag`: two bootstraps that leave it wrong.
-/
import ExternalCompiler.Proofs.Bootstrap.Stages

namespace ExternalCompiler

/-! ### Who overrides the flag -/

/-- A bootstrap that closed its window has not put the flag back, and another one overrides it. -/
def Overlap (σ : ThreadId → Stage) : Prop :=
  ∃ t u saved saved', σ t = .trailing saved ∧ σ u = .overriding saved'

/-- Whoever overrides the flag saved its first value `v` and finds it off; if nobody does, the flag
has this value. While the value is on, at most one bootstrap overrides it. -/
structure Faithful (v : Bool) (σ : ThreadId → Stage) (s : Shared) : Prop where
  saved : ∀ t b, (σ t).saved? = some b → b = v ∧ s.compileTheWorld = false
  free : (∀ t, (σ t).saved? = none) → s.compileTheWorld = v
  sole : v = true → ∀ t u b c, (σ t).saved? = some b → (σ u).saved? = some c → t = u

section Faithful

variable {v : Bool} {σ : ThreadId → Stage} {P Q : System} {e : Event}

/-- If the flag was off at first, it is never on. -/
lemma Faithful.flag_off {s : Shared} (h : Faithful false σ s) : s.compileTheWorld = false := by
  by_cases hfree : ∀ t, (σ t).saved? = none
  · exact h.free hfree
  · push Not at hfree
    obtain ⟨t, ht⟩ := hfree
    obtain ⟨b, hb⟩ := Option.ne_none_iff_exists'.mp ht
    exact (h.saved t b hb).2

/-- A passage moves the flag only with the override. -/
lemma Passage.override {τ τ' : Stage} {s s' : Shared} (h : Passage τ s τ' s') :
    (τ'.saved? = τ.saved? ∧ s'.compileTheWorld = s.compileTheWorld) ∨
      (τ = .claimed ∧ τ' = .overriding s.compileTheWorld ∧ s'.compileTheWorld = false) ∨
      (τ.saved? = some s'.compileTheWorld ∧ τ'.saved? = none) := by
  cases h with
  | stay hflag => exact .inl ⟨rfl, hflag⟩
  | opened hflag => exact .inl ⟨rfl, hflag⟩
  | taken hflag => exact .inr (.inl ⟨rfl, rfl, hflag⟩)
  | putBack hflag => exact .inr (.inr ⟨congrArg some hflag.symm, rfl⟩)
  | closed hflag => exact .inl ⟨rfl, hflag⟩
  | released hflag => exact .inl ⟨rfl, hflag⟩
  | finished hflag => exact .inr (.inr ⟨congrArg some hflag.symm, rfl⟩)

/-- A bootstrap that takes its override without an overlap saves the first value. -/
lemma Faithful.flag_of_claimed {t : ThreadId} (h : Faithful v σ P.shared) (horderly : Orderly σ P)
    (ht : σ t = .claimed) (hnone : v = true → ∀ u saved, σ u ≠ .trailing saved) :
    P.shared.compileTheWorld = v ∧ (v = true → ∀ u, (σ u).saved? = none) := by
  have hfree : v = true → ∀ u, (σ u).saved? = none := by
    intro hv u
    cases hu : σ u with
    | trailing saved => exact absurd hu (hnone hv u saved)
    | overriding saved =>
        have hut := horderly.alone u t (by rw [hu]; rfl) (by rw [ht]; rfl)
        rw [hut, ht] at hu
        cases hu
    | outside | claimed | restored => rfl
  refine ⟨?_, hfree⟩
  cases v with
  | false => exact h.flag_off
  | true => exact h.free (hfree rfl)

/-- A thread that keeps its override, or its lack of one, leaves everybody faithful. -/
lemma Faithful.keep {t : ThreadId} {τ : Stage} {s s' : Shared} (h : Faithful v σ s)
    (hsaved : τ.saved? = (σ t).saved?) (hflag : s'.compileTheWorld = s.compileTheWorld) :
    Faithful v (Function.update σ t τ) s' := by
  have hsame : ∀ u, (Function.update σ t τ u).saved? = (σ u).saved? := by
    intro u
    by_cases hu : u = t
    · rw [hu, Function.update_self, hsaved]
    · rw [Function.update_of_ne hu]
  exact ⟨by simpa only [hsame, hflag] using h.saved, by simpa only [hsame, hflag] using h.free,
    by simpa only [hsame] using h.sole⟩

/-- A thread that overrides the flag and saved its first value leaves everybody faithful, if nobody
else overrides the flag while the first value is on. -/
lemma Faithful.take {t : ThreadId} {s s' : Shared} (h : Faithful v σ s)
    (hfree : v = true → ∀ u, (σ u).saved? = none) (hflag : s'.compileTheWorld = false) :
    Faithful v (Function.update σ t (.overriding v)) s' := by
  have hsole : v = true → ∀ u b,
      (Function.update σ t (.overriding v) u).saved? = some b → u = t := by
    intro hv u b hb
    by_contra hu
    rw [Function.update_of_ne hu, hfree hv u] at hb
    cases hb
  refine ⟨fun u b hb => ⟨?_, hflag⟩, fun hnone => ?_, fun hv u w b c hb hc => ?_⟩
  · by_cases hu : u = t
    · rw [hu, Function.update_self] at hb
      exact (Option.some.inj hb).symm
    · rw [Function.update_of_ne hu] at hb
      exact (h.saved u b hb).1
  · have ht := hnone t
    rw [Function.update_self] at ht
    cases ht
  · exact (hsole hv u b hb).trans (hsole hv w c hc).symm

/-- A thread that puts the flag back leaves everybody faithful. -/
lemma Faithful.putBack {t : ThreadId} {τ : Stage} {s s' : Shared} (h : Faithful v σ s)
    (ht : (σ t).saved? = some s'.compileTheWorld) (hτ : τ.saved? = none) :
    Faithful v (Function.update σ t τ) s' := by
  obtain ⟨hv, -⟩ := h.saved t _ ht
  have hback : ∀ u b, (Function.update σ t τ u).saved? = some b →
      u ≠ t ∧ (σ u).saved? = some b := by
    intro u b hb
    have hu : u ≠ t := by
      rintro rfl
      rw [Function.update_self, hτ] at hb
      cases hb
    exact ⟨hu, by rwa [Function.update_of_ne hu] at hb⟩
  refine ⟨fun u b hb => ?_, fun _ => hv, fun hon u w b c hb hc => ?_⟩
  · obtain ⟨hu, hb⟩ := hback u b hb
    refine ⟨(h.saved u b hb).1, ?_⟩
    cases v with
    | false => exact hv
    | true => exact absurd (h.sole rfl u t b _ hb ht) hu
  · exact h.sole hon u w b c (hback u b hb).2 (hback w c hc).2

/-- Without an overlap, a step leaves everybody faithful. -/
lemma Faithful.step (h : Faithful v σ P.shared) (horderly : Orderly σ P)
    (hstep : System.Step P e Q)
    (hno : v = true → ¬ Overlap (Function.update σ e.thread ((σ e.thread).after e))) :
    Faithful v (Function.update σ e.thread ((σ e.thread).after e)) Q.shared := by
  rcases (horderly.passage hstep).1.override with ⟨hsaved, hflag⟩ | ⟨hfrom, hto, hflag⟩ |
    ⟨hfrom, hto⟩
  · exact h.keep hsaved hflag
  · rw [hto] at hno ⊢
    have hnone : v = true → ∀ u saved, σ u ≠ .trailing saved := by
      intro hv u saved hu
      have hut : u ≠ e.thread := by
        rintro rfl
        rw [hfrom] at hu
        cases hu
      exact hno hv ⟨u, e.thread, saved, _, (Function.update_of_ne hut _ _).trans hu,
        Function.update_self _ _ _⟩
    obtain ⟨hv, hfree⟩ := h.flag_of_claimed horderly hfrom hnone
    rw [hv]
    exact h.take hfree hflag
  · exact h.putBack hfrom hto

/-- A bootstrap that trails after a step saved the first value of the flag. -/
lemma Faithful.saved_after (h : Faithful v σ P.shared) (horderly : Orderly σ P)
    (hstep : System.Step P e Q) {t : ThreadId} {saved : Bool}
    (ht : Function.update σ e.thread ((σ e.thread).after e) t = .trailing saved) : saved = v := by
  by_cases het : t = e.thread
  · rw [het, Function.update_self] at ht
    rcases (horderly.passage hstep).1.override with ⟨hsaved, -⟩ | ⟨-, hto, -⟩ | ⟨-, hto⟩
    · exact (h.saved e.thread saved (by rw [← hsaved, ht]; rfl)).1
    · rw [ht] at hto
      cases hto
    · rw [ht] at hto
      cases hto
  · rw [Function.update_of_ne het] at ht
    exact (h.saved t saved (by rw [ht]; rfl)).1

end Faithful

/-! ### The flag along a run -/

/-- The flag is right after a history: it is off while a bootstrap overrides it, and it has its
first value `v` when no bootstrap has anything to put back. -/
structure FlagRight (v : Bool) (h : List Event) (s : Shared) : Prop where
  off : ∀ t saved, stage t h = .overriding saved → s.compileTheWorld = false
  back : (∀ t, (stage t h).saved? = none) → s.compileTheWorld = v

lemma Faithful.flagRight {v : Bool} {h : List Event} {s : Shared}
    (hf : Faithful v (stage · h) s) : FlagRight v h s where
  off t saved ht := (hf.saved t saved (by rw [ht]; rfl)).2
  back := hf.free

section Runs

variable {P Q : System} {h : List Event}

lemma faithful_nil (s : Shared) : Faithful s.compileTheWorld (stage · []) s where
  saved := by rintro t b ⟨⟩
  free _ := rfl
  sole := by rintro - t u b c ⟨⟩

lemma Faithful.look {R : System} {v : Bool} {σ : ThreadId → Stage} (hf : Faithful v σ P.shared)
    (hlook : System.Look P R) : Faithful v σ R.shared := by
  obtain ⟨holder, hshared⟩ := hlook.shared
  rw [hshared]
  exact ⟨hf.saved, hf.free, hf.sole⟩

/-- As long as no two bootstraps overlap, everybody is faithful; if the flag was off at first,
everybody always is. -/
theorem faithful_of_no_overlap (hboots : ∀ t, Boots (P.threads t)) (hrun : System.Run P h Q)
    (hno : P.shared.compileTheWorld = true → ∀ h₁ h₂, h = h₁ ++ h₂ → ¬ Overlap (stage · h₁)) :
    Faithful P.shared.compileTheWorld (stage · h) Q.shared := by
  refine hrun.invariant (I := fun h Q =>
    (P.shared.compileTheWorld = true → ∀ h₁ h₂, h = h₁ ++ h₂ → ¬ Overlap (stage · h₁)) →
      Faithful P.shared.compileTheWorld (stage · h) Q.shared) ?_ ?_ ?_ hno
  · exact fun _ => faithful_nil P.shared
  · intro g R e R' hR ih hstep hno
    have hg := ih fun hv h₁ h₂ hh => hno hv h₁ (h₂ ++ [e]) (by rw [hh, List.append_assoc])
    rw [stage_concat]
    refine hg.step (orderly hboots hR) hstep fun hv => ?_
    rw [← stage_concat]
    exact hno hv _ [] (List.append_nil _).symm
  · exact fun g R R' _ ih hlook hno => (ih hno).look hlook

/-- What is no pause can be done in every state. -/
lemma exists_effect {a : Action} (ha : a.isPause = false) (t : ThreadId) (s : Shared) :
    ∃ x s', Effect t s a x s' := by
  cases a with
  | access a => exact ⟨_, _, effect_access.mpr ⟨rfl, rfl⟩⟩
  | pause p => cases ha
  | call c => exact ⟨c.silence, s, rfl⟩

/-- A bootstrap that closed its window can go on alone until it puts the flag back. -/
lemma exists_run_of_trailing {t : ThreadId} {saved : Bool} {r : Routine Unit}
    (hr : Follows (.trailing saved) r) :
    ∀ P : System, P.threads t = r →
      ∃ es Q, System.Run P es Q ∧ (∀ e ∈ es, e.thread = t) ∧
        Q.shared.compileTheWorld = saved := by
  generalize hσ : Stage.trailing saved = σ at hr
  induction hr with
  | done | claim | take | putBack | close | release => cases hσ
  | more hnone => exact absurd hσ.symm (hnone saved)
  | @neutral σ a next ha hwait hnext ih =>
      intro P hP
      obtain ⟨x, s', heff⟩ := exists_effect (hwait saved hσ.symm) t P.shared
      have hstep := System.Step.act hP heff
      obtain ⟨es, Q, hrun, hes, hflag⟩ := ih x hσ ⟨s', Function.update P.threads t (next x)⟩
        (Function.update_self _ _ _)
      exact ⟨_ :: es, Q, .step hstep hrun, List.forall_mem_cons.mpr ⟨rfl, hes⟩, hflag⟩
  | finish hnext =>
      cases hσ
      intro P hP
      exact ⟨_, _, .step (.act hP (effect_access.mpr ⟨rfl, rfl⟩)) (.refl _), by simp, rfl⟩

/-- A bootstrap that closed its window and saved the flag on can switch it on under another one that
overrides it. -/
lemma exists_flag_on_of_trailing (horderly : Orderly (stage · h) Q) {t u : ThreadId}
    {saved : Bool} (ht : stage t h = .trailing true) (hu : stage u h = .overriding saved) :
    ∃ es R, System.Run Q es R ∧ stage u (h ++ es) = .overriding saved ∧
      R.shared.compileTheWorld = true := by
  have hfollows := horderly.follows t
  rw [ht] at hfollows
  obtain ⟨es, R, hrun, hown, hflag⟩ := exists_run_of_trailing hfollows Q rfl
  have hut : ∀ e ∈ es, e.thread ≠ u := by
    rintro e he rfl
    rw [hown e he, ht] at hu
    cases hu
  exact ⟨es, R, hrun, by rw [stage_append_other h hut, hu], hflag⟩

/-- If the flag was on at first and is right in every run, no two bootstraps ever overlap: the one
that closed its window would switch the flag on under the other. -/
lemma no_overlap_of_flagRight (hboots : ∀ t, Boots (P.threads t))
    (hon : P.shared.compileTheWorld = true)
    (hright : ∀ h Q, System.Run P h Q → FlagRight P.shared.compileTheWorld h Q.shared)
    (hrun : System.Run P h Q) : ¬ Overlap (stage · h) := by
  suffices hmain : Faithful true (stage · h) Q.shared ∧ ¬ Overlap (stage · h) from hmain.2
  refine hrun.invariant
    (I := fun h Q => Faithful true (stage · h) Q.shared ∧ ¬ Overlap (stage · h)) ?_ ?_ ?_
  · refine ⟨hon ▸ faithful_nil P.shared, ?_⟩
    rintro ⟨t, u, saved, saved', ht, -⟩
    cases ht
  · rintro g R e R' hR ⟨hfaithful, -⟩ hstep
    have hR' : System.Run P (g ++ [e]) R' := hR.trans (.step hstep (.refl _))
    have horderly := orderly hboots hR
    have hno : ¬ Overlap (stage · (g ++ [e])) := by
      rintro ⟨t, u, saved, saved', ht, hu⟩
      obtain rfl : saved = true :=
        hfaithful.saved_after horderly hstep ((congrFun (stage_concat g e) t).symm.trans ht)
      obtain ⟨es, Q', hes, hstage, hflag⟩ :=
        exists_flag_on_of_trailing (orderly hboots hR') ht hu
      have hoff := (hright _ _ (hR'.trans hes)).off u saved' hstage
      rw [hflag] at hoff
      cases hoff
    refine ⟨?_, hno⟩
    rw [stage_concat] at hno ⊢
    exact hfaithful.step horderly hstep fun _ => hno
  · exact fun g R R' _ hR hlook => ⟨hR.1.look hlook, hR.2⟩

/-- **When the flag is right.** Threads bootstrap any number of times, and nobody else writes the
flag. If the flag is off at first, or as long as no bootstrap that closed its window but has not
put the flag back overlaps with one that overrides it, the flag is right, and whoever reads it in a
bootstrap to submit a task finds it off. The flag is right in every run only if it is off at first
or no run comes to such an overlap. -/
theorem bootstraps_flag (hboots : ∀ t, Boots (P.threads t)) :
    (∀ h Q, System.Run P h Q →
      (P.shared.compileTheWorld = true → ∀ h₁ h₂, h = h₁ ++ h₂ → ¬ Overlap (stage · h₁)) →
        FlagRight P.shared.compileTheWorld h Q.shared ∧
          ∀ h₁ h₂ t x s saved, h = h₁ ++ ⟨t, .access .readFlag, x, s⟩ :: h₂ →
            stage t h₁ = .overriding saved → x = false) ∧
      ((∀ h Q, System.Run P h Q → FlagRight P.shared.compileTheWorld h Q.shared) ↔
        P.shared.compileTheWorld = false ∨
          ∀ h Q, System.Run P h Q → ¬ Overlap (stage · h)) := by
  refine ⟨fun h Q hrun hno => ⟨(faithful_of_no_overlap hboots hrun hno).flagRight, ?_⟩, ?_⟩
  · rintro h₁ h₂ t x s saved rfl hstage
    obtain ⟨R, R', hR, hstep, -⟩ := hrun.at_event
    have hright := (faithful_of_no_overlap hboots hR fun hv g g' hg => hno hv g (g' ++ _)
      (by rw [hg, List.append_assoc])).flagRight
    have heff := effect_access.mp hstep.effect
    exact heff.1.trans (hright.off t saved hstage)
  · constructor
    · intro hright
      cases hon : P.shared.compileTheWorld with
      | false => exact .inl rfl
      | true => exact .inr fun h Q hrun => no_overlap_of_flagRight hboots hon hright hrun
    · intro hcond h Q hrun
      refine (faithful_of_no_overlap hboots hrun fun hon h₁ h₂ hh => ?_).flagRight
      obtain ⟨R, hR, -⟩ := System.Run.split (hh ▸ hrun)
      exact (hcond.resolve_left (by simp [hon])) h₁ R hR

end Runs

/-! ### Two bootstraps that overlap -/

/-- Two threads, each with one bootstrap on the queue, the second with a method to compile; the
flag is `flag` at first, and the workers took up a task already. -/
def racingPair (flag : Bool) : System where
  shared := { compileTheWorld := flag, service := { requestHandled := true } }
  threads
    | 1 => (Routine.bootstrap 1 {} false [] .queue).bind fun _ => .done ()
    | 2 => (Routine.bootstrap 1 {} false [plainMethod] .queue).bind fun _ => .done ()
    | _ => .done ()

lemma boots_racingPair (flag : Bool) (t : ThreadId) : Boots ((racingPair flag).threads t) := by
  simp only [racingPair]
  split
  · exact .boot queue_isNeutral fun _ => .done
  · exact .boot queue_isNeutral fun _ => .done
  · exact .done

/-- The first bootstrap closes its window, the second takes its override, and the first puts the
flag back. -/
def raceToOverlap : List ThreadId :=
  List.replicate 13 1 ++ List.replicate 2 2 ++ List.replicate 2 1

/-- The same race with the flag off at first. -/
def harmlessRun : List Event × System :=
  (racingPair false).play Call.silence raceToOverlap

/-- With the flag off at first, the overlap does no harm: the second bootstrap overrides the flag
and finds it right. -/
theorem racingPair_flag_off :
    System.Run (racingPair false) harmlessRun.1 harmlessRun.2 ∧
      stage 2 harmlessRun.1 = .overriding false ∧
      FlagRight false harmlessRun.1 harmlessRun.2.shared := by
  have hrun : System.Run (racingPair false) harmlessRun.1 harmlessRun.2 := System.run_play _ _ _
  refine ⟨hrun, by decide +kernel, ?_⟩
  exact (bootstraps_flag (boots_racingPair false)).2.mpr (.inl rfl) _ _ hrun

/-- What happened when the second bootstrap is about to submit its method. -/
def overlapRun : List Event × System :=
  (racingPair true).play Call.silence raceToOverlap

/-- What happened when both bootstraps have returned. -/
def overlapEnd : List Event × System :=
  (racingPair true).play Call.silence (raceToOverlap ++ List.replicate 14 2)

/-- A submission found the flag on, so the queue refused its task. -/
def Event.findsFlagOn : Event → Bool
  | ⟨_, .access .readFlag, true, _⟩ => true
  | _ => false

/-- **Two bootstraps that overlap leave the flag wrong.** The flag is on at first. While the second
bootstrap overrides it, it is on again, so the second bootstrap loses its task; when both have
returned, it is off. -/
theorem overlapping_bootstraps_flag :
    (∀ t, Boots ((racingPair true).threads t)) ∧ (racingPair true).shared.compileTheWorld = true ∧
      System.Run (racingPair true) overlapRun.1 overlapRun.2 ∧
      stage 2 overlapRun.1 = .overriding false ∧ overlapRun.2.shared.compileTheWorld = true ∧
      System.Run (racingPair true) overlapEnd.1 overlapEnd.2 ∧
      (overlapEnd.2.threads 1).isDone = true ∧ (overlapEnd.2.threads 2).isDone = true ∧
      (∀ t, stage t overlapEnd.1 = .outside) ∧ overlapEnd.1.any (·.findsFlagOn) = true ∧
      overlapEnd.2.shared.compileTheWorld = false := by
  refine ⟨boots_racingPair true, rfl, System.run_play _ _ _, by decide +kernel, by decide +kernel,
    System.run_play _ _ _, by decide +kernel, by decide +kernel, fun t => ?_, by decide +kernel,
    by decide +kernel⟩
  have hpair : overlapEnd.1.all (fun e => e.thread == 1 || e.thread == 2) = true := by
    decide +kernel
  by_cases ht : t = 1 ∨ t = 2
  · rcases ht with rfl | rfl <;> decide +kernel
  · refine stage_append_other [] fun e he het => ht ?_
    simpa [het] using List.all_eq_true.mp hpair e he

end ExternalCompiler
