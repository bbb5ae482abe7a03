/-
Nothing that threads record at the same time is lost:

* `Recording`: the calls that record something; `Recording.additions` are the atomic additions that
  a call makes, and `Recording.share` is what it is worth to a counter;
* `recordEach_leads`: what a thread has added so far is a beginning of its additions;
* `Recorders`: threads that record, among others that leave the counters alone;
* `readsOf`: what was read of a counter, in the order of the reads; `System.Run.reads`: it never
  decreases;
* `recordings_add_up`: the counters in the end, whatever the order of the additions, and the reads
  on the way.
-/
import Mathlib.Algebra.Order.BigOperators.Group.Finset
import Mathlib.Data.Multiset.MapFold
import ExternalCompiler.Proofs.Counting
import ExternalCompiler.Worker.Loop

namespace ExternalCompiler

/-! ### Recordings -/

/-- The timers of a service: of its compilations, and of the installs of each origin. -/
inductive Timer
  | compile
  | install (o : Origin)
deriving DecidableEq

/-- The counter behind a timer, in nanoseconds. -/
def Timer.counter : Timer → Counter
  | compile => .compileTime
  | install o => .installTime o

/-- A call that records something: an installed blob, a timed region, a compiled method, or a
compilation that only ticks. -/
inductive Recording
  | install (o : Origin) (blob code : UInt64)
  | time (timer : Timer) (d : Duration)
  | compile
  | tick
deriving DecidableEq

namespace Recording

/-- The atomic additions of a call, one after the other. -/
def additions : Recording → List Addition
  | install o blob code => installed o blob code
  | time timer d => timed timer.counter d
  | compile => methodCompiled
  | tick => ticked

/-- What a call is worth to a counter. -/
def share (k : Counter) : Recording → Nat
  | install o blob code =>
      if k = .installs o then 1
      else if k = .blobBytes o then blob.toNat
      else if k = .codeBytes o then code.toNat
      else 0
  | time timer d => if k = timer.counter then min d.toNanos (2 ^ 64 - 1) else 0
  | compile => if k = .methodsCompiled ∨ k = .ticks then 1 else 0
  | tick => if k = .ticks then 1 else 0

end Recording

/-- What additions are worth to a counter. -/
def worth (k : Counter) (l : List Addition) : Nat :=
  (l.map fun a => if a.1 = k then a.2.toNat else 0).sum

@[simp] lemma worth_nil (k : Counter) : worth k [] = 0 := rfl

@[simp] lemma worth_cons (k : Counter) (a : Addition) (l : List Addition) :
    worth k (a :: l) = (if a.1 = k then a.2.toNat else 0) + worth k l :=
  List.sum_cons

@[simp] lemma worth_append (k : Counter) (l l' : List Addition) :
    worth k (l ++ l') = worth k l + worth k l' := by
  simp [worth]

lemma Duration.toNat_saturatedNanos (d : Duration) :
    d.saturatedNanos.toNat = min d.toNanos (2 ^ 64 - 1) := by
  rw [saturatedNanos, UInt64.toNat_ofNat']
  exact Nat.mod_eq_of_lt (Nat.lt_succ_of_le (Nat.min_le_right _ _))

/-- The additions of a call are worth its share, to every counter. -/
lemma worth_additions (k : Counter) (r : Recording) : worth k r.additions = r.share k := by
  cases r with
  | install o blob code =>
      simp only [Recording.additions, installed, Recording.share, worth_cons, worth_nil]
      rcases k with _ | _ | _ | o' | o' | o' | o' <;> simp [eq_comm]
  | time timer d =>
      simp [Recording.additions, timed, Recording.share, Duration.toNat_saturatedNanos, eq_comm]
  | compile =>
      simp only [Recording.additions, methodCompiled, Recording.share, worth_cons, worth_nil]
      rcases k with _ | _ | _ | o' | o' | o' | o' <;> simp
  | tick => simp [Recording.additions, ticked, Recording.share, eq_comm]

/-! ### A thread that records -/

namespace Routine

/-- Makes calls that record something, one after the other. -/
def recordEach : List Recording → Routine Unit
  | [] => done ()
  | r :: rest => (record r.additions).bind fun _ => recordEach rest

lemma record_append (l l' : List Addition) :
    record (l ++ l') = (record l).bind fun _ => record l' := by
  induction l with
  | nil => rfl
  | cons a l ih => simp only [List.cons_append, record, ih, bind_eq, bind_assoc]

/-- Calls one after the other make all their additions one after the other. -/
lemma recordEach_eq (calls : List Recording) :
    recordEach calls = record (calls.flatMap (·.additions)) := by
  induction calls with
  | nil => rfl
  | cons r rest ih => rw [recordEach, ih, List.flatMap_cons, record_append]

/-- What a thread has done of its additions is a beginning of them. -/
lemma record_leads {l : List Addition} {es : List Event} {r : Routine Unit} (k : Counter)
    (h : (record l).Leads es r) :
    ∃ l₁ l₂, l = l₁ ++ l₂ ∧ r = record l₂ ∧ total (Event.added k) es = worth k l₁ := by
  induction l generalizing es with
  | nil =>
      obtain ⟨rfl, rfl⟩ := leads_done.mp h
      exact ⟨[], [], rfl, rfl, rfl⟩
  | cons a l ih =>
      cases h with
      | refl => exact ⟨[], a :: l, rfl, rfl, rfl⟩
      | @act _ _ _ es t x s h =>
          obtain ⟨l₁, l₂, rfl, rfl, hworth⟩ := ih h
          refine ⟨a :: l₁, l₂, rfl, rfl, ?_⟩
          rw [total_cons, hworth, worth_cons]
          rfl

end Routine

lemma worth_flatMap (k : Counter) (calls : List Recording) :
    worth k (calls.flatMap (·.additions)) = (calls.map (·.share k)).sum := by
  induction calls with
  | nil => rfl
  | cons r rest ih => simp [worth_additions, ih]

/-- A thread has added at most what its calls are worth, and all of it when it is done. -/
lemma recordEach_leads {calls : List Recording} {es : List Event} {r : Routine Unit}
    (k : Counter) (h : (Routine.recordEach calls).Leads es r) :
    total (Event.added k) es ≤ (calls.map (·.share k)).sum ∧
      (r.isDone = true → total (Event.added k) es = (calls.map (·.share k)).sum) := by
  rw [Routine.recordEach_eq] at h
  obtain ⟨l₁, l₂, hsplit, rfl, hworth⟩ := Routine.record_leads k h
  have hall : worth k l₁ + worth k l₂ = (calls.map (·.share k)).sum := by
    rw [← worth_flatMap, hsplit, worth_append]
  refine ⟨by omega, fun hdone => ?_⟩
  cases l₂ with
  | nil => rw [hworth, ← hall, worth_nil, Nat.add_zero]
  | cons a l₂ => cases hdone

/-! ### Threads that record -/

/-- The action adds to a counter. -/
def Action.addsToCounter : Action → Bool
  | .access (.addCounter _ _) => true
  | _ => false

lemma Event.added_of_not_addsToCounter {e : Event} (h : e.action.addsToCounter = false)
    (k : Counter) : e.added k = 0 := by
  obtain ⟨t, a, x, s⟩ := e
  rcases a with a | p | c
  · cases a <;> first | rfl | cases h
  · rfl
  · rfl

/-- The threads `crew` record: they make the calls `all` between them, each its own, one after the
other. The other threads may do anything else, and read the counters. -/
structure Recorders (crew : Finset ThreadId) (all : Multiset Recording) (P : System) : Prop where
  recording : ∃ calls : ThreadId → List Recording,
    (∀ t ∈ crew, P.threads t = Routine.recordEach (calls t)) ∧
      ∑ t ∈ crew, (calls t : Multiset Recording) = all
  aside : ∀ t ∉ crew, (P.threads t).Only (·.addsToCounter = false)

/-- All that the calls `all` are worth to a counter. -/
def shares (k : Counter) (all : Multiset Recording) : Nat :=
  (all.map (·.share k)).sum

lemma sum_shares (k : Counter) (crew : Finset ThreadId) (calls : ThreadId → List Recording) :
    ∑ t ∈ crew, ((calls t).map (·.share k)).sum =
      shares k (∑ t ∈ crew, (calls t : Multiset Recording)) := by
  induction crew using Finset.induction_on with
  | empty => rfl
  | insert t crew ht ih =>
      rw [Finset.sum_insert ht, Finset.sum_insert ht, ih, shares, shares, Multiset.map_add,
        Multiset.sum_add, Multiset.map_coe, Multiset.sum_coe]

section Recorders

variable {crew : Finset ThreadId} {all : Multiset Recording} {P Q : System} {h : List Event}

/-- Between them, the threads have added at most what their calls are worth, and all of it when
they are done. -/
lemma Recorders.total_added (hrec : Recorders crew all P) (hrun : System.Run P h Q)
    (k : Counter) :
    total (Event.added k) h ≤ shares k all ∧
      ((∀ t ∈ crew, (Q.threads t).isDone = true) → total (Event.added k) h = shares k all) := by
  obtain ⟨calls, hcalls, rfl⟩ := hrec.recording
  have hothers : ∀ e ∈ h, e.thread ∉ crew → e.added k = 0 := by
    intro e he ht
    have honly := ((hrec.aside _ ht).leads (hrun.leads e.thread)).2
    exact Event.added_of_not_addsToCounter (honly e (mem_own.mpr ⟨he, rfl⟩)) k
  have hown : ∀ t ∈ crew,
      total (Event.added k) (own t h) ≤ ((calls t).map (·.share k)).sum ∧
        ((Q.threads t).isDone = true →
          total (Event.added k) (own t h) = ((calls t).map (·.share k)).sum) := by
    intro t ht
    have hleads := hrun.leads t
    rw [hcalls t ht] at hleads
    exact recordEach_leads k hleads
  rw [← sum_total_own crew hothers, ← sum_shares]
  exact ⟨Finset.sum_le_sum fun t ht => (hown t ht).1,
    fun hdone => Finset.sum_congr rfl fun t ht => (hown t ht).2 (hdone t ht)⟩

/-- A counter shows at every moment what was added, if the total fits into a word. -/
lemma Recorders.toNat_counter (hrec : Recorders crew all P) (hrun : System.Run P h Q)
    {k : Counter} (hfits : (P.shared.service.counters.get k).toNat + shares k all < 2 ^ 64) :
    (Q.shared.service.counters.get k).toNat =
      (P.shared.service.counters.get k).toNat + total (Event.added k) h := by
  have hadded := (hrec.total_added hrun k).1
  exact hrun.toNat_counter (by omega)

end Recorders

/-! ### Reads -/

/-- What an event read of a counter. -/
def Event.read? (k : Counter) : Event → Option UInt64
  | ⟨_, .access (.readCounter k'), x, _⟩ => if k' = k then some x else none
  | _ => none

/-- What was read of a counter, in the order of the reads. -/
def readsOf (k : Counter) (h : List Event) : List UInt64 :=
  h.filterMap (Event.read? k)

/-- What is read of a counter is what it shows. -/
lemma Event.eq_of_read? {e : Event} {k : Counter} {x : UInt64} {s' : Shared}
    (hread : e.read? k = some x) (heff : Effect e.thread e.before e.action e.answer s') :
    x = e.before.service.counters.get k := by
  obtain ⟨t, a, y, s⟩ := e
  rcases a with a | p | c
  · cases a with
    | readCounter k' =>
        simp only [Event.read?] at hread
        split_ifs at hread with hk
        subst hk
        obtain rfl := Option.some.inj hread
        exact (effect_access.mp heff).1
    | _ => cases hread
  · cases hread
  · cases hread

/-- Successive reads of a counter never decrease and never exceed what it shows in the end, if what
is added fits into a word. -/
lemma System.Run.reads {P Q : System} {h : List Event} (hrun : System.Run P h Q) {k : Counter}
    (hfits : (P.shared.service.counters.get k).toNat + total (Event.added k) h < 2 ^ 64) :
    (readsOf k h).Pairwise (· ≤ ·) ∧
      ∀ x ∈ readsOf k h, x ≤ Q.shared.service.counters.get k := by
  refine hrun.invariant (I := fun h Q =>
    (P.shared.service.counters.get k).toNat + total (Event.added k) h < 2 ^ 64 →
      (readsOf k h).Pairwise (· ≤ ·) ∧
        ∀ x ∈ readsOf k h, x ≤ Q.shared.service.counters.get k)
    (fun _ => ⟨.nil, by simp [readsOf]⟩) ?_ ?_ hfits
  · intro g R e R' hR ih hstep hfits
    rw [total_append] at hfits
    obtain ⟨hsorted, hbelow⟩ := ih (by omega)
    have hgrows : R.shared.service.counters.get k ≤ R'.shared.service.counters.get k := by
      rw [UInt64.le_iff_toNat_le, hR.toNat_counter (by omega),
        (hR.trans (.step hstep (.refl _))).toNat_counter (by rwa [total_append]), total_append]
      omega
    have hold : ∀ x ∈ readsOf k g, x ≤ R'.shared.service.counters.get k :=
      fun x hx => UInt64.le_trans (hbelow x hx) hgrows
    cases hread : e.read? k with
    | none =>
        have hsame : readsOf k (g ++ [e]) = readsOf k g := by simp [readsOf, hread]
        rw [hsame]
        exact ⟨hsorted, hold⟩
    | some x =>
        have hnew : readsOf k (g ++ [e]) = readsOf k g ++ [x] := by simp [readsOf, hread]
        have hx : x = R.shared.service.counters.get k := by
          rw [← hstep.before]
          exact Event.eq_of_read? hread (hstep.before ▸ hstep.effect)
        rw [hnew]
        refine ⟨List.pairwise_append.mpr ⟨hsorted, List.pairwise_singleton _ _, ?_⟩, ?_⟩
        · intro y hy z hz
          rw [List.mem_singleton.mp hz, hx]
          exact hbelow y hy
        · refine List.forall_mem_append.mpr ⟨hold, fun y hy => ?_⟩
          rw [List.mem_singleton.mp hy, hx]
          exact hgrows
  · intro g R R' _ ih hlook hfits
    obtain ⟨holder, hshared⟩ := hlook.shared
    rw [hshared]
    exact ih hfits

/-- Threads whose calls fit into a word are among these. -/
lemma Recorders.reads {crew : Finset ThreadId} {all : Multiset Recording} {P Q : System}
    {h : List Event} (hrec : Recorders crew all P) (hrun : System.Run P h Q) {k : Counter}
    (hfits : (P.shared.service.counters.get k).toNat + shares k all < 2 ^ 64) :
    (readsOf k h).Pairwise (· ≤ ·) ∧
      ∀ x ∈ readsOf k h, x ≤ Q.shared.service.counters.get k := by
  have hadded := (hrec.total_added hrun k).1
  exact hrun.reads (by omega)

/-! ### The counters in the end -/

lemma Counters.ext_get {c c' : Counters} (h : ∀ k, c.get k = c'.get k) : c = c' := by
  have horigin : ∀ o, c.ofOrigin o = c'.ofOrigin o := by
    intro o
    have hinstalls := h (.installs o)
    have hblob := h (.blobBytes o)
    have hcode := h (.codeBytes o)
    have htime := h (.installTime o)
    simp only [get] at hinstalls hblob hcode htime
    cases hc : c.ofOrigin o
    cases hc' : c'.ofOrigin o
    simp_all
  have hmethods := h .methodsCompiled
  have hticks := h .ticks
  have hcompile := h .compileTime
  have hjit := horigin .jit
  have hhosted := horigin .hosted
  cases c
  cases c'
  simp_all [get, ofOrigin]

/-- **Nothing that is recorded is lost.** Threads make the calls `all` between them, however these
are split over the threads, and their atomic additions come in any order; the other threads leave
the counters alone. When all calls are made, each counter has grown by what the calls are worth to
it, modulo `2 ^ 64`, so that other threads that make the same calls in another order end with the
same counters. At every moment, if the total of a counter fits into a word, successive reads of it
never decrease and never exceed its value in the end. -/
theorem recordings_add_up {crew : Finset ThreadId} {all : Multiset Recording} {P Q : System}
    {h : List Event} (hrec : Recorders crew all P) (hrun : System.Run P h Q) :
    ((∀ t ∈ crew, (Q.threads t).isDone = true) →
      (∀ k, Q.shared.service.counters.get k =
        P.shared.service.counters.get k + UInt64.ofNat (shares k all)) ∧
      ∀ crew' P' h' Q', Recorders crew' all P' → System.Run P' h' Q' →
        P'.shared.service.counters = P.shared.service.counters →
          (∀ t ∈ crew', (Q'.threads t).isDone = true) →
            Q'.shared.service.counters = Q.shared.service.counters) ∧
    ∀ k, (P.shared.service.counters.get k).toNat + shares k all < 2 ^ 64 →
      (readsOf k h).Pairwise (· ≤ ·) ∧
        ∀ x ∈ readsOf k h, x.toNat ≤ (P.shared.service.counters.get k).toNat + shares k all := by
  have hend : ∀ {crew' : Finset ThreadId} {P' Q' : System} {h' : List Event},
      Recorders crew' all P' → System.Run P' h' Q' →
        (∀ t ∈ crew', (Q'.threads t).isDone = true) →
          ∀ k, Q'.shared.service.counters.get k =
            P'.shared.service.counters.get k + UInt64.ofNat (shares k all) := by
    intro crew' P' Q' h' hrec' hrun' hdone' k
    rw [hrun'.counter k, (hrec'.total_added hrun' k).2 hdone']
  refine ⟨fun hdone => ⟨hend hrec hrun hdone, ?_⟩, fun k hfits => ?_⟩
  · intro crew' P' h' Q' hrec' hrun' hsame hdone'
    refine Counters.ext_get fun k => ?_
    rw [hend hrec' hrun' hdone' k, hend hrec hrun hdone k, hsame]
  · obtain ⟨hsorted, hbelow⟩ := hrec.reads hrun hfits
    refine ⟨hsorted, fun x hx => ?_⟩
    calc x.toNat ≤ (Q.shared.service.counters.get k).toNat :=
          UInt64.le_iff_toNat_le.mp (hbelow x hx)
      _ = (P.shared.service.counters.get k).toNat + total (Event.added k) h :=
          hrec.toNat_counter hrun hfits
      _ ≤ (P.shared.service.counters.get k).toNat + shares k all :=
          Nat.add_le_add_left (hrec.total_added hrun k).1 _

/-- A thread that records an install and two long times, one that records another install and a
compiled method, and one that reads a counter twice. -/
def smallRecording : System where
  shared := {}
  threads
    | 1 => Routine.recordEach
        [.install .jit 100 40, .time (.install .hosted) ⟨2 ^ 64, 0⟩, .time .compile ⟨1, 5⟩]
    | 2 => Routine.recordEach
        [.install .jit 1 2, .compile, .tick, .time (.install .hosted) ⟨0, 5⟩]
    | 3 => (Routine.access (.readCounter .ticks)).bind fun _ =>
        (Routine.access (.readCounter .ticks)).bind fun _ => .done ()
    | _ => .done ()

/-- The threads take turns. -/
def smallRecordingRun : List Event × System :=
  smallRecording.play Call.silence [1, 2, 2, 1, 2, 2, 3, 1, 2, 1, 2, 3, 1, 2]

/-- The installs are added up, the long time counts as the largest word, which wraps around, and
the ticks are read on the way. -/
theorem recordings_add_up_small :
    smallRecordingRun.2.shared.service.counters.get (.installs .jit) = 2 ∧
      smallRecordingRun.2.shared.service.counters.get (.blobBytes .jit) = 101 ∧
      smallRecordingRun.2.shared.service.counters.get (.codeBytes .jit) = 42 ∧
      smallRecordingRun.2.shared.service.counters.get (.installTime .hosted) = 4 ∧
      smallRecordingRun.2.shared.service.counters.get .ticks = 2 ∧
      readsOf .ticks smallRecordingRun.1 = [0, 2] ∧
      (readsOf .ticks smallRecordingRun.1).Pairwise (· ≤ ·) := by
  have hrec : Recorders {1, 2}
      ([.install .jit 100 40, .time (.install .hosted) ⟨2 ^ 64, 0⟩, .time .compile ⟨1, 5⟩,
        .install .jit 1 2, .compile, .tick, .time (.install .hosted) ⟨0, 5⟩] : List Recording)
      smallRecording := by
    refine ⟨⟨fun t => if t = 1 then
      [.install .jit 100 40, .time (.install .hosted) ⟨2 ^ 64, 0⟩, .time .compile ⟨1, 5⟩]
      else [.install .jit 1 2, .compile, .tick, .time (.install .hosted) ⟨0, 5⟩], ?_, ?_⟩, ?_⟩
    · intro t ht
      obtain rfl | rfl : t = 1 ∨ t = 2 := by simpa using ht
      · rfl
      · rfl
    · rw [Finset.sum_pair (by decide)]
      rfl
    · intro t ht
      simp only [smallRecording]
      split
      · simp at ht
      · simp at ht
      · exact ⟨rfl, fun _ => ⟨rfl, fun _ => trivial⟩⟩
      · trivial
  have hrun : System.Run smallRecording smallRecordingRun.1 smallRecordingRun.2 :=
    System.run_play _ _ _
  obtain ⟨hend, hreads⟩ := recordings_add_up hrec hrun
  have hdone : ∀ t ∈ ({1, 2} : Finset ThreadId),
      (smallRecordingRun.2.threads t).isDone = true := by decide +kernel
  have hcounters := (hend hdone).1
  refine ⟨?_, ?_, ?_, ?_, ?_, by decide +kernel, (hreads .ticks (by decide +kernel)).1⟩
  all_goals
    rw [hcounters]
    decide +kernel

end ExternalCompiler
