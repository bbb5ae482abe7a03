/-
What a bootstrap shows of its progress:

* `IsPoll`, `IsWait`: the events of a poll, and of one that waits for the first task;
* `Round`: a poll, the counter that is read after it, and what is shown then; `Rounds`: rounds one
  after the other, of which each brings the dots up to its counter;
* `drain_course`: waiting for the queue is a number of waits and then of rounds;
* `Rounds.texts_of_sorted`: with a counter that never decreases each round leaves as many dots as
  its counter says; `counters_append_sublist`, `dots_sorted`: so it is if the counter is read in
  ascending order;
* `reportText`, `lineText`: the end of the line, and the whole line;
* `progress_exact`: what a bootstrap writes, whatever its queue and the counter do in the meantime.
-/
import ExternalCompiler.Proofs.Bootstrap.Output
import ExternalCompiler.Proofs.Bootstrap.Seeds
import ExternalCompiler.Proofs.Recording

namespace ExternalCompiler

/-! ### Polls -/

/-- The events of a poll that found so many tasks at the top tier: the bootstrap slept, asked its
broker, and looked whether it was cancelled and whether a task was taken up. -/
def IsPoll (broker : Broker) (size : Nat) (es : List Event) : Prop :=
  ∃ t s es₁ es₂, es = ⟨t, .pause (.sleep Routine.pollMillis), (), s⟩ :: (es₁ ++ es₂) ∧
    (broker.size .top).Leads es₁ (.done size) ∧
    ∀ e ∈ es₂, e.action = .call .isCancelled ∨ e.action = .access .readHandled

/-- The events of a poll in the first round: it found no task, and none that was taken up. -/
def IsWait (broker : Broker) (es : List Event) : Prop :=
  IsPoll broker 0 es ∧ ∃ es' t s, es = es' ++ [⟨t, .access .readHandled, false, s⟩]

/-- A poll has no output. -/
lemma IsPoll.silent {broker : Broker} {size : Nat} {es : List Event}
    (hb : broker.Only fun a => a.isOutput = false) (h : IsPoll broker size es) :
    ∀ e ∈ es, e.action.isOutput = false := by
  obtain ⟨t, s, es₁, es₂, rfl, hsize, hlook⟩ := h
  refine List.forall_mem_cons.mpr ⟨rfl, List.forall_mem_append.mpr ⟨?_, fun e he => ?_⟩⟩
  · exact ((hb.size .top).leads hsize).2
  · obtain he | he := hlook e he <;> rw [he] <;> rfl

/-! ### Rounds -/

/-- A round: its poll with the size that it found, the counter that was read, by whom and in which
state, and what was shown then. -/
structure Round where
  size : Nat
  poll : List Event
  reader : ThreadId
  counter : UInt64
  before : Shared
  shown : List Event

namespace Round

/-- The events of a round. -/
def events (r : Round) : List Event :=
  r.poll ++ ⟨r.reader, .access (.readCounter .methodsCompiled), r.counter, r.before⟩ :: r.shown

/-- The dots that are due by the counter of a round: one for every hundred methods. -/
def dots (r : Round) : Nat :=
  r.counter.toNat / 100

end Round

/-- A round that finds so many dots shows those that are missing. -/
structure IsRound (broker : Broker) (dots : Nat) (r : Round) : Prop where
  poll : IsPoll broker r.size r.poll
  texts : texts r.shown = List.replicate (r.dots - dots) "."

/-- Rounds one after the other, the first of which finds so many dots. -/
def Rounds (broker : Broker) : Nat → List Round → Prop
  | _, [] => True
  | dots, r :: rest => IsRound broker dots r ∧ Rounds broker (max dots r.dots) rest

section Rounds

variable {broker : Broker} {dots : Nat} {r : Round} {rounds : List Round}

lemma Rounds.isRound (h : Rounds broker dots rounds) (hr : r ∈ rounds) :
    ∃ dots, IsRound broker dots r := by
  induction rounds generalizing dots with
  | nil => cases hr
  | cons q rest ih =>
      obtain rfl | hr := List.mem_cons.mp hr
      · exact ⟨dots, h.1⟩
      · exact ih h.2 hr

lemma IsRound.texts_events (hb : broker.Only fun a => a.isOutput = false)
    (h : IsRound broker dots r) :
    ExternalCompiler.texts r.events = List.replicate (r.dots - dots) "." := by
  rw [Round.events, texts_append, texts_of_silent (h.poll.silent hb), texts_cons, ← h.texts]
  rfl

/-- If the dots that are due never decrease, then each round leaves as many as are due. -/
lemma Rounds.texts_of_sorted (hb : broker.Only fun a => a.isOutput = false)
    {before after : List Round} (h : Rounds broker dots (before ++ r :: after))
    (hsorted : (dots :: (before ++ r :: after).map Round.dots).Pairwise (· ≤ ·)) :
    texts ((before ++ [r]).flatMap Round.events) = List.replicate (r.dots - dots) "." := by
  induction before generalizing dots with
  | nil => simpa using h.1.texts_events hb
  | cons q before ih =>
      obtain ⟨hround, hrest⟩ := h
      simp only [List.cons_append, List.map_cons] at hsorted
      obtain ⟨hfirst, hsorted'⟩ := List.pairwise_cons.mp hsorted
      have hq : dots ≤ q.dots := hfirst _ List.mem_cons_self
      have hr : q.dots ≤ r.dots := (List.pairwise_cons.mp hsorted').1 _ (by simp)
      rw [max_eq_right hq] at hrest
      have hshown := ih hrest hsorted'
      rw [List.cons_append, List.flatMap_cons, texts_append, hround.texts_events hb, hshown,
        List.replicate_append_replicate]
      congr 1
      omega

/-- The counters of the rounds were read one after the other. -/
lemma counters_sublist (rounds : List Round) :
    (rounds.map Round.counter).Sublist
      (readsOf .methodsCompiled (rounds.flatMap Round.events)) := by
  induction rounds with
  | nil => simp [readsOf]
  | cons r rest ih =>
      have hread : readsOf .methodsCompiled r.events =
          readsOf .methodsCompiled r.poll ++ r.counter :: readsOf .methodsCompiled r.shown := by
        simp [readsOf, Round.events, Event.read?]
      have hrest : readsOf .methodsCompiled ((r :: rest).flatMap Round.events) =
          readsOf .methodsCompiled r.events ++
            readsOf .methodsCompiled (rest.flatMap Round.events) := by
        simp [readsOf]
      rw [hrest, hread, List.map_cons, List.append_assoc, List.cons_append]
      refine List.Sublist.trans ?_ (List.sublist_append_right _ _)
      exact (ih.trans (List.sublist_append_right _ _)).cons_cons _

/-- A counter that is read behind the rounds was read after those of the rounds. -/
lemma counters_append_sublist (opening : List Event) (rounds : List Round) {closing : List Event}
    {n : UInt64} (hn : n ∈ readsOf .methodsCompiled closing) :
    (rounds.map Round.counter ++ [n]).Sublist
      (readsOf .methodsCompiled (opening ++ (rounds.flatMap Round.events ++ closing))) := by
  simp only [readsOf, List.filterMap_append]
  refine List.Sublist.trans ?_ (List.sublist_append_right _ _)
  exact (counters_sublist rounds).append (List.singleton_sublist.mpr hn)

/-- If the counters ascend, then so do the dots that are due. -/
lemma dots_sorted (h : (rounds.map Round.counter).Pairwise (· ≤ ·)) :
    (0 :: rounds.map Round.dots).Pairwise (· ≤ ·) := by
  refine List.pairwise_cons.mpr ⟨fun _ _ => Nat.zero_le _, ?_⟩
  rw [List.pairwise_map] at h ⊢
  exact h.imp fun hle => Nat.div_le_div_right (UInt64.le_iff_toNat_le.mp hle)

end Rounds

namespace Routine

variable {broker : Broker}

/-! ### Waits and rounds -/

/-- One dot stands for a hundred methods. -/
lemma toNat_div_methodsPerDot (n : UInt64) : (n / methodsPerDot).toNat = n.toNat / 100 := by
  rw [UInt64.toNat_div]
  rfl

/-- A look at the token that did not find the bootstrap cancelled. -/
lemma checkCancelled_leads_done {cancellable : Bool} {start pending : Nat} {es : List Event}
    (h : (checkCancelled cancellable start pending).Leads es (done (.ok ()))) :
    ∀ e ∈ es, e.action = .call .isCancelled := by
  rw [checkCancelled] at h
  split at h
  · obtain ⟨t, cancelled, s, es', rfl, h'⟩ := leads_call_done.mp h
    cases cancelled with
    | true =>
        obtain ⟨t', moment, s', es'', rfl, h''⟩ := leads_call_done.mp h'
        cases (leads_done.mp h'').2
    | false =>
        obtain ⟨rfl, -⟩ := leads_done.mp h'
        exact List.forall_mem_singleton.mpr rfl
  · obtain ⟨rfl, -⟩ := leads_done.mp h
    simp

/-- A poll of the first round that found nothing looks whether a task was taken up. -/
lemma awaitsFirstTask_leads_done {first waits : Bool} {size : Nat} {es : List Event}
    (h : (awaitsFirstTask first size).Leads es (done waits)) :
    (∀ e ∈ es, e.action = .access .readHandled) ∧
      (waits = true →
        first = true ∧ size = 0 ∧ ∃ t s, es = [⟨t, .access .readHandled, false, s⟩]) := by
  rw [awaitsFirstTask] at h
  split at h
  next hfirst =>
    obtain ⟨t, handled, s, es', rfl, h'⟩ := leads_access_done.mp h
    cases handled with
    | true =>
        obtain ⟨rfl, hwaits⟩ := leads_done.mp h'
        cases hwaits
        exact ⟨List.forall_mem_singleton.mpr rfl, nofun⟩
    | false =>
        obtain ⟨rfl, -⟩ := leads_done.mp h'
        simp only [Bool.and_eq_true, beq_iff_eq] at hfirst
        exact ⟨List.forall_mem_singleton.mpr rfl, fun _ => ⟨hfirst.1, hfirst.2, t, s, rfl⟩⟩
  next =>
    obtain ⟨rfl, hwaits⟩ := leads_done.mp h
    cases hwaits
    exact ⟨by simp, nofun⟩

/-- Progress is shown by the dots that are missing. -/
lemma showProgress_leads_done {dots dots' : Nat} {es : List Event}
    (h : (showProgress true dots).Leads es (done (.ok dots'))) :
    ∃ t compiled s es', es = ⟨t, .access (.readCounter .methodsCompiled), compiled, s⟩ :: es' ∧
      dots' = max dots (compiled.toNat / 100) ∧
      texts es' = List.replicate (compiled.toNat / 100 - dots) "." := by
  obtain ⟨t, compiled, s, es', rfl, h'⟩ := leads_access_done.mp h
  obtain ⟨es₁, es₂, x, rfl, hdots, h''⟩ := leads_bind_done.mp h'
  cases x with
  | error e => cases (leads_done.mp h'').2
  | ok _ =>
      obtain ⟨rfl, hdots'⟩ := leads_done.mp h''
      cases hdots'
      rw [toNat_div_methodsPerDot] at hdots
      exact ⟨t, compiled, s, es₁, by rw [List.append_nil], by rw [toNat_div_methodsPerDot],
        (emitDots_leads_done hdots).1⟩

/-- Waiting for the queue is a number of waits for the first task and then of rounds, of which the
last one finds no task at the top tier. -/
lemma drain_course {cancellable : Bool} {start n : Nat} {first : Bool} {dots : Nat}
    {es : List Event}
    (h : (drain true cancellable broker start n first dots).Leads es (done (.ok ()))) :
    ∃ waits rounds last, es = waits.flatten ++ (rounds ++ [last]).flatMap Round.events ∧
      (∀ w ∈ waits, IsWait broker w) ∧ (first = false → waits = []) ∧
      Rounds broker dots (rounds ++ [last]) ∧ last.size = 0 ∧ ∀ r ∈ rounds, r.size ≠ 0 := by
  induction n generalizing first dots es with
  | zero => exact absurd h not_leads_more_done
  | succ n ih =>
      obtain ⟨t, s, es₁, es₂, es₃, es₄, size, waits, rfl, hsize, hcheck, hwaits, hrest⟩ :=
        drain_round h
      obtain ⟨hlook, hwait⟩ := awaitsFirstTask_leads_done hwaits
      have hpoll : IsPoll broker size (⟨t, .pause (.sleep pollMillis), (), s⟩ ::
          (es₁ ++ (es₂ ++ es₃))) := by
        refine ⟨t, s, es₁, es₂ ++ es₃, rfl, hsize, List.forall_mem_append.mpr ⟨?_, ?_⟩⟩
        · exact fun e he => .inl (checkCancelled_leads_done hcheck e he)
        · exact fun e he => .inr (hlook e he)
      cases waits with
      | true =>
          obtain ⟨rfl, rfl, t', s', rfl⟩ := hwait rfl
          obtain ⟨waits, rounds, last, rfl, hwaits', -, hrounds, hlast, hsome⟩ := ih hrest
          refine ⟨_ :: waits, rounds, last, ?_,
            List.forall_mem_cons.mpr ⟨⟨hpoll, ?_⟩, hwaits'⟩, nofun, hrounds, hlast, hsome⟩
          · simp
          · exact ⟨⟨t, .pause (.sleep pollMillis), (), s⟩ :: (es₁ ++ es₂), t', s', by simp⟩
      | false =>
          obtain ⟨es₅, es₆, dots', rfl, hshow, hrest⟩ := hrest
          obtain ⟨t', compiled, s', shown, rfl, rfl, htexts⟩ := showProgress_leads_done hshow
          have hround : IsRound broker dots ⟨size, _, t', compiled, s', shown⟩ := ⟨hpoll, htexts⟩
          split at hrest
          next hzero =>
            subst hrest
            refine ⟨[], [], _, ?_, by simp, fun _ => rfl, ⟨hround, trivial⟩, hzero, by simp⟩
            simp [Round.events]
          next hsome =>
            obtain ⟨waits, rounds, last, rfl, -, hnone, hrounds, hlast, hsome'⟩ := ih hrest
            obtain rfl := hnone rfl
            refine ⟨[], _ :: rounds, last, ?_, by simp, fun _ => rfl, ⟨hround, hrounds⟩, hlast,
              List.forall_mem_cons.mpr ⟨hsome, hsome'⟩⟩
            simp [Round.events]

end Routine

/-! ### The whole line -/

/-- So many dots. -/
def dotsText (n : Nat) : String :=
  String.ofList (List.replicate n '.')

/-- Dots that are written one at a time. -/
lemma flatMap_replicate_dot (n : Nat) :
    (List.replicate n ".").flatMap utf8Bytes = utf8Bytes (dotsText n) := by
  induction n with
  | zero => rfl
  | succ n ih =>
      have hdots : dotsText (n + 1) = "." ++ dotsText n := by
        simp [dotsText, List.replicate_succ]
      rw [List.replicate_succ, List.flatMap_cons, ih, hdots, utf8Bytes_append]

/-- The end of the line, which tells a report. -/
def reportText (report : BootstrapReport) : String :=
  " in " ++ toString report.elapsedMillis ++ " ms (compiled " ++ toString report.compiled.toNat
    ++ " methods)\n"

/-- The line of a bootstrap with so many dots. -/
def lineText (dots : Nat) (report : BootstrapReport) : String :=
  "Bootstrapping external compiler" ++ dotsText dots ++ reportText report

/-- How a bootstrap that reports showed its progress, in its events from the opening of its window
up to the last round, and in those that close it. -/
structure ProgressShown (broker : Broker) (report : BootstrapReport) (opening : List Event)
    (waits : List (List Event)) (rounds : List Round) (last : Round) (closing : List Event) :
    Prop where
  /-- At first there is the banner. -/
  opened : texts opening = ["Bootstrapping external compiler"]
  /-- While the first task is awaited there is no output. -/
  waited : ∀ w ∈ waits, IsWait broker w ∧ ∀ e ∈ w, e.action.isOutput = false
  /-- Each round but the last one found a task. -/
  polled : ∀ r ∈ rounds, IsPoll broker r.size r.poll ∧ r.size ≠ 0
  drained : IsPoll broker 0 last.poll
  /-- After each round there is a dot for every hundred methods that it counted. -/
  shown : ∀ before r after, rounds ++ [last] = before ++ r :: after →
    texts (opening ++ (waits.flatten ++ (before ++ [r]).flatMap Round.events)) =
      "Bootstrapping external compiler" :: List.replicate (r.counter.toNat / 100) "."
  /-- At the end the counter is read for the report, and the line is ended. -/
  counted : ∃ t s, ⟨t, .access (.readCounter .methodsCompiled), report.compiled, s⟩ ∈ closing
  closed : texts closing = [reportText report]
  /-- There are no more dots than the report accounts for. -/
  bounded : last.counter.toNat / 100 ≤ report.compiled.toNat / 100

section ProgressShown

variable {broker : Broker} {report : BootstrapReport} {opening closing : List Event}
  {waits : List (List Event)} {rounds : List Round} {last : Round}

/-- All that was written. -/
lemma ProgressShown.texts_all (h : ProgressShown broker report opening waits rounds last closing) :
    texts (opening ++ (waits.flatten ++ ((rounds ++ [last]).flatMap Round.events ++ closing))) =
      "Bootstrapping external compiler" ::
        (List.replicate (last.counter.toNat / 100) "." ++ [reportText report]) := by
  have hshown := h.shown rounds last [] rfl
  rw [← List.append_assoc waits.flatten, ← List.append_assoc opening, texts_append, hshown,
    h.closed]
  rfl

/-- The bytes of all that was written are those of the line. -/
lemma ProgressShown.bytes (h : ProgressShown broker report opening waits rounds last closing) :
    (texts (opening ++ (waits.flatten ++
      ((rounds ++ [last]).flatMap Round.events ++ closing)))).flatMap utf8Bytes =
        utf8Bytes (lineText (last.counter.toNat / 100) report) := by
  -- with any texts, since unfolding `lineText` would compute the characters of the banner
  have hparts : ∀ a b c : String,
      utf8Bytes (a ++ b ++ c) = utf8Bytes a ++ (utf8Bytes b ++ utf8Bytes c) := by
    simp [utf8Bytes_append]
  rw [h.texts_all, List.flatMap_cons, List.flatMap_append, flatMap_replicate_dot,
    List.flatMap_singleton]
  exact (hparts _ _ _).symm

end ProgressShown

namespace Routine

/-- The progress of a bootstrap whose counter was read in ascending order. -/
lemma progress_of_sorted {broker : Broker} (hb : broker.Only fun a => a.isOutput = false)
    {polls : Nat} {c : Config} {cancellable : Bool} {methods : List Method} {es : List Event}
    {report : BootstrapReport} (hprint : c.printProgress = true)
    (h : (bootstrap polls c cancellable methods broker).Leads es (done (.ok (some report))))
    (hsorted : (readsOf .methodsCompiled es).Pairwise (· ≤ ·)) :
    ∃ opening waits rounds last closing,
      es = opening ++ (waits.flatten ++ ((rounds ++ [last]).flatMap Round.events ++ closing)) ∧
        ProgressShown broker report opening waits rounds last closing := by
  obtain ⟨head, subs, start, draining, closing, rfl, hopening, -, hsubs, hdrain, hclosing⟩ :=
    printed_course hprint h
  obtain ⟨waits, rounds, last, rfl, hwaits, -, hrounds, hlast, hsome⟩ := drain_course hdrain
  obtain ⟨t, s, hcounted⟩ : ∃ t s,
      ⟨t, .access (.readCounter .methodsCompiled), report.compiled, s⟩ ∈ closing := by
    cases hclosing
    exact ⟨_, _, List.mem_cons_self⟩
  have hopened : texts (head ++ subs.flatMap Submission.events) =
      ["Bootstrapping external compiler"] := by
    rw [texts_append, texts_of_silent (silent_submissions hb hsubs), List.append_nil]
    cases hopening
    rfl
  have hclosed : texts closing = [reportText report] := by
    cases hclosing
    rfl
  have hwaited : ∀ w ∈ waits, IsWait broker w ∧ ∀ e ∈ w, e.action.isOutput = false :=
    fun w hw => ⟨hwaits w hw, (hwaits w hw).1.silent hb⟩
  -- the counters of the rounds and of the report were read in this order
  have hreads : ((rounds ++ [last]).map Round.counter ++ [report.compiled]).Pairwise (· ≤ ·) := by
    refine hsorted.sublist ?_
    rw [List.append_assoc waits.flatten, ← List.append_assoc head, ← List.append_assoc (head ++ _)]
    exact counters_append_sublist _ _ (List.mem_filterMap.mpr ⟨_, hcounted, rfl⟩)
  obtain ⟨hcounters, -, hbelow⟩ := List.pairwise_append.mp hreads
  have hdots := dots_sorted hcounters
  refine ⟨head ++ subs.flatMap Submission.events, waits, rounds, last, closing, by simp,
    hopened, hwaited, fun r hr => ?_, ?_, fun before r after hsplit => ?_, ⟨t, s, hcounted⟩,
    hclosed, ?_⟩
  · obtain ⟨dots, hround⟩ := hrounds.isRound (List.mem_append_left _ hr)
    exact ⟨hround.poll, hsome r hr⟩
  · obtain ⟨dots, hround⟩ := hrounds.isRound (List.mem_append_right _ List.mem_cons_self)
    exact hlast ▸ hround.poll
  · have hsilent : texts waits.flatten = [] := by
      refine texts_of_silent fun e he => ?_
      obtain ⟨w, hw, he⟩ := List.mem_flatten.mp he
      exact (hwaited w hw).2 e he
    rw [hsplit] at hrounds hdots
    rw [texts_append (head ++ _), hopened, texts_append, hsilent, hrounds.texts_of_sorted hb hdots]
    rfl
  · exact Nat.div_le_div_right (UInt64.le_iff_toNat_le.mp (hbelow _ (by simp) _ (by simp)))

end Routine

/-- **A bootstrap shows its progress by dots that follow the counter.** A bootstrap reports in a run
in which the counter of compiled methods fits into a word, whatever its value at the start and
however other threads add to it. If progress is shown, its events are an opening, waits for the
first task, rounds and a closing: the banner comes first, no wait has any output, after each round
there is one dot for every hundred methods that the round counted, and in the end the line tells the
report. The sink has received exactly this line. If progress is not shown, the sink is neither
written to nor flushed. -/
theorem progress_exact {broker : Broker} (hb : broker.Only fun a => a.isOutput = false)
    {P Q : System} {h : List Event} (hrun : System.Run P h Q)
    (hfits : (P.shared.service.counters.get .methodsCompiled).toNat +
      total (Event.added .methodsCompiled) h < 2 ^ 64)
    {t : ThreadId} {polls : Nat} {c : Config} {cancellable : Bool} {methods : List Method}
    {report : BootstrapReport}
    (hreturn : P.Returns t (Routine.bootstrap polls c cancellable methods broker) h
      (.ok (some report))) :
    (c.printProgress = true → ∃ opening waits rounds last closing,
      own t h =
        opening ++ (waits.flatten ++ ((rounds ++ [last]).flatMap Round.events ++ closing)) ∧
      ProgressShown broker report opening waits rounds last closing ∧
      ∀ k k' : Sink, k.Answers (own t h) k' →
        k'.received = k.received ++ utf8Bytes (lineText (last.counter.toNat / 100) report)) ∧
    (c.printProgress = false → ∀ e ∈ own t h, e.action.isOutput = false) := by
  refine ⟨fun hprint => ?_, fun hprint => ?_⟩
  · have hsorted : (readsOf .methodsCompiled (own t h)).Pairwise (· ≤ ·) :=
      (hrun.reads hfits).1.sublist (List.filter_sublist.filterMap _)
    obtain ⟨opening, waits, rounds, last, closing, hes, hprogress⟩ :=
      Routine.progress_of_sorted hb hprint hreturn.2 hsorted
    refine ⟨opening, waits, rounds, last, closing, hes, hprogress, fun k k' hk => ?_⟩
    rw [hk.received_of_accepted (Routine.accepted_of_ok hb hreturn.2), hes, hprogress.bytes]
  · exact ((Routine.silent_bootstrap hb hprint polls cancellable methods).leads hreturn.2).2

/-- A bootstrap of one method on the first thread, and a second thread that takes its task and
counts methods: the counter jumps before the first round, before the last one, and after it. -/
def jumpingPair : System where
  shared := { service := { counters := { methodsCompiled := 40 } } }
  threads
    | 1 => (Routine.bootstrap 3 { printProgress := true } false [plainMethod] .queue).bind
        afterReport
    | 2 => do
        Routine.access (.addCounter .methodsCompiled 250)
        Routine.lock
        let _ ← Routine.access .popTask
        Routine.unlock
        Routine.access (.addCounter .methodsCompiled 120)
        Routine.access (.addCounter .methodsCompiled 100)
    | _ => .done ()

/-- Two rounds. -/
def jumpingRun : List Event × System :=
  jumpingPair.play Call.silence (List.replicate 12 1 ++ [2] ++ List.replicate 10 1 ++
    List.replicate 6 2 ++ List.replicate 10 1 ++ [2] ++ List.replicate 6 1)

/-- The first round counts 290 methods and the second one 410; the report says 510, and a sink that
takes everything has received the line. -/
theorem progress_exact_jumping :
    texts (own 1 jumpingRun.1) = ["Bootstrapping external compiler", ".", ".", ".", ".",
        " in 0 ms (compiled 510 methods)\n"] ∧
      (∃ report opening waits rounds last closing,
        own 1 jumpingRun.1 =
          opening ++ (waits.flatten ++ ((rounds ++ [last]).flatMap Round.events ++ closing)) ∧
        ProgressShown .queue report opening waits rounds last closing) ∧
      ∃ k : Sink, ({} : Sink).Answers (own 1 jumpingRun.1) k ∧
        k.received =
          utf8Bytes "Bootstrapping external compiler.... in 0 ms (compiled 510 methods)\n" := by
  have hrun : System.Run jumpingPair jumpingRun.1 jumpingRun.2 := System.run_play _ _ _
  obtain ⟨report, hreturn⟩ := hrun.exists_report (t := 1)
    (r := Routine.bootstrap 3 { printProgress := true } false [plainMethod] .queue) rfl
    (by decide +kernel)
  have hfits : (jumpingPair.shared.service.counters.get .methodsCompiled).toNat +
      total (Event.added .methodsCompiled) jumpingRun.1 < 2 ^ 64 := by decide +kernel
  have hsilent : Broker.queue.Only fun a => a.isOutput = false :=
    queue_only fun a ha => by
      rcases a with a | p | c
      · rfl
      · rfl
      · cases ha
  have htexts : texts (own 1 jumpingRun.1) = ["Bootstrapping external compiler", ".", ".", ".", ".",
      " in 0 ms (compiled 510 methods)\n"] := by decide +kernel
  have hline : (texts (own 1 jumpingRun.1)).flatMap utf8Bytes =
      utf8Bytes "Bootstrapping external compiler.... in 0 ms (compiled 510 methods)\n" := by
    rw [htexts]
    decide +kernel
  obtain ⟨hshown, -⟩ := progress_exact hsilent hrun hfits hreturn
  obtain ⟨opening, waits, rounds, last, closing, hes, hprogress, hsink⟩ := hshown rfl
  obtain ⟨k, hk⟩ := Sink.exists_answers (k := {}) rfl rfl
    (Routine.accepted_of_ok hsilent hreturn.2)
  refine ⟨htexts, ⟨report, opening, waits, rounds, last, closing, hes, hprogress⟩, k, hk, ?_⟩
  rw [hsink {} k hk, ← hline, hes, hprogress.bytes]
  rfl

end ExternalCompiler
