/-
The connections of all workers to one external runtime:

* `connection`: what a worker accounts for after its events; `calls_connection`, `added_connection`:
  it shows the calls of the runtime and the additions to the counters of hosted installs;
* `Crew`: compiler threads, each with a worker of its own, and others that leave the workers alone;
* `Connection.Fits`, `Crew.fits`: what a thread accounts for is what its worker shows, whatever the
  others do;
* `Disconnected`, `Installed`, `Untouched`, `crew_connections`: the calls of the runtime when all
  workers have stopped, the hosted installs, and what is right if the compiler is not hosted.
-/
import ExternalCompiler.Proofs.Worker.Connection
import ExternalCompiler.Proofs.Worker.Waiting

namespace ExternalCompiler

/-! ### Connections and events -/

/-- What a worker accounts for after its events. -/
def connection (es : List Event) : Connection :=
  (connectionAccount true).run {} es

/-- The worker `w` was attached when it looked for a task for the last time. -/
def lastAttached (w : Nat) (es : List Event) : Bool :=
  ((es.filter (·.action.isPop)).getLast?).all fun e => (e.before.workers w).isAttached

section Connection

variable {es : List Event} {k : Connection} {w : Nat}

lemma connection_concat (e : Event) :
    connection (es ++ [e]) =
      (connectionAccount true).after (connection es) e.action e.answer :=
  Conduct.run_append _ _ _

lemma calls_call (n n' : RuntimeCount) :
    (k.call n).calls n' = k.calls n' + if some n = some n' then 1 else 0 := by
  by_cases hn : n = n'
  · subst hn
    simp [Connection.call]
  · simp [Connection.call, hn, Function.update_of_ne (Ne.symm hn)]

/-- A call of the runtime is in the account of the worker. -/
lemma calls_after (n : RuntimeCount) (e : Event) :
    ((connectionAccount true).after k e.action e.answer).calls n = k.calls n + e.calls n := by
  obtain ⟨t, a, x, s⟩ := e
  rcases a with a | p | c
  · cases a with
    | countRuntime n' => exact calls_call n' n
    | addCounter n' m =>
        change (k.add n' m).calls n = _
        rw [Connection.add]
        split_ifs <;> rfl
    | _ => rfl
  · rfl
  · cases c with
    | detach => exact calls_call .detaches n
    | repack => exact calls_call .repacks n
    | bootstrapFinished => exact calls_call .notifications n
    | _ => rfl

/-- The account shows how often the runtime was called. -/
lemma calls_connection (n : RuntimeCount) :
    (connection es).calls n = total (Event.calls n) es :=
  (Conduct.total_run (g := fun k : Connection => k.calls n) (fun _ => calls_after n) {} es).trans
    (Nat.zero_add _)

/-- An addition to a counter of hosted installs is in the account of the worker. -/
lemma installed_after {n : Counter} (hn : n.isOfConnection = true) (e : Event) :
    ((connectionAccount true).after k e.action e.answer).added n = k.added n + e.added n := by
  obtain ⟨t, a, x, s⟩ := e
  rcases a with a | p | c
  · cases a with
    | addCounter n' m =>
        change (k.add n' m).added n = _
        rw [Connection.add, Event.added]
        by_cases hnn : n' = n
        · subst hnn
          simp [hn]
        · by_cases hn' : n'.isOfConnection = true
          · simp [hn', hnn, Function.update_of_ne (Ne.symm hnn)]
          · simp [hn', hnn]
    | _ => rfl
  · rfl
  · cases c <;> rfl

/-- The account shows what was added to the counters of hosted installs. -/
lemma added_connection {n : Counter} (hn : n.isOfConnection = true) :
    (connection es).added n = total (Event.added n) es :=
  (Conduct.total_run (g := fun k : Connection => k.added n) (fun _ => installed_after hn) {}
    es).trans (Nat.zero_add _)

lemma atLook_after (e : Event) :
    ((connectionAccount true).after k e.action e.answer).atLook =
      if e.action.isPop then k.isAttached else k.atLook := by
  obtain ⟨t, a, x, s⟩ := e
  rcases a with a | p | c
  · cases a with
    | addCounter n' m =>
        change (k.add n' m).atLook = k.atLook
        rw [Connection.add]
        split_ifs <;> rfl
    | _ => rfl
  · rfl
  · cases c <;> rfl

/-- What the account says of the last look for a task is what the worker showed then. -/
lemma atLook_connection
    (hes : ∀ es₁ e es₂, es = es₁ ++ e :: es₂ →
      (e.before.workers w).isAttached = (connection es₁).isAttached) :
    (connection es).atLook = lastAttached w es := by
  induction es using List.reverseRecOn with
  | nil => rfl
  | append_singleton es e ih =>
      have hlast := hes es e [] rfl
      rw [connection_concat, atLook_after, lastAttached, List.filter_append]
      by_cases hpop : e.action.isPop = true
      · simp [hpop, hlast]
      · have hbefore := ih fun es₁ e' es₂ hsplit => hes es₁ e' (es₂ ++ [e]) (by simp [hsplit])
        simpa [hpop, lastAttached] using hbefore

end Connection

/-! ### What a worker shows -/

/-- The worker shows what its thread accounts for. -/
structure Connection.Fits (k : Connection) (v : Worker) : Prop where
  attached : v.isAttached = k.isAttached
  repacks : v.repacks = UInt64.ofNat k.repacks

/-- What is no connection leaves the worker alone. -/
lemma Action.writesWorker_of_not_isOfConnection {a : Action} (h : a.isOfConnection = false)
    (w : Nat) : a.writesWorker w = false := by
  rcases a with a | p | c
  · cases a <;> first | rfl | cases h
  · rfl
  · rfl

/-- A worker leaves the other workers alone. -/
lemma Action.writesWorker_of_isOfWorker {a : Action} {v w : Nat} (h : a.isOfWorker v = true)
    (hvw : v ≠ w) : a.writesWorker w = false := by
  cases h using isOfWorker_cases with
  | chore a h =>
      cases h using isChore_cases with
      | storeAttached b => exact beq_eq_false_iff_ne.mpr hvw
      | _ => rfl
  | errand a h =>
      cases h using isErrand_cases with
      | storeAttached | countRepack => exact beq_eq_false_iff_ne.mpr hvw
      | locking a h => exact Routine.writesWorker_of_isLocking a h
      | _ => rfl
  | _ => rfl

/-- What the thread of a worker does keeps its account right. -/
lemma Connection.Fits.after {k : Connection} {t : ThreadId} {w : Nat} {a : Action} {x : a.Answer}
    {s s' : Shared} (h : k.Fits (s.workers w)) (heff : Effect t s a x s')
    (ha : a.isOfWorker w = true) :
    ((connectionAccount true).after k a x).Fits (s'.workers w) := by
  by_cases hwrites : a.writesWorker w = true
  · rcases a with a | p | c
    · obtain ⟨rfl, rfl⟩ := effect_access.mp heff
      cases a with
      | storeAttached v attached =>
          obtain rfl : v = w := beq_iff_eq.mp hwrites
          change (k.mark attached).Fits _
          exact ⟨by simp [Access.perform, Shared.onWorker, Connection.mark],
            by simpa [Access.perform, Shared.onWorker, Connection.mark] using h.repacks⟩
      | countRepack v =>
          obtain rfl : v = w := beq_iff_eq.mp hwrites
          change k.reclaim.Fits _
          exact ⟨by simpa [Access.perform, Shared.onWorker, Connection.reclaim] using h.attached,
            by simp [Access.perform, Shared.onWorker, h.repacks, Connection.reclaim]⟩
      | _ => cases hwrites
    · cases hwrites
    · cases hwrites
  · rw [Bool.not_eq_true] at hwrites
    have hkept : s'.workers w = s.workers w := keeps_worker hwrites _ _ _ _ heff
    rw [hkept]
    rcases a with a | p | c
    · cases a with
      | storeAttached v _ | countRepack v =>
          have hv : v = w := by
            simpa [Action.isOfWorker, Action.isChore, Action.isErrand, Action.isLocking] using ha
          simp [Action.writesWorker, hv] at hwrites
      | addCounter n m =>
          change (k.add n m).Fits _
          rw [Connection.add]
          split_ifs
          · exact ⟨h.attached, h.repacks⟩
          · exact h
      | _ => exact ⟨h.attached, h.repacks⟩
    · exact h
    · cases c <;> exact ⟨h.attached, h.repacks⟩

/-! ### Crews -/

/-- Compiler threads `crew`, each with a worker of its own that is attached and was never repacked,
and others that have nothing to do with the connections of workers. -/
structure Crew (rounds : Nat) (c : Config) (crew : Finset ThreadId) (worker millis : ThreadId → Nat)
    (P : System) : Prop where
  working : ∀ t ∈ crew,
    P.threads t = (Routine.work rounds c (worker t) (millis t)).bind fun _ => .done ()
  distinct : ∀ t ∈ crew, ∀ u ∈ crew, worker t = worker u → t = u
  attached : ∀ t ∈ crew, (P.shared.workers (worker t)).isAttached = true
  unpacked : ∀ t ∈ crew, (P.shared.workers (worker t)).repacks = 0
  aside : ∀ t ∉ crew, (P.threads t).Only (·.isOfConnection = false)

section Crew

variable {rounds : Nat} {c : Config} {crew : Finset ThreadId} {worker millis : ThreadId → Nat}
  {P Q : System} {h h₁ h₂ : List Event} {t : ThreadId} {e : Event}

lemma Crew.not_isOfConnection (hcrew : Crew rounds c crew worker millis P)
    (hrun : System.Run P h Q) : ∀ e ∈ h, e.thread ∉ crew → e.action.isOfConnection = false := by
  intro e he ht
  have honly := (hcrew.aside _ ht).leads (hrun.leads e.thread)
  exact honly.2 e (mem_own.mpr ⟨he, rfl⟩)

/-- What a compiler thread does is for its own worker. -/
lemma Crew.isOfWorker (hcrew : Crew rounds c crew worker millis P) (hrun : System.Run P h Q) :
    ∀ e ∈ h, e.thread ∈ crew → e.action.isOfWorker (worker e.thread) = true := by
  intro e he ht
  have honly : (P.threads e.thread).Only (·.isOfWorker (worker e.thread) = true) := by
    rw [hcrew.working _ ht]
    exact (Routine.only_work (fun _ ha => ha) rounds c (millis e.thread)).bind fun _ => trivial
  exact (honly.leads (hrun.leads e.thread)).2 e (mem_own.mpr ⟨he, rfl⟩)

/-- The other threads leave the worker of a thread alone. -/
lemma Crew.keeps_worker (hcrew : Crew rounds c crew worker millis P) (hrun : System.Run P h Q)
    (ht : t ∈ crew) : ∀ e ∈ h, e.thread ≠ t → Keeps (·.workers (worker t)) e.action := by
  intro e he hne
  refine ExternalCompiler.keeps_worker ?_
  by_cases hu : e.thread ∈ crew
  · refine Action.writesWorker_of_isOfWorker (hcrew.isOfWorker hrun e he hu) ?_
    exact fun hsame => hne (hcrew.distinct _ hu _ ht hsame)
  · exact Action.writesWorker_of_not_isOfConnection (hcrew.not_isOfConnection hrun e he hu) _

/-- A thread gets the answers that it expects, and accounts for what its worker shows. -/
lemma Crew.fits (hcrew : Crew rounds c crew worker millis P) (hrun : System.Run P h Q)
    (hsim : ∀ e ∈ h, e.thread ∈ crew → e.action.Simulated e.answer) (ht : t ∈ crew) :
    (connectionAccount c.isHosted).Expected {} (own t h) ∧
      (connection (own t h)).Fits (Q.shared.workers (worker t)) := by
  refine hrun.expected (A := connectionAccount c.isHosted)
    (fun k s => k.Fits (s.workers (worker t))) ?_ ?_ ?_ fun _ _ _ hk => hk
  · exact ⟨hcrew.attached t ht, hcrew.unpacked t ht⟩
  · rintro e he rfl k s hk heff
    have hmine := hcrew.isOfWorker hrun e he ht
    refine ⟨?_, hk.after heff hmine⟩
    have hsimulated := hsim e he ht
    obtain ⟨t, a, x, before⟩ := e
    rcases a with a | p | c
    · cases a with
      | readAttached v =>
          have hv : v = worker t := by
            simpa [Action.isOfWorker, Action.isChore, Action.isErrand, Action.isLocking] using hmine
          obtain ⟨hx, -⟩ := effect_access.mp heff
          exact hx.trans (hv ▸ hk.attached)
      | _ => trivial
    · trivial
    · exact hsimulated
  · intro e he hne k s hk heff
    have hkept : s.workers (worker t) = e.before.workers (worker t) :=
      hcrew.keeps_worker hrun ht e he hne _ _ _ _ heff
    rwa [hkept]

/-- So it does at each of its events. -/
lemma Crew.fits_before (hcrew : Crew rounds c crew worker millis P)
    (hrun : System.Run P (h₁ ++ e :: h₂) Q)
    (hsim : ∀ e' ∈ h₁ ++ e :: h₂, e'.thread ∈ crew → e'.action.Simulated e'.answer)
    (ht : t ∈ crew) :
    (connectionAccount c.isHosted).Expected {} (own t h₁) ∧
      (connection (own t h₁)).Fits (e.before.workers (worker t)) := by
  obtain ⟨R, R', hR, hstep, -⟩ := hrun.at_event
  rw [hstep.before]
  exact hcrew.fits hR (fun e' he' => hsim e' (List.mem_append_left _ he')) ht

/-- Whatever a worker does is allowed by what it accounts for. -/
lemma Crew.asked (hcrew : Crew rounds c crew worker millis P)
    (hrun : System.Run P (h₁ ++ e :: h₂) Q)
    (hsim : ∀ e' ∈ h₁ ++ e :: h₂, e'.thread ∈ crew → e'.action.Simulated e'.answer)
    (ht : e.thread ∈ crew) :
    (connectionAccount c.isHosted).asks (connection (own e.thread h₁)) e.action := by
  have hmeets : (P.threads e.thread).Meets (connectionAccount c.isHosted) {} fun _ _ => True := by
    rw [hcrew.working _ ht]
    exact (Routine.connection_work rounds c _ _).bind fun _ _ _ => trivial
  have hleads := hrun.leads e.thread
  rw [own_append, own_cons_self rfl] at hleads
  exact hmeets.asked hleads (hcrew.fits_before hrun hsim ht).1

/-! ### The runtime and all workers -/

/-- The routine is at the top of the loop of a worker, or done. -/
def Routine.isBetweenRounds {α : Type} : Routine α → Bool
  | .done _ => true
  | .act (.access .popTask) _ => true
  | _ => false

/-- The workers `crew` of a hosted compiler have stopped with the summaries `s`, after the history
`h`. -/
structure Disconnected (crew : Finset ThreadId) (worker : ThreadId → Nat) (s : ThreadId → Summary)
    (h : List Event) (Q : System) : Prop where
  /-- No worker is attached. -/
  detached : ∀ t ∈ crew, (Q.shared.workers (worker t)).isAttached = false
  /-- The runtime detached each worker once more than it attached it. -/
  ended : total (Event.calls .detaches) h = total (Event.calls .attaches) h + crew.card
  /-- Those that are not idle detaches are of workers that were attached when they stopped. -/
  detaches : total (Event.calls .detaches) h = ∑ t ∈ crew, (s t).idleDetaches +
    (crew.filter fun t => lastAttached (worker t) (own t h)).card
  /-- All repacks are idle repacks. -/
  repacks : total (Event.calls .repacks) h = ∑ t ∈ crew, (s t).idleRepacks
  /-- Each worker counted its own. -/
  counted : ∀ t ∈ crew,
    (Q.shared.workers (worker t)).repacks = UInt64.ofNat (s t).idleRepacks

/-- The hosted installs of a service that started with none: one of a quarter of the usual size for
each attach, modulo `2 ^ 64`. -/
structure Installed (h : List Event) (i : InstallCounters) : Prop where
  installs : i.installs = UInt64.ofNat (total (Event.calls .attaches) h)
  blobs : i.blobBytes = 256 * i.installs
  codes : i.codeBytes = 160 * i.installs

/-- Nothing happened to the connections of the workers `crew`. -/
structure Untouched (crew : Finset ThreadId) (worker : ThreadId → Nat) (P : System)
    (h : List Event) (Q : System) : Prop where
  /-- The runtime was not called about a worker. -/
  calls : ∀ n, n ≠ .notifications → total (Event.calls n) h = 0
  /-- There was no hosted install. -/
  installs : ∀ n : Counter, n.isOfConnection = true →
    Q.shared.service.counters.get n = P.shared.service.counters.get n
  /-- The workers are as they were. -/
  workers : ∀ t ∈ crew, Q.shared.workers (worker t) = P.shared.workers (worker t)

lemma calls_of_not_isOfConnection {n : RuntimeCount} (hn : n ≠ .notifications)
    (he : e.action.isOfConnection = false) : e.calls n = 0 := by
  obtain ⟨t, a, x, s⟩ := e
  refine if_neg ?_
  rcases a with a | p | c
  · cases a <;> first | cases he; done | exact nofun
  · exact nofun
  · cases c with
    | bootstrapFinished => exact fun hsome => hn (Option.some.inj hsome).symm
    | detach | repack => cases he
    | _ => exact nofun

lemma added_of_not_isOfConnection {n : Counter} (hn : n.isOfConnection = true)
    (he : e.action.isOfConnection = false) : e.added n = 0 := by
  obtain ⟨t, a, x, s⟩ := e
  rcases a with a | p | c
  · cases a with
    | addCounter n' m =>
        refine if_neg ?_
        rintro rfl
        exact Bool.false_ne_true (he.symm.trans hn)
    | _ => rfl
  · rfl
  · rfl

section Parts

variable (hcrew : Crew rounds c crew worker millis P) (hrun : System.Run P h Q)
  (hsim : ∀ e ∈ h, e.thread ∈ crew → e.action.Simulated e.answer)
include hcrew hrun

/-- What the workers account for adds up to the calls of the runtime. -/
lemma Crew.sum_calls {n : RuntimeCount} (hn : n ≠ .notifications) :
    ∑ t ∈ crew, (connection (own t h)).calls n = total (Event.calls n) h := by
  have hothers : ∀ e ∈ h, e.thread ∉ crew → e.calls n = 0 :=
    fun e he ht => calls_of_not_isOfConnection hn (hcrew.not_isOfConnection hrun e he ht)
  rw [← sum_total_own crew hothers]
  exact Finset.sum_congr rfl fun t _ => calls_connection n

/-- What the workers added to a counter of hosted installs is what it shows. -/
lemma Crew.counter (hzero : P.shared.service.counters.hosted = {}) {n : Counter}
    (hn : n.isOfConnection = true) :
    Q.shared.service.counters.get n =
      UInt64.ofNat (∑ t ∈ crew, (connection (own t h)).added n) := by
  have hstart : P.shared.service.counters.get n = 0 := by
    rcases n with _ | _ | _ | ⟨_ | _⟩ | ⟨_ | _⟩ | ⟨_ | _⟩ | ⟨_ | _⟩ <;>
      first | cases hn; done | simp [Counters.get, Counters.ofOrigin, hzero]
  have hothers : ∀ e ∈ h, e.thread ∉ crew → e.added n = 0 :=
    fun e he ht => added_of_not_isOfConnection hn (hcrew.not_isOfConnection hrun e he ht)
  rw [hrun.counter, hstart, UInt64.zero_add, ← sum_total_own crew hothers]
  exact congrArg UInt64.ofNat (Finset.sum_congr rfl fun t _ => (added_connection hn).symm)

/-- The hosted installs, when the counts of all workers are level. -/
lemma Crew.installed (hzero : P.shared.service.counters.hosted = {})
    (hlevel : ∀ t ∈ crew, (connection (own t h)).Level) :
    Installed h Q.shared.service.counters.hosted := by
  have hinstalls : Q.shared.service.counters.hosted.installs =
      UInt64.ofNat (total (Event.calls .attaches) h) := by
    rw [← hcrew.sum_calls hrun (n := .attaches) nofun]
    refine (hcrew.counter hrun hzero (n := .installs .hosted) rfl).trans (congrArg _ ?_)
    exact Finset.sum_congr rfl fun t ht => (hlevel t ht).installs
  refine ⟨hinstalls, ?_, ?_⟩
  · rw [hinstalls, ← hcrew.sum_calls hrun (n := .attaches) nofun]
    refine (hcrew.counter hrun hzero (n := .blobBytes .hosted) rfl).trans ?_
    rw [Finset.sum_congr rfl fun t ht => (hlevel t ht).blobs, ← Finset.mul_sum, UInt64.ofNat_mul]
    rfl
  · rw [hinstalls, ← hcrew.sum_calls hrun (n := .attaches) nofun]
    refine (hcrew.counter hrun hzero (n := .codeBytes .hosted) rfl).trans ?_
    rw [Finset.sum_congr rfl fun t ht => (hlevel t ht).codes, ← Finset.mul_sum, UInt64.ofNat_mul]
    rfl

/-- Where the compiler is not hosted, nothing happens to a connection. -/
lemma Crew.untouched (hhosted : c.isHosted = false)
    (hsim : ∀ e ∈ h, e.thread ∈ crew → e.action.Simulated e.answer) :
    Untouched crew worker P h Q := by
  have hnone : ∀ e ∈ h, e.action.isOfConnection = false := by
    intro e he
    by_cases ht : e.thread ∈ crew
    · obtain ⟨h₁, h₂, rfl⟩ := List.append_of_mem he
      have hasks := hcrew.asked hrun hsim ht
      rw [hhosted] at hasks
      rw [← Bool.not_eq_true]
      intro hconnection
      obtain ⟨t, a, x, s⟩ := e
      rcases a with a | p | c
      · cases a with
        | popTask => cases hconnection
        | addCounter n m =>
            cases n with
            | methodsCompiled => cases hconnection
            | _ => cases hasks hconnection
        | _ => cases hasks hconnection
      · cases hasks hconnection
      · cases hasks hconnection
    · exact hcrew.not_isOfConnection hrun e he ht
  refine ⟨fun n hn => ?_, fun n hn => ?_, fun t ht => ?_⟩
  · exact total_eq_zero fun e he => calls_of_not_isOfConnection hn (hnone e he)
  · rw [hrun.counter, total_eq_zero fun e he => added_of_not_isOfConnection hn (hnone e he)]
    exact UInt64.add_zero _
  · have hkeeps : ∀ e ∈ h, Keeps (·.workers (worker t)) e.action :=
      fun e he => ExternalCompiler.keeps_worker
        (Action.writesWorker_of_not_isOfConnection (hnone e he) _)
    have hseen := hrun.seen (t := t) (fun e he _ => hkeeps e he) fun _ _ => rfl
    exact (hseen.of_keeps fun e he => hkeeps e (mem_own.mp he).1).1

include hsim

/-- At the top of its loop the counts of a worker are level. -/
lemma Crew.level (hhosted : c.isHosted = true) (ht : t ∈ crew)
    (hbetween : (Q.threads t).isBetweenRounds = true) : (connection (own t h)).Level := by
  obtain ⟨hexpected, -⟩ := hcrew.fits hrun hsim ht
  have hmeets : (P.threads t).Meets (connectionAccount c.isHosted) {} fun _ k => k.Level := by
    rw [hcrew.working t ht]
    refine (Routine.connection_work rounds c _ _).bind fun x k hx => ?_
    obtain ⟨s, -, hended⟩ := hx
    exact (hended hhosted).level
  have hleft := hmeets.leads (hrun.leads t) hexpected
  cases hthread : Q.threads t with
  | done u =>
      rw [hthread] at hleft
      exact hleft
  | act a next =>
      rw [hthread] at hbetween hleft
      rcases a with a | p | c
      · cases a <;> first | exact hleft.1 | cases hbetween
      · cases hbetween
      · cases hbetween
  | more =>
      rw [hthread] at hbetween
      cases hbetween

/-- What a worker has accounted for when it has returned. -/
lemma Crew.ended (hhosted : c.isHosted = true) (ht : t ∈ crew) {s : Summary}
    (hs : P.Returns t (Routine.work rounds c (worker t) (millis t)) h (.ok s)) :
    (connection (own t h)).Ended s := by
  obtain ⟨hexpected, -⟩ := hcrew.fits hrun hsim ht
  obtain ⟨s', hs', hended⟩ := (Routine.connection_work rounds c _ _).leads hs.2 hexpected
  cases hs'
  exact hended hhosted

/-- What a worker accounts for as its last look for a task. -/
lemma Crew.atLook (ht : t ∈ crew) :
    (connection (own t h)).atLook = lastAttached (worker t) (own t h) := by
  refine atLook_connection fun es₁ e es₂ hown => ?_
  obtain ⟨h₁, h₂, rfl, rfl, rfl⟩ := exists_of_own_eq_append_cons hown
  exact (hcrew.fits_before hrun hsim ht).2.attached

/-- When all workers of a hosted compiler have stopped, the calls of the runtime add up. -/
lemma Crew.disconnected (hhosted : c.isHosted = true) {s : ThreadId → Summary}
    (hs : ∀ t ∈ crew,
      P.Returns t (Routine.work rounds c (worker t) (millis t)) h (.ok (s t))) :
    Disconnected crew worker s h Q := by
  have hended : ∀ t ∈ crew, (connection (own t h)).Ended (s t) :=
    fun t ht => hcrew.ended hrun hsim hhosted ht (hs t ht)
  have hfits := fun t ht => (hcrew.fits hrun hsim (t := t) ht).2
  refine ⟨fun t ht => ?_, ?_, ?_, ?_, fun t ht => ?_⟩
  · exact (hfits t ht).attached.trans (hended t ht).detached
  · have hone : ∀ t ∈ crew, (connection (own t h)).calls .detaches =
        (connection (own t h)).calls .attaches + 1 := by
      intro t ht
      have hlevel := (hended t ht).level.detaches
      rwa [(hended t ht).detached] at hlevel
    rw [← hcrew.sum_calls hrun (n := .detaches) nofun,
      ← hcrew.sum_calls hrun (n := .attaches) nofun, Finset.sum_congr rfl hone,
      Finset.sum_add_distrib, Finset.card_eq_sum_ones]
  · have hidle : ∀ t ∈ crew, (connection (own t h)).calls .detaches =
        (s t).idleDetaches + if lastAttached (worker t) (own t h) then 1 else 0 := by
      intro t ht
      rw [(hended t ht).detaches, hcrew.atLook hrun hsim ht]
    rw [← hcrew.sum_calls hrun (n := .detaches) nofun, Finset.sum_congr rfl hidle,
      Finset.sum_add_distrib, Finset.card_filter]
  · rw [← hcrew.sum_calls hrun (n := .repacks) nofun]
    exact Finset.sum_congr rfl fun t ht => (hended t ht).repacks
  · rw [(hfits t ht).repacks, (hended t ht).level.repacks, (hended t ht).repacks]

end Parts

/-- **Every attach and detach is accounted for.** Compiler threads, each with a worker of its own,
work beside others that leave the workers alone, and the simulated runtime answers. Only the thread
of a worker changes its connection. In a hosted compiler, whenever a worker is at the top of its
loop or has stopped, the runtime detached it as often as it attached it, and once more if it is
detached; and only an attached worker compiles. When all workers have stopped, none is attached, and
the detaches, attaches, repacks and hosted installs add up. In another compiler nothing happens to
the connections. -/
theorem crew_connections (hcrew : Crew rounds c crew worker millis P) (hrun : System.Run P h Q)
    (hsim : ∀ e ∈ h, e.thread ∈ crew → e.action.Simulated e.answer) :
    (∀ e ∈ h, e.action.isOfConnection = true →
      e.thread ∈ crew ∧ e.action.isOfWorker (worker e.thread) = true) ∧
    (c.isHosted = true →
      (∀ t ∈ crew, (Q.threads t).isBetweenRounds = true →
        total (Event.calls .detaches) (own t h) = total (Event.calls .attaches) (own t h) +
          if (Q.shared.workers (worker t)).isAttached then 0 else 1) ∧
      (∀ e ∈ h, e.thread ∈ crew → ∀ n, e.action = .access (.addCounter .methodsCompiled n) →
        (e.before.workers (worker e.thread)).isAttached = true) ∧
      ∀ s : ThreadId → Summary,
        (∀ t ∈ crew,
          P.Returns t (Routine.work rounds c (worker t) (millis t)) h (.ok (s t))) →
        Disconnected crew worker s h Q ∧
          (P.shared.service.counters.hosted = {} →
            Installed h Q.shared.service.counters.hosted)) ∧
    (c.isHosted = false → Untouched crew worker P h Q) := by
  refine ⟨fun e he hconnection => ?_, fun hhosted => ⟨fun t ht hbetween => ?_,
    fun e he ht n haction => ?_, fun s hs => ?_⟩, fun hhosted => hcrew.untouched hrun hhosted hsim⟩
  · by_cases ht : e.thread ∈ crew
    · exact ⟨ht, hcrew.isOfWorker hrun e he ht⟩
    · rw [hcrew.not_isOfConnection hrun e he ht] at hconnection
      cases hconnection
  · have hlevel := (hcrew.level hrun hsim hhosted ht hbetween).detaches
    rwa [calls_connection, calls_connection, ← (hcrew.fits hrun hsim ht).2.attached] at hlevel
  · obtain ⟨h₁, h₂, rfl⟩ := List.append_of_mem he
    have hasks := hcrew.asked hrun hsim ht
    rw [haction] at hasks
    exact (hcrew.fits_before hrun hsim ht).2.attached.trans (hasks hhosted)
  · refine ⟨hcrew.disconnected hrun hsim hhosted hs, fun hzero => ?_⟩
    exact hcrew.installed hrun hzero
      fun t ht => (hcrew.ended hrun hsim hhosted ht (hs t ht)).level

end Crew

/-! ### A small crew -/

/-- A hosted compiler whose idle workers are detached from the start. -/
def eagerConfig : Config where
  nativeLibrary := true
  startupGraceMillis := 0

/-- Two workers, and a thread that submits a task and closes the queue. -/
def smallCrew : System where
  shared := {}
  threads
    | 1 => (Routine.submit (workloadTask 0)).bind fun _ => Routine.close.bind fun _ => .done ()
    | 2 => (Routine.work 4 eagerConfig 0 0).bind fun _ => .done ()
    | 3 => (Routine.work 4 eagerConfig 1 0).bind fun _ => .done ()
    | _ => .done ()

/-- The first worker idles out and comes back for the task; the other one stops at once. -/
def smallCrewRun : List Event × System :=
  smallCrew.play Call.simulated
    (List.replicate 16 2 ++ List.replicate 12 1 ++ List.replicate 50 2 ++ List.replicate 50 3)

lemma Action.not_isOfConnection_of_isVisit {a : Action} (h : a.isVisit = true) :
    a.isOfConnection = false := by
  cases h using isVisit_cases <;> rfl

lemma crew_smallCrew : Crew 4 eagerConfig {2, 3} (· - 2) (fun _ => 0) smallCrew where
  working t ht := by
    rcases Finset.mem_insert.mp ht with rfl | ht
    · rfl
    · obtain rfl := Finset.mem_singleton.mp ht
      rfl
  distinct := by decide
  attached _ _ := rfl
  unpacked _ _ := rfl
  aside t ht := by
    have hvisit : ∀ {a : Action}, a.isVisit = true → a.isOfConnection = false :=
      Action.not_isOfConnection_of_isVisit
    have hsubmit : ∀ t, (Routine.submit t).Only (·.isOfConnection = false) :=
      Routine.only_submit fun _ => hvisit
    have hclose : Routine.close.Only (·.isOfConnection = false) :=
      Routine.only_close (fun _ ha => hvisit (Action.isVisit_of_isLocking ha)) rfl
    simp only [smallCrew]
    split
    · exact (hsubmit _).bind fun _ => hclose.bind fun _ => trivial
    · simp at ht
    · simp at ht
    · trivial

/-- One attach, three detaches: the first worker idled out, and both were attached at the end. -/
theorem crew_connections_smallCrew :
    total (Event.calls .detaches) smallCrewRun.1 = 3 ∧
      ∃ s, Disconnected {2, 3} (· - 2) s smallCrewRun.1 smallCrewRun.2 ∧
        Installed smallCrewRun.1 smallCrewRun.2.shared.service.counters.hosted := by
  have hrun : System.Run smallCrew smallCrewRun.1 smallCrewRun.2 := System.run_play _ _ _
  have hsim : ∀ e ∈ smallCrewRun.1, e.thread ∈ ({2, 3} : Finset ThreadId) →
      e.action.Simulated e.answer := fun e he _ => simulated_play _ _ e he
  have hdone : ∀ t ∈ ({2, 3} : Finset ThreadId), (smallCrewRun.2.threads t).isDone = true := by
    decide +kernel
  obtain ⟨-, hhosted, -⟩ := crew_connections crew_smallCrew hrun hsim
  have hreturns : ∀ t ∈ ({2, 3} : Finset ThreadId), ∃ s,
      smallCrew.Returns t (Routine.work 4 eagerConfig (t - 2) 0) smallCrewRun.1 (.ok s) := by
    intro t ht
    obtain ⟨x, -, hx⟩ := hrun.exists_returns (crew_smallCrew.working t ht) (fun _ => .inl rfl)
      (hdone t ht)
    obtain ⟨s, rfl, -⟩ := (Routine.connection_work 4 eagerConfig (t - 2) 0).leads hx.2
      (crew_smallCrew.fits hrun hsim ht).1
    exact ⟨s, hx⟩
  have : Nonempty Summary := ⟨{}⟩
  choose! s hs using hreturns
  obtain ⟨hdisconnected, hinstalled⟩ := (hhosted rfl).2.2 s hs
  exact ⟨by decide +kernel, s, hdisconnected, hinstalled rfl⟩

end ExternalCompiler
