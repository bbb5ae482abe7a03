/-
The connection of a worker to the external runtime:

* `Connection`: whether a worker is attached, how often it was repacked, and what the runtime and
  the service counted about it;
* `connectionAccount`: how the actions of its thread change that; the thread looks for a task only
  where the counts are level, compiles only for an attached worker, and touches the connection only
  if the compiler is hosted;
* `Connection.Level`, `Connection.Balanced`, `Connection.Ended`: the counts agree, at the top of the
  loop with the summary so far, and when the worker has stopped;
* `connection_work`: a compiler thread keeps to that.
-/
import ExternalCompiler.Worker.Loop
import ExternalCompiler.Proofs.Account
import ExternalCompiler.Proofs.Simulation.Runtime

namespace ExternalCompiler

/-! ### Connections -/

/-- The counter belongs to the installs of the hosted compiler itself. -/
def Counter.isOfConnection : Counter → Bool
  | .installs .hosted | .blobBytes .hosted | .codeBytes .hosted => true
  | _ => false

/-- The action changes the connection of a worker, or counts what becomes of it. -/
def Action.isOfConnection : Action → Bool
  | .access (.storeAttached _ _) | .access (.countRepack _) | .access (.countRuntime _)
  | .call (.detach _ _) | .call (.repack _) => true
  | .access (.addCounter k _) => k.isOfConnection
  | _ => false

/-- What a worker accounts for: whether it is attached; how often it counted a repack; how often the
runtime was called for it; what was added to the counters of hosted installs; and whether it was
attached when it looked for a task for the last time. -/
structure Connection where
  isAttached : Bool := true
  repacks : Nat := 0
  calls : RuntimeCount → Nat := fun _ => 0
  added : Counter → Nat := fun _ => 0
  atLook : Bool := true

namespace Connection

/-- The worker looks for a task. -/
def look (k : Connection) : Connection :=
  { k with atLook := k.isAttached }

/-- The worker is marked as attached or detached. -/
def mark (k : Connection) (attached : Bool) : Connection :=
  { k with isAttached := attached }

/-- The worker counts a repack. -/
def reclaim (k : Connection) : Connection :=
  { k with repacks := k.repacks + 1 }

/-- The runtime is called. -/
def call (k : Connection) (n : RuntimeCount) : Connection :=
  { k with calls := Function.update k.calls n (k.calls n + 1) }

/-- Something is added to a counter. -/
def add (k : Connection) (n : Counter) (m : UInt64) : Connection :=
  if n.isOfConnection then
    { k with added := Function.update k.added n (k.added n + m.toNat) }
  else k

/-- All additions of a list, one after the other. -/
def addAll (k : Connection) (list : List Addition) : Connection :=
  list.foldl (fun k a => k.add a.1 a.2) k

/-- The runtime detached the worker as often as it attached it, and once more if the worker is
detached; the worker counted the repacks; and every attachment was an install of a quarter of the
usual size. -/
structure Level (k : Connection) : Prop where
  detaches : k.calls .detaches = k.calls .attaches + if k.isAttached then 0 else 1
  repacks : k.repacks = k.calls .repacks
  installs : k.added (.installs .hosted) = k.calls .attaches
  blobs : k.added (.blobBytes .hosted) = 256 * k.calls .attaches
  codes : k.added (.codeBytes .hosted) = 160 * k.calls .attaches

/-- At the top of the loop all calls of the runtime were those that the summary counts. -/
structure Balanced (s : Summary) (k : Connection) : Prop where
  level : k.Level
  detaches : k.calls .detaches = s.idleDetaches
  repacks : k.calls .repacks = s.idleRepacks

/-- A worker that has stopped is detached, and was detached once more than the summary counts if it
was still attached. -/
structure Ended (s : Summary) (k : Connection) : Prop where
  level : k.Level
  detached : k.isAttached = false
  detaches : k.calls .detaches = s.idleDetaches + if k.atLook then 1 else 0
  repacks : k.calls .repacks = s.idleRepacks

end Connection

/-- How a worker keeps track of its connection, in a hosted compiler or in another one. -/
def connectionAccount (hosted : Bool) : Account Connection where
  after
    | k, .access .popTask, _ => k.look
    | k, .access (.storeAttached _ attached), _ => k.mark attached
    | k, .access (.countRepack _), _ => k.reclaim
    | k, .access (.countRuntime n), _ => k.call n
    | k, .access (.addCounter n m), _ => k.add n m
    | k, .call (.detach _ _), _ => k.call .detaches
    | k, .call (.repack _), _ => k.call .repacks
    | k, .call .bootstrapFinished, _ => k.call .notifications
    | k, _, _ => k
  asks
    | k, .access .popTask => k.Level
    | k, .access (.addCounter .methodsCompiled _) => hosted = true → k.isAttached = true
    | _, a => a.isOfConnection = true → hosted = true
  expects
    | k, .access (.readAttached _), (attached : Bool) => attached = k.isAttached
    | _, a, x => a.Simulated x
  halts _ := True

/-! ### What changes a connection -/

namespace Connection

variable {s : Summary} {k : Connection}

/-- A new worker is attached. -/
lemma balanced_start : Balanced {} {} where
  level := ⟨rfl, rfl, rfl, rfl, rfl⟩
  detaches := rfl
  repacks := rfl

/-- A look for a task changes no count. -/
lemma Balanced.look (h : k.Balanced s) : k.look.Balanced s :=
  ⟨⟨h.level.detaches, h.level.repacks, h.level.installs, h.level.blobs, h.level.codes⟩, h.detaches,
    h.repacks⟩

/-- What became of a task makes no difference. -/
lemma Balanced.of_idle_eq {s' : Summary} (h : k.Balanced s)
    (hdetaches : s'.idleDetaches = s.idleDetaches) (hrepacks : s'.idleRepacks = s.idleRepacks) :
    k.Balanced s' :=
  ⟨h.level, h.detaches.trans hdetaches.symm, h.repacks.trans hrepacks.symm⟩

/-- The connection after a worker was detached. -/
def detached (k : Connection) : Connection :=
  (k.call .detaches).mark false

/-- The connection after a worker was repacked. -/
def repacked (k : Connection) : Connection :=
  (k.call .repacks).reclaim

/-- The connection after a worker was attached and its entry stub installed. -/
def attached (k : Connection) : Connection :=
  (((k.mark true).call .attaches).addAll
    (installed .hosted (Routine.blobBytes / 4) (Routine.codeBytes / 4)))

/-- What an idle worker changes about its connection. -/
def afterIdle (k : Connection) : IdleAction → Connection
  | .none => k
  | .detached => k.detached
  | .repacked => k.repacked

/-- A worker is detached once more than it was attached. -/
lemma Level.detached (h : k.Level) (hk : k.isAttached = true) : k.detached.Level where
  detaches := by
    have hdetaches := h.detaches
    rw [hk] at hdetaches
    exact congrArg (· + 1) hdetaches
  repacks := h.repacks
  installs := h.installs
  blobs := h.blobs
  codes := h.codes

lemma Level.repacked (h : k.Level) : k.repacked.Level where
  detaches := h.detaches
  repacks := congrArg (· + 1) h.repacks
  installs := h.installs
  blobs := h.blobs
  codes := h.codes

lemma Level.attached (h : k.Level) (hk : k.isAttached = false) : k.attached.Level where
  detaches := by
    have hdetaches := h.detaches
    rw [hk] at hdetaches
    exact hdetaches
  repacks := h.repacks
  installs := congrArg (· + 1) h.installs
  blobs := by
    have hblobs : k.attached.added (.blobBytes .hosted) = k.added (.blobBytes .hosted) + 256 := rfl
    have hattaches : k.attached.calls .attaches = k.calls .attaches + 1 := rfl
    rw [hblobs, hattaches, h.blobs]
    omega
  codes := by
    have hcodes : k.attached.added (.codeBytes .hosted) = k.added (.codeBytes .hosted) + 160 := rfl
    have hattaches : k.attached.calls .attaches = k.calls .attaches + 1 := rfl
    rw [hcodes, hattaches, h.codes]
    omega

/-- A worker that comes back was attached once more. -/
lemma Balanced.attached (h : k.Balanced s) (hk : k.isAttached = false) : k.attached.Balanced s where
  level := h.level.attached hk
  detaches := h.detaches
  repacks := h.repacks

/-- The summary counts what an idle worker did. -/
lemma Balanced.afterIdle (h : k.Balanced s) {action : IdleAction}
    (hk : action = .detached → k.isAttached = true) :
    (k.afterIdle action).Balanced (s.afterIdle action) := by
  cases action with
  | none => exact h
  | detached =>
      refine ⟨h.level.detached (hk rfl), ?_, h.repacks⟩
      exact congrArg (· + 1) h.detaches
  | repacked =>
      refine ⟨h.level.repacked, h.detaches, ?_⟩
      exact congrArg (· + 1) h.repacks

/-- A worker that stops while it is attached is detached. -/
lemma Balanced.ended_attached (h : k.Balanced s) (hk : k.isAttached = true)
    (hlook : k.atLook = true) : k.detached.Ended s where
  level := h.level.detached hk
  detached := rfl
  detaches := by
    have hkept : k.detached.atLook = true := hlook
    rw [hkept]
    exact congrArg (· + 1) h.detaches
  repacks := h.repacks

/-- A worker that stops while it is detached stays so. -/
lemma Balanced.ended_detached (h : k.Balanced s) (hk : k.isAttached = false)
    (hlook : k.atLook = false) : k.Ended s where
  level := h.level
  detached := hk
  detaches := by
    rw [hlook]
    exact h.detaches
  repacks := h.repacks

end Connection

namespace Routine

variable {c : Config} {s : Summary} {k : Connection} {w : Nat}

/-! ### One task -/

lemma connection_markRequestHandled :
    markRequestHandled.Meets (connectionAccount c.isHosted) k fun _ k' => k' = k := by
  refine ⟨nofun, fun window _ => ?_⟩
  cases window with
  | false => rfl
  | true => exact ⟨nofun, fun _ _ => rfl⟩

lemma connection_forcedSimple (window : Bool) (module : ModuleId) :
    (forcedSimple window c.isHosted module).Meets (connectionAccount c.isHosted) k
      fun _ k' => k' = k := by
  rw [forcedSimple]
  split_ifs
  · rfl
  · refine ⟨nofun, fun handle _ => ?_⟩
    cases handle with
    | none => rfl
    | some handle =>
        refine ⟨nofun, fun modules _ => ?_⟩
        cases modules <;> rfl

lemma connection_consultGate (m : Method) :
    (consultGate c m).Meets (connectionAccount c.isHosted) k fun _ k' => k' = k :=
  ⟨nofun, fun window _ => connection_forcedSimple window m.module⟩

/-- Additions to counters are made for an attached worker. -/
lemma connection_record (list : List Addition)
    (hlist : ∀ a ∈ list, a.1.isOfConnection = true → c.isHosted = true)
    (hk : c.isHosted = true → k.isAttached = true) :
    (record list).Meets (connectionAccount c.isHosted) k fun _ k' => k' = k.addAll list := by
  induction list generalizing k with
  | nil => rfl
  | cons a rest ih =>
      obtain ⟨ha, hrest⟩ := List.forall_mem_cons.mp hlist
      refine ⟨?_, fun _ _ => ih hrest ?_⟩
      · cases hcounter : a.1 with
        | methodsCompiled => exact hk
        | _ => exact fun hconnection => ha (hcounter ▸ hconnection)
      · have hsame : (k.add a.1 a.2).isAttached = k.isAttached := by
          rw [Connection.add]
          split_ifs <;> rfl
        exact fun hhosted => hsame.trans (hk hhosted)

lemma connection_addTimeSince (start : Nat) {timer : Counter}
    (htimer : timer.isOfConnection = false) (hk : c.isHosted = true → k.isAttached = true) :
    (addTimeSince start timer).Meets (connectionAccount c.isHosted) k fun _ k' => k' = k := by
  refine ⟨nofun, fun finish _ => (connection_record _ ?_ hk).mono fun _ k' hk' => ?_⟩
  · simp [timed, htimer]
  · have hkept : k.addAll (timed timer (.ofMillis (finish - start))) = k := by
      simp [Connection.addAll, timed, Connection.add, htimer]
    exact hk'.trans hkept

/-- What is compiled is compiled for an attached worker. -/
lemma connection_compileAndInstall (hk : c.isHosted = true → k.isAttached = true)
    (compileMillis : Nat) :
    (compileAndInstall compileMillis).Meets (connectionAccount c.isHosted) k
      fun _ k' => k' = k := by
  have hinstalled : ∀ a ∈ installed .jit blobBytes codeBytes,
      a.1.isOfConnection = true → c.isHosted = true := by
    simp [installed, Counter.isOfConnection]
  have hcompiled : ∀ a ∈ methodCompiled, a.1.isOfConnection = true → c.isHosted = true := by
    simp [methodCompiled, Counter.isOfConnection]
  refine ⟨nofun, fun compileStart _ => ⟨nofun, fun _ _ => ?_⟩⟩
  refine (connection_addTimeSince compileStart rfl hk).bind fun _ k' hk' => ?_
  subst hk'
  refine ⟨nofun, fun installStart _ => ?_⟩
  refine (connection_record _ hinstalled hk).bind fun _ k' hk' => ?_
  subst hk'
  refine (connection_addTimeSince installStart rfl hk).bind fun _ k' hk' => ?_
  subst hk'
  exact connection_record _ hcompiled hk

lemma connection_attach (hhosted : c.isHosted = true) (hk : k.isAttached = false) (w : Nat) :
    (attach w).Meets (connectionAccount c.isHosted) k
      fun _ k' => k' = (k.mark true).call .attaches := by
  refine ⟨fun _ => hhosted, fun attached hattached => ?_⟩
  obtain rfl : attached = false := hattached.trans hk
  exact ⟨fun _ => hhosted, fun _ _ => ⟨fun _ => hhosted, fun _ _ => rfl⟩⟩

/-- A worker of a hosted compiler is attached before it compiles. -/
lemma connection_connect (hl : k.Balanced s) (w : Nat) :
    (connect c w).Meets (connectionAccount c.isHosted) k fun _ k' =>
      k'.Balanced s ∧ (c.isHosted = true → k'.isAttached = true) := by
  rw [connect]
  split_ifs with hhosted
  · refine ⟨nofun, fun attached hattached => ?_⟩
    cases attached with
    | true => exact ⟨hl, fun _ => hattached.symm⟩
    | false =>
        refine (connection_attach hhosted hattached.symm w).bind fun _ k' hk' => ?_
        subst hk'
        refine (connection_record _ (fun _ _ _ => hhosted) fun _ => rfl).mono fun _ k' hk' => ?_
        subst hk'
        exact ⟨hl.attached hattached.symm, fun _ => rfl⟩
  · exact ⟨hl, fun h => absurd h hhosted⟩

/-- Taking up a task keeps the counts balanced. -/
lemma connection_compile (hl : k.Balanced s) (w compileMillis : Nat) (t : CompileTask) :
    (compile c w compileMillis t s).Meets (connectionAccount c.isHosted) k
      fun s' k' => k'.Balanced s' := by
  refine connection_markRequestHandled.bind fun _ k' hk' => ?_
  subst hk'
  refine (connection_consultGate t.method).bind fun forced k' hk' => ?_
  subst hk'
  cases forced with
  | true => exact ⟨nofun, fun _ _ => hl.of_idle_eq rfl rfl⟩
  | false =>
      refine (connection_connect hl w).bind fun _ k' h => ?_
      obtain ⟨hl', hattached⟩ := h
      refine (connection_compileAndInstall hattached compileMillis).bind fun _ k'' hk'' => ?_
      subst hk''
      exact hl'.of_idle_eq rfl rfl

/-! ### The hooks -/

lemma connection_lock :
    lock.Meets (connectionAccount c.isHosted) k fun _ k' => k' = k :=
  ⟨nofun, fun _ _ => ⟨nofun, fun _ _ => rfl⟩⟩

lemma connection_unlock :
    unlock.Meets (connectionAccount c.isHosted) k fun _ k' => k' = k :=
  ⟨nofun, fun _ _ => ⟨nofun, fun _ _ => rfl⟩⟩

lemma connection_waitForWork (millis : Nat) :
    (waitForWork millis).Meets (connectionAccount c.isHosted) k fun _ k' => k' = k := by
  refine ⟨nofun, fun seen _ => ⟨nofun, fun _ _ => ⟨nofun, fun closed _ => ?_⟩⟩⟩
  cases closed with
  | true => exact ⟨nofun, fun _ _ => rfl⟩
  | false => exact ⟨nofun, fun _ _ => ⟨nofun, fun _ _ => ⟨nofun, fun _ _ => rfl⟩⟩⟩

lemma connection_detach (hhosted : c.isHosted = true) (w : Nat) (reason : String) :
    (detach w reason).Meets (connectionAccount c.isHosted) k fun x k' =>
      x = .ok () ∧ k' = k.detached := by
  refine ⟨fun _ => hhosted, fun x hx => ?_⟩
  obtain rfl : x = .ok () := hx rfl
  exact ⟨fun _ => hhosted, fun _ _ => ⟨rfl, rfl⟩⟩

lemma connection_repack (hhosted : c.isHosted = true) (w : Nat) :
    (repack w).Meets (connectionAccount c.isHosted) k fun x k' =>
      x = .ok () ∧ k' = k.repacked := by
  refine ⟨fun _ => hhosted, fun x hx => ?_⟩
  obtain rfl : x = .ok () := hx rfl
  exact ⟨fun _ => hhosted, fun _ _ => ⟨rfl, rfl⟩⟩

lemma connection_afterWait (hhosted : c.isHosted = true) (w : Nat) (outcome : WaitOutcome) :
    (afterWait w outcome).Meets (connectionAccount c.isHosted) k fun x k' =>
      ∃ action, x = .ok action ∧ k' = k.afterIdle action := by
  cases outcome with
  | timedOut =>
      refine (connection_detach hhosted w idleReason).bind fun x k' h => ?_
      obtain ⟨rfl, rfl⟩ := h
      exact ⟨.detached, rfl, rfl⟩
  | notified =>
      refine (connection_repack hhosted w).bind fun x k' h => ?_
      obtain ⟨rfl, rfl⟩ := h
      exact ⟨.repacked, rfl, rfl⟩

lemma connection_idleOut (hhosted : c.isHosted = true) (w delay : Nat) :
    (idleOut w delay).Meets (connectionAccount c.isHosted) k fun x k' =>
      ∃ action, x = .ok action ∧ k' = k.afterIdle action := by
  refine (connection_waitForWork delay).bind fun outcome k' hk' => ?_
  subst hk'
  refine connection_unlock.bind fun _ k' hk' => ?_
  subst hk'
  refine (connection_afterWait hhosted w outcome).bind fun x k' h => ?_
  obtain ⟨action, rfl, rfl⟩ := h
  exact connection_lock.bind fun _ k' hk' => ⟨action, rfl, hk'⟩

/-- Only an attached worker idles out. -/
lemma connection_onEmptyQueue (w : Nat) :
    (onEmptyQueue c w).Meets (connectionAccount c.isHosted) k fun x k' =>
      ∃ action, x = .ok action ∧ k' = k.afterIdle action ∧
        (action = .detached → k.isAttached = true) := by
  rw [onEmptyQueue]
  split
  next hhosted =>
    refine ⟨nofun, fun attached hattached => ?_⟩
    cases attached with
    | false => exact ⟨.none, rfl, rfl, nofun⟩
    | true =>
        cases hdelay : c.idleDelay with
        | none =>
            simp only [done_bind, if_true]
            exact ⟨.none, rfl, rfl, nofun⟩
        | some delay =>
            simp only [done_bind, if_true]
            refine ⟨nofun, fun uptime _ => ?_⟩
            simp only [done_bind]
            split
            · exact ⟨.none, rfl, rfl, nofun⟩
            · refine (connection_idleOut hhosted w delay).mono fun x k' h => ?_
              obtain ⟨action, hx, hk'⟩ := h
              exact ⟨action, hx, hk', fun _ => hattached.symm⟩
  next => exact ⟨.none, rfl, rfl, nofun⟩

/-- A worker of a hosted compiler is detached when it has stopped. -/
lemma connection_stopping (hl : k.Balanced s) (hlook : k.atLook = k.isAttached) (w : Nat) :
    (stopping c w).Meets (connectionAccount c.isHosted) k fun x k' =>
      x = .ok () ∧ (c.isHosted = true → k'.Ended s) := by
  rw [stopping]
  split
  next hhosted =>
    refine ⟨nofun, fun attached hattached => ?_⟩
    cases attached with
    | false => exact ⟨rfl, fun _ => hl.ended_detached hattached.symm (hlook.trans hattached.symm)⟩
    | true =>
        refine connection_unlock.bind fun _ k' hk' => ?_
        subst hk'
        refine (connection_detach hhosted w stoppingReason).bind fun x k' h => ?_
        obtain ⟨rfl, rfl⟩ := h
        refine connection_lock.bind fun _ k' hk' => ?_
        subst hk'
        exact ⟨rfl, fun _ => hl.ended_attached hattached.symm (hlook.trans hattached.symm)⟩
  next hhosted => exact ⟨rfl, fun h => absurd h hhosted⟩

lemma connection_lookAgain :
    lookAgain.Meets (connectionAccount c.isHosted) k fun _ k' => k' = k := by
  refine ⟨nofun, fun waiting _ => ?_⟩
  simp only [done_bind]
  split
  · refine ⟨nofun, fun closed _ => ?_⟩
    cases closed with
    | true => rfl
    | false => exact (connection_waitForWork _).bind fun _ k' hk' => hk'
  · rfl

/-! ### The loop -/

/-- At the top of its loop a worker has balanced counts, and it has ended when it has stopped. -/
lemma connection_workRounds (hl : k.Balanced s) (w compileMillis rounds : Nat) :
    (workRounds c w compileMillis rounds s).Meets (connectionAccount c.isHosted) k
      fun x k' => ∃ s, x = .ok s ∧ (c.isHosted = true → k'.Ended s) := by
  induction rounds generalizing k s with
  | zero => trivial
  | succ n ih =>
      refine ⟨hl.level, fun task _ => ?_⟩
      cases task with
      | some t =>
          refine connection_unlock.bind fun _ k' hk' => ?_
          subst hk'
          refine (connection_compile hl.look w compileMillis t).bind fun s' k' hl' => ?_
          refine connection_lock.bind fun _ k'' hk'' => ?_
          subst hk''
          exact ih hl'
      | none =>
          refine ⟨nofun, fun closed _ => ?_⟩
          cases closed with
          | true =>
              refine (connection_stopping hl.look rfl w).bind fun x k' h => ?_
              obtain ⟨rfl, hended⟩ := h
              refine connection_unlock.bind fun _ k'' hk'' => ?_
              subst hk''
              exact ⟨s, rfl, hended⟩
          | false =>
              refine (connection_onEmptyQueue w).bind fun x k' h => ?_
              obtain ⟨action, rfl, rfl, hattached⟩ := h
              have hnext := ih (hl.look.afterIdle hattached)
              cases action with
              | none =>
                  refine connection_lookAgain.bind fun _ k' hk' => ?_
                  subst hk'
                  exact hnext
              | detached | repacked => exact hnext

/-- A compiler thread keeps track of its connection, and has ended it when it has stopped. -/
lemma connection_work (rounds : Nat) (c : Config) (w compileMillis : Nat) :
    (work rounds c w compileMillis).Meets (connectionAccount c.isHosted) {}
      fun x k => ∃ s, x = .ok s ∧ (c.isHosted = true → k.Ended s) := by
  refine connection_lock.bind fun _ k hk => ?_
  subst hk
  exact connection_workRounds Connection.balanced_start w compileMillis rounds

end Routine

end ExternalCompiler
