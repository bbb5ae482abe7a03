/-
The main thread of a simulated run:

* `MainLedger`: what the main thread brings about: the tasks that it put into the queue, the flag,
  the window, whether the queue is closed, and the notifications of the runtime;
* `mainAccount`: how its actions change that; a method of the compiler's own module is submitted
  only while the window is closed, and the window is opened only before such a method was submitted;
* `seeds`, `MainLedger.Driven`, `main_driveAndClose`: what the main thread has brought about when it
  ends well;
* `party_driveAndClose`, `only_driveAndClose`: it shares the queue with the workers, and takes no
  tasks itself.
-/
import ExternalCompiler.Proofs.Account
import ExternalCompiler.Proofs.Queue.Parties
import ExternalCompiler.Simulation.Run

namespace ExternalCompiler

/-! ### The ledger -/

/-- What the main thread brings about: the tasks that it put into the queue, the oldest first; the
compile-the-world flag; whether the window is open and the queue is closed; how often the runtime
was told of the end of a bootstrap; and whether the last look found the queue empty. -/
structure MainLedger where
  pushed : List CompileTask := []
  flag : Bool := false
  window : Bool := false
  closed : Bool := false
  told : Nat := 0
  emptied : Bool := false

/-- A task is put into the queue. -/
def MainLedger.push (k : MainLedger) (t : CompileTask) : MainLedger :=
  { k with pushed := k.pushed ++ [t], emptied := false }

/-- The runtime counts something, which may be that a bootstrap is finished. -/
def MainLedger.tell (k : MainLedger) (what : RuntimeCount) : MainLedger :=
  { k with told := k.told + if what = .notifications then 1 else 0 }

/-- How the main thread keeps its ledger. -/
def mainAccount : Account MainLedger where
  after
    | k, .access (.pushTask t), _ => k.push t
    | k, .access (.storeFlag v), _ => { k with flag := v }
    | k, .access (.swapFlag v), _ => { k with flag := v }
    | k, .access .openWindow, _ => { k with window := true }
    | k, .access .closeWindow, _ => { k with window := false }
    | k, .access .setClosed, _ => { k with closed := true }
    | k, .access .readLength, (n : Nat) => { k with emptied := n == 0 }
    | k, .access (.countRuntime what), _ => k.tell what
    | k, .call .bootstrapFinished, _ => k.tell .notifications
    | k, _, _ => k
  asks
    | k, .access (.pushTask t) => k.window = true → t.method.module ≠ compilerModule
    | k, .access .openWindow => ∀ t ∈ k.pushed, t.method.module ≠ compilerModule
    | _, _ => True
  expects
    | k, .access .readFlag, (flag : Bool) => flag = k.flag
    | k, .access (.swapFlag _), (flag : Bool) => flag = k.flag
    | k, .access .openWindow, (opened : Bool) => opened = !k.window
    | k, .access .readClosed, (closed : Bool) => closed = k.closed
    | _, a, x => a.Simulated x
  halts _ := True

/-- The tasks that a bootstrap of the root class submits: none in an interpreter. -/
def seeds (c : Config) : List CompileTask :=
  if c.executionMode = .interpreted then [] else seedTasks rootClass

/-- No seed is in the compiler's own module. -/
lemma module_of_mem_seeds {c : Config} {t : CompileTask} (ht : t ∈ seeds c) :
    t.method.module ≠ compilerModule := by
  have hall : ∀ t ∈ seedTasks rootClass, t.method.module ≠ compilerModule := by decide +kernel
  rw [seeds] at ht
  split_ifs at ht
  · cases ht
  · exact hall t ht

/-- What the main thread has brought about when it ends well: the seeds and then the workload are
in the queue, the runtime was told once if there was a bootstrap, and the queue was empty since. -/
structure MainLedger.Driven (o : Options) (c : Config) (k : MainLedger) : Prop where
  pushed : k.pushed = seeds c ++ workload o.appMethods.toNat
  told : k.told = if c.executionMode = .interpreted then 0 else 1
  emptied : k.emptied = true

namespace Routine

variable {k : MainLedger}

/-! ### Visits -/

/-- The action changes nothing that the main thread keeps track of, and is always allowed. -/
def isIdle (a : Action) : Prop :=
  ∀ k, mainAccount.asks k a ∧ ∀ x, mainAccount.after k a x = k

lemma isIdle_of_isLocking (a : Action) (h : a.isLocking = true) : isIdle a := by
  cases h using Action.isLocking_cases <;> exact fun _ => ⟨trivial, fun _ => rfl⟩

lemma isIdle_of_isWatch (a : Action) (h : a.isWatch = true) : isIdle a := by
  cases h using Action.isWatch_cases <;> exact fun _ => ⟨trivial, fun _ => rfl⟩

lemma main_still {α : Type} {r : Routine α} (hr : r.Only isIdle) :
    r.Meets mainAccount k fun _ k' => k' = k :=
  meets_of_still trivial hr

lemma main_lock : lock.Meets mainAccount k fun _ k' => k' = k :=
  main_still (only_lock isIdle_of_isLocking)

lemma main_unlock : unlock.Meets mainAccount k fun _ k' => k' = k :=
  main_still (only_unlock isIdle_of_isLocking)

lemma main_submit (hflag : k.flag = false) (hclosed : k.closed = false) {t : CompileTask}
    (ht : k.window = true → t.method.module ≠ compilerModule) :
    (submit t).Meets mainAccount k fun x k' => x = true ∧ k' = k.push t := by
  refine ⟨trivial, fun flag hx => ?_⟩
  obtain rfl : flag = false := hx.trans hflag
  refine main_lock.bind fun _ k' hk' => ?_
  subst hk'
  refine ⟨trivial, fun closed hx => ?_⟩
  obtain rfl : closed = false := hx.trans hclosed
  refine ⟨ht, fun _ _ => main_unlock.bind fun _ k' hk' => ⟨rfl, hk'⟩⟩

/-- All tasks of a list are accepted. -/
lemma main_submitAll {tasks : List CompileTask} (hflag : k.flag = false)
    (hclosed : k.closed = false) (hemptied : k.emptied = false)
    (htasks : ∀ t ∈ tasks, k.window = true → t.method.module ≠ compilerModule) (accepted : Nat) :
    (submitAll Broker.queue tasks accepted).Meets mainAccount k fun _ k' =>
      k' = { k with pushed := k.pushed ++ tasks } := by
  induction tasks generalizing k accepted with
  | nil =>
      change k = { k with pushed := k.pushed ++ [] }
      rw [List.append_nil]
  | cons t rest ih =>
      obtain ⟨ht, hrest⟩ := List.forall_mem_cons.mp htasks
      refine (main_submit hflag hclosed ht).bind fun x k' h => ?_
      obtain ⟨rfl, rfl⟩ := h
      refine (ih (k := k.push t) hflag hclosed rfl hrest (accepted + 1)).mono fun _ k' hk' => ?_
      rw [hk', MainLedger.push, ← hemptied, List.append_assoc, List.singleton_append]

/-! ### The bootstrap -/

lemma main_seedAndDrain (hflag : k.flag = false) (hclosed : k.closed = false)
    (hemptied : k.emptied = false) {methods : List Method}
    (hmethods : ∀ t ∈ seedTasks methods, t.method.module ≠ compilerModule) (polls : Nat)
    (print cancellable : Bool) :
    (seedAndDrain polls print cancellable methods Broker.queue).Meets mainAccount k fun x k' =>
      x.isOk = true → k' = { k with pushed := k.pushed ++ seedTasks methods } := by
  refine (main_still (only_openOutput isIdle_of_isWatch print)).bind fun x k₁ hk₁ => ?_
  obtain rfl : k = k₁ := hk₁.symm
  cases x with
  | error e => exact nofun
  | ok _ =>
      refine ⟨trivial, fun start _ => ?_⟩
      refine (main_submitAll hflag hclosed hemptied (fun t ht _ => hmethods t ht) 0).bind
        fun submitted k₁ hk₁ => ?_
      have hsize : ∀ tier, (Broker.queue.size tier).Only isIdle :=
        fun _ => only_size isIdle_of_isLocking fun _ => ⟨trivial, fun _ => rfl⟩
      refine (main_still (only_drain isIdle_of_isWatch hsize _ _ _ _ _ _)).bind
        fun y k₂ hk₂ => ?_
      cases y with
      | error e => exact nofun
      | ok _ =>
          refine ⟨trivial, fun compiled _ => ⟨trivial, fun finish _ => ?_⟩⟩
          refine (main_still (only_closeOutput isIdle_of_isWatch print _)).bind fun z k₃ hk₃ => ?_
          cases z with
          | error e => exact nofun
          | ok _ => exact fun _ => hk₃.trans (hk₂.trans hk₁)

lemma main_withinWindow (looks : Nat) (print cancellable : Bool)
    (hmethods : ∀ t ∈ seedTasks rootClass, t.method.module ≠ compilerModule) :
    (withinWindow looks print cancellable rootClass Broker.queue).Meets mainAccount
      { window := true } fun x k =>
        x.isOk = true → k = { pushed := seedTasks rootClass, told := 1 } := by
  refine ⟨trivial, fun previous hprevious => ?_⟩
  obtain rfl : previous = false := hprevious
  refine (main_seedAndDrain (k := { window := true }) rfl rfl rfl hmethods looks _ _).bind
    fun x k hk => ?_
  cases x with
  | error e => exact ⟨trivial, fun _ _ => ⟨trivial, fun _ _ => nofun⟩⟩
  | ok report =>
      obtain rfl := hk rfl
      refine ⟨trivial, fun _ _ => ⟨trivial, fun told htold => ?_⟩⟩
      obtain rfl : told = .ok () := htold rfl
      exact ⟨trivial, fun _ _ _ => rfl⟩

/-- A bootstrap that ends well brought all seeds into the queue, closed its window, put the flag
back and told the runtime once. -/
lemma main_bootstrap (looks : Nat) (c : Config) (cancellable : Bool) :
    (bootstrap looks c cancellable rootClass Broker.queue).Meets mainAccount {} fun x k =>
      x.isOk = true →
        k = { pushed := seeds c, told := if c.executionMode = .interpreted then 0 else 1 } := by
  rw [bootstrap]
  split_ifs with hmode
  · intro _
    rw [seeds, if_pos hmode]
  · have hseeds : seeds c = seedTasks rootClass := by rw [seeds, if_neg hmode]
    refine ⟨by rintro t ⟨⟩, fun opened hopened => ?_⟩
    obtain rfl : opened = true := hopened
    refine (main_withinWindow looks _ _ fun t ht => module_of_mem_seeds (hseeds ▸ ht)).bind
      fun x k hk => ?_
    rw [hseeds]
    cases x with
    | error e =>
        intro hx
        cases hx
    | ok report => exact hk

/-! ### The whole thread -/

lemma main_length :
    length.Meets mainAccount k fun waiting k' => k' = { k with emptied := waiting == 0 } := by
  refine main_lock.bind fun _ k' hk' => ?_
  subst hk'
  exact ⟨trivial, fun waiting _ => main_unlock.bind fun _ k' hk' => hk'⟩

lemma main_close : close.Meets mainAccount k fun _ k' => k' = { k with closed := true } := by
  refine main_lock.bind fun _ k' hk' => ?_
  subst hk'
  exact ⟨trivial, fun _ _ => main_unlock⟩

/-- Whoever waits until the queue is empty saw that it is. -/
lemma main_awaitEmpty (looks : Nat) :
    (awaitEmpty looks).Meets mainAccount k fun _ k' => k' = { k with emptied := true } := by
  induction looks generalizing k with
  | zero => trivial
  | succ n ih =>
      refine main_length.bind fun waiting k' hk' => ?_
      subst hk'
      split_ifs with hzero
      · subst hzero
        rfl
      · exact ⟨trivial, fun _ _ => ih⟩

lemma main_drive (looks : Nat) (o : Options) (c : Config) :
    (drive looks o c).Meets mainAccount {} fun x k => x.isOk = true → k.Driven o c := by
  refine (main_bootstrap looks c _).bind fun x k hk => ?_
  cases x with
  | error e => exact nofun
  | ok report =>
      obtain rfl := hk rfl
      refine (main_submitAll rfl rfl rfl (fun _ _ h => by cases h) 0).bind
        fun accepted k₁ hk₁ => ?_
      subst hk₁
      refine (main_awaitEmpty looks).bind fun _ k₂ hk₂ => ?_
      subst hk₂
      exact ⟨trivial, fun _ _ _ => ⟨rfl, rfl, rfl⟩⟩

lemma main_driveAndClose (looks : Nat) (o : Options) (c : Config) :
    (driveAndClose looks o c).Meets mainAccount {} fun x k => x.isOk = true → k.Driven o c := by
  refine (main_drive looks o c).bind fun x k hk => main_close.bind fun _ k' hk' => ?_
  subst hk'
  exact fun hx => ⟨(hk hx).pushed, (hk hx).told, (hk hx).emptied⟩

/-! ### Among the workers -/

lemma only_awaitEmpty {p : Action → Prop} (hwatch : ∀ a, a.isWatch = true → p a)
    (hvisit : ∀ a, a.isVisit = true → p a) (looks : Nat) : (awaitEmpty looks).Only p := by
  have hlength := only_length (fun a h => hvisit a (Action.isVisit_of_isLocking h)) (hvisit _ rfl)
  induction looks with
  | zero => trivial
  | succ n ih =>
      refine hlength.bind fun waiting => only_ite trivial ?_
      exact (only_pause.mpr (hwatch _ rfl)).bind fun _ => ih

/-- The main thread bootstraps and visits the queue. -/
lemma only_driveAndClose {p : Action → Prop} (hwatch : ∀ a, a.isWatch = true → p a)
    (hbracket : ∀ a, a.isBracket = true → p a) (hvisit : ∀ a, a.isVisit = true → p a)
    (looks : Nat) (o : Options) (c : Config) : (driveAndClose looks o c).Only p := by
  have hbroker := queue_only hvisit
  have hclose := only_close (fun a h => hvisit a (Action.isVisit_of_isLocking h)) (hvisit _ rfl)
  refine Only.bind ?_ fun outcome => hclose.bind fun _ => trivial
  refine (only_bootstrap hwatch hbracket hbroker _ _ _ _).bind fun x => ?_
  cases x with
  | error e => trivial
  | ok report =>
      refine (only_submitAll hbroker _ _).bind fun accepted => ?_
      refine (only_awaitEmpty hwatch hvisit looks).bind fun _ => ?_
      exact (only_pause.mpr (hwatch _ rfl)).bind fun _ => trivial

lemma party_awaitEmpty {k : Unit → Routine Unit} (hk : ∀ x, Party false (k x)) (looks : Nat) :
    Party false ((awaitEmpty looks).bind k) := by
  induction looks with
  | zero => exact .more
  | succ n ih =>
      have hlength : length.Only (·.isPush = false) :=
        only_length (fun _ => Action.isPush_of_isLocking) rfl
      rw [awaitEmpty, bind_eq, bind_assoc]
      refine .operate .length hlength fun waiting => ?_
      by_cases hzero : waiting = 0
      · simpa [hzero] using hk ()
      · rw [if_neg hzero]
        exact .aloof rfl fun _ => ih

/-- The main thread shares the queue with the workers. -/
lemma party_driveAndClose (looks : Nat) (o : Options) (c : Config) :
    Party false ((driveAndClose looks o c).bind fun _ => .done ()) := by
  have hclose : close.Only (·.isPush = false) :=
    only_close (fun _ => Action.isPush_of_isLocking) rfl
  have hend : ∀ x : Except ServiceError Unit,
      Party false ((close.bind fun _ => .done x).bind fun _ => .done ()) := by
    intro x
    rw [bind_assoc]
    exact .operate .close hclose fun _ => .done
  simp only [driveAndClose, drive, bind_eq, bind_assoc]
  refine .bootstrap (fun x => ?_) looks c _ rootClass
  cases x with
  | error e => exact hend (.error e)
  | ok report =>
      rw [bind_assoc]
      refine .submitAll (fun accepted => ?_) _ 0
      rw [bind_assoc]
      exact party_awaitEmpty (fun _ => .aloof rfl fun _ => hend (.ok ())) looks

end Routine

end ExternalCompiler
