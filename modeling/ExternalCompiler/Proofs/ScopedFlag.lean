/-
Overrides of a flag that nest:

* `FlagStep`, `ScopedFlag.steps`: what is done with a flag, one step after the other;
* `ScopedFlag.Nests`: only the newest override is left, and a value is stored only while an
  override is live;
* `ScopedFlag.Numbered`: no two live overrides have the same number, so that the newest one is left
  alone (`ScopedFlag.leave_newest`);
* `ScopedFlag.Nests.leaveAll_value`: leaving all overrides brings the first value back, whatever was
  stored or overridden;
* `ScopedFlag.Begins`: where an override begins; `ScopedFlag.exists_begins`: every live override
  began, and saved what it found;
* `ScopedFlag.Nests.value_left`, `ScopedFlag.Nests.value_of_free`,
  `ScopedFlag.Nests.value_of_live`: the value after an override was left, while none is live, and
  while one is live and nothing was stored; `ScopedFlag.Restored`: all three, at every moment.
-/
import Mathlib.Data.List.Infix
import ExternalCompiler.ScopedFlag

namespace ExternalCompiler

/-! ### Steps -/

/-- What is done with a flag: a value is stored, an override begins, or an override is left. -/
inductive FlagStep
  | set (value : Bool)
  | enter (value : Bool)
  | leave (number : Nat)
deriving DecidableEq

namespace ScopedFlag

/-- The flag after one step. -/
def step (f : ScopedFlag) : FlagStep → ScopedFlag
  | .set v => f.set v
  | .enter v => f.enter v
  | .leave n => f.leave n

/-- The flag after some steps. -/
def steps (f : ScopedFlag) (l : List FlagStep) : ScopedFlag :=
  l.foldl step f

@[simp] lemma steps_nil (f : ScopedFlag) : f.steps [] = f := rfl

@[simp] lemma steps_concat (f : ScopedFlag) (l : List FlagStep) (st : FlagStep) :
    f.steps (l ++ [st]) = (f.steps l).step st := by
  simp [steps]

/-- A step that keeps to the nesting: a value is stored only while an override is live, and only the
newest override is left. -/
def Allows (f : ScopedFlag) : FlagStep → Prop
  | .set _ => f.live ≠ []
  | .enter _ => True
  | .leave n => f.live.head?.map (·.number) = some n

/-- Each of the steps keeps to the nesting. -/
def Nests : ScopedFlag → List FlagStep → Prop
  | _, [] => True
  | f, st :: l => f.Allows st ∧ (f.step st).Nests l

instance decidableAllows (f : ScopedFlag) : (st : FlagStep) → Decidable (f.Allows st)
  | .set _ => inferInstanceAs (Decidable (f.live ≠ []))
  | .enter _ => inferInstanceAs (Decidable True)
  | .leave n => inferInstanceAs (Decidable (f.live.head?.map (·.number) = some n))

instance decidableNests : (f : ScopedFlag) → (l : List FlagStep) → Decidable (f.Nests l)
  | _, [] => inferInstanceAs (Decidable True)
  | f, st :: l =>
    have := decidableNests (f.step st) l
    inferInstanceAs (Decidable (f.Allows st ∧ (f.step st).Nests l))

variable {f : ScopedFlag} {l l₀ : List FlagStep} {st : FlagStep} {o : FlagOverride}
  {rest : List FlagOverride} {n : Nat}

lemma nests_append {l' : List FlagStep} :
    f.Nests (l ++ l') ↔ f.Nests l ∧ (f.steps l).Nests l' := by
  induction l generalizing f with
  | nil => simp [Nests]
  | cons st l ih => simp [Nests, ih, steps, and_assoc]

lemma nests_concat : f.Nests (l ++ [st]) ↔ f.Nests l ∧ (f.steps l).Allows st := by
  simp [nests_append, Nests]

/-- What was done before a moment keeps to the nesting, too. -/
lemma Nests.of_prefix (hl : f.Nests l) (hpre : l₀ <+: l) : f.Nests l₀ := by
  obtain ⟨l', rfl⟩ := hpre
  exact (nests_append.mp hl).1

/-! ### Numbers -/

/-- The live overrides have falling numbers, all below the next one. -/
def Numbered (f : ScopedFlag) : Prop :=
  (f.next :: f.live.map (·.number)).Pairwise (· > ·)

lemma numbered_of_free (hf : f.live = []) : f.Numbered := by
  simp [Numbered, hf]

lemma Numbered.step (hf : f.Numbered) (st : FlagStep) : (f.step st).Numbered := by
  obtain ⟨hnext, hlive⟩ := List.pairwise_cons.mp hf
  cases st with
  | set v => exact hf
  | enter v =>
      refine List.pairwise_cons.mpr ⟨fun m hm => ?_, hf⟩
      rcases List.mem_cons.mp hm with rfl | hm
      · exact Nat.lt_succ_self _
      · exact Nat.lt_succ_of_lt (hnext m hm)
  | leave n =>
      simp only [ScopedFlag.step, leave]
      split
      · exact hf
      · exact hf.sublist (List.filter_sublist.map _ |>.cons_cons _)

lemma Numbered.steps (hf : f.Numbered) (l : List FlagStep) : (f.steps l).Numbered := by
  induction l generalizing f with
  | nil => exact hf
  | cons st l ih => exact ih (hf.step st)

/-- Leaving the newest override puts its value back and leaves the others alone. -/
lemma leave_newest (hf : f.Numbered) (hlive : f.live = o :: rest) :
    f.leave o.number = { f with value := o.previous, live := rest } := by
  have hfalling : ∀ p ∈ rest, p.number ≠ o.number := by
    rw [Numbered, hlive, List.map_cons, List.pairwise_cons, List.pairwise_cons] at hf
    exact fun p hp => Nat.ne_of_lt (hf.2.1 _ (List.mem_map_of_mem hp))
  have hothers : rest.filter (fun p => p.number != o.number) = rest :=
    List.filter_eq_self.mpr fun p hp => bne_iff_ne.mpr (hfalling p hp)
  simp [leave, hlive, hothers]

/-- An override that may be left is the newest one. -/
lemma exists_of_allows_leave (h : f.Allows (.leave n)) :
    ∃ o rest, f.live = o :: rest ∧ o.number = n := by
  obtain ⟨o, ho, hn⟩ := Option.map_eq_some_iff.mp h
  obtain ⟨rest, hrest⟩ := List.head?_eq_some_iff.mp ho
  exact ⟨o, rest, hrest, hn⟩

/-! ### Leaving all overrides -/

/-- A step that keeps to the nesting does not change what leaving all overrides brings back. -/
lemma leaveAll_step (hf : f.Numbered) (h : f.Allows st) :
    (f.step st).leaveAll.value = f.leaveAll.value := by
  cases st with
  | set v =>
      obtain ⟨o, rest, hlive⟩ := List.exists_cons_of_ne_nil h
      simp [step, set, leaveAll, hlive]
  | enter v => rfl
  | leave n =>
      obtain ⟨o, rest, hlive, rfl⟩ := exists_of_allows_leave h
      simp [step, leave_newest hf hlive, leaveAll, hlive]

lemma Nests.leaveAll_value (hl : f.Nests l) (hf : f.Numbered) :
    (f.steps l).leaveAll.value = f.leaveAll.value := by
  induction l generalizing f with
  | nil => rfl
  | cons st l ih => exact (ih hl.2 (hf.step st)).trans (leaveAll_step hf hl.1)

/-- Without a live override nothing is left to be brought back. -/
lemma leaveAll_of_free (hf : f.live = []) : f.leaveAll.value = f.value := by
  simp [leaveAll, hf]

/-- **While no override is live the flag has its first value.** -/
theorem Nests.value_of_free (hl : f.Nests l) (hf : f.live = []) (hfree : (f.steps l).live = []) :
    (f.steps l).value = f.value := by
  rw [← leaveAll_of_free hfree, hl.leaveAll_value (numbered_of_free hf), leaveAll_of_free hf]

/-! ### Where an override begins -/

/-- Among the steps `l` the override with the number `n` begins right after `l₁`, and sets the flag
to `v`. -/
def Begins (f : ScopedFlag) (l : List FlagStep) (n : Nat) (l₁ : List FlagStep) (v : Bool) : Prop :=
  l₁ ++ [.enter v] <+: l ∧ (f.steps l₁).next = n

lemma Begins.of_prefix {l₁ : List FlagStep} {v : Bool} (h : f.Begins l₀ n l₁ v)
    (hpre : l₀ <+: l) : f.Begins l n l₁ v :=
  ⟨h.1.trans hpre, h.2⟩

/-- Every live override began at some moment; the older overrides were live then, and it saved the
value that the flag had. -/
lemma exists_begins (hf : f.live = []) (hl : f.Nests l) (ho : o :: rest <:+ (f.steps l).live) :
    ∃ l₁ v, f.Begins l o.number l₁ v ∧ (f.steps l₁).live = rest ∧
      (f.steps l₁).value = o.previous := by
  induction l using List.reverseRecOn with
  | nil => simp [hf] at ho
  | append_singleton l st ih =>
      obtain ⟨hl', hst⟩ := nests_concat.mp hl
      have hearlier : o :: rest <:+ (f.steps l).live → ∃ l₁ v, f.Begins (l ++ [st]) o.number l₁ v ∧
          (f.steps l₁).live = rest ∧ (f.steps l₁).value = o.previous := fun ho' => by
        obtain ⟨l₁, v, hbegins, hlive⟩ := ih hl' ho'
        exact ⟨l₁, v, hbegins.of_prefix (List.prefix_append _ _), hlive⟩
      rw [steps_concat] at ho
      cases st with
      | set v => exact hearlier ho
      | enter v =>
          rcases List.suffix_cons_iff.mp ho with hnew | hold
          · obtain ⟨rfl, rfl⟩ := List.cons_eq_cons.mp hnew
            exact ⟨l, v, ⟨List.prefix_rfl, rfl⟩, rfl, rfl⟩
          · exact hearlier hold
      | leave n =>
          obtain ⟨o', rest', hlive, rfl⟩ := exists_of_allows_leave hst
          rw [step, leave_newest ((numbered_of_free hf).steps l) hlive] at ho
          refine hearlier (ho.trans ?_)
          rw [hlive]
          exact List.suffix_cons o' rest'

/-- **An override that is left brings back the value that the flag had right before it began.** -/
theorem Nests.value_left (hl : f.Nests (l ++ [.leave n])) (hf : f.live = []) :
    ∃ l₁ v, f.Begins l n l₁ v ∧ (f.steps (l ++ [.leave n])).value = (f.steps l₁).value ∧
      (f.steps (l ++ [.leave n])).live = (f.steps l₁).live := by
  obtain ⟨hl', hleave⟩ := nests_concat.mp hl
  obtain ⟨o, rest, hlive, rfl⟩ := exists_of_allows_leave hleave
  have hnewest : o :: rest <:+ (f.steps l).live := by rw [hlive]
  obtain ⟨l₁, v, hbegins, hrest, hvalue⟩ := exists_begins hf hl' hnewest
  refine ⟨l₁, v, hbegins, ?_⟩
  rw [steps_concat, step, leave_newest ((numbered_of_free hf).steps l) hlive]
  exact ⟨hvalue.symm, hrest.symm⟩

/-- **If nothing was stored, the flag has the value of its newest override.** -/
theorem Nests.value_of_live (hl : f.Nests l) (hf : f.live = []) (hset : ∀ v, .set v ∉ l)
    (hlive : (f.steps l).live = o :: rest) :
    ∃ l₁ v, f.Begins l o.number l₁ v ∧ (f.steps l).value = v := by
  -- after a leave the flag is as it was when the override began: the induction goes back to there
  induction hlength : l.length using Nat.strongRecOn generalizing l o rest with
  | _ k ih =>
  subst hlength
  rcases List.eq_nil_or_concat' l with rfl | ⟨l', st, rfl⟩
  · simp [hf] at hlive
  · cases st with
    | set v => exact absurd List.mem_concat_self (hset v)
    | enter v =>
        rw [steps_concat] at hlive ⊢
        obtain ⟨rfl, rfl⟩ := List.cons_eq_cons.mp hlive
        exact ⟨l', v, ⟨List.prefix_rfl, rfl⟩, rfl⟩
    | leave n =>
        obtain ⟨l₁, v₁, hbegins, hvalue, hsame⟩ := hl.value_left hf
        have hpre : l₁ <+: l' := (List.prefix_append _ _).trans hbegins.1
        have hpre' : l₁ <+: l' ++ [.leave n] := hpre.trans (List.prefix_append _ _)
        obtain ⟨l₂, v₂, hbegins₂, hvalue₂⟩ := ih l₁.length
          (by simpa using Nat.lt_succ_of_le hpre.length_le) (hl.of_prefix hpre')
          (fun v hv => hset v (hpre'.subset hv)) (hsame ▸ hlive) rfl
        exact ⟨l₂, v₂, hbegins₂.of_prefix hpre', hvalue.trans hvalue₂⟩

/-- What nested overrides leave behind: an override that is left brings back what it found; the flag
has its first value while no override is live, and as long as nothing was stored, the value of its
newest override while one is. -/
structure Restored (f : ScopedFlag) (l : List FlagStep) : Prop where
  left : ∀ l₀ n, l₀ ++ [.leave n] <+: l → ∃ l₁ v, f.Begins l₀ n l₁ v ∧
    (f.steps (l₀ ++ [.leave n])).value = (f.steps l₁).value
  free : ∀ l₀, l₀ <+: l → (f.steps l₀).live = [] → (f.steps l₀).value = f.value
  live : ∀ l₀ o rest, l₀ <+: l → (∀ v, .set v ∉ l₀) → (f.steps l₀).live = o :: rest →
    ∃ l₁ v, f.Begins l₀ o.number l₁ v ∧ (f.steps l₀).value = v

theorem Nests.restored (hl : f.Nests l) (hf : f.live = []) : f.Restored l where
  left l₀ n hpre := by
    obtain ⟨l₁, v, hbegins, hvalue, -⟩ := (hl.of_prefix hpre).value_left hf
    exact ⟨l₁, v, hbegins, hvalue⟩
  free _ hpre hfree := (hl.of_prefix hpre).value_of_free hf hfree
  live _ _ _ hpre hset hlive := (hl.of_prefix hpre).value_of_live hf hset hlive

end ScopedFlag

end ExternalCompiler
