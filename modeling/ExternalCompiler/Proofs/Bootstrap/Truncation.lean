/-
A sink that fails only cuts the output off:

* `Event.said`, `Alike`: two courses of events with the same answers up to the first output that
  ends differently;
* `Cut`, `Breaks.cut`: a routine that breaks off goes as it goes with a sink that takes everything,
  up to the first text that does not fit; `Breaks.exists_alike`: every sink allows such a course;
* `Submits`: the events of a bootstrap that submits so many tasks and is aside else;
* `Curtailed.truncated`: a bootstrap whose sink takes so many bytes;
* `output_truncated`: the reports of the service and bootstraps with such a sink.
-/
import ExternalCompiler.Proofs.Bootstrap.Exit
import ExternalCompiler.Proofs.Bootstrap.Output
import ExternalCompiler.Proofs.Bootstrap.Seeds
import ExternalCompiler.Proofs.Printing
import ExternalCompiler.Session.Run

namespace ExternalCompiler

/-! ### The same answers -/

/-- What was done and answered, by whichever thread and in whichever state. -/
def Event.said (e : Event) : (a : Action) × a.Answer :=
  ⟨e.action, e.answer⟩

/-- Two courses of events that get the same answers up to the first output that ends differently;
what follows that output is not compared. -/
inductive Alike : List Event → List Event → Prop
  | nil : Alike [] []
  | cons {e e' : Event} {es es' : List Event} (he : e'.said = e.said) (h : Alike es es') :
      Alike (e :: es) (e' :: es')
  | parted {a : Action} {x x' : a.Answer} (t t' : ThreadId) (s s' : Shared) (es es' : List Event)
      (ha : a.isOutput = true) (hx : x ≠ x') :
      Alike (⟨t, a, x, s⟩ :: es) (⟨t', a, x', s'⟩ :: es')

/-- A routine goes the same way if it gets the same answers. -/
lemma Routine.Leads.of_said {α : Type} {r q : Routine α} {es es' : List Event}
    (h : r.Leads es q) (hsaid : es'.map Event.said = es.map Event.said) : r.Leads es' q := by
  induction h generalizing es' with
  | refl r =>
      obtain rfl := List.map_eq_nil_iff.mp hsaid
      exact .refl r
  | act t x s _ ih =>
      obtain ⟨⟨t', a', x', s'⟩, es', rfl, he, hrest⟩ := List.map_eq_cons_iff.mp hsaid
      cases he
      exact .act t' _ s' (ih hrest)

/-- The bytes of the texts that were brought out. -/
def outputBytes (es : List Event) : List UInt8 :=
  (texts es).flatMap utf8Bytes

@[simp] lemma outputBytes_nil : outputBytes [] = [] := rfl

lemma outputBytes_append (es es' : List Event) :
    outputBytes (es ++ es') = outputBytes es ++ outputBytes es' := by
  simp [outputBytes]

lemma Event.text?_of_said {e e' : Event} (h : e'.said = e.said) : e'.text? = e.text? := by
  obtain ⟨t, a, x, s⟩ := e
  obtain ⟨t', a', x', s'⟩ := e'
  cases h
  rcases a with a | p | c
  · rfl
  · rfl
  · cases c with
    | write text => cases x <;> rfl
    | _ => rfl

/-- The answers decide which bytes came out. -/
lemma outputBytes_of_said {es es' : List Event}
    (h : es'.map Event.said = es.map Event.said) : outputBytes es' = outputBytes es := by
  have htexts : texts es' = texts es := by
    induction es generalizing es' with
    | nil => rw [List.map_eq_nil_iff.mp h]
    | cons e es ih =>
        obtain ⟨e', es', rfl, he, hsaid⟩ := List.map_eq_cons_iff.mp h
        rw [texts_cons, texts_cons, ih hsaid, Event.text?_of_said he]
  rw [outputBytes, htexts, outputBytes]

lemma outputBytes_cons_of_silent {e : Event} (he : e.action.isOutput = false) (es : List Event) :
    outputBytes (e :: es) = outputBytes es := by
  rw [outputBytes, texts_cons, Event.text?_of_not_isOutput he]
  rfl

lemma outputBytes_write {t : ThreadId} {text : String} {x : Except SinkError Unit} {s : Shared}
    (hx : x = .ok ()) (es : List Event) :
    outputBytes (⟨t, .call (.write text), x, s⟩ :: es) = utf8Bytes text ++ outputBytes es := by
  subst hx
  rfl

lemma outputBytes_flush (t : ThreadId) (x : Except SinkError Unit) (s : Shared)
    (es : List Event) : outputBytes (⟨t, .call .flush, x, s⟩ :: es) = outputBytes es := by
  rw [outputBytes, texts_cons]
  rfl

namespace Sink

lemma deliver_upTo_ok {L : Nat} {a : List UInt8} :
    ((upTo L).deliver a).2 = .ok () ↔ a.length ≤ L := by
  rw [deliver_upTo]
  split_ifs with hless
  · simpa using hless
  · simpa using hless

lemma deliver_upTo_error {L : Nat} {a : List UInt8} {e : SinkError} :
    ((upTo L).deliver a).2 = .error e ↔ L < a.length ∧ e = .full := by
  rw [deliver_upTo]
  split_ifs with hless
  · simp [hless, eq_comm]
  · simp [hless]

/-- A delivery after one that succeeded. -/
lemma deliver_append_of_ok {k : Sink} {a b : List UInt8} (h : (k.deliver a).2 = .ok ()) :
    k.deliver (a ++ b) = (k.deliver a).1.deliver b := by
  rw [deliver_append]
  rcases hk : k.deliver a with ⟨k', x⟩
  rw [hk] at h
  obtain rfl : x = .ok () := h
  rfl

/-- A delivery that failed takes no more bytes. -/
lemma deliver_append_of_error {k k' : Sink} {a b : List UInt8} {e : SinkError}
    (h : k.deliver a = (k', .error e)) : k.deliver (a ++ b) = (k', .error e) := by
  rw [deliver_append, h]

/-- After an event that was not refused the sink goes on with what is left of its room. -/
lemma Answers.uncons {k k' : Sink} {e : Event} {es : List Event} (h : k.Answers (e :: es) k')
    (haccepted : e.action.refusal? e.answer = none) :
    ∃ k₁ : Sink, k₁.Answers es k' ∧ k₁.refusesFlush = k.refusesFlush ∧
      ∀ bs, k.deliver (outputBytes [e] ++ bs) = k₁.deliver bs := by
  cases h with
  | write t text s h =>
      refine ⟨(k.write text).1, h, rfl, fun bs => ?_⟩
      rcases hok : (k.write text).2 with error | ⟨⟩
      · rw [hok] at haccepted
        cases haccepted
      · rw [outputBytes_write rfl, outputBytes_nil, List.append_nil]
        exact deliver_append_of_ok hok
  | flush t s h => exact ⟨k, h, rfl, fun bs => by rw [outputBytes_flush]; rfl⟩
  | aloof he h => exact ⟨k, h, rfl, fun bs => by rw [outputBytes_cons_of_silent he]; rfl⟩

/-- Only a text can be refused by a sink that can be flushed. -/
lemma Answers.refused {k k' : Sink} {e : Event} {es : List Event} {error : SinkError}
    (h : k.Answers (e :: es) k') (hrefused : e.action.refusal? e.answer = some error)
    (hflush : k.refusesFlush = false) :
    ∃ t text s k₁, e = ⟨t, .call (.write text), .error error, s⟩ ∧
      k.deliver (utf8Bytes text) = (k₁, .error error) ∧ k₁.Answers es k' := by
  cases h with
  | write t text s h =>
      rcases hdeliver : k.write text with ⟨k₁, error' | ⟨⟩⟩
      · rw [hdeliver] at hrefused h
        obtain rfl := Option.some.inj hrefused
        exact ⟨t, text, s, k₁, rfl, hdeliver, h⟩
      · rw [hdeliver] at hrefused
        cases hrefused
  | flush t s h =>
      rw [Sink.flush, hflush] at hrefused
      cases hrefused
  | aloof he h =>
      rw [Action.refusal?_of_not_isOutput he] at hrefused
      cases hrefused

end Sink

namespace Routine

variable {α : Type}

/-! ### Where the output is cut off -/

/-- How a course with the sink `k` ends that goes as `es` up to the first text that does not fit:
this text is refused, and what is left of the routine, as `post` says, is done with `x`. -/
structure Cut (post : SinkError → Routine α → Prop) (k : Sink) (es es' : List Event) (x : α)
    (k' : Sink) (before before' : List Event) (text : String) (error : SinkError)
    (ending : List Event) : Prop where
  full : ∃ t s after, es = before ++ ⟨t, .call (.write text), .ok (), s⟩ :: after
  course : ∃ t s, es' = before' ++ ⟨t, .call (.write text), .error error, s⟩ :: ending
  said : before'.map Event.said = before.map Event.said
  fits : (k.deliver (outputBytes before)).2 = .ok ()
  refused : (k.deliver (outputBytes before ++ utf8Bytes text)).2 = .error error
  rest : ∃ q, post error q ∧ q.Leads ending (done x)
  sink : ∃ k₁, k.deliver (outputBytes es) = (k₁, .error error) ∧ k₁.Answers ending k'

section Cut

variable {post : SinkError → Routine α → Prop} {r : Routine α} {es es' : List Event} {a x : α}
  {k k' : Sink}

/-- An event before the cut. -/
lemma Cut.cons {e e' : Event} {before before' ending : List Event} {text : String}
    {error : SinkError} {k₁ : Sink}
    (h : Cut post k₁ es es' x k' before before' text error ending) (he : e'.said = e.said)
    (hdeliver : ∀ bs, k.deliver (outputBytes [e] ++ bs) = k₁.deliver bs) :
    Cut post k (e :: es) (e' :: es') x k' (e :: before) (e' :: before') text error ending := by
  obtain ⟨⟨t, s, after, rfl⟩, ⟨t', s', rfl⟩, hsaid, hfits, hrefused, hrest, hsink⟩ := h
  have hcons : ∀ es, outputBytes (e :: es) = outputBytes [e] ++ outputBytes es :=
    fun es => outputBytes_append [e] es
  refine ⟨⟨t, s, after, rfl⟩, ⟨t', s', rfl⟩, ?_, ?_, ?_, hrest, ?_⟩
  · rw [List.map_cons, List.map_cons, he, hsaid]
  · rwa [hcons, hdeliver]
  · rwa [hcons, List.append_assoc, hdeliver]
  · rwa [hcons, hdeliver]

/-- The cut: an output that one course brings out is refused in the other. -/
lemma Cut.refused_first {b : Action} {y y' : b.Answer} {q : Routine α} {t t' : ThreadId}
    {s s' : Shared} {ending : List Event} {error : SinkError} (haccept : b.refusal? y = none)
    (hrefusal : b.refusal? y' = some error) (hk : k.Answers (⟨t', b, y', s'⟩ :: ending) k')
    (hflush : k.refusesFlush = false) (hpost : post error q) (hq : q.Leads ending (done x)) :
    ∃ text, Cut post k (⟨t, b, y, s⟩ :: es) (⟨t', b, y', s'⟩ :: ending) x k' [] [] text error
      ending := by
  obtain ⟨t', text, s', k₁, he, hdeliver, hk₁⟩ := hk.refused hrefusal hflush
  cases he
  obtain rfl : y = .ok () := by
    cases y with
    | error e => cases haccept
    | ok u => rfl
  refine ⟨text, ⟨_, _, _, rfl⟩, ⟨_, _, rfl⟩, rfl, ?_, ?_, ⟨q, hpost, hq⟩, k₁, ?_, hk₁⟩
  · rw [outputBytes_nil, Sink.deliver_nil]
  · rw [outputBytes_nil, List.nil_append, hdeliver]
  · rw [outputBytes_write rfl, Sink.deliver_append_of_error hdeliver]

/-- A routine that breaks off and gets the same answers goes the same way, if its output fits into
the sink; else it goes the same way up to the first text that does not fit. -/
theorem Breaks.cut (hr : r.Breaks post) (hlead : r.Leads es (done a))
    (haccepted : ∀ e ∈ es, e.action.refusal? e.answer = none) (hlead' : r.Leads es' (done x))
    (halike : Alike es es') (hk : k.Answers es' k') (hflush : k.refusesFlush = false) :
    (es'.map Event.said = es.map Event.said ∧ k.deliver (outputBytes es) = (k', .ok ())) ∨
      ∃ before before' text error ending,
        Cut post k es es' x k' before before' text error ending := by
  -- induction on the course `es`: the other one goes along, and its sink has ever less room, up to
  -- the output where they part
  generalize hq : done a = q at hlead
  induction hlead generalizing es' k with
  | refl r =>
      subst hq
      obtain ⟨rfl, -⟩ := leads_done.mp hlead'
      cases hk with
      | nil => exact .inl ⟨rfl, Sink.deliver_nil _⟩
  | @act b next r es t y s hrest ih =>
      obtain ⟨haccept, haccepted'⟩ := List.forall_mem_cons.mp haccepted
      have hnext := hr y
      rw [haccept] at hnext
      cases halike with
      | @cons _ e' _ es' he halike =>
          obtain ⟨t', b', y', s'⟩ := e'
          cases he
          cases hlead' with
          | act _ _ _ hlead' =>
              obtain ⟨k₁, hk₁, hflush₁, hdeliver⟩ := hk.uncons haccept
              have hbytes : outputBytes [⟨t', b, y, s'⟩] = outputBytes [⟨t, b, y, s⟩] :=
                outputBytes_of_said rfl
              rw [hbytes] at hdeliver
              rcases ih hnext haccepted' hlead' halike hk₁ (hflush₁.trans hflush) hq with
                ⟨hsaid, hd⟩ | ⟨before, before', text, error, ending, hcut⟩
              · refine .inl ⟨congrArg (List.cons _) hsaid, ?_⟩
                rw [← List.singleton_append, outputBytes_append, hdeliver, hd]
              · exact .inr ⟨_ :: before, _ :: before', text, error, ending, hcut.cons rfl hdeliver⟩
      | @parted _ _ y' _ _ _ _ _ es'' ha hx =>
          cases hlead' with
          | act _ _ _ hlead' =>
              have hnext' := hr y'
              cases hrefusal : b.refusal? y' with
              | none => exact absurd (Action.eq_of_accepted ha haccept hrefusal) hx
              | some error =>
                  rw [hrefusal] at hnext'
                  obtain ⟨text, hcut⟩ :=
                    Cut.refused_first haccept hrefusal hk hflush hnext' hlead'
                  exact .inr ⟨[], [], text, error, es'', hcut⟩

/-- Every sink allows a course with the same answers, if the routine can end without output after a
refusal. -/
lemma Breaks.exists_alike (hr : r.Breaks post) (hlead : r.Leads es (done a))
    (haccepted : ∀ e ∈ es, e.action.refusal? e.answer = none)
    (hpost : ∀ e q, post e q →
      ∃ ending x, q.Leads ending (done x) ∧ ∀ e ∈ ending, e.action.isOutput = false) :
    ∃ es' x k', r.Leads es' (done x) ∧ Alike es es' ∧ k.Answers es' k' := by
  generalize hq : done a = q at hlead
  induction hlead generalizing k with
  | refl r =>
      subst hq
      exact ⟨[], a, k, .refl _, .nil, .nil k⟩
  | @act b next r es t y s hrest ih =>
      obtain ⟨haccept, haccepted'⟩ := List.forall_mem_cons.mp haccepted
      have hnext := hr y
      rw [haccept] at hnext
      cases hout : b.isOutput with
      | false =>
          obtain ⟨es', x, k', hlead', halike, hk⟩ := ih (k := k) hnext haccepted' hq
          exact ⟨_, x, k', .act t y s hlead', .cons rfl halike, .aloof hout hk⟩
      | true =>
          obtain ⟨y', k₁, -, -, -, hanswers⟩ := Sink.exists_answer hout k
          have hnext' := hr y'
          cases hrefusal : b.refusal? y' with
          | none =>
              obtain rfl : y = y' := Action.eq_of_accepted hout haccept hrefusal
              obtain ⟨es', x, k', hlead', halike, hk⟩ := ih (k := k₁) hnext haccepted' hq
              exact ⟨_, x, k', .act t y s hlead', .cons rfl halike, hanswers t s es' k' hk⟩
          | some error =>
              -- the courses part here, and what is left of `es` plays no role any more
              rw [hrefusal] at hnext'
              obtain ⟨ending, x, hend, hsilent⟩ := hpost error _ hnext'
              have hparted : y ≠ y' := by
                rintro rfl
                rw [haccept] at hrefusal
                cases hrefusal
              exact ⟨_, x, k₁, .act t y' s hend, .parted t t s s es ending hout hparted,
                hanswers t s ending k₁ (Sink.answers_of_silent hsilent k₁)⟩

end Cut

/-! ### Submissions -/

/-- The action occurs in the routine. -/
inductive Occurs (b : Action) : Routine α → Prop
  | here (next : b.Answer → Routine α) : Occurs b (act b next)
  | later {a : Action} {next : a.Answer → Routine α} (x : a.Answer) (h : Occurs b (next x)) :
      Occurs b (act a next)

lemma only_occurs (r : Routine α) : r.Only fun a => r.Occurs a := by
  induction r with
  | done a => trivial
  | act a next ih => exact ⟨.here next, fun x => (ih x).mono fun b hb => .later x hb⟩
  | more => trivial

end Routine

/-- The action is the bootstrap's own, or belongs to a look at the size of a tier. -/
def IsAside (broker : Broker) (a : Action) : Prop :=
  a.isWatch = true ∨ a.isBracket = true ∨ ∃ tier, (broker.size tier).Occurs a

/-- The events of a bootstrap that submits so many tasks: all others are aside. -/
def Submits (broker : Broker) (tasks : List CompileTask) (es : List Event) : Prop :=
  ∃ (opening : List Event) (subs : List Submission) (rest : List Event),
    es = opening ++ (subs.flatMap Submission.events ++ rest) ∧
    subs.map Submission.task = tasks ∧
    (∀ b ∈ subs, (broker.submit b.task).Leads b.events (.done b.accepted)) ∧
    ∀ e ∈ opening ++ rest, IsAside broker e.action

section Submits

variable {broker : Broker} {tasks : List CompileTask} {es es' : List Event}

lemma submits_nil (h : ∀ e ∈ es, IsAside broker e.action) : Submits broker [] es :=
  ⟨es, [], [], by simp, rfl, by simp, by simpa using h⟩

lemma Submits.append (h : Submits broker tasks es) (h' : ∀ e ∈ es', IsAside broker e.action) :
    Submits broker tasks (es ++ es') := by
  obtain ⟨opening, subs, rest, rfl, htasks, hsubs, haside⟩ := h
  refine ⟨opening, subs, rest ++ es', by simp, htasks, hsubs, ?_⟩
  rw [← List.append_assoc]
  exact List.forall_mem_append.mpr ⟨haside, h'⟩

lemma actions_of_said {p : Action → Prop} (h : ∀ e ∈ es, p e.action)
    (hsaid : es'.map Event.said = es.map Event.said) : ∀ e ∈ es', p e.action := by
  intro e' he'
  have hmem : e'.said ∈ es.map Event.said := hsaid ▸ List.mem_map_of_mem he'
  obtain ⟨e, he, heq⟩ := List.mem_map.mp hmem
  have haction : e.action = e'.action := congrArg Sigma.fst heq
  exact haction ▸ h e he

/-- Events that get the answers of submissions are submissions of the same tasks. -/
lemma submissions_of_said {subs : List Submission}
    (hsubs : ∀ b ∈ subs, (broker.submit b.task).Leads b.events (.done b.accepted))
    (hsaid : es'.map Event.said = (subs.flatMap Submission.events).map Event.said) :
    ∃ subs' : List Submission, es' = subs'.flatMap Submission.events ∧
      subs'.map Submission.task = subs.map Submission.task ∧
      ∀ b ∈ subs', (broker.submit b.task).Leads b.events (.done b.accepted) := by
  induction subs generalizing es' with
  | nil => exact ⟨[], List.map_eq_nil_iff.mp hsaid, rfl, by simp⟩
  | cons b rest ih =>
      obtain ⟨hb, hrest⟩ := List.forall_mem_cons.mp hsubs
      rw [List.flatMap_cons, List.map_append] at hsaid
      obtain ⟨es₁, es₂, rfl, h₁, h₂⟩ := List.map_eq_append_iff.mp hsaid
      obtain ⟨subs', rfl, htasks, hsubs'⟩ := ih hrest h₂
      exact ⟨⟨b.task, es₁, b.accepted⟩ :: subs', rfl, congrArg (List.cons b.task) htasks,
        List.forall_mem_cons.mpr ⟨hb.of_said h₁, hsubs'⟩⟩

lemma Submits.of_said (h : Submits broker tasks es)
    (hsaid : es'.map Event.said = es.map Event.said) : Submits broker tasks es' := by
  obtain ⟨opening, subs, rest, rfl, htasks, hsubs, haside⟩ := h
  rw [List.map_append, List.map_append] at hsaid
  obtain ⟨opening', es', rfl, hopening, hsaid⟩ := List.map_eq_append_iff.mp hsaid
  obtain ⟨seeding, rest', rfl, hseeding, hrest⟩ := List.map_eq_append_iff.mp hsaid
  obtain ⟨subs', rfl, htasks', hsubs'⟩ := submissions_of_said hsubs hseeding
  refine ⟨opening', subs', rest', rfl, htasks'.trans htasks, hsubs', actions_of_said haside ?_⟩
  rw [List.map_append, List.map_append, hopening, hrest]

end Submits

/-! ### Bootstraps with a sink that takes so many bytes -/

/-- A bootstrap with a sink that takes so many bytes: its course, its outcome, and what its sink is
left as. It gets the same answers as one with the events `es`, but for its output. -/
structure Curtailed (L : Nat) (r : Routine (Except ServiceError (Option BootstrapReport)))
    (es es' : List Event) (x : Except ServiceError (Option BootstrapReport)) (k : Sink) :
    Prop where
  leads : r.Leads es' (.done x)
  alike : Alike es es'
  answers : (Sink.upTo L).Answers es' k

/-- How such a bootstrap compares with one that succeeds with the same answers and that brings the
bytes `bytes` to its sink. -/
structure Truncated (broker : Broker) (methods : List Method) (L : Nat) (bytes : List UInt8)
    (result : Option BootstrapReport) (es es' : List Event)
    (x : Except ServiceError (Option BootstrapReport)) (k : Sink) : Prop where
  /-- The sink gets the first bytes. -/
  received : k.received = bytes.take L
  /-- The bootstrap fails exactly if these are not all. -/
  outcome : x = if L < bytes.length then .error (.output .full) else .ok result
  /-- If they are all, then nothing is different. -/
  whole : bytes.length ≤ L → es'.map Event.said = es.map Event.said
  /-- Else the end of the bootstrap is not told. -/
  untold : L < bytes.length → ∀ e ∈ es', e.action.isNotification = false
  /-- Without the whole banner no task is submitted, with it the same tasks are. -/
  submitted : L < bytes.length → Submits broker (seedTasks methods) es ∧
    Submits broker (if L < (utf8Bytes "Bootstrapping external compiler").length then []
      else seedTasks methods) es'

/-- What belongs to a broker is no output. -/
lemma Action.not_isOutput_of_isBrokers {a : Action} (h : a.isBrokers = true) :
    a.isOutput = false := by
  rcases a with a | p | c
  · rfl
  · rfl
  · cases c <;> first | rfl | cases h

/-- What comes before an element that is not among the first ones. -/
lemma exists_of_append_eq_append_cons {l r before after : List Event} {e : Event}
    (h : l ++ r = before ++ e :: after) (he : e ∉ l) :
    ∃ c, before = l ++ c ∧ r = c ++ e :: after := by
  obtain ⟨c, rfl, rfl⟩ | ⟨c, rfl, hc⟩ := List.append_eq_append_iff.mp h
  · exact ⟨c, rfl, rfl⟩
  · cases c with
    | nil => exact ⟨[], by simp, by simpa using hc.symm⟩
    | cons e' c =>
        obtain ⟨rfl, -⟩ := List.cons_eq_cons.mp hc
        exact absurd (by simp) he

namespace Routine

section Curtailed

variable {broker : Broker} {polls L : Nat} {c : Config} {cancellable : Bool}
  {methods : List Method} {es es' before after : List Event} {text : String} {t : ThreadId}
  {s : Shared}

lemma Opening.aside (h : Opening es) : ∀ e ∈ es, IsAside broker e.action := by
  cases h
  simp [IsAside, Action.isWatch, Action.isBracket]

lemma Closing.aside {report : BootstrapReport} (h : Closing report es) :
    ∀ e ∈ es, IsAside broker e.action := by
  cases h
  simp [IsAside, Action.isWatch, Action.isBracket]

/-- Waiting for the queue only looks at it. -/
lemma drain_aside {print : Bool} {start n : Nat} {first : Bool} {dots : Nat}
    {x : Except ServiceError Unit}
    (h : (drain print cancellable broker start n first dots).Leads es (done x)) :
    ∀ e ∈ es, IsAside broker e.action := by
  refine ((only_drain (p := IsAside broker) (fun a ha => .inl ha) (fun tier => ?_) _ _ _ _ _
    _).leads h).2
  exact (only_occurs _).mono fun a ha => .inr (.inr ⟨tier, ha⟩)

/-- A text that a bootstrap writes is its banner, or comes when the banner is whole. -/
lemma Opening.reaches {opening rest : List Event} (h : Opening opening)
    (hes : opening ++ rest = before ++ ⟨t, .call (.write text), .ok (), s⟩ :: after) :
    (before <+: opening ∧ outputBytes before = [] ∧ text = banner) ∨
      ∃ c, before = opening ++ c ∧ rest = c ++ ⟨t, .call (.write text), .ok (), s⟩ :: after := by
  cases h with
  | mk t₁ t₂ t₃ t₄ t₅ saved start s₁ s₂ s₃ s₄ s₅ =>
      obtain ⟨before, rfl, hrest⟩ := exists_of_append_eq_append_cons
        (l := [⟨t₁, .access .openWindow, true, s₁⟩, ⟨t₂, .access (.swapFlag false), saved, s₂⟩])
        hes (by simp)
      rcases before with _ | ⟨e, before⟩
      · obtain ⟨hbanner, -⟩ := List.cons_eq_cons.mp hrest
        cases hbanner
        exact .inl ⟨⟨[_, _, _], rfl⟩, rfl, rfl⟩
      · obtain ⟨rfl, hrest₁⟩ := List.cons_eq_cons.mp hrest
        obtain ⟨c, rfl, hrest₂⟩ := exists_of_append_eq_append_cons
          (l := [⟨t₄, .call .flush, .ok (), s₄⟩, ⟨t₅, .call .now, start, s₅⟩]) hrest₁ (by simp)
        exact .inr ⟨c, rfl, hrest₂⟩

/-- A bootstrap that reports has submitted its tasks, unless its output is cut off in the banner. -/
lemma submits_before {report : BootstrapReport} (hb : broker.Only fun a => a.isOutput = false)
    (hprint : c.printProgress = true)
    (h : (bootstrap polls c cancellable methods broker).Leads es (done (.ok (some report))))
    (hes : es = before ++ ⟨t, .call (.write text), .ok (), s⟩ :: after) :
    Submits broker (seedTasks methods) es ∧
      ((Submits broker [] before ∧ outputBytes before = [] ∧ text = banner) ∨
        (Submits broker (seedTasks methods) before ∧
          (utf8Bytes banner).length ≤ (outputBytes before).length)) := by
  obtain ⟨opening, subs, start, draining, closing, rfl, hopening, htasks, hsubs, hdrain,
    hclosing⟩ := printed_course hprint h
  have hfront : ∀ e ∈ opening, IsAside broker e.action := hopening.aside
  have hback : ∀ e ∈ draining ++ closing, IsAside broker e.action :=
    List.forall_mem_append.mpr ⟨drain_aside hdrain, hclosing.aside⟩
  refine ⟨⟨opening, subs, _, rfl, htasks, hsubs, List.forall_mem_append.mpr ⟨hfront, hback⟩⟩, ?_⟩
  obtain ⟨hwithin, hbytes, rfl⟩ | ⟨between, rfl, hrest⟩ := hopening.reaches hes
  · exact .inl ⟨submits_nil fun e he => hfront e (hwithin.mem he), hbytes, rfl⟩
  · -- no submission has output, so the text comes after all of them
    obtain ⟨waited, rfl, hleft⟩ := exists_of_append_eq_append_cons hrest fun hmem => by
      cases silent_submissions hb hsubs _ hmem
    refine .inr ⟨⟨opening, subs, waited, rfl, htasks, hsubs,
      List.forall_mem_append.mpr ⟨hfront, fun e he => hback e ?_⟩⟩, ?_⟩
    · rw [hleft]
      exact List.mem_append_left _ he
    · have hbanner : outputBytes opening = utf8Bytes banner := by
        cases hopening
        exact List.append_nil _
      rw [outputBytes_append, List.length_append, hbanner]
      exact Nat.le_add_right _ _

/-- Before its last text a bootstrap does not tell its end. -/
lemma untold_before {report : BootstrapReport} (hb : broker.Only (·.isBrokers = true))
    (h : (bootstrap polls c cancellable methods broker).Leads es (done (.ok (some report))))
    (hes : es = before ++ ⟨t, .call (.write text), .ok (), s⟩ :: after) :
    ∀ e ∈ before, e.action.isNotification = false := by
  obtain ⟨t₁, s₁, t₂, saved, s₂, inside, t₃, s₃, t₄, s₄, t₅, s₅, rfl, hinside⟩ := bootstrap_course h
  have hquiet : ∀ e ∈ ⟨t₁, .access .openWindow, true, s₁⟩ ::
      ⟨t₂, .access (.swapFlag false), saved, s₂⟩ :: inside, e.action.isNotification = false :=
    List.forall_mem_cons.mpr ⟨rfl, List.forall_mem_cons.mpr
      ⟨rfl, fun e he => ((quiet_of_inside hb hinside).1 e he).2⟩⟩
  rw [← List.cons_append, ← List.cons_append] at hes
  obtain ⟨c, -, hback⟩ | ⟨c, hfront, -⟩ := List.append_eq_append_iff.mp hes
  · have hmem : (⟨t, .call (.write text), .ok (), s⟩ : Event) ∈ c ++ _ :: after :=
      List.mem_append_right c List.mem_cons_self
    simp [← hback] at hmem
  · rw [hfront] at hquiet
    exact (List.forall_mem_append.mp hquiet).1

/-- A bootstrap with nothing to boot does nothing. -/
lemma bootstrap_leads_none
    (h : (bootstrap polls c cancellable methods broker).Leads es (done (.ok none))) : es = [] := by
  rw [bootstrap] at h
  split at h
  · exact (leads_done.mp h).1
  · obtain ⟨t, opened, s, es', rfl, h₁⟩ := leads_access_done.mp h
    cases opened with
    | false => cases (leads_done.mp h₁).2
    | true =>
        obtain ⟨es₁, es₂, x, rfl, -, h₂⟩ := leads_bind_done.mp h₁
        cases x <;> cases (leads_done.mp h₂).2

/-- A bootstrap that succeeds can be repeated with a sink that takes so many bytes. -/
lemma exists_curtailed {result : Option BootstrapReport}
    (hb : broker.Only fun a => a.isOutput = false)
    (h : (bootstrap polls c cancellable methods broker).Leads es (done (.ok result))) :
    ∃ es' x k, Curtailed L (bootstrap polls c cancellable methods broker) es es' x k := by
  obtain ⟨es', x, k, hlead, halike, hk⟩ := (bootstrap_breaks hb polls c cancellable
    methods).exists_alike (k := Sink.upTo L) h (accepted_of_ok hb h) (by
      rintro e q ⟨saved, rfl⟩
      refine ⟨_, _, breakOff_leads_done.mpr ⟨rfl, 0, {}, 0, {}, rfl⟩, ?_⟩
      simp [Action.isOutput])
  exact ⟨es', x, k, hlead, halike, hk⟩

/-- A bootstrap whose output fits into its sink goes as it goes with a sink that takes
everything. -/
lemma truncated_of_fits {result : Option BootstrapReport}
    (h : (bootstrap polls c cancellable methods broker).Leads es (done (.ok result)))
    {x : Except ServiceError (Option BootstrapReport)} {k : Sink}
    (hlead : (bootstrap polls c cancellable methods broker).Leads es' (done x))
    (hsaid : es'.map Event.said = es.map Event.said)
    (hdeliver : (Sink.upTo L).deliver (outputBytes es) = (k, .ok ())) :
    Truncated broker methods L (outputBytes es) result es es' x k := by
  have hroom : ¬ L < (outputBytes es).length :=
    Nat.not_lt.mpr (Sink.deliver_upTo_ok.mp (by rw [hdeliver]))
  rw [Sink.deliver_upTo] at hdeliver
  obtain rfl := congrArg Prod.fst hdeliver
  obtain rfl : x = .ok result := done.inj (hlead.unique (h.of_said hsaid))
  exact ⟨rfl, by rw [if_neg hroom], fun _ => hsaid, fun hless => absurd hless hroom,
    fun hless => absurd hless hroom⟩

/-- A bootstrap whose output is cut off breaks off there. -/
lemma truncated_of_cut {report : BootstrapReport} (hb : broker.Only (·.isBrokers = true))
    (hprint : c.printProgress = true)
    (h : (bootstrap polls c cancellable methods broker).Leads es (done (.ok (some report))))
    {x : Except ServiceError (Option BootstrapReport)} {k : Sink} {before' ending : List Event}
    {error : SinkError}
    (hcut : Cut (fun e q => ∃ saved, q = breakOff saved e) (Sink.upTo L) es es' x k before before'
      text error ending) :
    Truncated broker methods L (outputBytes es) (some report) es es' x k := by
  obtain ⟨⟨t, s, after, hes⟩, ⟨t', s', rfl⟩, hsaid, hfits, hrefused, ⟨q, ⟨saved, rfl⟩, hend⟩, k₁,
    hdeliver, hk₁⟩ := hcut
  obtain ⟨rfl, t₁, s₁, t₂, s₂, rfl⟩ := breakOff_leads_done.mp hend
  obtain rfl : k = k₁ := hk₁.of_silent (by simp [Action.isOutput])
  obtain ⟨hless, rfl⟩ := Sink.deliver_upTo_error.mp (by rw [hdeliver])
  rw [Sink.deliver_upTo] at hdeliver
  obtain rfl := congrArg Prod.fst hdeliver
  have haside : ∀ e ∈ (⟨t', .call (.write text), .error .full, s'⟩ : Event) ::
      [⟨t₁, .access (.storeFlag saved), (), s₁⟩, ⟨t₂, .access .closeWindow, (), s₂⟩],
      IsAside broker e.action := by
    simp [IsAside, Action.isWatch, Action.isBracket]
  refine ⟨rfl, by rw [if_pos hless], fun hroom => absurd hless (Nat.not_lt.mpr hroom),
    fun _ => List.forall_mem_append.mpr ⟨?_, by simp [Action.isNotification]⟩, fun _ => ?_⟩
  · exact actions_of_said (p := (·.isNotification = false)) (untold_before hb h hes) hsaid
  · obtain ⟨hsubmits, ⟨hbefore, hbytes, rfl⟩ | ⟨hbefore, hbanner⟩⟩ :=
      submits_before (hb.mono fun a ha => Action.not_isOutput_of_isBrokers ha) hprint h hes
    · rw [hbytes, List.nil_append] at hrefused
      have hshort : L < (utf8Bytes "Bootstrapping external compiler").length :=
        (Sink.deliver_upTo_error.mp hrefused).1
      rw [if_pos hshort]
      exact ⟨hsubmits, (hbefore.of_said hsaid).append haside⟩
    · have hwhole : ¬ L < (utf8Bytes "Bootstrapping external compiler").length :=
        Nat.not_lt.mpr (Nat.le_trans hbanner (Sink.deliver_upTo_ok.mp hfits))
      rw [if_neg hwhole]
      exact ⟨hsubmits, (hbefore.of_said hsaid).append haside⟩

end Curtailed

end Routine

/-- A bootstrap whose sink takes so many bytes is cut off at the right byte. -/
theorem Curtailed.truncated {broker : Broker} (hb : broker.Only (·.isBrokers = true))
    {polls L : Nat} {c : Config} {cancellable : Bool} {methods : List Method}
    (hprint : c.printProgress = true) {es es' : List Event} {result : Option BootstrapReport}
    (h : (Routine.bootstrap polls c cancellable methods broker).Leads es (.done (.ok result)))
    {x : Except ServiceError (Option BootstrapReport)} {k : Sink}
    (hcurtailed : Curtailed L (Routine.bootstrap polls c cancellable methods broker) es es' x k) :
    Truncated broker methods L (outputBytes es) result es es' x k := by
  have hb' : broker.Only fun a => a.isOutput = false :=
    hb.mono fun a ha => Action.not_isOutput_of_isBrokers ha
  obtain ⟨hlead, halike, hk⟩ := hcurtailed
  rcases (Routine.bootstrap_breaks hb' polls c cancellable methods).cut h
    (Routine.accepted_of_ok hb' h) hlead halike hk rfl with
      ⟨hsaid, hdeliver⟩ | ⟨before, before', text, error, ending, hcut⟩
  · exact Routine.truncated_of_fits h hlead hsaid hdeliver
  · cases result with
    | some report => exact Routine.truncated_of_cut hb hprint h hcut
    | none =>
        obtain rfl := Routine.bootstrap_leads_none h
        obtain ⟨t, s, after, hes⟩ := hcut.full
        cases List.append_eq_nil_iff.mp hes.symm |>.2

/-! ### Texts and sinks -/

/-- What brings the bytes `bytes` to a sink is cut off at `L` bytes: a sink that takes everything
gets them all, and a sink that takes so many gets the first ones and fails exactly if these are not
all. -/
def CutOff (L : Nat) (bytes : List UInt8) (write : Writing) : Prop :=
  write {} = ({ received := bytes }, .ok ()) ∧
    write (.upTo L) = ({ Sink.upTo L with received := bytes.take L },
      if L < bytes.length then .error .full else .ok ())

/-- What is written is cut off at the right byte, into whichever pieces it falls. -/
lemma Writing.Delivers.cutOff {w : Writing} {bytes : List UInt8} (hw : w.Delivers bytes) (L : Nat) :
    CutOff L bytes w :=
  ⟨(hw {}).trans (Sink.deliver_unlimited rfl), (hw (.upTo L)).trans Sink.deliver_upTo⟩

/-- **A failing sink only cuts the output off.** A sink takes `L` bytes and then fails, and can
always be flushed. The line about the installs of an origin, behind any label, and the report on the
timers are cut off at `L` bytes, and the report leaves the session as it is. A bootstrap that
succeeds with a sink that takes everything can be repeated with the same answers and the other sink,
and however this is done, its output is cut off at `L` bytes: it fails exactly if these are not all,
and then it never tells its end, and has submitted the same tasks if the banner came out whole and
none else. -/
theorem output_truncated (L : Nat) :
    (∀ (i : InstallCounters) (label : String),
      CutOff L (utf8Bytes (i.line label)) (i.printOn label)) ∧
    (∀ s : Session,
      CutOff L ((timerLines s.shared.service.counters).flatMap utf8Bytes)
        s.shared.service.counters.printTimers ∧
      ∀ k : Sink, (Play.printTimers k).run s =
        (.printed (s.shared.service.counters.printTimers k).1
          (s.shared.service.counters.printTimers k).2, s)) ∧
    ∀ (broker : Broker) (polls : Nat) (c : Config) (cancellable : Bool) (methods : List Method)
      (es : List Event) (result : Option BootstrapReport) (full : Sink),
      broker.Only (·.isBrokers = true) → c.printProgress = true →
      (Routine.bootstrap polls c cancellable methods broker).Leads es (.done (.ok result)) →
      ({} : Sink).Answers es full →
        (∃ es' x k,
          Curtailed L (Routine.bootstrap polls c cancellable methods broker) es es' x k) ∧
        ∀ es' x k, Curtailed L (Routine.bootstrap polls c cancellable methods broker) es es' x k →
          Truncated broker methods L full.received result es es' x k := by
  refine ⟨fun i label => (delivers_printOn i label).cutOff L,
    fun s => ⟨(delivers_printTimers _).cutOff L, fun k => rfl⟩,
    fun broker polls c cancellable methods es result full hb hprint h hfull => ?_⟩
  have hb' : broker.Only fun a => a.isOutput = false :=
    hb.mono fun a ha => Action.not_isOutput_of_isBrokers ha
  have hbytes : full.received = outputBytes es := by
    rw [hfull.received_of_accepted (Routine.accepted_of_ok hb' h)]
    rfl
  refine ⟨Routine.exists_curtailed hb' h, fun es' x k hcurtailed => ?_⟩
  rw [hbytes]
  exact hcurtailed.truncated hb hprint h

/-- A bootstrap of one method whose task was already taken up, and whose broker has no other. -/
def printedStart : System where
  shared := { service := { requestHandled := true, counters := { methodsCompiled := 250 } } }
  threads
    | 1 => (Routine.bootstrap 1 { printProgress := true } false [plainMethod] .outside).bind
        afterReport
    | _ => .done ()

/-- The whole bootstrap. -/
def printedRun : List Event × System :=
  printedStart.play Call.silence (List.replicate 20 1)

/-- The broker outside is asked, and nothing else. -/
lemma isBrokers_outside : Broker.outside.Only (·.isBrokers = true) :=
  outside_only (fun _ => rfl) fun _ => rfl

/-- The bootstrap reports, and a sink that takes everything has received its line. -/
lemma exists_printedRun : ∃ report full,
    (Routine.bootstrap 1 { printProgress := true } false [plainMethod] .outside).Leads
      (own 1 printedRun.1) (.done (.ok (some report))) ∧
    ({} : Sink).Answers (own 1 printedRun.1) full ∧
    full.received =
      utf8Bytes "Bootstrapping external compiler.. in 0 ms (compiled 250 methods)\n" := by
  have hrun : System.Run printedStart printedRun.1 printedRun.2 := System.run_play _ _ _
  obtain ⟨report, hreturn⟩ := hrun.exists_report (t := 1)
    (r := Routine.bootstrap 1 { printProgress := true } false [plainMethod] .outside) rfl
    (by decide +kernel)
  have haccepted := Routine.accepted_of_ok
    (isBrokers_outside.mono fun a ha => Action.not_isOutput_of_isBrokers ha) hreturn.2
  have hbytes : outputBytes (own 1 printedRun.1) =
      utf8Bytes "Bootstrapping external compiler.. in 0 ms (compiled 250 methods)\n" := by
    decide +kernel
  obtain ⟨full, hfull⟩ := Sink.exists_answers (k := {}) rfl rfl haccepted
  refine ⟨report, full, hreturn.2, hfull, ?_⟩
  rw [hfull.received_of_accepted haccepted, ← hbytes]
  rfl

/-- Some installs, which took a second and a half. -/
def someInstalls : InstallCounters where
  installs := 3
  blobBytes := 4096
  codeBytes := 2000
  time := 1500000000

/-- A sink takes 32 bytes. It gets the banner of a bootstrap and one of two dots, and the task is
submitted all the same; of a line about installs it gets the time, and of the report on the timers
not even the first line. -/
theorem output_truncated_in_dots :
    (someInstalls.printOn "       Install Code:   " (.upTo 32)).1.received =
        utf8Bytes "       Install Code:     1.500 s" ∧
      (someInstalls.printOn "       Install Code:   " (.upTo 32)).2 = .error .full ∧
      (∀ s : Session, s.shared.service.counters = { jit := someInstalls } →
        ∃ k, (Play.printTimers (.upTo 32)).run s = (.printed k (.error .full), s) ∧
          k.received = utf8Bytes "    External Compiler CompileBro") ∧
      texts (own 1 printedRun.1) =
        ["Bootstrapping external compiler", ".", ".", " in 0 ms (compiled 250 methods)\n"] ∧
      ∃ es' x k, Curtailed 32
          (Routine.bootstrap 1 { printProgress := true } false [plainMethod] .outside)
          (own 1 printedRun.1) es' x k ∧
        k.received = utf8Bytes "Bootstrapping external compiler." ∧ x = .error (.output .full) ∧
        Submits .outside (seedTasks [plainMethod]) es' := by
  obtain ⟨hinstalls, htimers, hbootstrap⟩ := output_truncated 32
  obtain ⟨-, hline⟩ := hinstalls someInstalls "       Install Code:   "
  obtain ⟨report, full, hleads, hfull, hreceived⟩ := exists_printedRun
  obtain ⟨⟨es', x, k, hcurtailed⟩, hall⟩ :=
    hbootstrap _ _ _ _ _ _ _ _ isBrokers_outside rfl hleads hfull
  have htruncated := hall es' x k hcurtailed
  rw [hreceived] at htruncated
  have hless : 32 < (utf8Bytes
      "Bootstrapping external compiler.. in 0 ms (compiled 250 methods)\n").length := by
    decide +kernel
  have hwhole : ¬ 32 < (utf8Bytes "Bootstrapping external compiler").length := by decide +kernel
  have hfirst : (utf8Bytes
      "Bootstrapping external compiler.. in 0 ms (compiled 250 methods)\n").take 32 =
        utf8Bytes "Bootstrapping external compiler." := by decide +kernel
  have houtcome := htruncated.outcome
  rw [if_pos hless] at houtcome
  have hsubmits := (htruncated.submitted hless).2
  rw [if_neg hwhole] at hsubmits
  refine ⟨?_, ?_, fun s hs => ?_, by decide +kernel, es', x, k, hcurtailed,
    htruncated.received.trans hfirst, houtcome, hsubmits⟩
  · rw [hline]
    decide +kernel
  · have hlong : 32 < (utf8Bytes (someInstalls.line "       Install Code:   ")).length := by
      decide +kernel
    rw [hline, if_pos hlong]
  · obtain ⟨⟨-, hcut⟩, hplay⟩ := htimers s
    rw [hs] at hcut hplay
    have hlong : 32 < ((timerLines { jit := someInstalls }).flatMap utf8Bytes).length := by
      decide +kernel
    refine ⟨(Counters.printTimers { jit := someInstalls } (.upTo 32)).1, ?_, ?_⟩
    · rw [hplay, hcut, if_pos hlong]
    · rw [hcut]
      decide +kernel

end ExternalCompiler
