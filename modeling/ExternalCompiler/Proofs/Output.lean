/-
Output and the sinks that take it:

* `Sink.deliver`: bytes on their way into a sink; `Sink.deliver_append`: it does not matter into how
  many pieces they are cut; `Sink.deliver_upTo`: a sink with a limit takes the first of them and
  fails if these are not all;
* `Writing.Delivers`: what is written are certain bytes; `Writing.Delivers.cons`,
  `delivers_writeAll`: one thing after the other;
* `Action.isOutput`, `Action.refusal?`, `texts`: what a routine does with its sink, how that may
  fail, and the texts that were brought out;
* `Sink.Answers`: a sink answers the output among some events; `Sink.Answers.received_of_accepted`:
  what it has received if it refused nothing; `Sink.exists_answers`: a sink that takes everything
  does refuse nothing.
-/
import ExternalCompiler.Sink
import ExternalCompiler.Proofs.Interleaving

namespace ExternalCompiler

/-! ### Sinks -/

lemma utf8Bytes_append (a b : String) : utf8Bytes (a ++ b) = utf8Bytes a ++ utf8Bytes b := by
  simp [utf8Bytes]

namespace Sink

variable {k k' : Sink} {a b : List UInt8} {L : Nat}

/-- Brings bytes to the sink, which takes those that fit and fails if some do not. -/
def deliver (k : Sink) (bytes : List UInt8) : Sink × Except SinkError Unit :=
  ({ k with received := k.received ++ k.accepted bytes },
    if (k.accepted bytes).length < bytes.length then .error .full else .ok ())

/-- A sink that takes so many bytes and can be flushed. -/
def upTo (L : Nat) : Sink where
  limit := some L

lemma write_eq_deliver (k : Sink) (text : String) : k.write text = k.deliver (utf8Bytes text) :=
  rfl

lemma deliver_unlimited (hk : k.limit = none) :
    k.deliver a = ({ k with received := k.received ++ a }, .ok ()) := by
  simp [deliver, accepted, hk]

/-- What is left of a limit decides how many bytes are taken, and whether that is all. -/
lemma deliver_limited (hk : k.limit = some L) :
    k.deliver a = ({ k with received := k.received ++ a.take (L - k.received.length) },
      if L - k.received.length < a.length then .error .full else .ok ()) := by
  have hless : min (L - k.received.length) a.length < a.length ↔
      L - k.received.length < a.length := by omega
  simp only [deliver, accepted, hk, List.length_take, hless]

/-- A sink with a limit takes the first bytes. -/
lemma deliver_upTo :
    (upTo L).deliver a = ({ upTo L with received := a.take L },
      if L < a.length then .error .full else .ok ()) :=
  deliver_limited rfl

/-- A delivery that succeeds is a delivery of all bytes. -/
lemma deliver_of_ok (h : (k.deliver a).2 = .ok ()) :
    (k.deliver a).1 = { k with received := k.received ++ a } := by
  cases hk : k.limit with
  | none => rw [deliver_unlimited hk, hk]
  | some L =>
      rw [deliver_limited hk] at h ⊢
      simp only at h ⊢
      split at h
      · cases h
      next hfits => rw [List.take_of_length_le (Nat.not_lt.mp hfits), hk]

/-- Bytes that come in two pieces are taken like bytes that come in one. -/
lemma deliver_append (k : Sink) (a b : List UInt8) :
    k.deliver (a ++ b) = match k.deliver a with
      | (k', .ok ()) => k'.deliver b
      | (k', .error e) => (k', .error e) := by
  cases hk : k.limit with
  | none =>
      rw [deliver_unlimited hk, deliver_unlimited hk]
      simp only
      rw [deliver_unlimited (k := { k with received := k.received ++ a }) hk, List.append_assoc]
  | some L =>
      rw [deliver_limited hk, deliver_limited hk]
      by_cases ha : L - k.received.length < a.length
      · have htake : (a ++ b).take (L - k.received.length) = a.take (L - k.received.length) :=
          List.take_append_of_le_length (by omega)
        rw [htake, if_pos ha, if_pos (by rw [List.length_append]; omega)]
      · have hroom : L - (k.received ++ a).length = L - k.received.length - a.length := by
          rw [List.length_append]
          omega
        rw [if_neg ha, List.take_append, List.take_of_length_le (Nat.not_lt.mp ha)]
        simp only
        rw [deliver_limited (k := { k with received := k.received ++ a }) hk, hroom,
          List.append_assoc]
        refine congrArg _ (if_congr ?_ rfl rfl)
        rw [List.length_append]
        omega

/-- No bytes are always taken. -/
lemma deliver_nil (k : Sink) : k.deliver [] = (k, .ok ()) := by
  cases hk : k.limit with
  | none => simp [deliver_unlimited hk]
  | some L => simp [deliver_limited hk]

end Sink

/-! ### Writing -/

/-- What is written are the bytes `bytes`, into whichever pieces they are cut. -/
def Writing.Delivers (w : Writing) (bytes : List UInt8) : Prop :=
  ∀ k : Sink, w k = k.deliver bytes

lemma Writing.Delivers.congr {w : Writing} {a b : List UInt8} (hw : w.Delivers a) (h : a = b) :
    w.Delivers b :=
  h ▸ hw

lemma delivers_nothing : (Writing.inTurn []).Delivers [] :=
  fun k => (Sink.deliver_nil k).symm

/-- One thing after the other brings the bytes of both. -/
lemma Writing.Delivers.cons {w : Writing} {rest : List Writing} {a b : List UInt8}
    (hw : w.Delivers a) (hrest : (Writing.inTurn rest).Delivers b) :
    (Writing.inTurn (w :: rest)).Delivers (a ++ b) := by
  intro k
  rw [Writing.inTurn, hw k, Sink.deliver_append]
  rcases k.deliver a with ⟨k', e | ⟨⟩⟩
  · rfl
  · exact hrest k'

/-- Texts that are written one after the other are taken like their bytes at once. -/
lemma delivers_writeAll (texts : List String) :
    Writing.Delivers (·.writeAll texts) (texts.flatMap utf8Bytes) := by
  induction texts with
  | nil => exact delivers_nothing
  | cons text rest ih => exact Writing.Delivers.cons (fun k => k.write_eq_deliver text) ih

/-! ### The output of a routine -/

namespace Action

/-- The action uses the sink. -/
def isOutput : Action → Bool
  | .call (.write _) | .call .flush => true
  | _ => false

lemma eq_of_isOutput {a : Action} (ha : a.isOutput = true) :
    (∃ text, a = .call (.write text)) ∨ a = .call .flush := by
  rcases a with a | p | c
  · cases ha
  · cases ha
  · cases c with
    | write text => exact .inl ⟨text, rfl⟩
    | flush => exact .inr rfl
    | _ => cases ha

/-- How the sink refused an output, if it did. -/
def refusal? : (a : Action) → a.Answer → Option SinkError
  | .call (.write _), .error e => some e
  | .call .flush, .error e => some e
  | _, _ => none

lemma refusal?_of_not_isOutput {a : Action} (ha : a.isOutput = false) (x : a.Answer) :
    a.refusal? x = none := by
  rcases a with a | p | c
  · rfl
  · rfl
  · cases c <;> first | rfl | cases ha

/-- Outputs that are not refused all end alike. -/
lemma eq_of_accepted {a : Action} {x y : a.Answer} (ha : a.isOutput = true)
    (hx : a.refusal? x = none) (hy : a.refusal? y = none) : x = y := by
  rcases a with a | p | c
  · cases ha
  · cases ha
  · cases c with
    | write | flush => cases x <;> cases y <;> first | rfl | (cases hx; done) | cases hy
    | _ => cases ha

end Action

/-- The text that an event brought out. -/
def Event.text? : Event → Option String
  | ⟨_, .call (.write text), .ok (), _⟩ => some text
  | _ => none

lemma Event.text?_of_not_isOutput {e : Event} (he : e.action.isOutput = false) :
    e.text? = none := by
  obtain ⟨t, a, x, s⟩ := e
  rcases a with a | p | c
  · rfl
  · rfl
  · cases c <;> first | rfl | cases he

/-- The texts that were brought out, in their order. -/
def texts (es : List Event) : List String :=
  es.filterMap Event.text?

@[simp] lemma texts_nil : texts [] = [] := rfl

@[simp] lemma texts_append (es es' : List Event) : texts (es ++ es') = texts es ++ texts es' :=
  List.filterMap_append

lemma texts_cons (e : Event) (es : List Event) : texts (e :: es) = e.text?.toList ++ texts es := by
  cases he : e.text? <;> simp [texts, he]

/-- Where there is no output, no text comes out. -/
lemma texts_of_silent {es : List Event} (h : ∀ e ∈ es, e.action.isOutput = false) :
    texts es = [] :=
  List.filterMap_eq_nil_iff.mpr fun e he => Event.text?_of_not_isOutput (h e he)

/-! ### Sinks and routines -/

namespace Sink

/-- `k.Answers es k'`: the sink `k` answers the output among the events `es`, and is left as
`k'`. -/
inductive Answers : Sink → List Event → Sink → Prop
  | nil (k : Sink) : Answers k [] k
  | write {k k' : Sink} {es : List Event} (t : ThreadId) (text : String) (s : Shared)
      (h : Answers (k.write text).1 es k') :
      Answers k (⟨t, .call (.write text), (k.write text).2, s⟩ :: es) k'
  | flush {k k' : Sink} {es : List Event} (t : ThreadId) (s : Shared) (h : Answers k es k') :
      Answers k (⟨t, .call .flush, k.flush, s⟩ :: es) k'
  | aloof {k k' : Sink} {e : Event} {es : List Event} (he : e.action.isOutput = false)
      (h : Answers k es k') : Answers k (e :: es) k'

/-- A sink answers events in two parts as it answers all of them. -/
lemma answers_append {k k' : Sink} {es es' : List Event} :
    k.Answers (es ++ es') k' ↔ ∃ m : Sink, k.Answers es m ∧ m.Answers es' k' := by
  induction es generalizing k with
  | nil =>
      refine ⟨fun h => ⟨k, .nil k, h⟩, ?_⟩
      rintro ⟨m, ⟨⟩, h⟩
      exact h
  | cons e es ih =>
      constructor
      · intro h
        cases h with
        | write t text s h =>
            obtain ⟨m, h₁, h₂⟩ := ih.mp h
            exact ⟨m, .write t text s h₁, h₂⟩
        | flush t s h =>
            obtain ⟨m, h₁, h₂⟩ := ih.mp h
            exact ⟨m, .flush t s h₁, h₂⟩
        | aloof he h =>
            obtain ⟨m, h₁, h₂⟩ := ih.mp h
            exact ⟨m, .aloof he h₁, h₂⟩
      · rintro ⟨m, h₁, h₂⟩
        cases h₁ with
        | write t text s h => exact .write t text s (ih.mpr ⟨m, h, h₂⟩)
        | flush t s h => exact .flush t s (ih.mpr ⟨m, h, h₂⟩)
        | aloof he h => exact .aloof he (ih.mpr ⟨m, h, h₂⟩)

/-- A sink that refused nothing has received all texts. -/
lemma Answers.received_of_accepted {k k' : Sink} {es : List Event} (h : k.Answers es k')
    (haccepted : ∀ e ∈ es, e.action.refusal? e.answer = none) :
    k' = { k with received := k.received ++ (texts es).flatMap utf8Bytes } := by
  induction h with
  | nil k => simp
  | @write k k' es t text s _ ih =>
      obtain ⟨hfirst, hrest⟩ := List.forall_mem_cons.mp haccepted
      rw [ih hrest, texts_cons]
      rw [write_eq_deliver] at hfirst ⊢
      rcases hok : (k.deliver (utf8Bytes text)).2 with e | ⟨⟩
      · rw [hok] at hfirst
        cases hfirst
      · rw [deliver_of_ok hok]
        simp [Event.text?]
  | flush t s _ ih =>
      obtain ⟨-, hrest⟩ := List.forall_mem_cons.mp haccepted
      exact ih hrest
  | aloof he _ ih =>
      obtain ⟨-, hrest⟩ := List.forall_mem_cons.mp haccepted
      rw [ih hrest, texts_cons, Event.text?_of_not_isOutput he]
      rfl

/-- What has no output leaves the sink alone. -/
lemma answers_of_silent {es : List Event} (h : ∀ e ∈ es, e.action.isOutput = false) (k : Sink) :
    k.Answers es k := by
  induction es with
  | nil => exact .nil k
  | cons e es ih =>
      obtain ⟨he, hes⟩ := List.forall_mem_cons.mp h
      exact .aloof he (ih hes)

lemma Answers.of_silent {k k' : Sink} {es : List Event} (h : k.Answers es k')
    (hsilent : ∀ e ∈ es, e.action.isOutput = false) : k' = k := by
  rw [h.received_of_accepted fun e he => Action.refusal?_of_not_isOutput (hsilent e he) _,
    texts_of_silent hsilent]
  simp

/-- A sink has an answer to every output, and goes on with the same limits. -/
lemma exists_answer {b : Action} (hout : b.isOutput = true) (k : Sink) :
    ∃ (x : b.Answer) (k₁ : Sink), k₁.limit = k.limit ∧ k₁.refusesFlush = k.refusesFlush ∧
      (k.limit = none → k.refusesFlush = false → b.refusal? x = none) ∧
      ∀ t s es k', k₁.Answers es k' → k.Answers (⟨t, b, x, s⟩ :: es) k' := by
  obtain ⟨text, rfl⟩ | rfl := Action.eq_of_isOutput hout
  · refine ⟨(k.write text).2, (k.write text).1, rfl, rfl, fun hlimit _ => ?_,
      fun t s es k' h => .write t text s h⟩
    rw [write_eq_deliver, deliver_unlimited hlimit]
    rfl
  · refine ⟨k.flush, k, rfl, rfl, fun _ hflush => ?_, fun t s es k' h => .flush t s h⟩
    rw [Sink.flush, hflush]
    rfl

/-- A sink that takes everything can answer events of which none was refused. -/
lemma exists_answers {k : Sink} {es : List Event} (hlimit : k.limit = none)
    (hflush : k.refusesFlush = false)
    (haccepted : ∀ e ∈ es, e.action.refusal? e.answer = none) : ∃ k', k.Answers es k' := by
  induction es generalizing k with
  | nil => exact ⟨k, .nil k⟩
  | cons e es ih =>
      obtain ⟨he, hes⟩ := List.forall_mem_cons.mp haccepted
      obtain ⟨t, a, x, s⟩ := e
      cases hout : a.isOutput with
      | false =>
          obtain ⟨k', hk⟩ := ih hlimit hflush hes
          exact ⟨k', .aloof hout hk⟩
      | true =>
          obtain ⟨x', k₁, hlimit₁, hflush₁, haccepts, hanswers⟩ := exists_answer hout k
          obtain rfl : x = x' := Action.eq_of_accepted hout he (haccepts hlimit hflush)
          obtain ⟨k', hk⟩ := ih (hlimit₁.trans hlimit) (hflush₁.trans hflush) hes
          exact ⟨k', hanswers t s es k' hk⟩

end Sink

end ExternalCompiler
