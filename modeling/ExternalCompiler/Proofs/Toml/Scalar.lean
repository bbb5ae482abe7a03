/-
Values as they are written in a line of their own are read back:

* `Scalar`: a truth value, an integer, or a text without escapes, with its written form;
* `wholePart_toDigits`, `decimalNumber_toDigits`: the decimals of a number are read as the number;
* `moment_digits`: they are no date and no time of day;
* `basicString_plain`: a text between quotes is read up to the quote that ends it;
* `Scalar.value_text`: so each of these values is read up to the end of its line.
-/
import Mathlib.Data.List.Basic
import ExternalCompiler.Config.Written
import ExternalCompiler.Toml.Document

namespace ExternalCompiler.Toml

/-! ### Values -/

/-- A truth value, an integer, or a text. -/
inductive Scalar
  | boolean (value : Bool)
  | integer (value : Int)
  | string (text : String)
deriving DecidableEq

namespace Scalar

/-- How a value is written. -/
def text : Scalar → String
  | boolean b => boolText b
  | integer n => toString n
  | string t => "\"" ++ t ++ "\""

/-- The value as part of a document. -/
def node : Scalar → Node
  | boolean b => .boolean b
  | integer n => .integer n
  | string t => .string t

/-- Integers are signed words, and texts are written as they are. -/
def IsPlain : Scalar → Prop
  | boolean _ => True
  | integer n => Int64.minValue.toInt ≤ n ∧ n ≤ Int64.maxValue.toInt
  | string t => ∀ c ∈ t.toList, isPlain c = true ∧ c ≠ '"' ∧ c ≠ '\\'

instance : DecidablePred IsPlain
  | boolean _ => .isTrue trivial
  | integer _ => inferInstanceAs (Decidable (_ ∧ _))
  | string t => List.decidableBAll (fun c => isPlain c = true ∧ c ≠ '"' ∧ c ≠ '\\') t.toList

end Scalar

/-! ### Digits -/

section Digits

variable {c : Char} {ds rest : List Char}

/-- The value of a digit in base ten. -/
def digitOf (c : Char) : Nat :=
  c.toNat - '0'.toNat

lemma digitValue_of_isDigit (h : c.isDigit = true) : digitValue? 10 c = some (digitOf c) := by
  have hbounds : '0' ≤ c ∧ c ≤ '9' := by simpa [Char.isDigit, Char.le_def] using h
  have hlt : digitOf c < 10 := by
    have h9 : c.toNat ≤ '9'.toNat := hbounds.2
    have h0 : ('9'.toNat : Nat) = 57 := rfl
    have h48 : ('0'.toNat : Nat) = 48 := rfl
    rw [digitOf]
    omega
  rw [digitValue?, hexValue?, if_pos hbounds]
  exact Option.filter_some_pos (decide_eq_true hlt)

/-- Digits are read up to the end of the line. -/
lemma moreDigits_append (h : ∀ c ∈ ds, c.isDigit = true) :
    moreDigits 10 (ds ++ '\n' :: rest) = some (ds.map digitOf, '\n' :: rest) := by
  induction ds with
  | nil =>
      rw [List.nil_append, moreDigits]
      · rfl
      · nofun
  | cons c ds ih =>
      obtain ⟨hc, hds⟩ := List.forall_mem_cons.mp h
      have hne : c ≠ '_' := by
        rintro rfl
        cases hc
      rw [List.cons_append, moreDigits, digitValue_of_isDigit hc, ih hds]
      · rfl
      · exact fun _ _ hc' _ => hne hc'

lemma digits_append (hne : ds ≠ []) (h : ∀ c ∈ ds, c.isDigit = true) :
    digits 10 (ds ++ '\n' :: rest) = some (ds.map digitOf, '\n' :: rest) := by
  obtain ⟨c, ds, rfl⟩ := List.exists_cons_of_ne_nil hne
  obtain ⟨hc, hds⟩ := List.forall_mem_cons.mp h
  rw [List.cons_append, digits, digitValue_of_isDigit hc, moreDigits_append hds]
  rfl

/-- What a line starts with is a part of it, or goes on behind its end. -/
lemma prefix_or_mem_of_append_eq {front rest' : List Char}
    (h : ds ++ '\n' :: rest = front ++ rest') : front <+: ds ∨ '\n' ∈ front := by
  obtain ⟨m, rfl, hm⟩ | ⟨m, rfl, hm⟩ := List.append_eq_append_iff.mp h
  · cases m with
    | nil => exact .inl (by simp)
    | cons x m =>
        obtain ⟨rfl, -⟩ := List.cons_eq_cons.mp hm
        exact .inr (by simp)
  · exact .inl (List.prefix_append _ _)

/-- A date starts with four digits and a dash. -/
lemma yearDash_eq_some {cs : List Char} {year : Nat} (h : yearDash cs = some (year, rest)) :
    ∃ a b c d, cs = [a, b, c, d, '-'] ++ rest ∧
      ∀ x ∈ [a, b, c, d], (digitValue? 10 x).isSome = true := by
  rw [yearDash.eq_def] at h
  split at h
  next a b c d rest' =>
    obtain ⟨values, hvalues, hyear⟩ := Option.bind_eq_some_iff.mp h
    obtain ⟨-, rfl⟩ := Prod.mk.inj (Option.some.inj hyear)
    simp only [List.mapM_cons, List.mapM_nil, Option.bind_eq_bind, Option.bind_eq_some_iff]
      at hvalues
    obtain ⟨u, ha, _, ⟨v, hb, _, ⟨w, hc, _, ⟨x, hd, -⟩, -⟩, -⟩, -⟩ := hvalues
    exact ⟨a, b, c, d, rfl, by simp [ha, hb, hc, hd]⟩
  next => cases h

lemma expect_eq_some {x : Char} {cs : List Char} (h : expect x cs = some rest) :
    cs = x :: rest := by
  rw [expect.eq_def] at h
  split at h
  next y rest' =>
    split_ifs at h with hy
    obtain rfl := Option.some.inj h
    rw [hy]
  next => cases h

/-- A time of day starts with two digits and a colon. -/
lemma hourColon_eq_some {cs : List Char} (h : hourColon cs = some rest) :
    ∃ a b, cs = [a, b, ':'] ++ rest ∧ ∀ x ∈ [a, b], (digitValue? 10 x).isSome = true := by
  obtain ⟨⟨hour, rest'⟩, hhour, hcolon⟩ := Option.bind_eq_some_iff.mp h
  rw [twoDigits.eq_def] at hhour
  split at hhour
  next a b rest'' =>
    simp only [Option.bind_eq_bind, Option.bind_eq_some_iff] at hhour
    obtain ⟨u, ha, v, hb, hbounds⟩ := hhour
    split at hbounds
    · obtain ⟨-, rfl⟩ := Prod.mk.inj (Option.some.inj hbounds)
      obtain rfl := expect_eq_some hcolon
      exact ⟨a, b, rfl, by simp [ha, hb]⟩
    · cases hbounds
  next => cases hhour

/-- Digits are no date and no time of day. -/
lemma moment_digits (h : ∀ c ∈ ds, c.isDigit = true) : moment (ds ++ '\n' :: rest) = none := by
  have hdash : yearDash (ds ++ '\n' :: rest) = none := by
    by_contra hne
    obtain ⟨⟨year, rest'⟩, hsome⟩ := Option.ne_none_iff_exists'.mp hne
    obtain ⟨a, b, c, d, heq, hvalues⟩ := yearDash_eq_some hsome
    rcases prefix_or_mem_of_append_eq heq with hfront | hend
    · cases h '-' (hfront.subset (by simp))
    · cases hvalues '\n' (by simpa using hend)
  have hcolon : hourColon (ds ++ '\n' :: rest) = none := by
    by_contra hne
    obtain ⟨rest', hsome⟩ := Option.ne_none_iff_exists'.mp hne
    obtain ⟨a, b, heq, hvalues⟩ := hourColon_eq_some hsome
    rcases prefix_or_mem_of_append_eq heq with hfront | hend
    · cases h ':' (hfront.subset (by simp))
    · cases hvalues '\n' (by simpa using hend)
  rw [moment, hdash, hcolon]

end Digits

/-- Dates and times of day have no sign. -/
lemma moment_minus (cs : List Char) : moment ('-' :: cs) = none := by
  have hdash : yearDash ('-' :: cs) = none := by
    by_contra hne
    obtain ⟨⟨year, rest'⟩, hsome⟩ := Option.ne_none_iff_exists'.mp hne
    obtain ⟨a, b, c, d, heq, hvalues⟩ := yearDash_eq_some hsome
    obtain ⟨rfl, -⟩ := List.cons_eq_cons.mp heq
    cases hvalues '-' (by simp)
  have hcolon : hourColon ('-' :: cs) = none := by
    by_contra hne
    obtain ⟨rest', hsome⟩ := Option.ne_none_iff_exists'.mp hne
    obtain ⟨a, b, heq, hvalues⟩ := hourColon_eq_some hsome
    obtain ⟨rfl, -⟩ := List.cons_eq_cons.mp heq
    cases hvalues '-' (by simp)
  rw [moment, hdash, hcolon]

/-! ### Decimals -/

/-- Decimals do not start with a superfluous zero. -/
lemma toDigits_cons_zero {n : Nat} {ds : List Char} (h : Nat.toDigits 10 n = '0' :: ds) :
    ds = [] := by
  induction n using Nat.strongRecOn generalizing ds with
  | ind n ih =>
      rw [Nat.toDigits_eq_if (by omega)] at h
      split at h
      · exact (List.cons_eq_cons.mp h).2.symm
      next hten =>
        obtain ⟨c, tail, hhead⟩ :=
          List.exists_cons_of_ne_nil (Nat.toDigits_ne_nil (n := n / 10) (b := 10))
        rw [hhead, List.cons_append] at h
        obtain ⟨rfl, -⟩ := List.cons_eq_cons.mp h
        obtain rfl := ih (n / 10) (by omega) hhead
        have hzero : Nat.ofDigitChars 10 ['0'] 0 = n / 10 := by
          rw [← hhead, Nat.ofDigitChars_ten_toDigits]
        have hvalue : Nat.ofDigitChars 10 ['0'] 0 = 0 := by decide
        omega

lemma digitsValue_toDigits (n : Nat) :
    digitsValue 10 ((Nat.toDigits 10 n).map digitOf) = n := by
  rw [digitsValue, List.foldl_map]
  calc (Nat.toDigits 10 n).foldl (fun m c => 10 * m + digitOf c) 0
      = Nat.ofDigitChars 10 (Nat.toDigits 10 n) 0 := Nat.ofDigitChars_eq_foldl.symm
    _ = n := Nat.ofDigitChars_ten_toDigits

lemma wholePart_toDigits (n : Nat) (rest : List Char) :
    wholePart (Nat.toDigits 10 n ++ '\n' :: rest) =
      some ((Nat.toDigits 10 n).map digitOf, '\n' :: rest) := by
  have hdigits : ∀ c ∈ Nat.toDigits 10 n, c.isDigit = true :=
    fun c hc => Nat.isDigit_of_mem_toDigits (by omega) (by omega) hc
  rw [wholePart.eq_def]
  split
  next tail hcons =>
    obtain ⟨ds, hds⟩ : ∃ ds, Nat.toDigits 10 n = '0' :: ds := by
      obtain ⟨c, ds, hds⟩ := List.exists_cons_of_ne_nil (Nat.toDigits_ne_nil (n := n) (b := 10))
      rw [hds, List.cons_append] at hcons
      exact ⟨ds, by rw [hds, (List.cons_eq_cons.mp hcons).1]⟩
    obtain rfl := toDigits_cons_zero hds
    rw [hds] at hcons ⊢
    rw [← (List.cons_eq_cons.mp hcons).2]
    rfl
  next => exact digits_append Nat.toDigits_ne_nil hdigits

/-! ### Numbers -/

/-- An integer that is a signed word is read behind its sign. -/
lemma decimalNumber_toDigits (negative : Bool) {n : Nat}
    (h : Int64.minValue.toInt ≤ signed negative n ∧ signed negative n ≤ Int64.maxValue.toInt)
    (rest : List Char) :
    decimalNumber negative (Nat.toDigits 10 n ++ '\n' :: rest) =
      some (.integer (signed negative n), '\n' :: rest) := by
  have hfraction : fractionPart ('\n' :: rest) = some (none, '\n' :: rest) := rfl
  have hexponent : exponentPart ('\n' :: rest) = some (none, '\n' :: rest) := by
    rw [exponentPart, if_neg (by decide)]
  have hnode : integerNode (signed negative n) = some (.integer (signed negative n)) := if_pos h
  simp [decimalNumber, wholePart_toDigits, hfraction, hexponent, digitsValue_toDigits, hnode]

/-- Decimals start with a digit. -/
lemma exists_toDigits (n : Nat) : ∃ c cs, Nat.toDigits 10 n = c :: cs ∧ c.isDigit = true := by
  obtain ⟨c, cs, hds⟩ := List.exists_cons_of_ne_nil (Nat.toDigits_ne_nil (n := n) (b := 10))
  have hmem : c ∈ Nat.toDigits 10 n := by simp [hds]
  exact ⟨c, cs, hds, Nat.isDigit_of_mem_toDigits (by omega) (by omega) hmem⟩

/-- Behind a leading zero the line ends. -/
lemma lineEnd_of_zero {n : Nat} {x : Char} {rest rest' : List Char}
    (h : Nat.toDigits 10 n ++ '\n' :: rest = '0' :: x :: rest') : x = '\n' := by
  obtain ⟨c, ds, hds, -⟩ := exists_toDigits n
  rw [hds, List.cons_append] at h
  obtain ⟨rfl, htail⟩ := List.cons_eq_cons.mp h
  obtain rfl := toDigits_cons_zero hds
  exact (List.cons_eq_cons.mp htail).1.symm

lemma isDigit_of_toDigits {n : Nat} {x : Char} {rest rest' : List Char}
    (h : Nat.toDigits 10 n ++ rest = x :: rest') : x.isDigit = true := by
  obtain ⟨c, ds, hds, hdigit⟩ := exists_toDigits n
  rw [hds, List.cons_append] at h
  obtain ⟨rfl, -⟩ := List.cons_eq_cons.mp h
  exact hdigit

lemma sign_toDigits (n : Nat) (rest : List Char) :
    sign (Nat.toDigits 10 n ++ rest) = (false, Nat.toDigits 10 n ++ rest) := by
  rw [sign.eq_def]
  split
  next heq => cases isDigit_of_toDigits heq
  next heq => cases isDigit_of_toDigits heq
  next => rfl

lemma number_toDigits {n : Nat}
    (h : Int64.minValue.toInt ≤ (n : Int) ∧ (n : Int) ≤ Int64.maxValue.toInt) (rest : List Char) :
    number (Nat.toDigits 10 n ++ '\n' :: rest) = some (.integer n, '\n' :: rest) := by
  rw [number.eq_def]
  split
  next heq => cases lineEnd_of_zero heq
  next heq => cases lineEnd_of_zero heq
  next heq => cases lineEnd_of_zero heq
  next =>
    rw [sign_toDigits]
    split
    next heq => cases isDigit_of_toDigits (Prod.mk.inj heq).2
    next heq => cases isDigit_of_toDigits (Prod.mk.inj heq).2
    next heq =>
      obtain ⟨rfl, rfl⟩ := Prod.mk.inj heq
      exact decimalNumber_toDigits false h rest

lemma number_neg_toDigits {n : Nat}
    (h : Int64.minValue.toInt ≤ -(n : Int) ∧ -(n : Int) ≤ Int64.maxValue.toInt)
    (rest : List Char) :
    number ('-' :: (Nat.toDigits 10 n ++ '\n' :: rest)) = some (.integer (-n), '\n' :: rest) := by
  have hsign : sign ('-' :: (Nat.toDigits 10 n ++ '\n' :: rest)) =
      (true, Nat.toDigits 10 n ++ '\n' :: rest) := rfl
  rw [number.eq_def]
  split
  next heq => cases (List.cons_eq_cons.mp heq).1
  next heq => cases (List.cons_eq_cons.mp heq).1
  next heq => cases (List.cons_eq_cons.mp heq).1
  next =>
    rw [hsign]
    split
    next heq => cases isDigit_of_toDigits (Prod.mk.inj heq).2
    next heq => cases isDigit_of_toDigits (Prod.mk.inj heq).2
    next heq =>
      obtain ⟨rfl, rfl⟩ := Prod.mk.inj heq
      exact decimalNumber_toDigits true h rest

/-! ### Texts -/

/-- A text without escapes is read up to its last quote. -/
lemma basicString_plain {t : List Char} (h : ∀ c ∈ t, isPlain c = true ∧ c ≠ '"' ∧ c ≠ '\\')
    (rest : List Char) : basicString (t ++ '"' :: rest) = some (t, rest) := by
  induction t with
  | nil => simp [basicString]
  | cons c t ih =>
      obtain ⟨⟨hplain, hquote, hescape⟩, ht⟩ := List.forall_mem_cons.mp h
      rw [List.cons_append, basicString.eq_def]
      split <;> simp_all [Read.cons]

/-- A text on one line is not taken for one of several lines. -/
lemma text_plain {t : List Char} (h : ∀ c ∈ t, isPlain c = true ∧ c ≠ '"' ∧ c ≠ '\\')
    (rest : List Char) :
    text ('"' :: (t ++ '"' :: '\n' :: rest)) = some (t, '\n' :: rest) := by
  cases t with
  | nil => rfl
  | cons c t =>
      rw [List.cons_append, text, ← List.cons_append, basicString_plain h]
      intro rest' heq
      exact (h c (by simp)).2.1 (List.cons_eq_cons.mp heq).1

/-! ### Values of a line -/

/-- What starts with a digit or a minus is a number or a moment. -/
lemma value_of_number {c : Char} (h : c.isDigit = true ∨ c = '-') (cs : List Char) :
    value (c :: cs) = numberOrMoment (c :: cs) := by
  have hne : ∀ x : Char, x.isDigit = false → x ≠ '-' → c ≠ x := by
    rintro x hdigit hminus rfl
    rcases h with h | h
    · simp [h] at hdigit
    · exact hminus h
  rw [value, valueTo]
  · rw [if_neg]
    rintro (hc | hc)
    · exact hne '"' rfl (by decide) hc
    · exact hne '\'' rfl (by decide) hc
  · exact hne '[' rfl (by decide)
  · exact hne '{' rfl (by decide)
  · exact fun _ hc => absurd hc (hne 't' rfl (by decide))
  · exact fun _ hc => absurd hc (hne 'f' rfl (by decide))

lemma isBlank_of_isBare {c : Char} (h : isBare c = true) : isBlank c = false := by
  have hblank : c ≠ ' ' ∧ c ≠ '\t' := by
    constructor <;>
      · rintro rfl
        cases h
  simp [isBlank, hblank]

namespace Scalar

lemma toList_text_ofNat (n : Nat) : (integer n).text.toList = Nat.toDigits 10 n :=
  Nat.toList_repr

lemma toList_text_negSucc (n : Nat) :
    (integer (Int.negSucc n)).text.toList = '-' :: Nat.toDigits 10 (n + 1) := by
  change ("-" ++ Nat.repr (n + 1)).toList = _
  rw [String.toList_append, Nat.toList_repr]
  rfl

lemma toList_text_string (t : String) : (string t).text.toList = '"' :: (t.toList ++ ['"']) := by
  simp [text]

/-- No value starts with a blank. -/
lemma exists_text (v : Scalar) : ∃ c cs, v.text.toList = c :: cs ∧ isBlank c = false := by
  cases v with
  | boolean b => cases b <;> exact ⟨_, _, rfl, rfl⟩
  | integer n =>
      cases n with
      | ofNat n =>
          obtain ⟨c, cs, hds, hdigit⟩ := exists_toDigits n
          refine ⟨c, cs, (toList_text_ofNat n).trans hds, ?_⟩
          exact isBlank_of_isBare (by simp [isBare, Char.isAlphanum, hdigit])
      | negSucc n => exact ⟨_, _, toList_text_negSucc n, rfl⟩
  | string t => exact ⟨_, _, toList_text_string t, rfl⟩

lemma value_integer {n : Int} (hn : (integer n).IsPlain) (rest : List Char) :
    value ((integer n).text.toList ++ '\n' :: rest) = some (.integer n, '\n' :: rest) := by
  cases n with
  | ofNat n =>
      rw [Int.ofNat_eq_natCast, toList_text_ofNat]
      obtain ⟨c, cs, hds, hdigit⟩ := exists_toDigits n
      have hread : value (Nat.toDigits 10 n ++ '\n' :: rest) =
          numberOrMoment (Nat.toDigits 10 n ++ '\n' :: rest) := by
        rw [hds, List.cons_append]
        exact value_of_number (.inl hdigit) _
      have hdigits : ∀ c ∈ Nat.toDigits 10 n, c.isDigit = true :=
        fun c hc => Nat.isDigit_of_mem_toDigits (by omega) (by omega) hc
      rw [hread, numberOrMoment, moment_digits hdigits]
      exact number_toDigits hn rest
  | negSucc n =>
      rw [toList_text_negSucc, List.cons_append, value_of_number (.inr rfl), numberOrMoment,
        moment_minus]
      exact number_neg_toDigits (n := n + 1) hn rest

/-- **A value is read up to the end of its line.** -/
lemma value_text {v : Scalar} (hv : v.IsPlain) (rest : List Char) :
    value (v.text.toList ++ '\n' :: rest) = some (v.node, '\n' :: rest) := by
  cases v with
  | boolean b => cases b <;> rfl
  | integer n => exact value_integer hv rest
  | string t =>
      have hread (cs : List Char) : value ('"' :: cs) =
          (Toml.text ('"' :: cs)).map fun r => (.string (String.ofList r.1), r.2) := rfl
      rw [toList_text_string, List.cons_append, List.append_assoc, hread]
      simp only [List.cons_append, List.nil_append]
      rw [text_plain hv, Option.map_some, String.ofList_toList]
      rfl

end Scalar

end ExternalCompiler.Toml
