/-
What reports on times and installs say is what the counters hold:

* `readFixed`, `readCounters`: the number that a text with a fixed count of decimal places shows,
  and the three counters that a line about installs shows;
* `readFixed_secondsText`, `readCounters_text`: both are read back;
* `Duration.roundsTo_seconds`, `seconds_mono`: the seconds as a floating-point number are rounded
  twice, and more nanoseconds never make fewer seconds;
* `ShowsTime`: what the text of a time has to show; `times_shown`: it does so for every timer.
-/
import ExternalCompiler.Number.Word
import ExternalCompiler.Proofs.Number.Binary64
import ExternalCompiler.Statistics

namespace ExternalCompiler

/-! ### Reading -/

/-- The number that a text with a fixed count of decimal places shows, in units of its last place:
blanks, a whole number, a point and the decimals. -/
def readFixed (places : ℕ) (text : List Char) : Option ℕ :=
  let body := text.dropWhile (· == ' ')
  match body.dropWhile Char.isDigit with
  | '.' :: decimals => do
      let whole ← natural? (body.takeWhile Char.isDigit)
      let fraction ← natural? decimals
      if decimals.length = places then some (whole * 10 ^ places + fraction) else none
  | _ => none

/-- The number behind a label, and the text that follows it. -/
def numberBehind (label text : List Char) : Option (ℕ × List Char) :=
  if label.isPrefixOf text then
    let rest := text.drop label.length
    (natural? (rest.takeWhile Char.isDigit)).map fun n => (n, rest.dropWhile Char.isDigit)
  else none

/-- The counters that a line about installs shows: the installs, their blob sizes and their code
sizes. -/
def readCounters (line : List Char) : Option (ℕ × ℕ × ℕ) := do
  let (installs, rest) ← numberBehind "(installs: ".toList (line.dropWhile (· != '('))
  let (blobBytes, rest) ← numberBehind ", CodeBlob total size: ".toList rest
  let (codeBytes, rest) ← numberBehind ", CodeBlob code size: ".toList rest
  if rest = [')'] then some (installs, blobBytes, codeBytes) else none

/-! ### Digits -/

section Digits

variable {ds rest : List Char} {c : Char} {n k : ℕ}

lemma isDigit_of_mem_toDigits (hc : c ∈ Nat.toDigits 10 n) : c.isDigit = true :=
  Nat.isDigit_of_mem_toDigits (by decide) (by decide) hc

lemma takeWhile_isDigit (hds : ∀ c ∈ ds, c.isDigit = true) (hc : c.isDigit = false) :
    (ds ++ c :: rest).takeWhile Char.isDigit = ds := by
  rw [List.takeWhile_append_of_pos hds, List.takeWhile_cons_of_neg (by simp [hc]), List.append_nil]

lemma dropWhile_isDigit (hds : ∀ c ∈ ds, c.isDigit = true) (hc : c.isDigit = false) :
    (ds ++ c :: rest).dropWhile Char.isDigit = c :: rest := by
  rw [List.dropWhile_append_of_pos hds, List.dropWhile_cons_of_neg (by simp [hc])]

/-- Zeros in front do not change what digits stand for. -/
lemma natural?_zeros_toDigits (k n : ℕ) :
    natural? (List.replicate k '0' ++ Nat.toDigits 10 n) = some n := by
  have hdigits : ∀ c ∈ List.replicate k '0' ++ Nat.toDigits 10 n, c.isDigit = true := by
    intro c hc
    rcases List.mem_append.mp hc with hc | hc
    · rw [List.eq_of_mem_replicate hc]
      rfl
    · exact isDigit_of_mem_toDigits hc
  have hzeros : ∀ k, (List.replicate k '0').foldl
      (fun n d => 10 * n + (d.toNat - '0'.toNat)) 0 = 0 := by
    intro k
    induction k with
    | zero => rfl
    | succ k ih => exact ih
  have hvalue : (Nat.toDigits 10 n).foldl (fun n d => 10 * n + (d.toNat - '0'.toNat)) 0 = n :=
    Nat.ofDigitChars_ten_toDigits
  have hgood : ¬ ((List.replicate k '0' ++ Nat.toDigits 10 n).isEmpty ||
      !(List.replicate k '0' ++ Nat.toDigits 10 n).all Char.isDigit) = true := by
    rw [List.all_eq_true.mpr hdigits]
    simp [Nat.toDigits_ne_nil]
  rw [natural?, if_neg hgood, List.foldl_append, hzeros, hvalue]

lemma natural?_toDigits (n : ℕ) : natural? (Nat.toDigits 10 n) = some n :=
  natural?_zeros_toDigits 0 n

lemma numberBehind_append (label : List Char) (n : ℕ) (hc : c.isDigit = false) :
    numberBehind label (label ++ (Nat.toDigits 10 n ++ c :: rest)) = some (n, c :: rest) := by
  have hdigits : ∀ c ∈ Nat.toDigits 10 n, c.isDigit = true := fun _ => isDigit_of_mem_toDigits
  rw [numberBehind, if_pos (List.isPrefixOf_iff_prefix.mpr (List.prefix_append _ _)),
    List.drop_left]
  dsimp only
  rw [takeWhile_isDigit hdigits hc, dropWhile_isDigit hdigits hc, natural?_toDigits,
    Option.map_some]

end Digits

/-! ### Texts -/

namespace Binary64

/-- The decimals of a number, with zeros in front. -/
def decimals (b : Binary64) (places : ℕ) : List Char :=
  let digits := Nat.toDigits 10 (b.inUnits places % 10 ^ places)
  List.replicate (places - digits.length) '0' ++ digits

lemma toList_fixed (b : Binary64) (places : ℕ) :
    (b.fixed places).toList =
      Nat.toDigits 10 (b.inUnits places / 10 ^ places) ++ '.' :: b.decimals places := by
  simp [fixed, decimals, ← String.length_toList]

lemma length_decimals (b : Binary64) {places : ℕ} (h : 0 < places) :
    (b.decimals places).length = places := by
  have hlt : b.inUnits places % 10 ^ places < 10 ^ places := Nat.mod_lt _ (by positivity)
  have hle := (Nat.length_toDigits_le_iff (b := 10) (by decide) h).mpr hlt
  rw [decimals, List.length_append, List.length_replicate]
  omega

lemma isDigit_of_mem_decimals {b : Binary64} {places : ℕ} {c : Char}
    (hc : c ∈ b.decimals places) : c.isDigit = true := by
  rcases List.mem_append.mp hc with hc | hc
  · rw [List.eq_of_mem_replicate hc]
    rfl
  · exact isDigit_of_mem_toDigits hc

/-- The characters of a number with its decimals. -/
lemma mem_fixed {b : Binary64} {places : ℕ} {c : Char} (hc : c ∈ (b.fixed places).toList) :
    c = '.' ∨ c.isDigit = true := by
  rw [toList_fixed, List.mem_append, List.mem_cons] at hc
  rcases hc with hc | hc | hc
  · exact .inr (isDigit_of_mem_toDigits hc)
  · exact .inl hc
  · exact .inr (isDigit_of_mem_decimals hc)

/-- A number with its decimals is read back, whatever blanks are in front. -/
lemma readFixed_fixed (b : Binary64) {places : ℕ} (h : 0 < places) (blanks : ℕ) :
    readFixed places (List.replicate blanks ' ' ++ (b.fixed places).toList) =
      some (b.inUnits places) := by
  have hdigits : ∀ c ∈ Nat.toDigits 10 (b.inUnits places / 10 ^ places), c.isDigit = true :=
    fun _ => isDigit_of_mem_toDigits
  have hbody : (List.replicate blanks ' ' ++ (b.fixed places).toList).dropWhile (· == ' ') =
      (b.fixed places).toList := by
    obtain ⟨c, cs, hcons⟩ := List.exists_cons_of_ne_nil
      (Nat.toDigits_ne_nil (n := b.inUnits places / 10 ^ places) (b := 10))
    have hc : c ≠ ' ' := by
      rintro rfl
      cases hdigits ' ' (by simp [hcons])
    rw [List.dropWhile_append_of_pos fun c hc => by simp [List.eq_of_mem_replicate hc],
      toList_fixed, hcons, List.cons_append, List.dropWhile_cons_of_neg (by simp [hc])]
  have hfraction : natural? (b.decimals places) = some (b.inUnits places % 10 ^ places) :=
    natural?_zeros_toDigits _ _
  rw [readFixed, hbody, toList_fixed, takeWhile_isDigit hdigits rfl, dropWhile_isDigit hdigits rfl]
  simp only [natural?_toDigits, hfraction, length_decimals b h, if_true, Option.bind_eq_bind,
    Option.bind_some, Nat.div_add_mod']

end Binary64

/-- A text is padded with blanks on its left. -/
lemma toList_padLeft (width : ℕ) (text : String) :
    (padLeft width text).toList =
      List.replicate (width - text.length) ' ' ++ text.toList := by
  simp [padLeft]

lemma length_padLeft (width : ℕ) (text : String) :
    (padLeft width text).length = max width text.length := by
  rw [← String.length_toList, toList_padLeft, List.length_append, List.length_replicate,
    String.length_toList]
  omega

namespace Duration

variable {d : Duration} {c : Char}

lemma mem_secondsText (hc : c ∈ d.secondsText.toList) : c = ' ' ∨ c = '.' ∨ c.isDigit = true := by
  rw [secondsText, toList_padLeft] at hc
  rcases List.mem_append.mp hc with hc | hc
  · exact .inl (List.eq_of_mem_replicate hc)
  · exact .inr (Binary64.mem_fixed hc)

/-- The seconds of a report are read back. -/
lemma readFixed_secondsText (d : Duration) :
    readFixed 3 d.secondsText.toList = some (d.seconds.inUnits 3) := by
  rw [secondsText, toList_padLeft]
  exact Binary64.readFixed_fixed _ (by decide) _

end Duration

/-- The counters of a line about installs are read back. -/
lemma readCounters_text (s : InstallSnapshot) :
    readCounters s.text.toList =
      some (s.installs.toNat, s.blobBytes.toNat, s.codeBytes.toNat) := by
  have hline : s.text.toList = (s.elapsed.secondsText.toList ++ " s ".toList) ++
      ("(installs: ".toList ++ (Nat.toDigits 10 s.installs.toNat ++
        ',' :: (" CodeBlob total size: ".toList ++ (Nat.toDigits 10 s.blobBytes.toNat ++
          ',' :: (" CodeBlob code size: ".toList ++
            (Nat.toDigits 10 s.codeBytes.toNat ++ [')'])))))) := by
    simp [InstallSnapshot.text, InstallSnapshot.pieces]
  have htime : ∀ c ∈ s.elapsed.secondsText.toList ++ " s ".toList, (c != '(') = true := by
    intro c hc
    rw [bne_iff_ne]
    rintro rfl
    rcases List.mem_append.mp hc with hc | hc
    · rcases Duration.mem_secondsText hc with h | h | h <;> cases h
    · exact absurd hc (by decide)
  have hopen : ∀ rest, ("(installs: ".toList ++ rest).dropWhile (· != '(') =
      "(installs: ".toList ++ rest := fun _ => rfl
  have hblob : ∀ n rest, numberBehind ", CodeBlob total size: ".toList
      (',' :: (" CodeBlob total size: ".toList ++ (Nat.toDigits 10 n ++ ',' :: rest))) =
        some (n, ',' :: rest) := fun _ _ => numberBehind_append _ _ rfl
  have hcode : ∀ n rest, numberBehind ", CodeBlob code size: ".toList
      (',' :: (" CodeBlob code size: ".toList ++ (Nat.toDigits 10 n ++ ')' :: rest))) =
        some (n, ')' :: rest) := fun _ _ => numberBehind_append _ _ rfl
  rw [readCounters, hline, List.dropWhile_append_of_pos htime, hopen]
  simp only [numberBehind_append _ _ (c := ',') rfl, hblob, hcode, Option.bind_eq_bind,
    Option.bind_some, if_true]

/-! ### Seconds -/

lemma Binary64.nearestEven_inUnits (b : Binary64) (places : ℕ) :
    NearestEven (b.value * 10 ^ places) (b.inUnits places) := by
  have h := Ratio.nearestEven_round (Ratio.den_scaleTen_ne_zero b.den_ratio_ne_zero places)
  rwa [Ratio.value_scaleTen, Binary64.value_ratio, zpow_natCast] at h

namespace Duration

variable {d : Duration} {t t' : ℕ}

/-- The part below one second, rounded. -/
def fraction (d : Duration) : Binary64 :=
  Binary64.quotient d.nanos nanosPerSecond

lemma roundsTo_fraction (d : Duration) :
    Binary64.RoundsTo (d.nanos / nanosPerSecond) d.fraction :=
  Binary64.roundsTo_quotient _ (by decide)

lemma fraction_le_one (h : d.nanos ≤ nanosPerSecond) : d.fraction.value ≤ 1 := by
  have hone := (Binary64.roundsTo_ofNat 1).natCast (by decide)
  have hle : ((d.nanos : ℚ) / nanosPerSecond) ≤ (1 : ℕ) := by
    rw [Nat.cast_one, div_le_one (by norm_num [nanosPerSecond])]
    exact_mod_cast h
  have hmono := d.roundsTo_fraction.mono (Binary64.roundsTo_ofNat 1) hle
  rwa [hone, Nat.cast_one] at hmono

/-- The sum of the whole seconds and the rounded fraction is rounded once more. -/
lemma roundsTo_seconds (h : d.secs < 2 * Binary64.leadingBit) :
    Binary64.RoundsTo (d.secs + d.fraction.value) d.seconds := by
  have hsum := Binary64.roundsTo_add (Binary64.ofNat d.secs) d.fraction
  rwa [(Binary64.roundsTo_ofNat d.secs).natCast h] at hsum

lemma nanos_ofNanos_lt (t : ℕ) : (ofNanos t).nanos < nanosPerSecond :=
  Nat.mod_lt _ (by decide)

lemma nanos_div_lt_one (t : ℕ) : ((ofNanos t).nanos : ℚ) / nanosPerSecond < 1 := by
  rw [div_lt_one (by norm_num [nanosPerSecond])]
  exact_mod_cast nanos_ofNanos_lt t

/-- More nanoseconds never make fewer seconds: a second that is full counts at least as much as
any fraction of the second before it. -/
lemma seconds_mono (h : t ≤ t') (ht' : t' / nanosPerSecond < 2 * Binary64.leadingBit) :
    (ofNanos t).seconds.value ≤ (ofNanos t').seconds.value := by
  have hsecs : (ofNanos t).secs ≤ (ofNanos t').secs := Nat.div_le_div_right h
  refine (roundsTo_seconds (lt_of_le_of_lt hsecs ht')).mono (roundsTo_seconds ht') ?_
  rcases hsecs.eq_or_lt with heq | hlt
  · have hnanos : (ofNanos t).nanos ≤ (ofNanos t').nanos := by
      have hsplit := Nat.div_add_mod t nanosPerSecond
      have hsplit' := Nat.div_add_mod t' nanosPerSecond
      simp only [ofNanos] at heq ⊢
      rw [heq] at hsplit
      omega
    have hfraction := (roundsTo_fraction (ofNanos t)).mono (roundsTo_fraction (ofNanos t'))
      (div_le_div_of_nonneg_right (by exact_mod_cast hnanos) (Nat.cast_nonneg _))
    rw [heq]
    linarith
  · have hfull : ((ofNanos t).secs : ℚ) + 1 ≤ (ofNanos t').secs := by exact_mod_cast hlt
    have hone := fraction_le_one (nanos_ofNanos_lt t).le
    have hnonneg := (ofNanos t').fraction.value_nonneg
    linarith

/-- A timer holds fewer than `2 ^ 35` seconds. -/
lemma secs_ofNanos_lt (ht : t < UInt64.size) : (ofNanos t).secs + 1 < 2 ^ 35 := by
  have hdiv : t / nanosPerSecond ≤ UInt64.size / nanosPerSecond := Nat.div_le_div_right ht.le
  exact lt_of_le_of_lt (Nat.succ_le_succ hdiv) (by decide)

/-- The seconds of a timer are off by the two roundings: half of `2 ^ (-18)` for the sum, which is
below `2 ^ 35`, and half of `2 ^ (-53)` for the fraction, which is below one. -/
lemma abs_seconds_sub_lt (ht : t < UInt64.size) :
    |(ofNanos t).seconds.value - t / nanosPerSecond| < 1 / 100000 := by
  have hsecs : ((ofNanos t).secs : ℚ) + 1 < 2 ^ 35 := by exact_mod_cast secs_ofNanos_lt ht
  have hsum : |(ofNanos t).seconds.value - ((ofNanos t).secs + (ofNanos t).fraction.value)| ≤
      2 ^ (-18 : ℤ) / 2 := by
    refine (roundsTo_seconds ?_).abs_sub_le ?_ (by decide)
    · exact lt_trans (Nat.lt_of_succ_lt (secs_ofNanos_lt ht)) (by decide)
    · have hone := fraction_le_one (nanos_ofNanos_lt t).le
      norm_num [Binary64.leadingBit] at hsecs ⊢
      linarith
  have hfraction : |(ofNanos t).fraction.value - (ofNanos t).nanos / nanosPerSecond| ≤
      2 ^ (-53 : ℤ) / 2 := by
    refine (roundsTo_fraction _).abs_sub_le ?_ (by decide)
    norm_num [Binary64.leadingBit]
    exact nanos_div_lt_one t
  have hsplit : (t : ℚ) / nanosPerSecond =
      (ofNanos t).secs + (ofNanos t).nanos / nanosPerSecond := by
    have hmod : (nanosPerSecond * (ofNanos t).secs + (ofNanos t).nanos : ℚ) = t := by
      exact_mod_cast Nat.div_add_mod t nanosPerSecond
    rw [← hmod, add_div, mul_div_cancel_left₀ _ (by norm_num [nanosPerSecond])]
  rw [abs_le] at hsum hfraction
  rw [hsplit, abs_lt]
  norm_num at hsum hfraction
  constructor <;> linarith

end Duration

/-! ### What is shown -/

/-- The text of `t` nanoseconds shows `n` thousandths of a second, and that is what it has to show:
the fraction of a second and its sum with the whole seconds are the nearest numbers of the
floating-point format, the decimals are those of the exact value of the sum, all of it is off by
hardly more than half a thousandth, whole milliseconds are shown as they are, and there is nothing
but blanks in front. -/
structure ShowsTime (t : ℕ) (text : String) (n : ℕ) : Prop where
  reads : readFixed 3 text.toList = some n
  rounded : ∃ fraction seconds : Binary64,
    fraction.Nearest ((t % nanosPerSecond : ℕ) / nanosPerSecond) ∧
    seconds.Nearest ((t / nanosPerSecond : ℕ) + fraction.value) ∧
    NearestEven (seconds.value * 10 ^ 3) n
  close : |(n : ℚ) / 1000 - t / nanosPerSecond| < 51 / 100000
  exact : ∀ m, t = m * 1000000 → n = m
  width : 7 ≤ text.length
  padded : ∃ blanks body, text.toList = List.replicate blanks ' ' ++ body ∧ ' ' ∉ body ∧
    (0 < blanks → text.length = 7)

/-- A number of the format has no overflow below `2 ^ 52`. -/
lemma Binary64.RoundsTo.nearest_of_lt {x : ℚ} {b : Binary64} (hb : Binary64.RoundsTo x b)
    (hx : x < Binary64.leadingBit) : Binary64.Nearest x b := by
  refine hb.nearest (lt_of_lt_of_le hx ?_)
  exact le_mul_of_one_le_right Binary64.leadingBit_pos.le (one_le_zpow₀ one_le_two (by decide))

namespace Duration

variable {t n : ℕ}

/-- The thousandths of a report on a timer. -/
lemma abs_thousandths_sub_lt (ht : t < UInt64.size)
    (hn : NearestEven ((ofNanos t).seconds.value * 10 ^ 3) n) :
    |(n : ℚ) / 1000 - t / nanosPerSecond| < 51 / 100000 := by
  have hseconds := abs_lt.mp (abs_seconds_sub_lt ht)
  have hnear := abs_le.mp hn.near
  rw [abs_lt]
  constructor <;> linarith

/-- Whole milliseconds are the nearest thousandths. -/
lemma eq_of_abs_thousandths_sub_lt {m : ℕ} (ht : t = m * 1000000)
    (hn : |(n : ℚ) / 1000 - t / nanosPerSecond| < 51 / 100000) : n = m := by
  have hmillis : (t : ℚ) / nanosPerSecond = m / 1000 := by
    rw [ht, nanosPerSecond]
    push_cast
    ring
  rw [hmillis, abs_lt] at hn
  have hlow : (n : ℤ) < m + 1 := by
    have : (n : ℚ) < m + 1 := by linarith
    exact_mod_cast this
  have hhigh : (m : ℤ) < n + 1 := by
    have : (m : ℚ) < n + 1 := by linarith
    exact_mod_cast this
  omega

/-- A report on a timer shows the time. -/
lemma showsTime (ht : t < UInt64.size) :
    ShowsTime t (ofNanos t).secondsText ((ofNanos t).seconds.inUnits 3) where
  reads := readFixed_secondsText _
  rounded := by
    have hsecs := secs_ofNanos_lt ht
    have hbit : 2 ^ 35 < Binary64.leadingBit := by decide
    have hsmall : (ofNanos t).secs < 2 * Binary64.leadingBit := by omega
    have hone := fraction_le_one (nanos_ofNanos_lt t).le
    refine ⟨(ofNanos t).fraction, (ofNanos t).seconds,
      (roundsTo_fraction (ofNanos t)).nearest_of_lt ?_,
      (roundsTo_seconds hsmall).nearest_of_lt ?_, Binary64.nearestEven_inUnits _ _⟩
    · exact lt_trans (nanos_div_lt_one t) (by norm_num [Binary64.leadingBit])
    · have hsecs' : ((ofNanos t).secs : ℚ) + 1 < Binary64.leadingBit := by
        exact_mod_cast hsecs.trans hbit
      linarith
  close := abs_thousandths_sub_lt ht (Binary64.nearestEven_inUnits _ _)
  exact m hm :=
    eq_of_abs_thousandths_sub_lt hm (abs_thousandths_sub_lt ht (Binary64.nearestEven_inUnits _ _))
  width := by
    rw [secondsText, length_padLeft]
    exact le_max_left _ _
  padded := by
    refine ⟨_, _, toList_padLeft _ _, fun hmem => ?_, fun hpadded => ?_⟩
    · rcases Binary64.mem_fixed hmem with h | h <;> cases h
    · rw [secondsText, length_padLeft]
      omega

end Duration

/-- **Reports on times and installs are faithful.** Every timer is shown as a number of thousandths
that its text lets read back, at most `0.00051` seconds off, exact for whole milliseconds and padded
on the left only; a timer that grew never shows less. The three counters of a line about installs
are read back, so lines that are equal come from equal counters. -/
theorem times_shown :
    (∃ shown : UInt64 → ℕ,
      (∀ t, ShowsTime t.toNat (Duration.ofNanos t.toNat).secondsText (shown t)) ∧
      ∀ t t', t ≤ t' → shown t ≤ shown t') ∧
    (∀ s : InstallSnapshot, readCounters s.text.toList =
      some (s.installs.toNat, s.blobBytes.toNat, s.codeBytes.toNat)) ∧
    ∀ s s' : InstallSnapshot, s.text = s'.text →
      s.installs = s'.installs ∧ s.blobBytes = s'.blobBytes ∧ s.codeBytes = s'.codeBytes := by
  refine ⟨⟨fun t => (Duration.ofNanos t.toNat).seconds.inUnits 3,
    fun t => Duration.showsTime t.toNat_lt, fun t t' h => ?_⟩, readCounters_text, fun s s' h => ?_⟩
  · have hsecs := Duration.secs_ofNanos_lt t'.toNat_lt
    have hseconds := Duration.seconds_mono (UInt64.le_iff_toNat_le.mp h)
      (lt_trans (Nat.lt_of_succ_lt hsecs) (by decide))
    refine (Binary64.nearestEven_inUnits _ 3).mono (Binary64.nearestEven_inUnits _ 3) ?_
    exact mul_le_mul_of_nonneg_right hseconds (by norm_num)
  · have hread := readCounters_text s
    rw [h, readCounters_text s'] at hread
    simp only [Option.some.injEq, Prod.mk.injEq, UInt64.toNat_inj] at hread
    exact ⟨hread.1.symm, hread.2.1.symm, hread.2.2.symm⟩

/-- An install of one blob, after so many nanoseconds. -/
def smallInstall (t : ℕ) : InstallSnapshot where
  installs := 1
  blobBytes := 100
  codeBytes := 40
  elapsed := .ofNanos t

/-- A timer that is half a microsecond short of a second shows no more than the second, which is
shown as it is; and a nanosecond does not change the line about an install. -/
theorem times_shown_second :
    (∃ n, readFixed 3 (Duration.ofNanos 999999500).secondsText.toList = some n ∧ n ≤ 1000) ∧
      readFixed 3 (Duration.ofNanos 1000000000).secondsText.toList = some 1000 ∧
      (smallInstall 1500000000).text = (smallInstall 1500000001).text ∧
      (smallInstall 1500000000).installs = (smallInstall 1500000001).installs := by
  have hsame : (smallInstall 1500000000).text = (smallInstall 1500000001).text := by
    decide +kernel
  obtain ⟨⟨shown, hshows, hmono⟩, -, hcounters⟩ := times_shown
  have hsecond : shown 1000000000 = 1000 := (hshows 1000000000).exact 1000 (by decide)
  have hgrown : shown 999999500 ≤ shown 1000000000 := hmono _ _ (by decide)
  refine ⟨⟨_, (hshows 999999500).reads, hsecond ▸ hgrown⟩, ?_, hsame, (hcounters _ _ hsame).1⟩
  rw [← hsecond]
  exact (hshows 1000000000).reads

end ExternalCompiler
