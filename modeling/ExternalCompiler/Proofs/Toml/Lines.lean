/-
Documents that are lists of lines, each of which gives a key without quotes a value:

* `Line`: such a line, and when it is well formed;
* `keyPath_bare`, `Line.WellFormed.keyValue`: how its key and its value are read;
* `Line.WellFormed.lines`: a line adds its key to the document;
* `document_lines`: the document of well-formed lines with distinct keys has these keys, in order.
-/
import ExternalCompiler.Proofs.Toml.Scalar

namespace ExternalCompiler.Toml

/-! ### Lines -/

/-- A line that gives a key a value. -/
structure Line where
  key : String
  value : Scalar
deriving DecidableEq

namespace Line

/-- How a line is written. -/
def text (l : Line) : String :=
  keyLine l.key l.value.text

/-- What a line adds to a document. -/
def entry (l : Line) : String × Node :=
  (l.key, l.value.node)

/-- The key needs no quotes, and the value is written as it is. -/
structure WellFormed (l : Line) : Prop where
  nonempty : l.key ≠ ""
  bare : ∀ c ∈ l.key.toList, isBare c = true
  plain : l.value.IsPlain

instance : DecidablePred WellFormed := fun l =>
  decidable_of_iff (l.key ≠ "" ∧ l.key.toList.all isBare = true ∧ l.value.IsPlain)
    ⟨fun ⟨hne, hbare, hplain⟩ => ⟨hne, List.all_eq_true.mp hbare, hplain⟩,
      fun h => ⟨h.nonempty, List.all_eq_true.mpr h.bare, h.plain⟩⟩

lemma toList_text (l : Line) : l.text.toList =
    l.key.toList ++ ' ' :: '=' :: ' ' :: (l.value.text.toList ++ ['\n']) := by
  simp [text, keyLine]

end Line

/-! ### Keys -/

section Keys

variable {key rest : List Char}

lemma skipBlanks_cons {c : Char} (h : isBlank c = false) : skipBlanks (c :: rest) = c :: rest :=
  List.dropWhile_cons_of_neg (by simp [h])

/-- A key without quotes is read up to the next blank. -/
lemma simpleKey_bare (hne : key ≠ []) (h : ∀ c ∈ key, isBare c = true) :
    simpleKey (key ++ ' ' :: rest) = some (String.ofList key, ' ' :: rest) := by
  have htake : (key ++ ' ' :: rest).takeWhile isBare = key := by
    rw [List.takeWhile_append_of_pos h]
    simp [isBare]
  have hdrop : (key ++ ' ' :: rest).dropWhile isBare = ' ' :: rest := by
    rw [List.dropWhile_append_of_pos h]
    rfl
  obtain ⟨c, key, rfl⟩ := List.exists_cons_of_ne_nil hne
  have hc : isBare c = true := h c (by simp)
  rw [simpleKey.eq_def]
  split
  next heq =>
    obtain ⟨rfl, -⟩ := List.cons_eq_cons.mp heq
    cases hc
  next heq =>
    obtain ⟨rfl, -⟩ := List.cons_eq_cons.mp heq
    cases hc
  next =>
    rw [htake, hdrop]
    rfl

/-- One key is read up to the equals sign. -/
lemma keyPath_bare (hne : key ≠ []) (h : ∀ c ∈ key, isBare c = true) :
    keyPath (key ++ ' ' :: '=' :: rest) = some ([String.ofList key], '=' :: rest) := by
  have hstart : skipBlanks (key ++ ' ' :: '=' :: rest) = key ++ ' ' :: '=' :: rest := by
    obtain ⟨c, key, rfl⟩ := List.exists_cons_of_ne_nil hne
    exact skipBlanks_cons (isBlank_of_isBare (h c (by simp)))
  have hsteps : keyPathLimit - 1 = 78 + 1 := rfl
  rw [keyPath, hsteps, keysUpTo, hstart, simpleKey_bare hne h]
  rfl

end Keys

/-! ### Lines of a document -/

namespace Line

variable {l : Line} {ls : List Line}

/-- No line starts with a blank, a line end, a comment or a header. -/
lemma WellFormed.exists_text (hl : l.WellFormed) (rest : List Char) :
    ∃ c cs, l.text.toList ++ rest = c :: cs ∧ isBare c = true := by
  have hne : l.key.toList ≠ [] := by simpa using hl.nonempty
  obtain ⟨c, key, hkey⟩ := List.exists_cons_of_ne_nil hne
  have htext := congrArg (· ++ rest) l.toList_text
  simp only [hkey, List.cons_append] at htext
  exact ⟨c, _, htext, hl.bare c (by simp [hkey])⟩

/-- A line is read up to its end. -/
lemma WellFormed.keyValue (hl : l.WellFormed) (rest : List Char) :
    Toml.keyValue Toml.value (l.text.toList ++ rest) =
      some (([l.key], l.value.node), '\n' :: rest) := by
  have htext : l.text.toList ++ rest =
      l.key.toList ++ ' ' :: '=' :: ' ' :: (l.value.text.toList ++ '\n' :: rest) := by
    simp [toList_text]
  have hne : l.key.toList ≠ [] := by simpa using hl.nonempty
  have hblank : skipBlanks (' ' :: (l.value.text.toList ++ '\n' :: rest)) =
      l.value.text.toList ++ '\n' :: rest := by
    obtain ⟨c, cs, hvalue, hc⟩ := l.value.exists_text
    rw [hvalue, List.cons_append]
    exact skipBlanks_cons hc
  rw [htext, Toml.keyValue, keyPath_bare hne hl.bare]
  simp only [Option.bind_eq_bind, Option.bind_some, expect, if_true, hblank,
    Scalar.value_text hl.plain, String.ofList_toList]
  rfl

/-- A key that is new is added at the end. -/
lemma addKey_entry {d : Draft} (hnew : (d.current.value? l.key) = none) :
    d.addKey ([l.key], l.value.node) = some { d with current := d.current ++ [l.entry] } := by
  simp [Draft.addKey, addMember, addKey, alterAt, hnew, entry]

/-- **A line adds its key to the document.** -/
lemma WellFormed.lines {d : Draft} (hl : l.WellFormed) (hnew : d.current.value? l.key = none)
    (n : Nat) (rest : List Char) :
    Toml.lines (n + 1) d (l.text.toList ++ rest) =
      Toml.lines n { d with current := d.current ++ [l.entry] } rest := by
  obtain ⟨c, cs, htext, hc⟩ := hl.exists_text rest
  have hkey := hl.keyValue rest
  rw [htext] at hkey ⊢
  have hstart : skipBlanks (c :: cs) = c :: cs := skipBlanks_cons (isBlank_of_isBare hc)
  have hne : ∀ x cs', isBare x = false → c :: cs ≠ x :: cs' := by
    rintro x cs' hx heq
    obtain ⟨rfl, -⟩ := List.cons_eq_cons.mp heq
    simp [hc] at hx
  rw [Toml.lines, hstart]
  split
  next heq => cases heq
  next heq => exact absurd heq (hne _ _ rfl)
  next heq => exact absurd heq (hne _ _ rfl)
  next heq => exact absurd heq (hne _ _ rfl)
  next heq => exact absurd heq (hne _ _ rfl)
  next heq => exact absurd heq (hne _ _ rfl)
  next =>
    rw [hkey]
    simp only [Option.bind_eq_bind, Option.bind_some, addKey_entry hnew]
    rfl

/-- Lines with distinct keys add them all, in order. -/
lemma lines_texts (hls : ∀ l ∈ ls, l.WellFormed) (hkeys : (ls.map (·.key)).Nodup) {d : Draft}
    (hnew : ∀ l ∈ ls, d.current.value? l.key = none) {n : Nat} (hn : ls.length < n) :
    Toml.lines n d (ls.flatMap (·.text.toList)) =
      some { d with current := d.current ++ ls.map entry } := by
  induction ls generalizing d n with
  | nil =>
      obtain ⟨n, rfl⟩ := Nat.exists_eq_add_one_of_ne_zero (Nat.ne_of_gt hn)
      simp [Toml.lines, skipBlanks]
  | cons l ls ih =>
      obtain ⟨hl, hls⟩ := List.forall_mem_cons.mp hls
      obtain ⟨hnewl, hnewls⟩ := List.forall_mem_cons.mp hnew
      obtain ⟨hother, hkeys⟩ := List.nodup_cons.mp hkeys
      obtain ⟨n, rfl⟩ := Nat.exists_eq_add_one_of_ne_zero (Nat.ne_of_gt (Nat.zero_lt_of_lt hn))
      rw [List.flatMap_cons, hl.lines hnewl, ih hls hkeys ?_ (Nat.lt_of_succ_lt_succ hn)]
      · simp
      · intro l' hl'
        have hkey : l'.key ≠ l.key := by
          rintro heq
          exact hother (List.mem_map.mpr ⟨l', hl', heq⟩)
        have hnone : d.current.lookup l'.key = none := hnewls l' hl'
        have hbeq : (l'.key == l.key) = false := beq_eq_false_iff_ne.mpr hkey
        simp [Entries.value?, List.lookup_append, hnone, entry, List.lookup_cons, hbeq]

/-- Every line takes space. -/
lemma length_le_texts (hls : ∀ l ∈ ls, l.WellFormed) :
    ls.length ≤ (ls.flatMap (·.text.toList)).length := by
  induction ls with
  | nil => exact Nat.le_refl 0
  | cons l ls ih =>
      obtain ⟨hl, hls⟩ := List.forall_mem_cons.mp hls
      obtain ⟨c, cs, htext, -⟩ := hl.exists_text []
      have hlength : 1 ≤ l.text.toList.length := by
        rw [List.append_nil] at htext
        simp [htext]
      have hrest := ih hls
      rw [List.flatMap_cons, List.length_append, List.length_cons]
      omega

/-- No line starts with the mark that some editors put at the start of a text. -/
lemma skipMark_texts (hls : ∀ l ∈ ls, l.WellFormed) :
    skipMark (ls.flatMap (·.text.toList)) = ls.flatMap (·.text.toList) := by
  cases ls with
  | nil => rfl
  | cons l ls =>
      obtain ⟨c, cs, htext, hc⟩ :=
        (hls l (by simp)).exists_text (ls.flatMap (·.text.toList))
      rw [List.flatMap_cons, htext, skipMark.eq_def]
      split
      next heq =>
        obtain ⟨rfl, -⟩ := List.cons_eq_cons.mp heq
        cases hc
      next => rfl

end Line

/-- **The document of well-formed lines with distinct keys has these keys, in order.** -/
theorem document_lines {ls : List Line} (hls : ∀ l ∈ ls, l.WellFormed)
    (hkeys : (ls.map (·.key)).Nodup) :
    document (String.join (ls.map Line.text)) = some (ls.map Line.entry) := by
  have htext : (String.join (ls.map Line.text)).toList = ls.flatMap (·.text.toList) := by
    simp [String.toList_join, List.flatMap_map]
  have hlines : lines ((ls.flatMap (·.text.toList)).length + 1) {} (ls.flatMap (·.text.toList)) =
      some { current := ls.map Line.entry } :=
    Line.lines_texts (d := {}) hls hkeys (fun _ _ => rfl)
      (Nat.lt_succ_of_le (Line.length_le_texts hls))
  rw [document, htext, Line.skipMark_texts hls]
  simp only [Option.bind_eq_bind, hlines, Option.bind_some]
  rfl

end ExternalCompiler.Toml
