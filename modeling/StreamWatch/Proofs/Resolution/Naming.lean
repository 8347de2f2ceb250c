import StreamWatch.Proofs.Resolution
import StreamWatch.Unchecked

namespace StreamWatch

/-!
# Names of resolutions

The name that a server has for a resolution is brought to a label, and a label is a name that is
kept.

* `Text.KeepsCase` — the characters that lower-casing leaves alone wherever they stand, and
  `Text.keepsCase_of_isDecimalDigit`, by which the digits of every script are such characters;
* `IsSettled` — the names that are labels: those of the vocabulary, and those that are neither in use
  for a label nor a bare count of lines;
* `isSettled_namedLabel`, `namedLabel_eq_self_iff` — every name is brought to a settled one, and the
  settled names are the ones that are kept;
* `resolutionLabel_idempotent` — hence what has got its label is not changed by another one.
-/

/-! ### Characters without case -/

namespace Text

/-- Does lower-casing leave a character alone wherever it stands? -/
def KeepsCase (c : Char) : Prop := c ≠ '\u03A3' ∧ lowerChar c = [c]

instance : DecidablePred KeepsCase := fun c =>
  inferInstanceAs (Decidable (c ≠ '\u03A3' ∧ lowerChar c = [c]))

/-- Such characters are left alone behind any others. -/
theorem lowerAfter_of_keepsCase {before cs : List Char} (h : ∀ c ∈ cs, KeepsCase c) :
    lowerAfter before cs = cs := by
  induction cs generalizing before with
  | nil => rfl
  | cons c rest ih =>
    obtain ⟨hsigma, hlow⟩ := h c List.mem_cons_self
    have hrest : ∀ d ∈ rest, KeepsCase d := fun d hd => h d (List.mem_cons_of_mem c hd)
    rw [lowerAfter, if_neg hsigma, hlow, ih hrest]
    rfl

/-- A text of such characters is its own lower-case form. -/
theorem lowercase_of_keepsCase {s : String} (h : ∀ c ∈ s.toList, KeepsCase c) :
    lowercase s = s := by
  rw [lowercase, lowerAfter_of_keepsCase h, String.ofList_toList]

/-- No range of digits meets a run of letters that have a lower-case letter. -/
theorem decimalDigitRanges_apart : ∀ run ∈ lowerRuns, ∀ range ∈ decimalDigitRanges,
    range.2 < run.first ∨ run.last < range.1 := by
  -- The two tables are compared by a test on numbers, which is quicker than by decisions.
  have hall : (lowerRuns.all fun run => decimalDigitRanges.all fun range =>
      range.2.blt run.first || run.last.blt range.1) = true := by
    decide +kernel
  simp only [List.all_eq_true, Bool.or_eq_true] at hall
  intro run hrun range hrange
  exact (hall run hrun range hrange).imp Nat.le_of_ble_eq_true Nat.le_of_ble_eq_true

/-- The digits of every script are left alone. -/
theorem keepsCase_of_isDecimalDigit {c : Char} (h : isDecimalDigit c = true) : KeepsCase c := by
  obtain ⟨range, hrange, hbounds⟩ := List.any_eq_true.mp h
  rw [Bool.and_eq_true, decide_eq_true_eq, decide_eq_true_eq] at hbounds
  have houtside : ∀ run ∈ lowerRuns, ¬ (run.first ≤ c.toNat ∧ c.toNat ≤ run.last) := by
    intro run hrun hinside
    have hapart := decimalDigitRanges_apart run hrun range hrange
    omega
  constructor
  · rintro rfl
    exact absurd h (by decide)
  · unfold lowerChar
    split
    · -- Among the first characters only the letters from A to Z change, which are the first run.
      have hcapital : ¬ (0x41 ≤ c.toNat ∧ c.toNat ≤ 0x5A) :=
        houtside ⟨0x41, 0x5A, 1, 32⟩ List.mem_cons_self
      exact congrArg (fun d => [d]) (dif_neg hcapital)
    · split
      · rename_i hdotted
        rw [hdotted] at h
        exact absurd h (by decide)
      · have hnone : lowerRuns.findSome? (fun run => run.apply? c) = none := by
          rw [List.findSome?_eq_none_iff]
          intro run hrun
          apply if_neg
          rintro ⟨hfirst, hlast, -⟩
          exact houtside run hrun ⟨hfirst, hlast⟩
        rw [hnone, Option.getD_none]

end Text

/-! ### Settled names -/

/-- Is a name a label: one of the vocabulary, or one that is neither in use for a label nor a bare
    count of lines? -/
def IsSettled (name : String) : Prop :=
  name ∈ resolutionLabels ∨
    labelAliases.lookup (Text.lowercase name) = none ∧ isNumeralLine (Text.lowercase name) = false

/-- The names of the vocabulary stand for themselves. -/
theorem namedLabel_of_mem : ∀ label ∈ resolutionLabels, namedLabel label = label := by decide

/-- No name of the vocabulary is empty. -/
theorem ne_empty_of_mem : ∀ label ∈ resolutionLabels, label ≠ "" := by decide

/-- The names in use stand for names of the vocabulary. -/
theorem labelAliases_mem : ∀ entry ∈ labelAliases, entry.2 ∈ resolutionLabels := by decide

/-- A name in use that ends in a `p` is also in use without it. -/
theorem labelAliases_bare : ∀ entry ∈ labelAliases, entry.1.toList.getLast? = some 'p' →
    labelAliases.lookup (String.ofList entry.1.toList.dropLast) ≠ none := by
  decide

/-- A settled name is kept. -/
theorem namedLabel_of_isSettled {name : String} (h : IsSettled name) : namedLabel name = name := by
  rcases h with hmem | ⟨hunused, hother⟩
  · exact namedLabel_of_mem name hmem
  · unfold namedLabel
    simp only [hunused, hother]
    rfl

/-- What is found among the names in use is one of them. -/
theorem mem_labelAliases_of_lookup {low label : String}
    (h : labelAliases.lookup low = some label) : (low, label) ∈ labelAliases := by
  obtain ⟨before, after, hsplit, -⟩ := List.lookup_eq_some_iff.mp h
  rw [hsplit]
  exact List.mem_append_right before List.mem_cons_self

/-! ### Bare counts of lines -/

/-- A bare count of lines is made of digits, and of a line end at most. -/
theorem exists_digits_of_isNumeralLine {s : String} (h : isNumeralLine s = true) :
    ∃ digits rest, s.toList = digits ++ rest ∧ (∀ c ∈ digits, Text.isDecimalDigit c = true) ∧
      (rest = [] ∨ rest = ['\n']) := by
  simp only [isNumeralLine, Bool.and_eq_true, Bool.or_eq_true, List.isEmpty_iff, beq_iff_eq] at h
  refine ⟨_, _, List.takeWhile_append_dropWhile.symm, ?_, h.2⟩
  exact List.all_eq_true.mp List.all_takeWhile

/-- Digits that a `p` comes after are no bare count of lines. -/
theorem isNumeralLine_eq_false {s : String} {digits rest : List Char}
    (hchars : s.toList = digits ++ (rest ++ ['p']))
    (hdigits : ∀ c ∈ digits, Text.isDecimalDigit c = true) (hrest : rest = [] ∨ rest = ['\n']) :
    isNumeralLine s = false := by
  have hdropped : s.toList.dropWhile Text.isDecimalDigit = rest ++ ['p'] := by
    rw [hchars, List.dropWhile_append_of_pos hdigits]
    rcases hrest with rfl | rfl <;> decide
  simp only [isNumeralLine, hdropped]
  rw [Bool.and_eq_false_iff]
  rcases hrest with rfl | rfl <;> exact .inr (by decide)

/-- A count of lines is settled once it has its `p`. -/
theorem isSettled_lines {low : String} (hunused : labelAliases.lookup low = none)
    (hnumeral : isNumeralLine low = true) : IsSettled (low ++ "p") := by
  obtain ⟨digits, rest, hlow, hdigits, hrest⟩ := exists_digits_of_isNumeralLine hnumeral
  have hchars : (low ++ "p").toList = digits ++ (rest ++ ['p']) := by
    rw [String.toList_append, hlow, List.append_assoc]
    rfl
  -- It has no letter but the `p`, so that it is looked up as it is.
  have hkept : Text.lowercase (low ++ "p") = low ++ "p" := by
    apply Text.lowercase_of_keepsCase
    intro c hc
    rw [hchars, List.mem_append] at hc
    rcases hc with hdigit | hend
    · exact Text.keepsCase_of_isDecimalDigit (hdigits c hdigit)
    · have hwhich : c = '\n' ∨ c = 'p' := by
        rcases hrest with rfl | rfl
        · exact .inr (List.mem_singleton.mp hend)
        · exact List.mem_pair.mp hend
      rcases hwhich with rfl | rfl <;> decide
  rw [IsSettled, hkept]
  refine .inr ⟨?_, isNumeralLine_eq_false hchars hdigits hrest⟩
  -- Were it in use, then it would have been in use without the `p` already.
  by_contra hused
  obtain ⟨label, hlabel⟩ := Option.ne_none_iff_exists'.mp hused
  have hlast : (low ++ "p").toList.getLast? = some 'p' := by
    rw [String.toList_append]
    exact List.getLast?_concat
  have hbare := labelAliases_bare (low ++ "p", label) (mem_labelAliases_of_lookup hlabel) hlast
  apply hbare
  rw [String.toList_append, show "p".toList = ['p'] from rfl, List.dropLast_concat,
    String.ofList_toList, hunused]

/-! ### Naming -/

/-- Every name is brought to a settled one. -/
theorem isSettled_namedLabel (name : String) : IsSettled (namedLabel name) := by
  unfold namedLabel
  simp only
  split
  · rename_i label hlabel
    exact .inl (labelAliases_mem _ (mem_labelAliases_of_lookup hlabel))
  · rename_i hunused
    split
    · rename_i hnumeral
      exact isSettled_lines hunused hnumeral
    · rename_i hother
      exact .inr ⟨hunused, Bool.eq_false_iff.mpr hother⟩

/-- The settled names are the ones that are kept. -/
theorem namedLabel_eq_self_iff {name : String} : namedLabel name = name ↔ IsSettled name :=
  ⟨fun h => h ▸ isSettled_namedLabel name, namedLabel_of_isSettled⟩

/-- A name that is not empty is not brought to an empty one. -/
theorem namedLabel_ne_empty {name : String} (h : name ≠ "") : namedLabel name ≠ "" := by
  unfold namedLabel
  simp only
  split
  · rename_i label hlabel
    exact ne_empty_of_mem label (labelAliases_mem _ (mem_labelAliases_of_lookup hlabel))
  · split
    · intro hempty
      have hlength := congrArg String.length hempty
      rw [String.length_append] at hlength
      exact absurd hlength (Nat.succ_ne_zero _)
    · exact h

/-! ### Labels of resolutions -/

/-- A text that is not empty is not seen as missing. -/
theorem isEmpty_eq_false {name : String} (h : name ≠ "") : name.isEmpty = false := by
  rw [Bool.eq_false_iff, ne_eq, String.isEmpty_iff]
  exact h

/-- A resolution that has a name gets the label of the name, whatever the frame is. -/
theorem resolutionLabel_some {name : String} (h : name ≠ "") (width height : Option Int) :
    resolutionLabel (some name) width height = some (namedLabel name) := by
  unfold resolutionLabel
  rw [Option.filter_some, isEmpty_eq_false h]
  rfl

/-- The measures of the frame may be of any data then. -/
theorem resolutionLabelOf_text {name : String} (h : name ≠ "") (width height : Datum) :
    resolutionLabelOf (.text name) width height = .ok (some (namedLabel name)) := by
  have hread : (Datum.text name).textFor "lower" = .ok (some name) := by
    rw [Datum.textFor, Datum.truthy, isEmpty_eq_false h]
    rfl
  rw [resolutionLabelOf, hread]
  exact congrArg Except.ok (resolutionLabel_some h none none)

/-- Every label of a resolution is settled, and it is not empty. -/
theorem isSettled_resolutionLabel {name : Option String} {width height : Option Int}
    {label : String} (h : resolutionLabel name width height = some label) :
    IsSettled label ∧ label ≠ "" := by
  have hmeasured {l : String} (hl : IsMeasured l) : IsSettled l ∧ l ≠ "" :=
    ⟨.inl hl.1, ne_empty_of_mem l hl.1⟩
  unfold resolutionLabel at h
  split at h
  · rename_i s hgiven
    obtain rfl := Option.some.inj h
    have hs : s ≠ "" := by
      have hfull := (Option.filter_eq_some_iff.mp hgiven).2
      rintro rfl
      exact absurd hfull (by decide)
    exact ⟨isSettled_namedLabel s, namedLabel_ne_empty hs⟩
  · split at h
    · rename_i w _
      obtain rfl := Option.some.inj h
      exact hmeasured (isMeasured_widthLabel w)
    · obtain ⟨n, -, rfl⟩ := Option.map_eq_some_iff.mp h
      exact hmeasured (isMeasured_heightLabel n)

/-- **Labels of resolutions are their own labels.**  A name that is not empty has a label, whatever
    data the measures of the frame are; the label has itself as its label, and it is the name
    exactly if the name was settled.  With measures that are numbers, as long as they are given at
    all, labelling twice is labelling once for every name, be it empty or missing. -/
theorem resolutionLabel_idempotent :
    (∀ (name : String) (width height : Datum), name ≠ "" →
      ∃ label, resolutionLabelOf (.text name) width height = .ok (some label) ∧
        resolutionLabelOf (.text label) width height = .ok (some label) ∧
        (label = name ↔ IsSettled name)) ∧
    ∀ (name : Option String) (width height : Option Int),
      resolutionLabel (resolutionLabel name width height) width height =
        resolutionLabel name width height := by
  constructor
  · intro name width height hname
    refine ⟨namedLabel name, resolutionLabelOf_text hname width height, ?_,
      namedLabel_eq_self_iff⟩
    rw [resolutionLabelOf_text (namedLabel_ne_empty hname) width height,
      namedLabel_of_isSettled (isSettled_namedLabel name)]
  · intro name width height
    cases h : resolutionLabel name width height with
    | none =>
      -- Without a label there was no name either, and no measure.
      unfold resolutionLabel at h ⊢
      split at h
      · cases h
      · exact h
    | some label =>
      obtain ⟨hsettled, hfull⟩ := isSettled_resolutionLabel h
      rw [resolutionLabel_some hfull, namedLabel_of_isSettled hsettled]

/-- A count of lines in digits of another script, with a line end behind it, which a `p` is put
    behind: the label is no bare count any more, and it is kept. -/
theorem resolutionLabel_idempotent_lineEnd :
    "\u0665\u0667\u0666\n" ≠ "" ∧
      ∃ label, resolutionLabelOf (.text "\u0665\u0667\u0666\n") (.int 0) .null =
          .ok (some label) ∧
        resolutionLabelOf (.text label) (.int 0) .null = .ok (some label) ∧
        (label = "\u0665\u0667\u0666\n" ↔ IsSettled "\u0665\u0667\u0666\n") := by
  have hfull : "\u0665\u0667\u0666\n" ≠ "" := by decide
  exact ⟨hfull, resolutionLabel_idempotent.1 _ (.int 0) .null hfull⟩

end StreamWatch
