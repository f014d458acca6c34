import ChatModeration.Proofs.Phrases
import Mathlib.Data.List.TakeWhile

/-!
# Words and blanks

Trimming takes blanks away at both ends and nothing else (`exists_blanks_around`), so it leaves the words of a text as
they are (`words_trim`).  A word is a part of its text (`isInfix_of_mem_words`).  A text is single-spaced if it consists
of its words with single spaces between them (`SingleSpaced`), as a normalized text does.
-/

namespace ChatModeration.Text

/-! ### Runs -/

section Runs

variable {p : Char → Bool} {w cs : List Char}

private theorem isInfix_of_mem_runsFrom {run : List Char} (h : w ∈ runsFrom p run cs) : w <:+: run.reverse ++ cs := by
  induction cs generalizing run with
  | nil =>
    unfold runsFrom at h
    split at h
    · simp at h
    · rw [List.mem_singleton.1 h, List.append_nil]
  | cons c cs ih =>
    have hskip : w <:+: cs → w <:+: run.reverse ++ c :: cs := by
      rintro ⟨before, after, rfl⟩
      exact ⟨run.reverse ++ c :: before, after, by simp⟩
    unfold runsFrom at h
    split at h
    · simpa using ih h
    · split at h
      · exact hskip (by simpa using ih h)
      · rcases List.mem_cons.1 h with rfl | h
        · exact (List.prefix_append _ _).isInfix
        · exact hskip (by simpa using ih h)

/-- A run is a part of its text. -/
theorem isInfix_of_mem_runs (h : w ∈ runs p cs) : w <:+: cs := isInfix_of_mem_runsFrom h

/-- Where no character satisfies the predicate there is no run. -/
theorem runs_eq_nil (h : ∀ c ∈ cs, p c = false) : runs p cs = [] := by
  induction cs with
  | nil => rfl
  | cons c cs ih =>
    obtain ⟨hc, hcs⟩ := List.forall_mem_cons.1 h
    have hsplit : runs p ([] ++ c :: cs) = runs p [] ++ runs p cs := runs_append_cons hc [] cs
    rw [List.nil_append] at hsplit
    rw [hsplit, ih hcs]
    rfl

/-- Characters in no run may stand before a text. -/
theorem runs_append_left {before : List Char} (h : ∀ c ∈ before, p c = false) : runs p (before ++ cs) = runs p cs := by
  induction before with
  | nil => rfl
  | cons c before ih =>
    obtain ⟨hc, hbefore⟩ := List.forall_mem_cons.1 h
    have hsplit : runs p ([] ++ c :: (before ++ cs)) = runs p [] ++ runs p (before ++ cs) := runs_append_cons hc [] _
    rw [List.nil_append] at hsplit
    rw [List.cons_append, hsplit, ih hbefore]
    rfl

/-- Characters in no run may stand after a text. -/
theorem runs_append_right {after : List Char} (h : ∀ c ∈ after, p c = false) : runs p (cs ++ after) = runs p cs := by
  cases after with
  | nil => rw [List.append_nil]
  | cons c after =>
    obtain ⟨hc, hafter⟩ := List.forall_mem_cons.1 h
    rw [runs_append_cons hc, runs_eq_nil hafter, List.append_nil]

theorem flatten_runsFrom (run : List Char) : (runsFrom p run cs).flatten = run.reverse ++ cs.filter p := by
  induction cs generalizing run with
  | nil => cases run <;> simp [runsFrom]
  | cons c cs ih =>
    unfold runsFrom
    split
    · next hc => rw [ih, List.filter_cons_of_pos hc, List.reverse_cons, List.append_assoc, List.singleton_append]
    · next hc =>
      rw [List.filter_cons_of_neg hc]
      split
      · next hrun => rw [ih, List.isEmpty_iff.1 hrun]
      · rw [List.flatten_cons, ih, List.reverse_nil, List.nil_append]

/-- The runs together are the characters that satisfy the predicate. -/
theorem flatten_runs : (runs p cs).flatten = cs.filter p := flatten_runsFrom []

theorem runs_eq_nil_iff : runs p cs = [] ↔ ∀ c ∈ cs, p c = false := by
  refine ⟨fun h c hc => ?_, runs_eq_nil⟩
  have hfilter : cs.filter p = [] := by rw [← flatten_runs, h, List.flatten_nil]
  simpa using List.filter_eq_nil_iff.1 hfilter c hc

/-- Around a single run no character satisfies the predicate. -/
theorem exists_around_of_runs_eq_singleton (h : runs p cs = [w]) :
    ∃ before after, (∀ c ∈ before, p c = false) ∧ (∀ c ∈ after, p c = false) ∧ cs = before ++ w ++ after := by
  obtain ⟨before, after, hcs⟩ : w <:+: cs := isInfix_of_mem_runs (h ▸ List.mem_singleton_self w)
  have hw : w.filter p = w := List.filter_eq_self.2 (of_mem_runs (h ▸ List.mem_singleton_self w)).2
  have hfilter : before.filter p ++ w ++ after.filter p = w := by
    have hflatten : (runs p cs).flatten = cs.filter p := flatten_runs
    rw [h, ← hcs, List.filter_append, List.filter_append, hw] at hflatten
    simpa using hflatten.symm
  have hlength := congrArg List.length hfilter
  simp only [List.length_append] at hlength
  have hnone : ∀ {l : List Char}, (l.filter p).length = 0 → ∀ c ∈ l, p c = false := fun hl c hc => by
    simpa using List.filter_eq_nil_iff.1 (List.length_eq_zero_iff.1 hl) c hc
  exact ⟨before, after, hnone (by omega), hnone (by omega), hcs.symm⟩

end Runs

/-! ### Trimming -/

theorem exists_blanks_before (cs : List Char) :
    ∃ before, (∀ c ∈ before, isBlank c = true) ∧ cs = before ++ trimStart cs :=
  ⟨cs.takeWhile isBlank, fun _ hc => List.mem_takeWhile_imp hc, List.takeWhile_append_dropWhile.symm⟩

/-- A text is what trimming leaves of it between blanks. -/
theorem exists_blanks_around (s : String) :
    ∃ before after, (∀ c ∈ before, isBlank c = true) ∧ (∀ c ∈ after, isBlank c = true) ∧
      s.toList = before ++ (trim s).toList ++ after := by
  obtain ⟨before, hbefore, hs⟩ := exists_blanks_before s.toList
  obtain ⟨after, hafter, hrest⟩ := exists_blanks_before (trimStart s.toList).reverse
  refine ⟨before, after.reverse, hbefore, fun c hc => hafter c (List.mem_reverse.1 hc), ?_⟩
  have htrim : (trim s).toList = (trimStart (trimStart s.toList).reverse).reverse := String.toList_ofList
  rw [htrim, List.append_assoc, ← List.reverse_append, ← hrest, List.reverse_reverse]
  exact hs

/-- Trimming leaves nothing of a text if all of it is blank. -/
theorem trim_eq_empty_iff {s : String} : trim s = "" ↔ ∀ c ∈ s.toList, isBlank c = true := by
  constructor
  · intro hempty
    obtain ⟨before, after, hbefore, hafter, hs⟩ := exists_blanks_around s
    rw [hs, hempty]
    simpa [or_imp, forall_and] using ⟨hbefore, hafter⟩
  · intro hblank
    have hstart : trimStart s.toList = [] := List.dropWhile_eq_nil_iff.2 hblank
    rw [trim, hstart]
    rfl

/-- Trimming keeps the words of a text. -/
theorem words_trim (s : String) : words (trim s) = words s := by
  obtain ⟨before, after, hbefore, hafter, hs⟩ := exists_blanks_around s
  rw [words, words, hs, runs_append_right fun c hc => by rw [hafter c hc]; rfl,
    runs_append_left fun c hc => by rw [hbefore c hc]; rfl]

theorem trimStart_append {before w : List Char} (hbefore : ∀ c ∈ before, isBlank c = true)
    (hw : ∀ c ∈ w.head?, isBlank c = false) : trimStart (before ++ w) = w := by
  rw [trimStart, List.dropWhile_append_of_pos hbefore]
  cases w with
  | nil => rfl
  | cons c w => rw [List.dropWhile_cons, if_neg (by simpa using hw c rfl)]

/-- Trimming leaves the text that stands between blanks. -/
theorem trim_between {before w after : List Char} (hbefore : ∀ c ∈ before, isBlank c = true)
    (hafter : ∀ c ∈ after, isBlank c = true) (hne : w ≠ []) (hw : ∀ c ∈ w, isBlank c = false) :
    trim (String.ofList (before ++ w ++ after)) = String.ofList w := by
  have hstart : trimStart (before ++ (w ++ after)) = w ++ after := by
    refine trimStart_append hbefore fun c hc => hw c (List.mem_of_mem_head? ?_)
    rwa [List.head?_append_of_ne_nil _ hne] at hc
  have hend : trimStart (after.reverse ++ w.reverse) = w.reverse :=
    trimStart_append (fun c hc => hafter c (List.mem_reverse.1 hc)) fun c hc =>
      hw c (List.mem_reverse.1 (List.mem_of_mem_head? hc))
  rw [trim, String.toList_ofList, List.append_assoc, hstart, List.reverse_append, hend, List.reverse_reverse]

/-! ### Words -/

/-- A word is a part of its text. -/
theorem isInfix_of_mem_words {w s : String} (h : w ∈ words s) : w.toList <:+: s.toList := by
  obtain ⟨cs, hcs, rfl⟩ := List.mem_map.1 h
  rw [String.toList_ofList]
  exact isInfix_of_mem_runs hcs

theorem map_toList_words (s : String) : (words s).map String.toList = runs (fun c => !isBlank c) s.toList :=
  map_toList_ofList _

/-- A text without words is blank. -/
theorem words_eq_nil_iff {s : String} : words s = [] ↔ ∀ c ∈ s.toList, isBlank c = true := by
  rw [words, List.map_eq_nil_iff, runs_eq_nil_iff]
  simp only [Bool.not_eq_false']

/-- Nothing is left of a text in its normalized form if its folded form has no letter and no digit. -/
theorem normalize_eq_empty_iff {s : String} :
    normalize s = "" ↔ ∀ c ∈ foldedForm s.toList, isAlphanumeric c = false := by
  rw [← words_normalize_eq_nil_iff, words_normalize, List.map_eq_nil_iff, normalizedWords, runs_eq_nil_iff]

theorem words_ne_nil_of_trim {s : String} (h : trim s ≠ "") : words s ≠ [] := fun hwords =>
  h (trim_eq_empty_iff.2 (words_eq_nil_iff.1 hwords))

/-- A text without blanks is a single word. -/
theorem words_of_not_blank {s : String} (hne : s ≠ "") (h : ∀ c ∈ s.toList, isBlank c = false) : words s = [s] := by
  have hruns : runs (fun c => !isBlank c) s.toList = [s.toList] :=
    runs_of_forall (by simpa using hne) fun c hc => by rw [h c hc]; rfl
  rw [words, hruns, List.map_singleton, String.ofList_toList]

/-- Whether a text consists of its words with single spaces between them. -/
def SingleSpaced (s : String) : Prop := " ".intercalate (words s) = s

instance (s : String) : Decidable (SingleSpaced s) := inferInstanceAs (Decidable (_ = _))

theorem singleSpaced_normalize (s : String) : SingleSpaced (normalize s) := intercalate_words_normalize s

/-- A trimmed text of one word is that word. -/
theorem singleSpaced_trim_of_length {s : String} (h : (words s).length = 1) : SingleSpaced (trim s) := by
  obtain ⟨w, hw⟩ := List.length_eq_one_iff.1 h
  obtain ⟨cs, hcs, rfl⟩ := List.map_eq_singleton_iff.1 hw
  obtain ⟨before, after, hbefore, hafter, hs⟩ := exists_around_of_runs_eq_singleton hcs
  obtain ⟨hne, hcs⟩ := of_mem_runs (hcs ▸ List.mem_singleton_self cs)
  have htrim : trim s = String.ofList cs := by
    rw [← String.ofList_toList (s := s), hs]
    exact trim_between (fun c hc => by simpa using hbefore c hc) (fun c hc => by simpa using hafter c hc) hne
      fun c hc => by simpa using hcs c hc
  rw [SingleSpaced, words_trim, hw, htrim, String.intercalate_singleton]

/-! ### Words between separators -/

section Separators

variable {c : Char} {w before rest : List Char} {ws : List (List Char)}

/-- A separator in joined words stands between two of them. -/
theorem eq_append_of_separator (hws : ∀ u ∈ ws, c ∉ u)
    (h : ws.flatMap (c :: ·) ++ [c] = before ++ c :: rest) :
    ∃ us vs, ws = us ++ vs ∧ before = us.flatMap (c :: ·) ∧ c :: rest = vs.flatMap (c :: ·) ++ [c] := by
  induction ws generalizing before with
  | nil =>
    cases before with
    | nil => exact ⟨[], [], rfl, rfl, h.symm⟩
    | cons b before =>
      have hlength := congrArg List.length h
      simp at hlength
  | cons u ws ih =>
    obtain ⟨hu, hws⟩ := List.forall_mem_cons.1 hws
    cases before with
    | nil => exact ⟨[], u :: ws, rfl, rfl, h.symm⟩
    | cons b before =>
      rw [List.flatMap_cons, List.append_assoc] at h
      obtain ⟨rfl, hafter⟩ : c = b ∧ u ++ (ws.flatMap (c :: ·) ++ [c]) = before ++ c :: rest := List.cons.inj h
      -- the separator does not stand inside the first word
      have hbefore : ∃ more, before = u ++ more ∧ ws.flatMap (c :: ·) ++ [c] = more ++ c :: rest := by
        rcases List.append_eq_append_iff.1 hafter with ⟨more, hmore, hrest⟩ | ⟨more, hmore, hrest⟩
        · exact ⟨more, hmore, hrest⟩
        · cases more with
          | nil => exact ⟨[], by simpa using hmore.symm, by simpa using hrest.symm⟩
          | cons d more =>
            obtain ⟨rfl, -⟩ := List.cons.inj hrest
            exact absurd (hmore ▸ List.mem_append_right before List.mem_cons_self) hu
      obtain ⟨more, rfl, hrest⟩ := hbefore
      obtain ⟨us, vs, rfl, rfl, hvs⟩ := ih hws hrest
      exact ⟨u :: us, vs, rfl, by rw [List.flatMap_cons]; rfl, hvs⟩

/-- What stands between separators in joined words is joined from some of them that stand next to one another. -/
theorem exists_words_of_between (hws : ∀ u ∈ ws, c ∉ u)
    (h : [c] ++ w ++ [c] <:+: [c] ++ [c].intercalate ws ++ [c]) : ∃ us, us <:+: ws ∧ w = [c].intercalate us := by
  obtain ⟨before, after, h⟩ := h
  by_cases hne : ws = []
  · subst hne
    have hlength := congrArg List.length h
    simp only [List.length_append, List.length_singleton, List.intercalate_nil, List.length_nil] at hlength
    have hw : w = [] := List.eq_nil_of_length_eq_zero (by omega)
    exact ⟨[], List.infix_rfl, hw⟩
  · have hjoined : ws.flatMap (c :: ·) ++ [c] = before ++ c :: (w ++ c :: after) := by
      rw [← between_intercalate hne, ← h]
      simp
    obtain ⟨us, vs, rfl, -, hvs⟩ := eq_append_of_separator hws hjoined
    have hrest : vs.flatMap (c :: ·) ++ [c] = (c :: w) ++ c :: after := by rw [← hvs]; rfl
    have hvs' : ∀ u ∈ vs, c ∉ u := fun u hu => hws u (List.mem_append_right us hu)
    obtain ⟨ms, ts, rfl, hms, -⟩ := eq_append_of_separator hvs' hrest
    have hmsne : ms ≠ [] := by
      rintro rfl
      cases hms
    have hw : [c] ++ w ++ [c] = [c] ++ [c].intercalate ms ++ [c] := by
      rw [between_intercalate hmsne, ← hms]
      rfl
    exact ⟨ms, ⟨us, ts, by rw [List.append_assoc]⟩, List.append_cancel_left (List.append_cancel_right hw)⟩

end Separators

/-- What stands between separators in a text between separators is a part of the text. -/
theorem isInfix_of_between {c : Char} {w cs : List Char} (h : [c] ++ w ++ [c] <:+: [c] ++ cs ++ [c]) : w <:+: cs := by
  obtain ⟨before, after, h⟩ := h
  have hsuffix : w ++ c :: after <:+ cs ++ [c] := by
    have hall : c :: (w ++ c :: after) <:+ c :: (cs ++ [c]) := ⟨before, by simpa using h⟩
    rcases List.suffix_cons_iff.1 hall with heq | hrest
    · rw [(List.cons.inj heq).2]
    · exact (List.suffix_cons c _).trans hrest
  obtain ⟨first, hfirst⟩ := hsuffix
  have hprefix : first ++ w ++ [c] <+: cs ++ [c] := ⟨after, by simpa using hfirst⟩
  rcases List.prefix_concat_iff.1 hprefix with heq | hrest
  · rw [← List.append_cancel_right heq]
    exact (List.suffix_append first w).isInfix
  · exact (List.infix_append first w [c]).trans hrest.isInfix

/-- What is found between spaces or ends is a part of the text. -/
theorem isInfix_of_phraseOccursIn {phrase s : String} (h : phraseOccursIn phrase s = true) :
    phrase.toList <:+: s.toList := by
  rw [phraseOccursIn, occursIn, occursInChars_iff, toList_padded, toList_padded] at h
  exact isInfix_of_between h

/-- A phrase is found among words with single spaces between them if it has single spaces and its words are there. -/
theorem phraseOccursIn_words {phrase s : String} (hne : words phrase ≠ []) :
    phraseOccursIn phrase (" ".intercalate (words s)) = true ↔
      SingleSpaced phrase ∧ words phrase <:+: words s := by
  rw [phraseOccursIn, occursIn, occursInChars_iff, toList_padded, toList_padded, String.toList_intercalate]
  constructor
  · intro h
    have hword : ∀ u ∈ (words s).map String.toList, u ≠ [] ∧ ∀ c ∈ u, (!isBlank c) = true := fun u hu =>
      of_mem_runs (map_toList_words s ▸ hu)
    have hspace : ∀ u ∈ (words s).map String.toList, ' ' ∉ u := fun u hu hmem =>
      absurd ((hword u hu).2 ' ' hmem) (by decide)
    obtain ⟨us, hus, hphrase⟩ := exists_words_of_between hspace h
    have hruns : (words phrase).map String.toList = us := by
      rw [map_toList_words, hphrase]
      exact runs_intercalate rfl fun u hu => hword u (hus.subset hu)
    constructor
    · rw [SingleSpaced, ← String.toList_inj, String.toList_intercalate, hruns, hphrase]
      rfl
    · have hid : String.ofList ∘ String.toList = id := funext fun _ => String.ofList_toList
      rw [← hruns] at hus
      simpa only [List.map_map, hid, List.map_id] using hus.map String.ofList
  · rintro ⟨hphrase, hwords⟩
    have hjoined : phrase.toList = " ".toList.intercalate ((words phrase).map String.toList) := by
      rw [← String.toList_intercalate, hphrase]
    rw [hjoined]
    exact between_isInfix (by simpa using hne) (hwords.map String.toList)

theorem phraseOccursIn_self (s : String) : phraseOccursIn s s = true := by
  rw [phraseOccursIn, occursIn, occursInChars_iff]

end ChatModeration.Text
