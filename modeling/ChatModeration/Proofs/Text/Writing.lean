import ChatModeration.Text.Normalize

/-!
# Writing a normalized text

While a normalized text is written, what stands there are the words that have ended and the beginning of the one that
is being written (`Writing.Holds`), and a space is due just when a word has ended and none has begun.  So a normalized
text consists of the runs of letters and digits of the folded form with single spaces between them
(`toList_normalize`).
-/

namespace ChatModeration.Text

/-- Compatibility form in lowercase, without the stripped characters. -/
def foldedForm (cs : List Char) : List Char :=
  ((compatibilityForm cs).flatMap lowerChar).filter fun c => !strippedCharacters.contains c

/-- The words of a text: the runs of letters and digits of its folded form. -/
def normalizedWords (cs : List Char) : List (List Char) := runs isAlphanumeric (foldedForm cs)

/-! ### One more word, and a longer one -/

section Joined

variable {c : Char} {w v : List Char} {ws : List (List Char)}

theorem intercalate_concat (hne : ws ≠ []) : [c].intercalate (ws ++ [w]) = [c].intercalate ws ++ [c] ++ w := by
  induction ws with
  | nil => contradiction
  | cons u ws ih =>
    cases ws with
    | nil =>
      rw [List.singleton_append, List.intercalate_cons_cons, List.intercalate_singleton, List.intercalate_singleton]
    | cons u' ws =>
      rw [List.cons_append, List.cons_append, List.intercalate_cons_cons, List.intercalate_cons_cons,
        ← List.cons_append, ih (List.cons_ne_nil u' ws)]
      simp only [List.append_assoc]

theorem intercalate_concat_append : [c].intercalate (ws ++ [w ++ v]) = [c].intercalate (ws ++ [w]) ++ v := by
  by_cases hne : ws = []
  · rw [hne, List.nil_append, List.nil_append, List.intercalate_singleton, List.intercalate_singleton]
  · rw [intercalate_concat hne, intercalate_concat hne, ← List.append_assoc]

/-- Joined words are empty only if there are none. -/
theorem intercalate_eq_nil_iff (h : ∀ w ∈ ws, w ≠ []) : [c].intercalate ws = [] ↔ ws = [] := by
  cases ws with
  | nil => simp
  | cons w ws =>
    have hw : w ≠ [] := h w List.mem_cons_self
    cases ws with
    | nil => simpa using hw
    | cons w' ws => simp [List.intercalate_cons_cons, hw]

end Joined

/-! ### Steps of the writing -/

namespace Writing

variable {w : Writing} {words : List (List Char)} {run : List Char} {c : Char}

/-- What has been written: some words, and in reverse order the characters of the word that is being written. -/
structure Holds (w : Writing) (words : List (List Char)) (run : List Char) : Prop where
  written : w.written = [' '].intercalate (words ++ runsFrom isAlphanumeric run [])
  nonempty : ∀ word ∈ words, word ≠ []
  begun : run ≠ [] → w.pending = false
  /-- After a word has ended a space is due. -/
  ended : run = [] → words ≠ [] → w.pending = true

theorem holds_start : Holds {} [] [] := ⟨rfl, nofun, fun _ => rfl, fun _ h => absurd rfl h⟩

theorem put_stripped (h : strippedCharacters.contains c = true) : w.put c = w := if_pos h

/-- A letter or a digit goes on with the word that is being written, or begins the next one. -/
theorem Holds.put_alphanumeric (h : w.Holds words run) (hkept : strippedCharacters.contains c = false)
    (hc : isAlphanumeric c = true) : (w.put c).Holds words (c :: run) where
  written := by
    have hput : (w.put c).written =
        (if w.pending && !w.written.isEmpty then w.written ++ [' '] else w.written) ++ [c] := by
      rw [put, hkept, if_neg Bool.false_ne_true, if_pos hc]
    have hrun : runsFrom isAlphanumeric (c :: run) [] = [run.reverse ++ [c]] := by simp [runsFrom]
    rw [hput, hrun, h.written]
    by_cases hempty : run = []
    · subst hempty
      have hnil : runsFrom isAlphanumeric [] [] = [] := rfl
      rw [hnil, List.append_nil, List.reverse_nil, List.nil_append]
      by_cases hwords : words = []
      · subst hwords
        simp
      · -- a word has ended, so there is a space before this one
        have hwritten : ([' '].intercalate words).isEmpty = false := by
          simpa [intercalate_eq_nil_iff h.nonempty] using hwords
        rw [h.ended rfl hwords, hwritten, intercalate_concat hwords]
        rfl
    · have hlast : runsFrom isAlphanumeric run [] = [run.reverse] := if_neg (by simpa using hempty)
      rw [h.begun hempty, hlast, intercalate_concat_append]
      rfl
  nonempty := h.nonempty
  begun _ := by rw [put, hkept, if_neg Bool.false_ne_true, if_pos hc]
  ended hrun := absurd hrun (List.cons_ne_nil c run)

/-- Anything else ends the word that is being written. -/
theorem Holds.put_other (h : w.Holds words run) (hkept : strippedCharacters.contains c = false)
    (hc : isAlphanumeric c = false) : (w.put c).Holds (words ++ runsFrom isAlphanumeric run []) [] := by
  have hput : w.put c = { w with pending := true } := by
    rw [put, hkept, hc, if_neg Bool.false_ne_true, if_neg Bool.false_ne_true]
  rw [hput]
  exact {
    written := by rw [h.written]; exact (congrArg _ (List.append_nil _)).symm
    nonempty := by
      refine List.forall_mem_append.2 ⟨h.nonempty, fun word hword => ?_⟩
      by_cases hrun : run = [] <;> simp_all [runsFrom]
    begun := fun hne => absurd rfl hne
    ended := fun _ _ => rfl }

theorem runsFrom_cons_of_neg {p : Char → Bool} (hc : p c = false) (run cs : List Char) :
    runsFrom p run (c :: cs) = runsFrom p run [] ++ runsFrom p [] cs := by
  cases run <;> simp [runsFrom, hc]

/-- What has been written after some characters: the words that there were, and the runs of the characters. -/
theorem Holds.foldl_put (h : w.Holds words run) (cs : List Char) :
    (cs.foldl put w).written = [' '].intercalate
      (words ++ runsFrom isAlphanumeric run (cs.filter fun c => !strippedCharacters.contains c)) := by
  induction cs generalizing w words run with
  | nil => exact h.written
  | cons c cs ih =>
    rw [List.foldl_cons]
    cases hkept : strippedCharacters.contains c with
    | true => rw [put_stripped hkept, ih h, List.filter_cons_of_neg (by simpa using hkept)]
    | false =>
      rw [List.filter_cons_of_pos (by simpa using hkept)]
      cases hc : isAlphanumeric c with
      | true => rw [ih (h.put_alphanumeric hkept hc), runsFrom, if_pos hc]
      | false => rw [ih (h.put_other hkept hc), runsFrom_cons_of_neg hc, List.append_assoc]

end Writing

/-- A normalized text consists of the words of the text with single spaces between them. -/
theorem toList_normalize (text : String) :
    (normalize text).toList = [' '].intercalate (normalizedWords text.toList) := by
  rw [normalize, String.toList_ofList, Writing.holds_start.foldl_put]
  rfl

end ChatModeration.Text
