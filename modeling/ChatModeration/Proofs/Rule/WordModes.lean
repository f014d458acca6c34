import ChatModeration.Proofs.Text.Words
import ChatModeration.Rule.Matcher

/-!
# Modes of literal words

A literal word is looked for as the whole message, among the tokens or anywhere, as the options say.  The modes are
nested where the words of the message are divided by single spaces, as they are in a normalized text, and where the
configured words hold no blanks (`isMatch_nested`).  A text that is compared as it was sent may have other blanks: they
count where it is compared with a whole word or searched for one, and do not count among the tokens
(`not_isMatch_nested`).
-/

namespace ChatModeration.Matcher

open Text (isBlank trim words normalize SingleSpaced)

variable {options : RuleOptions} {s word : String} {configured : List String} {id userId userLogin text : String}

/-! ### What is compared -/

/-- The tokens that are compared are the words of the text that is compared. -/
theorem comparedTokens_ofText :
    comparedTokens options (.ofText id userId userLogin text) =
      words (comparedText options (.ofText id userId userLogin text)) := by
  unfold comparedTokens comparedText
  split
  · exact (Text.words_trim text).symm
  · rw [ChatMessage.tokens_ofText, ChatMessage.normalized_ofText]

/-- The text that is compared is single-spaced if it is a normalized one. -/
theorem singleSpaced_comparedText (h : options.caseSensitive = true → SingleSpaced (trim text)) :
    SingleSpaced (comparedText options (.ofText id userId userLogin text)) := by
  unfold comparedText
  split
  · next hcase => exact h hcase
  · rw [ChatMessage.normalized_ofText]
    exact Text.singleSpaced_normalize text

/-- Every stored word is the compared form of a configured one, and none is empty. -/
theorem mem_stored {w : String} (h : w ∈ (configured.map (comparedWord options)).filter (!·.isEmpty)) :
    w ≠ "" ∧ ∃ word ∈ configured, comparedWord options word = w := by
  obtain ⟨hw, hne⟩ := List.mem_filter.1 h
  exact ⟨by simpa using hne, List.mem_map.1 hw⟩

/-! ### One word -/

/-- The options in another mode. -/
def inMode (options : RuleOptions) (exact substring : Bool) : RuleOptions := { options with exact, substring }

/-- The blanks of a text and of a word do not matter: the text is single-spaced, or the word has no blanks. -/
def BlanksAgree (s word : String) : Prop := SingleSpaced s ∨ ∀ c ∈ word.toList, isBlank c = false

/-- A word with blanks can be told from its tokens only in a single-spaced text. -/
theorem BlanksAgree.singleSpaced (h : BlanksAgree s word) (hblank : word.toList.any isBlank = true) :
    SingleSpaced s := by
  refine h.resolve_right fun hnone => ?_
  obtain ⟨c, hc, hcblank⟩ := List.any_eq_true.1 hblank
  rw [hnone c hc] at hcblank
  contradiction

/-- A word that is the whole text is found among its tokens. -/
theorem wordMatches_tokens_of_exact {substring : Bool} (hne : word ≠ "") (hblanks : BlanksAgree s word)
    (h : wordMatches (inMode options true substring) s (words s) word = true) :
    wordMatches (inMode options false false) s (words s) word = true := by
  obtain rfl : s = word := by simpa [wordMatches, inMode] using h
  simp only [wordMatches, inMode, Bool.false_eq_true, if_false]
  split
  · next hblank =>
    rw [hblanks.singleSpaced hblank]
    exact Text.phraseOccursIn_self s
  · next hblank =>
    have hwords : words s = [s] := Text.words_of_not_blank hne fun c hc => by
      simpa using mt (fun hcblank => List.any_eq_true.2 ⟨c, hc, hcblank⟩) hblank
    rw [hwords, List.contains_iff_mem]
    exact List.mem_singleton_self s

/-- A word that is found among the tokens of a text is found in the text. -/
theorem wordMatches_substring_of_tokens (hblanks : BlanksAgree s word)
    (h : wordMatches (inMode options false false) s (words s) word = true) :
    wordMatches (inMode options false true) s (words s) word = true := by
  simp only [wordMatches, inMode, Bool.false_eq_true, if_false, if_true] at h ⊢
  rw [Text.occursIn, Text.occursInChars_iff]
  split at h
  · next hblank =>
    rw [hblanks.singleSpaced hblank] at h
    exact Text.isInfix_of_phraseOccursIn h
  · exact Text.isInfix_of_mem_words (List.contains_iff_mem.1 h)

/-! ### Literal matchers -/

theorem isMatch_ofWords {m : ChatMessage} :
    (ofWords configured options).isMatch options m = true ↔
      (options.oneWord = true → (comparedTokens options m).length = 1) ∧
        ∃ w ∈ (configured.map (comparedWord options)).filter (!·.isEmpty),
          wordMatches options (comparedText options m) (comparedTokens options m) w = true := by
  unfold isMatch ofWords
  by_cases hone : options.oneWord = true ∧ (comparedTokens options m).length ≠ 1
  · rw [if_pos (by simpa using hone)]
    exact iff_of_false nofun fun h => hone.2 (h.1 hone.1)
  · rw [if_neg (by simpa using hone)]
    have hlength : options.oneWord = true → (comparedTokens options m).length = 1 := fun h =>
      not_not.1 fun hne => hone ⟨h, hne⟩
    exact List.any_eq_true.trans (and_iff_right hlength).symm

/-- The message in which the words of a matcher are looked for in the given mode is matched. -/
def Found (configured : List String) (options : RuleOptions) (m : ChatMessage) (exact substring : Bool) : Prop :=
  (ofWords configured (inMode options exact substring)).isMatch (inMode options exact substring) m = true

instance (configured : List String) (options : RuleOptions) (m : ChatMessage) (exact substring : Bool) :
    Decidable (Found configured options m exact substring) := inferInstanceAs (Decidable (_ = true))

/--
Words are compared where blanks do not matter: in a normalized text, in a message of a single token, in a single-spaced
text, or where the words themselves have no blanks.
-/
def BlanksSettled (configured : List String) (options : RuleOptions) (text : String) : Prop :=
  options.caseSensitive = true → options.oneWord = true ∨ SingleSpaced (trim text) ∨
    ∀ word ∈ configured, ∀ c ∈ (trim word).toList, isBlank c = false

instance (configured : List String) (options : RuleOptions) (text : String) :
    Decidable (BlanksSettled configured options text) := inferInstanceAs (Decidable (_ → _))

theorem BlanksSettled.blanksAgree (h : BlanksSettled configured options text)
    (hone : options.oneWord = true → (comparedTokens options (.ofText id userId userLogin text)).length = 1)
    (hword : word ∈ configured) :
    BlanksAgree (comparedText options (.ofText id userId userLogin text)) (comparedWord options word) := by
  by_cases hcase : options.caseSensitive = true
  · rw [comparedTokens, if_pos hcase] at hone
    rw [comparedText, comparedWord, if_pos hcase, if_pos hcase]
    rcases h hcase with hsingle | hspaced | hnone
    · exact .inl (Text.singleSpaced_trim_of_length (hone hsingle))
    · exact .inl hspaced
    · exact .inr (hnone word hword)
  · exact .inl (singleSpaced_comparedText fun htrue => absurd htrue hcase)

/-- A mode is nested in another one if every word that it finds is found there, provided that blanks do not matter. -/
theorem Found.mono {exact substring exact' substring' : Bool}
    (h : Found configured options (.ofText id userId userLogin text) exact substring)
    (hblanks : BlanksSettled configured options text)
    (hword : ∀ s word, word ≠ "" → BlanksAgree s word →
      wordMatches (inMode options exact substring) s (words s) word = true →
        wordMatches (inMode options exact' substring') s (words s) word = true) :
    Found configured options (.ofText id userId userLogin text) exact' substring' := by
  obtain ⟨hone, w, hw, hmatch⟩ := isMatch_ofWords.1 h
  refine isMatch_ofWords.2 ⟨hone, w, hw, ?_⟩
  obtain ⟨hne, word, hmem, rfl⟩ := mem_stored hw
  rw [comparedTokens_ofText] at hmatch ⊢
  exact hword _ _ hne (hblanks.blanksAgree hone hmem) hmatch

/--
Literal words that are the whole message are found among its tokens, and words that are found among the tokens are found
anywhere, where blanks do not matter: always in a normalized text and in a message of one token, and in the text as it
was sent if it is single-spaced or the words have no blanks.
-/
theorem isMatch_nested (h : BlanksSettled configured options text) (substring : Bool) :
    let m := ChatMessage.ofText id userId userLogin text
    (Found configured options m true substring → Found configured options m false false) ∧
      (Found configured options m false false → Found configured options m false true) := by
  refine ⟨fun hexact => hexact.mono h ?_, fun htokens => htokens.mono h ?_⟩
  · intro s word hne hblanks
    exact wordMatches_tokens_of_exact hne hblanks
  · intro s word _ hblanks
    exact wordMatches_substring_of_tokens hblanks

/-- A phrase in a single-spaced text that is compared as it was sent is found among the tokens and anywhere. -/
theorem isMatch_nested_phrase :
    let m := ChatMessage.ofText "m1" "7" "7" " free followers "
    let options : RuleOptions := { caseSensitive := true }
    BlanksSettled ["free followers"] options " free followers " ∧ Found ["free followers"] options m true true ∧
      Found ["free followers"] options m false false ∧ Found ["free followers"] options m false true := by
  intro m options
  have hblanks : BlanksSettled ["free followers"] options " free followers " := by decide +kernel
  have hexact : Found ["free followers"] options m true true := by decide +kernel
  obtain ⟨htokens, hsubstring⟩ : _ ∧ _ := isMatch_nested hblanks true
  exact ⟨hblanks, hexact, htokens hexact, hsubstring (htokens hexact)⟩

/--
Two spaces in a row: the phrase that is the whole message is not found among its tokens, and the phrase that is found
among them is not found anywhere.
-/
theorem found_doubleSpace :
    let m := ChatMessage.ofText "m1" "7" "7" "a  b"
    let options : RuleOptions := { caseSensitive := true }
    (Found ["a  b"] options m true false ∧ ¬ Found ["a  b"] options m false false) ∧
      (Found ["a b"] options m false false ∧ ¬ Found ["a b"] options m false true) := by
  decide +kernel

end ChatModeration.Matcher
