import ChatModeration.Proofs.Rule.WordModes

/-!
# Phrases in the text as it was sent

A case-sensitive matcher looks for the words of a rule among the blank-separated words of the message.  A configured
word is only trimmed, and the words of the message are compared with single spaces between them.  So a phrase is found
just when its words stand next to one another in the message and it has single spaces itself
(`isMatch_caseSensitive_iff`); with other blanks it is not found even in a message that consists of it
(`isMatch_caseSensitive_doubleSpace`).
-/

namespace ChatModeration.Matcher

open Text (isBlank trim words SingleSpaced)

variable {options : RuleOptions} {text s word : String}

/-- Among the words of a text a word is found if it has single spaces and its parts stand there next to one another. -/
theorem wordMatches_tokens_iff (hexact : options.exact = false) (hsubstring : options.substring = false)
    (hne : words word ≠ []) :
    wordMatches options text (words s) word = true ↔ SingleSpaced word ∧ words word <:+: words s := by
  simp only [wordMatches, hexact, hsubstring, Bool.false_eq_true, if_false]
  split
  · exact Text.phraseOccursIn_words hne
  · next hblank =>
    -- a word without blanks is its only part
    have hplain : ∀ c ∈ word.toList, isBlank c = false := by simpa using hblank
    have hnonempty : word ≠ "" := by
      rintro rfl
      exact hne rfl
    have hwords : words word = [word] := Text.words_of_not_blank hnonempty hplain
    have hspaced : SingleSpaced word := by rw [SingleSpaced, hwords, String.intercalate_singleton]
    rw [hwords, and_iff_right hspaced, List.singleton_infix_iff, List.contains_iff_mem]

/-- The stored words are the trimmed forms of the configured ones that are not blank. -/
theorem exists_stored_iff {configured : List String} {P : String → Prop} (hcase : options.caseSensitive = true) :
    (∃ w ∈ (configured.map (comparedWord options)).filter (!·.isEmpty), P w) ↔
      ∃ word ∈ configured, words word ≠ [] ∧ P (trim word) := by
  constructor
  · rintro ⟨w, hw, hP⟩
    obtain ⟨hne, word, hword, rfl⟩ := mem_stored hw
    rw [comparedWord, if_pos hcase] at hne hP
    exact ⟨word, hword, Text.words_ne_nil_of_trim hne, hP⟩
  · rintro ⟨word, hword, hne, hP⟩
    have hcompared : comparedWord options word = trim word := if_pos hcase
    refine ⟨trim word, List.mem_filter.2 ⟨List.mem_map.2 ⟨word, hword, hcompared⟩, ?_⟩, hP⟩
    have hnonempty : trim word ≠ "" := fun hempty =>
      hne (Text.words_eq_nil_iff.2 (Text.trim_eq_empty_iff.1 hempty))
    simpa using hnonempty

/--
A case-sensitive matcher matches a message if the parts of some word that is not blank stand next to one another, in
their order and with their case, among the words of the message, and the word has single spaces between its parts.
-/
theorem isMatch_caseSensitive_iff (configured : List String) (options : RuleOptions) (m : ChatMessage) :
    let raw := { options with caseSensitive := true, exact := false, substring := false, oneWord := false }
    (ofWords configured raw).isMatch raw m = true ↔
      ∃ word ∈ configured, words word ≠ [] ∧ words word <:+: m.rawTokens ∧ SingleSpaced (trim word) := by
  intro raw
  have htokens : comparedTokens raw m = words m.text := rfl
  have hone : raw.oneWord = true → (comparedTokens raw m).length = 1 := nofun
  rw [isMatch_ofWords, and_iff_right hone, exists_stored_iff rfl]
  refine exists_congr fun word => and_congr_right fun _ => and_congr_right fun hne => ?_
  rw [← Text.words_trim] at hne
  rw [htokens, wordMatches_tokens_iff rfl rfl hne, Text.words_trim, and_comm]
  rfl

/-- A phrase with two spaces in a row stands in a message, and is not found there. -/
theorem isMatch_caseSensitive_doubleSpace :
    let options : RuleOptions := { caseSensitive := true }
    let m := ChatMessage.ofText "m1" "7" "7" "get Free  Followers"
    words "Free  Followers" ≠ [] ∧ words "Free  Followers" <:+: m.rawTokens ∧
      (ofWords ["Free  Followers"] options).isMatch options m = false := by
  decide +kernel

end ChatModeration.Matcher
