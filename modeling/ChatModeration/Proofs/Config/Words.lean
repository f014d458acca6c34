import ChatModeration.Proofs.Config.Compilation
import ChatModeration.Proofs.Config.Tiers
import ChatModeration.Proofs.Rule.RawPhrases

/-!
# Words of accepted configurations

A rule without a pattern and a group without patterns are accepted if they have a word, whatever it looks like.  The
matchers of such a rule keep the words of which something is left when they are made ready (`Matcher.Leaves`), and a
word that is kept is found in some text just when it is found in itself (`Matcher.exists_wordMatches_iff`): always but
for a phrase that is looked for among the tokens of the text as it was sent and does not have single spaces.  So a rule
looks for those of its words that can be found (`Config.looksFor_of_validate`), and there are accepted rules that have
no such word (`Config.validate_deadWords`).
-/

namespace ChatModeration

namespace Matcher

open Text (isBlank isAlphanumeric foldedForm trim words SingleSpaced)

variable {options : RuleOptions} {s w word id userId userLogin : String}

/-! ### Words of which something is left -/

/-- The words that a matcher keeps. -/
def storedWords : Matcher → List String
  | literal words => words
  | _ => []

/--
Something is left of a word where it is made ready: a character that is not blank where case matters, a letter or digit
of its folded form otherwise.
-/
def Leaves (options : RuleOptions) (word : String) : Prop :=
  if options.caseSensitive then ∃ c ∈ word.toList, isBlank c = false
  else ∃ c ∈ foldedForm word.toList, isAlphanumeric c = true

theorem comparedWord_ne_empty_iff : comparedWord options word ≠ "" ↔ Leaves options word := by
  unfold comparedWord Leaves
  split
  · rw [ne_eq, Text.trim_eq_empty_iff]
    simp
  · rw [ne_eq, Text.normalize_eq_empty_iff]
    simp

instance (options : RuleOptions) (word : String) : Decidable (Leaves options word) :=
  decidable_of_iff _ comparedWord_ne_empty_iff

theorem words_comparedWord (h : Leaves options word) : words (comparedWord options word) ≠ [] := by
  have hne : comparedWord options word ≠ "" := comparedWord_ne_empty_iff.2 h
  unfold comparedWord at hne ⊢
  split
  · rename_i hcase
    rw [if_pos hcase] at hne
    rw [Text.words_trim]
    exact Text.words_ne_nil_of_trim hne
  · rename_i hcase
    rw [if_neg hcase] at hne
    exact Text.words_normalize_eq_nil_iff.not.2 hne

/-- A matcher of words keeps one if something is left of one of them. -/
theorem storedWords_ofWords_ne_nil_iff {configured : List String} :
    (ofWords configured options).storedWords ≠ [] ↔ ∃ word ∈ configured, Leaves options word := by
  simp [storedWords, ofWords, ← comparedWord_ne_empty_iff, List.filter_eq_nil_iff]

/-! ### Words that can be found -/

/--
A word that can be found: something is left of it, and it has single spaces if it is looked for among the tokens of the
text as it was sent.
-/
def Findable (options : RuleOptions) (word : String) : Prop :=
  Leaves options word ∧
    (options.caseSensitive = true → options.exact = false → options.substring = false → SingleSpaced (trim word))

instance (options : RuleOptions) (word : String) : Decidable (Findable options word) :=
  inferInstanceAs (Decidable (_ ∧ (_ → _ → _ → _)))

/-- A word is found in itself, but for a phrase without single spaces among its own words. -/
theorem wordMatches_self_iff (hne : words w ≠ []) :
    wordMatches options w (words w) w = true ↔
      (options.exact = false → options.substring = false → SingleSpaced w) := by
  cases hexact : options.exact with
  | true => simp [wordMatches, hexact]
  | false =>
    cases hsubstring : options.substring with
    | true => simp [wordMatches, hexact, hsubstring, Text.occursIn, Text.occursInChars_iff]
    | false => simp [wordMatches_tokens_iff hexact hsubstring hne]

/-- A word that is found in some text is found in itself. -/
theorem wordMatches_self (hne : words w ≠ []) (h : wordMatches options s (words s) w = true) :
    wordMatches options w (words w) w = true := by
  rw [wordMatches_self_iff hne]
  intro hexact hsubstring
  exact ((wordMatches_tokens_iff hexact hsubstring hne).1 h).1

/-- The text that is compared where a message consists of a word. -/
theorem comparedText_word : comparedText options (.ofText id userId userLogin word) = comparedWord options word := by
  unfold comparedText comparedWord
  rw [ChatMessage.normalized_ofText]
  rfl

theorem singleSpaced_comparedWord_iff :
    (options.exact = false → options.substring = false → SingleSpaced (comparedWord options word)) ↔
      (options.caseSensitive = true → options.exact = false → options.substring = false →
        SingleSpaced (trim word)) := by
  unfold comparedWord
  cases options.caseSensitive with
  | true => simp
  | false => simp [Text.singleSpaced_normalize]

/-- A word of which something is left is found in some message if it can be found. -/
theorem exists_wordMatches_iff (h : Leaves options word) :
    (∃ text, wordMatches options (comparedText options (.ofText id userId userLogin text))
        (comparedTokens options (.ofText id userId userLogin text)) (comparedWord options word) = true) ↔
      Findable options word := by
  have hne : words (comparedWord options word) ≠ [] := words_comparedWord h
  simp only [comparedTokens_ofText]
  rw [Findable, and_iff_right h, ← singleSpaced_comparedWord_iff, ← wordMatches_self_iff hne]
  constructor
  · rintro ⟨text, hfound⟩
    exact wordMatches_self hne hfound
  · -- the text that consists of the word
    intro hself
    exact ⟨word, by rwa [comparedText_word]⟩

/-- A matcher of words matches some message if one of its words can be found. -/
theorem exists_isMatch_ofWords_iff {configured : List String} (hone : options.oneWord = false) :
    (∃ text, (ofWords configured options).isMatch options (.ofText id userId userLogin text) = true) ↔
      ∃ word ∈ configured, Findable options word := by
  have hany : ∀ {P : Prop}, (options.oneWord = true → P) := fun h => by simp [hone] at h
  simp only [isMatch_ofWords, and_iff_right hany]
  constructor
  · rintro ⟨text, w, hw, hfound⟩
    obtain ⟨hne, word, hword, rfl⟩ := mem_stored hw
    exact ⟨word, hword, (exists_wordMatches_iff (comparedWord_ne_empty_iff.1 hne)).1 ⟨text, hfound⟩⟩
  · rintro ⟨word, hword, hfindable⟩
    obtain ⟨text, hfound⟩ := (exists_wordMatches_iff hfindable.1).2 hfindable
    have hne : comparedWord options word ≠ "" := comparedWord_ne_empty_iff.2 hfindable.1
    exact ⟨text, _, List.mem_filter.2 ⟨List.mem_map_of_mem hword, by simpa using hne⟩, hfound⟩

end Matcher

/-! ### Rules of words -/

namespace Rule

variable {rule : Rule}

/-- The rule for messages of any number of tokens. -/
def anyLength (rule : Rule) : Rule := { rule with options := { rule.options with oneWord := false } }

/--
What a rule made of words looks for: its matchers are literal, they keep a word if something is left of one of the
configured words, and some message of any number of tokens is matched if one of the words can be found.
-/
structure LooksFor (rule : Rule) (configured : List String) : Prop where
  nonempty : configured ≠ []
  literal : ∀ m ∈ rule.matchers, m = .literal m.storedWords
  keeps : (∃ m ∈ rule.matchers, m.storedWords ≠ []) ↔ ∃ word ∈ configured, Matcher.Leaves rule.options word
  finds : ∀ id userId userLogin,
    (∃ text, rule.anyLength.firstMatch? (.ofText id userId userLogin text) ≠ none) ↔
      ∃ word ∈ configured, Matcher.Findable rule.options word

theorem firstMatch?_ne_none_iff {m : ChatMessage} :
    rule.firstMatch? m ≠ none ↔ ∃ matcher ∈ rule.matchers, matcher.isMatch rule.options m = true := by
  rw [firstMatch?, Option.ne_none_iff_isSome, List.findIdx?_isSome, List.any_eq_true]

private theorem exists_mem_flatten_iff {α : Type} {parts : List (List α)} {P : α → Prop} :
    (∃ a ∈ parts.flatten, P a) ↔ ∃ part ∈ parts, ∃ a ∈ part, P a := by
  simp only [List.mem_flatten]
  constructor
  · rintro ⟨a, ⟨part, hpart, ha⟩, h⟩
    exact ⟨part, hpart, a, ha, h⟩
  · rintro ⟨part, hpart, a, ha, h⟩
    exact ⟨a, ⟨part, hpart, ha⟩, h⟩

/-- A rule of which each matcher has some of the words. -/
theorem looksFor_flatten {parts : List (List String)}
    (hmatchers : rule.matchers = parts.map (Matcher.ofWords · rule.options)) (hne : parts.flatten ≠ []) :
    rule.LooksFor parts.flatten where
  nonempty := hne
  literal := by
    rw [hmatchers, List.forall_mem_map]
    exact fun _ _ => rfl
  keeps := by
    rw [hmatchers, exists_mem_flatten_iff]
    simp only [List.mem_map, exists_exists_and_eq_and, Matcher.storedWords_ofWords_ne_nil_iff]
  finds id userId userLogin := by
    have hany : rule.anyLength.matchers = parts.map (Matcher.ofWords · rule.anyLength.options) := hmatchers
    simp only [firstMatch?_ne_none_iff, hany, List.mem_map, exists_exists_and_eq_and]
    rw [exists_comm, exists_mem_flatten_iff]
    simp only [exists_and_left]
    exact exists_congr fun _ => and_congr_right fun _ => Matcher.exists_isMatch_ofWords_iff rfl

end Rule

theorem RuleEntry.looksFor {r : RuleEntry} (hwords : r.words ≠ []) (hpattern : r.pattern = none) :
    r.compile.LooksFor r.words := by
  -- one matcher for all words
  have hmatchers : r.compile.matchers = [r.words].map (Matcher.ofWords · r.options) := by
    rw [compile_eq, hpattern]
    rfl
  have hflatten : [r.words].flatten = r.words := List.flatten_singleton
  rw [← hflatten]
  exact Rule.looksFor_flatten hmatchers (by rwa [hflatten])

theorem GroupEntry.looksFor {g : GroupEntry} (hwords : g.words ≠ []) (hpatterns : g.patterns = []) :
    g.compile.LooksFor g.words := by
  -- one matcher for each word
  have hmatchers : g.compile.matchers = (g.words.map ([·])).map (Matcher.ofWords · g.options) := by
    rw [compile_eq, hpatterns, List.map_map]
    exact List.append_nil _
  have hflatten : (g.words.map ([·])).flatten = g.words := by
    rw [← List.flatMap_def, List.flatMap_singleton']
  rw [← hflatten]
  exact Rule.looksFor_flatten hmatchers (by rwa [hflatten])

namespace Config

theorem words_ne_nil_of_checkRule {r : RuleEntry} (h : checkRule r = .ok ()) (hpattern : r.pattern = none) :
    r.words ≠ [] := by
  obtain ⟨_, -, h⟩ := bind_eq_ok h
  obtain ⟨_, hsome, -⟩ := bind_eq_ok h
  simpa [hpattern] using of_ensure hsome

theorem words_ne_nil_of_checkGroup {g : GroupEntry} (h : checkGroup g = .ok ()) (hpatterns : g.patterns = []) :
    g.words ≠ [] := by
  obtain ⟨_, -, h⟩ := bind_eq_ok h
  obtain ⟨_, hsome, -⟩ := bind_eq_ok h
  simpa [hpatterns] using of_ensure hsome

/--
Every rule without a pattern and every group without patterns of an accepted configuration has words, and looks for
those of them that can be found.
-/
theorem looksFor_of_validate {c : Config} (h : c.validate = .ok ()) :
    (∀ r ∈ c.rules, r.pattern = none → r.compile.LooksFor r.words) ∧
      ∀ g ∈ c.groups, g.patterns = [] → g.compile.LooksFor g.words := by
  obtain ⟨_, hrules, h⟩ := bind_eq_ok h
  obtain ⟨_, hgroups, -⟩ := bind_eq_ok h
  constructor
  · intro r hr hpattern
    exact RuleEntry.looksFor (words_ne_nil_of_checkRule (forall_of_forM hrules r hr) hpattern) hpattern
  · intro g hg hpatterns
    exact GroupEntry.looksFor (words_ne_nil_of_checkGroup (forall_of_forM hgroups g hg) hpatterns) hpatterns

/-- A configuration with a rule and a group that look for words that can be found. -/
def liveWords : Config :=
  { standard with
    rules := [{ name := "offers", words := ["!!!", "Free  Followers"], punishments := [.delete] }]
    groups := [{ name := "links", options := { caseSensitive := true, oneWord := true }, words := ["", " HTTP "],
                 punishments := [.delete] }] }

theorem looksFor_of_validate_liveWords :
    liveWords.validate = .ok () ∧
      (∀ r ∈ liveWords.rules, ∃ text, r.compile.anyLength.firstMatch? (.ofText "m1" "7" "7" text) ≠ none) ∧
      ∀ g ∈ liveWords.groups, ∃ text, g.compile.anyLength.firstMatch? (.ofText "m1" "7" "7" text) ≠ none := by
  have hvalid : liveWords.validate = .ok () := by decide +kernel
  obtain ⟨hrules, hgroups⟩ := looksFor_of_validate hvalid
  have hrule : ∀ r ∈ liveWords.rules, r.pattern = none ∧ ∃ word ∈ r.words, Matcher.Findable r.options word := by
    decide +kernel
  have hgroup : ∀ g ∈ liveWords.groups, g.patterns = [] ∧ ∃ word ∈ g.words, Matcher.Findable g.options word := by
    decide +kernel
  refine ⟨hvalid, fun r hr => ?_, fun g hg => ?_⟩
  · exact ((hrules r hr (hrule r hr).1).finds _ _ _).2 (hrule r hr).2
  · exact ((hgroups g hg (hgroup g hg).1).finds _ _ _).2 (hgroup g hg).2

/-- A configuration whose rules and group have words that cannot be found. -/
def deadWords : Config :=
  { standard with
    rules := [
      { name := "signs", words := ["!!!"], punishments := [.delete] },
      { name := "spaces", options := { caseSensitive := true }, words := ["a  b"], punishments := [.delete] }]
    groups := [
      { name := "blank", options := { caseSensitive := true }, words := [" "], punishments := [.delete] }] }

/--
Accepted, though its first rule and its group keep no word at all, and no text is matched by either rule or by the
group.
-/
theorem validate_deadWords :
    deadWords.validate = .ok () ∧
      (∀ r ∈ deadWords.rules, r.pattern = none) ∧ (∀ g ∈ deadWords.groups, g.patterns = []) ∧
      (Snapshot.compile deadWords).rules.map Rule.matchers =
        [[.literal []], [.literal ["a  b"]], [.literal []]] ∧
      ∀ rule ∈ (Snapshot.compile deadWords).rules, ∀ id userId userLogin text,
        rule.anyLength.firstMatch? (.ofText id userId userLogin text) = none := by
  have hrules : ∀ r ∈ deadWords.rules, r.pattern = none ∧ r.words ≠ [] ∧
      ¬ ∃ word ∈ r.words, Matcher.Findable r.options word := by decide +kernel
  have hgroups : ∀ g ∈ deadWords.groups, g.patterns = [] ∧ g.words ≠ [] ∧
      ¬ ∃ word ∈ g.words, Matcher.Findable g.options word := by decide +kernel
  refine ⟨by decide +kernel, fun r hr => (hrules r hr).1, fun g hg => (hgroups g hg).1, by decide +kernel, ?_⟩
  intro rule hrule id userId userLogin text
  by_contra hmatch
  rw [Snapshot.rules_compile] at hrule
  rcases List.mem_append.1 hrule with hrule | hrule
  · obtain ⟨r, hr, rfl⟩ := List.mem_map.1 hrule
    obtain ⟨hpattern, hwords, hdead⟩ := hrules r hr
    exact hdead (((RuleEntry.looksFor hwords hpattern).finds id userId userLogin).1 ⟨text, hmatch⟩)
  · obtain ⟨g, hg, rfl⟩ := List.mem_map.1 hrule
    obtain ⟨hpatterns, hwords, hdead⟩ := hgroups g hg
    exact hdead (((GroupEntry.looksFor hwords hpatterns).finds id userId userLogin).1 ⟨text, hmatch⟩)

end Config

end ChatModeration
