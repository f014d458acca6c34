import ChatModeration.Advertising
import ChatModeration.Proofs.Config.Compilation
import ChatModeration.Proofs.Text.Writing
import Mathlib.Data.List.Infix

/-!
# Phrases

Banned words, literal words of rules and promotional phrases are looked up in three ways: in a set of tokens, in a list
of tokens and in a text between spaces.  A normalized text consists of its words with single spaces between them
(`intercalate_words_normalize`), so a phrase is found between spaces just when its words stand next to one another among
those of the text (`phraseOccursIn_normalize`).  Hence the three ways find the same phrases (`phrases_agree`).
-/

namespace ChatModeration

namespace Text

/-! ### Runs between separators -/

section Runs

variable {p : Char → Bool} {c : Char} {w cs : List Char} {us ws : List (List Char)}

private theorem runsFrom_of_forall (h : ∀ c ∈ w, p c = true) (run : List Char) :
    runsFrom p run w = runsFrom p (w.reverse ++ run) [] := by
  induction w generalizing run with
  | nil => rfl
  | cons c w ih =>
    obtain ⟨hc, hw⟩ := List.forall_mem_cons.1 h
    have hrun : runsFrom p run (c :: w) = runsFrom p (c :: run) w := if_pos hc
    rw [hrun, ih hw, List.reverse_cons, List.append_assoc, List.singleton_append]

/-- Characters that all satisfy the predicate are a single run. -/
theorem runs_of_forall (hne : w ≠ []) (h : ∀ c ∈ w, p c = true) : runs p w = [w] := by
  rw [runs, runsFrom_of_forall h, List.append_nil, runsFrom, List.reverse_reverse]
  exact if_neg (by simpa using hne)

/-- The runs of words with separators between them are these words. -/
theorem runs_intercalate (hc : p c = false) (h : ∀ w ∈ ws, w ≠ [] ∧ ∀ c ∈ w, p c = true) :
    runs p ([c].intercalate ws) = ws := by
  induction ws with
  | nil => rfl
  | cons w ws ih =>
    obtain ⟨⟨hne, hw⟩, hws⟩ := List.forall_mem_cons.1 h
    cases ws with
    | nil => rw [List.intercalate_singleton, runs_of_forall hne hw]
    | cons w' ws =>
      rw [List.intercalate_cons_cons, List.append_assoc, List.singleton_append, runs_append_cons hc,
        runs_of_forall hne hw, ih hws, List.singleton_append]

/-- Separators around a text are in no run. -/
theorem runs_between (hc : p c = false) (w : List Char) : runs p ([c] ++ w ++ [c]) = runs p w := by
  have hfirst : runs p (c :: (w ++ [c])) = runs p [] ++ runs p (w ++ [c]) := runs_append_cons hc [] _
  have hlast : runs p (w ++ [c]) = runs p w ++ runs p [] := runs_append_cons hc w []
  rw [List.append_assoc, List.singleton_append, hfirst, hlast]
  exact List.append_nil _

/-- Where a text stands between separators its runs stand next to one another. -/
theorem runs_isInfix (hc : p c = false) (h : [c] ++ w ++ [c] <:+: cs) : runs p w <:+: runs p cs := by
  obtain ⟨before, after, rfl⟩ := h
  refine ⟨runs p before, runs p after, ?_⟩
  have happend : before ++ ([c] ++ w ++ [c]) ++ after = before ++ c :: (w ++ c :: after) := by simp
  rw [happend, runs_append_cons hc, runs_append_cons hc, List.append_assoc]

theorem between_intercalate (hne : ws ≠ []) :
    [c] ++ [c].intercalate ws ++ [c] = ws.flatMap (c :: ·) ++ [c] := by
  congr 1
  induction ws with
  | nil => exact absurd rfl hne
  | cons w ws ih =>
    cases ws with
    | nil => rw [List.intercalate_singleton, List.flatMap_singleton, List.singleton_append]
    | cons w' ws =>
      rw [List.intercalate_cons_cons, List.append_assoc, ih (List.cons_ne_nil w' ws), List.flatMap_cons]
      rfl

/-- Words that stand next to one another are found between separators. -/
theorem between_isInfix (hne : us ≠ []) (h : us <:+: ws) :
    [c] ++ [c].intercalate us ++ [c] <:+: [c] ++ [c].intercalate ws ++ [c] := by
  obtain ⟨before, after, rfl⟩ := h
  have hafter : ∃ rest, after.flatMap (c :: ·) ++ [c] = [c] ++ rest := by
    cases after with
    | nil => exact ⟨[], rfl⟩
    | cons w after => exact ⟨_, rfl⟩
  obtain ⟨rest, hrest⟩ := hafter
  rw [between_intercalate hne, between_intercalate (by simp [hne])]
  refine ⟨before.flatMap (c :: ·), rest, ?_⟩
  rw [List.flatMap_append, List.flatMap_append, List.append_assoc _ _ [c], hrest]
  simp only [List.append_assoc]

end Runs

/-! ### Words of a normalized text -/

/-- The code points of the blank characters. -/
def blankCodes : List Nat :=
  List.range' 0x9 5 ++ [0x20, 0x85, 0xA0, 0x1680] ++ List.range' 0x2000 11 ++ [0x2028, 0x2029, 0x202F, 0x205F, 0x3000]

theorem isBlank_iff {c : Char} : isBlank c = true ↔ c.toNat ∈ blankCodes := by
  simp only [isBlank, blankCodes, List.mem_append, List.mem_range'_1, List.mem_cons, List.not_mem_nil,
    Bool.or_eq_true, Bool.and_eq_true, decide_eq_true_eq, beq_iff_eq, or_false]
  omega

/-- Letters and digits are not blank. -/
theorem isBlank_of_isAlphanumeric {c : Char} (h : isAlphanumeric c = true) : isBlank c = false := by
  have hcodes : ∀ n ∈ blankCodes, isAlphanumeric (Char.ofNat n) = false := by decide +kernel
  by_contra hc
  have hblank := hcodes c.toNat (isBlank_iff.1 (by simpa using hc))
  rw [Char.ofNat_toNat, h] at hblank
  cases hblank

theorem map_toList_ofList (ws : List (List Char)) : (ws.map String.ofList).map String.toList = ws := by
  have hid : String.toList ∘ String.ofList = id := funext fun cs => String.toList_ofList
  rw [List.map_map, hid, List.map_id]

/-- The words of a normalized text are those from which it is made. -/
theorem words_normalize (s : String) : words (normalize s) = (normalizedWords s.toList).map String.ofList := by
  have hruns : ∀ w ∈ normalizedWords s.toList, w ≠ [] ∧ ∀ c ∈ w, (!isBlank c) = true := by
    intro w hw
    obtain ⟨hne, hw⟩ := of_mem_runs hw
    exact ⟨hne, fun c hc => by rw [isBlank_of_isAlphanumeric (hw c hc)]; rfl⟩
  rw [words, toList_normalize, runs_intercalate rfl hruns]

/-- A normalized text consists of its words with single spaces between them. -/
theorem intercalate_words_normalize (s : String) : " ".intercalate (words (normalize s)) = normalize s := by
  rw [← String.toList_inj, String.toList_intercalate, words_normalize, map_toList_ofList, toList_normalize]
  rfl

theorem words_normalize_eq_nil_iff {s : String} : words (normalize s) = [] ↔ normalize s = "" := by
  constructor
  · intro h
    rw [← intercalate_words_normalize, h]
    rfl
  · intro h
    rw [h]
    rfl

/-- A normalized text without a space is a single word. -/
theorem words_normalize_of_not_mem {s : String} (hne : normalize s ≠ "") (h : ' ' ∉ (normalize s).toList) :
    words (normalize s) = [normalize s] := by
  have hjoin := intercalate_words_normalize s
  cases hwords : words (normalize s) with
  | nil => exact absurd (words_normalize_eq_nil_iff.1 hwords) hne
  | cons w ws =>
    rw [hwords] at hjoin
    cases ws with
    | nil => rw [← hjoin, String.intercalate_singleton]
    | cons w' ws =>
      rw [← hjoin, String.toList_intercalate, List.map_cons, List.map_cons, List.intercalate_cons_cons] at h
      exact absurd (List.mem_append_left _ (List.mem_append_right _ List.mem_cons_self)) h

/-! ### Phrases in a normalized text -/

theorem occursInChars_iff {needle cs : List Char} : occursInChars needle cs = true ↔ needle <:+: cs := by
  induction cs with
  | nil => rw [occursInChars, List.isEmpty_iff, List.infix_nil]
  | cons c cs ih => rw [occursInChars, Bool.or_eq_true, List.isPrefixOf_iff_prefix, ih, List.infix_cons_iff]

theorem toList_padded (s : String) : (padded s).toList = [' '] ++ s.toList ++ [' '] := by
  simp [padded]

/-- A phrase is found in a text when its words stand next to one another among those of the text. -/
theorem phraseOccursIn_normalize {phrase text : String} (hne : words (normalize phrase) ≠ []) :
    phraseOccursIn (normalize phrase) (normalize text) = true ↔
      words (normalize phrase) <:+: words (normalize text) := by
  rw [phraseOccursIn, occursIn, occursInChars_iff, toList_padded, toList_padded]
  constructor
  · intro h
    -- the spaces around the phrase make its words whole words of the text
    have hruns := (runs_isInfix (p := fun c => !isBlank c) rfl h).map String.ofList
    rwa [runs_between rfl] at hruns
  · intro h
    rw [← intercalate_words_normalize phrase, ← intercalate_words_normalize text, String.toList_intercalate,
      String.toList_intercalate]
    exact between_isInfix (by simpa using hne) (h.map String.toList)

end Text

/-! ### Links to other channels -/

namespace Advertising

variable {sender channel : String} {others : List String} {linked : String}

/-- What the links to other channels say, where those to the current one have been passed over. -/
def Findings.ofOthers (sender : String) (others : List String) : Findings where
  linkedOwn := others.contains sender
  foreign := others.head?

/-- A link to the current channel changes nothing, and a link to another one counts as the last of them. -/
theorem Findings.look_ofOthers :
    (ofOthers sender others).look sender channel linked =
      ofOthers sender (if linked = channel then others else others ++ [linked]) := by
  rw [look]
  by_cases hcurrent : linked = channel
  · rw [if_pos (by simpa using hcurrent), if_pos hcurrent]
  · rw [if_neg (by simpa using hcurrent), if_neg hcurrent, ofOthers, ofOthers]
    congr 1
    · rw [List.contains_append, List.contains_cons, List.contains_nil, Bool.or_false, Bool.beq_comm]
    · rw [List.head?_append, List.head?_singleton]

/-- All links together say whether one of the other channels is that of the sender, and which is the first of them. -/
theorem Findings.foldl_look (sender channel : String) (links : List String) :
    links.foldl (look sender channel) {} = ofOthers sender (links.filter (· != channel)) := by
  induction links using List.reverseRecOn with
  | nil => rfl
  | append_singleton links linked ih =>
    rw [List.foldl_append, ih, List.foldl_cons, List.foldl_nil, look_ofOthers, List.filter_append]
    by_cases hcurrent : linked = channel <;> simp [hcurrent]

end Advertising

/-! ### The three ways of looking phrases up -/

namespace ChatMessage

variable {id userId userLogin text : String}

theorem normalized_ofText : (ofText id userId userLogin text).normalized = Text.normalize text := by
  rw [ofText]

theorem tokens_ofText : (ofText id userId userLogin text).tokens = Text.words (Text.normalize text) := by
  rw [ofText]

/-- Whether the words of a phrase, of which there is at least one, stand next to one another in a message. -/
def Says (m : ChatMessage) (phrase : String) : Prop :=
  Text.words (Text.normalize phrase) ≠ [] ∧ Text.words (Text.normalize phrase) <:+: m.tokens

instance (m : ChatMessage) (phrase : String) : Decidable (m.Says phrase) := inferInstanceAs (Decidable (_ ∧ _))

/-- A phrase is said in a message when it is found between spaces. -/
theorem says_ofText_iff {phrase : String} (hne : Text.normalize phrase ≠ "") :
    (ofText id userId userLogin text).Says phrase ↔
      Text.phraseOccursIn (Text.normalize phrase) (Text.normalize text) = true := by
  have hwords : Text.words (Text.normalize phrase) ≠ [] := Text.words_normalize_eq_nil_iff.not.2 hne
  rw [Says, and_iff_right hwords, tokens_ofText, Text.phraseOccursIn_normalize hwords]

/-- A phrase of one word is said in a message when it is among the tokens. -/
theorem says_iff_mem {m : ChatMessage} {phrase : String} (hne : Text.normalize phrase ≠ "")
    (hspace : ' ' ∉ (Text.normalize phrase).toList) : m.Says phrase ↔ Text.normalize phrase ∈ m.tokens := by
  rw [Says, and_iff_right (Text.words_normalize_eq_nil_iff.not.2 hne), Text.words_normalize_of_not_mem hne hspace,
    List.singleton_infix_iff]

/-- A phrase of several words is looked up between spaces, and a single word among the tokens. -/
def Shows (m : ChatMessage) (s : String) : Prop :=
  if Snapshot.isPhrase s = true then Text.phraseOccursIn s m.normalized = true else s ∈ m.tokens

theorem shows_ofText_iff {phrase : String} (hne : Text.normalize phrase ≠ "") :
    (ofText id userId userLogin text).Shows (Text.normalize phrase) ↔
      (ofText id userId userLogin text).Says phrase := by
  rw [Shows]
  split
  · rw [normalized_ofText, says_ofText_iff hne]
  · next hspace => rw [says_iff_mem hne (by simpa [Snapshot.isPhrase] using hspace)]

/-- A phrase that vanishes is not said. -/
theorem Says.normalize_ne {m : ChatMessage} {phrase : String} (h : m.Says phrase) : Text.normalize phrase ≠ "" :=
  Text.words_normalize_eq_nil_iff.not.1 h.1

end ChatMessage

section Lists

variable {id userId userLogin text : String} {phrases tokens : List String}

/-- Among the phrases made ready one is found when one is said, if being found and being said are the same. -/
theorem Snapshot.exists_mem_normalizedPhrases {m : ChatMessage} (found : String → Prop)
    (h : ∀ phrase, Text.normalize phrase ≠ "" → (found (Text.normalize phrase) ↔ m.Says phrase)) :
    (∃ s ∈ normalizedPhrases phrases, found s) ↔ ∃ phrase ∈ phrases, m.Says phrase := by
  simp only [normalizedPhrases, List.mem_filter, List.mem_map, Bool.not_eq_true', String.isEmpty_eq_false_iff]
  constructor
  · rintro ⟨_, ⟨⟨phrase, hphrase, rfl⟩, hne⟩, hfound⟩
    exact ⟨phrase, hphrase, (h phrase hne).1 hfound⟩
  · rintro ⟨phrase, hphrase, hsays⟩
    exact ⟨_, ⟨⟨phrase, hphrase, rfl⟩, hsays.normalize_ne⟩, (h phrase hsays.normalize_ne).2 hsays⟩

/-- Without options phrases of several words are looked up between spaces, and single words among the tokens. -/
theorem Matcher.isMatch_ofWords_iff :
    (ofWords phrases {}).isMatch {} (.ofText id userId userLogin text) = true ↔
      ∃ phrase ∈ phrases, (ChatMessage.ofText id userId userLogin text).Says phrase := by
  have hwords : ofWords phrases {} = literal (Snapshot.normalizedPhrases phrases) := rfl
  rw [hwords, isMatch]
  simp only [Bool.false_and, Bool.false_eq_true, if_false, List.any_eq_true]
  refine Snapshot.exists_mem_normalizedPhrases _ fun phrase hne => ?_
  simp only [wordMatches, comparedTokens, comparedText, Bool.false_eq_true, if_false]
  split
  · rw [ChatMessage.tokens_ofText, Text.intercalate_words_normalize, ChatMessage.says_ofText_iff hne]
  · next hblank =>
    have hspace : ' ' ∉ (Text.normalize phrase).toList := fun h => hblank (List.any_eq_true.2 ⟨' ', h, rfl⟩)
    rw [List.contains_iff_mem, ChatMessage.says_iff_mem hne hspace]

theorem Snapshot.isSome_banned?_iff {s : Snapshot} {normalized : String} :
    (s.banned? tokens normalized).isSome = true ↔
      (∃ token ∈ s.bannedTokens, token ∈ tokens) ∨
        ∃ phrase ∈ s.bannedPhrases, Text.phraseOccursIn phrase normalized = true := by
  rw [banned?]
  cases htoken : tokens.find? s.bannedTokens.contains with
  | some token =>
    have hbanned : token ∈ s.bannedTokens := List.contains_iff_mem.1 (List.find?_some htoken)
    exact iff_of_true rfl (.inl ⟨token, hbanned, List.mem_of_find?_eq_some htoken⟩)
  | none =>
    have hnone : ¬ ∃ token ∈ s.bannedTokens, token ∈ tokens := by
      rintro ⟨token, hbanned, htokens⟩
      exact List.find?_eq_none.1 htoken token htokens (List.contains_iff_mem.2 hbanned)
    rw [or_iff_right hnone, List.find?_isSome]

theorem Snapshot.isSome_banned?_compile_iff {c : Config} {m : ChatMessage} :
    ((compile c).banned? m.tokens m.normalized).isSome = true ↔ ∃ s ∈ normalizedPhrases c.bannedWords, m.Shows s := by
  rw [isSome_banned?_iff, ← exists_or, compile_eq]
  refine exists_congr fun s => ?_
  simp only [ofParts, ChatMessage.Shows, List.mem_filter]
  cases isPhrase s <;> simp

/-- The channel that is advertised, by all links to channels other than the current one. -/
theorem Advertising.advertised?_eq {m : ChatMessage} {channel : String} :
    advertised? m channel phrases =
      if Text.lowercase m.userLogin ∈ (linkedChannels m.text).filter (· != channel) ∨
          Text.lowercase m.userLogin ∈ m.tokens ∨
            ∃ phrase ∈ phrases, Text.phraseOccursIn phrase m.normalized = true then
        ((linkedChannels m.text).filter (· != channel)).head?
      else none := by
  rw [advertised?, Findings.foldl_look]
  dsimp only [Findings.ofOthers]
  cases ((linkedChannels m.text).filter (· != channel)).head? with
  | none => rw [ite_self]
  | some foreign => simp only [Bool.or_eq_true, List.contains_iff_mem, List.any_eq_true, or_assoc]

/--
A phrase is said in a message if its words, of which there is at least one, stand next to one another in it.  Whether
the message says one of some phrases is found out in the same way where they are banned words, the literal words of a
rule without options, and promotional phrases.
-/
theorem phrases_agree (c : Config) (id userId userLogin text channel : String) :
    let m := ChatMessage.ofText id userId userLogin text
    let links := (Advertising.linkedChannels m.text).filter (· != channel)
    (((Snapshot.compile c).banned? m.tokens m.normalized).isSome = true ↔ ∃ phrase ∈ c.bannedWords, m.Says phrase) ∧
      ((Matcher.ofWords c.bannedWords {}).isMatch {} m = true ↔ ∃ phrase ∈ c.bannedWords, m.Says phrase) ∧
      ((∃ phrase ∈ (Snapshot.compile c).promoPhrases, Text.phraseOccursIn phrase m.normalized = true) ↔
        ∃ phrase ∈ c.advertising.promoPhrases, m.Says phrase) ∧
      Advertising.advertised? m channel (Snapshot.compile c).promoPhrases =
        if Text.lowercase m.userLogin ∈ links ∨ Text.lowercase m.userLogin ∈ m.tokens ∨
            ∃ phrase ∈ c.advertising.promoPhrases, m.Says phrase then links.head?
        else none := by
  have hpromo : (∃ phrase ∈ (Snapshot.compile c).promoPhrases,
      Text.phraseOccursIn phrase (ChatMessage.ofText id userId userLogin text).normalized = true) ↔
        ∃ phrase ∈ c.advertising.promoPhrases, (ChatMessage.ofText id userId userLogin text).Says phrase := by
    rw [ChatMessage.normalized_ofText]
    exact Snapshot.exists_mem_normalizedPhrases _ fun phrase hne => (ChatMessage.says_ofText_iff hne).symm
  refine ⟨?_, Matcher.isMatch_ofWords_iff, hpromo, ?_⟩
  · rw [Snapshot.isSome_banned?_compile_iff]
    exact Snapshot.exists_mem_normalizedPhrases _ fun phrase hne => ChatMessage.shows_ofText_iff hne
  · simp only [Advertising.advertised?_eq, hpromo]

end Lists

end ChatModeration
