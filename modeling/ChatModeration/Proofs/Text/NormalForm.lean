import ChatModeration.Proofs.Text.Words

/-!
# The form of normalized text

A normalized text holds runs of letters and digits with a single space between them and nothing else, and its words are
these runs (`isNormalForm_normalize`).  A message keeps the normalized form of its text and the words of that form,
whatever details are added to it (`normalForm_of_details`).
-/

namespace ChatModeration

namespace Text

/-! ### Joined words -/

section Joined

variable {c d : Char} {ws : List (List Char)}

theorem mem_joined (h : d ∈ [c].intercalate ws) : d = c ∨ ∃ w ∈ ws, d ∈ w := by
  by_cases hne : ws = []
  · subst hne
    contradiction
  · have hmem : d ∈ ws.flatMap (c :: ·) ++ [c] := by
      rw [← between_intercalate hne]
      exact List.mem_append_left _ (List.mem_append_right _ h)
    rcases List.mem_append.1 hmem with hmem | hmem
    · obtain ⟨w, hw, hd⟩ := List.mem_flatMap.1 hmem
      rcases List.mem_cons.1 hd with rfl | hd
      · exact .inl rfl
      · exact .inr ⟨w, hw, hd⟩
    · exact .inl (List.mem_singleton.1 hmem)

/-- Between separators, joined words have no two separators in a row. -/
theorem not_doubled_of_joined (hws : ∀ w ∈ ws, w ≠ [] ∧ c ∉ w) (hne : ws ≠ []) :
    ¬ [c, c] <:+: [c] ++ [c].intercalate ws ++ [c] := by
  rintro ⟨before, after, h⟩
  have hjoined : ws.flatMap (c :: ·) ++ [c] = before ++ c :: c :: after := by
    rw [← between_intercalate hne, ← h]
    simp
  obtain ⟨us, vs, rfl, -, hvs⟩ := eq_append_of_separator (fun w hw => (hws w hw).2) hjoined
  cases vs with
  | nil =>
    have hlength := congrArg List.length hvs
    simp at hlength
  | cons v vs =>
    obtain ⟨hv, hc⟩ := hws v (List.mem_append_right us List.mem_cons_self)
    cases v with
    | nil => contradiction
    | cons d v =>
      have hd : c = d := (List.cons.inj (List.cons.inj hvs).2).1
      exact hc (hd ▸ List.mem_cons_self)

/-- A text that has no two separators in a row between separators neither begins nor ends with one. -/
theorem ends_of_not_doubled {cs : List Char} (h : ¬ [c, c] <:+: [c] ++ cs ++ [c]) :
    cs.head? ≠ some c ∧ cs.getLast? ≠ some c ∧ ¬ [c, c] <:+: cs := by
  refine ⟨fun hhead => h ?_, fun hlast => h ?_, fun hdoubled => h ?_⟩
  · obtain ⟨rest, rfl⟩ := List.head?_eq_some_iff.1 hhead
    exact ⟨[], rest ++ [c], by simp⟩
  · obtain ⟨rest, rfl⟩ := List.getLast?_eq_some_iff.1 hlast
    exact ⟨c :: rest, [], by simp⟩
  · exact hdoubled.trans (List.infix_append [c] cs [c])

end Joined

/-! ### Normal form -/

/-- A text of letters and digits in runs with a single space between them, and these runs. -/
structure IsNormalForm (s : String) (tokens : List String) : Prop where
  /-- Every character is a letter, a digit or a space, and none is one of those that are dropped. -/
  chars : ∀ c ∈ s.toList, (isAlphanumeric c = true ∨ c = ' ') ∧ c ∉ strippedCharacters
  start : s.toList.head? ≠ some ' '
  stop : s.toList.getLast? ≠ some ' '
  /-- No two spaces stand in a row. -/
  single : ¬ [' ', ' '] <:+: s.toList
  runs_eq : tokens.map String.toList = runs isAlphanumeric s.toList
  token : ∀ w ∈ tokens, w ≠ "" ∧ ∀ c ∈ w.toList, isBlank c = false
  joined : " ".intercalate tokens = s

/-- The normalized words consist of letters and digits that are not dropped. -/
theorem of_mem_normalizedWords {cs w : List Char} (h : w ∈ normalizedWords cs) :
    w ≠ [] ∧ ∀ c ∈ w, isAlphanumeric c = true ∧ c ∉ strippedCharacters := by
  obtain ⟨hne, hw⟩ := of_mem_runs h
  refine ⟨hne, fun c hc => ⟨hw c hc, ?_⟩⟩
  have hfolded : c ∈ foldedForm cs := (isInfix_of_mem_runs h).subset hc
  simpa using (List.mem_filter.1 hfolded).2

theorem isAlphanumeric_space : isAlphanumeric ' ' = false := by decide

/-- A normalized text neither begins nor ends with a space, and has no two of them in a row. -/
theorem spaces_normalize (text : String) :
    (normalize text).toList.head? ≠ some ' ' ∧ (normalize text).toList.getLast? ≠ some ' ' ∧
      ¬ [' ', ' '] <:+: (normalize text).toList := by
  rw [toList_normalize]
  by_cases hne : normalizedWords text.toList = []
  · rw [hne]
    simp
  · refine ends_of_not_doubled (not_doubled_of_joined (fun w hw => ?_) hne)
    obtain ⟨hnonempty, hw⟩ := of_mem_normalizedWords hw
    refine ⟨hnonempty, fun hspace => ?_⟩
    have hword := (hw ' ' hspace).1
    rw [isAlphanumeric_space] at hword
    contradiction

/-- The words of a normalized text are its runs of letters and digits. -/
theorem map_toList_words_normalize (text : String) :
    (words (normalize text)).map String.toList = runs isAlphanumeric (normalize text).toList := by
  rw [words_normalize, map_toList_ofList, toList_normalize]
  exact (runs_intercalate isAlphanumeric_space fun w hw => of_mem_runs hw).symm

/-- A normalized text is in normal form, and its words are its runs. -/
theorem isNormalForm_normalize (text : String) : IsNormalForm (normalize text) (words (normalize text)) where
  chars := by
    intro c hc
    rw [toList_normalize] at hc
    rcases mem_joined hc with rfl | ⟨w, hw, hc⟩
    · exact ⟨.inr rfl, by decide⟩
    · obtain ⟨halphanumeric, hkept⟩ := (of_mem_normalizedWords hw).2 c hc
      exact ⟨.inl halphanumeric, hkept⟩
  start := (spaces_normalize text).1
  stop := (spaces_normalize text).2.1
  single := (spaces_normalize text).2.2
  runs_eq := map_toList_words_normalize text
  token := by
    intro w hw
    rw [words] at hw
    obtain ⟨cs, hcs, rfl⟩ := List.mem_map.1 hw
    obtain ⟨hne, hcs⟩ := of_mem_runs hcs
    rw [String.toList_ofList]
    exact ⟨by simpa using hne, fun c hc => by simpa using hcs c hc⟩
  joined := intercalate_words_normalize text

end Text

/-! ### Messages -/

namespace ChatMessage

/-- What is known of a message besides its text. -/
inductive Detail where
  | displayName (name : String)
  | roles (roles : Roles)
  | emotes (count : Nat) (only : Bool)
  | replyParent (parent : Option ReplyParent)
  | held
deriving DecidableEq, Repr

/-- The message with a detail. -/
def addDetail (m : ChatMessage) : Detail → ChatMessage
  | .displayName name => m.withDisplayName name
  | .roles roles => m.withRoles roles
  | .emotes count only => m.withEmotes count only
  | .replyParent parent => m.withReplyParent parent
  | .held => m.held

/-- The message with some details, added one after the other. -/
def withDetails (m : ChatMessage) (details : List Detail) : ChatMessage := details.foldl addDetail m

/-- A message with the text and the login of another one, and with the forms of the text. -/
structure Retains (m original : ChatMessage) : Prop where
  userLogin : m.userLogin = original.userLogin
  text : m.text = original.text
  normalized : m.normalized = Text.normalize m.text
  tokens : m.tokens = Text.words m.normalized

variable {m original : ChatMessage}

theorem text_ofText (id userId userLogin text : String) : (ofText id userId userLogin text).text = text := by
  rw [ofText]

theorem retains_ofText (id userId userLogin text : String) :
    (ofText id userId userLogin text).Retains (ofText id userId userLogin text) where
  userLogin := rfl
  text := rfl
  normalized := by rw [normalized_ofText, text_ofText]
  tokens := by rw [tokens_ofText, normalized_ofText]

theorem Retains.addDetail (h : m.Retains original) (detail : Detail) : (m.addDetail detail).Retains original := by
  cases detail with
  | displayName name => exact ⟨h.userLogin, h.text, h.normalized, h.tokens⟩
  | roles roles => exact ⟨h.userLogin, h.text, h.normalized, h.tokens⟩
  | emotes count only => exact ⟨h.userLogin, h.text, h.normalized, h.tokens⟩
  | replyParent parent => exact ⟨h.userLogin, h.text, h.normalized, h.tokens⟩
  | held => exact ⟨h.userLogin, h.text, h.normalized, h.tokens⟩

theorem Retains.withDetails (h : m.Retains original) (details : List Detail) :
    (m.withDetails details).Retains original := by
  induction details generalizing m with
  | nil => exact h
  | cons detail details ih => exact ih (h.addDetail detail)

/--
The normalized form of a text consists of runs of letters and digits with a single space between them, which are its
words.  A message keeps its text, the normalized form of its text and the words of that form, whatever details are
added.
-/
theorem normalForm_of_details (id userId userLogin text : String) (details : List Detail) :
    let m := (ofText id userId userLogin text).withDetails details
    Text.IsNormalForm (Text.normalize text) (Text.words (Text.normalize text)) ∧ m.text = text ∧
      m.normalized = Text.normalize m.text ∧ m.tokens = Text.words m.normalized := by
  intro m
  have hm : m.Retains (ofText id userId userLogin text) := (retains_ofText id userId userLogin text).withDetails details
  have htext : m.text = text := hm.text.trans (text_ofText id userId userLogin text)
  exact ⟨Text.isNormalForm_normalize text, htext, hm.normalized, hm.tokens⟩

end ChatMessage

end ChatModeration
