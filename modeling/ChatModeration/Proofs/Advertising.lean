import ChatModeration.Proofs.Text.Normalization

/-!
# Advertising by the sender

A login that holds letters and digits only is a token of every message that has it among its words, in whatever case it
is written (`mem_tokens_of_mention`).  A login with an underscore is never a token (`not_mem_tokens_of_underscore`),
since normalization divides it there.  So a message that links another channel and names its sender is advertising if
the login has no underscore, and otherwise only if it also links the sender's channel or carries a promotional phrase
(`isSome_advertised?_of_mention`).
-/

namespace ChatModeration.Advertising

open Text (isAlphanumeric caseVariants decompose lowerChar lowercase lowercaseFrom normalizedWords)

variable {login text word name : String}

/-- The characters of logins. -/
def loginChars : List Char :=
  (List.range 26).map (fun i => .ofNat ('a'.toNat + i)) ++ (List.range 10).map (fun i => .ofNat ('0'.toNat + i)) ++
    ['_']

/-- A login: 3 to 25 small letters, digits and underscores. -/
structure IsLogin (login : String) : Prop where
  length_ge : 3 ≤ login.length
  length_le : login.length ≤ 25
  chars : login.toList ⊆ loginChars

/-- A word differs from a name at most in the case of its letters. -/
def IsVariant (word name : String) : Prop := List.Forall₂ (fun c d => c ∈ caseVariants d) word.toList name.toList

/-- Some word of a text is a name, in whatever case it is written. -/
def Mentions (text name : String) : Prop := ∃ word ∈ Text.words text, IsVariant word name

/-! ### Logins in lowercase -/

/-- The lowercase form of a login is the login. -/
theorem IsLogin.lowercase_eq (h : IsLogin login) : lowercase login = login := by
  have hall : loginChars.all (fun c => c ≠ 'Σ' ∧ lowerChar c = [c]) = true := by decide +kernel
  have hchars : ∀ c ∈ loginChars, c ≠ 'Σ' ∧ lowerChar c = [c] := by simpa using hall
  have hfrom : ∀ (before cs : List Char), (∀ c ∈ cs, c ∈ loginChars) → lowercaseFrom before cs = cs := by
    intro before cs hcs
    induction cs generalizing before with
    | nil => rfl
    | cons c cs ih =>
      obtain ⟨hc, hcs⟩ := List.forall_mem_cons.1 hcs
      obtain ⟨hsigma, hlower⟩ := hchars c hc
      rw [lowercaseFrom, if_neg hsigma, hlower, ih _ hcs, List.singleton_append]
  rw [lowercase, hfrom [] login.toList fun c hc => h.chars hc, String.ofList_toList]

/-! ### Mentions among the tokens -/

/-- A letter or digit is kept, and all its variants are folded to it without a mark. -/
def IsFolded (d : Char) : Prop :=
  isAlphanumeric d = true ∧ d ∉ Text.strippedCharacters ∧
    ∀ c ∈ caseVariants d, (∀ e ∈ decompose c, e.toNat < 0x300) ∧ (decompose c).flatMap lowerChar = [d]

theorem isFolded_of_mem {d : Char} (h : d ∈ loginChars) (hline : d ≠ '_') : IsFolded d := by
  have hall : loginChars.all (fun d => d = '_' ∨ (isAlphanumeric d = true ∧ d ∉ Text.strippedCharacters ∧
      (caseVariants d).all (fun c => (decompose c).all (·.toNat < 0x300) ∧ (decompose c).flatMap lowerChar = [d]))) =
        true := by
    decide +kernel
  have hd := of_decide_eq_true (List.all_eq_true.1 hall d h)
  simpa [IsFolded] using hd.resolve_left hline

/-- The normalized form of a variant of a login without underscore is the login. -/
theorem normalizedWords_of_isVariant (hlogin : IsLogin login) (hplain : '_' ∉ login.toList)
    (h : IsVariant word login) : normalizedWords word.toList = [login.toList] := by
  have hvariant : ∀ d ∈ login.toList, IsFolded d := fun d hd =>
    isFolded_of_mem (hlogin.chars hd) fun hline => hplain (hline ▸ hd)
  have hfolded : (∀ e ∈ word.toList.flatMap decompose, e.toNat < 0x300) ∧
      (word.toList.flatMap decompose).flatMap lowerChar = login.toList := by
    unfold IsVariant at h
    clear hplain
    generalize word.toList = cs at h
    generalize login.toList = ds at h hvariant
    induction h with
    | nil => exact ⟨nofun, rfl⟩
    | cons hc _ ih =>
      obtain ⟨hd, hds⟩ := List.forall_mem_cons.1 hvariant
      obtain ⟨hplain, hlower⟩ := ih hds
      obtain ⟨hplain', hlower'⟩ := hd.2.2 _ hc
      constructor
      · intro e he
        rcases List.mem_append.1 (List.flatMap_cons ▸ he) with he | he
        · exact hplain' e he
        · exact hplain e he
      · rw [List.flatMap_cons, List.flatMap_append, hlower', hlower, List.singleton_append]
  have hform : Text.foldedForm word.toList = login.toList := by
    rw [Text.foldedForm, Text.compatibilityForm_plain hfolded.1, hfolded.2]
    exact List.filter_eq_self.2 fun d hd => by simpa using (hvariant d hd).2.1
  have hne : login.toList ≠ [] := by
    have := hlogin.length_ge
    rw [← String.length_toList] at this
    exact List.ne_nil_of_length_pos (by omega)
  rw [normalizedWords, hform]
  exact Text.runs_of_forall hne fun d hd => (hvariant d hd).1

/-- A login without underscore that a message mentions is one of its tokens. -/
theorem mem_tokens_of_mention (hlogin : IsLogin login) (hplain : '_' ∉ login.toList) (h : Mentions text login) :
    login ∈ Text.words (Text.normalize text) := by
  obtain ⟨word, hword, hvariant⟩ := h
  obtain ⟨cs, hcs, rfl⟩ := List.mem_map.1 hword
  have hwords := normalizedWords_of_isVariant hlogin hplain hvariant
  rw [String.toList_ofList] at hwords
  rw [Text.words_normalize, Text.normalizedWords_eq_flatMap, List.mem_map]
  refine ⟨login.toList, List.mem_flatMap.2 ⟨cs, hcs, ?_⟩, String.ofList_toList⟩
  rw [hwords]
  exact List.mem_singleton_self _

/-- A login with an underscore is no token. -/
theorem not_mem_tokens_of_underscore (h : '_' ∈ login.toList) (text : String) :
    login ∉ Text.words (Text.normalize text) := by
  intro hmem
  rw [Text.words_normalize] at hmem
  obtain ⟨cs, hcs, rfl⟩ := List.mem_map.1 hmem
  rw [String.toList_ofList] at h
  have hline : isAlphanumeric '_' = true := (Text.of_mem_runs hcs).2 '_' h
  exact absurd hline (by decide)

/-! ### Messages that name their sender -/

/--
A message that links another channel and mentions its sender is advertising if the sender's login has no underscore;
if it has one, only where the message also links the sender's channel or carries a promotional phrase.
-/
theorem isSome_advertised?_of_mention {channel : String} (hlogin : IsLogin login)
    (hlink : ∃ linked ∈ linkedChannels text, linked ≠ channel) (hmention : Mentions text login)
    (id userId : String) (phrases : List String) :
    let m := ChatMessage.ofText id userId login text
    (advertised? m channel phrases).isSome = true ↔
      '_' ∉ login.toList ∨ (login ∈ linkedChannels text ∧ login ≠ channel) ∨
        ∃ phrase ∈ phrases, Text.phraseOccursIn phrase m.normalized = true := by
  intro m
  have hlogin' : lowercase m.userLogin = login := hlogin.lowercase_eq
  have htokens : login ∈ m.tokens ↔ '_' ∉ login.toList := by
    rw [ChatMessage.tokens_ofText]
    exact ⟨fun hmem hline => not_mem_tokens_of_underscore hline text hmem,
      fun hplain => mem_tokens_of_mention hlogin hplain hmention⟩
  have hlinks : ((linkedChannels m.text).filter (· != channel)).head?.isSome = true := by
    obtain ⟨linked, hlinked, hne⟩ := hlink
    rw [List.isSome_head?, ne_eq, List.eq_nil_iff_forall_not_mem]
    exact fun hnone => hnone linked (List.mem_filter.2 ⟨hlinked, by simpa using hne⟩)
  have hown : login ∈ (linkedChannels m.text).filter (· != channel) ↔
      login ∈ linkedChannels text ∧ login ≠ channel := by
    rw [List.mem_filter, bne_iff_ne]
    rfl
  rw [advertised?_eq, hlogin', ← htokens, ← hown]
  split
  · next h => exact iff_of_true hlinks (or_left_comm.1 h)
  · next h => exact iff_of_false nofun fun hnamed => h (or_left_comm.1 hnamed)

/-- The sender is named in capitals, and another channel is linked. -/
theorem isSome_advertised?_of_mention_capitals :
    let m := ChatMessage.ofText "m1" "7" "someone" "SOMEONE at twitch.tv/other"
    IsLogin "someone" ∧ (∃ linked ∈ linkedChannels m.text, linked ≠ "streamer") ∧ Mentions m.text "someone" ∧
      (advertised? m "streamer" []).isSome = true := by
  intro m
  have hlogin : IsLogin "someone" := ⟨by decide, by decide, by decide +kernel⟩
  have hlink : ∃ linked ∈ linkedChannels m.text, linked ≠ "streamer" := ⟨"other", by decide +kernel, by decide⟩
  have hmention : Mentions m.text "someone" := ⟨"SOMEONE", by decide +kernel, by unfold IsVariant; decide +kernel⟩
  exact ⟨hlogin, hlink, hmention,
    (isSome_advertised?_of_mention hlogin hlink hmention "m1" "7" []).2 (.inl (by decide))⟩

/-- A sender whose login has an underscore is named, and another channel is linked, but nothing is found. -/
theorem advertised?_underscore :
    let m := ChatMessage.ofText "m1" "7" "some_one" "some_one says twitch.tv/other"
    IsLogin "some_one" ∧ (∃ linked ∈ linkedChannels m.text, linked ≠ "streamer") ∧ Mentions m.text "some_one" ∧
      advertised? m "streamer" [] = none := by
  intro m
  exact ⟨⟨by decide, by decide, by decide +kernel⟩, ⟨"other", by decide +kernel, by decide⟩,
    ⟨"some_one", by decide +kernel, by unfold IsVariant; decide +kernel⟩, by decide +kernel⟩

end ChatModeration.Advertising
