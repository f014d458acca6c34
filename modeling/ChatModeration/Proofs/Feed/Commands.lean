import ChatModeration.Feed.FirstMessage
import ChatModeration.Proofs.Phrases
import Mathlib.Data.List.TakeWhile

/-!
# Commands of chat lines

A tagged line of the chat consists of its tags, the source it may name after a colon, its command and its parameters,
with spaces in between (`TaggedLine.read?`).  The watcher for first messages takes none of this apart: it looks for the
word `PRIVMSG` between spaces anywhere after the tags.  Such a word is the command, or it stands among the parameters
(`occursAfter_iff`).  So an accepted line is a message if its parameters do not hold the word (`firstMessage?_iff`);
what a chatter writes in a line of another kind can make it pass for a message (`firstMessage?_mentioned`).
-/

namespace ChatModeration.Feed

open Text

/-! ### Words between spaces -/

/-- The word at the start of a text. -/
def firstWord (cs : List Char) : List Char := cs.takeWhile (· != ' ')

/-- What follows the word at the start of a text, from the space behind the word on. -/
def afterWord (cs : List Char) : List Char := cs.dropWhile (· != ' ')

/-- What follows the word at the start of a text and the spaces behind it. -/
def nextWords (cs : List Char) : List Char := (afterWord cs).dropWhile (· == ' ')

/-- A word with a space on each side. -/
def spaced (word : List Char) : List Char := ' ' :: (word ++ [' '])

theorem firstWord_append_afterWord (cs : List Char) : firstWord cs ++ afterWord cs = cs :=
  List.takeWhile_append_dropWhile

theorem afterWord_eq_nil_or (cs : List Char) : afterWord cs = [] ∨ ∃ rest, afterWord cs = ' ' :: rest := by
  induction cs with
  | nil => exact .inl rfl
  | cons c cs ih =>
    by_cases hc : c = ' '
    · subst hc
      exact .inr ⟨cs, rfl⟩
    · have hskip : afterWord (c :: cs) = afterWord cs := List.dropWhile_cons_of_pos (by simpa using hc)
      rw [hskip]
      exact ih

section Spaced

variable {word : List Char} (hword : ' ' ∉ word)

include hword

/-- A text starts with a word and a space if the word is its first one and does not end it. -/
theorem append_space_isPrefix_iff {cs : List Char} :
    word ++ [' '] <+: cs ↔ firstWord cs = word ∧ afterWord cs ≠ [] := by
  have hall : ∀ c ∈ word, (c != ' ') = true := fun c hc => bne_iff_ne.2 fun heq => hword (heq ▸ hc)
  constructor
  · rintro ⟨rest, rfl⟩
    rw [List.append_assoc, firstWord, afterWord, List.takeWhile_append_of_pos hall, List.dropWhile_append_of_pos hall]
    simp
  · rintro ⟨hfirst, hafter⟩
    obtain hnil | ⟨rest, hrest⟩ := afterWord_eq_nil_or cs
    · contradiction
    · refine ⟨rest, ?_⟩
      rw [List.append_assoc, List.singleton_append, ← hfirst, ← hrest, firstWord_append_afterWord]

omit hword in
/-- No space stands inside the word at the start of a text. -/
theorem spaced_isInfix_afterWord_iff {cs : List Char} : spaced word <:+: cs ↔ spaced word <:+: afterWord cs := by
  induction cs with
  | nil => rfl
  | cons c cs ih =>
    by_cases hc : c = ' '
    · subst hc
      rfl
    · have hskip : afterWord (c :: cs) = afterWord cs := List.dropWhile_cons_of_pos (by simpa using hc)
      have hstart : ¬ spaced word <+: c :: cs := fun h => hc (List.cons_prefix_cons.1 h).1.symm
      rw [List.infix_cons_iff, or_iff_right hstart, hskip, ih]

/-- Of some spaces in front of a text only the last one can belong to a spaced word. -/
theorem spaced_isInfix_skip_iff (hne : word ≠ []) {cs : List Char} :
    spaced word <:+: ' ' :: cs ↔ spaced word <:+: ' ' :: cs.dropWhile (· == ' ') := by
  induction cs with
  | nil => rfl
  | cons c cs ih =>
    by_cases hc : c = ' '
    · subst hc
      have hstart : ¬ spaced word <+: ' ' :: ' ' :: cs := by
        intro h
        obtain ⟨rest, hrest⟩ := (List.cons_prefix_cons.1 h).2
        cases word with
        | nil => contradiction
        | cons d word =>
          obtain ⟨rfl, -⟩ := List.cons.inj hrest
          exact hword List.mem_cons_self
      have hskip : (' ' :: cs).dropWhile (· == ' ') = cs.dropWhile (· == ' ') := rfl
      rw [List.infix_cons_iff, or_iff_right hstart, hskip, ih]
    · have hskip : (c :: cs).dropWhile (· == ' ') = c :: cs := List.dropWhile_cons_of_neg (by simpa using hc)
      rw [hskip]

/-- After the first word, a spaced word is the next one and does not end the text, or it follows the next one. -/
theorem occursAfter_iff (hne : word ≠ []) (cs : List Char) :
    spaced word <:+: afterWord cs ↔
      firstWord (nextWords cs) = word ∧ afterWord (nextWords cs) ≠ [] ∨ spaced word <:+: afterWord (nextWords cs) := by
  obtain hnil | ⟨rest, hrest⟩ := afterWord_eq_nil_or cs
  · have hnext : nextWords cs = [] := by rw [nextWords, hnil]; rfl
    have hend : afterWord [] = [] := rfl
    rw [hnext, hnil, hend]
    simp
  · have hnext : nextWords cs = rest.dropWhile (· == ' ') := by rw [nextWords, hrest]; rfl
    rw [hrest, spaced_isInfix_skip_iff hword hne, ← hnext, List.infix_cons_iff, spaced, List.cons_prefix_cons,
      append_space_isPrefix_iff hword, ← spaced, ← spaced_isInfix_afterWord_iff]
    simp

end Spaced

/-! ### Tagged lines -/

/-- The parts of a tagged line. -/
structure TaggedLine where
  tags : List Char
  /-- Who has sent the line, with a colon before it; nothing if the line does not name a source. -/
  source : List Char
  command : List Char
  /-- What follows the command, from the space behind it on. -/
  parameters : List Char
deriving DecidableEq, Repr

/-- The parts of what follows the tags of a line. -/
def TaggedLine.ofBody (tags body : List Char) : TaggedLine :=
  if body.head? = some ':' then
    ⟨tags, firstWord body, firstWord (nextWords body), afterWord (nextWords body)⟩
  else ⟨tags, [], firstWord body, afterWord body⟩

/-- The parts of a line, if it has tags. -/
def TaggedLine.read? : List Char → Option TaggedLine
  | '@' :: cs => some (ofBody (firstWord cs) (nextWords cs))
  | _ => none

/-- The command of a line that brings a message. -/
def privmsg : List Char := "PRIVMSG".toList

/-- The tags of a line say that it brings the first message of its sender, and which one. -/
def TaggedLine.MarksFirst (l : TaggedLine) (id : String) : Prop :=
  (Tags.read l.tags).first = true ∧ (Tags.read l.tags).id = some id

instance (l : TaggedLine) (id : String) : Decidable (l.MarksFirst id) := inferInstanceAs (Decidable (_ ∧ _))

theorem tags_ofBody (tags body : List Char) : (TaggedLine.ofBody tags body).tags = tags := by
  unfold TaggedLine.ofBody
  split <;> rfl

/-- The word of a message stands after the tags as the command, with parameters, or among the parameters. -/
theorem messageCommand_isInfix_iff (cs : List Char) :
    messageCommand <:+: afterWord cs ↔
      let l := TaggedLine.ofBody (firstWord cs) (nextWords cs)
      l.command = privmsg ∧ l.parameters ≠ [] ∨ messageCommand <:+: l.parameters := by
  have hspaced : messageCommand = spaced privmsg := by decide
  have hword : ' ' ∉ privmsg := by decide
  have hne : privmsg ≠ [] := by decide
  rw [hspaced, occursAfter_iff hword hne]
  dsimp only
  unfold TaggedLine.ofBody
  split
  · next hsource =>
    -- the word after the tags is a source: it starts with a colon
    have hother : firstWord (nextWords cs) ≠ privmsg := by
      obtain ⟨rest, hrest⟩ := List.head?_eq_some_iff.1 hsource
      rw [hrest]
      intro h
      exact absurd (List.cons.inj h).1 (by decide)
    rw [or_iff_right (mt And.left hother), occursAfter_iff hword hne]
  · rfl

theorem splitAtFirst_space (cs : List Char) :
    splitAtFirst ' ' cs =
      match afterWord cs with
      | [] => none
      | _ :: rest => some (firstWord cs, rest) := rfl

/-- A tagged line is accepted by its tags and by what stands after them. -/
theorem firstMessage?_eq_some {line id : String} {cs : List Char} (hline : line.toList = '@' :: cs) :
    firstMessage? line = some id ↔
      messageCommand <:+: afterWord cs ∧ (Tags.read (firstWord cs)).first = true ∧
        (Tags.read (firstWord cs)).id = some id := by
  unfold firstMessage?
  split
  · next tagged htagged =>
    obtain rfl : tagged = cs := (List.cons.inj (htagged.symm.trans hline)).2
    rw [splitAtFirst_space]
    obtain hnil | ⟨rest, hrest⟩ := afterWord_eq_nil_or tagged
    · have hnone : ¬ messageCommand <:+: [] := fun h => absurd (List.infix_nil.1 h) (by decide)
      rw [hnil]
      constructor
      · intro h
        contradiction
      · rintro ⟨hword, -⟩
        contradiction
    · rw [hrest]
      dsimp only
      rw [← occursInChars_iff]
      cases occursInChars messageCommand (' ' :: rest) with
      | true => cases (Tags.read (firstWord tagged)).first <;> simp
      | false => simp
  · next huntagged => exact absurd hline (huntagged cs)

/--
A line is accepted just if its tags mark a first message and the word of a message stands after them between spaces: as
the command, or among the parameters.  So the command of an accepted line is that of a message, unless the parameters
hold the word.
-/
theorem firstMessage?_iff (line id : String) :
    (firstMessage? line = some id ↔
      ∃ l, TaggedLine.read? line.toList = some l ∧ l.MarksFirst id ∧
        (l.command = privmsg ∧ l.parameters ≠ [] ∨ messageCommand <:+: l.parameters)) ∧
    ∀ l, TaggedLine.read? line.toList = some l → firstMessage? line = some id → ¬ messageCommand <:+: l.parameters →
      l.command = privmsg := by
  have hiff : firstMessage? line = some id ↔
      ∃ l, TaggedLine.read? line.toList = some l ∧ l.MarksFirst id ∧
        (l.command = privmsg ∧ l.parameters ≠ [] ∨ messageCommand <:+: l.parameters) := by
    unfold TaggedLine.read?
    split
    · next cs hline =>
      rw [firstMessage?_eq_some hline, messageCommand_isInfix_iff, and_comm]
      simp [TaggedLine.MarksFirst, tags_ofBody]
    · next hline =>
      rw [firstMessage?]
      split
      · next cs hcs => exact absurd hcs (hline cs)
      · simp
  refine ⟨hiff, fun l hread haccepted hparameters => ?_⟩
  obtain ⟨l', hread', -, hword⟩ := hiff.1 haccepted
  obtain rfl : l = l' := Option.some.inj (hread.symm.trans hread')
  rcases hword with ⟨hcommand, -⟩ | hword
  · exact hcommand
  · contradiction

theorem firstMessage?_iff_hello :
    let line := "@badge-info=;badges=;first-msg=1;id=abc-123;mod=0 :new!new@new.tmi.twitch.tv PRIVMSG #chan :hello"
    let l : TaggedLine := ⟨"badge-info=;badges=;first-msg=1;id=abc-123;mod=0".toList,
      ":new!new@new.tmi.twitch.tv".toList, "PRIVMSG".toList, " #chan :hello".toList⟩
    TaggedLine.read? line.toList = some l ∧ firstMessage? line = some "abc-123" ∧ ¬ messageCommand <:+: l.parameters ∧
      l.command = privmsg := by
  intro line l
  have hread : TaggedLine.read? line.toList = some l := by decide +kernel
  have haccepted : firstMessage? line = some "abc-123" := by decide +kernel
  have hparameters : ¬ messageCommand <:+: l.parameters := by decide +kernel
  exact ⟨hread, haccepted, hparameters, (firstMessage?_iff line "abc-123").2 l hread haccepted hparameters⟩

/-- A notice that mentions the word of a message passes for a message. -/
theorem firstMessage?_mentioned :
    ¬ ∀ line id, firstMessage? line = some id →
      ∃ l, TaggedLine.read? line.toList = some l ∧ l.command = privmsg := by
  intro h
  have haccepted : firstMessage? "@first-msg=1;id=m1 :tmi.twitch.tv NOTICE #c :see PRIVMSG there" = some "m1" := by
    decide +kernel
  obtain ⟨l, hread, hcommand⟩ := h _ _ haccepted
  have hnotice : (TaggedLine.read? "@first-msg=1;id=m1 :tmi.twitch.tv NOTICE #c :see PRIVMSG there".toList).map
      TaggedLine.command = some "NOTICE".toList := by decide +kernel
  rw [hread, Option.map_some, hcommand] at hnotice
  exact absurd hnotice (by decide)

end ChatModeration.Feed
