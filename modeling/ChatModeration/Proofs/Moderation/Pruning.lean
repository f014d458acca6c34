import ChatModeration.Moderation.Desk
import ChatModeration.Proofs.Config.Compilation
import ChatModeration.Proofs.Moderation.Passage

/-!
# Patterns that cannot be used

A pattern that cannot be used matches nothing, so a rule or an exception that has it is passed over without a question,
and in a group the other entries decide.  Such patterns may as well be left out of a configuration (`Config.usable`):
the search for what applies goes through a list of which some elements that never count are gone (`Pruned`), and what is
found differs in nothing that a verdict depends on (`Finding.bare`), so that every run is the same (`usable_suffices`).
-/

namespace ChatModeration

/-! ### What can be used -/

/-- Whether a pattern can be used under the options of its rule. -/
def Matcher.isUsable (options : RuleOptions) (source : String) : Bool := (compile source options).isOk

/-- Whether a rule has no pattern or one that can be used. -/
def RuleEntry.isUsable (r : RuleEntry) : Bool := r.pattern.all (Matcher.isUsable r.options)

/-- Whether an exception has no pattern or one that can be used. -/
def ExceptionEntry.isUsable (e : ExceptionEntry) : Bool := e.pattern.all (Matcher.isUsable e.options)

/-- A group without the patterns that cannot be used. -/
def GroupEntry.usable (g : GroupEntry) : GroupEntry :=
  { g with patterns := g.patterns.filter (Matcher.isUsable g.options) }

/-- A policy without the exceptions whose patterns cannot be used. -/
def SpamProfile.usable (p : SpamProfile) : SpamProfile :=
  { p with
    exceptions := p.exceptions.filter ExceptionEntry.isUsable
    emote := { p.emote with exceptions := p.emote.exceptions.filter ExceptionEntry.isUsable } }

/-- A configuration without the rules and exceptions whose patterns cannot be used, and without such patterns in
groups. -/
def Config.usable (c : Config) : Config :=
  { c with
    rules := c.rules.filter RuleEntry.isUsable
    groups := c.groups.map GroupEntry.usable
    spam := { standard := c.spam.standard.usable, vip := c.spam.vip.usable } }

namespace Matcher

variable {options : RuleOptions} {source : String}

theorem isMatch_ofPattern (h : isUsable options source = false) (m : ChatMessage) :
    (ofPattern source options).isMatch options m = false := by
  rw [ofPattern]
  rw [isUsable] at h
  cases hcompile : compile source options with
  | ok _ =>
    rw [hcompile] at h
    cases h
  | error fault => exact ite_self false

theorem patternError?_eq_none (h : isUsable options source = true) : patternError? (source, options) = none := by
  rw [patternError?]
  rw [isUsable] at h
  cases hcompile : compile source options with
  | ok _ => rfl
  | error fault =>
    rw [hcompile] at h
    cases h

theorem isMatch_ofEntry {pattern : Option String} (h : pattern.all (isUsable options) = false) (words : List String)
    (m : ChatMessage) : (ofEntry pattern words options).isMatch options m = false := by
  cases pattern with
  | none => cases h
  | some source =>
    rw [ofEntry_some]
    exact isMatch_ofPattern h m

end Matcher

/-- What has a single pattern that cannot be used matches nothing. -/
theorem Rule.firstMatch?_eq_none (rule : Rule) (pattern : Option String) (words : List String)
    (hmatchers : rule.matchers = [.ofEntry pattern words rule.options])
    (h : pattern.all (Matcher.isUsable rule.options) = false) (m : ChatMessage) : rule.firstMatch? m = none := by
  rw [firstMatch?, hmatchers, List.findIdx?_eq_none_iff]
  exact List.forall_mem_singleton.2 (Matcher.isMatch_ofEntry h words m)

/-- The entries of a group that never match may be left out. -/
theorem GroupEntry.isNone_firstMatch?_usable (g : GroupEntry) (m : ChatMessage) :
    (g.usable.compile.firstMatch? m).isNone = (g.compile.firstMatch? m).isNone := by
  rw [Bool.eq_iff_iff, Option.isNone_iff_eq_none, Option.isNone_iff_eq_none, Rule.firstMatch?, Rule.firstMatch?,
    List.findIdx?_eq_none_iff, List.findIdx?_eq_none_iff, compile_eq, compile_eq, usable]
  simp only [List.forall_mem_append, List.forall_mem_map, List.mem_filter]
  refine and_congr_right fun _ => ⟨fun h source hsource => ?_, fun h source hsource => h source hsource.1⟩
  cases husable : Matcher.isUsable g.options source with
  | true => exact h source ⟨hsource, husable⟩
  | false => exact Matcher.isMatch_ofPattern husable m

namespace Config

/-! ### Problems -/

/-- No pattern that is left has a problem. -/
theorem patternError?_usable {c : Config} : ∀ p ∈ c.usable.patterns, Matcher.patternError? p = none := by
  have hentry {pattern : Option String} {options : RuleOptions}
      (h : pattern.all (Matcher.isUsable options) = true) :
      ∀ p ∈ pattern.toList.map (·, options), Matcher.patternError? p = none := by
    cases pattern with
    | none => nofun
    | some source => exact List.forall_mem_singleton.2 (Matcher.patternError?_eq_none h)
  have hrules : ∀ r ∈ c.usable.rules, r.isUsable = true := fun _ hr => List.of_mem_filter hr
  have hexceptions (p : SpamProfile) :
      (∀ e ∈ p.usable.exceptions, e.isUsable = true) ∧ ∀ e ∈ p.usable.emote.exceptions, e.isUsable = true :=
    ⟨fun _ he => List.of_mem_filter he, fun _ he => List.of_mem_filter he⟩
  rw [patterns]
  simp only [List.forall_mem_append, List.forall_mem_flatMap]
  refine ⟨⟨fun r hr => hentry (hrules r hr), ?_⟩, fun p hp => ?_⟩
  · refine List.forall_mem_map.2 fun g _ => List.forall_mem_map.2 fun source hsource => ?_
    exact Matcher.patternError?_eq_none (List.of_mem_filter hsource)
  · obtain ⟨q, rfl⟩ : ∃ q : SpamProfile, p = q.usable := by
      rcases List.mem_pair.1 hp with rfl | rfl
      · exact ⟨_, rfl⟩
      · exact ⟨_, rfl⟩
    exact ⟨fun e he => hentry ((hexceptions q).1 e he), fun e he => hentry ((hexceptions q).2 e he)⟩

theorem errors_usable (c : Config) : Snapshot.errors c.usable = [] := by
  rw [Snapshot.errors_eq, List.filterMap_eq_nil_iff]
  exact patternError?_usable

end Config

namespace Moderation

/-! ### Searches -/

/-- A list without some elements that never count, and with others in place of some that count and look the same. -/
inductive Pruned {α β : Type} (test : α → Nat → Bool × List Question) (view : α → β) : List α → List α → Prop where
  | nil : Pruned test view [] []
  | drop {a : α} {l l' : List α} (ha : ∀ asked, test a asked = (false, [])) (h : Pruned test view l l') :
      Pruned test view (a :: l) l'
  | keep {a b : α} {l l' : List α} (htest : ∀ asked, test a asked = test b asked) (hview : view a = view b)
      (h : Pruned test view l l') : Pruned test view (a :: l) (b :: l')

namespace Pruned

variable {α β ε : Type} {test : α → Nat → Bool × List Question} {view : α → β} {l l' r r' : List α}

/-- What is found in a pruned list looks the same, and the same questions are asked. -/
theorem firstWith_eq (h : Pruned test view l l') (i j : Nat) (questions : List Question) :
    (firstWith test i questions l).1.map (fun found => view found.2) =
        (firstWith test j questions l').1.map (fun found => view found.2) ∧
      (firstWith test i questions l).2 = (firstWith test j questions l').2 := by
  induction h generalizing i j questions with
  | nil => exact ⟨rfl, rfl⟩
  | @drop a l l' ha h ih =>
    -- the positions move apart here, but as many questions have been asked on both sides
    have hnot : ¬ (test a questions.length).1 = true := by simp [ha]
    rw [firstWith_of_not_holds hnot, ha, List.append_nil]
    exact ih (i + 1) j questions
  | @keep a b l l' htest hview h ih =>
    by_cases ha : (test a questions.length).1 = true
    · rw [firstWith_of_holds ha, firstWith_of_holds (htest _ ▸ ha), htest]
      exact ⟨congrArg some hview, rfl⟩
    · rw [firstWith_of_not_holds ha, firstWith_of_not_holds (htest _ ▸ ha), htest]
      exact ih (i + 1) (j + 1) _

theorem append (h : Pruned test view l l') (hr : Pruned test view r r') : Pruned test view (l ++ r) (l' ++ r') := by
  induction h with
  | nil => exact hr
  | drop ha _ ih => exact .drop ha ih
  | keep htest hview _ ih => exact .keep htest hview ih

/-- What comes of some entries, and of those that are left. -/
theorem map_filter {f : ε → α} {p : ε → Bool} (h : ∀ x, p x = false → ∀ asked, test (f x) asked = (false, []))
    (xs : List ε) : Pruned test view (xs.map f) ((xs.filter p).map f) := by
  induction xs with
  | nil => exact .nil
  | cons x xs ih =>
    cases hp : p x with
    | true =>
      rw [List.filter_cons_of_pos hp]
      exact .keep (fun _ => rfl) rfl ih
    | false =>
      rw [List.filter_cons_of_neg (by simp [hp])]
      exact .drop (h x hp) ih

/-- What comes of some entries in two ways. -/
theorem map (f g : ε → α) (htest : ∀ x asked, test (f x) asked = test (g x) asked)
    (hview : ∀ x, view (f x) = view (g x)) (xs : List ε) : Pruned test view (xs.map f) (xs.map g) := by
  induction xs with
  | nil => exact .nil
  | cons x xs ih => exact .keep (htest x) (hview x) ih

end Pruned

/-! ### What is found -/

section Tests

variable {w : Surroundings} {m : ChatMessage} {rule other : Rule}

theorem applies_of_firstMatch? (h : rule.firstMatch? m = none) (asked : Nat) :
    applies w m rule asked = (false, []) := by
  rw [applies, h]
  exact ite_self _

theorem applies_congr (hoptions : rule.options = other.options)
    (hmatch : (rule.firstMatch? m).isNone = (other.firstMatch? m).isNone) (asked : Nat) :
    applies w m rule asked = applies w m other asked := by
  rw [applies, applies, hoptions, hmatch]

theorem breaks_of_applies (h : ∀ asked, applies w m rule asked = (false, [])) (asked : Nat) :
    breaks w m rule asked = (false, []) := by
  rw [breaks, h]
  rfl

theorem breaks_congr (h : ∀ asked, applies w m rule asked = applies w m other asked)
    (hpunishments : rule.punishments = other.punishments) (asked : Nat) :
    breaks w m rule asked = breaks w m other asked := by
  rw [breaks, breaks, h, hpunishments]

end Tests

end Moderation

/-- A rule without what it looks for. -/
def Rule.bare (rule : Rule) : Rule := { rule with matchers := [] }

/-- A policy without its exceptions. -/
def SpamProfile.bare (p : SpamProfile) : SpamProfile :=
  { p with exceptions := [], emote := { p.emote with exceptions := [] } }

namespace Moderation

/-- What the spam policies look at, without the exceptions that do not apply. -/
def SpamCase.bare (c : SpamCase) : SpamCase := { c with profile := ⟨c.profile.settings.bare, [], []⟩ }

/-- What is found about a message, without what no verdict depends on. -/
def Finding.bare : Finding → Finding
  | .ruleBroken _ rule => .ruleBroken 0 rule.bare
  | .watched spam => .watched spam.bare
  | finding => finding

theorem judge_bare (r : Records) (user : String) (now later : Nat) (finding : Finding) :
    judge r user now later finding.bare = judge r user now later finding := by
  cases finding <;> rfl

/-- The same surroundings under a configuration. -/
def Surroundings.under (w : Surroundings) (c : Config) : Surroundings := { w with snapshot := .compile c }

section Find

variable (w : Surroundings) (c : Config) (m : ChatMessage)

theorem pruned_rules :
    Pruned (breaks (w.under c) m) Rule.bare (w.under c).snapshot.rules (w.under c.usable).snapshot.rules := by
  have hrules : Pruned (breaks (w.under c) m) Rule.bare (c.rules.map RuleEntry.compile)
      ((c.rules.filter RuleEntry.isUsable).map RuleEntry.compile) := by
    refine .map_filter (fun r hr => ?_) c.rules
    exact breaks_of_applies (applies_of_firstMatch? (r.compile.firstMatch?_eq_none r.pattern r.words rfl hr m))
  have hgroups : Pruned (breaks (w.under c) m) Rule.bare (c.groups.map GroupEntry.compile)
      ((c.groups.map GroupEntry.usable).map GroupEntry.compile) := by
    rw [List.map_map]
    refine .map _ _ (fun g => ?_) (fun g => ?_) c.groups
    · exact breaks_congr (applies_congr rfl (g.isNone_firstMatch?_usable m).symm) rfl
    · rfl
  have hbefore : (w.under c).snapshot.rules = _ := Snapshot.rules_compile c
  have hafter : (w.under c.usable).snapshot.rules = _ := Snapshot.rules_compile c.usable
  rw [hbefore, hafter]
  exact hrules.append hgroups

theorem excepts_under_usable : excepts (w.under c.usable) m = excepts (w.under c) m := rfl

theorem breaks_under_usable : breaks (w.under c.usable) m = breaks (w.under c) m := rfl

theorem exists_profile_under :
    ∃ p : SpamProfile, profileFor (w.under c) m = p.compile ∧ profileFor (w.under c.usable) m = p.usable.compile := by
  rw [profileFor, profileFor]
  split
  · exact ⟨c.spam.vip, Snapshot.vipProfile_compile c, Snapshot.vipProfile_compile c.usable⟩
  · exact ⟨c.spam.standard, Snapshot.standardProfile_compile c, Snapshot.standardProfile_compile c.usable⟩

theorem treatedAsEmotes_under_usable : treatedAsEmotes (w.under c.usable) m = treatedAsEmotes (w.under c) m := by
  obtain ⟨p, hp, hp'⟩ := exists_profile_under w c m
  rw [treatedAsEmotes, treatedAsEmotes, hp, hp']
  rfl

theorem pruned_exceptions :
    Pruned (excepts (w.under c) m) id (exceptionsFor (w.under c) m) (exceptionsFor (w.under c.usable) m) := by
  obtain ⟨p, hp, hp'⟩ := exists_profile_under w c m
  have hfilter (exceptions : List ExceptionEntry) :
      Pruned (excepts (w.under c) m) id (exceptions.map ExceptionEntry.compile)
        ((exceptions.filter ExceptionEntry.isUsable).map ExceptionEntry.compile) := by
    refine .map_filter (fun e he => ?_) exceptions
    exact applies_of_firstMatch? (e.compile.rule.firstMatch?_eq_none e.pattern e.words rfl he m)
  rw [exceptionsFor, exceptionsFor, treatedAsEmotes_under_usable, hp, hp', p.compile_eq, p.usable.compile_eq]
  split
  · exact hfilter p.emote.exceptions
  · exact hfilter p.exceptions

/-- The spam policies look at the same, up to exceptions that do not apply. -/
theorem spamCase_under_usable (questions : List Question) :
    (spamCase (w.under c.usable) m questions).1.bare = (spamCase (w.under c) m questions).1.bare ∧
      (spamCase (w.under c.usable) m questions).2 = (spamCase (w.under c) m questions).2 := by
  obtain ⟨hfound, hquestions⟩ := (pruned_exceptions w c m).firstWith_eq 0 0 questions
  obtain ⟨p, hp, hp'⟩ := exists_profile_under w c m
  have hemotes : isEmote (w.under c.usable) = isEmote (w.under c) := rfl
  have hbare : p.usable.compile.settings.bare = p.compile.settings.bare := rfl
  have hexception : (firstWith (excepts (w.under c) m) 0 questions (exceptionsFor (w.under c.usable) m)).1.map (·.2) =
      (firstWith (excepts (w.under c) m) 0 questions (exceptionsFor (w.under c) m)).1.map (·.2) := hfound.symm
  rw [spamCase_eq, spamCase_eq, excepts_under_usable]
  refine ⟨?_, hquestions.symm⟩
  simp only [caseUnder, SpamCase.bare, treatedAsEmotes_under_usable, hp, hp', hemotes, hbare, hexception]

/-- What is found about a message that gets as far as the rules. -/
def findFromRules (w : Surroundings) (m : ChatMessage) : Finding × List Question :=
  match firstWith (breaks w m) 0 [] w.snapshot.rules with
  | (some (position, rule), questions) => (.ruleBroken position rule, questions)
  | (none, questions) =>
    match longWord? w m with
    | some p => (.wordTooLong p, questions)
    | none =>
      if (profileFor w m).settings.enabled then
        (.watched (spamCase w m questions).1, (spamCase w m questions).2)
      else (.unwatched, questions)

theorem findFromRules_under_usable :
    (findFromRules (w.under c.usable) m).1.bare = (findFromRules (w.under c) m).1.bare ∧
      (findFromRules (w.under c.usable) m).2 = (findFromRules (w.under c) m).2 := by
  have hfirst := (pruned_rules w c m).firstWith_eq 0 0 []
  have hlong : longWord? (w.under c.usable) m = longWord? (w.under c) m := rfl
  rw [findFromRules, findFromRules, breaks_under_usable, hlong]
  generalize firstWith (breaks (w.under c) m) 0 [] (w.under c).snapshot.rules = found at hfirst
  generalize firstWith (breaks (w.under c) m) 0 [] (w.under c.usable).snapshot.rules = found' at hfirst
  obtain ⟨rule, questions⟩ := found
  obtain ⟨rule', questions'⟩ := found'
  obtain ⟨hrule, rfl⟩ := hfirst
  cases rule with
  | some rule =>
    obtain ⟨other, rfl, hbare⟩ := Option.map_eq_some_iff.1 hrule.symm
    exact ⟨congrArg (Finding.ruleBroken 0) hbare, rfl⟩
  | none =>
    obtain rfl := Option.map_eq_none_iff.1 hrule.symm
    cases longWord? (w.under c) m with
    | some p => exact ⟨rfl, rfl⟩
    | none =>
      obtain ⟨p, hp, hp'⟩ := exists_profile_under w c m
      obtain ⟨hcase, hquestions⟩ := spamCase_under_usable w c m questions
      have henabled : p.usable.compile.settings.enabled = p.compile.settings.enabled := rfl
      simp only [hp, hp', henabled]
      split
      · exact ⟨congrArg Finding.watched hcase, hquestions⟩
      · exact ⟨rfl, rfl⟩

/-- The same is found, up to what no verdict depends on. -/
theorem find_under_usable :
    (find (w.under c.usable) m).1.bare = (find (w.under c) m).1.bare ∧
      (find (w.under c.usable) m).2 = (find (w.under c) m).2 := by
  have hbypass : bypass? (w.under c.usable) m = bypass? (w.under c) m := rfl
  have hbanned : (w.under c.usable).snapshot.banned? m.tokens m.normalized =
      (w.under c).snapshot.banned? m.tokens m.normalized := rfl
  have hadvertised : advertised? (w.under c.usable) m = advertised? (w.under c) m := rfl
  rw [find, find, hbypass, hbanned, hadvertised]
  cases bypass? (w.under c) m with
  | some reason => exact ⟨rfl, rfl⟩
  | none =>
    cases (w.under c).snapshot.banned? m.tokens m.normalized with
    | some word => exact ⟨rfl, rfl⟩
    | none =>
      cases advertised? (w.under c) m with
      | some channel => exact ⟨rfl, rfl⟩
      | none => exact findFromRules_under_usable w c m

/-- A check comes out the same. -/
theorem check_under_usable (r : Records) (now later : Nat) :
    check r (w.under c.usable) now later m = check r (w.under c) now later m := by
  obtain ⟨hfinding, hquestions⟩ := find_under_usable w c m
  have hcheck (w : Surroundings) : check r w now later m =
      ((judge r m.userId now later (find w m).1.bare).1, (judge r m.userId now later (find w m).1.bare).2,
        (find w m).2) := by
    rw [judge_bare]
    exact check_of_find rfl r now later
  rw [hcheck, hcheck, hfinding, hquestions]

end Find

/-! ### Runs -/

/-- The desk that uses a configuration. -/
def Desk.under (d : Desk) (c : Config) : Desk := d.useSnapshot (.compile c)

namespace Desk

variable {c : Config}

theorem handle_under_usable (d : Desk) (m : ChatMessage) :
    ∃ (e : Desk) (response : Response), (d.under c.usable).handle m = (e.under c.usable, response) ∧
      (d.under c).handle m = (e.under c, response) := by
  have hcheck := check_under_usable d.surroundings c m d.records d.now d.now
  rcases h : check d.records (d.surroundings.under c) d.now d.now m with ⟨records, verdict, questions⟩
  rw [h] at hcheck
  refine ⟨{ d with records, stats := d.stats.recordVerdict verdict.kind },
    ⟨verdict, questions, verdict.enforce m⟩, ?_, ?_⟩
  · simp only [under, useSnapshot, handle]
    rw [Surroundings.under] at hcheck
    rw [hcheck]
  · simp only [under, useSnapshot, handle]
    rw [Surroundings.under] at h
    rw [h]

/-- Until another snapshot is published the desks go on in the same way. -/
theorem step_under_usable (d : Desk) (o : Occurrence) :
    (d.under c.usable).step o = (d.under c).step o ∨
      ∃ (e : Desk) (response : Option Response), (d.under c.usable).step o = (e.under c.usable, response) ∧
        (d.under c).step o = (e.under c, response) := by
  cases o with
  | message m =>
    obtain ⟨e, response, h, h'⟩ := d.handle_under_usable (c := c) m
    exact .inr ⟨e, some response, by rw [step, h], by rw [step, h']⟩
  | clock now => exact .inr ⟨{ d with now }, none, rfl, rfl⟩
  | reclaim => exact .inr ⟨{ d with records := (d.records.reclaim d.now).1 }, none, rfl, rfl⟩
  | snapshot s => exact .inl rfl
  | live isLive => exact .inr ⟨d.setLive isLive, none, rfl, rfl⟩
  | forget user =>
    exact .inr ⟨{ d with records := { d.records with history := (d.records.history.clear user).1 } }, none, rfl, rfl⟩

theorem run_under_usable (d : Desk) (occurrences : List Occurrence) :
    ((d.under c.usable).run occurrences).2 = ((d.under c).run occurrences).2 ∧
      ((d.under c.usable).run occurrences).1.records = ((d.under c).run occurrences).1.records := by
  induction occurrences generalizing d with
  | nil => exact ⟨rfl, rfl⟩
  | cons o occurrences ih =>
    rcases d.step_under_usable (c := c) o with h | ⟨e, response, h, h'⟩
    · rw [run, run, h]
      exact ⟨rfl, rfl⟩
    · rw [run, run, h, h']
      obtain ⟨hresponses, hrecords⟩ := ih e
      exact ⟨congrArg (response.toList ++ ·) hresponses, hrecords⟩

end Desk

/--
What is left of a configuration without the patterns that cannot be used does the same in every run: messages get the
same answers, with the same questions to the oracle, and the records are the same.  The snapshot of the configuration
has one problem for each of these patterns, in their order, and the snapshot of what is left has none.
-/
theorem usable_suffices (c : Config) :
    (∀ (r : Records) (w : Surroundings) (now later : Nat) (m : ChatMessage),
        check r (w.under c.usable) now later m = check r (w.under c) now later m) ∧
      (∀ (d : Desk) (occurrences : List Occurrence),
        ((d.under c.usable).run occurrences).2 = ((d.under c).run occurrences).2 ∧
          ((d.under c.usable).run occurrences).1.records = ((d.under c).run occurrences).1.records) ∧
      Snapshot.errors c = c.patterns.filterMap Matcher.patternError? ∧ Snapshot.errors c.usable = [] :=
  ⟨fun r w now later m => check_under_usable w c m r now later, Desk.run_under_usable, Snapshot.errors_eq c,
    c.errors_usable⟩

example : (GroupEntry.usable { name := "g", patterns := ["(", "a+"], punishments := [.ban] }).patterns = ["a+"] := by
  decide +kernel

end Moderation

end ChatModeration
