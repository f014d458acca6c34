import ChatModeration.Config.Snapshot
import ChatModeration.Proofs.Config.Limits
import Mathlib.Data.List.Basic

/-!
# Snapshots and the problems that are found

When a configuration is made ready, each part of it makes what it would make by itself and notes its problems behind
those that have been found before (`Yields`).  So the parts of a snapshot are those of the configuration, made ready one
by one (`Snapshot.compile_eq`), and the problems are those of the patterns that cannot be used, in the order in which
the configuration gives them (`Snapshot.errors_eq`).
-/

namespace ChatModeration

/-! ### What is made and what is noted -/

section Yields

variable {α β : Type}

/-- Making something ready makes this and notes these problems, whatever has been noted before. -/
def Yields (x : Compiling α) (a : α) (found : List ConfigError) : Prop := ∀ errors, x.run errors = (a, errors ++ found)

theorem Yields.run_nil {x : Compiling α} {a : α} {found : List ConfigError} (h : Yields x a found) :
    x.run [] = (a, found) := h []

theorem yields_pure (a : α) : Yields (pure a) a [] := fun errors => congrArg (a, ·) (List.append_nil errors).symm

theorem Yields.bind {x : Compiling α} {f : α → Compiling β} {a : α} {b : β} {found later : List ConfigError}
    (hx : Yields x a found) (hf : Yields (f a) b later) : Yields (x >>= f) b (found ++ later) := by
  intro errors
  rw [StateT.run_bind, hx errors]
  exact (hf _).trans (congrArg (b, ·) (List.append_assoc errors found later))

theorem Yields.bind_pure {x : Compiling α} {a : α} {found : List ConfigError} (hx : Yields x a found) (f : α → β) :
    Yields (x >>= fun a => pure (f a)) (f a) found := by
  intro errors
  rw [StateT.run_bind, hx errors]
  rfl

/-- What is made of the elements of a list are the things made of them one by one. -/
theorem Yields.mapM {f : α → Compiling β} {g : α → β} {found : α → List ConfigError} (as : List α)
    (h : ∀ a, Yields (f a) (g a) (found a)) : Yields (as.mapM f) (as.map g) (as.flatMap found) := by
  induction as with
  | nil => exact yields_pure []
  | cons a as ih =>
    rw [List.mapM_cons, List.flatMap_cons, List.map_cons]
    exact (h a).bind (ih.bind_pure (g a :: ·))

end Yields

/-! ### Patterns -/

namespace Config

/-- The patterns of a configuration with the options of their rules, in the order in which they are made ready. -/
def patterns (c : Config) : List (String × RuleOptions) :=
  ((c.rules.flatMap fun r => r.pattern.toList.map (·, r.options)) ++
      c.groups.flatMap fun g => g.patterns.map (·, g.options)) ++
    [c.spam.standard, c.spam.vip].flatMap fun p =>
      (p.exceptions ++ p.emote.exceptions).flatMap fun e => e.pattern.toList.map (·, e.options)

end Config

namespace Matcher

/-- The problem of a pattern, if it cannot be used. -/
def patternError? (p : String × RuleOptions) : Option ConfigError :=
  match compile p.1 p.2 with
  | .ok _ => none
  | .error fault => some (.invalidPattern p.1 fault)

theorem error?_of_compile {source : String} {options : RuleOptions} {m : Matcher} (h : compile source options = .ok m) :
    m.error? = none := by
  unfold compile at h
  split at h
  · contradiction
  · obtain ⟨flags, -, h⟩ := Config.bind_eq_ok h
    split at h
    · obtain rfl := Except.ok.inj h
      rfl
    · contradiction

theorem error?_ofPattern (source : String) (options : RuleOptions) :
    (ofPattern source options).error? = patternError? (source, options) := by
  unfold ofPattern patternError?
  cases h : compile source options with
  | ok m => exact error?_of_compile h
  | error fault => rfl

theorem yields_build (source : String) (options : RuleOptions) :
    Yields (build source options) (ofPattern source options) ([(source, options)].filterMap patternError?) := by
  intro errors
  rw [build, List.filterMap_cons, List.filterMap_nil, ← error?_ofPattern]
  cases (ofPattern source options).error? with
  | none => exact congrArg (_, ·) (List.append_nil errors).symm
  | some problem => rfl

theorem ofEntry_some (source : String) (words : List String) (options : RuleOptions) :
    ofEntry (some source) words options = ofPattern source options :=
  congrArg Prod.fst (yields_build source options).run_nil

theorem yields_buildEntry (pattern : Option String) (words : List String) (options : RuleOptions) :
    Yields (buildEntry pattern words options) (ofEntry pattern words options)
      ((pattern.toList.map (·, options)).filterMap patternError?) := by
  cases pattern with
  | none => exact yields_pure _
  | some source =>
    rw [ofEntry_some]
    exact yields_build source options

end Matcher

/-! ### Rules, groups and policies -/

section Parts

variable (r : RuleEntry) (g : GroupEntry) (e : ExceptionEntry) (p : SpamProfile)

theorem RuleEntry.compile_eq :
    r.compile = ⟨r.name, r.options, [.ofEntry r.pattern r.words r.options], r.punishments, resetWindow r.resetSeconds⟩ :=
  rfl

theorem RuleEntry.yields_build :
    Yields r.build r.compile ((r.pattern.toList.map (·, r.options)).filterMap Matcher.patternError?) :=
  (Matcher.yields_buildEntry r.pattern r.words r.options).bind_pure _

theorem ExceptionEntry.yields_build :
    Yields e.build e.compile ((e.pattern.toList.map (·, e.options)).filterMap Matcher.patternError?) :=
  (Matcher.yields_buildEntry e.pattern e.words e.options).bind_pure _

/-- The patterns of a group are made ready one by one. -/
theorem GroupEntry.yields_mapM :
    Yields (g.patterns.mapM (Matcher.build · g.options)) (g.patterns.map (Matcher.ofPattern · g.options))
      ((g.patterns.map (·, g.options)).filterMap Matcher.patternError?) := by
  have h := Yields.mapM g.patterns fun source => Matcher.yields_build source g.options
  rwa [← List.filterMap_flatMap, ← List.map_eq_flatMap] at h

/-- A group has a matcher for each word and then one for each pattern. -/
theorem GroupEntry.compile_eq :
    g.compile = ⟨g.name, g.options, (g.words.map fun word => Matcher.ofWords [word] g.options) ++
      g.patterns.map fun source => Matcher.ofPattern source g.options, g.punishments, resetWindow g.resetSeconds⟩ :=
  congrArg Prod.fst (g.yields_mapM.bind_pure fun patterns =>
    (⟨g.name, g.options, (g.words.map fun word => Matcher.ofWords [word] g.options) ++ patterns, g.punishments,
      resetWindow g.resetSeconds⟩ : Rule)).run_nil

theorem GroupEntry.yields_build :
    Yields g.build g.compile ((g.patterns.map (·, g.options)).filterMap Matcher.patternError?) := by
  rw [compile_eq]
  exact g.yields_mapM.bind_pure _

/-- The exceptions for text and those for emotes are made ready one after the other. -/
theorem SpamProfile.yields_build_eq :
    Yields p.build ⟨p, p.exceptions.map ExceptionEntry.compile, p.emote.exceptions.map ExceptionEntry.compile⟩
      (((p.exceptions ++ p.emote.exceptions).flatMap fun e =>
        e.pattern.toList.map (·, e.options)).filterMap Matcher.patternError?) := by
  rw [List.flatMap_append, List.filterMap_append, List.filterMap_flatMap, List.filterMap_flatMap]
  exact (Yields.mapM p.exceptions ExceptionEntry.yields_build).bind
    ((Yields.mapM p.emote.exceptions ExceptionEntry.yields_build).bind_pure _)

theorem SpamProfile.compile_eq :
    p.compile = ⟨p, p.exceptions.map ExceptionEntry.compile, p.emote.exceptions.map ExceptionEntry.compile⟩ :=
  congrArg Prod.fst p.yields_build_eq.run_nil

theorem SpamProfile.yields_build :
    Yields p.build p.compile (((p.exceptions ++ p.emote.exceptions).flatMap fun e =>
      e.pattern.toList.map (·, e.options)).filterMap Matcher.patternError?) := by
  rw [compile_eq]
  exact p.yields_build_eq

end Parts

/-! ### Configurations -/

namespace Snapshot

/-- The snapshot whose parts are those of a configuration, made ready one by one. -/
def ofParts (c : Config) : Snapshot where
  config := c
  whitelist := (c.whitelist.map fun login => Text.lowercase (Text.trim login)).filter (!·.isEmpty)
  bannedTokens := (normalizedPhrases c.bannedWords).filter (!isPhrase ·)
  bannedPhrases := (normalizedPhrases c.bannedWords).filter isPhrase
  promoPhrases := normalizedPhrases c.advertising.promoPhrases
  rules := c.rules.map RuleEntry.compile ++ c.groups.map GroupEntry.compile
  standardProfile := c.spam.standard.compile
  vipProfile := c.spam.vip.compile

theorem yields_build (c : Config) :
    Yields (build c) (ofParts c) (c.patterns.filterMap Matcher.patternError?) := by
  have hrules := Yields.mapM c.rules RuleEntry.yields_build
  have hgroups := Yields.mapM c.groups GroupEntry.yields_build
  have hprofiles : (([c.spam.standard, c.spam.vip].flatMap fun p =>
      (p.exceptions ++ p.emote.exceptions).flatMap fun e =>
        e.pattern.toList.map (·, e.options)).filterMap Matcher.patternError?) =
      ((c.spam.standard.exceptions ++ c.spam.standard.emote.exceptions).flatMap fun e =>
        e.pattern.toList.map (·, e.options)).filterMap Matcher.patternError? ++
      ((c.spam.vip.exceptions ++ c.spam.vip.emote.exceptions).flatMap fun e =>
        e.pattern.toList.map (·, e.options)).filterMap Matcher.patternError? := by
    rw [List.flatMap_cons, List.flatMap_singleton, List.filterMap_append]
  rw [Config.patterns, List.filterMap_append, List.filterMap_append, hprofiles, List.filterMap_flatMap,
    List.filterMap_flatMap, List.append_assoc]
  exact hrules.bind (hgroups.bind (c.spam.standard.yields_build.bind (c.spam.vip.yields_build.bind_pure _)))

theorem compile_eq (c : Config) : compile c = ofParts c := congrArg Prod.fst (yields_build c).run_nil

theorem rules_compile (c : Config) :
    (compile c).rules = c.rules.map RuleEntry.compile ++ c.groups.map GroupEntry.compile :=
  congrArg Snapshot.rules (compile_eq c)

theorem standardProfile_compile (c : Config) : (compile c).standardProfile = c.spam.standard.compile :=
  congrArg Snapshot.standardProfile (compile_eq c)

theorem vipProfile_compile (c : Config) : (compile c).vipProfile = c.spam.vip.compile :=
  congrArg Snapshot.vipProfile (compile_eq c)

/-- The problems are those of the patterns that cannot be used, in their order. -/
theorem errors_eq (c : Config) : errors c = c.patterns.filterMap Matcher.patternError? :=
  congrArg Prod.snd (yields_build c).run_nil

end Snapshot

end ChatModeration
