import ChatModeration.Config.Manager
import ChatModeration.Proofs.Config.Compilation
import ChatModeration.Proofs.Config.Files

/-!
# What is published

A manager takes a configuration over (`TakesOver`) if it is valid and could be read from its file, or written where it
is saved.  Then the file holds the configuration, and its snapshot is published and announced once, with the number of
patterns that cannot be used.  All other operations leave what is published as it is, and those that fail leave the
files as they are (`Step.orderly`).  So whatever happens to a manager and its directory, the snapshot of the
configuration that was taken over last is published, and before that the standard one (`published_of_run`).

A start that has taken a configuration over still fails if the directory cannot be watched; this is the only failure
after which something else is published.
-/

namespace ChatModeration

/-! ### Patterns -/

/-- The number of patterns of a configuration that cannot be used. -/
def Config.unusablePatterns (c : Config) : Nat := c.patterns.countP fun p => !(Matcher.compile p.1 p.2).isOk

theorem Snapshot.length_errors (c : Config) : (errors c).length = c.unusablePatterns := by
  rw [errors_eq, List.length_filterMap_eq_countP, Config.unusablePatterns]
  congr 1
  funext p
  unfold Matcher.patternError?
  cases Matcher.compile p.1 p.2 <;> rfl

/-- Whether a failure is that the directory cannot be watched. -/
def LoadError.isWatchFault : LoadError → Bool
  | notWatched _ => true
  | _ => false

namespace ConfigManager

/-! ### Operations -/

/-- What happens to a manager or around it. -/
inductive Operation where
  /-- The manager starts, and the directory can be watched unless there is a fault. -/
  | start (watchFault : Option String)
  | save (c : Config)
  /-- The manager is told that a file has changed. -/
  | reload (file : String)
  /-- Somebody else changes the directory and its files, in whatever way. -/
  | outside (directory : Directory)

namespace Operation

/-- The file that an operation takes a configuration from, or writes it to. -/
def file : Operation → String
  | reload file => file
  | _ => fileName

/-- Whether somebody waits for the result. -/
def isAwaited : Operation → Bool
  | start _ | save _ => true
  | reload _ | outside _ => false

/-- How an operation ends that has taken a configuration over. -/
def ending : Operation → Except LoadError Unit
  | start (some reason) => .error (.notWatched reason)
  | _ => .ok ()

end Operation

/-- What an operation does. -/
def perform (m : ConfigManager) : Operation → ConfigOutcome
  | .start watchFault => m.start watchFault
  | .save c => m.save c
  | .reload file => m.reload file
  | .outside directory => ⟨{ m with directory }, [], .ok ()⟩

/-- When somebody else writes a file, the directory is another one, and the manager is told. -/
theorem edit_eq_reload {m : ConfigManager} {file : String} {content : FileContent} {d : Directory}
    (h : m.directory.write file content = .ok d) :
    m.edit file content = (m.perform (.outside d)).manager.perform (.reload file) := by
  rw [edit, h]
  rfl

/-- Which configuration an operation takes over. -/
inductive TakesOver (m : ConfigManager) : Operation → Config → Prop
  | found {watchFault : Option String} {d : Directory} {c : Config} (hcreate : m.directory.create = .ok d)
      (hfile : d.has fileName = true) (hoffers : d.Offers fileName c) : TakesOver m (.start watchFault) c
  | standard {watchFault : Option String} {d d' : Directory} (hcreate : m.directory.create = .ok d)
      (hfile : d.has fileName = false) (hsave : d.save fileName .standard = .ok d') :
      TakesOver m (.start watchFault) .standard
  | saved {c : Config} {d : Directory} (hvalid : c.validate = .ok ()) (hsave : m.directory.save fileName c = .ok d) :
      TakesOver m (.save c) c
  | reloaded {file : String} {c : Config} (hwatching : m.isWatching = true) (hfile : isWatched file = true)
      (hoffers : m.directory.Offers file c) : TakesOver m (.reload file) c

variable {m : ConfigManager} {o : Operation} {c : Config}

theorem TakesOver.valid (h : m.TakesOver o c) : c.validate = .ok () := by
  cases h with
  | found _ _ hoffers | reloaded _ _ hoffers =>
    obtain ⟨-, -, -, hvalid⟩ := hoffers
    exact hvalid
  | standard => decide +kernel
  | saved hvalid => exact hvalid

theorem publish_eq (file : String) :
    m.publish file c =
      ⟨{ m with published := .compile c }, [.updated file (Snapshot.errors c).length], .ok ()⟩ :=
  rfl

/-- What a start has done is not undone if the directory cannot be watched. -/
theorem started_publish (file : String) (watchFault : Option String) :
    started file watchFault (m.publish fileName c) =
      ⟨{ m with published := .compile c, isWatching := watchFault.isNone || m.isWatching },
        [.updated fileName (Snapshot.errors c).length, .reloaded [file]], (Operation.start watchFault).ending⟩ := by
  cases watchFault <;> rfl

/-- What is done when a configuration has been taken over: it is in the file, published and announced once. -/
structure Published (m : ConfigManager) (o : Operation) (c : Config) : Prop where
  result : (m.perform o).result = o.ending
  published : (m.perform o).manager.published = .compile c
  changes : ∃ rest, (m.perform o).changes = .updated o.file c.unusablePatterns :: rest ∧
    ∀ change ∈ rest, ∃ files, change = .reloaded files
  holds : (m.perform o).manager.directory.Holds o.file c

/-- What is taken over is published. -/
theorem TakesOver.perform (h : m.TakesOver o c) : Published m o c := by
  cases h with
  | @found watchFault d c hcreate hfile hoffers =>
    have hload := Directory.load_eq_ok_iff.2 hoffers
    have hstart : m.perform (.start watchFault) =
        started fileName watchFault ({ m with directory := d }.publish fileName c) := by
      simp only [ConfigManager.perform, start, hcreate, hasFile, hfile, load, hload, if_true]
    rw [started_publish, Snapshot.length_errors] at hstart
    constructor <;> rw [hstart]
    · exact ⟨_, rfl, List.forall_mem_singleton.2 ⟨_, rfl⟩⟩
    · exact hoffers.holds
  | @standard watchFault d d' hcreate hfile hsave =>
    have hstart : m.perform (.start watchFault) =
        started (fileName ++ " (created default)") watchFault ({ m with directory := d' }.publish fileName .standard) := by
      simp only [ConfigManager.perform, start, hcreate, hasFile, hfile, hsave, Bool.false_eq_true, if_false]
    rw [started_publish, Snapshot.length_errors] at hstart
    constructor <;> rw [hstart]
    · exact ⟨_, rfl, List.forall_mem_singleton.2 ⟨_, rfl⟩⟩
    · exact Directory.holds_of_save hsave
  | @saved c d hvalid hsave =>
    have hsaved : m.perform (.save c) = { m with directory := d }.publish fileName c := by
      simp only [ConfigManager.perform, save, hvalid, hsave]
    rw [publish_eq, Snapshot.length_errors] at hsaved
    constructor <;> rw [hsaved]
    · rfl
    · exact ⟨[], rfl, List.forall_mem_nil _⟩
    · exact Directory.holds_of_save hsave
  | @reloaded file c hwatching hfile hoffers =>
    have hload := Directory.load_eq_ok_iff.2 hoffers
    have hreloaded : m.perform (.reload file) = m.publish file c := by
      simp only [ConfigManager.perform, reload, hwatching, hfile, hload, Bool.and_self, if_true]
    rw [publish_eq, Snapshot.length_errors] at hreloaded
    constructor <;> rw [hreloaded]
    · rfl
    · exact ⟨[], rfl, List.forall_mem_nil _⟩
    · exact hoffers.holds

/-- What is done when nothing is taken over: nothing is published, and either the operation fails and the files stay
what they are, or nobody waits for it. -/
structure Unpublished (m : ConfigManager) (o : Operation) : Prop where
  published : (m.perform o).manager.published = m.published
  silent : ∀ change ∈ (m.perform o).changes, ∃ file e, change = .rejected file e
  awaited : o.isAwaited = true → (m.perform o).changes = [] ∧
    ∃ e, (m.perform o).result = .error e ∧ e.isWatchFault = false
  unawaited : o.isAwaited = false → (m.perform o).result = .ok ()
  files : o.isAwaited = true → ∀ name, (m.perform o).manager.directory.content? name = m.directory.content? name

theorem unpublished_of_failed {n : ConfigManager} {e : LoadError} (hperform : m.perform o = n.failed [] e)
    (hawaited : o.isAwaited = true) (hpublished : n.published = m.published) (he : e.isWatchFault = false)
    (hfiles : ∀ name, n.directory.content? name = m.directory.content? name) : Unpublished m o where
  published := hperform ▸ hpublished
  silent := hperform ▸ List.forall_mem_nil _
  awaited _ := by
    rw [hperform]
    exact ⟨rfl, e, rfl, he⟩
  unawaited h := by
    rw [hawaited] at h
    contradiction
  files _ := hperform ▸ hfiles

theorem isWatchFault_of_load {d : Directory} {name : String} {e : LoadError} (h : d.load name = .error e) :
    e.isWatchFault = false := by
  rcases Directory.of_load_eq_error h with ⟨_, rfl⟩ | rfl | ⟨_, rfl⟩ <;> rfl

theorem isWatchFault_of_save {d : Directory} {name : String} {e : LoadError} (h : d.save name c = .error e) :
    e.isWatchFault = false := by
  obtain ⟨_, rfl⟩ := Directory.of_mapError_eq_error h
  rfl

/-- What is not taken over leaves what is published as it is. -/
theorem perform_of_not_takesOver (h : ∀ c, ¬ m.TakesOver o c) : Unpublished m o := by
  cases o with
  | start watchFault =>
    cases hcreate : m.directory.create with
    | error fault =>
      exact unpublished_of_failed (by rw [perform, start, hcreate]) rfl rfl rfl fun _ => rfl
    | ok d =>
      have hfiles := Directory.content?_create hcreate
      cases hfile : d.has fileName with
      | true =>
        cases hload : d.load fileName with
        | ok c => exact absurd (.found hcreate hfile (Directory.load_eq_ok_iff.1 hload)) (h c)
        | error e =>
          refine unpublished_of_failed (n := { m with directory := d }) ?_ rfl rfl (isWatchFault_of_load hload) hfiles
          simp only [perform, start, hcreate, hasFile, hfile, load, hload, if_true]
      | false =>
        cases hsave : d.save fileName .standard with
        | ok d' => exact absurd (.standard hcreate hfile hsave) (h .standard)
        | error e =>
          refine unpublished_of_failed (n := { m with directory := d }) ?_ rfl rfl (isWatchFault_of_save hsave) hfiles
          simp only [perform, start, hcreate, hasFile, hfile, hsave, Bool.false_eq_true, if_false]
  | save c =>
    cases hvalid : c.validate with
    | error e => exact unpublished_of_failed (by rw [perform, save, hvalid]) rfl rfl rfl fun _ => rfl
    | ok u =>
      cases hsave : m.directory.save fileName c with
      | ok d => exact absurd (.saved hvalid hsave) (h c)
      | error e =>
        refine unpublished_of_failed (n := m) ?_ rfl rfl (isWatchFault_of_save hsave) fun _ => rfl
        simp only [perform, save, hvalid, hsave]
  | reload file =>
    cases hcounts : m.isWatching && isWatched file with
    | false =>
      have hnothing : m.perform (.reload file) = ⟨m, [], .ok ()⟩ := by
        rw [perform, reload, hcounts, if_neg Bool.false_ne_true]
      exact ⟨by rw [hnothing], by rw [hnothing]; exact List.forall_mem_nil _, nofun, fun _ => by rw [hnothing], nofun⟩
    | true =>
      obtain ⟨hwatching, hfile⟩ := Bool.and_eq_true_iff.1 hcounts
      cases hload : m.directory.load file with
      | ok c => exact absurd (.reloaded hwatching hfile (Directory.load_eq_ok_iff.1 hload)) (h c)
      | error e =>
        have hrejected : m.perform (.reload file) = ⟨m, [.rejected file e], .ok ()⟩ := by
          simp only [perform, reload, hcounts, hload, if_true]
        refine ⟨by rw [hrejected], ?_, nofun, fun _ => by rw [hrejected], nofun⟩
        rw [hrejected]
        exact List.forall_mem_singleton.2 ⟨_, _, rfl⟩
  | outside d => exact ⟨rfl, List.forall_mem_nil _, nofun, fun _ => rfl, nofun⟩

/-- A configuration that is not valid is refused. -/
theorem save_of_invalid {e : ConfigError} (h : c.validate = .error e) : m.save c = ⟨m, [], .error (.invalid e)⟩ := by
  rw [save, h]
  rfl

/-- A file that counts and cannot be loaded is rejected. -/
theorem reload_of_error {file : String} {e : LoadError} (hwatching : m.isWatching = true)
    (hfile : isWatched file = true) (h : m.directory.load file = .error e) :
    m.reload file = ⟨m, [.rejected file e], .ok ()⟩ := by
  simp only [reload, hwatching, hfile, h, Bool.and_self, if_true]

/-! ### Steps -/

/-- An operation and the manager that it meets. -/
structure Step where
  before : ConfigManager
  operation : Operation

namespace Step

/-- What the operation does. -/
def outcome (s : Step) : ConfigOutcome := s.before.perform s.operation

/-- Whether the operation takes a configuration over. -/
def TakesOver (s : Step) (c : Config) : Prop := s.before.TakesOver s.operation c

/-- The publications that are announced. -/
def updates (s : Step) : List ConfigChange := s.outcome.changes.filter fun change => change matches .updated ..

/-- The rejections that are announced. -/
def rejections (s : Step) : List ConfigChange := s.outcome.changes.filter fun change => change matches .rejected ..

/-- How an operation may go. -/
structure Orderly (s : Step) : Prop where
  /-- What is taken over is in the file, published, and announced once with the number of its unusable patterns; then
  nothing fails but the watching of the directory. -/
  taken : ∀ c, s.TakesOver c → c.validate = .ok () ∧ s.outcome.result = s.operation.ending ∧
    s.outcome.manager.published = .compile c ∧ s.updates = [.updated s.operation.file c.unusablePatterns] ∧
    s.rejections = [] ∧ s.outcome.manager.directory.Holds s.operation.file c
  /-- Where nothing is taken over, nothing is published. -/
  kept : (∀ c, ¬ s.TakesOver c) → s.outcome.manager.published = s.before.published ∧ s.updates = []
  /-- An operation that somebody waits for ends well only if it takes something over. -/
  succeeded : s.operation.isAwaited = true → s.outcome.result = .ok () → ∃ c, s.TakesOver c
  /-- What fails takes nothing over, announces nothing and leaves all files as they are. -/
  failed : ∀ e, s.outcome.result = .error e → e.isWatchFault = false →
    (∀ c, ¬ s.TakesOver c) ∧ s.outcome.changes = [] ∧ s.outcome.manager.published = s.before.published ∧
      ∀ name, s.outcome.manager.directory.content? name = s.before.directory.content? name
  /-- Only a start that has taken a configuration over fails because the directory cannot be watched. -/
  unwatched : ∀ e, s.outcome.result = .error e → e.isWatchFault = true →
    (∃ c, s.TakesOver c) ∧ ∃ reason, e = .notWatched reason ∧ s.operation = .start (some reason)
  /-- A configuration that is not valid is refused, and nothing changes, nor does the file. -/
  refused : ∀ c e, s.operation = .save c → c.validate = .error e →
    s.outcome = ⟨s.before, [], .error (.invalid e)⟩
  /-- A changed file that cannot be loaded is rejected once, and nothing changes. -/
  rejected : ∀ file e, s.operation = .reload file → s.before.isWatching = true → isWatched file = true →
    s.before.directory.load file = .error e → s.outcome = ⟨s.before, [.rejected file e], .ok ()⟩

/-- An operation fails either with nothing taken over, or because the directory cannot be watched. -/
theorem result_cases {s : Step} {e : LoadError} (h : s.outcome.result = .error e) :
    ((∀ c, ¬ s.TakesOver c) ∧ s.operation.isAwaited = true ∧ e.isWatchFault = false) ∨
      ((∃ c, s.TakesOver c) ∧ ∃ reason, e = .notWatched reason ∧ s.operation = .start (some reason)) := by
  by_cases htaken : ∃ c, s.TakesOver c
  · obtain ⟨c, hc⟩ := htaken
    refine .inr ⟨⟨c, hc⟩, ?_⟩
    have hending : s.operation.ending = .error e := (ConfigManager.TakesOver.perform hc).result.symm.trans h
    unfold Operation.ending at hending
    split at hending
    · next reason hstart => exact ⟨reason, (Except.error.inj hending).symm, hstart⟩
    · cases hending
  · have hnone := perform_of_not_takesOver (not_exists.1 htaken)
    cases hawaited : s.operation.isAwaited with
    | true =>
      obtain ⟨-, e', he', hfault⟩ := hnone.awaited hawaited
      obtain rfl : e' = e := Except.error.inj (he'.symm.trans h)
      exact .inl ⟨not_exists.1 htaken, rfl, hfault⟩
    | false => cases (hnone.unawaited hawaited).symm.trans h

theorem orderly (s : Step) : s.Orderly where
  taken c h := by
    have hpublished := ConfigManager.TakesOver.perform h
    obtain ⟨rest, hchanges, hrest⟩ := hpublished.changes
    have hsilent : ∀ change ∈ rest, ¬ (change matches .updated ..) ∧ ¬ (change matches .rejected ..) := by
      intro change hm
      obtain ⟨files, rfl⟩ := hrest change hm
      exact ⟨Bool.false_ne_true, Bool.false_ne_true⟩
    refine ⟨ConfigManager.TakesOver.valid h, hpublished.result, hpublished.published, ?_, ?_, hpublished.holds⟩
    · rw [updates, outcome, hchanges, List.filter_cons_of_pos rfl,
        List.filter_eq_nil_iff.2 fun change hm => (hsilent change hm).1]
    · rw [rejections, outcome, hchanges, List.filter_cons_of_neg Bool.false_ne_true,
        List.filter_eq_nil_iff.2 fun change hm => (hsilent change hm).2]
  kept h := by
    have hnone := perform_of_not_takesOver h
    refine ⟨hnone.published, List.filter_eq_nil_iff.2 fun change hm => ?_⟩
    obtain ⟨file, e, rfl⟩ := hnone.silent change hm
    exact Bool.false_ne_true
  succeeded hawaited hresult := by
    by_contra hnone
    obtain ⟨-, e, he, -⟩ := (perform_of_not_takesOver (not_exists.1 hnone)).awaited hawaited
    cases hresult.symm.trans he
  failed e he hfault := by
    rcases result_cases he with ⟨hnone, hawaited, -⟩ | ⟨-, reason, rfl, -⟩
    · have hunpublished := perform_of_not_takesOver hnone
      exact ⟨hnone, (hunpublished.awaited hawaited).1, hunpublished.published, hunpublished.files hawaited⟩
    · contradiction
  unwatched e he hfault := by
    rcases result_cases he with ⟨-, -, hfault'⟩ | hwatch
    · cases hfault.symm.trans hfault'
    · exact hwatch
  refused c e hoperation hvalid := by
    rw [outcome, hoperation]
    exact save_of_invalid hvalid
  rejected file e hoperation hwatching hfile hload := by
    rw [outcome, hoperation]
    exact reload_of_error hwatching hfile hload

end Step

/-! ### Runs -/

/-- The manager after some operations. -/
def run (m : ConfigManager) : List Operation → ConfigManager
  | [] => m
  | o :: os => (m.perform o).manager.run os

/-- The steps of a run. -/
def steps (m : ConfigManager) : List Operation → List Step
  | [] => []
  | o :: os => ⟨m, o⟩ :: (m.perform o).manager.steps os

/-- Whether a configuration is the one that has been taken over last. -/
def TakenLast (steps : List Step) (c : Config) : Prop :=
  ∃ earlier s later, steps = earlier ++ s :: later ∧ s.TakesOver c ∧ ∀ t ∈ later, ∀ c, ¬ t.TakesOver c

/-- What is published after a run: what has been taken over last, or what has been published before. -/
theorem published_run (m : ConfigManager) (os : List Operation) :
    (∃ c, TakenLast (m.steps os) c ∧ (m.run os).published = .compile c) ∨
      ((∀ s ∈ m.steps os, ∀ c, ¬ s.TakesOver c) ∧ (m.run os).published = m.published) := by
  induction os generalizing m with
  | nil => exact .inr ⟨List.forall_mem_nil _, rfl⟩
  | cons o os ih =>
    let first : Step := ⟨m, o⟩
    rcases ih (m.perform o).manager with ⟨c, ⟨earlier, s, later, hsteps, hs, hlater⟩, hpublished⟩ |
      ⟨hnone, hpublished⟩
    · exact .inl ⟨c, ⟨first :: earlier, s, later, congrArg (first :: ·) hsteps, hs, hlater⟩, hpublished⟩
    · by_cases hfirst : ∃ c, first.TakesOver c
      · obtain ⟨c, hc⟩ := hfirst
        exact .inl ⟨c, ⟨[], first, _, rfl, hc, hnone⟩, hpublished.trans (first.orderly.taken c hc).2.2.1⟩
      · have hfirst : ∀ c, ¬ first.TakesOver c := not_exists.1 hfirst
        exact .inr ⟨List.forall_mem_cons.2 ⟨hfirst, hnone⟩, hpublished.trans (first.orderly.kept hfirst).1⟩

/--
Whatever is done with a manager and its directory, each step is orderly, and the snapshot of the configuration that has
been taken over last is published, or that of the standard configuration as long as none has been.
-/
theorem published_of_run (d : Directory) (os : List Operation) :
    (∀ s ∈ (ofDirectory d).steps os, s.Orderly) ∧
      ∃ c : Config, c.validate = .ok () ∧ ((ofDirectory d).run os).published = .compile c ∧
        (TakenLast ((ofDirectory d).steps os) c ∨
          ((∀ s ∈ (ofDirectory d).steps os, ∀ c, ¬ s.TakesOver c) ∧ c = .standard)) := by
  refine ⟨fun s _ => s.orderly, ?_⟩
  rcases published_run (ofDirectory d) os with ⟨c, hlast, hpublished⟩ | ⟨hnone, hpublished⟩
  · have ⟨_, s, _, _, hs, _⟩ := hlast
    exact ⟨c, (s.orderly.taken c hs).1, hpublished, .inl hlast⟩
  · exact ⟨.standard, by decide +kernel, hpublished, .inr ⟨hnone, rfl⟩⟩

end ConfigManager

end ChatModeration
