import ChatModeration.Proofs.Ingestion.Staffing

/-!
# Connecting again and again

Attempts follow one another until the program stops, and each of them goes to the address that the one before asks for
(`Reconnecting`).  Whenever a connection is made, the connections before it are closed and all their workers are gone,
but for those that were left behind when the start of another worker failed (`reconnecting_run`).
-/

namespace ChatModeration.Ingestion

/-! ### Milestones -/

theorem relieved_nil : Relieved [] := fun before generation after h => by simp at h

theorem Relieved.append {effects others : List Effect} (h : Relieved effects) (h' : Relieved others) :
    Relieved (effects ++ others) := by
  intro before generation after heq
  rcases List.append_eq_append_iff.1 heq with ⟨between, -, hothers⟩ | ⟨between, heffects, hrest⟩
  · exact h' between generation after hothers
  · cases between with
    | nil => exact h' [] generation after hrest.symm
    | cons e between =>
      obtain ⟨rfl, rfl⟩ := List.cons.inj hrest
      exact List.mem_append_left others (h before generation between heffects)

theorem Relieved.cons {e : Effect} {effects : List Effect} (h : Relieved effects)
    (he : ∀ generation, e = .startWorkers generation → .joinWorkers generation ∈ effects) :
    Relieved (e :: effects) := by
  intro before generation after heq
  cases before with
  | nil =>
    obtain ⟨rfl, rfl⟩ := List.cons.inj heq
    exact he generation rfl
  | cons e' before => exact h before generation after (List.cons.inj heq).2

theorem relieved_of_filter {effects : List Effect} (h : Relieved (effects.filter Effect.isMilestone)) :
    Relieved effects := by
  rintro before generation after rfl
  have hm := h (before.filter Effect.isMilestone) generation (after.filter Effect.isMilestone) (by
    rw [List.filter_append, List.filter_cons]
    rfl)
  exact (List.mem_filter.1 hm).1

theorem Generation.relieved_milestones (g : Generation) : Relieved g.milestones := by
  rw [milestones]
  cases g.attempt.connecting with
  | established =>
    have hend : Relieved [.close, .joinWorkers g.number] := (relieved_nil.cons (by simp)).cons (by simp)
    exact (hend.cons (by simp)).cons (by simp)
  | unstaffed => exact ((relieved_nil.cons (by simp)).cons (by simp)).cons (by simp)
  | failed | interrupted => exact relieved_nil.cons (by simp)

/-- An attempt begins with its connection, and makes no other. -/
theorem Generation.eq_nil_of_milestones_eq {g : Generation} {before after : List Effect} {url : String}
    (h : g.milestones = before ++ .connect url :: after) : before = [] := by
  rw [milestones] at h
  cases before with
  | nil => rfl
  | cons e before =>
    have hm : Effect.connect url ∈ before ++ Effect.connect url :: after :=
      List.mem_append_right before List.mem_cons_self
    have htail : _ = before ++ Effect.connect url :: after := (List.cons.inj h).2
    rw [← htail] at hm
    cases hc : g.attempt.connecting <;> simp [hc] at hm

theorem relieved_flatMap_milestones (gs : List Generation) : Relieved (gs.flatMap Generation.milestones) := by
  induction gs with
  | nil => exact relieved_nil
  | cons g gs ih => exact g.relieved_milestones.append ih

/-- When a connection is made, the workers of those before have finished. -/
theorem relieved_of_connect {gs : List Generation} {before after : List Effect} {url : String}
    (h : gs.flatMap Generation.milestones = before ++ .connect url :: after) : Relieved before := by
  induction gs generalizing before with
  | nil => simp at h
  | cons g gs ih =>
    rw [List.flatMap_cons] at h
    -- the connection is that of a later attempt, or of this one, which begins with it
    rcases List.append_eq_append_iff.1 h with ⟨between, rfl, hrest⟩ | ⟨between, hmilestones, hrest⟩
    · exact g.relieved_milestones.append (ih hrest)
    · cases between with
      | nil =>
        rw [List.append_nil] at hmilestones
        exact hmilestones ▸ g.relieved_milestones
      | cons e between =>
        obtain ⟨rfl, -⟩ := List.cons.inj hrest
        rw [g.eq_nil_of_milestones_eq hmilestones]
        exact relieved_nil

theorem relieved_before_connect {gs : List Generation} {effects before after : List Effect} {url : String}
    (h : effects.filter Effect.isMilestone = gs.flatMap Generation.milestones)
    (hsplit : effects = before ++ .connect url :: after) : Relieved before := by
  have hbefore : gs.flatMap Generation.milestones =
      before.filter Effect.isMilestone ++ .connect url :: after.filter Effect.isMilestone := by
    rw [← h, hsplit, List.filter_append, List.filter_cons]
    rfl
  exact relieved_of_filter (relieved_of_connect hbefore)

/-- An attempt starts workers at most once, and for a connection with its own number. -/
theorem Generation.filterMap_staffed_milestones (g : Generation) :
    (g.milestones.filterMap Effect.staffed?).Sublist [g.number] := by
  rw [milestones]
  cases g.attempt.connecting with
  | established | unstaffed => exact .refl _
  | failed | interrupted => exact List.nil_sublist _

theorem filterMap_staffed_flatMap_milestones (gs : List Generation) :
    ((gs.flatMap Generation.milestones).filterMap Effect.staffed?).Sublist (gs.map (·.number)) := by
  induction gs with
  | nil => exact .refl _
  | cons g gs ih =>
    rw [List.flatMap_cons, List.filterMap_append, List.map_cons]
    exact g.filterMap_staffed_milestones.append ih

theorem filterMap_staffed_filter (effects : List Effect) :
    (effects.filter Effect.isMilestone).filterMap Effect.staffed? = effects.filterMap Effect.staffed? := by
  rw [List.filterMap_filter]
  refine List.filterMap_congr fun e _ => ?_
  cases e <;> rfl

/-- Attempts with different numbers do not start workers for the same connection. -/
theorem nodup_staffed {gs : List Generation} {effects : List Effect}
    (h : effects.filter Effect.isMilestone = gs.flatMap Generation.milestones) (hnumbers : (gs.map (·.number)).Nodup) :
    (effects.filterMap Effect.staffed?).Nodup := by
  rw [← filterMap_staffed_filter, h]
  exact hnumbers.sublist (filterMap_staffed_flatMap_milestones gs)

/-! ### Workers that are left behind -/

/-- Whether an attempt has left a pool behind: the start of a worker has failed, and the pool consists of those before
it, which never have a message. -/
def Generation.Leaves (g : Generation) (p : WorkerPool ChatMessage) : Prop :=
  g.number = p.generation ∧ g.attempt.connecting = .unstaffed p.workers.length ∧ p.IsAbandoned

theorem Generation.of_startFails_mem_milestones {g : Generation} {generation started : Nat}
    (h : .startFails generation started ∈ g.milestones) :
    g.number = generation ∧ g.attempt.connecting = .unstaffed started := by
  rw [milestones] at h
  cases hc : g.attempt.connecting with
  | unstaffed n =>
    simp only [hc, List.mem_cons, Effect.startFails.injEq, reduceCtorEq, List.not_mem_nil, false_or, or_false] at h
    exact ⟨h.1.symm, h.2 ▸ rfl⟩
  | established | failed | interrupted => simp [hc] at h

theorem LeftBehind.exists_leaves {gs : List Generation} {effects : List Effect} {p : WorkerPool ChatMessage}
    (h : effects.filter Effect.isMilestone = gs.flatMap Generation.milestones) (hp : LeftBehind effects p) :
    ∃ g ∈ gs, g.Leaves p := by
  have hm : .startFails p.generation p.workers.length ∈ gs.flatMap Generation.milestones :=
    h ▸ List.mem_filter.2 ⟨hp.1, rfl⟩
  obtain ⟨g, hg, hfails⟩ := List.mem_flatMap.1 hm
  obtain ⟨hnumber, hconnecting⟩ := Generation.of_startFails_mem_milestones hfails
  exact ⟨g, hg, hnumber, hconnecting, hp.2⟩

/-! ### Runs -/

/-- The state of the connection after some effects is the one that has been announced last. -/
theorem connection_of_announce (effects : List Effect) (state : ConnectionState) (s : Station) :
    ((effects ++ [Effect.announce state]).foldl (fun (s : Station) e => (s.apply e).1) s).connection = state := by
  rw [List.foldl_append]
  rfl

/-- What is true of all attempts to connect, by number, address, upkeep and end. -/
structure Reconnecting (defaultUrl : String) (attempts : List Attempt) (effects : List Effect) (last : Nat)
    (gs : List Generation) : Prop where
  /-- Nothing is done besides the attempts, and in the end the connection is closed. -/
  effects_eq : effects = gs.flatMap Generation.effects ++ [.announce .closed]
  closed : ∀ s : Station, (effects.foldl (fun s e => (s.apply e).1) s).connection = .closed
  attempts_eq : gs.map (·.attempt) = started attempts
  numbers_eq : gs.map (·.number) = List.range' 1 gs.length
  last_eq : last = gs.length
  first : ∀ g, gs.head? = some g → g.url = defaultUrl
  /-- The address that the feed has asked to connect to is used for the next attempt. -/
  requested : ∀ i g g' a url, gs[i]? = some g → gs[i + 1]? = some g' → a ∈ g.attempt.outcome.1 →
    a.event? = some (.reconnect (some url)) → g'.url = url
  otherwise : ∀ i g g', gs[i]? = some g → gs[i + 1]? = some g' →
    (∀ a ∈ g.attempt.outcome.1, ∀ url, a.event? ≠ some (.reconnect (some url))) → g'.url = defaultUrl
  /-- A connection that is made is closed once, after which its workers finish if all of them could be started. -/
  milestones : effects.filter Effect.isMilestone = gs.flatMap Generation.milestones
  staffed : ∃ pools, Staffed effects pools
  /-- When a connection is made, the workers of those before are gone, unless not all of them could be started. -/
  relieved : ∀ before url after pools, effects = before ++ .connect url :: after → Staffed before pools →
    ∀ p ∈ pools, p.IsOver ∨ ∃ g ∈ gs, g.Leaves p
  gone : ∀ pools, Staffed effects pools → ∀ p ∈ pools, p.IsOver ∨ ∃ g ∈ gs, g.Leaves p

theorem reconnecting (defaultUrl : String) (attempts : List Attempt) :
    Reconnecting defaultUrl attempts (run defaultUrl none 0 attempts).1 (run defaultUrl none 0 attempts).2
      (generations defaultUrl none 0 attempts) := by
  have hmilestones := filter_isMilestone_run defaultUrl none 0 attempts
  have hrelieved : Relieved (run defaultUrl none 0 attempts).1 :=
    relieved_of_filter (hmilestones ▸ relieved_flatMap_milestones _)
  have hattempts : (generations defaultUrl none 0 attempts).map (·.attempt) = started attempts :=
    map_attempt_generations attempts
  have hlength : (started attempts).length = (generations defaultUrl none 0 attempts).length := by
    rw [← hattempts, List.length_map]
  have hnumbers : (generations defaultUrl none 0 attempts).map (·.number) =
      List.range' 1 (generations defaultUrl none 0 attempts).length := by
    rw [map_number_generations, hlength]
  have hnodup : ((run defaultUrl none 0 attempts).1.filterMap Effect.staffed?).Nodup :=
    nodup_staffed hmilestones (hnumbers ▸ List.nodup_range')
  obtain ⟨pools, hpools⟩ := exists_staffed (generations defaultUrl none 0 attempts)
  constructor
  case effects_eq => rw [run_eq]
  case closed => exact fun s => by rw [run_eq, connection_of_announce]
  case attempts_eq => exact hattempts
  case numbers_eq => exact hnumbers
  case last_eq => rw [run_eq, hlength, Nat.zero_add]
  case first => exact fun g hg => url_of_head? hg
  case requested => exact fun i g g' a url hg hg' ha hevent => url_of_requested hg hg' ha hevent
  case otherwise => exact fun i g g' hg hg' hnone => url_of_not_requested hg hg' hnone
  case milestones => exact hmilestones
  case staffed => exact ⟨pools, by rw [run_eq]; exact hpools.other rfl⟩
  case relieved =>
    intro before url after ps hsplit h p hp
    have hsettled := h.settled (nodup_of_append (hsplit ▸ hnodup)) (relieved_before_connect hmilestones hsplit) p hp
    refine hsettled.imp_right fun hleft => LeftBehind.exists_leaves hmilestones ?_
    rw [hsplit]
    exact hleft.append _
  case gone => exact fun ps h p hp => (h.settled hnodup hrelieved p hp).imp_right (LeftBehind.exists_leaves hmilestones)

/-- After an attempt in which the program stops there is nothing. -/
theorem run_of_stops {defaultUrl : String} {attempts : List Attempt} (h : ∃ a ∈ attempts, a.Stops)
    (more : List Attempt) : run defaultUrl none 0 (attempts ++ more) = run defaultUrl none 0 attempts := by
  have hgenerations : generations defaultUrl none 0 (attempts ++ more) = generations defaultUrl none 0 attempts :=
    generations_of_stops h more
  have hstarted : started (attempts ++ more) = started attempts := by
    have hmap := congrArg (List.map (·.attempt)) hgenerations
    rwa [map_attempt_generations, map_attempt_generations] at hmap
  rw [run_eq, run_eq, hgenerations, hstarted]

/--
In a run attempts follow one another until the program stops.  They are numbered from one on and the number of the last
one is their number; each of them goes to the default address, but for one that follows a request for another address;
a connection that is made is closed once and all its workers are gone before the next one, but for those that are left
behind when not all of them can be started; and in the end the connection is closed.  The run ends only when the program
stops: without that further attempts would follow.
-/
theorem reconnecting_run (defaultUrl : String) (attempts : List Attempt) :
    let r := run defaultUrl none 0 attempts
    let gs := generations defaultUrl none 0 attempts
    Reconnecting defaultUrl attempts r.1 r.2 gs ∧
      ((∃ a ∈ attempts, a.Stops) → ∀ more, run defaultUrl none 0 (attempts ++ more) = r) ∧
      ((∀ a ∈ attempts, ¬ a.Stops) → ∀ more, ∃ later,
        generations defaultUrl none 0 (attempts ++ more) = gs ++ later ∧ later.map (·.attempt) = started more) ∧
      ∀ a ∈ attempts, a.Stops ↔
        a.connecting = .interrupted ∨ ∃ b ∈ a.outcome.1, b = .shutdown ∨ b.abandoned?.isSome :=
  ⟨reconnecting defaultUrl attempts, fun hstops more => run_of_stops hstops more,
    fun hgoes more => generations_of_not_stops hgoes more, fun _ _ => Attempt.stops_iff⟩

/-- A worker that was started before one that could not be started is still there when the next connection is made. -/
theorem exists_leftBehind_of_unstaffed :
    ∃ before after pools p,
      (run "feed" none 0 [⟨.unstaffed 1, [], false⟩, ⟨.failed, [], false⟩]).1 =
          before ++ .connect "feed" :: after ∧
        .connect "feed" ∈ before ∧ Staffed before pools ∧ p ∈ pools ∧ p.workers = [.checking] ∧ ¬ p.IsOver := by
  have hstaffed : Staffed [.announce .connecting, .connect "feed", .startFails 1 1, .close, .announce .error,
      .announce .connecting] [{ WorkerPool.crew 1 1 1 with isClosed := true }] := by
    have hstart : Staffed ([] ++ [.announce .connecting, .connect "feed"]) [] :=
      Staffed.none.others (by simp [Effect.isStaffing])
    have hleft := hstart.startFails (WorkerPool.launch_fails 1 1 1)
    have hothers : ∀ e ∈ [Effect.close, .announce .error, .announce .connecting], e.isStaffing = false := by
      simp [Effect.isStaffing]
    exact hleft.others hothers
  refine ⟨_, _, _, _, rfl, by simp, hstaffed, List.mem_singleton_self _, rfl, ?_⟩
  rintro ⟨-, hdown⟩
  cases WorkerPool.isDown_iff.1 hdown .checking (by simp [WorkerPool.crew])

end ChatModeration.Ingestion
